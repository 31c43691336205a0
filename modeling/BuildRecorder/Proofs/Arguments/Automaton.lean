import BuildRecorder.Proofs.Arguments.RoundTrip

/-!
# Splitting in one pass

The rules of quoting as a machine that takes one character after the other and never looks ahead:
whatever depends on what follows is kept in its state. It finds the arguments that a scan finds,
which reads runs of backslashes as a whole and looks behind them and behind quotes.
-/

namespace BuildRecorder.Arguments

namespace Automaton

/-- Where an open argument stands to quotes. Behind a quote that was met inside of them it is open
whether that was the end of the region or the first quote of two. -/
inductive Region where
  | outside
  | inside
  | leaving
deriving DecidableEq

/-- The region once it is known that no second quote follows. -/
def Region.settled : Region → Region
  | .inside => .inside
  | _ => .outside

@[simp] theorem Region.settled_settled (region : Region) :
    region.settled.settled = region.settled := by
  cases region <;> rfl

@[simp] theorem Region.settled_eq_inside_iff {region : Region} :
    region.settled = .inside ↔ region = .inside := by
  cases region <;> simp [settled]

/-- An open argument: what it holds, where it stands, and how many backslashes wait for what follows
them. -/
structure Word where
  text : Text := []
  region : Region := .outside
  pending : Nat := 0
deriving DecidableEq

namespace Word

/-- What an argument holds if no quote follows: then its backslashes are literal. -/
def literal (word : Word) : Text := word.text ++ backslashes word.pending

/-- Of the backslashes before a quote half are kept, and the quote as well if their number is odd.
Else it is a delimiter, which opens a region, may end one, or takes that back as the second of two. -/
def takeQuote (word : Word) : Word :=
  let text := word.text ++ backslashes (word.pending / 2)
  if word.pending % 2 = 1 then { text := text ++ [quote], region := word.region }
  else
    match word.region with
    | .outside => { text, region := .inside }
    | .inside => { text, region := .leaving }
    | .leaving => { text := text ++ [quote], region := .inside }

/-- Takes a character into an argument; nothing if the character ends it. -/
def take (word : Word) (c : CodePoint) : Option Word :=
  if c = backslash then
    some { word with region := word.region.settled, pending := word.pending + 1 }
  else if c = quote then some word.takeQuote
  else if isSeparator c ∧ word.region ≠ .inside then none
  else some { text := word.literal ++ [c], region := word.region.settled }

end Word

/-- The arguments that have ended, and the one that is open, if any. -/
structure State where
  ended : List Text := []
  word : Option Word := none
deriving DecidableEq

/-- Between arguments every character opens one, unless it is one that would end it. -/
def step (state : State) (c : CodePoint) : State :=
  match state.word with
  | none => { state with word := Word.take {} c }
  | some word =>
    match word.take c with
    | some word => { state with word := some word }
    | none => { ended := state.ended ++ [word.literal] }

def run (state : State) (t : Text) : State := t.foldl step state

/-- The arguments if nothing follows: an open one ends, even if it is empty. -/
def State.arguments (state : State) : List Text :=
  state.ended ++ (state.word.map Word.literal).toList

@[simp] theorem run_nil (state : State) : run state [] = state := rfl

@[simp] theorem run_cons (state : State) (c : CodePoint) (t : Text) :
    run state (c :: t) = run (step state c) t := rfl

theorem run_text_append (state : State) (t t' : Text) : run state (t ++ t') = run (run state t) t' :=
  List.foldl_append

/-! ## One character -/

section

variable {ended : List Text} {text : Text} {region : Region} {pending : Nat} {c : CodePoint}

@[simp] theorem step_backslash :
    step ⟨ended, some ⟨text, region, pending⟩⟩ backslash =
      ⟨ended, some ⟨text, region.settled, pending + 1⟩⟩ := by
  simp [step, Word.take]

@[simp] theorem step_quote (word : Word) :
    step ⟨ended, some word⟩ quote = ⟨ended, some word.takeQuote⟩ := by
  simp [step, Word.take, quote_ne_backslash]

theorem step_separator (word : Word) (hc : isSeparator c = true) (hregion : word.region ≠ .inside) :
    step ⟨ended, some word⟩ c = ⟨ended ++ [word.literal], none⟩ := by
  obtain ⟨hb, hq⟩ := ne_delimiter_of_isSeparator hc
  simp [step, Word.take, hb, hq, hc, hregion]

theorem step_plain (word : Word) (hb : c ≠ backslash) (hq : c ≠ quote)
    (hc : isSeparator c = true → word.region = .inside) :
    step ⟨ended, some word⟩ c =
      ⟨ended, some { text := word.literal ++ [c], region := word.region.settled }⟩ := by
  have hgo : ¬(isSeparator c = true ∧ word.region ≠ .inside) := by
    rintro ⟨hsep, hregion⟩
    exact hregion (hc hsep)
  simp [step, Word.take, hb, hq, hgo]

theorem step_between_separator (hc : isSeparator c = true) :
    step ⟨ended, none⟩ c = ⟨ended, none⟩ := by
  obtain ⟨hb, hq⟩ := ne_delimiter_of_isSeparator hc
  simp [step, Word.take, hb, hq, hc]

/-- An argument opens with its first character. -/
theorem step_between (hc : isSeparator c = false) :
    step ⟨ended, none⟩ c = step ⟨ended, some {}⟩ c := by
  obtain ⟨word, hword⟩ : ∃ word, Word.take {} c = some word := by
    unfold Word.take
    split
    · exact ⟨_, rfl⟩
    · split
      · exact ⟨_, rfl⟩
      · simp [hc]
  simp [step, hword]

end

/-! ## Runs of backslashes -/

/-- The region of a reader that knows what comes next. -/
def Region.of (quoted : Bool) : Region := if quoted then .inside else .outside

@[simp] theorem Region.settled_of (quoted : Bool) : (Region.of quoted).settled = .of quoted := by
  cases quoted <;> rfl

theorem run_backslashes (ended : List Text) (text : Text) (quoted : Bool) (pending n : Nat)
    (t : Text) :
    run ⟨ended, some ⟨text, .of quoted, pending⟩⟩ (backslashes n ++ t) =
      run ⟨ended, some ⟨text, .of quoted, pending + n⟩⟩ t := by
  induction n generalizing pending with
  | zero => simp
  | succ n ih =>
      rw [backslashes_succ, List.cons_append, run_cons, step_backslash, Region.settled_of, ih,
        Nat.add_assoc, Nat.add_comm 1]

theorem takeQuote_odd {n : Nat} (text : Text) (region : Region) (hn : n % 2 = 1) :
    Word.takeQuote ⟨text, region, n⟩ = ⟨text ++ (backslashes (n / 2) ++ [quote]), region, 0⟩ := by
  simp [Word.takeQuote, hn]

/-- An even run is half as long, and what is left of it is not in the way of the quote. -/
theorem takeQuote_even {n : Nat} (text : Text) (region : Region) (hn : n % 2 ≠ 1) :
    Word.takeQuote ⟨text, region, n⟩ =
      Word.takeQuote ⟨text ++ backslashes (n / 2), region, 0⟩ := by
  simp [Word.takeQuote, hn]

/-- Before any other character than a quote the backslashes are literal, and a region that may have
ended has ended. -/
theorem step_settled (ended : List Text) (word : Word) {c : CodePoint} (hq : c ≠ quote)
    (hpending : c = backslash → word.pending = 0) :
    step ⟨ended, some word⟩ c = step ⟨ended, some ⟨word.literal, word.region.settled, 0⟩⟩ c := by
  by_cases hb : c = backslash
  · obtain ⟨text, region, pending⟩ := word
    obtain rfl : pending = 0 := hpending hb
    simp [hb, Word.literal]
  by_cases hends : isSeparator c = true ∧ word.region ≠ .inside
  · obtain ⟨hc, hregion⟩ := hends
    rw [step_separator word hc hregion, step_separator _ hc (by simpa using hregion)]
    simp [Word.literal]
  · have hgo : isSeparator c = true → word.region = .inside := by simpa using hends
    rw [step_plain word hb hq hgo, step_plain _ hb hq (by simpa using hgo)]
    simp [Word.literal]

theorem arguments_run_settled (ended : List Text) (word : Word) {t : Text}
    (hquote : t.head? ≠ some quote) (hpending : word.pending = 0 ∨ EndsRun t) :
    (run ⟨ended, some word⟩ t).arguments =
      (run ⟨ended, some ⟨word.literal, word.region.settled, 0⟩⟩ t).arguments := by
  cases t with
  | nil => simp [State.arguments, Word.literal]
  | cons c rest =>
      have hq : c ≠ quote := by simpa using hquote
      have hzero : c = backslash → word.pending = 0 := by
        rintro rfl
        exact hpending.resolve_right (by simp [EndsRun])
      rw [run_cons, run_cons, step_settled ended word hq hzero]

/-! ## Whole command lines -/

/-- An argument is read to the place where the machine ends it. -/
theorem arguments_run_word (ended : List Text) (text : Text) (quoted : Bool) (t : Text) :
    (run ⟨ended, some ⟨text, .of quoted, 0⟩⟩ t).arguments =
      (run ⟨ended ++ [text ++ (readArgument quoted t).1], none⟩
        (readArgument quoted t).2).arguments := by
  fun_induction readArgument quoted t generalizing text with
  | case1 quoted => simp [State.arguments, Word.literal]
  | case2 quoted rest hquote hodd ih =>
      obtain ⟨u, hu⟩ := List.head?_eq_some_iff.mp hquote
      rw [cons_backslash_eq, run_backslashes, Nat.zero_add, hu, run_cons, step_quote,
        takeQuote_odd _ _ hodd]
      simpa [hu] using ih (text ++ (backslashes ((backslashRun rest + 1) / 2) ++ [quote]))
  | case3 quoted rest hquote heven ih =>
      obtain ⟨u, hu⟩ := List.head?_eq_some_iff.mp hquote
      rw [cons_backslash_eq, run_backslashes, Nat.zero_add, hu, run_cons, step_quote,
        takeQuote_even _ _ heven, ← step_quote, ← run_cons, ← hu, ih]
      simp
  | case4 quoted rest hquote ih =>
      rw [cons_backslash_eq, run_backslashes, Nat.zero_add,
        arguments_run_settled _ _ hquote (.inr (endsRun_afterBackslashes rest)),
        Region.settled_of, ih]
      simp [Word.literal]
  | case5 quoted rest hdoubled hne ih =>
      obtain ⟨rfl, hquote⟩ : quoted = true ∧ rest.head? = some quote := by simpa using hdoubled
      obtain ⟨u, rfl⟩ := List.head?_eq_some_iff.mp hquote
      rw [run_cons, run_cons, step_quote, step_quote]
      simpa [Word.takeQuote, Region.of] using ih (text ++ [quote])
  | case6 quoted rest hsingle hne ih =>
      rw [run_cons, step_quote, ← ih]
      cases quoted with
      | false => simp [Word.takeQuote, Region.of]
      | true =>
          -- The region may still go on; what comes next tells that it does not.
          rw [arguments_run_settled _ _ (by simpa using hsingle) (.inl rfl)]
          simp [Word.takeQuote, Word.literal, Region.of, Region.settled]
  | case7 quoted c rest hb hq hstop =>
      obtain ⟨rfl, hc⟩ : quoted = false ∧ isSeparator c = true := by simpa using hstop
      rw [run_cons, run_cons, step_separator _ hc (by simp [Region.of]), step_between_separator hc]
      simp [Word.literal]
  | case8 quoted c rest hb hq hgo ih =>
      rw [run_cons, step_plain _ hb hq]
      · simpa [Word.literal] using ih (text ++ [c])
      · intro hc
        have hquoted : quoted = true := by simpa [hc] using hgo
        simp [hquoted, Region.of]

theorem run_separators (ended : List Text) {blanks : Text} (t : Text)
    (h : ∀ c ∈ blanks, isSeparator c = true) :
    run ⟨ended, none⟩ (blanks ++ t) = run ⟨ended, none⟩ t := by
  induction blanks with
  | nil => rfl
  | cons c blanks ih =>
      obtain ⟨hc, hblanks⟩ := List.forall_mem_cons.mp h
      rw [List.cons_append, run_cons, step_between_separator hc, ih hblanks]

/-- The machine finds the arguments that a scan finds, behind those it has found before. -/
theorem arguments_run (ended : List Text) (t : Text) :
    (run ⟨ended, none⟩ t).arguments = ended ++ (scan t).map (·.1) := by
  fun_induction scan t generalizing ended with
  | case1 t hblank =>
      obtain ⟨blanks, heq, hblanks⟩ := exists_separators_append t
      rw [hblank] at heq
      rw [heq, run_separators ended [] hblanks]
      simp [State.arguments]
  | case2 t c rest hrest ih =>
      obtain ⟨blanks, heq, hblanks⟩ := exists_separators_append t
      have hc : isSeparator c = false := by
        have hhead := List.head?_dropWhile_not isSeparator t
        simpa [hrest] using hhead
      have hword := arguments_run_word ended [] false (c :: rest)
      rw [heq, hrest, run_separators ended _ hblanks, run_cons, step_between hc, ← run_cons]
      exact hword.trans ((ih _).trans (by simp))

end Automaton

theorem scan_eq_run (t : Text) : (scan t).map (·.1) = (Automaton.run {} t).arguments :=
  (Automaton.arguments_run [] t).symm

/-- Splitting a command line is one pass over its characters. -/
theorem split_eq_run (line : Text) :
    split line =
      if CodePoint.nul ∈ line then .error (.nul line)
      else .ok (Automaton.run {} line).arguments := by
  rw [split, validate_eq, ← scan_eq_run]
  split <;> rfl

end BuildRecorder.Arguments
