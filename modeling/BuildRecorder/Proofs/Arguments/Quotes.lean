import BuildRecorder.Proofs.Arguments.Automaton

/-!
# Quotes as delimiters

A quote opens or closes a region unless an odd run of backslashes stands before it, so one pass over
a text tells whether it ends inside quotes. Outside them a separator parts a command line: no
argument reaches over it, and what stands on either side is split on its own.

In a line whose quotes neither follow a backslash nor touch each other every quote is a delimiter,
and none is left in an argument.
-/

namespace BuildRecorder.Arguments

/-! ## Inside and outside quotes -/

/-- Whether a text ends inside quotes, if it starts inside them when `quoted`, and behind an odd run
of backslashes when `escaped`. -/
def endsQuotedFrom (quoted escaped : Bool) : Text → Bool
  | [] => quoted
  | c :: rest =>
    if c = backslash then endsQuotedFrom quoted (!escaped) rest
    else if c = quote ∧ escaped = false then endsQuotedFrom (!quoted) false rest
    else endsQuotedFrom quoted false rest

def endsQuoted (t : Text) : Bool := endsQuotedFrom false false t

namespace Automaton

namespace Word

def isQuoted (word : Word) : Bool := word.region = .inside

def isEscaped (word : Word) : Bool := word.pending % 2 = 1

theorem isEscaped_takeQuote (word : Word) : word.takeQuote.isEscaped = false := by
  unfold takeQuote
  split
  · rfl
  · split <;> rfl

theorem isQuoted_takeQuote (word : Word) :
    word.takeQuote.isQuoted = if word.isEscaped then word.isQuoted else !word.isQuoted := by
  obtain ⟨text, region, pending⟩ := word
  by_cases hodd : pending % 2 = 1
  · simp [takeQuote, isQuoted, isEscaped, hodd]
  · cases region <;> simp [takeQuote, isQuoted, isEscaped, hodd]

/-- Only a backslash leaves a run behind. -/
theorem isEscaped_take (word : Word) (c : CodePoint) :
    ((word.take c).getD {}).isEscaped = (decide (c = backslash) && !word.isEscaped) := by
  unfold take
  by_cases hb : c = backslash
  · simp only [hb, if_true, Option.getD_some, isEscaped, decide_true, Bool.true_and, ← decide_not,
      decide_eq_decide]
    omega
  by_cases hq : c = quote
  · simp [hq, isEscaped_takeQuote, quote_ne_backslash]
  by_cases hends : isSeparator c = true ∧ word.region ≠ .inside <;>
    simp [hb, hq, hends, isEscaped]

/-- Only a quote opens or closes a region. -/
theorem isQuoted_take (word : Word) (c : CodePoint) :
    ((word.take c).getD {}).isQuoted =
      if c = quote ∧ word.isEscaped = false then !word.isQuoted else word.isQuoted := by
  unfold take
  by_cases hb : c = backslash
  · simp [hb, isQuoted, quote_ne_backslash.symm]
  by_cases hq : c = quote
  · cases hescaped : word.isEscaped <;>
      simp [hq, hescaped, isQuoted_takeQuote, quote_ne_backslash]
  by_cases hends : isSeparator c = true ∧ word.region ≠ .inside <;>
    simp [hb, hq, hends, isQuoted]

end Word

/-- The argument that is open, or the one that the next character may open. -/
def State.current (state : State) : Word := state.word.getD {}

theorem current_step (state : State) (c : CodePoint) :
    (step state c).current = (state.current.take c).getD {} := by
  obtain ⟨ended, word⟩ := state
  cases word with
  | none => rfl
  | some word =>
      simp only [step, State.current, Option.getD_some]
      cases word.take c <;> rfl

theorem isQuoted_run (state : State) (t : Text) :
    (run state t).current.isQuoted =
      endsQuotedFrom state.current.isQuoted state.current.isEscaped t := by
  induction t generalizing state with
  | nil => rfl
  | cons c rest ih =>
      rw [run_cons, ih, endsQuotedFrom, current_step, Word.isQuoted_take, Word.isEscaped_take]
      by_cases hb : c = backslash
      · simp [hb, quote_ne_backslash.symm]
      · by_cases hq : c = quote ∧ state.current.isEscaped = false
        · simp [hq, quote_ne_backslash]
        · simp [hb, hq]

/-- A separator outside quotes ends the argument that is open. -/
theorem step_of_not_isQuoted {state : State} {c : CodePoint} (hc : isSeparator c = true)
    (hstate : state.current.isQuoted = false) : step state c = ⟨state.arguments, none⟩ := by
  obtain ⟨ended, word⟩ := state
  cases word with
  | none => simp [step_between_separator hc, State.arguments]
  | some word =>
      have hregion : word.region ≠ .inside := of_decide_eq_false hstate
      simp [step_separator word hc hregion, State.arguments]

/-- Separators inside quotes belong to the argument that is open. -/
theorem run_separators_of_isQuoted (ended : List Text) {word : Word} {blanks : Text}
    (hword : word.region = .inside) (hne : blanks ≠ [])
    (hblanks : ∀ c ∈ blanks, isSeparator c = true) :
    run ⟨ended, some word⟩ blanks = ⟨ended, some ⟨word.literal ++ blanks, .inside, 0⟩⟩ := by
  induction blanks generalizing word with
  | nil => exact absurd rfl hne
  | cons c blanks ih =>
      obtain ⟨hc, hrest⟩ := List.forall_mem_cons.mp hblanks
      obtain ⟨hb, hq⟩ := ne_delimiter_of_isSeparator hc
      rw [run_cons, step_plain word hb hq (fun _ => hword), hword]
      cases blanks with
      | nil => rfl
      | cons d blanks =>
          rw [ih rfl (by simp) hrest]
          simp [Word.literal]

end Automaton

/-! ## Command lines side by side -/

theorem endsQuoted_eq_run (t : Text) :
    endsQuoted t = (Automaton.run {} t).current.isQuoted :=
  (Automaton.isQuoted_run {} t).symm

/-- A separator outside quotes parts a command line: its arguments are those in front of it and
those behind it. -/
theorem scan_append_of_separator {front rest : Text} {c : CodePoint} (hc : isSeparator c = true)
    (hfront : endsQuoted front = false) :
    (scan (front ++ c :: rest)).map (·.1) = (scan front).map (·.1) ++ (scan rest).map (·.1) := by
  rw [endsQuoted_eq_run] at hfront
  rw [scan_eq_run, Automaton.run_text_append, Automaton.run_cons,
    Automaton.step_of_not_isQuoted hc hfront, Automaton.arguments_run, ← scan_eq_run]

/-- Behind a separator inside quotes the last argument goes on. -/
theorem scan_append_of_endsQuoted {front : Text} (blanks rest : Text)
    (hfront : endsQuoted front = true) (hne : blanks ≠ [])
    (hblanks : ∀ c ∈ blanks, isSeparator c = true) :
    ∃ ended last more later, (scan front).map (·.1) = ended ++ [last] ∧
      (scan (front ++ (blanks ++ rest))).map (·.1) =
        ended ++ (last ++ blanks ++ more) :: later := by
  rw [endsQuoted_eq_run] at hfront
  obtain ⟨ended, word, hrun, hregion⟩ :
      ∃ ended word, Automaton.run {} front = ⟨ended, some word⟩ ∧ word.region = .inside := by
    cases hrun : Automaton.run {} front with
    | mk ended word =>
      rw [hrun] at hfront
      cases word with
      | none => cases hfront
      | some word => exact ⟨ended, word, rfl, of_decide_eq_true hfront⟩
  refine ⟨ended, word.literal, (readArgument true rest).1,
    (scan (readArgument true rest).2).map (·.1), ?_, ?_⟩
  · rw [scan_eq_run, hrun]
    rfl
  · have hword := Automaton.arguments_run_word ended (word.literal ++ blanks) true rest
    rw [scan_eq_run, Automaton.run_text_append, Automaton.run_text_append, hrun,
      Automaton.run_separators_of_isQuoted ended hregion hne hblanks]
    exact hword.trans ((Automaton.arguments_run _ _).trans (by simp))

/-- What holds neither quotes nor backslashes leaves a text inside or outside quotes. -/
theorem endsQuotedFrom_append {t : Text} (ht : ∀ c ∈ t, c ≠ backslash ∧ c ≠ quote)
    (quoted escaped : Bool) (front : Text) :
    endsQuotedFrom quoted escaped (front ++ t) = endsQuotedFrom quoted escaped front := by
  induction front generalizing quoted escaped with
  | nil =>
      induction t generalizing escaped with
      | nil => rfl
      | cons c rest ih =>
          obtain ⟨⟨hb, hq⟩, hrest⟩ := List.forall_mem_cons.mp ht
          simpa [endsQuotedFrom, hb, hq] using ih hrest false
  | cons c front ih => simp only [List.cons_append, endsQuotedFrom, ih]

/-- No quote is left open at the end of a line: a word behind a blank is an argument of its own. -/
def QuoteClosed (line : Text) : Prop :=
  split (line ++ " x") = (split line).map (· ++ [("x" : Text)])

theorem scan_word : (scan "x").map (·.1) = [("x" : Text)] := by decide +kernel

theorem quoteClosed_iff {line : Text} (h : CodePoint.nul ∉ line) :
    QuoteClosed line ↔ endsQuoted line = false := by
  have hblank : CodePoint.nul ∉ (" x" : Text) := by decide
  have hword : CodePoint.nul ∉ line ++ " x" := by simp [h, hblank]
  rw [QuoteClosed, split_of_nul_notMem h, split_of_nul_notMem hword]
  constructor
  · intro hclosed
    have hscan : (scan (line ++ " x")).map (·.1) = (scan line).map (·.1) ++ [("x" : Text)] :=
      Except.ok.inj hclosed
    cases hquoted : endsQuoted line with
    | false => rfl
    | true =>
        -- The last argument goes on with the blank, so it is not the one that it was.
        obtain ⟨ended, last, more, later, hline, hlonger⟩ :=
          scan_append_of_endsQuoted " " "x" hquoted (by decide) (by decide)
        rw [hline, List.append_assoc] at hscan
        have htails := List.append_cancel_left (hlonger.symm.trans hscan)
        have hlast : last ++ " " ++ more = last := (List.cons_eq_cons.mp htails).1
        obtain ⟨hempty, -⟩ : (" " : Text) = [] ∧ more = [] := by simpa using hlast
        exact absurd hempty (by decide)
  · intro hclosed
    have hscan : (scan (line ++ " x")).map (·.1) =
        (scan line).map (·.1) ++ (scan "x").map (·.1) :=
      scan_append_of_separator isSeparator_space hclosed
    rw [scan_word] at hscan
    exact congrArg Except.ok hscan

/-- Splitting is compatible with putting command lines side by side, blanks between them: if the
quotes of the first are closed, the arguments are those of both; else its last argument goes on with
the blanks. -/
theorem split_append_separators {front blanks rest : Text} (hfront : CodePoint.nul ∉ front)
    (hrest : CodePoint.nul ∉ rest) (hne : blanks ≠ [])
    (hblanks : ∀ c ∈ blanks, isSeparator c = true) :
    ∃ before after whole, split front = .ok before ∧ split rest = .ok after ∧
      split (front ++ blanks ++ rest) = .ok whole ∧
      (QuoteClosed front → whole = before ++ after) ∧
      (¬QuoteClosed front →
        ∃ ended last more later, before = ended ++ [last] ∧
          whole = ended ++ (last ++ blanks ++ more) :: later) := by
  have hblank : CodePoint.nul ∉ blanks := fun hnul => absurd (hblanks _ hnul) (by decide)
  have hwhole : CodePoint.nul ∉ front ++ blanks ++ rest := by simp [hfront, hblank, hrest]
  refine ⟨_, _, _, split_of_nul_notMem hfront, split_of_nul_notMem hrest,
    split_of_nul_notMem hwhole, ?_, ?_⟩
  · intro hclosed
    rw [quoteClosed_iff hfront] at hclosed
    obtain ⟨c, later, rfl⟩ := List.exists_cons_of_ne_nil hne
    obtain ⟨hc, hlater⟩ := List.forall_mem_cons.mp hblanks
    rw [List.append_assoc, List.cons_append, scan_append_of_separator hc hclosed,
      scan_separators_append rest hlater]
  · intro hopen
    rw [quoteClosed_iff hfront, Bool.not_eq_false] at hopen
    obtain ⟨ended, last, more, later, hline, hlonger⟩ :=
      scan_append_of_endsQuoted blanks rest hopen hne hblanks
    rw [← List.append_assoc] at hlonger
    exact ⟨ended, last, more, later, hline, hlonger⟩

/-- A backslash and a quote that is still open stand at the end. -/
def unclosedLine : Text := "cl \"a b\\"

theorem split_append_separators_unclosed :
    ¬QuoteClosed unclosedLine ∧
      ∃ (ended : List Text) (last more : Text) (later : List Text),
        split unclosedLine = .ok (ended ++ [last]) ∧
        split (unclosedLine ++ " \t" ++ "\" c\" d") =
          .ok (ended ++ (last ++ " \t" ++ more) :: later) := by
  have hnul : CodePoint.nul ∉ unclosedLine := by decide
  have hopen : ¬QuoteClosed unclosedLine := by
    rw [quoteClosed_iff hnul]
    decide
  obtain ⟨before, after, whole, hbefore, -, hwhole, -, hcontinued⟩ :=
    @split_append_separators unclosedLine " \t" "\" c\" d" hnul (by decide) (by decide) (by decide)
  obtain ⟨ended, last, more, later, rfl, rfl⟩ := hcontinued hopen
  exact ⟨hopen, ended, last, more, later, hbefore, hwhole⟩

/-! ## Lines without escaped or doubled quotes -/

/-- Every quote is a plain delimiter: none follows a backslash or another quote. -/
def PlainQuotes (line : Text) : Prop :=
  ¬[backslash, quote] <:+: line ∧ ¬[quote, quote] <:+: line

instance (line : Text) : Decidable (PlainQuotes line) :=
  inferInstanceAs (Decidable (_ ∧ _))

theorem PlainQuotes.of_suffix {line t : Text} (h : PlainQuotes line) (ht : t <:+ line) :
    PlainQuotes t :=
  ⟨fun hpart => h.1 (hpart.trans ht.isInfix), fun hpart => h.2 (hpart.trans ht.isInfix)⟩

theorem PlainQuotes.not_after_backslashes {rest : Text} (h : PlainQuotes (backslash :: rest)) :
    (afterBackslashes rest).head? ≠ some quote := by
  intro hquote
  obtain ⟨u, hu⟩ := List.head?_eq_some_iff.mp hquote
  apply h.1
  rw [cons_backslash_eq rest, hu, backslashes, List.replicate_succ']
  exact ⟨List.replicate (backslashRun rest) backslash, u, by simp⟩

theorem PlainQuotes.quote_notMem_readArgument {t : Text} (h : PlainQuotes t) (quoted : Bool) :
    quote ∉ (readArgument quoted t).1 := by
  fun_induction readArgument quoted t with
  | case1 => simp
  | case2 quoted rest hquote _ ih => exact absurd hquote h.not_after_backslashes
  | case3 quoted rest hquote _ ih => exact absurd hquote h.not_after_backslashes
  | case4 quoted rest hquote ih =>
      have hrest := ih (h.of_suffix ((List.dropWhile_suffix _).trans (List.suffix_cons _ rest)))
      simpa [backslashes, quote_ne_backslash] using hrest
  | case5 quoted rest hdoubled _ ih =>
      obtain ⟨u, rfl⟩ := List.head?_eq_some_iff.mp (by simpa using hdoubled : _ ∧ _).2
      exact absurd ⟨[], u, rfl⟩ h.2
  | case6 quoted rest _ _ ih => exact ih (h.of_suffix (List.suffix_cons _ rest))
  | case7 => simp
  | case8 quoted c rest _ hq _ ih =>
      have hrest := ih (h.of_suffix (List.suffix_cons _ rest))
      simpa [Ne.symm hq] using hrest

end BuildRecorder.Arguments
