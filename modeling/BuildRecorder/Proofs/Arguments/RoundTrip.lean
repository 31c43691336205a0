import BuildRecorder.Arguments.Join

/-!
# Splitting a joined command line

Joining writes backslashes only when it is known what follows them, and splitting reads a run of
backslashes as a whole. The two meet in the lemmas on such runs. The round trip of one argument is
an induction over its characters, with the backslashes that are still to be written as its state.
-/

namespace BuildRecorder.Arguments

/-! ## Runs of backslashes -/

@[simp] theorem backslashes_zero : backslashes 0 = [] := rfl

theorem backslashes_succ (n : Nat) : backslashes (n + 1) = backslash :: backslashes n := rfl

theorem backslashes_append_cons (n : Nat) (t : Text) :
    backslashes n ++ backslash :: t = backslashes (n + 1) ++ t := by
  simp [backslashes, List.replicate_succ', List.append_assoc]

/-- A text that does not go on with a backslash ends the run before it. -/
def EndsRun (t : Text) : Prop := t.head? ≠ some backslash

theorem backslashRun_append (n : Nat) {t : Text} (h : EndsRun t) :
    backslashRun (backslashes n ++ t) = n := by
  induction n with
  | zero =>
      cases t with
      | nil => rfl
      | cons c rest =>
          have hc : c ≠ backslash := by simpa [EndsRun] using h
          simp [backslashRun, hc]
  | succ n ih =>
      rw [backslashes_succ, List.cons_append, backslashRun, List.takeWhile_cons_of_pos (by simp),
        List.length_cons, ← backslashRun, ih]

theorem afterBackslashes_append (n : Nat) {t : Text} (h : EndsRun t) :
    afterBackslashes (backslashes n ++ t) = t := by
  induction n with
  | zero =>
      cases t with
      | nil => rfl
      | cons c rest =>
          have hc : c ≠ backslash := by simpa [EndsRun] using h
          simp [afterBackslashes, hc]
  | succ n ih =>
      rw [backslashes_succ, List.cons_append, afterBackslashes,
        List.dropWhile_cons_of_pos (by simp), ← afterBackslashes, ih]

theorem backslashes_backslashRun (t : Text) :
    backslashes (backslashRun t) ++ afterBackslashes t = t := by
  have hrun : t.takeWhile (· = backslash) = backslashes (backslashRun t) := by
    refine List.eq_replicate_iff.mpr ⟨rfl, ?_⟩
    intro c hc
    simpa using List.all_eq_true.mp (List.all_takeWhile (l := t)) c hc
  rw [← hrun]
  exact List.takeWhile_append_dropWhile

theorem endsRun_afterBackslashes (t : Text) : EndsRun (afterBackslashes t) := by
  have hhead := List.head?_dropWhile_not (· = backslash) t
  intro h
  rw [afterBackslashes] at h
  simp [h] at hhead

theorem cons_backslash_eq (rest : Text) :
    backslash :: rest = backslashes (backslashRun rest + 1) ++ afterBackslashes rest := by
  rw [backslashes_succ, List.cons_append, backslashes_backslashRun]

theorem quote_ne_backslash : quote ≠ backslash := by decide

theorem endsRun_quote (rest : Text) : EndsRun (quote :: rest) := by
  simpa [EndsRun] using quote_ne_backslash

@[simp] theorem prepend_nil (read : Text × Text) : prepend [] read = read := rfl

@[simp] theorem prepend_prepend (start start' : Text) (read : Text × Text) :
    prepend start (prepend start' read) = prepend (start ++ start') read := by
  simp [prepend]

/-- An even run before a quote is half as long, and the quote is still to be read. -/
theorem readArgument_even (quoted : Bool) (n : Nat) (rest : Text) :
    readArgument quoted (backslashes (2 * n) ++ quote :: rest) =
      prepend (backslashes n) (readArgument quoted (quote :: rest)) := by
  cases n with
  | zero => simp
  | succ n =>
      have hrun := backslashRun_append (2 * n + 1) (endsRun_quote rest)
      have hafter := afterBackslashes_append (2 * n + 1) (endsRun_quote rest)
      rw [show 2 * (n + 1) = (2 * n + 1) + 1 by omega, backslashes_succ, List.cons_append,
        readArgument, if_pos rfl, hrun, hafter, if_pos (by simp), if_neg (by omega),
        show (2 * n + 1 + 1) / 2 = n + 1 by omega]

/-- An odd run before a quote is half as long, and the quote belongs to the argument. -/
theorem readArgument_odd (quoted : Bool) (n : Nat) (rest : Text) :
    readArgument quoted (backslashes (2 * n + 1) ++ quote :: rest) =
      prepend (backslashes n ++ [quote]) (readArgument quoted rest) := by
  have hrun := backslashRun_append (2 * n) (endsRun_quote rest)
  have hafter := afterBackslashes_append (2 * n) (endsRun_quote rest)
  rw [backslashes_succ, List.cons_append, readArgument, if_pos rfl, hrun, hafter,
    if_pos (by simp), if_pos (by omega), show (2 * n + 1) / 2 = n by omega]
  simp

/-- A run that no quote follows is as it is written. -/
theorem readArgument_literal (quoted : Bool) (n : Nat) {t : Text} (hrun : EndsRun t)
    (hquote : t.head? ≠ some quote) :
    readArgument quoted (backslashes n ++ t) = prepend (backslashes n) (readArgument quoted t) := by
  cases n with
  | zero => simp
  | succ n =>
      rw [backslashes_succ, List.cons_append, readArgument, if_pos rfl,
        backslashRun_append n hrun, afterBackslashes_append n hrun, if_neg hquote,
        ← backslashes_succ]

theorem readArgument_plain {quoted : Bool} {c : CodePoint} (rest : Text) (hb : c ≠ backslash)
    (hq : c ≠ quote) (hs : quoted = true ∨ isSeparator c = false) :
    readArgument quoted (c :: rest) = prepend [c] (readArgument quoted rest) := by
  have hstop : (!quoted && isSeparator c) = false := by
    rcases hs with rfl | hs
    · simp
    · simp [hs]
  rw [readArgument, if_neg hb, if_neg hq, hstop, if_neg (by simp)]

/-! ## One argument -/

/-- What may follow the escaped characters of an argument: the quote that closes it, or, if it is
not quoted, a character that neither goes on with a run nor makes it count. -/
def Closes : Bool → Text → Prop
  | true, t => t.head? = some quote
  | false, t => EndsRun t ∧ t.head? ≠ some quote

/-- Reading back an argument that was escaped after `pending` unwritten backslashes. -/
theorem readArgument_escape {quoted : Bool} (pending : Nat) (argument : Text) {t : Text}
    (hseparators : quoted = true ∨ ∀ c ∈ argument, isSeparator c = false) (ht : Closes quoted t) :
    readArgument quoted (escape quoted pending argument ++ t) =
      prepend (backslashes pending ++ argument) (readArgument quoted t) := by
  induction argument generalizing pending with
  | nil =>
      cases quoted with
      | true =>
          obtain ⟨rest, rfl⟩ : ∃ rest, t = quote :: rest := by
            cases t with
            | nil => simp [Closes] at ht
            | cons c rest =>
                have hc : c = quote := by simpa [Closes] using ht
                exact ⟨rest, by rw [hc]⟩
          simpa [escape] using readArgument_even true pending rest
      | false => simpa [escape] using readArgument_literal false pending ht.1 ht.2
  | cons c rest ih =>
      have hrest : quoted = true ∨ ∀ d ∈ rest, isSeparator d = false :=
        hseparators.imp_right fun h d hd => h d (List.mem_cons_of_mem c hd)
      by_cases hb : c = backslash
      · subst hb
        rw [escape, if_pos rfl, ih (pending + 1) hrest, backslashes_append_cons]
      by_cases hq : c = quote
      · subst hq
        rw [escape, if_neg quote_ne_backslash, if_pos rfl, List.append_assoc, List.cons_append,
          readArgument_odd, ih 0 hrest]
        simp
      · have hc : quoted = true ∨ isSeparator c = false :=
          hseparators.imp_right fun h => h c List.mem_cons_self
        rw [escape, if_neg hb, if_neg hq, List.append_assoc, List.cons_append,
          readArgument_literal quoted pending (by simpa [EndsRun] using hb) (by simpa using hq),
          readArgument_plain _ hb hq hc, ih 0 hrest]
        simp

theorem mem_escape {c : CodePoint} (hb : c ≠ backslash) (hq : c ≠ quote) (quoted : Bool)
    (pending : Nat) (argument : Text) : c ∈ escape quoted pending argument ↔ c ∈ argument := by
  have hrun (n : Nat) : c ∉ backslashes n := by
    intro h
    exact hb (List.eq_of_mem_replicate h)
  induction argument generalizing pending with
  | nil => simp [escape, hrun]
  | cons d rest ih =>
      by_cases hdb : d = backslash
      · simp [escape, hdb, ih, hb]
      by_cases hdq : d = quote
      · simp [escape, hdq, quote_ne_backslash, ih, hq, hrun]
      · simp [escape, hdb, hdq, ih, hrun]

theorem mem_quoteArgument {c : CodePoint} (hb : c ≠ backslash) (hq : c ≠ quote)
    (argument : Text) : c ∈ quoteArgument argument ↔ c ∈ argument := by
  unfold quoteArgument
  split <;> simp [mem_escape hb hq, hq]

theorem needsQuotes_eq_false_iff (argument : Text) :
    needsQuotes argument = false ↔ argument ≠ [] ∧ ∀ c ∈ argument, isSeparator c = false := by
  simp [needsQuotes]

theorem isSeparator_quote : isSeparator quote = false := by decide

theorem isSeparator_backslash : isSeparator backslash = false := by decide

theorem isSeparator_space : isSeparator (CodePoint.ofChar ' ') = true := by decide

theorem ne_delimiter_of_isSeparator {c : CodePoint} (hc : isSeparator c = true) :
    c ≠ backslash ∧ c ≠ quote := by
  constructor <;> rintro rfl
  · simp [isSeparator_backslash] at hc
  · simp [isSeparator_quote] at hc

theorem escape_ne_nil {quoted : Bool} {pending : Nat} {argument : Text}
    (h : 0 < pending ∨ argument ≠ []) : escape quoted pending argument ≠ [] := by
  induction argument generalizing pending with
  | nil =>
      have hpos : pending ≠ 0 := by
        rcases h with h | h
        · exact Nat.ne_of_gt h
        · exact absurd rfl h
      cases quoted with
      | true =>
          have hdouble : 2 * pending ≠ 0 := by omega
          simpa [escape, backslashes] using hdouble
      | false => simpa [escape, backslashes] using hpos
  | cons c rest ih =>
      rw [escape]
      split
      · exact ih (.inl (Nat.succ_pos pending))
      · split <;> simp

/-- Nothing has to be escaped where no quote is met, neither in the text nor, after backslashes, at
its end. -/
theorem escape_eq_self {argument : Text} (quoted : Bool) (pending : Nat)
    (hquote : quote ∉ argument)
    (hend : quoted = true → (backslashes pending ++ argument).getLast? ≠ some backslash) :
    escape quoted pending argument = backslashes pending ++ argument := by
  induction argument generalizing pending with
  | nil =>
      cases quoted with
      | false => simp [escape]
      | true =>
          have hpending : pending = 0 := by simpa [backslashes, List.getLast?_replicate] using hend
          simp [escape, hpending]
  | cons c rest ih =>
      have hrest : quote ∉ rest := fun h => hquote (List.mem_cons_of_mem c h)
      have hq : c ≠ quote := fun h => hquote (h ▸ List.mem_cons_self)
      by_cases hb : c = backslash
      · rw [hb, backslashes_append_cons] at hend
        rw [escape, if_pos hb, ih (pending + 1) hrest hend, hb, backslashes_append_cons]
      · have hlast : quoted = true → (backslashes 0 ++ rest).getLast? ≠ some backslash := by
          cases rest with
          | nil => simp
          | cons d rest => simpa using hend
        rw [escape, if_neg hb, if_neg hq, ih 0 hrest hlast]
        simp

/-- An argument without quotes and separators is written as it is. -/
theorem quoteArgument_eq_self {argument : Text} (hne : argument ≠ []) (hquote : quote ∉ argument)
    (hseparators : ∀ c ∈ argument, isSeparator c = false) : quoteArgument argument = argument := by
  have hneeds := (needsQuotes_eq_false_iff argument).mpr ⟨hne, hseparators⟩
  rw [quoteArgument, hneeds, if_neg Bool.false_ne_true, escape_eq_self false 0 hquote (by simp)]
  rfl

theorem exists_quoteArgument_eq_cons (argument : Text) :
    ∃ c rest, quoteArgument argument = c :: rest ∧ isSeparator c = false := by
  by_cases h : needsQuotes argument = true
  · exact ⟨quote, _, by rw [quoteArgument, if_pos h], isSeparator_quote⟩
  · obtain ⟨hne, hplain⟩ := (needsQuotes_eq_false_iff argument).mp (by simpa using h)
    have heq : quoteArgument argument = escape false 0 argument := by rw [quoteArgument, if_neg h]
    cases hcons : escape false 0 argument with
    | nil => exact absurd hcons (escape_ne_nil (.inr hne))
    | cons c rest =>
        refine ⟨c, rest, heq.trans hcons, ?_⟩
        by_cases hb : c = backslash
        · rw [hb]
          exact isSeparator_backslash
        by_cases hq : c = quote
        · rw [hq]
          exact isSeparator_quote
        · exact hplain c ((mem_escape hb hq false 0 argument).mp (by simp [hcons]))

/-- What may follow an argument in a command line: its end, or a separator. -/
def EndsArgument (t : Text) : Prop := ∀ c ∈ t.head?, isSeparator c = true

theorem endsArgument_space (t : Text) : EndsArgument (CodePoint.ofChar ' ' :: t) := by
  simpa [EndsArgument] using isSeparator_space

theorem EndsArgument.endsRun {t : Text} (h : EndsArgument t) : EndsRun t := by
  intro hhead
  have := h backslash hhead
  simp [isSeparator_backslash] at this

theorem EndsArgument.head?_ne_quote {t : Text} (h : EndsArgument t) : t.head? ≠ some quote := by
  intro hhead
  have := h quote hhead
  simp [isSeparator_quote] at this

theorem EndsArgument.closes {t : Text} (h : EndsArgument t) : Closes false t :=
  ⟨h.endsRun, h.head?_ne_quote⟩

theorem readArgument_of_endsArgument {t : Text} (h : EndsArgument t) :
    readArgument false t = ([], t) := by
  cases t with
  | nil => simp [readArgument]
  | cons c rest =>
      have hs : isSeparator c = true := h c rfl
      obtain ⟨hb, hq⟩ := ne_delimiter_of_isSeparator hs
      rw [readArgument, if_neg hb, if_neg hq, hs, if_pos (by simp)]

theorem readArgument_quoted (argument : Text) {t : Text} (ht : EndsArgument t) :
    readArgument false (quote :: (escape true 0 argument ++ quote :: t)) = (argument, t) := by
  have hclose : readArgument true (quote :: t) = ([], t) := by
    rw [readArgument, if_neg quote_ne_backslash, if_pos rfl, if_neg (by simp [ht.head?_ne_quote]),
      Bool.not_true, readArgument_of_endsArgument ht]
  rw [readArgument, if_neg quote_ne_backslash, if_pos rfl, if_neg (by simp), Bool.not_false,
    readArgument_escape 0 argument (.inl rfl) (by simp [Closes]), hclose]
  simp [prepend]

theorem readArgument_quoteArgument (argument : Text) {t : Text} (ht : EndsArgument t) :
    readArgument false (quoteArgument argument ++ t) = (argument, t) := by
  by_cases h : needsQuotes argument = true
  · rw [quoteArgument, if_pos h, List.cons_append, List.append_assoc, List.singleton_append,
      readArgument_quoted argument ht]
  · obtain ⟨_, hplain⟩ := (needsQuotes_eq_false_iff argument).mp (by simpa using h)
    rw [quoteArgument, if_neg h,
      readArgument_escape 0 argument (.inr hplain) ht.closes, readArgument_of_endsArgument ht]
    simp [prepend]

/-! ## Whole command lines -/

theorem scan_nil : scan [] = [] := by
  rw [scan]
  rfl

theorem scan_separator {c : CodePoint} (rest : Text) (hc : isSeparator c = true) :
    scan (c :: rest) = scan rest := by
  rw [scan, scan, List.dropWhile_cons_of_pos hc]

theorem scan_separators_append {blanks : Text} (t : Text)
    (h : ∀ c ∈ blanks, isSeparator c = true) : scan (blanks ++ t) = scan t := by
  induction blanks with
  | nil => rfl
  | cons c blanks ih =>
      rw [List.cons_append, scan_separator _ (h c List.mem_cons_self),
        ih fun d hd => h d (List.mem_cons_of_mem c hd)]

/-- The separators in front of a text, and what the text goes on with. -/
theorem exists_separators_append (t : Text) :
    ∃ blanks, t = blanks ++ t.dropWhile isSeparator ∧ ∀ c ∈ blanks, isSeparator c = true :=
  ⟨t.takeWhile isSeparator, List.takeWhile_append_dropWhile.symm, fun c hc =>
    List.all_eq_true.mp List.all_takeWhile c hc⟩

theorem scan_dropWhile (t : Text) : scan (t.dropWhile isSeparator) = scan t := by
  obtain ⟨blanks, heq, hblanks⟩ := exists_separators_append t
  rw [← scan_separators_append (t.dropWhile isSeparator) hblanks, ← heq]

theorem scan_quoteArgument (argument : Text) {t : Text} (ht : EndsArgument t) :
    scan (quoteArgument argument ++ t) = (argument, t) :: scan t := by
  obtain ⟨c, rest, hcons, hc⟩ := exists_quoteArgument_eq_cons argument
  have hread := readArgument_quoteArgument argument ht
  rw [hcons, List.cons_append] at hread ⊢
  rw [scan, List.dropWhile_cons_of_neg (by simp [hc])]
  simp [hread]

theorem scan_between_quotes {argument t : Text} (hquote : quote ∉ argument)
    (hend : argument.getLast? ≠ some backslash) (ht : EndsArgument t) :
    scan (quote :: (argument ++ quote :: t)) = (argument, t) :: scan t := by
  have hescape : escape true 0 argument = argument :=
    escape_eq_self true 0 hquote fun _ => by simpa using hend
  have hread := readArgument_quoted argument ht
  rw [hescape] at hread
  rw [scan, List.dropWhile_cons_of_neg (by simp [isSeparator_quote])]
  simp [hread]

theorem join_cons_cons (argument next : Text) (arguments : List Text) :
    join (argument :: next :: arguments) =
      quoteArgument argument ++ (' ' :: join (next :: arguments) : Text) := by
  simp [join, Text.join, List.append_assoc]
  rfl

/-- A scan of a joined command line finds the arguments that were joined. -/
theorem scan_join (arguments : List Text) : (scan (join arguments)).map (·.1) = arguments := by
  induction arguments with
  | nil => simp [join, Text.join, scan_nil]
  | cons argument arguments ih =>
      cases arguments with
      | nil =>
          have hscan := scan_quoteArgument argument (t := []) (by simp [EndsArgument])
          simpa [join, Text.join, scan_nil] using congrArg (List.map (·.1)) hscan
      | cons next arguments =>
          rw [join_cons_cons, scan_quoteArgument argument (endsArgument_space _),
            scan_separator _ isSeparator_space, List.map_cons, ih]

theorem nul_mem_join (arguments : List Text) :
    CodePoint.nul ∈ join arguments ↔ ∃ argument ∈ arguments, CodePoint.nul ∈ argument := by
  have hquote := @mem_quoteArgument CodePoint.nul (by decide) (by decide)
  have hspace : CodePoint.nul ≠ CodePoint.ofChar ' ' := by decide
  induction arguments with
  | nil => simp [join, Text.join]
  | cons argument arguments ih =>
      cases arguments with
      | nil => simp [join, Text.join, hquote]
      | cons next arguments =>
          rw [join_cons_cons, List.mem_append, List.mem_cons, hquote]
          simp only [hspace, false_or, ih, List.mem_cons, exists_eq_or_imp]

theorem validate_eq (line : Text) :
    validate line = if CodePoint.nul ∈ line then .error (.nul line) else .ok () := by
  simp [validate]

theorem split_eq_ok_iff {line : Text} {tokens : List Text} :
    split line = .ok tokens ↔ CodePoint.nul ∉ line ∧ (scan line).map (·.1) = tokens := by
  by_cases h : CodePoint.nul ∈ line
  · simp [split, validate_eq, h, bind, Except.bind]
  · simp [split, validate_eq, h, bind, Except.bind, pure, Except.pure]

theorem split_of_nul_notMem {line : Text} (h : CodePoint.nul ∉ line) :
    split line = .ok ((scan line).map (·.1)) :=
  split_eq_ok_iff.mpr ⟨h, rfl⟩

/-- Splitting what was joined gives the arguments back, whatever blanks, quotes and backslashes they
hold; only a NUL in one of them makes the command line one that cannot be split. -/
theorem split_join (arguments : List Text) :
    split (join arguments) =
      if ∃ argument ∈ arguments, CodePoint.nul ∈ argument then .error (.nul (join arguments))
      else .ok arguments := by
  rw [split, validate_eq]
  by_cases h : ∃ argument ∈ arguments, CodePoint.nul ∈ argument
  · rw [if_pos ((nul_mem_join arguments).mpr h), if_pos h]
    rfl
  · rw [if_neg (mt (nul_mem_join arguments).mp h), if_neg h]
    exact congrArg Except.ok (scan_join arguments)

end BuildRecorder.Arguments
