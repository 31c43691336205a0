import BuildRecorder.Compiler.Location
import BuildRecorder.Outcome
import BuildRecorder.Proofs.Arguments.First
import BuildRecorder.Proofs.Arguments.Quotes
import BuildRecorder.Proofs.Text.Case

/-!
# Where the compiler is found

A compiler that is taken as the first argument leaves the later arguments as they are. A search for
the marker cuts the text without regard to quotes, and trims more than separators behind the cut, so
there the arguments stay whole if the cut is outside quotes and what is trimmed ends in a separator.
-/

namespace BuildRecorder.Compiler

open Arguments (splitFirst split endsQuoted isSeparator PlainQuotes)

variable {strategy : Strategy} {marker line compiler arguments : Text}

/-! ## What can be found -/

theorem head?_drop_of_searchEq {t : Text}
    (h : Text.searchEq (marker ++ " ") (t.take (marker.length + 1)) = true) :
    (t.drop marker.length).head? = some (CodePoint.ofChar ' ') := by
  have hkeys := congrArg (·[marker.length]?) (of_decide_eq_true h)
  have hkey :
      t[marker.length]?.map CodePoint.searchKey = some (CodePoint.ofChar ' ').searchKey := by
    simpa [Text.ofString] using hkeys.symm
  obtain ⟨c, hc, hspace⟩ := Option.map_eq_some_iff.mp hkey
  rw [List.head?_drop, hc, CodePoint.eq_space_of_searchKey hspace]

theorem cutAtMarker_eq_some {front back : Text} (h : cutAtMarker marker line = some (front, back)) :
    line = front ++ back ∧ back.head? = some (CodePoint.ofChar ' ') := by
  induction line generalizing front with
  | nil => cases h
  | cons c rest ih =>
      rw [cutAtMarker] at h
      split at h
      · next hmarker =>
        cases h
        exact ⟨(List.take_append_drop marker.length (c :: rest)).symm,
          head?_drop_of_searchEq hmarker⟩
      · obtain ⟨⟨front', back'⟩, hcut, heq⟩ := Option.map_eq_some_iff.mp h
        cases heq
        obtain ⟨hrest, hback⟩ := ih hcut
        exact ⟨by rw [hrest]; rfl, hback⟩

theorem locateMarker_cases (h : locateMarker marker line = .ok (compiler, arguments)) :
    ∃ front back, cutAtMarker marker line = some (front, back) ∧
      compiler = trimQuotes front.trim ∧ arguments = back.trimStart := by
  unfold locateMarker at h
  split at h
  · cases h
  · next front back hcut =>
    dsimp only at h
    split at h
    · cases h
    · cases h
      exact ⟨front, back, hcut, rfl, rfl⟩

/-- All that locating can give: the first argument, or what a search for the marker cuts off. -/
theorem locate_cases (h : locate strategy marker line = .ok (compiler, arguments)) :
    (strategy ≠ .marker ∧ compiler ≠ [] ∧ splitFirst line = .ok (compiler, arguments)) ∨
      (strategy ≠ .firstToken ∧ ∃ front back, cutAtMarker marker line = some (front, back) ∧
        compiler = trimQuotes front.trim ∧ arguments = back.trimStart) := by
  cases strategy with
  | marker => exact .inr ⟨by decide, locateMarker_cases h⟩
  | firstToken =>
      simp only [locate, locateFirst] at h
      split at h
      · cases h
      · next hsplit =>
        split at h
        · cases h
        · next hne =>
          cases h
          exact .inl ⟨by decide, by simpa using hne, hsplit⟩
  | auto =>
      simp only [locate] at h
      split at h
      · cases h
      · next hsplit =>
        split at h
        · next hnamed =>
          cases h
          simp only [Bool.and_eq_true, Bool.not_eq_true', List.isEmpty_eq_false_iff] at hnamed
          exact .inl ⟨by decide, hnamed.1, hsplit⟩
        · exact .inr ⟨by decide, locateMarker_cases h⟩

theorem locate_of_splitFirst (hsplit : splitFirst line = .ok (compiler, arguments))
    (hne : compiler ≠ [])
    (hnamed : strategy = .firstToken ∨ strategy = .auto ∧ namesMarker compiler marker = true) :
    locate strategy marker line = .ok (compiler, arguments) := by
  have hempty : compiler.isEmpty = false := by simpa using hne
  rcases hnamed with rfl | ⟨rfl, hnamed⟩
  · simp [locate, locateFirst, hsplit, hempty]
  · simp [locate, hsplit, hempty, hnamed]

/-- Whether the compiler that is found is the first argument of the line. -/
def FindsFirst (strategy : Strategy) (marker line : Text) : Prop :=
  ∃ found, splitFirst line = .ok found ∧ locate strategy marker line = .ok found

theorem FindsFirst.splitFirst_eq (h : FindsFirst strategy marker line)
    (hlocate : locate strategy marker line = .ok (compiler, arguments)) :
    splitFirst line = .ok (compiler, arguments) := by
  obtain ⟨found, hsplit, hfound⟩ := h
  obtain rfl : found = (compiler, arguments) := Except.ok.inj (hfound.symm.trans hlocate)
  exact hsplit

/-- A condition on the search is only asked for where the line is cut at the marker. -/
theorem locate_cases_of {condition : Prop}
    (hlocate : locate strategy marker line = .ok (compiler, arguments))
    (h : FindsFirst strategy marker line ∨ condition) :
    splitFirst line = .ok (compiler, arguments) ∨
      condition ∧ ∃ front back, cutAtMarker marker line = some (front, back) ∧
        compiler = trimQuotes front.trim ∧ arguments = back.trimStart := by
  rcases h with hfirst | hcondition
  · exact .inl (hfirst.splitFirst_eq hlocate)
  · rcases locate_cases hlocate with ⟨-, -, hsplit⟩ | ⟨-, hcut⟩
    · exact .inl hsplit
    · exact .inr ⟨hcondition, hcut⟩

/-! ## Arguments stay whole -/

/-- The marker that a search finds stands outside quotes, and what is trimmed behind it ends in a
separator, unless nothing is left there. -/
def CutsAtSeparator (marker line : Text) : Prop :=
  ∀ cut ∈ cutAtMarker marker line, cut.2.trimStart = [] ∨
    endsQuoted cut.1 = false ∧
      ∀ c ∈ (cut.2.takeWhile CodePoint.isBlank).getLast?, isSeparator c = true

instance (marker line : Text) : Decidable (CutsAtSeparator marker line) :=
  inferInstanceAs (Decidable (∀ cut ∈ cutAtMarker marker line, _ ∨ _ ∧ _))

theorem ne_delimiter_of_isBlank {c : CodePoint} (hc : c.isBlank = true) :
    c ≠ Arguments.backslash ∧ c ≠ Arguments.quote := by
  constructor <;> rintro rfl <;> exact absurd hc (by decide)

theorem scan_trimStart_suffix {front back : Text}
    (hback : back.head? = some (CodePoint.ofChar ' '))
    (hcut : back.trimStart = [] ∨ endsQuoted front = false ∧
      ∀ c ∈ (back.takeWhile CodePoint.isBlank).getLast?, isSeparator c = true) :
    (Arguments.scan back.trimStart).map (·.1) <:+ (Arguments.scan (front ++ back)).map (·.1) := by
  rcases hcut with hnil | ⟨hquoted, hlast⟩
  · rw [hnil, Arguments.scan_nil]
    exact List.nil_suffix
  · have hne : back.takeWhile CodePoint.isBlank ≠ [] := by
      obtain ⟨rest, rfl⟩ := List.head?_eq_some_iff.mp hback
      rw [List.takeWhile_cons_of_pos (by decide)]
      exact List.cons_ne_nil _ _
    obtain ⟨blanks, c, hblanks⟩ :=
      (List.eq_nil_or_concat (back.takeWhile CodePoint.isBlank)).resolve_left hne
    have hc : isSeparator c = true := hlast c (by simp [hblanks])
    have hplain : ∀ d ∈ blanks, d ≠ Arguments.backslash ∧ d ≠ Arguments.quote := by
      intro d hd
      have hd' : d ∈ back.takeWhile CodePoint.isBlank := by simp [hblanks, hd]
      exact ne_delimiter_of_isBlank (List.all_eq_true.mp List.all_takeWhile d hd')
    have hback' : blanks ++ [c] ++ back.trimStart = back := by
      rw [← List.concat_eq_append, ← hblanks]
      exact List.takeWhile_append_dropWhile
    -- The last blank parts the line; those before it go to the argument that ends there.
    have hsplit : front ++ back = (front ++ blanks) ++ c :: back.trimStart := by
      calc
        front ++ back = front ++ (blanks ++ [c] ++ back.trimStart) := by rw [hback']
        _ = (front ++ blanks) ++ c :: back.trimStart := by simp
    rw [hsplit, Arguments.scan_append_of_separator hc]
    · exact List.suffix_append _ _
    · rwa [endsQuoted, Arguments.endsQuotedFrom_append hplain]

/-- Cutting off the compiler neither splits nor merges nor changes a later argument, unless it is
found by a marker inside quotes or by one behind which more than separators is trimmed. -/
theorem split_suffix_of_locate (hnul : CodePoint.nul ∉ line)
    (hlocate : locate strategy marker line = .ok (compiler, arguments))
    (hcut : FindsFirst strategy marker line ∨ CutsAtSeparator marker line) :
    ∃ tokens later, split line = .ok tokens ∧ split arguments = .ok later ∧ later <:+ tokens := by
  have hsuffix : arguments <:+ line ∧
      (Arguments.scan arguments).map (·.1) <:+ (Arguments.scan line).map (·.1) := by
    rcases locate_cases_of hlocate hcut with hsplit | ⟨hcut, front, back, hfound, -, rfl⟩
    · exact Arguments.scan_suffix_of_splitFirst hsplit
    · obtain ⟨rfl, hback⟩ := cutAtMarker_eq_some hfound
      exact ⟨(List.dropWhile_suffix _).trans (List.suffix_append front back),
        scan_trimStart_suffix hback (hcut _ hfound)⟩
  have hnul' : CodePoint.nul ∉ arguments := fun h => hnul (hsuffix.1.mem h)
  exact ⟨_, _, Arguments.split_eq_ok_iff.mpr ⟨hnul, rfl⟩,
    Arguments.split_eq_ok_iff.mpr ⟨hnul', rfl⟩, hsuffix.2⟩

theorem split_suffix_of_locate_unquoted :
    locate .auto defaultMarker "C:\\Program Files\\VC\\cl.exe  /c \"my file.cpp\"" =
        .ok ("C:\\Program Files\\VC\\cl.exe", "/c \"my file.cpp\"") ∧
      ∃ tokens later,
        split "C:\\Program Files\\VC\\cl.exe  /c \"my file.cpp\"" = .ok tokens ∧
          split "/c \"my file.cpp\"" = .ok later ∧ later <:+ tokens := by
  have hlocate : locate .auto defaultMarker "C:\\Program Files\\VC\\cl.exe  /c \"my file.cpp\"" =
      .ok ("C:\\Program Files\\VC\\cl.exe", "/c \"my file.cpp\"") :=
    eq_ok_of_toOption (by decide +kernel)
  exact ⟨hlocate, split_suffix_of_locate (by decide) hlocate (.inr (by decide +kernel))⟩

/-- A marker inside quotes, where the cut leaves the end of a quoted argument to be read as the
start of another one. -/
theorem locate_inside_quotes :
    locate .auto defaultMarker "\"C:\\cl.exe tools\\wrap.exe\" /c a.cpp" =
        .ok ("C:\\cl.exe", "tools\\wrap.exe\" /c a.cpp") ∧
      split "\"C:\\cl.exe tools\\wrap.exe\" /c a.cpp" =
        .ok ["C:\\cl.exe tools\\wrap.exe", "/c", "a.cpp"] ∧
      split "tools\\wrap.exe\" /c a.cpp" = .ok ["tools\\wrap.exe /c a.cpp"] ∧
      ¬(["tools\\wrap.exe /c a.cpp"] : List Text) <:+
        ["C:\\cl.exe tools\\wrap.exe", "/c", "a.cpp"] := by
  refine ⟨?_, ?_, ?_, ?_⟩
  · exact eq_ok_of_toOption (by decide +kernel)
  · exact eq_ok_of_toOption (by decide +kernel)
  · exact eq_ok_of_toOption (by decide +kernel)
  · decide

/-! ## Quotes stay outside -/

/-- A quote stands in front of the marker that a search finds, and does not open the line. -/
def QuoteBeforeMarker (marker line : Text) : Prop :=
  ∃ cut ∈ cutAtMarker marker line, Arguments.quote ∈ cut.1.trimStart.tail

instance (marker line : Text) : Decidable (QuoteBeforeMarker marker line) :=
  inferInstanceAs (Decidable (∃ cut ∈ cutAtMarker marker line, _))

theorem exists_dropEndWhile_append (p : CodePoint → Bool) (t : Text) :
    ∃ ending, t = Text.dropEndWhile p t ++ ending := by
  obtain ⟨start, hstart⟩ := List.dropWhile_suffix (l := t.reverse) p
  refine ⟨start.reverse, ?_⟩
  rw [Text.dropEndWhile, ← List.reverse_append, hstart, List.reverse_reverse]

theorem mem_tail_append {c : CodePoint} {t : Text} (ending : Text) (h : c ∈ t.tail) :
    c ∈ (t ++ ending).tail := by
  cases t with
  | nil => cases h
  | cons d t => exact List.mem_append_left ending h

theorem quote_notMem_trimQuotes {t : Text} (ht : Arguments.quote ∉ t.tail) :
    Arguments.quote ∉ trimQuotes t := by
  have hstart : Arguments.quote ∉ t.dropWhile (· = CodePoint.ofChar '"') := by
    cases t with
    | nil => simp
    | cons c rest =>
        by_cases hc : c = CodePoint.ofChar '"'
        · rw [List.dropWhile_cons_of_pos (by simpa using hc)]
          exact fun h => ht ((List.dropWhile_suffix _).mem h)
        · rw [List.dropWhile_cons_of_neg (by simpa using hc)]
          exact List.not_mem_cons_of_ne_of_not_mem (Ne.symm hc) ht
  obtain ⟨ending, hending⟩ := exists_dropEndWhile_append (· = CodePoint.ofChar '"')
    (t.dropWhile (· = CodePoint.ofChar '"'))
  rw [hending] at hstart
  exact fun h => hstart (List.mem_append_left ending h)

/-- Where quotes are plain delimiters, the compiler that is found holds none, unless it is found by
a marker that has one before it. -/
theorem quote_notMem_of_locate (hplain : PlainQuotes line)
    (hlocate : locate strategy marker line = .ok (compiler, arguments))
    (hfront : FindsFirst strategy marker line ∨ ¬QuoteBeforeMarker marker line) :
    Arguments.quote ∉ compiler := by
  rcases locate_cases_of hlocate hfront with hsplit | ⟨hfront, front, back, hcut, rfl, -⟩
  · rcases (Arguments.splitFirst_cases hsplit).2 with
      ⟨-, rfl, -⟩ | ⟨start, after, hstart, hread, -⟩
    · exact List.not_mem_nil
    · simpa [hread] using (hplain.of_suffix hstart).quote_notMem_readArgument false
  · apply quote_notMem_trimQuotes
    intro hquote
    -- Trimming the end only takes characters away, so the quote stands in front of the marker.
    obtain ⟨ending, hending⟩ := exists_dropEndWhile_append CodePoint.isBlank front.trimStart
    refine hfront ⟨_, hcut, ?_⟩
    rw [hending]
    exact mem_tail_append ending hquote

end BuildRecorder.Compiler
