import BuildRecorder.Proofs.Arguments.RoundTrip
import Mathlib.Data.List.TakeWhile

/-!
# The first argument

What follows the first argument is where the scan of a command line goes on, so it holds the
arguments that are left, and in a joined command line it is what was joined behind the first one.
-/

namespace BuildRecorder.Arguments

theorem readArgument_suffix (quoted : Bool) (t : Text) : (readArgument quoted t).2 <:+ t := by
  have hafter (rest : Text) : afterBackslashes rest <:+ rest := List.dropWhile_suffix _
  fun_induction readArgument quoted t with
  | case1 => exact List.suffix_refl _
  | case2 quoted rest _ _ ih =>
      exact (ih.trans (List.drop_suffix 1 _)).trans ((hafter rest).trans (List.suffix_cons _ rest))
  | case3 quoted rest _ _ ih => exact ih.trans ((hafter rest).trans (List.suffix_cons _ rest))
  | case4 quoted rest _ ih => exact ih.trans ((hafter rest).trans (List.suffix_cons _ rest))
  | case5 quoted rest _ _ ih =>
      exact (ih.trans (List.drop_suffix 1 _)).trans (List.suffix_cons _ rest)
  | case6 quoted rest _ _ ih => exact ih.trans (List.suffix_cons _ rest)
  | case7 => exact List.suffix_refl _
  | case8 quoted c rest _ _ _ ih => exact ih.trans (List.suffix_cons _ rest)

theorem scan_eq_cons {t argument after : Text} {later : List (Text × Text)}
    (h : scan t = (argument, after) :: later) :
    ∃ c rest, c :: rest <:+ t ∧ isSeparator c = false ∧
      readArgument false (c :: rest) = (argument, after) ∧ later = scan after := by
  rw [scan] at h
  split at h
  · cases h
  · next c rest heq =>
    have hc : isSeparator c = false := by
      have hhead := List.head?_dropWhile_not isSeparator t
      simpa [heq] using hhead
    obtain ⟨hread, hlater⟩ := List.cons_eq_cons.mp h
    rw [hread] at hlater
    exact ⟨c, rest, heq ▸ List.dropWhile_suffix _, hc, hread, hlater.symm⟩

theorem scan_eq_nil_iff {t : Text} : scan t = [] ↔ ∀ c ∈ t, isSeparator c = true := by
  rw [scan, ← List.dropWhile_eq_nil_iff]
  split
  · next heq => simp [heq]
  · next c rest heq => simp [heq]

theorem splitFirst_of_scan {line first after : Text} {later : List (Text × Text)}
    (hnul : CodePoint.nul ∉ line) (hscan : scan line = (first, after) :: later) :
    splitFirst line = .ok (first, after.dropWhile isSeparator) := by
  rw [splitFirst, validate_eq, if_neg hnul, hscan]
  rfl

/-- All that splitting off the first argument can give. -/
theorem splitFirst_cases {line first rest : Text} (h : splitFirst line = .ok (first, rest)) :
    CodePoint.nul ∉ line ∧
      ((scan line = [] ∧ first = [] ∧ rest = []) ∨
        ∃ start after, start <:+ line ∧ readArgument false start = (first, after) ∧
          scan line = (first, after) :: scan after ∧ rest = after.dropWhile isSeparator) := by
  rw [splitFirst, validate_eq] at h
  by_cases hnul : CodePoint.nul ∈ line
  · rw [if_pos hnul] at h
    cases h
  refine ⟨hnul, ?_⟩
  rw [if_neg hnul] at h
  cases hscan : scan line with
  | nil =>
      simp only [hscan] at h
      cases h
      exact .inl ⟨rfl, rfl, rfl⟩
  | cons head later =>
      obtain ⟨argument, after⟩ := head
      obtain ⟨c, start, hstart, -, hread, rfl⟩ := scan_eq_cons hscan
      simp only [hscan] at h
      cases h
      exact .inr ⟨c :: start, after, hstart, hread, rfl, rfl⟩

/-- What is left behind the first argument has the arguments that are left. -/
theorem scan_suffix_of_splitFirst {line first rest : Text}
    (h : splitFirst line = .ok (first, rest)) :
    rest <:+ line ∧ (scan rest).map (·.1) <:+ (scan line).map (·.1) := by
  rcases (splitFirst_cases h).2 with
      ⟨-, -, rfl⟩ | ⟨start, after, hstart, hread, hscan, rfl⟩
  · rw [scan_nil]
    exact ⟨List.nil_suffix, List.nil_suffix⟩
  · have hafter : after <:+ start := by simpa [hread] using readArgument_suffix false start
    refine ⟨(List.dropWhile_suffix _).trans (hafter.trans hstart), ?_⟩
    rw [scan_dropWhile, hscan, List.map_cons]
    exact List.suffix_cons _ _

/-! ## Splitting off one argument after the other -/

theorem length_lt_of_splitFirst {line first rest : Text}
    (h : splitFirst line = .ok (first, rest)) (hline : ¬line.all isSeparator) :
    rest.length < line.length := by
  rcases (splitFirst_cases h).2 with ⟨hscan, -, -⟩ | ⟨-, after, -, -, hscan, rfl⟩
  · exact absurd (List.all_eq_true.mpr (scan_eq_nil_iff.mp hscan)) hline
  · obtain ⟨c, start, hstart, hc, hread, -⟩ := scan_eq_cons hscan
    have hshorter := length_readArgument_lt start hc
    rw [hread] at hshorter
    calc (after.dropWhile isSeparator).length ≤ after.length :=
          (List.dropWhile_sublist _).length_le
      _ < (c :: start).length := hshorter
      _ ≤ line.length := hstart.length_le

/-- Splits off first arguments until nothing but separators is left. What is left gets shorter with
each of them, so this comes to an end. -/
def peel (line : Text) : Except Fault (List Text) :=
  if _hline : line.all isSeparator then .ok []
  else
    match _h : splitFirst line with
    | .error fault => .error fault
    | .ok (first, rest) => (peel rest).map (first :: ·)
termination_by line.length
decreasing_by exact length_lt_of_splitFirst _h _hline

/-- The first argument of a line that is not blank, and a rest that holds the others. -/
theorem exists_splitFirst {line : Text} (hnul : CodePoint.nul ∉ line)
    (hline : ¬line.all isSeparator) :
    ∃ first rest, splitFirst line = .ok (first, rest) ∧
      (∀ c ∈ rest.head?, isSeparator c = false) ∧
      (scan line).map (·.1) = first :: (scan rest).map (·.1) := by
  cases hscan : scan line with
  | nil => exact absurd (List.all_eq_true.mpr (scan_eq_nil_iff.mp hscan)) hline
  | cons head later =>
      obtain ⟨first, after⟩ := head
      obtain ⟨-, -, -, -, -, rfl⟩ := scan_eq_cons hscan
      refine ⟨first, after.dropWhile isSeparator, ?_, ?_, ?_⟩
      · exact splitFirst_of_scan hnul hscan
      · intro c hc
        have hhead := List.head?_dropWhile_not isSeparator after
        rw [Option.mem_def.mp hc] at hhead
        simpa using hhead
      · rw [scan_dropWhile]
        rfl

/-- Splitting off one argument after the other gives all the arguments, or the fault of the line. -/
theorem peel_eq_split (line : Text) : peel line = split line := by
  fun_induction peel line with
  | case1 line hblank =>
      have hseparators := List.all_eq_true.mp hblank
      have hnul : CodePoint.nul ∉ line := fun hnul => absurd (hseparators _ hnul) (by decide)
      refine (split_eq_ok_iff.mpr ⟨hnul, ?_⟩).symm
      rw [scan_eq_nil_iff.mpr hseparators]
      rfl
  | case2 line hline fault hfirst =>
      by_cases hnul : CodePoint.nul ∈ line
      · rw [splitFirst, validate_eq, if_pos hnul] at hfirst
        rw [split, validate_eq, if_pos hnul]
        cases hfirst
        rfl
      · obtain ⟨first, rest, hok, -⟩ := exists_splitFirst hnul hline
        rw [hok] at hfirst
        cases hfirst
  | case3 line hline first rest hfirst ih =>
      have hnul := (splitFirst_cases hfirst).1
      have hrest : CodePoint.nul ∉ rest := fun hmem =>
        hnul ((scan_suffix_of_splitFirst hfirst).1.subset hmem)
      obtain ⟨first', rest', hok, -, hscan⟩ := exists_splitFirst hnul hline
      obtain ⟨rfl, rfl⟩ : first' = first ∧ rest' = rest := by simpa [hok] using hfirst
      rw [ih, split_of_nul_notMem hnul, split_of_nul_notMem hrest, hscan]
      rfl

/-- The first argument and the arguments of the rest are those of the line, and the rest is a proper
part of it that begins with an argument. So all arguments are found by splitting off the first one
over and over. -/
theorem split_eq_cons_of_splitFirst {line : Text} (hnul : CodePoint.nul ∉ line)
    (hline : ∃ c ∈ line, isSeparator c = false) :
    (∃ first rest later, splitFirst line = .ok (first, rest) ∧ rest <:+ line ∧ rest ≠ line ∧
        (∀ c ∈ rest.head?, isSeparator c = false) ∧ split rest = .ok later ∧
        split line = .ok (first :: later)) ∧
      peel line = split line := by
  have hblank : ¬line.all isSeparator := by simpa using hline
  obtain ⟨first, rest, hfirst, hhead, hscan⟩ := exists_splitFirst hnul hblank
  have hsuffix := (scan_suffix_of_splitFirst hfirst).1
  have hrest : CodePoint.nul ∉ rest := fun hmem => hnul (hsuffix.subset hmem)
  have hproper : rest ≠ line := by
    rintro rfl
    exact Nat.lt_irrefl _ (length_lt_of_splitFirst hfirst hblank)
  refine ⟨⟨first, rest, _, hfirst, hsuffix, hproper, hhead, split_of_nul_notMem hrest, ?_⟩,
    peel_eq_split line⟩
  rw [split_of_nul_notMem hnul, hscan]

/-- The quoting of the first argument holds a blank, an even run of backslashes and a doubled quote;
the last argument is not closed. -/
def launchLine : Text := "\t\"C:\\a b\\\\\"\"cl\"  /c \"x.cpp"

theorem split_eq_cons_of_splitFirst_launch :
    ∃ first rest later, splitFirst launchLine = .ok (first, rest) ∧ rest ≠ launchLine ∧
      split rest = .ok later ∧ peel launchLine = .ok (first :: later) := by
  obtain ⟨⟨first, rest, later, hfirst, -, hproper, -, hrest, hline⟩, hpeel⟩ :=
    @split_eq_cons_of_splitFirst launchLine (by decide) (by decide)
  exact ⟨first, rest, later, hfirst, hproper, hrest, hpeel.trans hline⟩

theorem dropWhile_join (arguments : List Text) :
    (join arguments).dropWhile isSeparator = join arguments := by
  cases arguments with
  | nil => rfl
  | cons argument arguments =>
      obtain ⟨c, rest, hcons, hc⟩ := exists_quoteArgument_eq_cons argument
      cases arguments with
      | nil => simp [join, Text.join, hcons, hc]
      | cons next arguments => simp [join_cons_cons, hcons, hc]

/-- The quoting of the first argument of a joined command line ends where the next one begins. -/
theorem splitFirst_join {argument : Text} {arguments : List Text}
    (hnul : CodePoint.nul ∉ join (argument :: arguments)) :
    splitFirst (join (argument :: arguments)) = .ok (argument, join arguments) := by
  cases arguments with
  | nil =>
      have hscan : scan (join [argument]) = [(argument, [])] := by
        simpa [join, Text.join, scan_nil] using
          scan_quoteArgument argument (t := []) (by simp [EndsArgument])
      rw [splitFirst_of_scan hnul hscan]
      rfl
  | cons next arguments =>
      have hscan := scan_quoteArgument argument (endsArgument_space (join (next :: arguments)))
      rw [← join_cons_cons] at hscan
      rw [splitFirst_of_scan hnul hscan, List.dropWhile_cons_of_pos isSeparator_space,
        dropWhile_join]

/-- A first argument without quotes ends at the first separator behind it. -/
theorem splitFirst_word {blanks word rest : Text} (hnul : CodePoint.nul ∉ blanks ++ (word ++ rest))
    (hblanks : ∀ c ∈ blanks, isSeparator c = true) (hne : word ≠ []) (hquote : quote ∉ word)
    (hword : ∀ c ∈ word, isSeparator c = false) (hrest : EndsArgument rest) :
    splitFirst (blanks ++ (word ++ rest)) = .ok (word, rest.dropWhile isSeparator) := by
  have hscan := scan_quoteArgument word hrest
  rw [quoteArgument_eq_self hne hquote hword] at hscan
  exact splitFirst_of_scan hnul ((scan_separators_append _ hblanks).trans hscan)

end BuildRecorder.Arguments
