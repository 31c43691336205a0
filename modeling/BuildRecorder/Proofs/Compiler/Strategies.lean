import BuildRecorder.Proofs.Compiler.Invocation
import BuildRecorder.Proofs.Path.Basename

/-!
# Compilers without quotes

In a line where the compiler is not quoted, a search for the marker finds the path of the compiler
whole if the marker occurs nowhere before its end, whatever spaces the path holds. Taking the first
argument finds the same compiler if the path holds no space. By default the first argument is tried
before the search, so a path with spaces is found whole only if its first word is not taken for the
compiler.
-/

namespace BuildRecorder.Compiler

open Arguments (splitFirst isSeparator quote EndsArgument)

variable {marker path name front back rest word arguments : Text}

/-! ## The first marker -/

theorem searchEq_append {s t : Text} (h : Text.searchEq s t = true) (u : Text) :
    Text.searchEq (s ++ u) (t ++ u) = true := by
  rw [Text.searchEq, decide_eq_true_eq] at h ⊢
  rw [List.map_append, List.map_append, h]

/-- A search fails only where the marker has no space behind it anywhere. -/
theorem cutAtMarker_eq_none_iff {t : Text} :
    cutAtMarker marker t = none ↔
      ∀ part : Text, part <:+: t → Text.searchEq (marker ++ " ") part = false := by
  induction t with
  | nil => simp [cutAtMarker, Text.searchEq, Text.ofString]
  | cons c rest ih =>
      have hprefix : (∀ part : Text, part <+: c :: rest →
          Text.searchEq (marker ++ " ") part = false) ↔
            Text.searchEq (marker ++ " ") ((c :: rest).take (marker.length + 1)) = false := by
        refine ⟨fun h => h _ (List.take_prefix _ _), fun h part hpart => ?_⟩
        apply Bool.eq_false_iff.mpr
        intro hmarker
        have hlength := congrArg List.length (of_decide_eq_true hmarker)
        rw [List.length_map, List.length_map, List.length_append] at hlength
        rw [List.prefix_iff_eq_take.mp hpart, ← hlength] at hmarker
        exact Bool.false_ne_true (h.symm.trans hmarker)
      rw [cutAtMarker]
      simp only [List.infix_cons_iff, or_imp, forall_and, hprefix, ← ih]
      split <;> simp_all

/-- A search stops at the first marker with a space behind it. -/
theorem cutAtMarker_append (back : Text) (hname : Text.searchEq marker name = true)
    (hfirst : cutAtMarker marker (front ++ name) = none) :
    cutAtMarker marker (front ++ name ++ CodePoint.ofChar ' ' :: back) =
      some (front ++ name, CodePoint.ofChar ' ' :: back) := by
  have hlength : marker.length = name.length := by
    simpa using congrArg List.length (of_decide_eq_true hname)
  induction front with
  | nil =>
      have hne : name ++ CodePoint.ofChar ' ' :: back ≠ [] := by simp
      have htake : (name ++ CodePoint.ofChar ' ' :: back).take (name.length + 1) = name ++ " " := by
        rw [List.take_length_add_append]
        rfl
      obtain ⟨c, later, heq⟩ := List.exists_cons_of_ne_nil hne
      rw [List.nil_append, heq, cutAtMarker, ← heq, hlength, htake,
        if_pos (searchEq_append hname " "), List.take_left, List.drop_left]
  | cons c front ih =>
      have htake : (c :: (front ++ name ++ CodePoint.ofChar ' ' :: back)).take (marker.length + 1) =
          (c :: (front ++ name)).take (marker.length + 1) := by
        rw [← List.cons_append, List.take_append_of_le_length]
        simp [hlength]
      rw [List.cons_append, cutAtMarker] at hfirst
      rw [List.cons_append, List.cons_append, cutAtMarker, htake]
      split at hfirst
      · cases hfirst
      · next hnot =>
        rw [if_neg hnot, ih (Option.map_eq_none_iff.mp hfirst)]
        rfl

/-! ## What is trimmed -/

/-- White space is trimmed up to where a text begins and ends without it. -/
theorem trim_append {blanks t : Text} (hblanks : ∀ c ∈ blanks, c.isBlank = true)
    (hhead : ∀ c ∈ t.head?, c.isBlank = false) (hlast : ∀ c ∈ t.getLast?, c.isBlank = false) :
    (blanks ++ t).trim = t := by
  have hstart : (blanks ++ t).trimStart = t := by
    rw [Text.trimStart, List.dropWhile_append_of_pos hblanks, Text.dropWhile_eq_self hhead]
  rw [Text.trim, hstart]
  rcases List.eq_nil_or_concat t with rfl | ⟨front, c, rfl⟩
  · rfl
  · rw [List.concat_eq_append] at hlast ⊢
    exact List.rdropWhile_concat_neg _ front c (by simp [hlast c (by simp)])

theorem trimQuotes_eq_self {t : Text} (h : quote ∉ t) : trimQuotes t = t := by
  have hdrop {u : Text} (hu : quote ∉ u) : u.dropWhile (· = CodePoint.ofChar '"') = u := by
    apply Text.dropWhile_eq_self
    exact fun c hc => decide_eq_false (ne_of_mem_of_not_mem (List.mem_of_mem_head? hc) hu)
  rw [trimQuotes, hdrop h, Text.dropEndWhile, hdrop (by simpa using h), List.reverse_reverse]

theorem isBlank_of_isSeparator {c : CodePoint} (h : isSeparator c = true) : c.isBlank = true := by
  simp only [isSeparator, Bool.or_eq_true, decide_eq_true_eq] at h
  rcases h with rfl | rfl <;> decide

theorem not_isSeparator_of_not_isBlank {c : CodePoint} (h : c.isBlank = false) :
    isSeparator c = false := by
  apply Bool.eq_false_iff.mpr
  intro hseparator
  simp [isBlank_of_isSeparator hseparator] at h

/-- Where no other white space stands, trimming takes separators away. -/
theorem trimStart_eq_dropWhile {t : Text} (h : ∀ c ∈ t, c.isBlank = true → isSeparator c = true) :
    t.trimStart = t.dropWhile isSeparator := by
  induction t with
  | nil => rfl
  | cons c rest ih =>
      have hrest := ih fun d hd => h d (List.mem_cons_of_mem c hd)
      rw [Text.trimStart] at hrest ⊢
      cases hblank : c.isBlank with
      | true =>
          have hc := h c List.mem_cons_self hblank
          rw [List.dropWhile_cons_of_pos hblank, List.dropWhile_cons_of_pos hc, hrest]
      | false =>
          have hc := not_isSeparator_of_not_isBlank hblank
          rw [List.dropWhile_cons_of_neg (by simp [hblank]),
            List.dropWhile_cons_of_neg (by simp [hc])]

theorem dropWhile_space_cons {p : CodePoint → Bool} {c : CodePoint} (t : Text)
    (hspace : p (CodePoint.ofChar ' ') = true) (hc : p c = false) :
    (CodePoint.ofChar ' ' :: c :: t).dropWhile p = c :: t := by
  rw [List.dropWhile_cons_of_pos hspace, List.dropWhile_cons_of_neg (by simp [hc])]

/-! ## The name of the compiler -/

/-- What spells the compiler's name holds neither white space nor separators of paths. -/
theorem plain_of_lower (hname : name.lower = "cl.exe") {c : CodePoint} (hc : c ∈ name) :
    c.isBlank = false ∧ Path.Windows.isSeparator c = false := by
  have hmem : c.asciiLower ∈ Text.ofString "cl.exe" := by
    rw [← (Text.lower_eq_iff (by decide) name).mp hname]
    exact List.mem_map_of_mem hc
  have hplain : ∀ d ∈ Text.ofString "cl.exe",
      d.isBlank = false ∧ Path.Windows.isSeparator d = false := by decide
  constructor
  · apply Bool.eq_false_iff.mpr
    intro hblank
    rw [CodePoint.asciiLower_of_isBlank hblank] at hmem
    exact absurd (hplain c hmem).1 (by simp [hblank])
  · apply Bool.eq_false_iff.mpr
    intro hseparator
    simp only [Path.Windows.isSeparator, Bool.or_eq_true, decide_eq_true_eq] at hseparator
    rcases hseparator with rfl | rfl <;> exact absurd hmem (by decide)

theorem ne_nil_of_lower (hname : name.lower = "cl.exe") : name ≠ [] := by
  rintro rfl
  exact absurd hname (by decide)

theorem lower_append_space (hname : name.lower = "cl.exe") :
    Text.lower (name ++ " ") = "cl.exe " := by
  rw [Text.lower_eq_iff (by decide)] at hname ⊢
  rw [List.map_append, hname]
  rfl

theorem eq_append_space_of_lower {t : Text} (h : t.lower = "cl.exe ") :
    ∃ name : Text, t = name ++ " " ∧ name.lower = "cl.exe" := by
  rw [Text.lower_eq_iff (by decide)] at h
  have hparts : t.map CodePoint.asciiLower = Text.ofString "cl.exe" ++ " " := h
  obtain ⟨name, space, rfl, hname, hspace⟩ := List.map_eq_append_iff.mp hparts
  obtain ⟨c, rfl, hc⟩ := List.map_eq_singleton_iff.mp hspace
  rw [CodePoint.eq_space_of_asciiLower hc]
  exact ⟨name, rfl, (Text.lower_eq_iff (by decide) name).mpr hname⟩

theorem searchEq_defaultMarker_iff (t : Text) :
    Text.searchEq defaultMarker t = true ↔ t.lower = "cl.exe" := by
  rw [Text.searchEq_iff (by decide), Text.lower_eq_iff (by decide)]
  rfl

theorem cutAtMarker_defaultMarker_eq_none_iff {t : Text} :
    cutAtMarker defaultMarker t = none ↔ ∀ part : Text, part <:+: t → part.lower ≠ "cl.exe " := by
  rw [cutAtMarker_eq_none_iff]
  refine forall₂_congr fun part _ => ?_
  rw [← Bool.not_eq_true, Text.searchEq_iff (by decide), ne_eq, Text.lower_eq_iff (by decide)]
  rfl

/-- A path that ends in the first name of the compiler with a space behind it is found whole. -/
theorem locateMarker_append {blanks : Text} (hblanks : ∀ c ∈ blanks, c.isBlank = true)
    (hpath : path = front ++ name) (hname : name.lower = "cl.exe") (hquote : quote ∉ path)
    (hhead : ∀ c ∈ path.head?, c.isBlank = false)
    (hfirst : cutAtMarker defaultMarker (blanks ++ path) = none) (back : Text) :
    locateMarker defaultMarker (blanks ++ path ++ CodePoint.ofChar ' ' :: back) =
      .ok (path, Text.trimStart (CodePoint.ofChar ' ' :: back)) := by
  have hcut : cutAtMarker defaultMarker (blanks ++ path ++ CodePoint.ofChar ' ' :: back) =
      some (blanks ++ path, CodePoint.ofChar ' ' :: back) := by
    rw [hpath, ← List.append_assoc] at hfirst ⊢
    exact cutAtMarker_append back ((searchEq_defaultMarker_iff name).mpr hname) hfirst
  have hne := ne_nil_of_lower hname
  have hlast : ∀ c ∈ path.getLast?, c.isBlank = false := by
    intro c hc
    rw [hpath, List.getLast?_append_of_ne_nil front hne] at hc
    exact (plain_of_lower hname (List.mem_of_getLast? hc)).1
  have hcompiler : trimQuotes (blanks ++ path).trim = path := by
    rw [trim_append hblanks hhead hlast, trimQuotes_eq_self hquote]
  have hempty : path.isEmpty = false := by simp [hpath, hne]
  simp only [locateMarker, hcut, hcompiler, hempty, Bool.false_eq_true, if_false]

theorem locate_auto_of_splitFirst {line compiler : Text}
    (hsplit : splitFirst line = .ok (compiler, rest))
    (hnamed : namesMarker compiler marker = false) :
    locate .auto marker line = locateMarker marker line := by
  simp [locate, hsplit, hnamed]

/-! ## Paths with spaces -/

/-- A path to the compiler on a drive, as it stands in a command line without quotes. -/
structure IsBarePath (path : Text) : Prop where
  drive : ∃ letter rest, path = letter :: CodePoint.ofChar ':' :: Path.Windows.backslash :: rest ∧
    letter.isAsciiLetter = true
  ending : ∃ front name : Text, path = front ++ Path.Windows.backslash :: name ∧
    name.lower = "cl.exe"
  space_of_isBlank : ∀ c ∈ path, c.isBlank = true → c = CodePoint.ofChar ' '
  quote_notMem : quote ∉ path
  nul_notMem : CodePoint.nul ∉ path
  marker_notMem : ∀ part : Text, part <:+: path → part.lower ≠ "cl.exe "

/-- What stands before the first space. -/
def firstWord (path : Text) : Text := path.takeWhile (· ≠ CodePoint.ofChar ' ')

theorem firstWord_subset (path : Text) : firstWord path ⊆ path :=
  (List.takeWhile_sublist _).subset

theorem space_notMem_firstWord (path : Text) : CodePoint.ofChar ' ' ∉ firstWord path := by
  intro hmem
  simpa using List.mem_takeWhile_imp hmem

theorem firstWord_cases (path : Text) :
    firstWord path = path ∨ ∃ rest, path = firstWord path ++ CodePoint.ofChar ' ' :: rest := by
  have heq : firstWord path ++ path.dropWhile (· ≠ CodePoint.ofChar ' ') = path :=
    List.takeWhile_append_dropWhile
  have hhead := List.head?_dropWhile_not (· ≠ CodePoint.ofChar ' ') path
  cases hdrop : path.dropWhile (· ≠ CodePoint.ofChar ' ') with
  | nil =>
      rw [hdrop, List.append_nil] at heq
      exact .inl heq
  | cons c rest =>
      rw [hdrop] at hhead
      obtain rfl : c = CodePoint.ofChar ' ' := by simpa using hhead
      exact .inr ⟨rest, by rw [← hdrop, heq]⟩

namespace IsBarePath

theorem isBlank_head (h : IsBarePath path) : ∀ c ∈ path.head?, c.isBlank = false := by
  obtain ⟨letter, rest, rfl, hletter⟩ := h.drive
  rintro _ ⟨⟩
  simp only [CodePoint.isAsciiLetter, Bool.or_eq_true, Bool.and_eq_true,
    decide_eq_true_eq] at hletter
  rw [← Bool.not_eq_true]
  simp only [CodePoint.isBlank, Bool.or_eq_true, Bool.and_eq_true, decide_eq_true_eq]
  omega

theorem lower_basename (h : IsBarePath path) : (Path.basename path).lower = "cl.exe" := by
  obtain ⟨letter, rest, hdrive, hletter⟩ := h.drive
  obtain ⟨front, name, hending, hname⟩ := h.ending
  rw [hdrive] at hending
  -- The drive takes up two characters, so the last backslash comes behind it.
  rcases front with _ | ⟨first, _ | ⟨second, front⟩⟩ <;>
    simp only [List.cons_append, List.nil_append, List.cons.injEq] at hending
  · rw [hending.1] at hletter
    exact absurd hletter (by decide)
  · exact absurd hending.2.1 (by decide)
  · have hplain : ∀ c ∈ name, Path.Windows.isSeparator c = false :=
      fun c hc => (plain_of_lower hname hc).2
    rw [hdrive, hending.2.2, Path.basename_drive letter front hplain, hname]

theorem firstWord_ne_nil (h : IsBarePath path) : firstWord path ≠ [] := by
  obtain ⟨letter, rest, hdrive, -⟩ := h.drive
  have hletter : letter ≠ CodePoint.ofChar ' ' := by
    rintro rfl
    have hblank := h.isBlank_head (CodePoint.ofChar ' ') (by simp [hdrive])
    exact absurd hblank (by decide)
  rw [firstWord, hdrive, List.takeWhile_cons_of_pos (by simpa using hletter)]
  exact List.cons_ne_nil _ _

/-- Up to its first space the path is the first argument of a line that begins with it. -/
theorem splitFirst_firstWord (h : IsBarePath path) (hback : CodePoint.nul ∉ back)
    (hline : path ++ CodePoint.ofChar ' ' :: back =
      firstWord path ++ CodePoint.ofChar ' ' :: rest) :
    splitFirst (path ++ CodePoint.ofChar ' ' :: back) =
      .ok (firstWord path, (CodePoint.ofChar ' ' :: rest).dropWhile isSeparator) := by
  have hsubset := firstWord_subset path
  have hnul : CodePoint.nul ∉ path ++ CodePoint.ofChar ' ' :: back := by
    have hspace : CodePoint.nul ≠ CodePoint.ofChar ' ' := by decide
    simp [h.nul_notMem, hspace, hback]
  have hword : ∀ c ∈ firstWord path, isSeparator c = false := by
    intro c hc
    apply Bool.eq_false_iff.mpr
    intro hseparator
    have hspace := h.space_of_isBlank c (hsubset hc) (isBlank_of_isSeparator hseparator)
    exact space_notMem_firstWord path (hspace ▸ hc)
  rw [hline] at hnul ⊢
  have hline' : CodePoint.nul ∉ [] ++ (firstWord path ++ CodePoint.ofChar ' ' :: rest) := hnul
  have hsplit := Arguments.splitFirst_word hline' (List.forall_mem_nil _) h.firstWord_ne_nil
    (fun hquote => h.quote_notMem (hsubset hquote)) hword (Arguments.endsArgument_space rest)
  exact hsplit

/-- The compiler's name does not end before the first space, or the marker would stand there. -/
theorem lower_basename_firstWord (h : IsBarePath path)
    (heq : path = firstWord path ++ CodePoint.ofChar ' ' :: rest) :
    (Path.basename (firstWord path)).lower ≠ "cl.exe" := by
  intro hnamed
  obtain ⟨front, hfront⟩ := Path.basename_suffix (firstWord path)
  refine h.marker_notMem (Path.basename (firstWord path) ++ " ") ⟨front, rest, ?_⟩
    (lower_append_space hnamed)
  calc front ++ (Path.basename (firstWord path) ++ " ") ++ rest
      = front ++ Path.basename (firstWord path) ++ CodePoint.ofChar ' ' :: rest := by
        rw [← List.append_assoc, List.append_assoc]
        rfl
    _ = path := by rw [hfront, ← heq]

theorem locateMarker_eq (h : IsBarePath path) (back : Text) :
    locateMarker defaultMarker (path ++ CodePoint.ofChar ' ' :: back) =
      .ok (path, Text.trimStart (CodePoint.ofChar ' ' :: back)) := by
  obtain ⟨front, name, hending, hname⟩ := h.ending
  have hpath : path = front ++ [Path.Windows.backslash] ++ name := by
    rw [hending, List.append_cons]
  exact locateMarker_append (List.forall_mem_nil _) hpath hname h.quote_notMem h.isBlank_head
    (cutAtMarker_defaultMarker_eq_none_iff.mpr h.marker_notMem) back

/-- A path without spaces is the first argument, and that names the compiler. -/
theorem locate_auto_of_firstWord_eq (h : IsBarePath path) (hwhole : firstWord path = path)
    {c : CodePoint} {later : Text} (hnul : CodePoint.nul ∉ c :: later) (hc : c.isBlank = false) :
    locate .auto defaultMarker (path ++ CodePoint.ofChar ' ' :: c :: later) =
      .ok (path, c :: later) := by
  have hsplit := h.splitFirst_firstWord hnul (by rw [hwhole])
  have hnamed := (namesMarker_defaultMarker path).mpr (.inl h.lower_basename)
  rw [hwhole, dropWhile_space_cons later (by decide) (not_isSeparator_of_not_isBlank hc)] at hsplit
  exact locate_of_splitFirst hsplit (hwhole ▸ h.firstWord_ne_nil) (.inr ⟨rfl, hnamed⟩)

end IsBarePath

/-- An unquoted path with spaces is found whole, unless its first word names the compiler without
its ending. -/
theorem locate_auto_barePath (hpath : IsBarePath path) (hnul : CodePoint.nul ∉ arguments)
    (hstart : ∃ c ∈ arguments.head?, c.isBlank = false) :
    locate .auto defaultMarker (path ++ " " ++ arguments) = .ok (path, arguments) ↔
      (Path.basename (firstWord path)).lower ≠ "cl" := by
  have hline : path ++ " " ++ arguments = path ++ CodePoint.ofChar ' ' :: arguments :=
    List.append_assoc path " " arguments
  obtain ⟨first, hhead, hfirst⟩ := hstart
  obtain ⟨later, rfl⟩ := List.head?_eq_some_iff.mp hhead
  rw [hline]
  rcases firstWord_cases path with hwhole | ⟨rest, heq⟩
  · apply iff_of_true (hpath.locate_auto_of_firstWord_eq hwhole hnul hfirst)
    rw [hwhole, hpath.lower_basename]
    decide
  · have hword (back : Text) : path ++ back =
        firstWord path ++ CodePoint.ofChar ' ' :: (rest ++ back) := by
      calc path ++ back = firstWord path ++ CodePoint.ofChar ' ' :: rest ++ back := by rw [← heq]
        _ = _ := by rw [List.append_assoc, List.cons_append]
    have hsplit := hpath.splitFirst_firstWord hnul (hword _)
    have hother := hpath.lower_basename_firstWord heq
    by_cases hstem : (Path.basename (firstWord path)).lower = "cl"
    · -- The first word is taken for the compiler, and is shorter than the path.
      have hlocate := locate_of_splitFirst hsplit hpath.firstWord_ne_nil
        (.inr ⟨rfl, (namesMarker_defaultMarker _).mpr (.inr hstem)⟩)
      apply iff_of_false _ (not_not_intro hstem)
      rw [hlocate]
      intro hfound
      have hwhole : firstWord path = path := congrArg Prod.fst (Except.ok.inj hfound)
      simp [hwhole] at heq
    · have hnamed : namesMarker (firstWord path) defaultMarker = false := by
        rw [← Bool.not_eq_true, namesMarker_defaultMarker]
        exact not_or.mpr ⟨hother, hstem⟩
      apply iff_of_true _ hstem
      rw [locate_auto_of_splitFirst hsplit hnamed, hpath.locateMarker_eq, Text.trimStart,
        dropWhile_space_cons later (by decide) hfirst]

theorem locate_auto_barePath_programFiles :
    IsBarePath "C:\\Program Files (x86)\\VC\\bin\\CL.exe" ∧
      (Path.basename (firstWord "C:\\Program Files (x86)\\VC\\bin\\CL.exe")).lower ≠ "cl" ∧
      locate .auto defaultMarker
          ("C:\\Program Files (x86)\\VC\\bin\\CL.exe" ++ " " ++ "/c  a.cpp") =
        .ok ("C:\\Program Files (x86)\\VC\\bin\\CL.exe", "/c  a.cpp") := by
  have hpath : IsBarePath "C:\\Program Files (x86)\\VC\\bin\\CL.exe" :=
    { drive := ⟨CodePoint.ofChar 'C', "Program Files (x86)\\VC\\bin\\CL.exe", rfl, by decide⟩
      ending := ⟨"C:\\Program Files (x86)\\VC\\bin", "CL.exe", rfl, by decide⟩
      space_of_isBlank := by decide
      quote_notMem := by decide
      nul_notMem := by decide
      marker_notMem := cutAtMarker_defaultMarker_eq_none_iff.mp (by decide +kernel) }
  have hword :
      (Path.basename (firstWord "C:\\Program Files (x86)\\VC\\bin\\CL.exe")).lower ≠ "cl" := by
    decide +kernel
  have hstart : ∃ c ∈ (Text.ofString "/c  a.cpp").head?, c.isBlank = false :=
    ⟨CodePoint.ofChar '/', rfl, by decide⟩
  exact ⟨hpath, hword, (locate_auto_barePath hpath (by decide) hstart).mpr hword⟩

/-- A directory in whose name a space follows the name of the compiler. -/
theorem locate_auto_directory_cl :
    IsBarePath "C:\\cl tools\\bin\\cl.exe" ∧
      CodePoint.ofChar '/' ∉ Text.ofString "C:\\cl tools\\bin\\cl.exe" ∧
      CodePoint.nul ∉ Text.ofString "/c a.cpp" ∧
      (∃ c ∈ (Text.ofString "/c a.cpp").head?, c.isBlank = false) ∧
      locate .auto defaultMarker ("C:\\cl tools\\bin\\cl.exe" ++ " " ++ "/c a.cpp") =
        .ok ("C:\\cl", "tools\\bin\\cl.exe /c a.cpp") ∧
      locate .auto defaultMarker ("C:\\cl tools\\bin\\cl.exe" ++ " " ++ "/c a.cpp") ≠
        .ok ("C:\\cl tools\\bin\\cl.exe", "/c a.cpp") := by
  have hlocate :
      locate .auto defaultMarker ("C:\\cl tools\\bin\\cl.exe" ++ " " ++ "/c a.cpp") =
        .ok ("C:\\cl", "tools\\bin\\cl.exe /c a.cpp") :=
    eq_ok_of_toOption (by decide +kernel)
  have hpath : IsBarePath "C:\\cl tools\\bin\\cl.exe" :=
    { drive := ⟨CodePoint.ofChar 'C', "cl tools\\bin\\cl.exe", rfl, by decide⟩
      ending := ⟨"C:\\cl tools\\bin", "cl.exe", rfl, by decide⟩
      space_of_isBlank := by decide
      quote_notMem := by decide
      nul_notMem := by decide
      marker_notMem := cutAtMarker_defaultMarker_eq_none_iff.mp (by decide +kernel) }
  refine ⟨hpath, by decide, by decide, ⟨CodePoint.ofChar '/', rfl, by decide⟩, hlocate, ?_⟩
  rw [hlocate]
  intro hfound
  have hcompiler := congrArg Prod.fst (Except.ok.inj hfound)
  exact absurd hcompiler (by decide)

/-! ## Words without quotes -/

/-- The marker with a space behind it does not end in a word, and does not fit in front of one. -/
theorem cutAtMarker_separators_append {blanks : Text}
    (hblanks : ∀ c ∈ blanks, isSeparator c = true) (hword : ∀ c ∈ word, isSeparator c = false) :
    cutAtMarker defaultMarker (blanks ++ word) = none := by
  rw [cutAtMarker_defaultMarker_eq_none_iff]
  rintro part ⟨before, after, heq⟩ hlower
  obtain ⟨name, rfl, hname⟩ := eq_append_space_of_lower hlower
  have hsplit : (before ++ name) ++ CodePoint.ofChar ' ' :: after = blanks ++ word := by
    rw [← heq, List.append_assoc, List.append_assoc, List.append_assoc]
    rfl
  rcases List.append_eq_append_iff.mp hsplit with ⟨later, hfront, -⟩ | ⟨later, -, hback⟩
  · obtain ⟨c, hc⟩ := List.exists_mem_of_ne_nil name (ne_nil_of_lower hname)
    have hseparator : isSeparator c = true := hblanks c (by simp [hfront, hc])
    have hplain := not_isSeparator_of_not_isBlank (plain_of_lower hname hc).1
    simp [hplain] at hseparator
  · have hspace := hword (CodePoint.ofChar ' ') (by simp [hback])
    exact absurd hspace (by decide)

/-- A first argument that is written without quotes and names the compiler is found by all
strategies alike. -/
theorem locate_unquoted {blanks : Text} (strategy : Strategy)
    (hnul : CodePoint.nul ∉ blanks ++ word ++ " " ++ rest)
    (hwhite : ∀ c ∈ blanks ++ word ++ " " ++ rest, c.isBlank = true → isSeparator c = true)
    (hblanks : ∀ c ∈ blanks, isSeparator c = true) (hword : ∀ c ∈ word, isSeparator c = false)
    (hquote : quote ∉ word) (hnamed : (Path.basename word).lower = "cl.exe") :
    locate strategy defaultMarker (blanks ++ word ++ " " ++ rest) =
      .ok (word, rest.dropWhile isSeparator) := by
  have hline : blanks ++ word ++ " " ++ rest = blanks ++ word ++ CodePoint.ofChar ' ' :: rest :=
    List.append_assoc (blanks ++ word) " " rest
  have hne : word ≠ [] := by
    rintro rfl
    exact absurd hnamed (by decide)
  have hback : (CodePoint.ofChar ' ' :: rest).dropWhile isSeparator = rest.dropWhile isSeparator :=
    List.dropWhile_cons_of_pos (by decide)
  rw [hline] at hnul hwhite ⊢
  have hsplit : splitFirst (blanks ++ word ++ CodePoint.ofChar ' ' :: rest) =
      .ok (word, rest.dropWhile isSeparator) := by
    rw [List.append_assoc] at hnul ⊢
    rw [Arguments.splitFirst_word hnul hblanks hne hquote hword (Arguments.endsArgument_space rest),
      hback]
  cases strategy with
  | firstToken => exact locate_of_splitFirst hsplit hne (.inl rfl)
  | auto =>
      exact locate_of_splitFirst hsplit hne
        (.inr ⟨rfl, (namesMarker_defaultMarker word).mpr (.inl hnamed)⟩)
  | marker =>
      obtain ⟨front, hfront⟩ := Path.basename_suffix word
      have hhead : ∀ c ∈ word.head?, c.isBlank = false := by
        intro c hc
        have hmem := List.mem_of_head? hc
        apply Bool.eq_false_iff.mpr
        intro hblank
        have hseparator := hwhite c (by simp [hmem]) hblank
        simp [hword c hmem] at hseparator
      have htrim := trimStart_eq_dropWhile fun c hc => hwhite c (List.mem_append_right _ hc)
      have hmarker := locateMarker_append (fun c hc => isBlank_of_isSeparator (hblanks c hc))
        hfront.symm hnamed hquote hhead (cutAtMarker_separators_append hblanks hword) rest
      rw [locate, hmarker, htrim, hback]

/-- The arguments hold quotes, and one of them names the compiler once more. -/
theorem locate_unquoted_mixed :
    locate .auto defaultMarker
          (" \t" ++ "C:/VC\\CL.exe" ++ " " ++ "\t /c \"a b.cpp\" D:\\cl.exe x") =
        .ok ("C:/VC\\CL.exe", "/c \"a b.cpp\" D:\\cl.exe x") ∧
      locate .firstToken defaultMarker
          (" \t" ++ "C:/VC\\CL.exe" ++ " " ++ "\t /c \"a b.cpp\" D:\\cl.exe x") =
        .ok ("C:/VC\\CL.exe", "/c \"a b.cpp\" D:\\cl.exe x") ∧
      locate .marker defaultMarker
          (" \t" ++ "C:/VC\\CL.exe" ++ " " ++ "\t /c \"a b.cpp\" D:\\cl.exe x") =
        .ok ("C:/VC\\CL.exe", "/c \"a b.cpp\" D:\\cl.exe x") := by
  have hnul : CodePoint.nul ∉
      Text.ofString " \t" ++ "C:/VC\\CL.exe" ++ " " ++ "\t /c \"a b.cpp\" D:\\cl.exe x" := by decide
  have hfound (strategy : Strategy) := locate_unquoted strategy hnul (by decide) (by decide)
    (by decide) (by decide) (by decide)
  exact ⟨hfound .auto, hfound .firstToken, hfound .marker⟩

end BuildRecorder.Compiler
