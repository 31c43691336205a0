import BuildRecorder.Proofs.Path.Characters
import Mathlib.Data.List.TakeWhile

/-!
# Paths with slashes

A path that starts at a root is told by its root and its names. A relative path that is put behind
it keeps the root and walks on from the names.
-/

namespace BuildRecorder.Path

variable {base path : Text}

theorem isWindows_eq_false_iff :
    isWindows path = false ↔
      Windows.backslash ∉ path ∧
        ∀ letter rest, path = letter :: CodePoint.ofChar ':' :: rest →
          letter.isAsciiLetter = false := by
  have hany : path.any (· = Windows.backslash) = false ↔ Windows.backslash ∉ path := by
    rw [List.any_eq_false]
    exact ⟨fun h hmem => h _ hmem (by simp), fun h c hc heq => h (of_decide_eq_true heq ▸ hc)⟩
  unfold isWindows
  rw [Bool.or_eq_false_iff, hany, and_comm]
  apply and_congr_right
  intro _
  split
  · next letter colon rest _ =>
    by_cases hcolon : colon = CodePoint.ofChar ':' <;> simp [hcolon]
  · next hshort => exact ⟨fun _ letter rest heq => (hshort _ _ _ heq).elim, fun _ => rfl⟩

theorem plain_of_mem_resolve {separates : CodePoint → Bool} (hup : ∀ c ∈ up, separates c = false)
    (rooted : Bool) (path : Text) :
    ∀ segment ∈ resolve rooted (Text.splitOn separates path),
      segment ≠ [] ∧ ∀ c ∈ segment, separates c = false :=
  forall_mem_resolve ⟨by decide, hup⟩ fun segment hsegment hne =>
    ⟨hne, Text.not_separates_of_mem_splitOn path segment hsegment⟩

namespace Posix

@[simp] theorem isSeparator_slash : isSeparator slash = true := by decide

theorem isAbsolute_iff : isAbsolute path = true ↔ ∃ rest, path = slash :: rest := by
  cases path with
  | nil => simp [isAbsolute]
  | cons c rest => simp [isAbsolute]

theorem isAbsolute_eq_false_iff :
    isAbsolute path = false ↔ ∀ c ∈ path.head?, isSeparator c = false := by
  cases path with
  | nil => simp [isAbsolute]
  | cons c rest => simp [isAbsolute, isSeparator]

theorem isWindows_of_isAbsolute (habsolute : isAbsolute path = true)
    (hpath : Windows.backslash ∉ path) : isWindows path = false := by
  obtain ⟨rest, rfl⟩ := isAbsolute_iff.mp habsolute
  refine isWindows_eq_false_iff.mpr ⟨hpath, fun letter rest heq => ?_⟩
  cases heq
  decide

/-! ## Normalized paths -/

theorem root_cases (habsolute : isAbsolute path = true) :
    root path = [slash] ∨ root path = [slash, slash] := by
  obtain ⟨rest, rfl⟩ := isAbsolute_iff.mp habsolute
  unfold root
  split
  · next hzero => simp at hzero
  · exact .inr rfl
  · exact .inl rfl

theorem root_append {front rest : Text} (hfront : front = [slash] ∨ front = [slash, slash])
    (hrest : ∀ c ∈ rest.head?, isSeparator c = false) : root (front ++ rest) = front := by
  have hslashes : ∀ c ∈ front, isSeparator c = true := by
    rcases hfront with rfl | rfl <;> simp
  rw [root, List.takeWhile_append_of_pos hslashes, Text.takeWhile_eq_nil hrest, List.append_nil]
  rcases hfront with rfl | rfl <;> rfl

theorem normalize_of_isAbsolute (habsolute : isAbsolute path = true) :
    normalize path = root path ++ Text.join [slash] (names isSeparator path) := by
  have hne : (root path ++ Text.join [slash] (names isSeparator path)).isEmpty = false := by
    rcases root_cases habsolute with hroot | hroot <;> simp [hroot]
  unfold normalize
  dsimp only
  rw [habsolute, ← names, hne]
  rfl

theorem root_normalize (habsolute : isAbsolute path = true) :
    root (normalize path) = root path := by
  rw [normalize_of_isAbsolute habsolute]
  apply root_append (root_cases habsolute)
  apply Text.not_separates_head?_join
  intro name hname
  have hisName := isName_of_mem_names isSeparator path name hname
  exact ⟨hisName.ne_nil, hisName.plain⟩

theorem names_root_append {front : Text} (hfront : front = [slash] ∨ front = [slash, slash])
    (rest : Text) : names isSeparator (front ++ rest) = names isSeparator rest := by
  rcases hfront with rfl | rfl
  · exact names_cons_separator isSeparator_slash rest
  · rw [List.cons_append, List.singleton_append, names_cons_separator isSeparator_slash,
      names_cons_separator isSeparator_slash]

theorem names_normalize (habsolute : isAbsolute path = true) :
    names isSeparator (normalize path) = names isSeparator path := by
  rw [normalize_of_isAbsolute habsolute, names_root_append (root_cases habsolute),
    names_join isSeparator_slash (isName_of_mem_names isSeparator path)]

theorem isAbsolute_normalize (habsolute : isAbsolute path = true) :
    isAbsolute (normalize path) = true := by
  rw [normalize_of_isAbsolute habsolute]
  rcases root_cases habsolute with hroot | hroot <;> simp [hroot, isAbsolute]

theorem isWindows_normalize (habsolute : isAbsolute path = true)
    (hpath : Windows.backslash ∉ path) : isWindows (normalize path) = false := by
  refine isWindows_of_isAbsolute (isAbsolute_normalize habsolute) fun hmem => ?_
  have hplain : ∀ c ∈ normalize path, c ≠ Windows.backslash :=
    forall_mem_normalize (by decide) (by decide) fun c hc => ne_of_mem_of_not_mem hc hpath
  exact hplain _ hmem rfl

/-- A path that starts at a root leads to where its root and its names say. -/
theorem normalize_congr {path other : Text} (hpath : isAbsolute path = true)
    (hother : isAbsolute other = true) (hroot : root path = root other)
    (hnames : names isSeparator path = names isSeparator other) :
    normalize path = normalize other := by
  rw [normalize_of_isAbsolute hpath, normalize_of_isAbsolute hother, hroot, hnames]

theorem normalize_of_not_isAbsolute (hrelative : isAbsolute path = false) :
    normalize path =
      if (Text.join [slash] (resolve false (Text.splitOn isSeparator path))).isEmpty then current
      else Text.join [slash] (resolve false (Text.splitOn isSeparator path)) := by
  have hroot : root path = [] := by
    rw [root, Text.takeWhile_eq_nil (isAbsolute_eq_false_iff.mp hrelative)]
    rfl
  unfold normalize
  dsimp only
  rw [hrelative, hroot, List.nil_append]

/-! ## Joined paths -/

theorem join_of_isAbsolute (base : Text) (habsolute : isAbsolute path = true) :
    join base path = path := by
  rw [join, if_pos habsolute]

theorem join_of_not_isAbsolute (base : Text) (hrelative : isAbsolute path = false) :
    join base path =
      if base.isEmpty || base.getLast? = some slash then base ++ path
      else base ++ slash :: path := by
  rw [join, if_neg (Bool.eq_false_iff.mp hrelative)]

theorem isAbsolute_join (path : Text) (habsolute : isAbsolute base = true) :
    isAbsolute (join base path) = true := by
  unfold join
  split
  · next hpath => exact hpath
  · obtain ⟨rest, rfl⟩ := isAbsolute_iff.mp habsolute
    split <;> exact isAbsolute_iff.mpr ⟨_, rfl⟩

theorem names_join_of_relative (base : Text) (hrelative : isAbsolute path = false) :
    names isSeparator (join base path) =
      resolve true (names isSeparator base ++ path.splitOn isSeparator) := by
  rw [join_of_not_isAbsolute base hrelative]
  split
  · next hend =>
    refine names_append (fun c hc => ?_) path
    rcases Bool.or_eq_true_iff.mp hend with hempty | hslash
    · rw [List.isEmpty_iff.mp hempty] at hc
      cases hc
    · rw [of_decide_eq_true hslash] at hc
      cases hc
      exact isSeparator_slash
  · exact names_append_cons isSeparator_slash base path

theorem isAbsolute_join_eq_false (h : ¬(isAbsolute path = true ∨ isAbsolute base = true)) :
    isAbsolute (join base path) = false := by
  obtain ⟨hpath, hbase⟩ := not_or.mp h
  rw [join, if_neg hpath]
  cases base with
  | nil => simpa using hpath
  | cons c base => split <;> simpa [isAbsolute] using hbase

theorem backslash_notMem_join (hbase : isWindows base = false) (hpath : isWindows path = false) :
    Windows.backslash ∉ join base path := by
  intro hmem
  have hplain : ∀ c ∈ join base path, c ≠ Windows.backslash :=
    forall_mem_join (by decide)
      (fun c hc => ne_of_mem_of_not_mem hc (isWindows_eq_false_iff.mp hbase).1)
      (fun c hc => ne_of_mem_of_not_mem hc (isWindows_eq_false_iff.mp hpath).1)
  exact hplain _ hmem rfl

theorem takeWhile_append_eq {front back : Text}
    (h : back.takeWhile isSeparator = [] ∨ ∃ c ∈ front, isSeparator c = false) :
    (front ++ back).takeWhile isSeparator = front.takeWhile isSeparator := by
  rw [List.takeWhile_append]
  split
  · next hall =>
    have hfront : front.takeWhile isSeparator = front :=
      (List.takeWhile_prefix isSeparator).eq_of_length hall
    rcases h with hback | ⟨c, hc, hplain⟩
    · rw [hback, List.append_nil, hfront]
    · rw [← hfront] at hc
      exact absurd (List.mem_takeWhile_imp hc) (by simp [hplain])
  · rfl

/-- The root of a base shows through whatever relative path is put behind it. -/
theorem root_join (base : Text) (hrelative : isAbsolute path = false) :
    root (join base path) = root base := by
  have htake : (join base path).takeWhile isSeparator = base.takeWhile isSeparator := by
    rw [join_of_not_isAbsolute base hrelative]
    split
    · exact takeWhile_append_eq
        (.inl (Text.takeWhile_eq_nil (isAbsolute_eq_false_iff.mp hrelative)))
    · next hend =>
      obtain ⟨hne, hlast⟩ := not_or.mp (mt Bool.or_eq_true_iff.mpr hend)
      have hne' : base ≠ [] := fun h => hne (List.isEmpty_iff.mpr h)
      refine takeWhile_append_eq (.inr ⟨base.getLast hne', List.getLast_mem hne', ?_⟩)
      simpa [isSeparator, List.getLast?_eq_some_getLast hne'] using hlast
  rw [root, htake, ← root]

theorem canonical_eq (hbase : isWindows base = false) (hpath : isWindows path = false) :
    canonical base path = normalize (join base path) := by
  rw [canonical, hbase, hpath]
  rfl

end Posix

end BuildRecorder.Path
