import BuildRecorder.Proofs.Path.Slashes
import Mathlib.Data.List.DropRight

/-!
# Directory and basename

A path is its parent, a run of separators and its basename, one after the other. Where there are
separators in between, the parent has none left at its end. Where there are none, the parent is a
root: the drive, if the path has one, and nothing but separators behind it.
-/

namespace BuildRecorder.Path

variable {separates : CodePoint → Bool} {t : Text}

/-- A text in three parts: a directory, a run of separators and a name. -/
structure IsCut (separates : CodePoint → Bool) (t directory gap name : Text) : Prop where
  eq_append : t = directory ++ gap ++ name
  gap_separates : ∀ c ∈ gap, separates c = true
  name_plain : ∀ c ∈ name, separates c = false
  directory_plain : gap ≠ [] → ∃ c, directory.getLast? = some c ∧ separates c = false
  directory_root : gap = [] → ∀ c ∈ directory, separates c = true

/-- What stands before the last segment, without the separators in between unless there is nothing
but separators. -/
def beforeLast (separates : CodePoint → Bool) (t : Text) : Text :=
  let front := t.rdropWhile (!separates ·)
  if front.all separates then front else front.rdropWhile separates

theorem exists_getLast?_rdropWhile (h : t.all separates = false) :
    ∃ c, (t.rdropWhile separates).getLast? = some c ∧ separates c = false := by
  have hne : t.rdropWhile separates ≠ [] := by
    rw [ne_eq, List.rdropWhile_eq_nil_iff, ← List.all_eq_true, h]
    decide
  exact ⟨_, List.getLast?_eq_some_getLast hne, by
    simpa using List.rdropWhile_last_not separates t hne⟩

/-- Up to its last separator a text ends in one. -/
theorem rtakeWhile_rdropWhile_ne_nil (h : t.rdropWhile (!separates ·) ≠ []) :
    (t.rdropWhile (!separates ·)).rtakeWhile separates ≠ [] := by
  rw [ne_eq, List.rtakeWhile_eq_nil_iff]
  intro hplain
  have hlast := List.rdropWhile_last_not (!separates ·) t h
  rw [Bool.not_eq_true', Bool.not_eq_false] at hlast
  exact hplain h hlast

theorem exists_isCut (separates : CodePoint → Bool) (t : Text) :
    ∃ gap, IsCut separates t (beforeLast separates t) gap (t.rtakeWhile (!separates ·)) := by
  have hwhole : t.rdropWhile (!separates ·) ++ t.rtakeWhile (!separates ·) = t :=
    List.rdropWhile_append_rtakeWhile
  have hname : ∀ c ∈ t.rtakeWhile (!separates ·), separates c = false := by
    intro c hc
    simpa using List.mem_rtakeWhile_imp hc
  unfold beforeLast
  dsimp only
  split
  · next hroot =>
    exact ⟨[], by rw [List.append_nil, hwhole], by simp, hname, fun h => absurd rfl h,
      fun _ => List.all_eq_true.mp hroot⟩
  · next hplain =>
    have hfront : t.rdropWhile (!separates ·) ≠ [] := fun hnil => hplain (by rw [hnil]; rfl)
    refine ⟨(t.rdropWhile (!separates ·)).rtakeWhile separates, ?_,
      fun c hc => List.mem_rtakeWhile_imp hc, hname,
      fun _ => exists_getLast?_rdropWhile (Bool.eq_false_iff.mpr hplain),
      fun hnil => absurd hnil (rtakeWhile_rdropWhile_ne_nil hfront)⟩
    rw [List.rdropWhile_append_rtakeWhile, hwhole]

/-! ## The flavour of a path -/

/-- The separators of the flavour that a path is written in. -/
def separatesIn (path : Text) : CodePoint → Bool :=
  if isWindows path then Windows.isSeparator else Posix.isSeparator

/-- The drive of a path, by the rules of its flavour. -/
def driveOf (path : Text) : Text := if isWindows path then Windows.drive path else []

theorem separatesIn_eq_true_iff {path : Text} {c : CodePoint} (hc : c ∈ path) :
    separatesIn path c = true ↔ c = Posix.slash ∨ c = Windows.backslash := by
  unfold separatesIn
  split
  · rw [Windows.isSeparator, Bool.or_eq_true_iff, decide_eq_true_iff, decide_eq_true_iff, or_comm]
    rfl
  · next hslashes =>
    have hne : c ≠ Windows.backslash :=
      ne_of_mem_of_not_mem hc (isWindows_eq_false_iff.mp (Bool.eq_false_iff.mpr hslashes)).1
    rw [Posix.isSeparator, decide_eq_true_iff, or_iff_left hne]

/-- Behind its drive a path is cut into what its parent ends with, separators and its basename. -/
theorem exists_isCut_afterDrive (path : Text) :
    ∃ rest directory gap, path = driveOf path ++ rest ∧
      parent path = driveOf path ++ directory ∧
      IsCut (separatesIn path) rest directory gap (basename path) := by
  unfold driveOf parent basename separatesIn
  split
  · obtain ⟨gap, hcut⟩ := exists_isCut Windows.isSeparator (Windows.afterDrive path)
    exact ⟨_, _, gap, (List.take_append_drop _ path).symm, rfl, hcut⟩
  · obtain ⟨gap, hcut⟩ := exists_isCut Posix.isSeparator path
    exact ⟨_, _, gap, rfl, rfl, hcut⟩

/-- Nothing of a path is lost between its directory and its basename but a run of separators. There
are none in the basename and none at the end of the directory, unless the directory is a root. -/
theorem exists_eq_parent_append_basename (path : Text) :
    ∃ gap : Text, path = parent path ++ gap ++ basename path ∧
      (∀ c ∈ gap, c = Posix.slash ∨ c = Windows.backslash) ∧
      (Posix.slash ∉ basename path ∧ Windows.backslash ∉ basename path) ∧
      (gap ≠ [] → ∃ c, (parent path).getLast? = some c ∧ separatesIn path c = false) ∧
      (gap = [] → ∃ root, parent path = driveOf path ++ root ∧
        ∀ c ∈ root, separatesIn path c = true) := by
  obtain ⟨rest, directory, gap, hpath, hparent, hcut⟩ := exists_isCut_afterDrive path
  have hwhole : path = parent path ++ gap ++ basename path := by
    rw [hparent, List.append_assoc, List.append_assoc, ← List.append_assoc directory,
      ← hcut.eq_append, ← hpath]
  have hgap : ∀ c ∈ gap, c ∈ path := by
    intro c hc
    rw [hwhole]
    simp [hc]
  have hname : ∀ c ∈ basename path, c ∈ path := by
    intro c hc
    rw [hwhole]
    simp [hc]
  have hplain : ∀ c ∈ basename path, ¬(c = Posix.slash ∨ c = Windows.backslash) := by
    intro c hc hseparator
    rw [← separatesIn_eq_true_iff (hname c hc), hcut.name_plain c hc] at hseparator
    cases hseparator
  refine ⟨gap, hwhole, ?_, ?_, ?_, ?_⟩
  · exact fun c hc => (separatesIn_eq_true_iff (hgap c hc)).mp (hcut.gap_separates c hc)
  · exact ⟨fun hc => hplain _ hc (.inl rfl), fun hc => hplain _ hc (.inr rfl)⟩
  · intro hne
    obtain ⟨c, hlast, hc⟩ := hcut.directory_plain hne
    refine ⟨c, ?_, hc⟩
    rw [hparent, List.getLast?_append, hlast]
    rfl
  · exact fun hnil => ⟨directory, hparent, hcut.directory_root hnil⟩

/-- One path has mixed separators behind a share, the other none but those of its root. -/
theorem exists_eq_parent_append_basename_mixed :
    (∃ c, (parent "\\\\host\\share\\lib\\/a.c").getLast? = some c ∧
      separatesIn "\\\\host\\share\\lib\\/a.c" c = false) ∧
    ∃ root, parent "C:\\/a.c" = driveOf "C:\\/a.c" ++ root ∧
      ∀ c ∈ root, separatesIn "C:\\/a.c" c = true := by
  constructor
  · obtain ⟨gap, hpath, -, -, hplain, -⟩ :=
      exists_eq_parent_append_basename "\\\\host\\share\\lib\\/a.c"
    apply hplain
    rintro rfl
    exact absurd hpath (by decide)
  · obtain ⟨gap, hpath, -, -, -, hroot⟩ := exists_eq_parent_append_basename "C:\\/a.c"
    apply hroot
    have hlength := congrArg List.length hpath
    have hparts : (parent "C:\\/a.c").length + (basename "C:\\/a.c").length =
        (Text.ofString "C:\\/a.c").length := by decide
    rw [List.length_append, List.length_append] at hlength
    exact List.length_eq_zero_iff.mp (by omega)

end BuildRecorder.Path
