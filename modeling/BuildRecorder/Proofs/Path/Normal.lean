import BuildRecorder.Proofs.Path.Drives
import BuildRecorder.Proofs.Path.Slashes

/-!
# Canonical paths are a normal form

Seen from a directory that starts at a root, a canonical path is a root and the names behind it,
with one separator between each two. Making such a path canonical once more leaves it as it is, from
whatever directory it is seen.
-/

namespace BuildRecorder.Path

variable {base path : Text}

namespace Posix

/-- A path as it is written once it is canonical. -/
def IsNormal (path : Text) : Prop :=
  ∃ root written, (root = [slash] ∨ root = [slash, slash]) ∧
    (∀ name ∈ written, IsName isSeparator name) ∧ path = root ++ Text.join [slash] written

theorem isNormal_normalize (habsolute : isAbsolute path = true) : IsNormal (normalize path) :=
  ⟨_, _, root_cases habsolute, isName_of_mem_names isSeparator path,
    normalize_of_isAbsolute habsolute⟩

theorem IsNormal.isAbsolute (h : IsNormal path) : isAbsolute path = true := by
  obtain ⟨root, written, hroot, -, rfl⟩ := h
  rcases hroot with rfl | rfl <;> simp [Posix.isAbsolute]

theorem IsNormal.normalize_eq (h : IsNormal path) : normalize path = path := by
  have habsolute := h.isAbsolute
  obtain ⟨front, written, hfront, hwritten, rfl⟩ := h
  have hroot : root (front ++ Text.join [slash] written) = front := by
    apply root_append hfront
    apply Text.not_separates_head?_join
    exact fun name hname => ⟨(hwritten name hname).ne_nil, (hwritten name hname).plain⟩
  rw [normalize_of_isAbsolute habsolute, hroot, names_root_append hfront,
    names_join isSeparator_slash hwritten]

theorem IsNormal.canonical_eq {other : Text} (h : IsNormal path) (hother : isWindows other = false)
    (hpath : isWindows path = false) : canonical other path = path := by
  rw [Posix.canonical_eq hother hpath, join_of_isAbsolute other h.isAbsolute, h.normalize_eq]

end Posix

namespace Windows

variable {letter : CodePoint}

/-- A path as it is written on a drive once it is canonical. -/
def IsNormalOn (drive path : Text) : Prop :=
  ∃ written, (∀ name ∈ written, IsName isSeparator name) ∧
    path = drive ++ backslash :: Text.join [backslash] written

theorem IsNormalOn.canonical_eq (hletter : letter.isAsciiLetter = true)
    (h : IsNormalOn [letter, CodePoint.ofChar ':'] path) (other : Text) :
    canonical other path = path := by
  obtain ⟨written, hwritten, rfl⟩ := h
  have hrooted : isRooted (backslash :: Text.join [backslash] written) = true := by
    simp [isRooted]
  rw [List.cons_append, List.cons_append, List.nil_append,
    Windows.canonical_eq (.inr (isWindows_colon hletter _)), join_colon other letter hrooted,
    normalize_letter hletter hrooted, names_cons_separator isSeparator_backslash,
    names_join isSeparator_backslash hwritten]

/-- From a base with a drive letter every path but a share or one that hangs on the current
directory of a drive is brought to a root. -/
theorem exists_join_eq (hbase : HasLetterRoot base)
    (hpath : HasLetterRoot path ∨ IsDriveless path) :
    ∃ letter rest, letter.isAsciiLetter = true ∧ isRooted rest = true ∧
      join base path = letter :: CodePoint.ofChar ':' :: rest ∧
        keptDrive base path = [letter, CodePoint.ofChar ':'] := by
  rcases hpath with hpath | hpath
  · have hjoin := join_letterRoot base hpath
    obtain ⟨letter, rest, hletter, hrest, rfl⟩ := hpath
    exact ⟨letter, rest, hletter, hrest, hjoin, keptDrive_colon base letter rest⟩
  · obtain ⟨letter, rest, hletter, hrest, rfl⟩ := hbase
    refine ⟨letter, _, hletter, ?_, join_of_isDriveless letter rest hpath, ?_⟩
    · split
      · next hrooted => exact hrooted
      · rw [isRooted_extend, hrest, Bool.true_or]
    · rw [keptDrive_of_isDriveless _ hpath, drive_colon]

end Windows

/-- Seen from a root, a canonical path is a root and names with one separator between each two; on
Windows its drive is that of the path, or else that of the base. A path that is written so is left
as it is, from whatever directory of its flavour it is seen. -/
theorem canonical_isNormal (base path : Text) :
    (Posix.isAbsolute base = true → isWindows base = false → isWindows path = false →
      Posix.IsNormal (canonical base path) ∧
        (canonical base path = path ↔ Posix.IsNormal path) ∧
        ∀ other, isWindows other = false →
          canonical other (canonical base path) = canonical base path) ∧
    (Windows.HasLetterRoot base → Windows.HasLetterRoot path ∨ Windows.IsDriveless path →
      Windows.IsNormalOn (Windows.keptDrive base path) (canonical base path) ∧
        (canonical base path = path ↔ Windows.IsNormalOn (Windows.keptDrive base path) path) ∧
        ∀ other, canonical other (canonical base path) = canonical base path) := by
  constructor
  · intro habsolute hbase hpath
    have hjoin := Posix.isAbsolute_join path habsolute
    have hplain := Posix.isWindows_normalize hjoin (Posix.backslash_notMem_join hbase hpath)
    have hnormal := Posix.isNormal_normalize hjoin
    rw [← Posix.canonical_eq hbase hpath] at hplain hnormal
    refine ⟨hnormal, ⟨fun heq => ?_, fun hwritten => ?_⟩, fun other hother => ?_⟩
    · rwa [heq] at hnormal
    · exact hwritten.canonical_eq hbase hpath
    · exact hnormal.canonical_eq hother hplain
  · intro hbase hpath
    obtain ⟨letter, rest, hletter, hrest, hjoin, hdrive⟩ := Windows.exists_join_eq hbase hpath
    have hnormal : Windows.IsNormalOn [letter, CodePoint.ofChar ':'] (canonical base path) := by
      rw [Windows.canonical_eq (.inl hbase.isWindows), hjoin,
        Windows.normalize_letter hletter hrest]
      exact ⟨_, isName_of_mem_names Windows.isSeparator rest, rfl⟩
    rw [hdrive]
    refine ⟨hnormal, ⟨fun heq => ?_, fun hwritten => ?_⟩, fun other => ?_⟩
    · rwa [heq] at hnormal
    · exact hwritten.canonical_eq hletter base
    · exact hnormal.canonical_eq hletter other

theorem canonical_isNormal_climbing :
    (Posix.isAbsolute "//srv/app" = true ∧ isWindows "//srv/app" = false ∧
      isWindows "../../..//./cl" = false ∧
      Posix.IsNormal (canonical "//srv/app" "../../..//./cl") ∧
      canonical "/other" (canonical "//srv/app" "../../..//./cl") =
        canonical "//srv/app" "../../..//./cl") ∧
    Windows.HasLetterRoot "C:/src\\app" ∧ Windows.IsDriveless "\\..\\VC//bin\\.\\cl.exe" ∧
      Windows.IsNormalOn "C:" (canonical "C:/src\\app" "\\..\\VC//bin\\.\\cl.exe") ∧
      canonical "D:\\other" (canonical "C:/src\\app" "\\..\\VC//bin\\.\\cl.exe") =
        canonical "C:/src\\app" "\\..\\VC//bin\\.\\cl.exe" := by
  have hbase : Windows.HasLetterRoot "C:/src\\app" :=
    ⟨CodePoint.ofChar 'C', "/src\\app", by decide, by decide, rfl⟩
  have hpath : Windows.IsDriveless "\\..\\VC//bin\\.\\cl.exe" := ⟨by decide, by decide⟩
  obtain ⟨hslashes, -, hagain⟩ :=
    (canonical_isNormal "//srv/app" "../../..//./cl").1 (by decide) (by decide) (by decide)
  obtain ⟨hdrive, -, hstays⟩ :=
    (canonical_isNormal "C:/src\\app" "\\..\\VC//bin\\.\\cl.exe").2 hbase (.inr hpath)
  exact ⟨⟨by decide, by decide, by decide, hslashes, hagain "/other" (by decide)⟩, hbase, hpath,
    hdrive, hstays "D:\\other"⟩

end BuildRecorder.Path
