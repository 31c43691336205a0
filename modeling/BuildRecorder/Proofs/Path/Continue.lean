import BuildRecorder.Proofs.Path.Normal

/-!
# Going on from a canonical path

A relative path can be followed in two stages: seen from the canonical form of where the first stage
leads, the second stage leads to where both of them lead when they are written as one path. The
walk is taken up from the names of the canonical path, so `..` takes off what it would have taken
off, and both stop at the same root.
-/

namespace BuildRecorder.Path

variable {base first later : Text}

namespace Posix

/-- A path of slashes that does not start at a root. -/
structure IsRelative (path : Text) : Prop where
  not_absolute : isAbsolute path = false
  not_windows : isWindows path = false

theorem isRelative_append (hne : first ≠ []) (hfirst : IsRelative first)
    (hlater : IsRelative later) : IsRelative (first ++ slash :: later) := by
  obtain ⟨c, rest, rfl⟩ := List.exists_cons_of_ne_nil hne
  obtain ⟨hplain, hletter⟩ := isWindows_eq_false_iff.mp hfirst.not_windows
  refine ⟨hfirst.not_absolute, isWindows_eq_false_iff.mpr ⟨?_, ?_⟩⟩
  · have hslash : Windows.backslash ≠ slash := by decide
    have hplain' := (isWindows_eq_false_iff.mp hlater.not_windows).1
    intro hmem
    rcases List.mem_append.mp hmem with hmem | hmem
    · exact hplain hmem
    · exact (List.mem_cons.mp hmem).elim hslash hplain'
  · intro letter after heq
    cases rest with
    | nil =>
        injection heq with _ heq
        injection heq with hcolon
        exact absurd hcolon (by decide)
    | cons d rest =>
        cases heq
        exact hletter _ _ rfl

theorem names_join_append (base : Text) (hne : first ≠ []) (hfirst : IsRelative first)
    (hlater : IsRelative later) :
    names isSeparator (join base (first ++ slash :: later)) =
      resolve true (names isSeparator (join base first) ++ later.splitOn isSeparator) := by
  have hboth := (isRelative_append hne hfirst hlater).not_absolute
  rw [names_join_of_relative base hboth, names_join_of_relative base hfirst.not_absolute,
    resolve_resolve_append, Text.splitOn_append_cons isSeparator_slash, List.append_assoc]

end Posix

namespace Windows

/-- A path that hangs neither on a drive nor on a root. -/
structure IsRelative (path : Text) : Prop where
  not_rooted : isRooted path = false
  no_colon : path[1]? ≠ some (CodePoint.ofChar ':')

theorem IsRelative.isDriveless {path : Text} (h : IsRelative path) : IsDriveless path :=
  ⟨fun hrooted => absurd hrooted (by simp [h.not_rooted]), h.no_colon⟩

theorem isRelative_append (hne : first ≠ []) (hfirst : IsRelative first) (later : Text) :
    IsRelative (first ++ backslash :: later) := by
  obtain ⟨c, rest, rfl⟩ := List.exists_cons_of_ne_nil hne
  refine ⟨hfirst.not_rooted, ?_⟩
  cases rest with
  | nil => simp [backslash, CodePoint.ofChar]
  | cons d rest => simpa using hfirst.no_colon

theorem names_extend_append (front first later : Text) :
    names isSeparator (extend front (first ++ backslash :: later)) =
      resolve true (names isSeparator (extend front first) ++
        Text.splitOn isSeparator later) := by
  rw [names_extend, names_extend, resolve_resolve_append, Text.splitOn_append_cons isSeparator_backslash,
    List.append_assoc]

theorem canonical_of_isRelative {letter : CodePoint} {rest path : Text}
    (hletter : letter.isAsciiLetter = true) (hrest : isRooted rest = true)
    (hpath : IsRelative path) :
    canonical (letter :: CodePoint.ofChar ':' :: rest) path =
      letter :: CodePoint.ofChar ':' :: backslash ::
        Text.join [backslash] (names isSeparator (extend rest path)) := by
  rw [canonical_eq (.inl (isWindows_colon hletter rest)),
    join_of_isDriveless letter rest hpath.isDriveless, hpath.not_rooted, if_neg (by decide),
    normalize_letter hletter (by rw [isRooted_extend, hrest, Bool.true_or])]

end Windows

/-- Following a relative path from where another one leads is following both of them as one path, on
either flavour. -/
theorem canonical_canonical (base first later : Text) (hne : first ≠ []) :
    (Posix.isAbsolute base = true → isWindows base = false → Posix.IsRelative first →
      Posix.IsRelative later →
        canonical (canonical base first) later =
          canonical base (first ++ Posix.slash :: later)) ∧
    (Windows.HasLetterRoot base → Windows.IsRelative first → Windows.IsRelative later →
        canonical (canonical base first) later =
          canonical base (first ++ Windows.backslash :: later)) := by
  constructor
  · intro habsolute hbase hfirst hlater
    have hboth := Posix.isRelative_append hne hfirst hlater
    have hjoin := Posix.isAbsolute_join first habsolute
    have hstart := Posix.isAbsolute_normalize hjoin
    have hplain := Posix.isWindows_normalize hjoin
      (Posix.backslash_notMem_join hbase hfirst.not_windows)
    rw [Posix.canonical_eq hbase hfirst.not_windows, Posix.canonical_eq hplain hlater.not_windows,
      Posix.canonical_eq hbase hboth.not_windows]
    apply Posix.normalize_congr (Posix.isAbsolute_join later hstart)
      (Posix.isAbsolute_join _ habsolute)
    · rw [Posix.root_join _ hlater.not_absolute, Posix.root_normalize hjoin,
        Posix.root_join base hfirst.not_absolute, Posix.root_join base hboth.not_absolute]
    · rw [Posix.names_join_of_relative _ hlater.not_absolute, Posix.names_normalize hjoin,
        Posix.names_join_append base hne hfirst hlater]
  · rintro ⟨letter, rest, hletter, hrest, rfl⟩ hfirst hlater
    have hboth := Windows.isRelative_append hne hfirst later
    have hnames := isName_of_mem_names Windows.isSeparator (Windows.extend rest first)
    rw [Windows.canonical_of_isRelative hletter hrest hfirst,
      Windows.canonical_of_isRelative hletter hrest hboth,
      Windows.canonical_of_isRelative hletter (by rfl) hlater, Windows.names_extend,
      names_cons_separator Windows.isSeparator_backslash,
      names_join Windows.isSeparator_backslash hnames,
      Windows.names_extend_append]

/-- Both stages climb past the root. -/
theorem canonical_canonical_climbing :
    (canonical (canonical "//srv" "app/../../x/..") "../cl/bin" =
        canonical "//srv" ("app/../../x/.." ++ Posix.slash :: "../cl/bin")) ∧
      canonical (canonical "C:/src" "..\\..//VC\\") "../bin/.\\cl.exe" =
        canonical "C:/src" ("..\\..//VC\\" ++ Windows.backslash :: "../bin/.\\cl.exe") := by
  constructor
  · apply (canonical_canonical "//srv" "app/../../x/.." "../cl/bin" (by decide)).1
    · decide
    · decide
    · exact ⟨by decide, by decide⟩
    · exact ⟨by decide, by decide⟩
  · apply (canonical_canonical "C:/src" "..\\..//VC\\" "../bin/.\\cl.exe" (by decide)).2
    · exact ⟨CodePoint.ofChar 'C', "/src", by decide, by decide, rfl⟩
    · exact ⟨by decide, by decide⟩
    · exact ⟨by decide, by decide⟩

end BuildRecorder.Path
