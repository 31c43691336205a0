import BuildRecorder.Proofs.Path.Drives
import BuildRecorder.Proofs.Path.Slashes

/-!
# Which canonical paths are absolute

A path is brought to a root by the root that it has itself or by its base. A Windows path without a
drive needs a base that has one, and a path that hangs on the current directory of a drive needs a
base on the same drive. Where none of this is given, the canonical path has no root either.
-/

namespace BuildRecorder.Path

variable {base path : Text}

/-- A slash, a drive letter with its backslash, or the two backslashes of a share stand in front. -/
def IsAbsolute (path : Text) : Prop :=
  path.head? = some Posix.slash ∨
    (∃ letter rest, letter.isAsciiLetter = true ∧
      path = letter :: CodePoint.ofChar ':' :: Windows.backslash :: rest) ∨
    ∃ rest, path = Windows.backslash :: Windows.backslash :: rest

theorem not_isAbsolute_colon {c : CodePoint} {rest : Text} (hc : c ≠ Posix.slash)
    (h : c.isAsciiLetter = false ∨ rest.head? ≠ some Windows.backslash) :
    ¬IsAbsolute (c :: CodePoint.ofChar ':' :: rest) := by
  rintro (hslash | ⟨letter, later, hletter, heq⟩ | ⟨later, heq⟩)
  · exact hc (Option.some.inj hslash)
  · cases heq
    rcases h with h | h
    · exact absurd hletter (by simp [h])
    · exact h rfl
  · cases heq

theorem not_isAbsolute_backslash {rest : Text}
    (h : ∀ c ∈ rest.head?, Windows.isSeparator c = false) :
    ¬IsAbsolute (Windows.backslash :: rest) := by
  rintro (hslash | ⟨letter, later, hletter, heq⟩ | ⟨later, heq⟩)
  · exact absurd (Option.some.inj hslash) (by decide)
  · cases heq
    exact absurd hletter (by decide)
  · cases heq
    exact absurd (h Windows.backslash rfl) (by decide)

theorem not_isAbsolute_plain (hseparator : ∀ c ∈ path.head?, Windows.isSeparator c = false)
    (hcolon : path[1]? ≠ some (CodePoint.ofChar ':')) : ¬IsAbsolute path := by
  rintro (hslash | ⟨letter, later, -, rfl⟩ | ⟨later, rfl⟩)
  · exact absurd (hseparator _ hslash) (by decide)
  · exact hcolon rfl
  · exact absurd (hseparator _ rfl) (by decide)

namespace Windows

/-! ## Roots of joined paths -/

/-- The path starts at a root, or takes one from its base. -/
inductive Anchored (base path : Text) : Prop
  | ofPath (hpath : HasRoot path)
  | ofBase (hpath : IsDriveless path) (hbase : HasRoot base)
  | ofDrive (hpath : IsDriveless path) (hrooted : isRooted path = true)
      (letter : CodePoint) (rest : Text) (hletter : letter.isAsciiLetter = true)
      (hbase : base = letter :: CodePoint.ofChar ':' :: rest)
  | onSameDrive (letter : CodePoint) (rest : Text) (hletter : letter.isAsciiLetter = true)
      (hpath : path = letter :: CodePoint.ofChar ':' :: rest)
      (hsame : (drive path).lower = (drive base).lower)
      (hbase : isRooted (afterDrive base) = true)

theorem not_hasRoot_extend (hbase : IsDriveless base) (hpath : IsDriveless path)
    (hrelative : isRooted path = false) : ¬HasRoot (extend base path) := by
  match base, hbase with
  | [], _ => exact hpath.not_hasRoot
  | [c], _ =>
    by_cases hc : isSeparator c = true
    · have hextend : extend [c] path = c :: path := by simp [extend, hc]
      rw [hextend]
      rintro (hshare | ⟨letter, rest, hletter, -, heq⟩)
      · exact absurd hshare.2 (by simp [hrelative])
      · cases heq
        exact absurd hc (by simp [not_isSeparator_of_isAsciiLetter hletter])
    · have hextend : extend [c] path = c :: backslash :: path := by simp [extend, hc]
      rw [hextend]
      rintro (hshare | ⟨letter, rest, hletter, -, heq⟩)
      · exact hc hshare.1
      · cases heq
  | first :: second :: rest, hbase =>
    obtain ⟨later, hlater⟩ : ∃ later,
        extend (first :: second :: rest) path = first :: second :: later := by
      unfold extend
      split
      · next hlast => simp at hlast
      · split <;> exact ⟨_, rfl⟩
    rw [hlater]
    rintro (hshare | ⟨letter, after, -, -, heq⟩)
    · exact hbase.not_isShare hshare
    · cases heq
      exact hbase.no_colon rfl

theorem anchored_colon_iff {letter : CodePoint} {rest : Text} :
    Anchored base (letter :: CodePoint.ofChar ':' :: rest) ↔
      letter.isAsciiLetter = true ∧
        (isRooted rest = true ∨
          Text.lower [letter, CodePoint.ofChar ':'] = (drive base).lower ∧
            isRooted (afterDrive base) = true) := by
  constructor
  · rintro (hroot | ⟨hpath, -⟩ | ⟨hpath, -⟩ | ⟨_, _, hletter, heq, hsame, hbase⟩)
    · obtain ⟨hletter, hrest⟩ := hasRoot_colon_iff.mp hroot
      exact ⟨hletter, .inl hrest⟩
    · exact (not_isDriveless_colon letter rest hpath).elim
    · exact (not_isDriveless_colon letter rest hpath).elim
    · cases heq
      rw [drive_colon] at hsame
      exact ⟨hletter, .inr ⟨hsame, hbase⟩⟩
  · rintro ⟨hletter, hrest | ⟨hsame, hbase⟩⟩
    · exact .ofPath (hasRoot_colon_iff.mpr ⟨hletter, hrest⟩)
    · exact .onSameDrive letter rest hletter rfl (by rwa [drive_colon]) hbase

theorem anchored_iff_of_isDriveless (hpath : IsDriveless path) :
    Anchored base path ↔
      HasRoot base ∨
        isRooted path = true ∧ ∃ letter rest, letter.isAsciiLetter = true ∧
          base = letter :: CodePoint.ofChar ':' :: rest := by
  constructor
  · rintro (hroot | ⟨-, hbase⟩ | ⟨-, hrooted, letter, rest, hletter, hbase⟩ | ⟨_, _, -, rfl, -⟩)
    · exact (hpath.not_hasRoot hroot).elim
    · exact .inl hbase
    · exact .inr ⟨hrooted, letter, rest, hletter, hbase⟩
    · exact (not_isDriveless_colon _ _ hpath).elim
  · rintro (hbase | ⟨hrooted, letter, rest, hletter, hbase⟩)
    · exact .ofBase hpath hbase
    · exact .ofDrive hpath hrooted letter rest hletter hbase

theorem hasRoot_join_colon_iff (base : Text) (letter : CodePoint) (rest : Text) :
    HasRoot (join base (letter :: CodePoint.ofChar ':' :: rest)) ↔
      Anchored base (letter :: CodePoint.ofChar ':' :: rest) := by
  rw [anchored_colon_iff]
  cases hrest : isRooted rest with
  | true =>
      rw [join_colon base letter hrest, hasRoot_colon_iff]
      simp [hrest]
  | false =>
      rw [join_colon_of_not_isRooted base letter hrest, hasRoot_colon_iff]
      apply and_congr_right
      intro _
      split
      · next hsame => simp [isRooted_extend, hrest, hsame]
      · next hother => simp [hrest, hother]

theorem hasRoot_join_of_isDriveless_iff (hpath : IsDriveless path) :
    HasRoot (join base path) ↔ Anchored base path := by
  rw [anchored_iff_of_isDriveless hpath]
  rcases drive_cases base with hshare | ⟨letter, rest, rfl⟩ | hbase
  · exact iff_of_true (.inl (isShare_join_of_base hshare hpath)) (.inl (.inl hshare))
  · rw [join_of_isDriveless letter rest hpath, hasRoot_colon_iff, hasRoot_colon_iff]
    cases hrooted : isRooted path with
    | true => simpa [hrooted] using fun hletter _ => hletter
    | false => simp [isRooted_extend, hrooted]
  · rw [join_of_isDriveless_of_isDriveless hbase hpath]
    refine iff_of_false ?_ ?_
    · split
      · exact hpath.not_hasRoot
      · next hrelative => exact not_hasRoot_extend hbase hpath (by simpa using hrelative)
    · rintro (hroot | ⟨-, _, _, -, rfl⟩)
      · exact hbase.not_hasRoot hroot
      · exact not_isDriveless_colon _ _ hbase

theorem hasRoot_join_iff : HasRoot (join base path) ↔ Anchored base path := by
  rcases drive_cases path with hshare | ⟨letter, rest, rfl⟩ | hpath
  · exact iff_of_true (.inl (isShare_join base hshare)) (.ofPath (.inl hshare))
  · exact hasRoot_join_colon_iff base letter rest
  · exact hasRoot_join_of_isDriveless_iff hpath

/-! ## Roots of normalized paths -/

theorem isAbsolute_normalize (h : HasRoot path) : IsAbsolute (normalize path) := by
  rcases h with hshare | ⟨letter, rest, hletter, hrest, rfl⟩
  · exact .inr (.inr (normalize_of_isShare hshare))
  · exact .inr (.inl ⟨letter, _, hletter, normalize_letter hletter hrest⟩)

theorem getElem?_one_join {pieces : List Text}
    (hpieces : ∀ piece ∈ pieces, piece ≠ [] ∧ piece[1]? ≠ some (CodePoint.ofChar ':')) :
    (Text.join [backslash] pieces)[1]? ≠ some (CodePoint.ofChar ':') := by
  cases pieces with
  | nil => simp [Text.join]
  | cons first pieces =>
      obtain ⟨⟨hne, hcolon⟩, -⟩ := List.forall_mem_cons.mp hpieces
      cases pieces with
      | nil => simpa [Text.join] using hcolon
      | cons second pieces =>
          rw [Text.join_cons_cons, List.append_assoc]
          obtain ⟨c, rest, rfl⟩ := List.exists_cons_of_ne_nil hne
          cases rest with
          | nil => simp [backslash, CodePoint.ofChar]
          | cons d rest => simpa using hcolon

theorem hasRoot_of_isAbsolute_normalize_colon {letter : CodePoint} {rest : Text}
    (habsolute : IsAbsolute (normalize (letter :: CodePoint.ofChar ':' :: rest))) :
    HasRoot (letter :: CodePoint.ofChar ':' :: rest) := by
  have hslash : (if letter = CodePoint.ofChar '/' then backslash else letter) ≠ Posix.slash := by
    split
    · decide
    · assumption
  apply Classical.byContradiction
  intro hroot
  cases hrest : isRooted rest with
  | true =>
      have hletter : letter.isAsciiLetter = false :=
        Bool.eq_false_iff.mpr fun hletter => hroot (hasRoot_colon_iff.mpr ⟨hletter, hrest⟩)
      rw [normalize_colon letter hrest] at habsolute
      refine not_isAbsolute_colon hslash (.inl ?_) habsolute
      split
      · decide
      · exact hletter
  | false =>
      rw [normalize_colon_of_not_isRooted letter hrest] at habsolute
      refine not_isAbsolute_colon hslash (.inr fun hhead => ?_) habsolute
      have hplain := Text.not_separates_head?_join [backslash]
        (plain_of_mem_resolve (by decide) false rest) _ hhead
      exact absurd hplain (by decide)

theorem not_isAbsolute_normalize (hpath : IsDriveless path)
    (hcolons : ∀ segment ∈ Text.splitOn isSeparator path,
      segment[1]? ≠ some (CodePoint.ofChar ':')) : ¬IsAbsolute (normalize path) := by
  have hhead : ∀ rooted, ∀ c ∈
      (Text.join [backslash] (resolve rooted (Text.splitOn isSeparator path))).head?,
        isSeparator c = false := fun rooted =>
    Text.not_separates_head?_join [backslash] (plain_of_mem_resolve (by decide) rooted path)
  cases hrooted : isRooted path with
  | true =>
      rw [normalize_of_isRooted hpath hrooted]
      exact not_isAbsolute_backslash (hhead true)
  | false =>
      have hsegments : ∀ segment ∈ resolve false (Text.splitOn isSeparator path),
          segment ≠ [] ∧ segment[1]? ≠ some (CodePoint.ofChar ':') :=
        forall_mem_resolve (by decide) fun segment hsegment hne => ⟨hne, hcolons segment hsegment⟩
      rw [normalize_of_not_isRooted hpath hrooted]
      split
      · exact not_isAbsolute_plain (by decide) (by decide)
      · exact not_isAbsolute_plain (hhead false) (getElem?_one_join hsegments)

/-- Normalizing makes no root where there was none, except out of a segment that looks like a
drive. -/
theorem hasRoot_of_isAbsolute_normalize
    (hcolons : IsDriveless path → ∀ segment ∈ Text.splitOn isSeparator path,
      segment[1]? ≠ some (CodePoint.ofChar ':'))
    (habsolute : IsAbsolute (normalize path)) : HasRoot path := by
  rcases drive_cases path with hshare | ⟨letter, rest, rfl⟩ | hpath
  · exact .inl hshare
  · exact hasRoot_of_isAbsolute_normalize_colon habsolute
  · exact (not_isAbsolute_normalize hpath (hcolons hpath) habsolute).elim

theorem getElem?_one_of_mem_splitOn {segment : Text} (hpath : IsDriveless path)
    (hcolon : CodePoint.ofChar ':' ∉ path.drop 2)
    (hsegment : segment ∈ Text.splitOn isSeparator path) :
    segment[1]? ≠ some (CodePoint.ofChar ':') := by
  cases path with
  | nil => simp_all [Text.splitOn]
  | cons c rest =>
      -- Behind the first character there is no colon at all.
      have hrest : ∀ d ∈ rest, d ≠ CodePoint.ofChar ':' := by
        cases rest with
        | nil => simp
        | cons d rest =>
            refine List.forall_mem_cons.mpr ⟨?_, fun e he heq => hcolon (heq ▸ he)⟩
            simpa using hpath.no_colon
      have hpieces : ∀ piece ∈ Text.splitOn isSeparator rest, ∀ i : Nat,
          piece[i]? ≠ some (CodePoint.ofChar ':') := fun piece hpiece i hi =>
        Text.forall_mem_of_mem_splitOn hrest piece hpiece _ (List.mem_of_getElem? hi) rfl
      rcases Text.mem_splitOn_cons hsegment with ⟨-, start, hstart, rfl⟩ | rfl | hsegment
      · exact hpieces start hstart 0
      · simp
      · exact hpieces segment hsegment 1

end Windows

namespace Posix

theorem not_isAbsolute_normalize (hrelative : isAbsolute path = false)
    (hplain : Windows.backslash ∉ path) : ¬IsAbsolute (normalize path) := by
  have hup : ∀ c ∈ up, isSeparator c = false := by decide
  have hbackslash : Windows.backslash ∉ normalize path := fun hmem =>
    forall_mem_normalize (p := (· ≠ Windows.backslash)) (by decide) (by decide)
      (fun c hc => ne_of_mem_of_not_mem hc hplain) _ hmem rfl
  rintro (hslash | ⟨letter, rest, -, heq⟩ | ⟨rest, heq⟩)
  · rw [normalize_of_not_isAbsolute hrelative] at hslash
    split at hslash
    · exact absurd hslash (by decide)
    · have hseparator := Text.not_separates_head?_join [slash]
        (plain_of_mem_resolve hup false path) _ hslash
      exact absurd hseparator (by decide)
  · exact hbackslash (by simp [heq])
  · exact hbackslash (by simp [heq])

end Posix

/-! ## Canonical paths -/

/-- The path or its base fixes a root, by the rules of their flavour. -/
def Anchored (base path : Text) : Prop :=
  if isWindows path || isWindows base then Windows.Anchored base path
  else Posix.isAbsolute path = true ∨ Posix.isAbsolute base = true

theorem isAbsolute_canonical (h : Anchored base path) : IsAbsolute (canonical base path) := by
  unfold Anchored at h
  unfold canonical
  split at h
  · next hwindows =>
    rw [if_pos hwindows]
    exact Windows.isAbsolute_normalize (Windows.hasRoot_join_iff.mpr h)
  · next hslashes =>
    rw [if_neg hslashes]
    have hjoin : Posix.isAbsolute (Posix.join base path) = true := by
      rcases h with hpath | hbase
      · rwa [Posix.join_of_isAbsolute base hpath]
      · exact Posix.isAbsolute_join path hbase
    obtain ⟨rest, hrest⟩ := Posix.isAbsolute_iff.mp (Posix.isAbsolute_normalize hjoin)
    exact .inl (by rw [hrest]; rfl)

/-- Where no colon stands but behind a drive letter, only an anchored path becomes absolute. -/
theorem anchored_of_isAbsolute_canonical (hbase : CodePoint.ofChar ':' ∉ base.drop 2)
    (hpath : CodePoint.ofChar ':' ∉ path.drop 2) (h : IsAbsolute (canonical base path)) :
    Anchored base path := by
  unfold Anchored
  unfold canonical at h
  split at h
  · next hwindows =>
    rw [if_pos hwindows]
    apply Windows.hasRoot_join_iff.mp
    refine Windows.hasRoot_of_isAbsolute_normalize (fun hdriveless segment hsegment => ?_) h
    obtain ⟨hbase', hpath'⟩ := Windows.isDriveless_of_isDriveless_join hdriveless
    rw [Windows.join_of_isDriveless_of_isDriveless hbase' hpath'] at hsegment
    split at hsegment
    · exact Windows.getElem?_one_of_mem_splitOn hpath' hpath hsegment
    · rcases Windows.mem_splitOn_extend hsegment with hsegment | hsegment
      · exact Windows.getElem?_one_of_mem_splitOn hbase' hbase hsegment
      · exact Windows.getElem?_one_of_mem_splitOn hpath' hpath hsegment
  · next hslashes =>
    rw [if_neg hslashes]
    obtain ⟨hpath', hbase'⟩ := Bool.or_eq_false_iff.mp (Bool.eq_false_iff.mpr hslashes)
    apply Classical.byContradiction
    intro hrelative
    exact Posix.not_isAbsolute_normalize (Posix.isAbsolute_join_eq_false hrelative)
      (Posix.backslash_notMem_join hbase' hpath') h

end BuildRecorder.Path
