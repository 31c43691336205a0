import BuildRecorder.Proofs.Path.Characters

/-!
# Paths with drives

A path starts with a share, with a letter or any other character and a colon, or with no drive at
all. Joining keeps the drive of the path, or else that of its base, and there is one equation of
joining and of normalizing for each kind.
-/

namespace BuildRecorder.Path.Windows

variable {base path rest : Text} {letter : CodePoint}

/-- A drive letter, a colon and a separator stand in front. -/
def HasLetterRoot (path : Text) : Prop :=
  ∃ letter rest, letter.isAsciiLetter = true ∧ isRooted rest = true ∧
    path = letter :: CodePoint.ofChar ':' :: rest

/-- Neither a drive nor a share stands in front. -/
structure IsDriveless (path : Text) : Prop where
  not_share : isRooted path = true → isRooted path.tail = false
  no_colon : path[1]? ≠ some (CodePoint.ofChar ':')

/-- Two separators stand in front. -/
def IsShare (path : Text) : Prop := isRooted path = true ∧ isRooted path.tail = true

/-- A share, or a drive letter with its root, stands in front. -/
def HasRoot (path : Text) : Prop := IsShare path ∨ HasLetterRoot path

/-- The drive of a path, or else that of its base. -/
def keptDrive (base path : Text) : Text := if drive path = [] then drive base else drive path

@[simp] theorem isSeparator_backslash : isSeparator backslash = true := by decide

@[simp] theorem isSeparator_colon : isSeparator (CodePoint.ofChar ':') = false := by decide

/-! ## Drives -/

theorem driveLength_colon (letter : CodePoint) (rest : Text) :
    driveLength (letter :: CodePoint.ofChar ':' :: rest) = 2 := by
  simp [driveLength]

@[simp] theorem drive_colon (letter : CodePoint) (rest : Text) :
    drive (letter :: CodePoint.ofChar ':' :: rest) = [letter, CodePoint.ofChar ':'] := by
  rw [drive, driveLength_colon]
  rfl

@[simp] theorem afterDrive_colon (letter : CodePoint) (rest : Text) :
    afterDrive (letter :: CodePoint.ofChar ':' :: rest) = rest := by
  rw [afterDrive, driveLength_colon]
  rfl

theorem driveLength_of_isDriveless (h : IsDriveless path) : driveLength path = 0 := by
  obtain ⟨hshare, hcolon⟩ := h
  unfold driveLength
  split
  · next first second rest =>
    have hfirst : isSeparator first = true → isSeparator second = false := by
      simpa [isRooted] using hshare
    have hsecond : second ≠ CodePoint.ofChar ':' := by simpa using hcolon
    by_cases hseparator : isSeparator first = true
    · simp [hfirst hseparator, hsecond]
    · simp [hseparator, hsecond]
  · rfl

theorem drive_of_isDriveless (h : IsDriveless path) : drive path = [] := by
  rw [drive, driveLength_of_isDriveless h, List.take_zero]

theorem afterDrive_of_isDriveless (h : IsDriveless path) : afterDrive path = path := by
  rw [afterDrive, driveLength_of_isDriveless h, List.drop_zero]

theorem keptDrive_colon (base : Text) (letter : CodePoint) (rest : Text) :
    keptDrive base (letter :: CodePoint.ofChar ':' :: rest) = [letter, CodePoint.ofChar ':'] := by
  rw [keptDrive, drive_colon, if_neg (by simp)]

theorem keptDrive_of_isDriveless (base : Text) (h : IsDriveless path) :
    keptDrive base path = drive base := by
  rw [keptDrive, drive_of_isDriveless h, if_pos rfl]

theorem drive_cases (path : Text) :
    IsShare path ∨ (∃ letter rest, path = letter :: CodePoint.ofChar ':' :: rest) ∨
      IsDriveless path := by
  by_cases hshare : IsShare path
  · exact .inl hshare
  · by_cases hcolon : path[1]? = some (CodePoint.ofChar ':')
    · match path, hcolon with
      | letter :: colon :: rest, hcolon =>
        cases hcolon
        exact .inr (.inl ⟨letter, rest, rfl⟩)
    · refine .inr (.inr ⟨fun hrooted => ?_, hcolon⟩)
      exact Bool.eq_false_iff.mpr fun htail => hshare ⟨hrooted, htail⟩

theorem isRooted_iff :
    isRooted path = true ↔ ∃ c rest, isSeparator c = true ∧ path = c :: rest := by
  cases path with
  | nil => simp [isRooted]
  | cons c rest => simp [isRooted]

theorem isRooted_eq_false_iff :
    isRooted path = false ↔ ∀ c ∈ path.head?, isSeparator c = false := by
  cases path with
  | nil => simp [isRooted]
  | cons c rest => simp [isRooted]

theorem isShare_iff :
    IsShare path ↔ ∃ first second rest, isSeparator first = true ∧ isSeparator second = true ∧
      path = first :: second :: rest := by
  constructor
  · rintro ⟨hfirst, hsecond⟩
    obtain ⟨first, rest, hseparator, rfl⟩ := isRooted_iff.mp hfirst
    obtain ⟨second, rest, hseparator', rfl⟩ := isRooted_iff.mp hsecond
    exact ⟨first, second, rest, hseparator, hseparator', rfl⟩
  · rintro ⟨first, second, rest, hfirst, hsecond, rfl⟩
    exact ⟨hfirst, hsecond⟩

theorem two_le_shareLength (first second : CodePoint) (rest : Text) :
    2 ≤ shareLength (first :: second :: rest) := by
  unfold shareLength
  dsimp only
  split <;> split <;> simp <;> omega

/-- The drive of a share holds its two separators. -/
theorem drive_of_isShare (h : IsShare path) : ∃ rest, drive path = path.take 2 ++ rest := by
  obtain ⟨first, second, rest, hfirst, hsecond, rfl⟩ := isShare_iff.mp h
  have hlength : driveLength (first :: second :: rest) = shareLength (first :: second :: rest) := by
    simp [driveLength, hfirst, hsecond]
  obtain ⟨more, hmore⟩ := Nat.exists_eq_add_of_le (two_le_shareLength first second rest)
  refine ⟨rest.take more, ?_⟩
  rw [drive, hlength, hmore, List.take_add]
  rfl

theorem IsShare.of_prefix {front : Text} (hfront : front <+: path) (h : IsShare front) :
    IsShare path := by
  obtain ⟨first, second, rest, hfirst, hsecond, rfl⟩ := isShare_iff.mp h
  obtain ⟨later, rfl⟩ := hfront
  exact ⟨hfirst, hsecond⟩

theorem IsShare.drive (h : IsShare path) : IsShare (drive path) := by
  obtain ⟨later, hdrive⟩ := drive_of_isShare h
  obtain ⟨first, second, rest, hfirst, hsecond, rfl⟩ := isShare_iff.mp h
  rw [hdrive]
  exact ⟨hfirst, hsecond⟩

theorem IsShare.ne_nil (h : IsShare path) : path ≠ [] := by
  rintro rfl
  exact absurd h.1 (by decide)

theorem not_isShare_colon (letter : CodePoint) (rest : Text) :
    ¬IsShare (letter :: CodePoint.ofChar ':' :: rest) :=
  fun h => absurd h.2 (by simp [isRooted])

theorem not_isDriveless_colon (letter : CodePoint) (rest : Text) :
    ¬IsDriveless (letter :: CodePoint.ofChar ':' :: rest) :=
  fun h => h.no_colon rfl

theorem IsDriveless.not_isShare (h : IsDriveless path) : ¬IsShare path :=
  fun hshare => absurd (h.not_share hshare.1) (by simp [hshare.2])

theorem not_isSeparator_of_isAsciiLetter {c : CodePoint} (h : c.isAsciiLetter = true) :
    isSeparator c = false := by
  rw [isSeparator, Bool.or_eq_false_iff, decide_eq_false_iff_not, decide_eq_false_iff_not]
  constructor <;> rintro rfl <;> exact absurd h (by decide)

theorem hasRoot_colon_iff {letter : CodePoint} {rest : Text} :
    HasRoot (letter :: CodePoint.ofChar ':' :: rest) ↔
      letter.isAsciiLetter = true ∧ isRooted rest = true := by
  constructor
  · rintro (hshare | ⟨_, _, hletter, hrest, heq⟩)
    · exact (not_isShare_colon letter rest hshare).elim
    · cases heq
      exact ⟨hletter, hrest⟩
  · rintro ⟨hletter, hrest⟩
    exact .inr ⟨letter, rest, hletter, hrest, rfl⟩

theorem IsDriveless.not_hasRoot (h : IsDriveless path) : ¬HasRoot path := by
  rintro (hshare | ⟨letter, rest, -, -, rfl⟩)
  · exact h.not_isShare hshare
  · exact not_isDriveless_colon letter rest h

theorem isWindows_colon (hletter : letter.isAsciiLetter = true) (rest : Text) :
    isWindows (letter :: CodePoint.ofChar ':' :: rest) = true := by
  simp [isWindows, hletter]

theorem HasLetterRoot.isWindows (h : HasLetterRoot path) : isWindows path = true := by
  obtain ⟨letter, rest, hletter, -, rfl⟩ := h
  exact isWindows_colon hletter rest

theorem canonical_eq (h : Path.isWindows base = true ∨ Path.isWindows path = true) :
    canonical base path = normalize (join base path) := by
  rw [canonical, if_pos]
  rwa [Bool.or_eq_true_iff, or_comm]

/-! ## Joined paths -/

@[simp] theorem withDrive_colon (letter : CodePoint) (path : Text) :
    withDrive [letter, CodePoint.ofChar ':'] path = letter :: CodePoint.ofChar ':' :: path := by
  simp [withDrive]

theorem isRooted_extend (front path : Text) :
    isRooted (extend front path) = (isRooted front || (front.isEmpty && isRooted path)) := by
  cases front with
  | nil => rfl
  | cons c front =>
      rw [List.isEmpty_cons, Bool.false_and, Bool.or_false]
      unfold extend
      split
      · next hlast => simp at hlast
      · split <;> rfl

theorem names_extend (front path : Text) :
    names isSeparator (extend front path) =
      resolve true (names isSeparator front ++ Text.splitOn isSeparator path) := by
  unfold extend
  split
  · next hlast =>
    obtain rfl : front = [] := List.getLast?_eq_none_iff.mp hlast
    rw [names_nil, List.nil_append, ← names]
  · next last hlast =>
    split
    · next hseparator =>
      refine names_append (fun c hc => ?_) path
      obtain rfl : last = c := Option.some.inj (hlast.symm.trans hc)
      exact hseparator
    · exact names_append_cons isSeparator_backslash front path

theorem mem_splitOn_extend {front segment : Text}
    (h : segment ∈ Text.splitOn isSeparator (extend front path)) :
    segment ∈ Text.splitOn isSeparator front ∨ segment ∈ Text.splitOn isSeparator path := by
  unfold extend at h
  split at h
  · exact .inr h
  · next last hlast =>
    obtain ⟨start, rfl⟩ := List.getLast?_eq_some_iff.mp hlast
    split at h
    · next hseparator =>
      rw [List.append_assoc, List.singleton_append, Text.splitOn_append_cons hseparator] at h
      rw [Text.splitOn_append_cons hseparator]
      rcases List.mem_append.mp h with h | h
      · exact .inl (List.mem_append_left _ h)
      · exact .inr h
    · rw [Text.splitOn_append_cons isSeparator_backslash] at h
      exact List.mem_append.mp h

theorem join_colon (base : Text) (letter : CodePoint) (hrest : isRooted rest = true) :
    join base (letter :: CodePoint.ofChar ':' :: rest) =
      letter :: CodePoint.ofChar ':' :: rest := by
  rw [join, afterDrive_colon, drive_colon, if_pos hrest, if_neg (by simp), withDrive_colon]

theorem join_letterRoot (base : Text) (hpath : HasLetterRoot path) : join base path = path := by
  obtain ⟨letter, rest, -, hrest, rfl⟩ := hpath
  exact join_colon base letter hrest

/-- A path on a drive that does not start at the root of it goes on from its base, if that is on the
same drive. -/
theorem join_colon_of_not_isRooted (base : Text) (letter : CodePoint) {rest : Text}
    (hrest : isRooted rest = false) :
    join base (letter :: CodePoint.ofChar ':' :: rest) =
      letter :: CodePoint.ofChar ':' ::
        if Text.lower [letter, CodePoint.ofChar ':'] = (drive base).lower then
          extend (afterDrive base) rest
        else rest := by
  rw [join, afterDrive_colon, drive_colon, hrest, if_neg (by decide), if_neg (by simp),
    withDrive_colon, withDrive_colon]
  split <;> rfl

/-- A path without a drive stays on the drive of its base. -/
theorem join_of_isDriveless (letter : CodePoint) (rest : Text) (hpath : IsDriveless path) :
    join (letter :: CodePoint.ofChar ':' :: rest) path =
      letter :: CodePoint.ofChar ':' :: if isRooted path then path else extend rest path := by
  rw [join, afterDrive_of_isDriveless hpath, drive_of_isDriveless hpath, afterDrive_colon,
    drive_colon, List.isEmpty_nil, if_pos rfl, if_pos rfl, withDrive_colon, withDrive_colon]
  split <;> rfl

theorem join_of_isDriveless_of_isDriveless (hbase : IsDriveless base) (hpath : IsDriveless path) :
    join base path = if isRooted path then path else extend base path := by
  have hplain : ∀ rest : Text, withDrive [] rest = rest := by simp [withDrive]
  rw [join, afterDrive_of_isDriveless hpath, drive_of_isDriveless hpath,
    afterDrive_of_isDriveless hbase, drive_of_isDriveless hbase, List.isEmpty_nil, if_pos rfl,
    if_pos rfl, hplain, hplain]

theorem drive_prefix_withDrive (drive path : Text) : drive <+: withDrive drive path := by
  unfold withDrive
  split <;> exact List.prefix_append _ _

theorem keptDrive_prefix_join (base path : Text) : keptDrive base path <+: join base path := by
  unfold keptDrive
  by_cases hdrive : drive path = []
  · rw [join, hdrive, List.isEmpty_nil, if_pos rfl, if_pos rfl, if_pos rfl]
    split <;> exact drive_prefix_withDrive _ _
  · have hempty : (drive path).isEmpty = false := by simpa using hdrive
    rw [join, hempty, if_neg hdrive]
    split
    · exact drive_prefix_withDrive _ _
    · rw [if_neg (by decide)]
      split <;> exact drive_prefix_withDrive _ _

theorem isShare_join (base : Text) (h : IsShare path) : IsShare (join base path) := by
  have hkept := keptDrive_prefix_join base path
  rw [keptDrive, if_neg h.drive.ne_nil] at hkept
  exact h.drive.of_prefix hkept

theorem isShare_join_of_base (hbase : IsShare base) (hpath : IsDriveless path) :
    IsShare (join base path) := by
  have hkept := keptDrive_prefix_join base path
  rw [keptDrive_of_isDriveless base hpath] at hkept
  exact hbase.drive.of_prefix hkept

/-- A joined path has no drive only if neither of its parts has one. -/
theorem isDriveless_of_isDriveless_join (h : IsDriveless (join base path)) :
    IsDriveless base ∧ IsDriveless path := by
  have hpath : IsDriveless path := by
    rcases drive_cases path with hshare | ⟨letter, rest, rfl⟩ | hpath
    · exact (h.not_isShare (isShare_join base hshare)).elim
    · obtain ⟨later, hjoin⟩ := keptDrive_prefix_join base (letter :: CodePoint.ofChar ':' :: rest)
      rw [keptDrive_colon] at hjoin
      rw [← hjoin] at h
      exact (not_isDriveless_colon letter later h).elim
    · exact hpath
  refine ⟨?_, hpath⟩
  rcases drive_cases base with hshare | ⟨letter, rest, rfl⟩ | hbase
  · exact (h.not_isShare (isShare_join_of_base hshare hpath)).elim
  · rw [join_of_isDriveless letter rest hpath] at h
    exact (not_isDriveless_colon letter _ h).elim
  · exact hbase

/-! ## Normalized paths -/

theorem unifySeparators_cons (c : CodePoint) (path : Text) :
    unifySeparators (c :: path) =
      (if c = CodePoint.ofChar '/' then backslash else c) :: unifySeparators path :=
  rfl

theorem isSeparator_unify (c : CodePoint) :
    isSeparator (if c = CodePoint.ofChar '/' then backslash else c) = isSeparator c := by
  split
  · next hc =>
    subst hc
    decide
  · rfl

@[simp] theorem isRooted_unifySeparators (path : Text) :
    isRooted (unifySeparators path) = isRooted path := by
  cases path with
  | nil => rfl
  | cons c path =>
      rw [unifySeparators_cons, isRooted, isRooted]
      exact isSeparator_unify c

/-- How the separators are written makes no difference to the segments between them. -/
@[simp] theorem splitOn_unifySeparators (path : Text) :
    Text.splitOn isSeparator (unifySeparators path) = Text.splitOn isSeparator path := by
  induction path with
  | nil => rfl
  | cons c path ih =>
      rw [unifySeparators_cons, Text.splitOn, Text.splitOn, isSeparator_unify, ih]
      by_cases hc : isSeparator c = true
      · rw [if_pos hc, if_pos hc]
      · have hslash : c ≠ CodePoint.ofChar '/' := by
          rintro rfl
          exact hc (by decide)
        rw [if_neg hslash]

@[simp] theorem names_unifySeparators (path : Text) :
    names isSeparator (unifySeparators path) = names isSeparator path := by
  rw [names, splitOn_unifySeparators, ← names]

theorem unifySeparators_colon (letter : CodePoint) (rest : Text) :
    unifySeparators (letter :: CodePoint.ofChar ':' :: rest) =
      (if letter = CodePoint.ofChar '/' then backslash else letter) :: CodePoint.ofChar ':' ::
        unifySeparators rest := by
  have hcolon : CodePoint.ofChar ':' ≠ CodePoint.ofChar '/' := by decide
  rw [unifySeparators_cons, unifySeparators_cons, if_neg hcolon]

theorem isDriveless_unifySeparators (h : IsDriveless path) :
    IsDriveless (unifySeparators path) := by
  refine ⟨?_, ?_⟩
  · rw [isRooted_unifySeparators, unifySeparators, ← List.map_tail, ← unifySeparators,
      isRooted_unifySeparators]
    exact h.not_share
  · intro hcolon
    obtain ⟨c, hc, hunify⟩ := Option.map_eq_some_iff.mp ((List.getElem?_map ..).symm.trans hcolon)
    split at hunify
    · exact absurd hunify (by decide)
    · exact h.no_colon (hunify ▸ hc)

theorem dropWhile_unifySeparators {rest : Text} (hrest : isRooted rest = false) :
    (unifySeparators rest).dropWhile isSeparator = unifySeparators rest := by
  apply Text.dropWhile_eq_self
  apply isRooted_eq_false_iff.mp
  rwa [isRooted_unifySeparators]

theorem normalize_colon (letter : CodePoint) (hrest : isRooted rest = true) :
    normalize (letter :: CodePoint.ofChar ':' :: rest) =
      (if letter = CodePoint.ofChar '/' then backslash else letter) :: CodePoint.ofChar ':' ::
        backslash :: Text.join [backslash] (names isSeparator rest) := by
  have hlast : ∀ c : CodePoint, [c, CodePoint.ofChar ':', backslash].getLast? = some backslash := by
    simp
  unfold normalize
  dsimp only
  rw [unifySeparators_colon, drive_colon, afterDrive_colon, isRooted_unifySeparators, hrest,
    if_pos rfl, List.cons_append, List.cons_append, List.nil_append, hlast, decide_eq_true rfl,
    ← names, names_dropWhile, names_unifySeparators]
  rfl

theorem normalize_letter (hletter : letter.isAsciiLetter = true) (hrest : isRooted rest = true) :
    normalize (letter :: CodePoint.ofChar ':' :: rest) =
      letter :: CodePoint.ofChar ':' :: backslash ::
        Text.join [backslash] (names isSeparator rest) := by
  have hslash : letter ≠ CodePoint.ofChar '/' := by
    rintro rfl
    exact absurd hletter (by decide)
  rw [normalize_colon letter hrest, if_neg hslash]

theorem normalize_colon_of_not_isRooted (letter : CodePoint) {rest : Text}
    (hrest : isRooted rest = false) :
    normalize (letter :: CodePoint.ofChar ':' :: rest) =
      (if letter = CodePoint.ofChar '/' then backslash else letter) :: CodePoint.ofChar ':' ::
        Text.join [backslash] (resolve false (Text.splitOn isSeparator rest)) := by
  have hlast : ∀ c : CodePoint,
      decide ([c, CodePoint.ofChar ':'].getLast? = some backslash) = false := by
    simp [backslash, CodePoint.ofChar]
  unfold normalize
  dsimp only
  rw [unifySeparators_colon, drive_colon, afterDrive_colon, isRooted_unifySeparators, hrest,
    dropWhile_unifySeparators hrest, splitOn_unifySeparators]
  simp only [Bool.false_eq_true, if_false, hlast]
  rfl

theorem normalize_of_isRooted (hpath : IsDriveless path) (hrooted : isRooted path = true) :
    normalize path = backslash :: Text.join [backslash] (names isSeparator path) := by
  have hunified := isDriveless_unifySeparators hpath
  unfold normalize
  dsimp only
  rw [drive_of_isDriveless hunified, afterDrive_of_isDriveless hunified, isRooted_unifySeparators,
    hrooted, if_pos rfl, List.nil_append, List.getLast?_singleton, decide_eq_true rfl, ← names,
    names_dropWhile, names_unifySeparators]
  rfl

theorem normalize_of_not_isRooted (hpath : IsDriveless path) (hrooted : isRooted path = false) :
    normalize path =
      if (resolve false (Text.splitOn isSeparator path)).isEmpty then current
      else Text.join [backslash] (resolve false (Text.splitOn isSeparator path)) := by
  have hunified := isDriveless_unifySeparators hpath
  unfold normalize
  dsimp only
  rw [drive_of_isDriveless hunified, afterDrive_of_isDriveless hunified, isRooted_unifySeparators,
    hrooted, dropWhile_unifySeparators hrooted, splitOn_unifySeparators]
  rfl

theorem drive_prefix_normalize (path : Text) :
    drive (unifySeparators path) <+: normalize path := by
  have hfront : drive (unifySeparators path) <+:
      if isRooted (afterDrive (unifySeparators path)) then
        drive (unifySeparators path) ++ [backslash]
      else drive (unifySeparators path) := by
    split
    · exact List.prefix_append _ _
    · exact List.prefix_rfl
  unfold normalize
  dsimp only
  generalize (if isRooted (afterDrive (unifySeparators path)) then
    drive (unifySeparators path) ++ [backslash] else drive (unifySeparators path)) = front
    at hfront ⊢
  split
  · next hempty =>
    rw [Bool.and_eq_true_iff, List.isEmpty_iff] at hempty
    rw [hempty.1, List.prefix_nil] at hfront
    rw [hfront]
    exact List.nil_prefix
  · exact hfront.trans (List.prefix_append _ _)

theorem unify_of_isSeparator {c : CodePoint} (h : isSeparator c = true) :
    (if c = CodePoint.ofChar '/' then backslash else c) = backslash := by
  split
  · rfl
  · next hslash =>
    rw [isSeparator, Bool.or_eq_true_iff, decide_eq_true_iff, decide_eq_true_iff] at h
    exact h.resolve_right hslash

theorem normalize_of_isShare (h : IsShare path) :
    ∃ rest, normalize path = backslash :: backslash :: rest := by
  obtain ⟨first, second, rest, hfirst, hsecond, rfl⟩ := isShare_iff.mp h
  have hunified : unifySeparators (first :: second :: rest) =
      backslash :: backslash :: unifySeparators rest := by
    rw [unifySeparators_cons, unifySeparators_cons, unify_of_isSeparator hfirst,
      unify_of_isSeparator hsecond]
  have hshare : IsShare (backslash :: backslash :: unifySeparators rest) := ⟨rfl, rfl⟩
  obtain ⟨later, hlater⟩ := drive_of_isShare hshare
  obtain ⟨more, hmore⟩ := drive_prefix_normalize (first :: second :: rest)
  rw [hunified] at hmore
  exact ⟨later ++ more, by rw [← hmore, hlater]; rfl⟩

end BuildRecorder.Path.Windows
