import BuildRecorder.Proofs.Files.Disk
import BuildRecorder.Proofs.Path.Parent

/-!
# Names that lead to a directory

Names lead from one place to another through directories only, so a way can be cut anywhere, and
names that lead nowhere else, the empty one and `.`, can be left out of it. Whatever follows a way
to a directory, as one more name, leads to a file or to a place that is free.
-/

namespace BuildRecorder

namespace Tree

variable {tree : Tree} {place p : Place} {name : Text} {names later : List Text}

/-- Whether names lead from a place to a directory. -/
def Reaches (tree : Tree) (place : Place) (names : List Text) (p : Place) : Prop :=
  tree.walk place names = .ok (.existing p .directory)

/-- What is at a place of a directory. -/
def targetAt (tree : Tree) (place : Place) : Target :=
  match tree.node? place with
  | some node => .existing place node
  | none => .vacant place

theorem step_of_isStay (h : Path.isStay name = true) (place : Place) : step place name = place := by
  have hstay : name = [] ∨ name = Path.current := by simpa [Path.isStay] using h
  have hhere : name = [] ∨ name = here := hstay
  rw [step, if_pos hhere]

theorem step_of_isName {separates : CodePoint → Bool} (h : Path.IsName separates name)
    (place : Place) : step place name = place ++ [name] := by
  have hmoves : ¬(name = [] ∨ name = here) := not_or.mpr ⟨h.ne_nil, h.ne_current⟩
  have hstays : ¬name = above := h.ne_up
  rw [step, if_neg hmoves, if_neg hstays]

theorem reaches_nil_iff :
    tree.Reaches place [] p ↔ tree.node? place = some .directory ∧ p = place := by
  rw [Reaches, walk_nil_eq_ok_iff]
  constructor
  · rintro ⟨node, hnode, heq⟩
    cases heq
    exact ⟨hnode, rfl⟩
  · rintro ⟨hnode, rfl⟩
    exact ⟨_, hnode, rfl⟩

theorem Reaches.node?_end (h : tree.Reaches place names p) : tree.node? p = some .directory :=
  node?_of_walk_existing h

theorem Reaches.node?_start (h : tree.Reaches place names p) :
    tree.node? place = some .directory := by
  cases names with
  | nil => exact (reaches_nil_iff.mp h).1
  | cons name names => exact (walk_cons_eq_ok_iff.mp h).1

theorem reaches_cons_iff :
    tree.Reaches place (name :: names) p ↔
      tree.node? place = some .directory ∧ tree.Reaches (step place name) names p := by
  rw [Reaches, walk_cons_eq_ok_iff]
  apply and_congr_right
  intro _
  constructor
  · rintro (⟨-, hlater⟩ | ⟨-, -, heq⟩)
    · exact hlater
    · cases heq
  · intro hlater
    exact .inl ⟨by rw [Reaches.node?_start hlater]; rfl, hlater⟩

theorem reaches_cons_of_isStay (h : Path.isStay name = true) :
    tree.Reaches place (name :: names) p ↔ tree.Reaches place names p := by
  rw [reaches_cons_iff, step_of_isStay h]
  exact and_iff_right_of_imp Reaches.node?_start

theorem reaches_append_iff :
    tree.Reaches place (names ++ later) p ↔
      ∃ q, tree.Reaches place names q ∧ tree.Reaches q later p := by
  induction names generalizing place with
  | nil =>
      constructor
      · intro h
        exact ⟨place, reaches_nil_iff.mpr ⟨h.node?_start, rfl⟩, h⟩
      · rintro ⟨q, hq, hlater⟩
        obtain ⟨-, rfl⟩ := reaches_nil_iff.mp hq
        exact hlater
  | cons name names ih =>
      simp only [List.cons_append, reaches_cons_iff, ih, and_assoc, exists_and_left]

/-- One more name behind a way to a directory leads to what is at its place. -/
theorem walk_concat_eq_ok_iff {target : Target} :
    tree.walk place (names ++ [name]) = .ok target ↔
      ∃ q, tree.Reaches place names q ∧ target = tree.targetAt (step q name) := by
  induction names generalizing place with
  | nil =>
      have hlast : (tree.node? (step place name)).isSome = true ∧
            tree.walk (step place name) [] = .ok target ∨
          tree.node? (step place name) = none ∧ target = .vacant (step place name) ↔
          target = tree.targetAt (step place name) := by
        rw [walk_nil_eq_ok_iff, targetAt]
        cases tree.node? (step place name) <;> simp
      simp only [List.nil_append, walk_cons_eq_ok_iff, reaches_nil_iff, true_and, hlast]
      constructor
      · rintro ⟨hplace, htarget⟩
        exact ⟨place, ⟨hplace, rfl⟩, htarget⟩
      · rintro ⟨q, ⟨hplace, rfl⟩, htarget⟩
        exact ⟨hplace, htarget⟩
  | cons first names ih =>
      rw [List.cons_append, walk_cons_eq_ok_iff, ih]
      simp only [reaches_cons_iff, and_assoc, exists_and_left]
      apply and_congr_right
      intro _
      constructor
      · rintro (⟨-, hlater⟩ | ⟨-, hempty, -⟩)
        · exact hlater
        · simp at hempty
      · rintro ⟨q, hq, htarget⟩
        exact .inl ⟨by rw [hq.node?_start]; rfl, q, hq, htarget⟩

/-- Names lead to the place that they spell out. -/
theorem Reaches.eq_append {separates : CodePoint → Bool}
    (hnames : ∀ name ∈ names, Path.IsName separates name) (h : tree.Reaches place names p) :
    p = place ++ names := by
  induction names generalizing place with
  | nil =>
      obtain ⟨-, rfl⟩ := reaches_nil_iff.mp h
      exact (List.append_nil p).symm
  | cons name names ih =>
      obtain ⟨hname, hlater⟩ := List.forall_mem_cons.mp hnames
      obtain ⟨-, hrest⟩ := reaches_cons_iff.mp h
      rw [ih hlater hrest, step_of_isName hname, List.append_assoc, List.singleton_append]

/-- Names lead where those of them lead that lead somewhere else. -/
theorem reaches_filter_iff :
    tree.Reaches place (names.filter (!Path.isStay ·)) p ↔ tree.Reaches place names p := by
  induction names generalizing place with
  | nil => rfl
  | cons name names ih =>
      cases hstays : Path.isStay name with
      | true => rw [List.filter_cons_of_neg (by simp [hstays]), reaches_cons_of_isStay hstays, ih]
      | false =>
          rw [List.filter_cons_of_pos (by simp [hstays]), reaches_cons_iff, reaches_cons_iff, ih]

/-- Ways that differ in names alone that lead nowhere else lead to the same place. -/
theorem reaches_congr {others : List Text}
    (h : names.filter (!Path.isStay ·) = others.filter (!Path.isStay ·)) :
    tree.Reaches place names p ↔ tree.Reaches place others p := by
  rw [← reaches_filter_iff, h, reaches_filter_iff]

end Tree

namespace Disk

open BuildRecorder.Path.Posix (slash isSeparator directories front basename parent writtenIn)

variable {disk : Disk} {path : Text}

theorem follow_of_ne_nil (hne : path ≠ []) :
    disk.follow path = disk.tree.walk (disk.start path) (path.splitOn isSeparator) := by
  rw [follow, if_neg (by simpa using hne)]

/-- A path leads to what is at its last segment, in the directory that the others lead to. -/
theorem follow_eq_ok_iff (hne : path ≠ []) {target : Tree.Target} :
    disk.follow path = .ok target ↔
      ∃ p, disk.tree.Reaches (disk.start path) (directories path) p ∧
        target = disk.tree.targetAt (Tree.step p (basename path)) := by
  rw [follow_of_ne_nil hne, Path.Posix.splitOn_eq_concat, Tree.walk_concat_eq_ok_iff]

theorem lookup?_eq_some_iff {node : Node} :
    disk.lookup? path = some node ↔
      nameFault? path = none ∧ ∃ p, disk.follow path = .ok (.existing p node) := by
  unfold lookup?
  cases nameFault? path with
  | some fault => simp
  | none =>
      cases disk.follow path with
      | error problem => simp
      | ok target => cases target <;> simp

theorem isDirectory_iff :
    disk.isDirectory path = true ↔
      nameFault? path = none ∧ path ≠ [] ∧
        ∃ p, disk.tree.Reaches (disk.start path) (path.splitOn isSeparator) p := by
  rw [isDirectory, decide_eq_true_eq, lookup?_eq_some_iff]
  apply and_congr_right
  intro _
  by_cases hne : path = []
  · simp [follow, hne]
  · simp only [follow_of_ne_nil hne, Tree.Reaches, hne, ne_eq, not_false_eq_true, true_and]

theorem unencodableName?_eq_none_iff (position : Nat) :
    unencodableName? position path = none ↔
      ∀ c ∈ path, (c.isSurrogate && !c.isRawByte) = false := by
  induction path generalizing position with
  | nil => simp [unencodableName?]
  | cons c rest ih =>
      rw [unencodableName?, List.forall_mem_cons]
      split
      · next hc => simp [hc]
      · next hc => rw [ih, Bool.eq_false_iff, and_iff_right hc]

/-- Whether a path is a file name is a matter of its characters. -/
theorem nameFault?_eq_none_iff :
    nameFault? path = none ↔
      (∀ c ∈ path, (c.isSurrogate && !c.isRawByte) = false) ∧ CodePoint.nul ∉ path := by
  rw [nameFault?, ← unencodableName?_eq_none_iff 0]
  cases unencodableName? 0 path with
  | some fault => simp
  | none => simp

theorem nameFault?_append {t u : Text} :
    nameFault? (t ++ u) = none ↔ nameFault? t = none ∧ nameFault? u = none := by
  rw [nameFault?_eq_none_iff, nameFault?_eq_none_iff, nameFault?_eq_none_iff,
    List.forall_mem_append, List.mem_append, not_or, and_and_and_comm]

theorem start_append {t : Text} (hne : t ≠ []) (u : Text) : disk.start (t ++ u) = disk.start t := by
  obtain ⟨c, rest, rfl⟩ := List.exists_cons_of_ne_nil hne
  rfl

/-- Slashes at the end of a path lead nowhere else. -/
theorem isDirectory_append_replicate (hne : path ≠ []) (n : Nat) :
    disk.isDirectory (path ++ List.replicate n slash) = true ↔ disk.isDirectory path = true := by
  have hslashes : nameFault? (List.replicate n slash) = none := by
    refine nameFault?_eq_none_iff.mpr ⟨fun c hc => ?_, fun hmem => ?_⟩
    · rw [List.eq_of_mem_replicate hc]
      rfl
    · cases List.eq_of_mem_replicate hmem
  have hways (p : Place) : disk.tree.Reaches (disk.start path)
        (path.splitOn isSeparator ++ List.replicate n []) p ↔
      disk.tree.Reaches (disk.start path) (path.splitOn isSeparator) p := by
    apply Tree.reaches_congr
    rw [List.filter_append, List.filter_replicate_of_neg (by decide), List.append_nil]
  have hne' : path ++ List.replicate n slash ≠ [] := fun h => hne (List.append_eq_nil_iff.mp h).1
  rw [isDirectory_iff, isDirectory_iff, nameFault?_append, and_iff_left hslashes,
    start_append hne, Path.Posix.splitOn_append_replicate, and_iff_right hne, and_iff_right hne']
  simp only [hways]

/-- What stands before the last segment of a path is where the other segments lead. -/
theorem isDirectory_front_iff (hfront : front path ≠ []) :
    disk.isDirectory (front path) = true ↔
      nameFault? (front path) = none ∧
        ∃ p, disk.tree.Reaches (disk.start path) (directories path) p := by
  have hstart : disk.start (front path) = disk.start path := by
    rw [← start_append hfront (basename path), Path.Posix.front_append_basename]
  have hways (p : Place) : disk.tree.Reaches (disk.start path) (directories path ++ [[]]) p ↔
      disk.tree.Reaches (disk.start path) (directories path) p := by
    apply Tree.reaches_congr
    rw [List.filter_append]
    exact List.append_nil _
  rw [isDirectory_iff, hstart, Path.Posix.splitOn_front, and_iff_right hfront]
  simp only [hways]

/-- The directory that a path is written in is where the segments before its last one lead. -/
theorem isDirectory_writtenIn_iff :
    disk.isDirectory (writtenIn path) = true ↔
      nameFault? (front path) = none ∧
        ∃ p, disk.tree.Reaches (disk.start path) (directories path) p := by
  by_cases hfront : front path = []
  · obtain ⟨hempty, hrelative⟩ := Path.Posix.directories_of_front_eq_nil hfront
    have hstart : disk.start path = disk.start Path.current := by
      rw [start, hrelative]
      rfl
    have hways (p : Place) :
        disk.tree.Reaches (disk.start Path.current) (Path.current.splitOn isSeparator) p ↔
          disk.tree.Reaches (disk.start Path.current) [] p := Tree.reaches_congr (by decide)
    have hnamed : nameFault? Path.current = none := by decide
    have hnothing : nameFault? [] = none := rfl
    rw [Path.Posix.writtenIn_of_front_eq_nil hfront, isDirectory_iff, hfront, hempty, hstart,
      and_iff_right hnamed, and_iff_right hnothing, and_iff_right (by decide)]
    simp only [hways]
  · obtain ⟨n, hparent⟩ := Path.Posix.exists_front_eq path
    have hne : parent path ≠ [] := mt Path.Posix.parent_eq_nil_iff.mp hfront
    rw [Path.Posix.writtenIn_of_front_ne_nil hfront, ← isDirectory_append_replicate hne n,
      ← hparent, isDirectory_front_iff hfront]

end Disk

end BuildRecorder
