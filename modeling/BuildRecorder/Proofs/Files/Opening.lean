import BuildRecorder.Proofs.Files.Reach

/-!
# Opening files

A file can be opened in a directory that is there, and the path says which: it is followed as it is
written. The absolute path is found without a look at the tree, and may stand for another directory.
Names behind one another, with a name at the end, lead to the same directory either way.
-/

namespace BuildRecorder.Disk

open BuildRecorder.Path.Posix (slash isSeparator directories front basename parent writtenIn)

variable {disk : Disk} {path : Text}

/-- A path that a file can be written at names a file in a directory that is there. -/
structure IsPlaced (disk : Disk) (path : Text) : Prop where
  named : nameFault? path = none
  directory : disk.isDirectory (writtenIn path) = true

theorem nameFault?_front (h : nameFault? path = none) : nameFault? (front path) = none := by
  rw [← Path.Posix.front_append_basename path, nameFault?_append] at h
  exact h.1

theorem followToWrite_of_getLast?_ne (h : path.getLast? ≠ some slash) :
    disk.followToWrite path = disk.follow path := by
  unfold followToWrite
  dsimp only
  split
  · rfl
  · rw [if_pos (.inl h)]

/-- Where no directory is, a file can be opened exactly in a directory that is there. -/
theorem exists_openToWrite_iff (hne : path ≠ []) (hdirectory : disk.isDirectory path = false) :
    (∃ opened, disk.openToWrite path = .ok opened) ↔ disk.IsPlaced path := by
  constructor
  · rintro ⟨opened, hopened⟩
    obtain ⟨hnamed, -, hcases⟩ := openToWrite_cases hopened
    have hlead : ∃ target, disk.follow path = .ok target := by
      rcases hcases with ⟨_, _, _, hlead, -⟩ | ⟨_, hlead, -⟩ | ⟨_, hlead, -⟩ <;> exact ⟨_, hlead⟩
    obtain ⟨target, hlead⟩ := hlead
    obtain ⟨p, hreaches, -⟩ := (follow_eq_ok_iff hne).mp hlead
    exact ⟨hnamed, isDirectory_writtenIn_iff.mpr ⟨nameFault?_front hnamed, p, hreaches⟩⟩
  · rintro ⟨hnamed, hwritten⟩
    obtain ⟨-, p, hreaches⟩ := isDirectory_writtenIn_iff.mp hwritten
    have hlead := (follow_eq_ok_iff hne).mpr ⟨p, hreaches, rfl⟩
    have hfree (q : Place) : disk.follow path ≠ .ok (.existing q .directory) := by
      intro hfollow
      rw [isDirectory, lookup?_eq_some_iff.mpr ⟨hnamed, q, hfollow⟩] at hdirectory
      cases hdirectory
    have hplain : path.getLast? ≠ some slash := by
      intro hlast
      apply hfree p
      rw [hlead, Path.Posix.basename_eq_nil hlast, Tree.step_of_isStay rfl, Tree.targetAt,
        hreaches.node?_end]
    unfold openToWrite
    rw [hnamed, followToWrite_of_getLast?_ne hplain]
    dsimp only
    rw [hlead] at hfree ⊢
    cases htarget : disk.tree.targetAt (Tree.step p (basename path)) with
    | vacant place => exact ⟨_, rfl⟩
    | existing place node =>
        rw [htarget] at hfree
        cases node with
        | directory => exact absurd rfl (hfree place)
        | file serial content => exact ⟨_, rfl⟩
        | fullDevice => exact ⟨_, rfl⟩

/-! ## Paths that lead down -/

/-- A file name without `..` that ends in a name, seen from a working directory that is made of
names. -/
structure LeadsDown (disk : Disk) (path : Text) : Prop where
  named : nameFault? path = none
  down : Path.up ∉ path.splitOn isSeparator
  last : Path.IsName isSeparator (basename path)
  base : ∀ name ∈ disk.cwd, Path.IsName isSeparator name

theorem names_pathOf {place : Place} (h : ∀ name ∈ place, Path.IsName isSeparator name) :
    Path.names isSeparator (pathOf place) = place := by
  rw [pathOf, Path.names_cons_separator Path.Posix.isSeparator_slash,
    Path.names_join Path.Posix.isSeparator_slash h]

theorem LeadsDown.isName_of_mem_start (h : disk.LeadsDown path) :
    ∀ name ∈ disk.start path, Path.IsName isSeparator name := by
  unfold start
  split
  · exact List.forall_mem_nil _
  · exact h.base

/-- The names of the absolute path of a path that leads down are those that it is written with. -/
theorem LeadsDown.names_join (h : disk.LeadsDown path) :
    Path.names isSeparator (Path.Posix.join (pathOf disk.cwd) path) =
      disk.start path ++ (path.splitOn isSeparator).filter (!Path.isStay ·) := by
  rw [← Path.resolve_append_of_up_notMem h.isName_of_mem_start h.down, start]
  cases habsolute : Path.Posix.isAbsolute path with
  | true =>
      rw [Path.Posix.join_of_isAbsolute _ habsolute]
      rfl
  | false =>
      rw [Path.Posix.names_join_of_relative _ habsolute, names_pathOf h.base]
      rfl

theorem LeadsDown.dropLast_names_join (h : disk.LeadsDown path) :
    (Path.names isSeparator (Path.Posix.join (pathOf disk.cwd) path)).dropLast =
      disk.start path ++ (directories path).filter (!Path.isStay ·) := by
  have hlast : [basename path].filter (!Path.isStay ·) = [basename path] := by
    simp [h.last.not_isStay]
  rw [h.names_join, Path.Posix.splitOn_eq_concat, List.filter_append, hlast, ← List.append_assoc,
    List.dropLast_concat]

theorem isAbsolute_absolute (disk : Disk) (path : Text) :
    Path.Posix.isAbsolute (disk.absolute path) = true :=
  Path.Posix.isAbsolute_normalize (Path.Posix.isAbsolute_join path rfl)

theorem writtenIn_absolute (disk : Disk) (path : Text) :
    writtenIn (disk.absolute path) = parent (disk.absolute path) := by
  apply Path.Posix.writtenIn_of_front_ne_nil
  intro hfront
  have habsolute := isAbsolute_absolute disk path
  rw [(Path.Posix.directories_of_front_eq_nil hfront).2] at habsolute
  cases habsolute

/-- Where the directories of its absolute path lead, those of a path that leads down lead too. -/
theorem LeadsDown.reaches (h : disk.LeadsDown path) {p : Place}
    (hreaches : disk.tree.Reaches [] (directories (disk.absolute path)) p) :
    disk.tree.Reaches (disk.start path) (directories path) p := by
  have hjoin : Path.Posix.isAbsolute (Path.Posix.join (pathOf disk.cwd) path) = true :=
    Path.Posix.isAbsolute_join path rfl
  obtain ⟨n, hdirectories⟩ := Path.Posix.directories_normalize hjoin
  have hways : disk.tree.Reaches [] (directories (disk.absolute path)) p ↔
      disk.tree.Reaches [] (disk.start path ++ directories path) p := by
    apply Tree.reaches_congr
    rw [absolute, hdirectories, h.dropLast_names_join, List.filter_append,
      List.filter_replicate_of_neg (by decide), List.nil_append, List.filter_append,
      List.filter_append, List.filter_filter]
    simp only [Bool.and_self]
  obtain ⟨q, hstart, hlater⟩ := Tree.reaches_append_iff.mp (hways.mp hreaches)
  have hq := hstart.eq_append h.isName_of_mem_start
  rw [List.nil_append] at hq
  rwa [hq] at hlater

/-- If the directory of its absolute path is there, a path that leads down is written in one. -/
theorem LeadsDown.isPlaced (h : disk.LeadsDown path)
    (hparent : disk.isDirectory (parent (disk.absolute path)) = true) : disk.IsPlaced path := by
  rw [← writtenIn_absolute, isDirectory_writtenIn_iff, start,
    if_pos (isAbsolute_absolute disk path)] at hparent
  obtain ⟨-, p, hreaches⟩ := hparent
  exact ⟨h.named, isDirectory_writtenIn_iff.mpr ⟨nameFault?_front h.named, p, h.reaches hreaches⟩⟩

/-! ## Files and devices -/

/-- On a disk without devices what can be opened takes a file. -/
theorem takesFile_iff_isPlaced (hplain : ∀ entry ∈ disk.tree.nodes, entry.2 ≠ .fullDevice)
    (hne : path ≠ []) (hdirectory : disk.isDirectory path = false) :
    disk.TakesFile path ↔ disk.IsPlaced path := by
  rw [← exists_openToWrite_iff hne hdirectory]
  constructor
  · intro htakes
    exact ⟨_, openToWrite_eq_ok_iff.mpr ⟨htakes, rfl, rfl, rfl⟩⟩
  · rintro ⟨⟨opened, handle⟩, hopened⟩
    cases handle with
    | file serial offset => exact (openToWrite_eq_ok_iff.mp hopened).1
    | device =>
        obtain ⟨-, p, hlead⟩ := lookup?_eq_some_iff.mp (lookup?_of_openToWrite_device hopened).1
        rw [follow_of_ne_nil hne] at hlead
        have hmem := Tree.mem_of_node?_eq_some (Tree.node?_of_walk_existing hlead) (by simp)
        exact absurd rfl (hplain _ hmem)

theorem ne_nul_of_replace {bytes : Bytes} {fault : PathFault} (hnul : CodePoint.nul ∉ path)
    (h : disk.replace path bytes = .error fault) : fault ≠ .nul := by
  cases hname : nameFault? path with
  | none =>
      obtain ⟨system, rfl⟩ := exists_system_of_replace_error hname h
      simp
  | some refused =>
      have hopen : disk.openToWrite path = .error refused := by
        rw [openToWrite, hname]
      rw [replace, hopen] at h
      cases h
      rintro rfl
      unfold nameFault? at hname
      split at hname
      · cases hname
      · split at hname
        · next hany =>
          obtain ⟨c, hc, hzero⟩ := List.any_eq_true.mp hany
          exact hnul (of_decide_eq_true hzero ▸ hc)
        · cases hname

/-- What is there and is no directory can be read. -/
theorem exists_read (hexists : disk.exists path = true)
    (hdirectory : disk.isDirectory path = false) : ∃ content, disk.read path = .ok content := by
  obtain ⟨node, hnode⟩ := Option.isSome_iff_exists.mp hexists
  obtain ⟨hnamed, p, hlead⟩ := lookup?_eq_some_iff.mp hnode
  have hopen : ∃ opened, disk.openToRead path = .ok opened := by
    rw [openToRead, hnamed]
    dsimp only
    rw [hlead]
    cases node with
    | directory => simp [isDirectory, hnode] at hdirectory
    | file serial content => exact ⟨_, rfl⟩
    | fullDevice => exact ⟨_, rfl⟩
  obtain ⟨opened, hopened⟩ := hopen
  exact ⟨disk.contentOf opened, by rw [read, hopened]; rfl⟩

end BuildRecorder.Disk
