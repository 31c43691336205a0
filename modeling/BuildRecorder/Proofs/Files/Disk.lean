import BuildRecorder.Files.Disk
import BuildRecorder.Proofs.Files.Tree

/-!
# The file at a path

For a path that a file can be written at, the disk is a cell: setting its content is one operation,
what was set last is what is read, and opening, writing and replacing are that operation. Such a
path is followed for writing as it is for reading.
-/

namespace BuildRecorder.Disk

variable {disk : Disk} {path : Text}

/-- The disk with a content at a path, in the file that is there or in a new one. -/
def setContent (disk : Disk) (path : Text) (content : Bytes) : Disk :=
  match disk.follow path with
  | .ok (.existing _ (.file serial _)) =>
    { disk with tree := disk.tree.modify serial fun _ => content }
  | .ok (.vacant place) => { disk with tree := disk.tree.addFile place content }
  | _ => disk

/-- The number of the file that is written to at a path. -/
def serialAt (disk : Disk) (path : Text) : Nat :=
  match disk.follow path with
  | .ok (.existing _ (.file serial _)) => serial
  | _ => disk.tree.nextSerial

/-- Whether a path leads to a file or to a name that is free for one. -/
inductive LeadsToFile (disk : Disk) (path : Text) : Prop
  | existing (place : Place) (serial : Nat) (content : Bytes)
      (h : disk.follow path = .ok (.existing place (.file serial content)))
  | vacant (place : Place) (h : disk.follow path = .ok (.vacant place))

/-- A path that a file can be written at. -/
structure TakesFile (disk : Disk) (path : Text) : Prop where
  named : nameFault? path = none
  plain : ∀ other : Disk, other.followToWrite path = other.follow path
  leads : disk.LeadsToFile path

/-! ## Following paths on a changed disk -/

theorem follow_modify (serial : Nat) (change : Bytes → Bytes) (path : Text) :
    ({ disk with tree := disk.tree.modify serial change } : Disk).follow path =
      (disk.follow path).map (Tree.Target.change serial change) := by
  unfold follow
  split
  · rfl
  · exact Tree.walk_modify serial change

theorem node?_of_follow_vacant {place : Place} (h : disk.follow path = .ok (.vacant place)) :
    disk.tree.node? place = none := by
  unfold follow at h
  split at h
  · simp at h
  · exact Tree.node?_of_walk_vacant h

theorem follow_addFile_vacant {place : Place} (content : Bytes)
    (h : disk.follow path = .ok (.vacant place)) :
    ({ disk with tree := disk.tree.addFile place content } : Disk).follow path =
      .ok (.existing place (.file disk.tree.nextSerial content)) := by
  unfold follow at h ⊢
  split
  · next hempty => simp [hempty] at h
  · next hempty =>
    rw [if_neg hempty] at h
    exact Tree.walk_addFile_vacant content h

theorem follow_addFile_existing {place p : Place} {node : Node} (content : Bytes)
    (hvacant : disk.tree.node? place = none) (h : disk.follow path = .ok (.existing p node)) :
    ({ disk with tree := disk.tree.addFile place content } : Disk).follow path =
      .ok (.existing p node) := by
  unfold follow at h ⊢
  split
  · next hempty => simp [hempty] at h
  · next hempty =>
    rw [if_neg hempty] at h
    exact Tree.walk_addFile_existing hvacant content h

theorem follow_setContent (h : disk.LeadsToFile path) (content : Bytes) :
    ∃ place, (disk.setContent path content).follow path =
      .ok (.existing place (.file (disk.serialAt path) content)) := by
  cases h with
  | existing place serial old hlead =>
      refine ⟨place, ?_⟩
      simp only [setContent, serialAt, hlead]
      rw [follow_modify, hlead]
      simp [Except.map, Tree.Target.change, Node.change]
  | vacant place hlead =>
      refine ⟨place, ?_⟩
      simp only [setContent, serialAt, hlead]
      exact follow_addFile_vacant content hlead

theorem serialAt_setContent (h : disk.LeadsToFile path) (content : Bytes) :
    (disk.setContent path content).serialAt path = disk.serialAt path := by
  obtain ⟨place, hlead⟩ := follow_setContent h content
  rw [serialAt, hlead]

theorem TakesFile.setContent (h : disk.TakesFile path) (content : Bytes) :
    (disk.setContent path content).TakesFile path := by
  obtain ⟨place, hlead⟩ := follow_setContent h.leads content
  exact ⟨h.named, h.plain, .existing _ _ _ hlead⟩

theorem follow_setContent_directory {place : Place} {directory : Text}
    (h : disk.follow directory = .ok (.existing place .directory)) (path : Text)
    (content : Bytes) :
    (disk.setContent path content).follow directory = .ok (.existing place .directory) := by
  unfold Disk.setContent
  split
  · rw [follow_modify, h]
    rfl
  · next hlead => exact follow_addFile_existing content (node?_of_follow_vacant hlead) h
  · exact h

/-! ## Opening and writing -/

/-- Whether the slash at the end of a path asks for a directory depends on the path alone. -/
theorem followToWrite_eq_follow {target : Tree.Target} (h : disk.followToWrite path = .ok target)
    (other : Disk) : other.followToWrite path = other.follow path := by
  simp only [followToWrite] at h ⊢
  split
  · rfl
  · next last hlast =>
    simp only [hlast] at h
    split
    · rfl
    · next hplain =>
      rw [if_neg hplain] at h
      split at h <;> simp at h

/-- What opening a file for writing does: it empties a file, opens a device, or makes a new file. -/
theorem openToWrite_cases {opened : Disk × Handle} (h : disk.openToWrite path = .ok opened) :
    nameFault? path = none ∧ (∀ other : Disk, other.followToWrite path = other.follow path) ∧
      ((∃ place serial content,
          disk.follow path = .ok (.existing place (.file serial content)) ∧
            opened = (disk.setContent path [], .file serial 0)) ∨
        (∃ place, disk.follow path = .ok (.existing place .fullDevice) ∧
          opened = (disk, .device)) ∨
        ∃ place, disk.follow path = .ok (.vacant place) ∧
          opened = (disk.setContent path [], .file disk.tree.nextSerial 0)) := by
  unfold openToWrite at h
  cases hname : nameFault? path with
  | some fault => simp [hname] at h
  | none =>
      simp only [hname] at h
      cases hfollow : disk.followToWrite path with
      | error problem => simp [hfollow, refuse] at h
      | ok target =>
          have hplain := followToWrite_eq_follow hfollow
          have hlead := (hplain disk).symm.trans hfollow
          refine ⟨rfl, hplain, ?_⟩
          simp only [hfollow] at h
          cases target with
          | vacant place =>
              exact .inr (.inr ⟨place, hlead, by simpa [setContent, hlead] using h.symm⟩)
          | existing place node =>
              cases node with
              | directory => simp [refuse] at h
              | fullDevice => exact .inr (.inl ⟨place, hlead, (Except.ok.inj h).symm⟩)
              | file serial content =>
                  exact .inl ⟨place, serial, content, hlead,
                    by simpa [setContent, hlead] using h.symm⟩

theorem openToWrite_eq_ok_iff {opened : Disk} {serial offset : Nat} :
    disk.openToWrite path = .ok (opened, .file serial offset) ↔
      disk.TakesFile path ∧ opened = disk.setContent path [] ∧ serial = disk.serialAt path ∧
        offset = 0 := by
  constructor
  · intro h
    obtain ⟨hname, hplain, ⟨place, s, content, hlead, hopened⟩ | ⟨place, -, hopened⟩ |
      ⟨place, hlead, hopened⟩⟩ := openToWrite_cases h
    · obtain ⟨rfl, rfl, rfl⟩ : opened = _ ∧ serial = s ∧ offset = 0 := by simpa using hopened
      exact ⟨⟨hname, hplain, .existing _ _ _ hlead⟩, rfl, by simp [serialAt, hlead], rfl⟩
    · simp at hopened
    · obtain ⟨rfl, rfl, rfl⟩ : opened = _ ∧ serial = disk.tree.nextSerial ∧ offset = 0 := by
        simpa using hopened
      exact ⟨⟨hname, hplain, .vacant _ hlead⟩, rfl, by simp [serialAt, hlead], rfl⟩
  · rintro ⟨htakes, rfl, rfl, rfl⟩
    cases htakes.leads with
    | existing place serial content hlead =>
        simp [openToWrite, htakes.named, htakes.plain, hlead, setContent, serialAt]
    | vacant place hlead =>
        simp [openToWrite, htakes.named, htakes.plain, hlead, setContent, serialAt]

theorem lookup?_of_openToWrite_device {opened : Disk}
    (h : disk.openToWrite path = .ok (opened, .device)) :
    disk.lookup? path = some .fullDevice ∧ opened = disk := by
  obtain ⟨hname, -, ⟨place, serial, content, -, hopened⟩ | ⟨place, hlead, hopened⟩ |
    ⟨place, -, hopened⟩⟩ := openToWrite_cases h
  · simp at hopened
  · exact ⟨by simp [lookup?, hname, hlead], (Prod.mk.inj hopened).1⟩
  · simp at hopened

/-- Where a device is, no file can be written at. -/
theorem not_takesFile_of_lookup? (h : disk.lookup? path = some .fullDevice) :
    ¬ disk.TakesFile path := by
  intro htakes
  cases htakes.leads with
  | existing place serial content hlead => simp [lookup?, htakes.named, hlead] at h
  | vacant place hlead => simp [lookup?, htakes.named, hlead] at h

@[simp] theorem overwrite_append (content bytes : Bytes) :
    overwrite content content.length bytes = content ++ bytes := by
  simp [overwrite]

/-- What is written over a content at its beginning replaces it if it is no shorter. -/
theorem overwrite_zero {content bytes : Bytes} (h : content.length ≤ bytes.length) :
    overwrite content 0 bytes = bytes := by
  simp [overwrite_eq, List.drop_eq_nil_of_le h]

theorem write_setContent_of_ne_nil (h : disk.TakesFile path) (content : Bytes) (offset : Nat)
    {bytes : Bytes} (hbytes : bytes ≠ []) :
    (disk.setContent path content).write (.file (disk.serialAt path) offset) bytes =
      .ok (disk.setContent path (overwrite content offset bytes),
        .file (disk.serialAt path) (offset + bytes.length)) := by
  have hnonempty : ¬ bytes.isEmpty = true := by simpa using hbytes
  have hcompose : (overwrite · offset bytes) ∘ (fun _ : Bytes => content) =
      fun _ => overwrite content offset bytes := rfl
  cases h.leads with
  | existing place serial old hlead =>
      simp [write, hnonempty, setContent, serialAt, hlead, Tree.modify_modify, hcompose]
  | vacant place hlead =>
      have hvacant := node?_of_follow_vacant hlead
      simp [write, hnonempty, setContent, serialAt, hlead, Tree.modify_addFile hvacant]

theorem write_setContent (h : disk.TakesFile path) (content bytes : Bytes) :
    (disk.setContent path content).write (.file (disk.serialAt path) content.length) bytes =
      .ok (disk.setContent path (content ++ bytes),
        .file (disk.serialAt path) (content ++ bytes).length) := by
  by_cases hbytes : bytes = []
  · simp [write, hbytes]
  · rw [write_setContent_of_ne_nil h content content.length hbytes, overwrite_append,
      List.length_append]

/-- Replacing a content succeeds where a file can be written at, and sets the content. -/
theorem replace_eq_ok_iff {bytes : Bytes} {replaced : Disk} (hbytes : bytes ≠ []) :
    disk.replace path bytes = .ok replaced ↔
      disk.TakesFile path ∧ replaced = disk.setContent path bytes := by
  constructor
  · intro h
    unfold replace at h
    split at h
    · simp at h
    · next opened handle hopen =>
      cases handle with
      | device => simp [write, hbytes] at h
      | file serial offset =>
          obtain ⟨htakes, rfl, rfl, rfl⟩ := openToWrite_eq_ok_iff.mp hopen
          have hwrite := write_setContent htakes [] bytes
          rw [List.length_nil, List.nil_append] at hwrite
          simp only [hwrite, Except.ok.injEq] at h
          exact ⟨htakes, h.symm⟩
  · rintro ⟨htakes, rfl⟩
    have hwrite := write_setContent htakes [] bytes
    rw [List.length_nil, List.nil_append] at hwrite
    rw [replace, openToWrite_eq_ok_iff.mpr ⟨htakes, rfl, rfl, rfl⟩]
    simp only [hwrite]

/-- A path that is a file name is refused by the system alone. -/
theorem exists_system_of_replace_error {bytes : Bytes} {fault : PathFault}
    (hname : nameFault? path = none) (h : disk.replace path bytes = .error fault) :
    ∃ system, fault = .system system := by
  unfold replace at h
  cases hopen : disk.openToWrite path with
  | ok opened =>
      obtain ⟨opened, handle⟩ := opened
      cases hwrite : opened.write handle bytes with
      | ok written => simp [hopen, hwrite] at h
      | error system => exact ⟨system, by simpa [hopen, hwrite] using h.symm⟩
  | error refused =>
      obtain rfl : refused = fault := by simpa [hopen] using h
      unfold openToWrite at hopen
      simp only [hname] at hopen
      split at hopen <;> simp [refuse] at hopen <;> exact ⟨_, hopen.symm⟩

theorem nameFault?_of_read {content : Bytes} (h : disk.read path = .ok content) :
    nameFault? path = none := by
  cases hname : nameFault? path with
  | some fault => simp [read, openToRead, hname, Except.map] at h
  | none => rfl

theorem exists_of_read {content : Bytes} (h : disk.read path = .ok content) :
    disk.exists path = true := by
  have hname := nameFault?_of_read h
  unfold read openToRead at h
  simp only [hname] at h
  unfold «exists» lookup?
  split at h <;> simp_all [refuse, Except.map]

/-! ## The laws of a cell -/

theorem contentOf_setContent (h : disk.LeadsToFile path) (content : Bytes) :
    (disk.setContent path content).tree.contentOf (disk.serialAt path) = content := by
  cases h with
  | existing place serial old hlead =>
      have hnode : disk.tree.node? place = some (.file serial old) := by
        unfold follow at hlead
        split at hlead
        · simp at hlead
        · exact Tree.node?_of_walk_existing hlead
      simp only [setContent, serialAt, hlead]
      exact Tree.contentOf_modify (Tree.mem_of_node?_eq_some hnode (by simp)) content
  | vacant place hlead =>
      simp only [setContent, serialAt, hlead]
      exact Tree.contentOf_addFile (node?_of_follow_vacant hlead) content

theorem read_setContent (h : disk.TakesFile path) (content : Bytes) :
    (disk.setContent path content).read path = .ok content := by
  obtain ⟨place, hlead⟩ := follow_setContent h.leads content
  have hcontent := contentOf_setContent h.leads content
  simp only [read, openToRead, h.named, hlead]
  simpa [Except.map, contentOf] using hcontent

theorem setContent_setContent (h : disk.TakesFile path) (first second : Bytes) :
    (disk.setContent path first).setContent path second = disk.setContent path second := by
  obtain ⟨place, hlead⟩ := follow_setContent h.leads first
  rw [setContent.eq_def (disk.setContent path first), hlead]
  cases h.leads with
  | existing place serial old hlead =>
      simp only [setContent, serialAt, hlead, Tree.modify_modify]
      rfl
  | vacant place hlead =>
      have hvacant := node?_of_follow_vacant hlead
      simp only [setContent, serialAt, hlead, Tree.modify_addFile hvacant]

@[simp] theorem absolute_setContent (content : Bytes) (other : Text) :
    (disk.setContent path content).absolute other = disk.absolute other := by
  unfold setContent
  split <;> rfl

@[simp] theorem isWritable_setContent (content : Bytes) (other : Text) :
    (disk.setContent path content).isWritable other = disk.isWritable other := by
  unfold setContent
  split <;> rfl

theorem lookup?_setContent (h : disk.TakesFile path) (content : Bytes) :
    (disk.setContent path content).lookup? path =
      some (.file (disk.serialAt path) content) := by
  obtain ⟨place, hlead⟩ := follow_setContent h.leads content
  simp [lookup?, h.named, hlead]

theorem isDirectory_setContent {directory : Text} (h : disk.isDirectory directory = true)
    (path : Text) (content : Bytes) :
    (disk.setContent path content).isDirectory directory = true := by
  unfold isDirectory lookup? at h ⊢
  split
  · next hname => simp [hname] at h
  · next hname =>
    rw [if_neg hname] at h
    cases hlead : disk.follow directory with
    | error problem => simp [hlead] at h
    | ok target =>
        cases target with
        | vacant place => simp [hlead] at h
        | existing place node =>
            obtain rfl : node = .directory := by simpa [hlead] using h
            simp [follow_setContent_directory hlead path content]

end BuildRecorder.Disk
