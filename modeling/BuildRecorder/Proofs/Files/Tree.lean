import BuildRecorder.Files.Tree

/-!
# Trees that change

What a new file and a new content do to the nodes of a tree, and so to the paths that are followed
through it. A serial number that has not been given out belongs to no node, hence a file can be
created empty and filled afterwards.
-/

namespace BuildRecorder

@[simp] theorem Node.change_directory (serial : Nat) (change : Bytes → Bytes) :
    Node.directory.change serial change = .directory := rfl

theorem Node.change_change (serial : Nat) (f g : Bytes → Bytes) (node : Node) :
    (node.change serial f).change serial g = node.change serial (g ∘ f) := by
  cases node with
  | file n content => by_cases h : n = serial <;> simp [Node.change, h]
  | _ => rfl

theorem Node.Below.change_eq {node : Node} {bound serial : Nat} (h : node.Below bound)
    (hle : bound ≤ serial) (change : Bytes → Bytes) : node.change serial change = node := by
  cases node with
  | file n content =>
      have hne : n ≠ serial := Nat.ne_of_lt (Nat.lt_of_lt_of_le h hle)
      simp [Node.change, hne]
  | _ => rfl

namespace Tree

variable {tree : Tree} {place : Place} {names : List Text}

theorem mem_of_node?_eq_some {node : Node} (h : tree.node? place = some node)
    (hne : node ≠ .directory) : (place, node) ∈ tree.nodes := by
  cases place with
  | nil => exact absurd (Option.some.inj h).symm hne
  | cons name place =>
      obtain ⟨front, back, hnodes, -⟩ := List.lookup_eq_some_iff.mp h
      simp [hnodes]

/-! ## Following names -/

theorem walk_nil_eq_ok_iff {target : Target} :
    tree.walk place [] = .ok target ↔
      ∃ node, tree.node? place = some node ∧ target = .existing place node := by
  rw [walk]
  cases tree.node? place <;> simp [eq_comm]

/-- A name is followed from a directory: to what is there, or, as the last name, to a free place. -/
theorem walk_cons_eq_ok_iff {name : Text} {target : Target} :
    tree.walk place (name :: names) = .ok target ↔
      tree.node? place = some .directory ∧
        (((tree.node? (step place name)).isSome = true ∧
            tree.walk (step place name) names = .ok target) ∨
          (tree.node? (step place name) = none ∧ names = [] ∧
            target = .vacant (step place name))) := by
  rw [walk]
  cases hnode : tree.node? place with
  | none => simp
  | some node =>
      cases node with
      | directory =>
          cases hnext : tree.node? (step place name) with
          | some next => simp [hnext]
          | none => by_cases hlast : names = [] <;> simp [hnext, hlast, @eq_comm _ target]
      | _ => simp

theorem node?_of_walk_existing {p : Place} {node : Node}
    (h : tree.walk place names = .ok (.existing p node)) : tree.node? p = some node := by
  induction names generalizing place with
  | nil =>
      obtain ⟨node', hnode, heq⟩ := walk_nil_eq_ok_iff.mp h
      cases heq
      exact hnode
  | cons name rest ih =>
      rcases walk_cons_eq_ok_iff.mp h with ⟨-, ⟨-, hrest⟩ | ⟨-, -, heq⟩⟩
      · exact ih hrest
      · cases heq

theorem node?_of_walk_vacant {p : Place} (h : tree.walk place names = .ok (.vacant p)) :
    tree.node? p = none := by
  induction names generalizing place with
  | nil =>
      obtain ⟨node, -, heq⟩ := walk_nil_eq_ok_iff.mp h
      cases heq
  | cons name rest ih =>
      rcases walk_cons_eq_ok_iff.mp h with ⟨-, ⟨-, hrest⟩ | ⟨hfree, -, heq⟩⟩
      · exact ih hrest
      · cases heq
        exact hfree

/-! ## New contents -/

theorem lookup_map_snd {α β γ : Type} [BEq α] (f : β → γ) (entries : List (α × β)) (key : α) :
    (entries.map fun (k, b) => (k, f b)).lookup key = (entries.lookup key).map f := by
  induction entries with
  | nil => rfl
  | cons entry entries ih =>
      obtain ⟨k, b⟩ := entry
      rw [List.map_cons, List.lookup_cons, List.lookup_cons, ih]
      cases key == k <;> rfl

theorem nodes_modify (serial : Nat) (change : Bytes → Bytes) :
    (tree.modify serial change).nodes =
      tree.nodes.map fun (place, node) => (place, node.change serial change) := rfl

@[simp] theorem nextSerial_modify (serial : Nat) (change : Bytes → Bytes) :
    (tree.modify serial change).nextSerial = tree.nextSerial := rfl

theorem node?_modify (serial : Nat) (change : Bytes → Bytes) :
    (tree.modify serial change).node? place =
      (tree.node? place).map (Node.change serial change) := by
  cases place with
  | nil => rfl
  | cons name place => exact lookup_map_snd (Node.change serial change) tree.nodes (name :: place)

theorem modify_modify (serial : Nat) (f g : Bytes → Bytes) :
    (tree.modify serial f).modify serial g = tree.modify serial (g ∘ f) := by
  ext1
  · simp [nodes_modify, Node.change_change]
  · rfl

def Target.change (serial : Nat) (change : Bytes → Bytes) : Target → Target
  | .existing place node => .existing place (node.change serial change)
  | .vacant place => .vacant place

theorem walk_modify (serial : Nat) (change : Bytes → Bytes) :
    (tree.modify serial change).walk place names =
      (tree.walk place names).map (Target.change serial change) := by
  induction names generalizing place with
  | nil =>
      rw [walk, walk, node?_modify]
      cases tree.node? place <;> rfl
  | cons name rest ih =>
      rw [walk, walk, node?_modify]
      cases tree.node? place with
      | none => rfl
      | some node =>
          cases node with
          | directory =>
              simp only [Option.map_some, Node.change_directory, node?_modify,
                Option.isSome_map, ih]
              split
              · rfl
              · split <;> rfl
          | _ => rfl

/-! ## New files -/

theorem lookup_of_node?_eq_none (h : tree.node? place = none) : tree.nodes.lookup place = none := by
  cases place with
  | nil => simp [node?] at h
  | cons name place => exact h

theorem nodes_addFile (hvacant : tree.node? place = none) (content : Bytes) :
    (tree.addFile place content).nodes =
      tree.nodes ++ [(place, .file tree.nextSerial content)] := by
  have hfree : ¬ tree.nodes.any (·.1 = place) = true := by
    intro h
    obtain ⟨entry, hentry, heq⟩ := List.any_eq_true.mp h
    have hkey := List.lookup_eq_none_iff.mp (lookup_of_node?_eq_none hvacant) entry hentry
    simp [of_decide_eq_true heq] at hkey
  simp [addFile, put, skipSerial, hfree]

@[simp] theorem nextSerial_addFile (content : Bytes) :
    (tree.addFile place content).nextSerial = tree.nextSerial + 1 := by
  unfold addFile put
  split <;> rfl

theorem node?_addFile (hvacant : tree.node? place = none) (content : Bytes) (other : Place) :
    (tree.addFile place content).node? other =
      if other = place then some (.file tree.nextSerial content) else tree.node? other := by
  have hne : place ≠ [] := by
    rintro rfl
    simp [node?] at hvacant
  have hlookup := lookup_of_node?_eq_none hvacant
  have hnodes := nodes_addFile hvacant content
  cases other with
  | nil => simp [node?, Ne.symm hne]
  | cons name rest =>
      by_cases heq : name :: rest = place
      · simp [node?, hnodes, List.lookup_append, heq, hlookup]
      · have hbeq : (name :: rest == place) = false := beq_eq_false_iff_ne.mpr heq
        simp [node?, hnodes, List.lookup_append, List.lookup_cons, hbeq, heq]

theorem modify_addFile (hvacant : tree.node? place = none) (content : Bytes)
    (change : Bytes → Bytes) :
    (tree.addFile place content).modify tree.nextSerial change =
      tree.addFile place (change content) := by
  have hold : tree.nodes.map (fun (place, node) =>
      (place, node.change tree.nextSerial change)) = tree.nodes := by
    have hentries : ∀ entry ∈ tree.nodes,
        (entry.1, entry.2.change tree.nextSerial change) = id entry := by
      intro entry hentry
      -- No entry has the number that the new file gets.
      have hsame := (tree.below entry hentry).change_eq (Nat.le_refl _) change
      exact Prod.ext rfl hsame
    exact (List.map_congr_left hentries).trans (List.map_id _)
  ext1
  · rw [nodes_modify, nodes_addFile hvacant, nodes_addFile hvacant, List.map_append, hold]
    simp [Node.change]
  · rw [nextSerial_modify, nextSerial_addFile, nextSerial_addFile]

theorem node?_addFile_of_some {q r : Place} {node : Node} (hvacant : tree.node? q = none)
    (content : Bytes) (h : tree.node? r = some node) :
    (tree.addFile q content).node? r = some node := by
  have hne : r ≠ q := by
    rintro rfl
    simp [hvacant] at h
  rw [node?_addFile hvacant, if_neg hne, h]

/-- A new file is in nobody's way: what was there is still found. -/
theorem walk_addFile_existing {p q : Place} {node : Node} (hvacant : tree.node? q = none)
    (content : Bytes) (h : tree.walk place names = .ok (.existing p node)) :
    (tree.addFile q content).walk place names = .ok (.existing p node) := by
  induction names generalizing place with
  | nil =>
      obtain ⟨node', hnode, heq⟩ := walk_nil_eq_ok_iff.mp h
      exact walk_nil_eq_ok_iff.mpr ⟨node', node?_addFile_of_some hvacant content hnode, heq⟩
  | cons name rest ih =>
      rcases walk_cons_eq_ok_iff.mp h with ⟨hplace, ⟨hnext, hrest⟩ | ⟨-, -, heq⟩⟩
      · obtain ⟨next, hnext⟩ := Option.isSome_iff_exists.mp hnext
        have hnext' := node?_addFile_of_some hvacant content hnext
        exact walk_cons_eq_ok_iff.mpr ⟨node?_addFile_of_some hvacant content hplace,
          .inl ⟨by simp [hnext'], ih hrest⟩⟩
      · cases heq

theorem walk_addFile_vacant {p : Place} (content : Bytes)
    (h : tree.walk place names = .ok (.vacant p)) :
    (tree.addFile p content).walk place names =
      .ok (.existing p (.file tree.nextSerial content)) := by
  have hvacant := node?_of_walk_vacant h
  have hnew : (tree.addFile p content).node? p = some (.file tree.nextSerial content) := by
    rw [node?_addFile hvacant, if_pos rfl]
  induction names generalizing place with
  | nil =>
      obtain ⟨node, -, heq⟩ := walk_nil_eq_ok_iff.mp h
      cases heq
  | cons name rest ih =>
      obtain ⟨hplace, hcase⟩ := walk_cons_eq_ok_iff.mp h
      have hplace' := node?_addFile_of_some hvacant content hplace
      rcases hcase with ⟨hnext, hrest⟩ | ⟨-, rfl, heq⟩
      · obtain ⟨next, hnext⟩ := Option.isSome_iff_exists.mp hnext
        have hnext' := node?_addFile_of_some hvacant content hnext
        exact walk_cons_eq_ok_iff.mpr ⟨hplace', .inl ⟨by simp [hnext'], ih hrest⟩⟩
      · cases heq
        exact walk_cons_eq_ok_iff.mpr ⟨hplace', .inl ⟨by simp [hnew],
          walk_nil_eq_ok_iff.mpr ⟨_, hnew, rfl⟩⟩⟩

/-! ## Contents by number -/

theorem contentOf_modify {serial : Nat} {old : Bytes}
    (h : (place, .file serial old) ∈ tree.nodes) (content : Bytes) :
    (tree.modify serial fun _ => content).contentOf serial = content := by
  rw [contentOf, nodes_modify]
  generalize tree.nodes = entries at h
  induction entries with
  | nil => simp at h
  | cons entry entries ih =>
      obtain ⟨p, node⟩ := entry
      rcases List.mem_cons.mp h with heq | hrest
      · obtain ⟨rfl, rfl⟩ := Prod.mk.inj heq
        simp [Node.change]
      · cases node with
        | file n c =>
            by_cases hn : n = serial
            · simp [Node.change, hn]
            · simpa [Node.change, hn] using ih hrest
        | _ => simpa [Node.change] using ih hrest

theorem contentOf_addFile (hvacant : tree.node? place = none) (content : Bytes) :
    (tree.addFile place content).contentOf tree.nextSerial = content := by
  have hmem : (place, .file tree.nextSerial content) ∈ (tree.addFile place content).nodes := by
    rw [nodes_addFile hvacant]
    exact List.mem_append_right _ (List.mem_singleton_self _)
  have hfilled := contentOf_modify hmem content
  rwa [modify_addFile hvacant] at hfilled

end Tree

end BuildRecorder
