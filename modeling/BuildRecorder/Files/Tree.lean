import BuildRecorder.Files.Fault

/-!
# Trees of files

A file tree below one root. A file has a serial number of its own, so that a file that stays open
while it is removed or replaced is still told apart from its successor. There is one kind of device,
which can be opened but takes no data. No file of a tree has a number that is still to be given out.
-/

namespace BuildRecorder

inductive Node where
  | directory
  | file (serial : Nat) (content : Bytes)
  | fullDevice
deriving DecidableEq

/-- Whether a node could be met when the numbers from `bound` on have not been given out. -/
def Node.Below (bound : Nat) : Node → Prop
  | .file serial _ => serial < bound
  | _ => True

theorem Node.Below.mono {node : Node} {bound bound' : Nat} (h : node.Below bound)
    (hle : bound ≤ bound') : node.Below bound' := by
  cases node with
  | file => exact Nat.lt_of_lt_of_le h hle
  | _ => trivial

def Node.change (serial : Nat) (change : Bytes → Bytes) : Node → Node
  | .file n content => .file n (if n = serial then change content else content)
  | node => node

theorem Node.Below.change {node : Node} {bound serial : Nat} {change : Bytes → Bytes}
    (h : node.Below bound) : (node.change serial change).Below bound := by
  cases node <;> exact h

/-- The names on the way from the root to a node. -/
abbrev Place := List Text

theorem Node.below_of_mem_nil : ∀ entry ∈ ([] : List (Place × Node)), entry.2.Below 0 := by
  intro entry hentry
  cases hentry

@[ext] structure Tree where
  nodes : List (Place × Node) := []
  nextSerial : Nat := 0
  below : ∀ entry ∈ nodes, entry.2.Below nextSerial := by exact Node.below_of_mem_nil
deriving DecidableEq

namespace Tree

def node? (tree : Tree) : Place → Option Node
  | [] => some .directory
  | place => tree.nodes.lookup place

def put (tree : Tree) (place : Place) (node : Node)
    (h : node.Below tree.nextSerial := by trivial) : Tree :=
  if tree.nodes.any (·.1 = place) then
    { tree with
      nodes := tree.nodes.map fun entry => if entry.1 = place then (place, node) else entry
      below := by
        intro entry hentry
        obtain ⟨old, hold, rfl⟩ := List.mem_map.mp hentry
        split
        · exact h
        · exact tree.below old hold }
  else
    { tree with
      nodes := tree.nodes ++ [(place, node)]
      below := by
        intro entry hentry
        rcases List.mem_append.mp hentry with hold | hnew
        · exact tree.below entry hold
        · rw [List.mem_singleton.mp hnew]
          exact h }

def remove (tree : Tree) (place : Place) : Tree :=
  { tree with
    nodes := tree.nodes.filter (·.1 ≠ place)
    below := fun entry hentry => tree.below entry (List.mem_filter.mp hentry).1 }

/-- Gives out the next serial number. -/
def skipSerial (tree : Tree) : Tree :=
  { tree with
    nextSerial := tree.nextSerial + 1
    below := fun entry hentry => (tree.below entry hentry).mono (Nat.le_succ _) }

def addFile (tree : Tree) (place : Place) (content : Bytes) : Tree :=
  tree.skipSerial.put place (.file tree.nextSerial content) (Nat.lt_succ_self _)

/-- The content of the file with a serial number; nothing if it is in the tree no more. -/
def contentOf (tree : Tree) (serial : Nat) : Bytes :=
  (tree.nodes.findSome? fun
    | (_, .file n content) => if n = serial then some content else none
    | _ => none).getD []

def modify (tree : Tree) (serial : Nat) (change : Bytes → Bytes) : Tree :=
  { tree with
    nodes := tree.nodes.map fun (place, node) => (place, node.change serial change)
    below := by
      intro entry hentry
      obtain ⟨old, hold, rfl⟩ := List.mem_map.mp hentry
      exact (tree.below old hold).change }

/-- Where a path leads: to a node, or to a name that is free in a directory. -/
inductive Target where
  | existing (place : Place) (node : Node)
  | vacant (place : Place)
deriving DecidableEq

def here : Text := "."

def above : Text := ".."

/-- Where a name leads from a directory, if there is something. -/
def step (place : Place) (name : Text) : Place :=
  if name = [] ∨ name = here then place
  else if name = above then place.dropLast
  else place ++ [name]

def placesAlong (place : Place) : List Text → List Place
  | [] => [place]
  | name :: rest => place :: placesAlong (step place name) rest

/-- Follows names from a place. Every name, an empty one too, has to be looked up in a directory. -/
def walk (tree : Tree) (place : Place) : List Text → Except SystemProblem Target
  | [] =>
    match tree.node? place with
    | some node => .ok (.existing place node)
    | none => .error .missing
  | name :: rest =>
    match tree.node? place with
    | some .directory =>
      let next := step place name
      if (tree.node? next).isSome then walk tree next rest
      else if rest = [] then .ok (.vacant next)
      else .error .missing
    | some _ => .error .notADirectory
    | none => .error .missing

end Tree

end BuildRecorder
