import BuildRecorder.Text.Basic

/-!
# Version numbers

Version numbers of packages and their order: epoch, release, pre-release, post-release, development
release and local label count in this order. Trailing zeros of a release make no difference, a
development release comes before the version that it leads to, a pre-release before the release, a
post-release and a local label after it.
-/

namespace BuildRecorder

inductive LocalPart where
  | number (n : Nat)
  | word (t : Text)
deriving DecidableEq

inductive PreKind where
  | alpha
  | beta
  | candidate
deriving DecidableEq

structure Version where
  epoch : Nat := 0
  release : List Nat
  pre : Option (PreKind × Nat) := none
  post : Option Nat := none
  dev : Option Nat := none
  label : Option (List LocalPart) := none
deriving DecidableEq

namespace Version

/-- Lexicographic order; of a list and its extension the list comes first. -/
def compareLists (compare : α → α → Ordering) : List α → List α → Ordering
  | [], [] => .eq
  | [], _ :: _ => .lt
  | _ :: _, [] => .gt
  | a :: as, b :: bs => (compare a b).then (compareLists compare as bs)

def compareTexts : Text → Text → Ordering := compareLists fun a b => compare a.val b.val

/-- Words come before numbers. -/
def LocalPart.compare : LocalPart → LocalPart → Ordering
  | .number m, .number n => Ord.compare m n
  | .number _, .word _ => .gt
  | .word _, .number _ => .lt
  | .word s, .word t => compareTexts s t

def PreKind.rank : PreKind → Nat
  | .alpha => 1
  | .beta => 2
  | .candidate => 3

/-- The place of a version among those of its release, before post-releases count: a development
release of the release itself comes first, the release last. -/
def preRank (v : Version) : List Nat :=
  match v.pre, v.post, v.dev with
  | some (kind, n), _, _ => [PreKind.rank kind, n]
  | none, none, some _ => [0, 0]
  | none, _, _ => [4, 0]

def postRank (v : Version) : List Nat :=
  match v.post with
  | none => [0, 0]
  | some n => [1, n]

def devRank (v : Version) : List Nat :=
  match v.dev with
  | none => [1, 0]
  | some n => [0, n]

def trimmedRelease (v : Version) : List Nat := (v.release.reverse.dropWhile (· = 0)).reverse

def compareLabels : Option (List LocalPart) → Option (List LocalPart) → Ordering
  | none, none => .eq
  | none, some _ => .lt
  | some _, none => .gt
  | some a, some b => compareLists LocalPart.compare a b

def compare (a b : Version) : Ordering :=
  let numbers := compareLists (Ord.compare (α := Nat))
  (Ord.compare a.epoch b.epoch).then <|
    (numbers a.trimmedRelease b.trimmedRelease).then <|
    (numbers (a.preRank ++ a.postRank ++ a.devRank) (b.preRank ++ b.postRank ++ b.devRank)).then <|
    compareLabels a.label b.label

def meets (version minimum : Version) : Bool := version.compare minimum != .lt

end Version

end BuildRecorder
