import BuildRecorder.Text.Basic

/-!
# Path segments

Normalizing a path walks over its segments with a stack: empty segments and `.` are dropped, and
`..` takes the segment before it off the stack.
-/

namespace BuildRecorder.Path

def current : Text := "."

def up : Text := ".."

/-- One segment onto the stack, whose top is its head. At the front `..` has nothing to take off: it
is dropped at a root and kept in a relative path. -/
def push (rooted : Bool) (stack : List Text) (segment : Text) : List Text :=
  if segment = [] ∨ segment = current then stack
  else if segment = up then
    match stack with
    | [] => if rooted then [] else [up]
    | top :: below => if top = up then up :: top :: below else below
  else segment :: stack

def resolve (rooted : Bool) (segments : List Text) : List Text :=
  (segments.foldl (push rooted) []).reverse

end BuildRecorder.Path
