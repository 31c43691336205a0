import BuildRecorder.Text.Basic

/-!
# Lines

A line ends at a line feed, a carriage return, or the two together; reading a file turns every such
end into a line feed.
-/

namespace BuildRecorder.Text

def lineFeed : CodePoint := '\n'

def carriageReturn : CodePoint := '\r'

def unifyLineEnds : Text → Text
  | [] => []
  | c :: rest =>
    if c = carriageReturn then
      match rest with
      | [] => [lineFeed]
      | d :: after => if d = lineFeed then lineFeed :: unifyLineEnds after
          else lineFeed :: unifyLineEnds (d :: after)
    else c :: unifyLineEnds rest

theorem unifyLineEnds_eq_self {t : Text} (h : carriageReturn ∉ t) : unifyLineEnds t = t := by
  induction t with
  | nil => rfl
  | cons c rest ih =>
    obtain ⟨hc, hrest⟩ := not_or.mp (mt List.mem_cons.mpr h)
    rw [unifyLineEnds.eq_def]
    simp only [if_neg (Ne.symm hc), ih hrest]

/-- The lines of a text, without their ends; a text that ends with a line end has no empty line
after it. -/
def lines (t : Text) : List Text :=
  let pieces := (unifyLineEnds t).splitOn (· = lineFeed)
  if pieces.getLast? = some [] then pieces.dropLast else pieces

/-- The lines whose ends have been seen, when more text is still to come. A carriage return at the
very end may yet be half of a line end. -/
def completeLines (t : Text) : List Text :=
  let seen := if t.getLast? = some carriageReturn then t.dropLast else t
  ((unifyLineEnds seen).splitOn (· = lineFeed)).dropLast

end BuildRecorder.Text
