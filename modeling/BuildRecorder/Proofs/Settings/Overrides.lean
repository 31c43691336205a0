import BuildRecorder.Proofs.Settings.Combine

/-!
# Settings given apart from a list

What is given apart from a list of options does what it would do as the last pieces of the list.
Both ways the list is read first, so what is wrong with it is told before what is wrong with the
mode.
-/

namespace BuildRecorder.Settings

/-- The value that is given for an option; an empty text if there is none. -/
def Overrides.value (overrides : Overrides) : Key → Text
  | .path => overrides.outputPath
  | .task => overrides.task
  | .mode => overrides.mode

/-- The piece that gives an option a value; none if the value is empty. -/
def Key.pieceFor (key : Key) (value : Text) : List Text :=
  if value.isEmpty then [] else [key.mark ++ value]

def Overrides.pieces (overrides : Overrides) : List Text :=
  [Key.path, Key.task, Key.mode].flatMap fun key => key.pieceFor (overrides.value key)

/-- What is given, as it is written behind a list. -/
def Overrides.written (overrides : Overrides) : Text :=
  overrides.pieces.flatMap fun piece => comma :: piece

variable {pieces : List Text} {overrides : Overrides}

theorem Key.arePieces_pieceFor (key : Key) {value : Text} (h : comma ∉ value) :
    ArePieces (key.pieceFor value) := by
  unfold pieceFor
  split
  · intro piece hpiece
    cases hpiece
  · intro piece hpiece
    have hmark : comma ∉ key.mark := by cases key <;> decide
    rw [List.mem_singleton.mp hpiece]
    exact fun hmem => (List.mem_append.mp hmem).elim hmark h

theorem Overrides.arePieces_pieces (h : ∀ key, comma ∉ overrides.value key) :
    ArePieces overrides.pieces := by
  intro piece hpiece
  obtain ⟨key, -, hkey⟩ := List.mem_flatMap.mp hpiece
  exact key.arePieces_pieceFor (h key) piece hkey

theorem piecesOf_append_written (h : ArePieces pieces) (parameters : Text) :
    piecesOf (parameters ++ pieces.flatMap fun piece => comma :: piece) =
      piecesOf parameters ++ pieces := by
  induction pieces generalizing parameters with
  | nil => rw [List.flatMap_nil, List.append_nil, List.append_nil]
  | cons piece pieces ih =>
      obtain ⟨hpiece, hlater⟩ := List.forall_mem_cons.mp h
      rw [List.flatMap_cons, ← List.append_assoc, ih hlater, piecesOf_append_comma,
        piecesOf_eq_singleton hpiece, List.append_assoc, List.singleton_append]

/-- A piece that is written for an option gives it its value. -/
theorem applyAll_pieceFor (settings : Settings) (key : Key) (value : Text) :
    settings.applyAll (key.pieceFor value) =
      if value.isEmpty then .ok settings else key.assign settings value := by
  unfold Key.pieceFor
  split
  · rfl
  · rw [applyAll_cons, apply_of_marks (key.marks_mark_append value), List.drop_left]
    cases key.assign settings value <;> rfl

/-- The pieces that are written do in turn what is given does at once. -/
theorem applyAll_pieces (settings : Settings) (overrides : Overrides) :
    settings.applyAll overrides.pieces = settings.override overrides := by
  have hsplit : overrides.pieces =
      Key.path.pieceFor overrides.outputPath ++ (Key.task.pieceFor overrides.task ++
        Key.mode.pieceFor overrides.mode) := by
    simp [Overrides.pieces, Overrides.value]
  have hpath (set : Settings) : set.applyAll (Key.path.pieceFor overrides.outputPath) =
      .ok { set with
        outputPath :=
          if overrides.outputPath.isEmpty then set.outputPath else overrides.outputPath } := by
    rw [applyAll_pieceFor]
    split <;> rfl
  have htask (set : Settings) : set.applyAll (Key.task.pieceFor overrides.task) =
      .ok { set with
        customTask := if overrides.task.isEmpty then set.customTask else some overrides.task } := by
    rw [applyAll_pieceFor]
    split <;> rfl
  rw [hsplit, applyAll_append, hpath, Except.bind, applyAll_append, htask, Except.bind,
    applyAll_pieceFor, override]
  cases overrides.mode.isEmpty with
  | true => rfl
  | false =>
      simp only [Bool.false_eq_true, if_false, Key.assign]
      cases parseMode overrides.mode <;> rfl

/-- Settings from a list and from what is given apart are those of the list with the rest written
behind it, and are refused for the same reason. -/
theorem build_eq_parse (parameters : Text) (overrides : Overrides)
    (h : ∀ key, comma ∉ overrides.value key) :
    build parameters overrides = parse (parameters ++ overrides.written) := by
  rw [parse_eq, Overrides.written, piecesOf_append_written (Overrides.arePieces_pieces h),
    applyAll_append, ← parse_eq, build]
  cases parse parameters with
  | error fault => rfl
  | ok settings => exact (applyAll_pieces settings overrides).symm

/-- Nothing is given for the task, and the list is refused before the mode. -/
theorem build_eq_parse_mixed :
    build "path:a,task:t" { outputPath := "b c", mode := " Stream" } =
        parse "path:a,task:t,path:b c,mode: Stream" ∧
      build "mode:x" { task := "t", mode := "y" } = parse "mode:x,task:t,mode:y" := by
  constructor
  · apply build_eq_parse "path:a,task:t" { outputPath := "b c", mode := " Stream" }
    intro key
    cases key <;> decide
  · apply build_eq_parse "mode:x" { task := "t", mode := "y" }
    intro key
    cases key <;> decide

end BuildRecorder.Settings
