import BuildRecorder.Json.Limits
import BuildRecorder.Proofs.Json.Written

/-!
# What is read within limits

The limits are watched where a container is opened and where an integer ends, but they hold of the
whole value in the end: what is read without an overrun nests no deeper than the limits allow, and
none of its integers is too long. An overrun comes as soon as more containers are open than there
may be, whatever would have closed them.
-/

namespace BuildRecorder.Json

variable {limits : Limits}

theorem Limits.exceeded?_beginArray {opened : Nat} :
    limits.exceeded? opened .beginArray = none ↔ opened < limits.depth := by
  simp [exceeded?]

theorem Limits.exceeded?_beginObject {opened : Nat} :
    limits.exceeded? opened .beginObject = none ↔ opened < limits.depth := by
  simp [exceeded?]

theorem Limits.exceeded?_int {opened : Nat} {value : Int} :
    limits.exceeded? opened (.scalar (.int value)) = none ↔ digitCount value ≤ limits.digits := by
  simp [exceeded?]

/-! ## Values and states within limits -/

/-- A value that keeps to the limits inside of `opened` containers. -/
inductive Within (limits : Limits) : Nat → Json → Prop
  | null (opened : Nat) : Within limits opened .null
  | bool (opened : Nat) (value : Bool) : Within limits opened (.bool value)
  | int (opened : Nat) {value : Int} (h : digitCount value ≤ limits.digits) :
      Within limits opened (.int value)
  | float (opened : Nat) (value : Binary64) : Within limits opened (.float value)
  | text (opened : Nat) (value : Text) : Within limits opened (.text value)
  | array {opened : Nat} {items : List Json} (hdepth : opened < limits.depth)
      (hitems : ∀ item ∈ items, Within limits (opened + 1) item) :
      Within limits opened (.array items)
  | object {opened : Nat} {fields : Fields} (hdepth : opened < limits.depth)
      (hfields : ∀ field ∈ fields, Within limits (opened + 1) field.2) :
      Within limits opened (.object fields)

/-- Open containers that keep to the limits, with what has been read into them so far. -/
inductive StackWithin (limits : Limits) : List Frame → Prop
  | nil : StackWithin limits []
  | array {items : List Json} {stack : List Frame} (hdepth : stack.length < limits.depth)
      (hitems : ∀ item ∈ items, Within limits (stack.length + 1) item)
      (hstack : StackWithin limits stack) : StackWithin limits (.array items :: stack)
  | object {fields : Fields} {name : Text} {stack : List Frame}
      (hdepth : stack.length < limits.depth)
      (hfields : ∀ field ∈ fields, Within limits (stack.length + 1) field.2)
      (hstack : StackWithin limits stack) : StackWithin limits (.object fields name :: stack)

/-- The values that a scalar lexeme can have. -/
def IsScalar : Json → Prop
  | .array _ | .object _ => False
  | _ => True

def Lexeme.Kind.IsProper : Lexeme.Kind → Prop
  | .scalar value => IsScalar value
  | _ => True

theorem mem_put {fields : Fields} {name : Text} {value : Json} {field : Text × Json}
    (h : field ∈ fields.put name value) : field.2 = value ∨ field ∈ fields := by
  unfold Fields.put at h
  split at h
  · obtain ⟨old, hold, heq⟩ := List.mem_map.mp h
    split at heq
    · exact .inl (congrArg Prod.snd heq).symm
    · exact .inr (heq ▸ hold)
  · rcases List.mem_append.mp h with hold | hnew
    · exact .inr hold
    · exact .inl (congrArg Prod.snd (List.mem_singleton.mp hnew))

namespace State

/-- What a state keeps to: its open containers, or the value that has been read. -/
def Within (limits : Limits) : State → Prop
  | .wantValue stack => StackWithin limits stack
  | .wantFirstItem stack => StackWithin limits (.array [] :: stack)
  | .afterItem items stack => StackWithin limits (.array items :: stack)
  | .wantFirstName stack => StackWithin limits (.object [] [] :: stack)
  | .wantName fields stack => StackWithin limits (.object fields [] :: stack)
  | .wantColon fields name stack => StackWithin limits (.object fields name :: stack)
  | .afterField fields stack => StackWithin limits (.object fields [] :: stack)
  | .done value => Json.Within limits 0 value

theorem within_provide {stack : List Frame} {value : Json} (hstack : StackWithin limits stack)
    (hvalue : Json.Within limits stack.length value) : (provide value stack).Within limits := by
  cases hstack with
  | nil => exact hvalue
  | array hdepth hitems hstack =>
      exact .array hdepth (List.forall_mem_cons.mpr ⟨hvalue, hitems⟩) hstack
  | object hdepth hfields hstack =>
      refine .object hdepth ?_ hstack
      intro field hfield
      rcases mem_put hfield with heq | hold
      · exact heq ▸ hvalue
      · exact hfields field hold

/-- A lexeme that starts a value, if it starts one within the limits, leads to a state within
them. -/
theorem within_stepValue {stack : List Frame} {position : Nat} {kind : Lexeme.Kind} {next : State}
    (hstack : StackWithin limits stack) (hproper : kind.IsProper)
    (hexceeded : limits.exceeded? stack.length kind = none)
    (hstep : stepValue stack position kind = .ok next) : next.Within limits := by
  cases kind with
  | beginArray =>
      cases hstep
      exact .array (Limits.exceeded?_beginArray.mp hexceeded) (by simp) hstack
  | beginObject =>
      cases hstep
      exact .object (Limits.exceeded?_beginObject.mp hexceeded) (by simp) hstack
  | text value =>
      cases hstep
      exact within_provide hstack (.text _ value)
  | scalar value =>
      cases hstep
      apply within_provide hstack
      cases value with
      | null => exact .null _
      | bool value => exact .bool _ value
      | float value => exact .float _ value
      | text value => exact .text _ value
      | int value => exact .int _ (Limits.exceeded?_int.mp hexceeded)
      | array | object => exact hproper.elim
  | _ => cases hstep

theorem within_stepName {fields : Fields} {stack : List Frame} {position : Nat}
    {kind : Lexeme.Kind} {next : State} (hstack : StackWithin limits (.object fields [] :: stack))
    (hstep : stepName fields stack position kind = .ok next) : next.Within limits := by
  cases kind with
  | text name =>
      cases hstep
      cases hstack with
      | object hdepth hfields hstack => exact .object hdepth hfields hstack
  | _ => cases hstep

/-- Every lexeme that exceeds no limit leads from a state within the limits to another. -/
theorem within_step {state next : State} {position : Nat} {kind : Lexeme.Kind}
    (hstate : state.Within limits) (hproper : kind.IsProper)
    (hexceeded : state.exceeded? limits kind = none)
    (hstep : step position state kind = .ok next) : next.Within limits := by
  cases state with
  | wantValue stack => exact within_stepValue hstate hproper hexceeded hstep
  | wantFirstItem stack =>
      by_cases hend : kind = .endArray
      · subst hend
        cases hstep
        cases hstate with
        | array hdepth _ hstack => exact within_provide hstack (.array hdepth (by simp))
      · rw [step] at hstep
        · exact within_stepValue hstate hproper hexceeded hstep
        · exact hend
  | afterItem items stack =>
      cases hstate with
      | array hdepth hitems hstack =>
          cases kind with
          | comma =>
              cases hstep
              exact .array hdepth hitems hstack
          | endArray =>
              cases hstep
              exact within_provide hstack (.array hdepth (by simpa using hitems))
          | _ => cases hstep
  | wantFirstName stack =>
      by_cases hend : kind = .endObject
      · subst hend
        cases hstep
        cases hstate with
        | object hdepth _ hstack => exact within_provide hstack (.object hdepth (by simp))
      · rw [step] at hstep
        · exact within_stepName hstate hstep
        · exact hend
  | wantName fields stack => exact within_stepName hstate hstep
  | wantColon fields name stack =>
      cases kind with
      | colon =>
          cases hstep
          exact hstate
      | _ => cases hstep
  | afterField fields stack =>
      cases hstate with
      | object hdepth hfields hstack =>
          cases kind with
          | comma =>
              cases hstep
              exact .object hdepth hfields hstack
          | endObject =>
              cases hstep
              exact within_provide hstack (.object hdepth hfields)
          | _ => cases hstep
  | done value => cases hstep

theorem overrun?_step {state next : State} {lexeme : Lexeme}
    (hexceeded : state.exceeded? limits lexeme.kind = none)
    (hstep : step lexeme.position state lexeme.kind = .ok next) (rest : List Lexeme) :
    state.overrun? limits (lexeme :: rest) = next.overrun? limits rest := by
  rw [State.overrun?, hexceeded, hstep]

/-- A value that is read has been read before the last lexeme, or comes of what follows. -/
theorem run_eq_ok {state : State} {lexeme : Lexeme} {rest : List Lexeme} {value : Json}
    (h : state.run (lexeme :: rest) = .ok value) :
    state = .done value ∨
      ∃ next, step lexeme.position state lexeme.kind = .ok next ∧ next.run rest = .ok value := by
  cases hstep : step lexeme.position state lexeme.kind with
  | ok next =>
      rw [run_step hstep] at h
      exact .inr ⟨next, rfl, h⟩
  | error trouble =>
      unfold run at h
      split at h
      · cases h
        exact .inl rfl
      · next heq => cases heq
      · next heq =>
        cases heq
        rw [hstep] at h
        cases h

theorem within_run {state : State} {lexemes : List Lexeme} {value : Json}
    (hstate : state.Within limits) (hproper : ∀ lexeme ∈ lexemes, lexeme.kind.IsProper)
    (hoverrun : state.overrun? limits lexemes = none) (hrun : state.run lexemes = .ok value) :
    Json.Within limits 0 value := by
  induction lexemes generalizing state with
  | nil => simp [run] at hrun
  | cons lexeme rest ih =>
      rcases run_eq_ok hrun with rfl | ⟨next, hstep, hrest⟩
      · exact hstate
      · obtain ⟨hlexeme, hproper⟩ := List.forall_mem_cons.mp hproper
        cases hexceeded : state.exceeded? limits lexeme.kind with
        | some overrun => simp [State.overrun?, hexceeded] at hoverrun
        | none =>
            rw [overrun?_step hexceeded hstep] at hoverrun
            exact ih (within_step hstate hlexeme hexceeded hstep) hproper hoverrun hrest

end State

/-! ## Lexemes -/

theorem isScalar_readMagnitude {negative : Bool} {t : Text} {read : Json × Nat}
    (h : readMagnitude negative t = some read) : IsScalar read.1 := by
  simp only [readMagnitude] at h
  generalize (if (digitRun t).head? = some (CodePoint.ofChar '0') then (digitRun t).take 1
    else digitRun t) = whole at h
  split at h
  · cases h
  split at h
  · cases h
    trivial
  split at h
  · cases h
    trivial
  · cases h
    trivial

theorem isScalar_of_word {word value : Json} {tail rest : Text} {width : Nat}
    (hword : IsScalar word)
    (h : (if rest.startsWith tail then some (word, tail.length) else none) = some (value, width)) :
    IsScalar value := by
  split at h
  · cases h
    exact hword
  · cases h

theorem isScalar_readScalar {c : CodePoint} {rest : Text} {value : Json} {width : Nat}
    (h : readScalar c rest = some (value, width)) : IsScalar value := by
  simp only [readScalar] at h
  iterate 5
    split at h
    · exact isScalar_of_word (by trivial) h
  split at h
  · rcases Option.or_eq_some_iff.mp h with hword | ⟨-, hnumber⟩
    · exact isScalar_of_word (by trivial) hword
    · exact isScalar_readMagnitude hnumber
  · obtain ⟨number, hnumber, heq⟩ := Option.map_eq_some_iff.mp h
    cases heq
    exact isScalar_readMagnitude hnumber

theorem isProper_readLexeme (position : Nat) (c : CodePoint) (rest : Text) :
    (readLexeme position c rest).1.IsProper := by
  unfold readLexeme
  split
  · split <;> trivial
  iterate 6
    split
    · trivial
  split
  · next hscalar => exact isScalar_readScalar hscalar
  · trivial

theorem isProper_of_mem_lexemes {position : Nat} {t : Text} {lexeme : Lexeme}
    (h : lexeme ∈ lexemes position t) : lexeme.kind.IsProper := by
  fun_induction lexemes position t with
  | case1 position =>
      rw [List.mem_singleton.mp h]
      trivial
  | case2 position c rest hspace ih => exact ih h
  | case3 position c rest hspace width hread =>
      rw [List.mem_singleton.mp h]
      trivial
  | case4 position c rest hspace trouble width hread =>
      rw [List.mem_singleton.mp h]
      trivial
  | case5 position c rest hspace kind width _ _ hread ih =>
      rcases List.mem_cons.mp h with rfl | hlater
      · have hproper := isProper_readLexeme position c rest
        rw [hread] at hproper
        exact hproper
      · exact ih hlater

/-! ## Documents -/

/-- What is read without an overrun keeps to the limits. -/
theorem within_of_read {source : Text} {value : Json} (hread : read source = .ok value)
    (hoverrun : overrun? limits source = none) : Within limits 0 value := by
  unfold read at hread
  split at hread
  · cases hread
  · next hmark =>
    rw [overrun?, if_neg hmark] at hoverrun
    split at hread
    · next hrun =>
      cases hread
      have hstart : (State.wantValue []).Within limits := StackWithin.nil
      exact State.within_run hstart (fun _ => isProper_of_mem_lexemes) hoverrun hrun
    · cases hread

/-- Arrays that are opened inside of each other. -/
def nested (n : Nat) : Text := List.replicate n '['

theorem lexemes_beginArray (position : Nat) (rest : Text) :
    lexemes position ('[' :: rest) = ⟨.beginArray, position⟩ :: lexemes (position + 1) rest := by
  rw [lexemes, if_neg (by decide)]
  rfl

theorem State.overrun?_nested {state : State} {stack : List Frame} {n : Nat}
    (hstate : state.around? = some stack) (hdepth : stack.length ≤ limits.depth)
    (hn : limits.depth < stack.length + n) (position : Nat) (rest : Text) :
    state.overrun? limits (lexemes position (nested n ++ rest)) = some .array := by
  induction n generalizing state stack position with
  | zero => omega
  | succ n ih =>
      have hexceeded : state.exceeded? limits .beginArray =
          limits.exceeded? stack.length .beginArray := by
        rw [State.exceeded?, hstate]
        rfl
      rw [nested, List.replicate_succ, List.cons_append, lexemes_beginArray]
      by_cases hroom : stack.length < limits.depth
      · rw [Limits.exceeded?_beginArray.mpr hroom] at hexceeded
        have hstep : State.step position state .beginArray = .ok (.wantFirstItem stack) := by
          cases state <;> cases hstate <;> rfl
        have hnext : (State.wantFirstItem stack).around? = some (.array [] :: stack) := rfl
        rw [State.overrun?_step hexceeded hstep]
        apply ih hnext
        · rw [List.length_cons]
          omega
        · rw [List.length_cons]
          omega
      · rw [Limits.exceeded?, if_pos (Nat.not_lt.mp hroom)] at hexceeded
        rw [State.overrun?, hexceeded]

/-- A document that opens more arrays than may be open overruns, whatever follows. -/
theorem overrun?_nested {n : Nat} (hn : limits.depth < n) (rest : Text) :
    overrun? limits (nested n ++ rest) = some .array := by
  have hmark : (nested n ++ rest).head? ≠ some byteOrderMark := by
    cases n with
    | zero => omega
    | succ n =>
        rw [nested, List.replicate_succ, List.cons_append, List.head?_cons]
        decide
  rw [overrun?, if_neg hmark]
  exact State.overrun?_nested rfl (Nat.zero_le _) (by simpa using hn) 0 rest

end BuildRecorder.Json
