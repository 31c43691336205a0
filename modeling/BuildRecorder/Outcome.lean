import BuildRecorder.Log

/-!
# Outcomes

A call that may fail half-way is given as what it leaves behind: the new state, what it had to tell,
and how it ended. The state is there after a failure too.
-/

namespace BuildRecorder

structure Outcome (State Fault Value : Type) where
  state : State
  log : Log := []
  result : Except Fault Value

/-- Successes can be told apart where faults cannot. -/
theorem eq_ok_of_toOption {Fault Value : Type} {result : Except Fault Value} {value : Value}
    (h : result.toOption = some value) : result = .ok value := by
  cases result with
  | error fault => simp [Except.toOption] at h
  | ok value' => simpa [Except.toOption] using h

namespace Outcome

variable {State State' Fault Fault' Value Value' Value'' : Type}

/-- Goes on after a success; after a failure nothing more happens. -/
def andThen (outcome : Outcome State Fault Value)
    (next : State → Value → Outcome State Fault Value') : Outcome State Fault Value' :=
  match outcome.result with
  | .ok value =>
    let later := next outcome.state value
    ⟨later.state, outcome.log ++ later.log, later.result⟩
  | .error fault => ⟨outcome.state, outcome.log, .error fault⟩

theorem andThen_of_ok {outcome : Outcome State Fault Value} {value : Value}
    (h : outcome.result = .ok value) (next : State → Value → Outcome State Fault Value') :
    outcome.andThen next =
      { state := (next outcome.state value).state
        log := outcome.log ++ (next outcome.state value).log
        result := (next outcome.state value).result } := by
  simp only [andThen, h]

theorem andThen_of_error {outcome : Outcome State Fault Value} {fault : Fault}
    (h : outcome.result = .error fault) (next : State → Value → Outcome State Fault Value') :
    outcome.andThen next =
      { state := outcome.state, log := outcome.log, result := .error fault } := by
  simp only [andThen, h]

theorem result_andThen_eq_ok_iff {outcome : Outcome State Fault Value}
    {next : State → Value → Outcome State Fault Value'} {value : Value'} :
    (outcome.andThen next).result = .ok value ↔
      ∃ first, outcome.result = .ok first ∧ (next outcome.state first).result = .ok value := by
  cases h : outcome.result with
  | error fault => simp [andThen_of_error h]
  | ok first => simp [andThen_of_ok h]

/-- Going on with nothing to do changes nothing. -/
theorem andThen_pure (outcome : Outcome State Fault Value) :
    (outcome.andThen fun state value => { state, result := .ok value }) = outcome := by
  obtain ⟨state, log, result⟩ := outcome
  cases result <;> simp [andThen]

theorem andThen_assoc (outcome : Outcome State Fault Value)
    (next : State → Value → Outcome State Fault Value')
    (last : State → Value' → Outcome State Fault Value'') :
    (outcome.andThen next).andThen last =
      outcome.andThen fun state value => (next state value).andThen last := by
  cases h : outcome.result with
  | error fault => simp [andThen, h]
  | ok value => cases h' : (next outcome.state value).result <;> simp [andThen, h, h']

def within (outcome : Outcome State Fault Value) (f : State → State') :
    Outcome State' Fault Value :=
  ⟨f outcome.state, outcome.log, outcome.result⟩

def mapFault (outcome : Outcome State Fault Value) (f : Fault → Fault') :
    Outcome State Fault' Value :=
  ⟨outcome.state, outcome.log, outcome.result.mapError f⟩

end Outcome

end BuildRecorder
