import LibSp.Concurrent.Machine

/-!
# A register of the shared state

Some effects of some jobs write a part of the shared state. However the threads are
interleaved, the part holds what the latest of the writes put there.
-/

set_option autoImplicit false

namespace LibSp.Concurrent

/-- A part of the state, what an effect of a job writes to it, and what the part holds
of a written value. -/
structure Register (State Effect Job Value Part : Type) where
  part : State → Part
  writes : Job → Effect → Option Value
  holds : Value → Part

namespace Register

variable {Tid State Effect : Type} {Reply : Effect → Type}
  {Job Result External Value Part : Type} (register : Register State Effect Job Value Part)

/-- What the part holds after these writes, the earliest first. -/
def after (initial : Part) (values : List Value) : Part :=
  (values.getLast?.map register.holds).getD initial

theorem after_append (initial : Part) (first second : List Value) :
    register.after initial (first ++ second) =
      register.after (register.after initial first) second := by
  unfold after
  rw [List.getLast?_append]
  cases second.getLast? with
  | none => rfl
  | some value => rfl

/-- The part holds what the latest write put there, or what the initial value would put. -/
theorem after_of_held (initial : Value) (values : List Value) :
    register.after (register.holds initial) values =
      register.holds (values.getLast?.getD initial) := by
  unfold after
  cases values.getLast? with
  | none => rfl
  | some value => rfl

/-- What a step writes. -/
def writeOf (config : Config Tid State Effect Reply Job Result) :
    Label Tid Job External → Option Value
  | .act thread =>
      match config.calls thread with
      | some ⟨job, _, _, .act effect _⟩ => register.writes job effect
      | _ => none
  | _ => none

/-- However the effect is performed, it changes the part by what it is said to write. -/
def Obeyed (machine : Machine Tid State Effect Reply Job Result External) (job : Job)
    (effect : Effect) : Prop :=
  ∀ actor before reply later, machine.exec actor effect before = some (reply, later) →
    register.part later = register.after (register.part before) (register.writes job effect).toList

/-- Only what is said to be a write changes the part. -/
structure Lawful (machine : Machine Tid State Effect Reply Job Result External) : Prop where
  body : ∀ {thread last state job}, machine.admits thread last state job = true →
    (machine.body job).Only (register.Obeyed machine job)
  external : ∀ {event state later}, machine.external event state = some later →
    register.part later = register.part state

section

variable {register} {machine : Machine Tid State Effect Reply Job Result External}
  {job : Job} {effect : Effect}

theorem obeyed_of_unwritten (unwritten : register.writes job effect = none)
    (kept : ∀ actor before reply later, machine.exec actor effect before = some (reply, later) →
      register.part later = register.part before) :
    register.Obeyed machine job effect := by
  intro actor before reply later executed
  rw [unwritten]
  exact kept actor before reply later executed

theorem obeyed_of_written {value : Value} (written : register.writes job effect = some value)
    (put : ∀ actor before reply later, machine.exec actor effect before = some (reply, later) →
      register.part later = register.holds value) :
    register.Obeyed machine job effect := by
  intro actor before reply later executed
  rw [written]
  exact put actor before reply later executed

end

variable [DecidableEq Tid]

/-- What a run writes, the earliest first. -/
def written (machine : Machine Tid State Effect Reply Job Result External)
    (config : Config Tid State Effect Reply Job Result) :
    List (Label Tid Job External) → List Value
  | [] => []
  | label :: rest =>
      match machine.step config label with
      | none => []
      | some next => (register.writeOf config label).toList ++ written machine next rest

namespace Lawful

variable {register} {machine : Machine Tid State Effect Reply Job Result External}
  {condition : Condition Tid State Effect Job}
  {config next : Config Tid State Effect Reply Job Result} (lawful : register.Lawful machine)
  (reachable : machine.Reachable condition config)
include lawful reachable

theorem step {label : Label Tid Job External} (stepped : machine.step config label = some next) :
    register.part next.state =
      register.after (register.part config.state) (register.writeOf config label).toList := by
  rcases Machine.step_cases stepped with
    ⟨actor, job, last, rfl, -, -, rfl⟩ |
    ⟨actor, job, entry, past, effect, rest, reply, state, rfl, calls, executed, rfl⟩ |
    ⟨event, state, rfl, changed, rfl⟩
  · rfl
  · have obeyed := reachable.of_call
      (fun call => call.prog.Only (register.Obeyed machine call.job))
      (fun _ _ _ admitted _ => lawful.body admitted) (fun _ _ _ _ _ reply only => only.2 reply) calls
    simp only [writeOf, calls]
    exact obeyed.1 actor config.state reply state executed
  · exact lawful.external changed

/-- After a run the part holds what its latest write put there. -/
theorem steps {labels : List (Label Tid Job External)}
    (ran : machine.steps condition config labels = some next) :
    register.part next.state =
      register.after (register.part config.state) (register.written machine config labels) := by
  induction labels generalizing config with
  | nil =>
      cases ran
      rfl
  | cons label rest restIH =>
      simp only [Machine.steps] at ran
      split at ran
      · next allowed =>
          cases stepped : machine.step config label with
          | none => simp [stepped] at ran
          | some middle =>
              simp only [stepped] at ran
              simp only [written, stepped]
              rw [after_append, ← lawful.step reachable stepped]
              exact restIH (.step reachable allowed stepped) ran
      · cases ran

end Lawful

end Register

end LibSp.Concurrent
