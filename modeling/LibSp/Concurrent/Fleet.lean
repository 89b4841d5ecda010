import LibSp.Concurrent.Machine
import LibSp.Concurrent.Alone

/-!
# Objects that share a part of their state

The objects of a process run the same code, each on a state of its own, a part of which
belongs to the process. A program of one object becomes one of the process, between
marks that say what has been called.
-/

set_option autoImplicit false

namespace LibSp.Concurrent

variable {Tid Object State Shared Mark Effect : Type} {Reply : Effect → Type} {α β : Type}

/-- What a state shows of the process, and a state in which it has been put in. -/
structure Sharing (State Shared : Type) where
  share : State → Shared
  mount : Shared → State → State

/-- The state of an object may be out of date in what is shared. -/
structure Fleet (Object State Shared Mark : Type) where
  shared : Shared
  objects : Object → State
  marks : List Mark

def assign [DecidableEq Object] (values : Object → α) (object : Object) (value : α) : Object → α :=
  fun other => if other = object then value else values other

section Assign

variable [DecidableEq Object] (values : Object → α) (object : Object) (value : α)

@[simp] theorem assign_self : assign values object value object = value := if_pos rfl

theorem assign_other {other : Object} (different : other ≠ object) :
    assign values object value other = values other := if_neg different

@[simp] theorem assign_same : assign values object (values object) = values := by
  funext other
  by_cases same : other = object
  · rw [same, assign_self]
  · exact assign_other values object _ same

theorem assign_map (read : α → β) :
    (fun other => read (assign values object value other)) =
      assign (fun other => read (values other)) object (read value) := by
  funext other
  by_cases same : other = object
  · rw [same, assign_self, assign_self]
  · rw [assign_other _ _ _ same, assign_other _ _ _ same]

end Assign

namespace Fleet

section

variable [DecidableEq Object] (sharing : Sharing State Shared)

def view (fleet : Fleet Object State Shared Mark) (object : Object) : State :=
  sharing.mount fleet.shared (fleet.objects object)

def put (fleet : Fleet Object State Shared Mark) (object : Object) (state : State) :
    Fleet Object State Shared Mark :=
  { fleet with shared := sharing.share state, objects := assign fleet.objects object state }

end

/-- An effect of one object, or a mark. -/
inductive Act (Object Effect Mark : Type) where
  | on (object : Object) (effect : Effect)
  | mark (mark : Mark)

@[reducible] def Act.Answer (Reply : Effect → Type) : Act Object Effect Mark → Type
  | .on _ effect => Reply effect
  | .mark _ => Unit

def exec [DecidableEq Object] (sharing : Sharing State Shared)
    (exec : Tid → (effect : Effect) → State → Option (Reply effect × State)) (thread : Tid) :
    (act : Act Object Effect Mark) → Fleet Object State Shared Mark →
      Option (act.Answer Reply × Fleet Object State Shared Mark)
  | .on object effect, fleet =>
      match exec thread effect (fleet.view sharing object) with
      | none => none
      | some (reply, state) => some (reply, fleet.put sharing object state)
  | .mark mark, fleet => some ((), { fleet with marks := mark :: fleet.marks })

theorem exec_on [DecidableEq Object] {sharing : Sharing State Shared}
    {run : Tid → (effect : Effect) → State → Option (Reply effect × State)} {thread : Tid}
    {object : Object} {effect : Effect} {reply : Reply effect}
    {fleet after : Fleet Object State Shared Mark}
    (executed : exec sharing run thread (.on object effect) fleet = some (reply, after)) :
    ∃ state, run thread effect (fleet.view sharing object) = some (reply, state) ∧
      after = fleet.put sharing object state := by
  simp only [exec] at executed
  split at executed
  · cases executed
  · next state ran =>
      cases executed
      exact ⟨state, ran, rfl⟩

end Fleet

namespace Prog

/-- The program, run by this object of the process. -/
def on (Mark : Type) (object : Object) : Prog Effect Reply α →
    Prog (Fleet.Act Object Effect Mark) (Fleet.Act.Answer Reply) α
  | .ret value => .ret value
  | .act effect next => .act (.on object effect) fun reply => (next reply).on Mark object

variable {object : Object}

theorem Only.on {allowed : Fleet.Act Object Effect Mark → Prop} {program : Prog Effect Reply α}
    (only : program.Only fun effect => allowed (.on object effect)) :
    (program.on Mark object).Only allowed := by
  induction program with
  | ret value => trivial
  | act effect next nextIH => exact ⟨only.1, fun reply => nextIH reply (only.2 reply)⟩

theorem Alone.on {Part : Type}
    {look : (act : Fleet.Act Object Effect Mark) → Part → act.Answer Reply → Part → Prop}
    {point : Fleet.Act Object Effect Mark → Part → Prop} {program : Prog Effect Reply α}
    {post : α → Part → Prop} {part : Part}
    (alone : program.Alone (fun effect => look (.on object effect))
      (fun effect => point (.on object effect)) post part) :
    (program.on Mark object).Alone look point post part := by
  induction program generalizing part with
  | ret value => exact alone
  | act effect next nextIH =>
      exact ⟨alone.1, fun reply after looked => nextIH reply (alone.2 reply after looked)⟩

end Prog

end LibSp.Concurrent
