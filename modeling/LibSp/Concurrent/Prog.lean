/-!
# Programs as trees of atomic effects

A program either returns or performs one effect and continues with the reply.
One tree serves both readings of the same code: `Prog.run` executes it alone,
and the thread pool of `Machine` interleaves it effect by effect with others.
-/

set_option autoImplicit false

namespace LibSp.Concurrent

inductive Prog (Effect : Type) (Reply : Effect → Type) (Result : Type) : Type where
  | ret (value : Result)
  | act (effect : Effect) (next : Reply effect → Prog Effect Reply Result)

namespace Prog

variable {Effect : Type} {Reply : Effect → Type} {α β : Type}

protected def bind : Prog Effect Reply α → (α → Prog Effect Reply β) → Prog Effect Reply β
  | .ret value, rest => rest value
  | .act effect next, rest => .act effect fun reply => (next reply).bind rest

instance : Monad (Prog Effect Reply) where
  pure := .ret
  bind := Prog.bind

def perform (effect : Effect) : Prog Effect Reply (Reply effect) := .act effect .ret

@[simp] theorem pure_eq_ret (value : α) :
    (pure value : Prog Effect Reply α) = .ret value := rfl

@[simp] theorem ret_bind (value : α) (rest : α → Prog Effect Reply β) :
    (Prog.ret value >>= rest) = rest value := rfl

@[simp] theorem act_bind (effect : Effect) (next : Reply effect → Prog Effect Reply α)
    (rest : α → Prog Effect Reply β) :
    (Prog.act effect next >>= rest) = .act effect fun reply => next reply >>= rest := rfl

@[simp] theorem perform_bind (effect : Effect) (rest : Reply effect → Prog Effect Reply β) :
    (perform effect >>= rest) = .act effect rest := rfl

theorem bind_assoc {γ : Type} (program : Prog Effect Reply α) (rest : α → Prog Effect Reply β)
    (last : β → Prog Effect Reply γ) :
    ((program >>= rest) >>= last) = program >>= fun value => rest value >>= last := by
  induction program with
  | ret value => rfl
  | act effect next nextIH =>
      simp only [act_bind]
      exact congrArg (Prog.act effect) (funext fun reply => nextIH reply)

/-! ## The effects of a program -/

/-- Whatever the replies, the program performs only allowed effects. -/
def Only (allowed : Effect → Prop) : Prog Effect Reply α → Prop
  | .ret _ => True
  | .act effect next => allowed effect ∧ ∀ reply, (next reply).Only allowed

section Only

variable {allowed : Effect → Prop}

theorem Only.bind {program : Prog Effect Reply α} {rest : α → Prog Effect Reply β}
    (first : program.Only allowed) (second : ∀ value, (rest value).Only allowed) :
    (program >>= rest).Only allowed := by
  induction program with
  | ret value => exact second value
  | act effect next nextIH => exact ⟨first.1, fun reply => nextIH reply (first.2 reply)⟩

theorem Only.mono {weaker : Effect → Prop} {program : Prog Effect Reply α}
    (implies : ∀ effect, allowed effect → weaker effect) (only : program.Only allowed) :
    program.Only weaker := by
  induction program with
  | ret value => trivial
  | act effect next nextIH =>
      exact ⟨implies effect only.1, fun reply => nextIH reply (only.2 reply)⟩

theorem Only.of_forall {program : Prog Effect Reply α} (all : ∀ effect, allowed effect) :
    program.Only allowed := by
  induction program with
  | ret value => trivial
  | act effect next nextIH => exact ⟨all effect, nextIH⟩

theorem Only.ite {test : Prop} [Decidable test] {first second : Prog Effect Reply α}
    (positive : test → first.Only allowed) (negative : ¬ test → second.Only allowed) :
    (if test then first else second).Only allowed := by
  split
  · next holds => exact positive holds
  · next fails => exact negative fails

end Only

/-! ## Running a program alone -/

variable {State : Type}

/-- Execution without interference. An effect that cannot happen in the current
state, such as taking a held mutex, leaves the run without a result. -/
def run (exec : (effect : Effect) → State → Option (Reply effect × State)) :
    Prog Effect Reply α → State → Option (α × State)
  | .ret value, state => some (value, state)
  | .act effect next, state =>
      match exec effect state with
      | none => none
      | some (reply, after) => (next reply).run exec after

variable {exec : (effect : Effect) → State → Option (Reply effect × State)}

@[simp] theorem run_ret (value : α) (state : State) :
    (Prog.ret value : Prog Effect Reply α).run exec state = some (value, state) := rfl

theorem run_act {effect : Effect} {next : Reply effect → Prog Effect Reply α}
    {state after : State} {reply : Reply effect}
    (executed : exec effect state = some (reply, after)) :
    (Prog.act effect next).run exec state = (next reply).run exec after := by
  simp only [run, executed]

theorem run_bind (program : Prog Effect Reply α) (rest : α → Prog Effect Reply β)
    (state : State) :
    (program >>= rest).run exec state =
      (program.run exec state).bind fun done => (rest done.1).run exec done.2 := by
  induction program generalizing state with
  | ret value => rfl
  | act effect next nextIH =>
      rw [act_bind]
      cases executed : exec effect state with
      | none => simp [run, executed]
      | some done =>
          rw [run_act executed, run_act executed]
          exact nextIH done.1 done.2

/-- What is left of a program after that many effects, and the state they lead to. -/
def advance (exec : (effect : Effect) → State → Option (Reply effect × State)) :
    Nat → Prog Effect Reply α → State → Option (Prog Effect Reply α × State)
  | 0, program, state => some (program, state)
  | _ + 1, .ret _, _ => none
  | count + 1, .act effect next, state =>
      match exec effect state with
      | none => none
      | some (reply, after) => advance exec count (next reply) after

theorem run_of_advance {program : Prog Effect Reply α} {value : α} {count : Nat}
    {state after : State} (advanced : program.advance exec count state = some (.ret value, after)) :
    program.run exec state = some (value, after) := by
  induction count generalizing program state with
  | zero =>
      cases advanced
      rfl
  | succ count countIH =>
      cases program with
      | ret value => cases advanced
      | act effect next =>
          simp only [advance] at advanced
          cases executed : exec effect state with
          | none => simp [executed] at advanced
          | some done =>
              simp only [executed] at advanced
              rw [run_act executed]
              exact countIH advanced

end Prog

end LibSp.Concurrent
