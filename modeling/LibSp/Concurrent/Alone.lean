import LibSp.Concurrent.Machine

/-!
# Following one thread on a part of the state

When a single thread changes a part of the state, what its jobs do to that part
does not depend on the other threads. `Prog.Alone` is the weakest precondition of
a program on the part; `Account.sound` carries what is proved with it to every
reachable configuration.
-/

set_option autoImplicit false

namespace LibSp.Concurrent

variable {Tid State Effect : Type} {Reply : Effect → Type} {Job Result External Part : Type}
  {α β : Type}

namespace Prog

section

variable (look : (effect : Effect) → Part → Reply effect → Part → Prop)
  (point : Effect → Part → Prop)

/-- `look` says what an effect may answer and do to the part. Whatever it answers,
each effect finds its point and the program ends in the postcondition. -/
def Alone : Prog Effect Reply α → (α → Part → Prop) → Part → Prop
  | .ret value, post, part => post value part
  | .act effect next, post, part => point effect part ∧
      ∀ reply after, look effect part reply after → (next reply).Alone post after

end

variable {look : (effect : Effect) → Part → Reply effect → Part → Prop}
  {point : Effect → Part → Prop} {part : Part}

theorem Alone.mono {program : Prog Effect Reply α} {first second : α → Part → Prop}
    (implies : ∀ value after, first value after → second value after)
    (alone : program.Alone look point first part) : program.Alone look point second part := by
  induction program generalizing part with
  | ret value => exact implies value part alone
  | act effect next nextIH =>
      exact ⟨alone.1, fun reply after looked => nextIH reply (alone.2 reply after looked)⟩

theorem Alone.pointed {program : Prog Effect Reply α} {stronger : Effect → Part → Prop}
    {post : α → Part → Prop}
    (implies : ∀ effect part, stronger effect part → point effect part)
    (alone : program.Alone look stronger post part) : program.Alone look point post part := by
  induction program generalizing part with
  | ret value => exact alone
  | act effect next nextIH =>
      exact ⟨implies effect part alone.1,
        fun reply after looked => nextIH reply (alone.2 reply after looked)⟩

theorem Alone.any {program : Prog Effect Reply α} {post : α → Part → Prop}
    (pointed : ∀ effect part, point effect part) (ends : ∀ value part, post value part) :
    program.Alone look point post part := by
  induction program generalizing part with
  | ret value => exact ends value part
  | act effect next nextIH => exact ⟨pointed effect part, fun reply _ _ => nextIH reply⟩

/-- Two accounts of one program hold together. -/
theorem Alone.and {program : Prog Effect Reply α} {other : Effect → Part → Prop}
    {first second : α → Part → Prop} (alone : program.Alone look point first part)
    (too : program.Alone look other second part) :
    program.Alone look (fun effect part => point effect part ∧ other effect part)
      (fun value after => first value after ∧ second value after) part := by
  induction program generalizing part with
  | ret value => exact ⟨alone, too⟩
  | act effect next nextIH =>
      exact ⟨⟨alone.1, too.1⟩, fun reply after looked =>
        nextIH reply (alone.2 reply after looked) (too.2 reply after looked)⟩

theorem Alone.bind {program : Prog Effect Reply α} {rest : α → Prog Effect Reply β}
    {middle : α → Part → Prop} {post : β → Part → Prop}
    (first : program.Alone look point middle part)
    (second : ∀ value after, middle value after → (rest value).Alone look point post after) :
    (program >>= rest).Alone look point post part := by
  induction program generalizing part with
  | ret value => exact second value part first
  | act effect next nextIH =>
      exact ⟨first.1, fun reply after looked => nextIH reply (first.2 reply after looked)⟩

theorem Alone.ite {test : Prop} [Decidable test] {first second : Prog Effect Reply α}
    {post : α → Part → Prop} (positive : test → first.Alone look point post part)
    (negative : ¬ test → second.Alone look point post part) :
    (if test then first else second).Alone look point post part := by
  split
  · next holds => exact positive holds
  · next fails => exact negative fails

/-- An invariant that every allowed effect keeps holds all along. -/
theorem Alone.of_only {allowed : Effect → Prop} {invariant : Part → Prop}
    {program : Prog Effect Reply α}
    (pointed : ∀ effect part, allowed effect → invariant part → point effect part)
    (keeps : ∀ effect part reply after, allowed effect → invariant part →
      look effect part reply after → invariant after)
    (only : program.Only allowed) (holds : invariant part) :
    program.Alone look point (fun _ => invariant) part := by
  induction program generalizing part with
  | ret value => exact holds
  | act effect next nextIH =>
      refine ⟨pointed effect part only.1 holds, fun reply after looked => ?_⟩
      exact nextIH reply (only.2 reply) (keeps effect part reply after only.1 holds looked)

end Prog

section

variable [DecidableEq Tid]

/-- The thread is the only one to change the part, and `look` describes how. -/
structure Sole (machine : Machine Tid State Effect Reply Job Result External)
    (condition : Condition Tid State Effect Job) (thread : Tid) (part : State → Part)
    (look : (effect : Effect) → Part → Reply effect → Part → Prop) : Prop where
  mine : ∀ {config call effect reply after}, machine.Reachable condition config →
    config.calls thread = some call → call.Next effect →
    machine.exec thread effect config.state = some (reply, after) →
    look effect (part config.state) reply (part after)
  others : ∀ {config other call effect reply after}, machine.Reachable condition config →
    other ≠ thread → config.calls other = some call → call.Next effect →
    machine.exec other effect config.state = some (reply, after) →
    part after = part config.state
  external : ∀ {event state after}, machine.external event state = some after →
    part after = part state

/-- What is established of the thread: between its jobs, at the effects of a job
that began on the given part, and when that job has returned. -/
structure Account (Part Effect Job Result : Type) where
  ready : Part → Prop
  point : Job → Part → Effect → Part → Prop
  post : Job → Part → Result → Part → Prop

structure Account.Holds (machine : Machine Tid State Effect Reply Job Result External)
    (condition : Condition Tid State Effect Job) (thread : Tid) (part : State → Part)
    (look : (effect : Effect) → Part → Reply effect → Part → Prop)
    (account : Account Part Effect Job Result) : Prop where
  start : account.ready (part machine.start)
  body : ∀ {job last state}, account.ready (part state) →
    machine.admits thread last state job = true → condition.begins thread job state = true →
    (machine.body job).Alone look (account.point job (part state))
      (account.post job (part state)) (part state)
  returned : ∀ {job entry value after}, account.post job entry value after → account.ready after

end

section Sound

variable {machine : Machine Tid State Effect Reply Job Result External}
  {condition : Condition Tid State Effect Job} {thread : Tid} {part : State → Part}
  {look : (effect : Effect) → Part → Reply effect → Part → Prop}
  {account : Account Part Effect Job Result}

def Account.Kept (account : Account Part Effect Job Result)
    (look : (effect : Effect) → Part → Reply effect → Part → Prop) (part : State → Part)
    (now : Part) : Option (Call State Effect Reply Job Result) → Prop
  | none => account.ready now
  | some call => call.prog.Alone look (account.point call.job (part call.entry))
      (account.post call.job (part call.entry)) now

variable {config : Config Tid State Effect Reply Job Result}

private theorem Account.Kept.ready (holds : account.Holds machine condition thread part look)
    {last : Option Result}
    (kept : account.Kept look part (part config.state) (config.calls thread))
    (idle : config.idle? thread = some last) : account.ready (part config.state) := by
  rcases Config.idle?_cases idle with ⟨none, -⟩ | ⟨call, value, some, returned, -⟩
  · rw [none] at kept
    exact kept
  · rw [some] at kept
    have ended : call.prog.Alone look _ (account.post call.job (part call.entry)) _ := kept
    rw [returned] at ended
    exact holds.returned ended

variable [DecidableEq Tid] (sole : Sole machine condition thread part look)
  (holds : account.Holds machine condition thread part look)
include sole holds

/-- In every reachable configuration the rest of the thread's job keeps the account. -/
theorem Account.sound (reachable : machine.Reachable condition config) :
    account.Kept look part (part config.state) (config.calls thread) := by
  induction reachable with
  | start => exact holds.start
  | @step config next label reachable allowed stepped kept =>
      rcases Machine.step_cases stepped with
        ⟨actor, job, last, rfl, idle, admitted, rfl⟩ |
        ⟨actor, job, entry, past, effect, rest, reply, state, rfl, calls, executed, rfl⟩ |
        ⟨event, state, rfl, changed, rfl⟩
      · by_cases same : thread = actor
        · subst same
          rw [Config.put_calls_self]
          exact holds.body (Account.Kept.ready holds kept idle) admitted allowed
        · rw [Config.put_calls_other _ _ _ _ same]
          exact kept
      · by_cases same : thread = actor
        · subst same
          rw [calls] at kept
          rw [Config.put_calls_self]
          have pending : (Prog.act effect rest).Alone look (account.point job (part entry))
            (account.post job (part entry)) (part config.state) := kept
          exact pending.2 reply (part state) (sole.mine reachable calls ⟨rest, rfl⟩ executed)
        · rw [Config.put_calls_other _ _ _ _ same, Config.put_state,
            sole.others reachable (Ne.symm same) calls ⟨rest, rfl⟩ executed]
          exact kept
      · rw [sole.external changed]
        exact kept

theorem Account.ready_of_reachable (reachable : machine.Reachable condition config)
    {last : Option Result} (idle : config.idle? thread = some last) :
    account.ready (part config.state) :=
  Account.Kept.ready holds (account.sound sole holds reachable) idle

theorem Account.point_of_reachable (reachable : machine.Reachable condition config)
    {call : Call State Effect Reply Job Result} {effect : Effect}
    (calls : config.calls thread = some call) (standing : call.Next effect) :
    account.point call.job (part call.entry) effect (part config.state) := by
  have kept := account.sound sole holds reachable
  rw [calls] at kept
  obtain ⟨rest, at_effect⟩ := standing
  have pending : call.prog.Alone look (account.point call.job (part call.entry)) _ _ := kept
  rw [at_effect] at pending
  exact pending.1

theorem Account.post_of_reachable (reachable : machine.Reachable condition config)
    {call : Call State Effect Reply Job Result} {value : Result}
    (calls : config.calls thread = some call) (returned : call.Returned value) :
    account.post call.job (part call.entry) value (part config.state) := by
  have kept := account.sound sole holds reachable
  rw [calls] at kept
  have ended : call.prog.Alone look _ (account.post call.job (part call.entry)) _ := kept
  unfold Call.Returned at returned
  rw [returned] at ended
  exact ended

end Sound

end LibSp.Concurrent
