import LibSp.Concurrent.Alone

/-!
# Programs on a part that others may move

The other threads change a part of the state, but only within a preorder. The
program of one thread is followed on that part as in `Alone`, with what it knows
weakened by the preorder before each effect.
-/

set_option autoImplicit false

namespace LibSp.Concurrent

variable {Tid State Effect : Type} {Reply : Effect → Type} {Job Result External Part : Type}
  {α β : Type}

namespace Prog

/-- From the part, moved as `drifts` allows before each effect and before the return,
every effect stands at its point, and the value returned meets the postcondition. -/
def Amid (drifts : Part → Part → Prop) (look : (effect : Effect) → Part → Reply effect → Part → Prop)
    (point : Effect → Part → Prop) : Prog Effect Reply α → (α → Part → Prop) → Part → Prop
  | .ret value, post, part => ∀ now, drifts part now → post value now
  | .act effect next, post, part => ∀ now, drifts part now → point effect now ∧
      ∀ reply after, look effect now reply after → Amid drifts look point (next reply) post after

variable {drifts : Part → Part → Prop}
  {look : (effect : Effect) → Part → Reply effect → Part → Prop}
  {point : Effect → Part → Prop} {part : Part}

theorem Amid.mono {program : Prog Effect Reply α} {first second : α → Part → Prop}
    (implies : ∀ value after, first value after → second value after)
    (amid : program.Amid drifts look point first part) :
    program.Amid drifts look point second part := by
  induction program generalizing part with
  | ret value => exact fun now drifted => implies value now (amid now drifted)
  | act effect next nextIH =>
      intro now drifted
      obtain ⟨pointed, continued⟩ := amid now drifted
      exact ⟨pointed, fun reply after looked => nextIH reply (continued reply after looked)⟩

theorem Amid.pointed {program : Prog Effect Reply α} {stronger : Effect → Part → Prop}
    {post : α → Part → Prop} (implies : ∀ effect part, stronger effect part → point effect part)
    (amid : program.Amid drifts look stronger post part) :
    program.Amid drifts look point post part := by
  induction program generalizing part with
  | ret value => exact amid
  | act effect next nextIH =>
      intro now drifted
      obtain ⟨pointed, continued⟩ := amid now drifted
      exact ⟨implies effect now pointed,
        fun reply after looked => nextIH reply (continued reply after looked)⟩

theorem Amid.any {program : Prog Effect Reply α} {post : α → Part → Prop}
    (pointed : ∀ effect part, point effect part) (ends : ∀ value part, post value part) :
    program.Amid drifts look point post part := by
  induction program generalizing part with
  | ret value => exact fun now _ => ends value now
  | act effect next nextIH => exact fun now _ => ⟨pointed effect now, fun reply _ _ => nextIH reply⟩

theorem Amid.bind {program : Prog Effect Reply α} {rest : α → Prog Effect Reply β}
    {middle : α → Part → Prop} {post : β → Part → Prop} (refl : ∀ part, drifts part part)
    (first : program.Amid drifts look point middle part)
    (second : ∀ value after, middle value after → (rest value).Amid drifts look point post after) :
    (program >>= rest).Amid drifts look point post part := by
  induction program generalizing part with
  | ret value => exact second value part (first part (refl part))
  | act effect next nextIH =>
      intro now drifted
      obtain ⟨pointed, continued⟩ := first now drifted
      exact ⟨pointed, fun reply after looked => nextIH reply (continued reply after looked)⟩

theorem Amid.ite {test : Prop} [Decidable test] {first second : Prog Effect Reply α}
    {post : α → Part → Prop} (positive : test → first.Amid drifts look point post part)
    (negative : ¬ test → second.Amid drifts look point post part) :
    (if test then first else second).Amid drifts look point post part := by
  split
  · next holds => exact positive holds
  · next fails => exact negative fails

/-- An invariant that the others and every allowed effect keep holds all along. -/
theorem Amid.of_only {allowed : Effect → Prop} {invariant : Part → Prop}
    {program : Prog Effect Reply α}
    (drifted : ∀ part now, invariant part → drifts part now → invariant now)
    (pointed : ∀ effect part, allowed effect → invariant part → point effect part)
    (keeps : ∀ effect part reply after, allowed effect → invariant part →
      look effect part reply after → invariant after)
    (only : program.Only allowed) (holds : invariant part) :
    program.Amid drifts look point (fun _ => invariant) part := by
  induction program generalizing part with
  | ret value => exact fun now moved => drifted part now holds moved
  | act effect next nextIH =>
      intro now moved
      have holdsNow := drifted part now holds moved
      refine ⟨pointed effect now only.1 holdsNow, fun reply after looked => ?_⟩
      exact nextIH reply (only.2 reply) (keeps effect now reply after only.1 holdsNow looked)

/-- Two accounts of one program hold together. -/
theorem Amid.and {program : Prog Effect Reply α} {other : Effect → Part → Prop}
    {first second : α → Part → Prop} (amid : program.Amid drifts look point first part)
    (too : program.Amid drifts look other second part) :
    program.Amid drifts look (fun effect part => point effect part ∧ other effect part)
      (fun value after => first value after ∧ second value after) part := by
  induction program generalizing part with
  | ret value => exact fun now drifted => ⟨amid now drifted, too now drifted⟩
  | act effect next nextIH =>
      intro now drifted
      obtain ⟨pointed, continued⟩ := amid now drifted
      obtain ⟨pointedToo, continuedToo⟩ := too now drifted
      exact ⟨⟨pointed, pointedToo⟩, fun reply after looked =>
        nextIH reply (continued reply after looked) (continuedToo reply after looked)⟩

/-- What a thread does to a smaller part, which does not drift. -/
theorem Amid.of_alone {Small : Type} (smaller : Part → Small)
    {lookSmall : (effect : Effect) → Small → Reply effect → Small → Prop}
    {program : Prog Effect Reply α} {pointSmall : Effect → Small → Prop}
    {post : α → Small → Prop}
    (steady : ∀ part now, drifts part now → smaller now = smaller part)
    (looks : ∀ effect part reply after, look effect part reply after →
      lookSmall effect (smaller part) reply (smaller after))
    (alone : program.Alone lookSmall pointSmall post (smaller part)) :
    program.Amid drifts look (fun effect now => pointSmall effect (smaller now))
      (fun value now => post value (smaller now)) part := by
  induction program generalizing part with
  | ret value =>
      intro now drifted
      rw [steady part now drifted]
      exact alone
  | act effect next nextIH =>
      intro now drifted
      rw [← steady part now drifted] at alone
      exact ⟨alone.1, fun reply after looked =>
        nextIH reply (alone.2 reply (smaller after) (looks effect now reply after looked))⟩

theorem Amid.drifted {program : Prog Effect Reply α} {post : α → Part → Prop} {now : Part}
    (trans : ∀ {first second third}, drifts first second → drifts second third →
      drifts first third)
    (amid : program.Amid drifts look point post part) (moved : drifts part now) :
    program.Amid drifts look point post now := by
  cases program with
  | ret value => exact fun later further => amid later (trans moved further)
  | act effect next => exact fun later further => amid later (trans moved further)

end Prog

section

variable [DecidableEq Tid]

/-- The others move the part as `drifts` allows, and `look` describes what the thread
does to it. -/
structure Shared (machine : Machine Tid State Effect Reply Job Result External)
    (condition : Condition Tid State Effect Job) (thread : Tid) (part : State → Part)
    (drifts : Part → Part → Prop)
    (look : (effect : Effect) → Part → Reply effect → Part → Prop) : Prop where
  refl : ∀ part, drifts part part
  trans : ∀ {first second third}, drifts first second → drifts second third → drifts first third
  mine : ∀ {config call effect reply after}, machine.Reachable condition config →
    config.calls thread = some call → call.Next effect →
    condition.acts thread call.job effect config.state = true →
    machine.exec thread effect config.state = some (reply, after) →
    look effect (part config.state) reply (part after)
  others : ∀ {config other call effect reply after}, machine.Reachable condition config →
    other ≠ thread → config.calls other = some call → call.Next effect →
    machine.exec other effect config.state = some (reply, after) →
    drifts (part config.state) (part after)
  external : ∀ {config event after}, machine.Reachable condition config →
    machine.external event config.state = some after → drifts (part config.state) (part after)

/-- The account of a thread whose part may drift. -/
structure Account.Endures (machine : Machine Tid State Effect Reply Job Result External)
    (condition : Condition Tid State Effect Job) (thread : Tid) (part : State → Part)
    (drifts : Part → Part → Prop)
    (look : (effect : Effect) → Part → Reply effect → Part → Prop)
    (account : Account Part Effect Job Result) : Prop where
  start : account.ready (part machine.start)
  drifted : ∀ {first second}, account.ready first → drifts first second → account.ready second
  body : ∀ {job last state}, account.ready (part state) →
    machine.admits thread last state job = true → condition.begins thread job state = true →
    (machine.body job).Amid drifts look (account.point job (part state))
      (account.post job (part state)) (part state)
  returned : ∀ {job entry value after}, account.post job entry value after → account.ready after

end

section Sound

variable {machine : Machine Tid State Effect Reply Job Result External}
  {condition : Condition Tid State Effect Job} {thread : Tid} {part : State → Part}
  {drifts : Part → Part → Prop}
  {look : (effect : Effect) → Part → Reply effect → Part → Prop}
  {account : Account Part Effect Job Result}

def Account.Enduring (account : Account Part Effect Job Result) (drifts : Part → Part → Prop)
    (look : (effect : Effect) → Part → Reply effect → Part → Prop) (part : State → Part)
    (now : Part) : Option (Call State Effect Reply Job Result) → Prop
  | none => account.ready now
  | some call => call.prog.Amid drifts look (account.point call.job (part call.entry))
      (account.post call.job (part call.entry)) now

variable [DecidableEq Tid] (shared : Shared machine condition thread part drifts look)
  (endures : account.Endures machine condition thread part drifts look)
  {config : Config Tid State Effect Reply Job Result}
include shared endures

private theorem Account.Enduring.ready {last : Option Result}
    (kept : account.Enduring drifts look part (part config.state) (config.calls thread))
    (idle : config.idle? thread = some last) : account.ready (part config.state) := by
  rcases Config.idle?_cases idle with ⟨none, -⟩ | ⟨call, value, some, returned, -⟩
  · rw [none] at kept
    exact kept
  · rw [some] at kept
    have ended : call.prog.Amid drifts look _ (account.post call.job (part call.entry)) _ := kept
    rw [returned] at ended
    exact endures.returned (ended _ (shared.refl _))

private theorem Account.Enduring.drifted {now after : Part}
    {call : Option (Call State Effect Reply Job Result)}
    (kept : account.Enduring drifts look part now call) (moved : drifts now after) :
    account.Enduring drifts look part after call := by
  cases call with
  | none => exact endures.drifted kept moved
  | some call => exact Prog.Amid.drifted shared.trans kept moved

theorem Account.enduring (reachable : machine.Reachable condition config) :
    account.Enduring drifts look part (part config.state) (config.calls thread) := by
  induction reachable with
  | start => exact endures.start
  | @step config next label reachable allowed stepped kept =>
      rcases Machine.step_cases stepped with
        ⟨actor, job, last, rfl, idle, admitted, rfl⟩ |
        ⟨actor, job, entry, past, effect, rest, reply, state, rfl, calls, executed, rfl⟩ |
        ⟨event, state, rfl, changed, rfl⟩
      · by_cases same : thread = actor
        · subst same
          rw [Config.put_calls_self]
          exact endures.body (Account.Enduring.ready shared endures kept idle) admitted allowed
        · rw [Config.put_calls_other _ _ _ _ same]
          exact kept
      · by_cases same : thread = actor
        · subst same
          rw [calls] at kept
          rw [Config.put_calls_self]
          have permitted : condition.acts thread job effect config.state = true := by
            simpa only [Condition.allows, calls] using allowed
          have pending : (Prog.act effect rest).Amid drifts look (account.point job (part entry))
            (account.post job (part entry)) (part config.state) := kept
          exact (pending _ (shared.refl _)).2 reply (part state)
            (shared.mine reachable calls ⟨rest, rfl⟩ permitted executed)
        · rw [Config.put_calls_other _ _ _ _ same]
          exact Account.Enduring.drifted shared endures kept
            (shared.others reachable (Ne.symm same) calls ⟨rest, rfl⟩ executed)
      · exact Account.Enduring.drifted shared endures kept (shared.external reachable changed)

theorem Account.endures_ready (reachable : machine.Reachable condition config)
    {last : Option Result} (idle : config.idle? thread = some last) :
    account.ready (part config.state) :=
  Account.Enduring.ready shared endures (account.enduring shared endures reachable) idle

theorem Account.endures_point (reachable : machine.Reachable condition config)
    {call : Call State Effect Reply Job Result} {effect : Effect}
    (calls : config.calls thread = some call) (standing : call.Next effect) :
    account.point call.job (part call.entry) effect (part config.state) := by
  have kept := account.enduring shared endures reachable
  rw [calls] at kept
  obtain ⟨rest, program⟩ := standing
  have pending : call.prog.Amid drifts look (account.point call.job (part call.entry)) _ _ := kept
  rw [program] at pending
  exact (pending _ (shared.refl _)).1

theorem Account.endures_post (reachable : machine.Reachable condition config)
    {call : Call State Effect Reply Job Result} {value : Result}
    (calls : config.calls thread = some call) (returned : call.Returned value) :
    account.post call.job (part call.entry) value (part config.state) := by
  have kept := account.enduring shared endures reachable
  rw [calls] at kept
  have ended : call.prog.Amid drifts look _ (account.post call.job (part call.entry)) _ := kept
  unfold Call.Returned at returned
  rw [returned] at ended
  exact ended _ (shared.refl _)

end Sound

end LibSp.Concurrent
