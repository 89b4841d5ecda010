import LibSp.Concurrent.Machine

/-!
# Rely-guarantee contracts for thread pools

A contract says what every thread may rely on: an invariant of the shared state,
and for each thread a preorder of the changes the others may make. `Safe` is the
weakest precondition of a program under that interference. Once every admitted
job is safe, `Contract.sound` carries invariant, program points and
postconditions to every reachable configuration.
-/

set_option autoImplicit false

namespace LibSp.Concurrent

/-- What a contract promises. `point` must hold whenever the thread is about to
perform the effect, `post` when a job that began in the given state has returned,
`ready` as long as the thread is idle after the given result. -/
structure Rules (Tid State Effect Job Result : Type) where
  inv : State → Prop
  rely : Tid → State → State → Prop
  point : Tid → Job → Effect → State → Prop
  post : Tid → Job → State → Result → State → Prop
  ready : Tid → Option Result → State → Prop

variable {Tid State Effect : Type} {Reply : Effect → Type} {Job Result External : Type}
  {α β : Type}

section Safe

variable (machine : Machine Tid State Effect Reply Job Result External)
  (condition : Condition Tid State Effect Job) (rules : Rules Tid State Effect Job Result)
  (thread : Tid) (job : Job)

/-- From this state the thread can run the program under interference: it keeps
the invariant, changes nothing another thread relies on, stands at each effect
with its point established, and ends in the postcondition. -/
def Safe : Prog Effect Reply α → (α → State → Prop) → State → Prop
  | .ret value, post, state =>
      ∀ now, rules.rely thread state now → rules.inv now → post value now
  | .act effect next, post, state =>
      ∀ now, rules.rely thread state now → rules.inv now →
        rules.point thread job effect now ∧
        ∀ reply after, condition.acts thread job effect now = true →
          machine.exec thread effect now = some (reply, after) →
          rules.inv after ∧ (∀ other, other ≠ thread → rules.rely other now after) ∧
          Safe (next reply) post after

end Safe

structure Contract (machine : Machine Tid State Effect Reply Job Result External)
    (condition : Condition Tid State Effect Job)
    (rules : Rules Tid State Effect Job Result) : Prop where
  rely_refl : ∀ thread state, rules.rely thread state state
  rely_trans : ∀ thread {first second third},
    rules.rely thread first second → rules.rely thread second third →
    rules.rely thread first third
  inv_start : rules.inv machine.start
  ready_start : ∀ thread, rules.ready thread none machine.start
  ready_stable : ∀ thread last {state after}, rules.ready thread last state →
    rules.rely thread state after → rules.inv after → rules.ready thread last after
  external : ∀ event {state after}, rules.inv state →
    machine.external event state = some after →
    rules.inv after ∧ ∀ thread, rules.rely thread state after
  post_ready : ∀ thread job entry value state, rules.inv state →
    rules.post thread job entry value state → rules.ready thread (some value) state
  call : ∀ thread last job state, rules.inv state → rules.ready thread last state →
    machine.admits thread last state job = true → condition.begins thread job state = true →
    Safe machine condition rules thread job (machine.body job)
      (rules.post thread job state) state

namespace Safe

variable {machine : Machine Tid State Effect Reply Job Result External}
  {condition : Condition Tid State Effect Job} {rules : Rules Tid State Effect Job Result}
  {thread : Tid} {job : Job}

theorem mono {program : Prog Effect Reply α} {first second : α → State → Prop} {state : State}
    (implies : ∀ value now, rules.inv now → first value now → second value now)
    (safe : Safe machine condition rules thread job program first state) :
    Safe machine condition rules thread job program second state := by
  induction program generalizing state with
  | ret value =>
      intro now relied invNow
      exact implies value now invNow (safe now relied invNow)
  | act effect next nextIH =>
      intro now relied invNow
      obtain ⟨pointed, continued⟩ := safe now relied invNow
      refine ⟨pointed, fun reply after permitted executed => ?_⟩
      obtain ⟨invAfter, guaranteed, rest⟩ := continued reply after permitted executed
      exact ⟨invAfter, guaranteed, nextIH reply rest⟩

theorem bind {program : Prog Effect Reply α} {rest : α → Prog Effect Reply β}
    {post : β → State → Prop} {state : State}
    (refl : ∀ state, rules.rely thread state state) (invariant : rules.inv state)
    (safe : Safe machine condition rules thread job program
      (fun value now => Safe machine condition rules thread job (rest value) post now) state) :
    Safe machine condition rules thread job (program >>= rest) post state := by
  induction program generalizing state with
  | ret value => exact safe state (refl state) invariant
  | act effect next nextIH =>
      intro now relied invNow
      obtain ⟨pointed, continued⟩ := safe now relied invNow
      refine ⟨pointed, fun reply after permitted executed => ?_⟩
      obtain ⟨invAfter, guaranteed, continuation⟩ := continued reply after permitted executed
      exact ⟨invAfter, guaranteed, nextIH reply invAfter continuation⟩

theorem ite {test : Prop} [Decidable test] {first second : Prog Effect Reply α}
    {post : α → State → Prop} {state : State}
    (positive : test → Safe machine condition rules thread job first post state)
    (negative : ¬ test → Safe machine condition rules thread job second post state) :
    Safe machine condition rules thread job (if test then first else second) post state := by
  split
  · next holds => exact positive holds
  · next fails => exact negative fails

variable (contract : Contract machine condition rules)
include contract

/-- Interference before the first effect is part of the meaning of `Safe`. -/
theorem stable {program : Prog Effect Reply α} {post : α → State → Prop} {state after : State}
    (safe : Safe machine condition rules thread job program post state)
    (relied : rules.rely thread state after) :
    Safe machine condition rules thread job program post after := by
  cases program with
  | ret value => exact fun now later => safe now (contract.rely_trans thread relied later)
  | act effect next => exact fun now later => safe now (contract.rely_trans thread relied later)

theorem point_now {effect : Effect} {next : Reply effect → Prog Effect Reply α}
    {post : α → State → Prop} {state : State} (invariant : rules.inv state)
    (safe : Safe machine condition rules thread job (.act effect next) post state) :
    rules.point thread job effect state :=
  (safe state (contract.rely_refl thread state) invariant).1

theorem post_now {value : α} {post : α → State → Prop} {state : State}
    (invariant : rules.inv state)
    (safe : Safe machine condition rules thread job (Prog.ret value : Prog Effect Reply α) post
      state) :
    post value state :=
  safe state (contract.rely_refl thread state) invariant

end Safe

section Sound

variable {machine : Machine Tid State Effect Reply Job Result External}
  {condition : Condition Tid State Effect Job} {rules : Rules Tid State Effect Job Result}

def Kept (machine : Machine Tid State Effect Reply Job Result External)
    (condition : Condition Tid State Effect Job) (rules : Rules Tid State Effect Job Result)
    (thread : Tid) (state : State) : Option (Call State Effect Reply Job Result) → Prop
  | none => rules.ready thread none state
  | some call => Safe machine condition rules thread call.job call.prog
      (rules.post thread call.job call.entry) state

theorem Kept.stable (contract : Contract machine condition rules) {thread : Tid}
    {state after : State} {call : Option (Call State Effect Reply Job Result)}
    (kept : Kept machine condition rules thread state call)
    (relied : rules.rely thread state after) (invAfter : rules.inv after) :
    Kept machine condition rules thread after call := by
  cases call with
  | none => exact contract.ready_stable thread none kept relied invAfter
  | some call => exact Safe.stable contract kept relied

variable [DecidableEq Tid]

/-- In every reachable configuration the invariant holds and every thread is safe. -/
theorem Contract.sound (contract : Contract machine condition rules)
    {config : Config Tid State Effect Reply Job Result}
    (reachable : machine.Reachable condition config) :
    rules.inv config.state ∧
      ∀ thread, Kept machine condition rules thread config.state (config.calls thread) := by
  induction reachable with
  | start => exact ⟨contract.inv_start, contract.ready_start⟩
  | @step config next label _ allowed stepped ih =>
      obtain ⟨invariant, kept⟩ := ih
      rcases Machine.step_cases stepped with
        ⟨thread, job, last, rfl, idle, admitted, rfl⟩ |
        ⟨thread, job, entry, past, effect, rest, reply, state, rfl, calls, executed, rfl⟩ |
        ⟨event, state, rfl, changed, rfl⟩
      · have ready : rules.ready thread last config.state := by
          have mine := kept thread
          rcases Config.idle?_cases idle with ⟨none, rfl⟩ | ⟨call, value, some, returned, rfl⟩
          · rw [none] at mine
            exact mine
          · rw [some] at mine
            have ended : Safe machine condition rules thread call.job call.prog _ _ := mine
            rw [returned] at ended
            exact contract.post_ready _ _ _ _ _ invariant
              (Safe.post_now contract invariant ended)
        refine ⟨invariant, fun other => ?_⟩
        by_cases same : other = thread
        · subst other
          rw [Config.put_calls_self]
          exact contract.call thread last job _ invariant ready admitted allowed
        · rw [Config.put_calls_other _ _ _ _ same]
          exact kept other
      · have mine := kept thread
        rw [calls] at mine
        have pending : Safe machine condition rules thread job (.act effect rest) _ _ := mine
        have permitted : condition.acts thread job effect config.state = true := by
          simpa only [Condition.allows, calls] using allowed
        obtain ⟨invAfter, guaranteed, continued⟩ :=
          (pending _ (contract.rely_refl thread _) invariant).2 reply state permitted executed
        refine ⟨invAfter, fun other => ?_⟩
        by_cases same : other = thread
        · subst other
          rw [Config.put_calls_self]
          exact continued
        · rw [Config.put_calls_other _ _ _ _ same]
          exact (kept other).stable contract (guaranteed other same) invAfter
      · obtain ⟨invAfter, relied⟩ := contract.external event invariant changed
        exact ⟨invAfter, fun thread => (kept thread).stable contract (relied thread) invAfter⟩

variable {config : Config Tid State Effect Reply Job Result}

theorem Contract.inv_of_reachable (contract : Contract machine condition rules)
    (reachable : machine.Reachable condition config) : rules.inv config.state :=
  (contract.sound reachable).1

theorem Contract.ready_of_reachable (contract : Contract machine condition rules)
    (reachable : machine.Reachable condition config) {thread : Tid} {last : Option Result}
    (idle : config.idle? thread = some last) : rules.ready thread last config.state := by
  obtain ⟨invariant, kept⟩ := contract.sound reachable
  have mine := kept thread
  rcases Config.idle?_cases idle with ⟨calls, rfl⟩ | ⟨call, value, calls, returned, rfl⟩
  · rw [calls] at mine
    exact mine
  · rw [calls] at mine
    have ended : Safe machine condition rules thread call.job call.prog _ _ := mine
    rw [returned] at ended
    exact contract.post_ready _ _ _ _ _ invariant (Safe.post_now contract invariant ended)

/-- Whenever a thread stands at an effect, the point of that effect holds. -/
theorem Contract.point_of_reachable (contract : Contract machine condition rules)
    (reachable : machine.Reachable condition config) {thread : Tid}
    {call : Call State Effect Reply Job Result} {effect : Effect}
    (calls : config.calls thread = some call) (standing : call.Next effect) :
    rules.point thread call.job effect config.state := by
  obtain ⟨invariant, kept⟩ := contract.sound reachable
  have mine := kept thread
  rw [calls] at mine
  obtain ⟨rest, at_effect⟩ := standing
  have pending : Safe machine condition rules thread call.job call.prog _ _ := mine
  rw [at_effect] at pending
  exact Safe.point_now contract invariant pending

/-- Whenever a call has returned, its postcondition holds. -/
theorem Contract.post_of_reachable (contract : Contract machine condition rules)
    (reachable : machine.Reachable condition config) {thread : Tid}
    {call : Call State Effect Reply Job Result} {value : Result}
    (calls : config.calls thread = some call) (returned : call.Returned value) :
    rules.post thread call.job call.entry value config.state := by
  obtain ⟨invariant, kept⟩ := contract.sound reachable
  have mine := kept thread
  rw [calls] at mine
  have ended : Safe machine condition rules thread call.job call.prog _ _ := mine
  unfold Call.Returned at returned
  rw [returned] at ended
  exact Safe.post_now contract invariant ended

end Sound

end LibSp.Concurrent
