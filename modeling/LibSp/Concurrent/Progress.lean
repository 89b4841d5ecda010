import LibSp.Concurrent.Leads
import LibSp.Concurrent.Mutex

/-!
# Calls that can be completed

A call may have to wait for what other threads do. It can be completed from wherever it
stands if each of its effects can be performed after some steps of the threads that it
may wait for.
-/

set_option autoImplicit false

namespace LibSp.Concurrent

variable {Tid State Effect : Type} {Reply : Effect → Type} {Job Result External : Type}

/-- The allowed steps that help. -/
def Condition.helped (condition : Condition Tid State Effect Job)
    (helps : Label Tid Job External → Prop) : Rule Tid State Effect Reply Job Result External :=
  fun config label => condition.allows config label = true ∧ helps label

variable [DecidableEq Tid] {machine : Machine Tid State Effect Reply Job Result External}
  {condition : Condition Tid State Effect Job} {helps : Label Tid Job External → Prop}
  {config : Config Tid State Effect Reply Job Result} {thread : Tid}

theorem Machine.Leads.trans {rule : Rule Tid State Effect Reply Job Result External}
    {origin middle : Config Tid State Effect Reply Job Result}
    (early : machine.Leads rule origin middle) (late : machine.Leads rule middle config) :
    machine.Leads rule origin config := by
  induction late with
  | here => exact early
  | step _ ruled stepped lateIH => exact .step lateIH ruled stepped

theorem Machine.Leads.reachable_helped {origin : Config Tid State Effect Reply Job Result}
    (reachable : machine.Reachable condition origin)
    (leads : machine.Leads (condition.helped helps) origin config) :
    machine.Reachable condition config :=
  leads.reachable (fun _ _ ruled => ruled.1) reachable

/-- The thread's next effect can be performed after some steps that help, and what holds
of the configuration holds again. -/
def Machine.Advances (machine : Machine Tid State Effect Reply Job Result External)
    (condition : Condition Tid State Effect Job) (helps : Label Tid Job External → Prop)
    (thread : Tid) (holds : Config Tid State Effect Reply Job Result → Prop)
    (config : Config Tid State Effect Reply Job Result) : Prop :=
  ∃ middle next, machine.Leads (condition.helped helps) config middle ∧
    middle.calls thread = config.calls thread ∧
    condition.allows middle (.act thread : Label Tid Job External) = true ∧
    machine.step middle (.act thread) = some next ∧ holds next

/-- The effect can be performed at once. -/
theorem Machine.advances_now {call : Call State Effect Reply Job Result} {effect : Effect}
    {reply : Reply effect} {after : State}
    {holds : Config Tid State Effect Reply Job Result → Prop}
    (calls : config.calls thread = some call) (standing : call.Next effect)
    (permitted : condition.acts thread call.job effect config.state = true)
    (executed : machine.exec thread effect config.state = some (reply, after))
    (kept : ∀ rest, call.prog = .act effect rest →
      holds (config.put thread ⟨call.job, call.entry, effect :: call.past, rest reply⟩ after)) :
    machine.Advances condition helps thread holds config := by
  obtain ⟨rest, program⟩ := standing
  have keptRest := kept rest program
  obtain ⟨job, entry, past, prog⟩ := call
  cases program
  refine ⟨config, _, .here, rfl, ?_, ?_, keptRest⟩
  · simpa only [Condition.allows, calls] using permitted
  · simp only [Machine.step, calls, executed]

/-- The effect can be performed once others have made some steps. -/
theorem Machine.Advances.after {middle : Config Tid State Effect Reply Job Result}
    {holds : Config Tid State Effect Reply Job Result → Prop}
    (leads : machine.Leads (condition.helped helps) config middle)
    (same : middle.calls thread = config.calls thread)
    (advances : machine.Advances condition helps thread holds middle) :
    machine.Advances condition helps thread holds config := by
  obtain ⟨later, next, leadsOn, sameLater, allowed, stepped, kept⟩ := advances
  exact ⟨later, next, leads.trans leadsOn, sameLater.trans same, allowed, stepped, kept⟩

/-- A call of the thread has returned, the one that the thread was in. -/
def Completed (thread : Tid) (call : Call State Effect Reply Job Result)
    (config : Config Tid State Effect Reply Job Result) : Prop :=
  ∃ ended value, config.calls thread = some ended ∧ ended.job = call.job ∧
    ended.entry = call.entry ∧ ended.Returned value

/-- A thread whose every effect can be performed sooner or later completes its call. -/
theorem Machine.Reachable.completes (holds : Config Tid State Effect Reply Job Result → Prop)
    (mine : helps (.act thread))
    (advances : ∀ {config call effect}, machine.Reachable condition config → holds config →
      config.calls thread = some call → call.Next effect →
      machine.Advances condition helps thread holds config)
    (reachable : machine.Reachable condition config) (began : holds config)
    {call : Call State Effect Reply Job Result} (calls : config.calls thread = some call) :
    ∃ after, machine.Leads (condition.helped helps) config after ∧ holds after ∧
      Completed thread call after := by
  obtain ⟨job, entry, past, program⟩ := call
  induction program generalizing config past with
  | ret value => exact ⟨config, .here, began, _, value, calls, rfl, rfl, rfl⟩
  | act effect rest restIH =>
      obtain ⟨middle, next, leads, same, allowed, stepped, kept⟩ :=
        advances reachable began calls ⟨rest, rfl⟩
      have reachableNext : machine.Reachable condition next :=
        .step (leads.reachable_helped reachable) allowed stepped
      have leadsNext : machine.Leads (condition.helped helps) config next :=
        .step leads ⟨allowed, mine⟩ stepped
      have standing : middle.calls thread = some ⟨job, entry, past, .act effect rest⟩ :=
        same.trans calls
      simp only [Machine.step, standing] at stepped
      cases executed : machine.exec thread effect middle.state with
      | none => simp [executed] at stepped
      | some done =>
          obtain ⟨reply, state⟩ := done
          simp only [executed, Option.some.injEq] at stepped
          subst stepped
          obtain ⟨after, leadsAfter, keptAfter, completed⟩ :=
            restIH reply reachableNext kept (effect :: past) (Config.put_calls_self _ _ _ _)
          exact ⟨after, leadsNext.trans leadsAfter, keptAfter, completed⟩

/-- Several effects of one thread. -/
theorem Machine.Leads.advances {job : Job} {entry before after : State} {past : List Effect}
    {program rest : Prog Effect Reply Result} (count : Nat) (helping : helps (.act thread))
    (permitted : ∀ job effect state, condition.acts thread job effect state = true)
    (calls : config.calls thread = some ⟨job, entry, past, program⟩)
    (stands : config.state = before)
    (advanced : program.advance (machine.exec thread) count before = some (rest, after)) :
    ∃ next past, machine.Leads (condition.helped helps) config next ∧
      next.calls thread = some ⟨job, entry, past, rest⟩ ∧ next.state = after ∧
      ∀ other, other ≠ thread → next.calls other = config.calls other := by
  induction count generalizing config program past before with
  | zero =>
      cases advanced
      exact ⟨config, past, .here, calls, stands, fun _ _ => rfl⟩
  | succ count countIH =>
      subst stands
      cases program with
      | ret value => cases advanced
      | act effect continuation =>
          simp only [Prog.advance] at advanced
          split at advanced
          · cases advanced
          · next reply state executed =>
              have allowed : condition.allows config (.act thread : Label Tid Job External) =
                  true := by
                simpa only [Condition.allows, calls] using permitted job effect config.state
              have ruled : condition.helped helps config (.act thread) := ⟨allowed, helping⟩
              have stepped : machine.step config (.act thread) =
                  some (config.put thread ⟨job, entry, effect :: past, continuation reply⟩ state) := by
                simp only [Machine.step, calls, executed]
              obtain ⟨next, past, leads, standing, final, others⟩ :=
                countIH (Config.put_calls_self _ _ _ _) rfl advanced
              have first := Machine.Leads.step .here ruled stepped
              refine ⟨next, past, first.trans leads, standing, final, fun other different => ?_⟩
              exact (others other different).trans (Config.put_calls_other _ _ _ _ different)

/-- An idle thread begins a job and performs that many effects. -/
theorem Machine.Leads.burst {last : Option Result} {job : Job} {after : State}
    {rest : Prog Effect Reply Result} (count : Nat) (helping : helps (.act thread))
    (beginning : helps (.begin thread job))
    (permitted : ∀ job effect state, condition.acts thread job effect state = true)
    (idle : config.idle? thread = some last)
    (admitted : machine.admits thread last config.state job = true)
    (begun : condition.begins thread job config.state = true)
    (advanced : (machine.body job).advance (machine.exec thread) count config.state =
      some (rest, after)) :
    ∃ next past, machine.Leads (condition.helped helps) config next ∧
      next.calls thread = some ⟨job, config.state, past, rest⟩ ∧ next.state = after ∧
      ∀ other, other ≠ thread → next.calls other = config.calls other := by
  have ruled : condition.helped helps config (.begin thread job) := ⟨begun, beginning⟩
  have stepped : machine.step config (.begin thread job) =
      some (config.put thread ⟨job, config.state, [], machine.body job⟩ config.state) := by
    simp only [Machine.step, idle, admitted, if_true]
  obtain ⟨next, past, leads, standing, final, others⟩ :=
    Machine.Leads.advances count helping permitted (Config.put_calls_self _ _ _ _) rfl advanced
  have first := Machine.Leads.step .here ruled stepped
  refine ⟨next, past, first.trans leads, standing, final, fun other different => ?_⟩
  exact (others other different).trans (Config.put_calls_other _ _ _ _ different)

omit [DecidableEq Tid] in
/-- A thread that finds a mutex free or its own leaves it so. -/
theorem Mutex.kept_by {owner : State → Option Tid} {use : Job → Effect → LockUse}
    (mutex : Mutex machine owner use) {job : Job} {effect : Effect} {reply : Reply effect}
    {state after : State} (allowed : use job effect ≠ .forbidden)
    (mine : owner state = none ∨ owner state = some thread)
    (executed : machine.exec thread effect state = some (reply, after)) :
    owner after = none ∨ owner after = some thread := by
  cases used : use job effect with
  | acquires => exact .inr (mutex.acquires used executed).2
  | releases => exact .inl (mutex.releases used executed)
  | outside =>
      rw [mutex.keeps (.inl used) executed]
      exact mine
  | free =>
      rw [mutex.keeps (.inr used) executed]
      exact mine
  | forbidden => exact absurd used allowed

end LibSp.Concurrent
