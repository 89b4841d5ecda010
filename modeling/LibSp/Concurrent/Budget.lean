import LibSp.Concurrent.Leads
import Mathlib.Algebra.BigOperators.Group.Finset.Piecewise

/-!
# Budgets of calls

Some effects count. A call has a budget: so many of them it may perform at most, on
every path whose replies the run permits. The budgets of the calls in progress bound
what a run does from there, however the threads are interleaved, if the calls that
begin later have none.
-/

set_option autoImplicit false

namespace LibSp.Concurrent

variable {Tid State Effect : Type} {Reply : Effect → Type} {Job Result External : Type}
  {α β : Type}

namespace Prog

/-- On every path whose replies are permitted, at most that many effects count. -/
def AtMost (counts : Effect → Bool) (permits : (effect : Effect) → Reply effect → Prop) :
    Prog Effect Reply α → Nat → Prop
  | .ret _, _ => True
  | .act effect next, budget =>
      (counts effect = true → 0 < budget) ∧ ∀ reply, permits effect reply →
        (next reply).AtMost counts permits (budget - (counts effect).toNat)

variable {counts : Effect → Bool} {permits : (effect : Effect) → Reply effect → Prop}

theorem AtMost.mono {program : Prog Effect Reply α} {budget more : Nat} (le : budget ≤ more)
    (atMost : program.AtMost counts permits budget) : program.AtMost counts permits more := by
  induction program generalizing budget more with
  | ret value => trivial
  | act effect next nextIH =>
      obtain ⟨enough, continued⟩ := atMost
      refine ⟨fun counted => Nat.lt_of_lt_of_le (enough counted) le, fun reply permitted => ?_⟩
      exact nextIH reply (Nat.sub_le_sub_right le _) (continued reply permitted)

theorem AtMost.permitted {program : Prog Effect Reply α} {budget : Nat}
    {fewer : (effect : Effect) → Reply effect → Prop}
    (implies : ∀ effect reply, fewer effect reply → permits effect reply)
    (atMost : program.AtMost counts permits budget) : program.AtMost counts fewer budget := by
  induction program generalizing budget with
  | ret value => trivial
  | act effect next nextIH =>
      obtain ⟨enough, continued⟩ := atMost
      refine ⟨enough, fun reply permitted => ?_⟩
      exact nextIH reply (continued reply (implies effect reply permitted))

/-- What follows a program that may use up its budget has none. -/
theorem AtMost.bind {program : Prog Effect Reply α} {rest : α → Prog Effect Reply β}
    {budget : Nat} (first : program.AtMost counts permits budget)
    (second : ∀ value, (rest value).AtMost counts permits 0) :
    (program >>= rest).AtMost counts permits budget := by
  induction program generalizing budget with
  | ret value => exact (second value).mono (Nat.zero_le _)
  | act effect next nextIH =>
      obtain ⟨enough, continued⟩ := first
      exact ⟨enough, fun reply permitted => nextIH reply (continued reply permitted)⟩

theorem AtMost.ite {test : Prop} [Decidable test] {first second : Prog Effect Reply α}
    {budget : Nat} (positive : test → first.AtMost counts permits budget)
    (negative : ¬ test → second.AtMost counts permits budget) :
    (if test then first else second).AtMost counts permits budget := by
  split
  · next holds => exact positive holds
  · next fails => exact negative fails

/-- An effect that does not count. -/
theorem AtMost.free {effect : Effect} {next : Reply effect → Prog Effect Reply α} {budget : Nat}
    (free : counts effect = false)
    (continued : ∀ reply, permits effect reply → (next reply).AtMost counts permits budget) :
    (Prog.act effect next).AtMost counts permits budget := by
  refine ⟨fun counted => ?_, fun reply permitted => ?_⟩
  · rw [free] at counted
    cases counted
  · rw [free]
    exact continued reply permitted

theorem AtMost.of_only {program : Prog Effect Reply α} {budget : Nat}
    (only : program.Only fun effect => counts effect = false) :
    program.AtMost counts permits budget := by
  induction program with
  | ret value => trivial
  | act effect next nextIH =>
      exact .free only.1 fun reply _ => nextIH reply (only.2 reply)

end Prog

variable [DecidableEq Tid]

/-- A call keeps to the budget of its job if every reply that its thread gets is permitted. -/
theorem Machine.Reachable.atMost {machine : Machine Tid State Effect Reply Job Result External}
    {condition : Condition Tid State Effect Job}
    {config : Config Tid State Effect Reply Job Result} {thread : Tid} {counts : Effect → Bool}
    {permits : (effect : Effect) → Reply effect → Prop} {budget : Nat}
    (bodies : ∀ {last job state}, machine.admits thread last state job = true →
      (machine.body job).AtMost counts permits budget)
    (permitted : ∀ {config call effect reply after}, machine.Reachable condition config →
      config.calls thread = some call → call.Next effect →
      machine.exec thread effect config.state = some (reply, after) → permits effect reply)
    (reachable : machine.Reachable condition config) {call : Call State Effect Reply Job Result}
    (calls : config.calls thread = some call) : call.prog.AtMost counts permits budget := by
  induction reachable generalizing call with
  | start => cases calls
  | @step config next label reachable _ stepped reachableIH =>
      rcases Machine.step_cases stepped with
        ⟨actor, job, last, -, -, admitted, rfl⟩ |
        ⟨actor, job, entry, past, effect, rest, reply, state, -, acting, executed, rfl⟩ |
        ⟨event, state, -, -, rfl⟩
      · by_cases same : thread = actor
        · subst same
          rw [Config.put_calls_self] at calls
          cases calls
          exact bodies admitted
        · rw [Config.put_calls_other _ _ _ _ same] at calls
          exact reachableIH calls
      · by_cases same : thread = actor
        · subst same
          rw [Config.put_calls_self] at calls
          cases calls
          obtain ⟨-, continued⟩ := reachableIH acting
          exact (continued reply (permitted reachable acting ⟨rest, rfl⟩ executed)).mono
            (Nat.sub_le _ _)
        · rw [Config.put_calls_other _ _ _ _ same] at calls
          exact reachableIH calls
      · exact reachableIH calls

/-- The run follows a rule under which something holds of its configurations and every
reply is permitted. `count` grows by the effects that count alone, and no call that
begins may perform one. -/
structure Budget (machine : Machine Tid State Effect Reply Job Result External)
    (rule : Rule Tid State Effect Reply Job Result External)
    (holds : Config Tid State Effect Reply Job Result → Prop) (counts : Effect → Bool)
    (permits : (effect : Effect) → Reply effect → Prop) (count : State → Nat) : Prop where
  kept : ∀ {config label next}, holds config → rule config label →
    machine.step config label = some next → holds next
  permitted : ∀ {config thread effect reply after}, holds config →
    machine.exec thread effect config.state = some (reply, after) → permits effect reply
  counted : ∀ {thread effect state reply after},
    machine.exec thread effect state = some (reply, after) →
    count after = count state + (counts effect).toNat
  external : ∀ {event state after}, machine.external event state = some after →
    count after = count state
  bodies : ∀ {thread last job state}, machine.admits thread last state job = true →
    (machine.body job).AtMost counts permits 0

section Bounded

variable {machine : Machine Tid State Effect Reply Job Result External}
  {rule : Rule Tid State Effect Reply Job Result External}
  {holds : Config Tid State Effect Reply Job Result → Prop} {counts : Effect → Bool}
  {permits : (effect : Effect) → Reply effect → Prop} {count : State → Nat}

/-- The budgets that are left to the calls of a configuration. -/
structure Budgeted (counts : Effect → Bool) (permits : (effect : Effect) → Reply effect → Prop)
    (busy : Finset Tid) (left : Tid → Nat)
    (config : Config Tid State Effect Reply Job Result) : Prop where
  calls : ∀ thread call, config.calls thread = some call →
    call.prog.AtMost counts permits (left thread)
  outside : ∀ thread, thread ∉ busy → left thread = 0

/-- How many effects that count the thread performs in the step: one or none. -/
def Config.spends (counts : Effect → Bool) (config : Config Tid State Effect Reply Job Result)
    (label : Label Tid Job External) (thread : Tid) : Nat :=
  match label with
  | .act actor =>
      match config.calls actor with
      | some ⟨_, _, _, .act effect _⟩ => if thread = actor then (counts effect).toNat else 0
      | _ => 0
  | _ => 0

/-- A run from `origin` under the rule, with the number of effects that count which each
thread has performed on it. -/
inductive Machine.Tallies (machine : Machine Tid State Effect Reply Job Result External)
    (rule : Rule Tid State Effect Reply Job Result External) (counts : Effect → Bool)
    (origin : Config Tid State Effect Reply Job Result) :
    Config Tid State Effect Reply Job Result → (Tid → Nat) → Prop where
  | here : Tallies machine rule counts origin origin fun _ => 0
  | step {config next : Config Tid State Effect Reply Job Result} {tally : Tid → Nat}
      {label : Label Tid Job External} :
      Tallies machine rule counts origin config tally → rule config label →
      machine.step config label = some next →
      Tallies machine rule counts origin next fun thread =>
        tally thread + config.spends counts label thread

/-- Every run has a tally. -/
theorem Machine.Leads.tallied {origin config : Config Tid State Effect Reply Job Result}
    (leads : machine.Leads rule origin config) :
    ∃ tally, machine.Tallies rule counts origin config tally := by
  induction leads with
  | here => exact ⟨_, .here⟩
  | step _ ruled stepped leadsIH =>
      obtain ⟨tally, tallies⟩ := leadsIH
      exact ⟨_, .step tallies ruled stepped⟩

/-- One effect is paid from the budget of its thread. -/
theorem Budgeted.act {busy : Finset Tid} {left : Tid → Nat}
    {config : Config Tid State Effect Reply Job Result} {thread : Tid} {job : Job}
    {entry state : State} {past : List Effect} {effect : Effect}
    {rest : Reply effect → Prog Effect Reply Result} {reply : Reply effect}
    (budgeted : Budgeted counts permits busy left config)
    (calls : config.calls thread = some ⟨job, entry, past, .act effect rest⟩)
    (permitted : permits effect reply) :
    (counts effect).toNat ≤ left thread ∧ Budgeted counts permits busy
      (fun other => left other - if other = thread then (counts effect).toNat else 0)
      (config.put thread ⟨job, entry, effect :: past, rest reply⟩ state) := by
  obtain ⟨enough, continued⟩ := budgeted.calls thread _ calls
  refine ⟨?_, fun other call called => ?_, fun other missing => ?_⟩
  · cases counted : counts effect with
    | false => exact Nat.zero_le _
    | true => exact enough counted
  · by_cases same : other = thread
    · subst same
      rw [Config.put_calls_self] at called
      cases called
      rw [if_pos rfl]
      exact continued reply permitted
    · rw [Config.put_calls_other _ _ _ _ same] at called
      rw [if_neg same]
      exact budgeted.calls other call called
  · rw [budgeted.outside other missing, Nat.zero_sub]

/-- A call that begins has no budget. -/
theorem Budgeted.begin {busy : Finset Tid} {left : Tid → Nat}
    {config : Config Tid State Effect Reply Job Result} {thread : Tid} {job : Job}
    {entry state : State} {program : Prog Effect Reply Result}
    (budgeted : Budgeted counts permits busy left config)
    (silent : program.AtMost counts permits 0) :
    Budgeted counts permits busy left (config.put thread ⟨job, entry, [], program⟩ state) := by
  refine ⟨fun other call called => ?_, budgeted.outside⟩
  by_cases same : other = thread
  · subst same
    rw [Config.put_calls_self] at called
    cases called
    exact silent.mono (Nat.zero_le _)
  · rw [Config.put_calls_other _ _ _ _ same] at called
    exact budgeted.calls other call called

/-- What the threads have spent of their budgets, and what is left of them. -/
structure Spent (counts : Effect → Bool) (permits : (effect : Effect) → Reply effect → Prop)
    (count : State → Nat) (busy : Finset Tid) (left : Tid → Nat) (began : Nat)
    (config : Config Tid State Effect Reply Job Result) (tally : Tid → Nat) : Prop where
  within : ∀ thread, tally thread ≤ left thread
  budgeted : Budgeted counts permits busy (fun thread => left thread - tally thread) config
  total : count config.state = began + ∑ thread ∈ busy, tally thread

variable (budget : Budget machine rule holds counts permits count)
include budget

theorem Spent.step {busy : Finset Tid} {left tally : Tid → Nat} {began : Nat}
    {config next : Config Tid State Effect Reply Job Result} {label : Label Tid Job External}
    (outside : ∀ thread, thread ∉ busy → left thread = 0) (holding : holds config)
    (spent : Spent counts permits count busy left began config tally)
    (stepped : machine.step config label = some next) :
    Spent counts permits count busy left began next fun thread =>
      tally thread + config.spends counts label thread := by
  obtain ⟨within, budgeted, total⟩ := spent
  rcases Machine.step_cases stepped with
    ⟨thread, job, last, rfl, -, admitted, rfl⟩ |
    ⟨thread, job, entry, past, effect, rest, reply, state, rfl, calls, executed, rfl⟩ |
    ⟨event, state, rfl, changed, rfl⟩
  · exact ⟨within, budgeted.begin (budget.bodies admitted), total⟩
  · obtain ⟨affordable, after⟩ := budgeted.act calls (budget.permitted holding executed)
    have spends : ∀ other, config.spends counts (.act thread : Label Tid Job External) other =
        if other = thread then (counts effect).toNat else 0 := by
      intro other
      simp only [Config.spends, calls]
    simp only [spends]
    refine ⟨fun other => ?_, ?_, ?_⟩
    · have before := within other
      split
      · next same =>
          subst same
          omega
      · exact before
    · simpa only [Nat.sub_sub] using after
    · have paid : ∑ other ∈ busy, (if other = thread then (counts effect).toNat else 0) =
          (counts effect).toNat := by
        rw [Finset.sum_ite_eq']
        split
        · rfl
        · next missing =>
            have none := outside thread missing
            omega
      rw [Config.put_state, budget.counted executed, total, Finset.sum_add_distrib, paid, Nat.add_assoc]
  · exact ⟨within, ⟨budgeted.calls, budgeted.outside⟩, (budget.external changed).trans total⟩

/-- On no run does a thread perform more than its call at the beginning may. -/
theorem Budget.spent {origin config : Config Tid State Effect Reply Job Result}
    (began : holds origin) {busy : Finset Tid} {left tally : Tid → Nat}
    (budgeted : Budgeted counts permits busy left origin)
    (tallies : machine.Tallies rule counts origin config tally) :
    Spent counts permits count busy left (count origin.state) config tally := by
  have invariant : holds config ∧
      Spent counts permits count busy left (count origin.state) config tally := by
    induction tallies with
    | here => exact ⟨began, fun _ => Nat.zero_le _, budgeted, by simp⟩
    | step _ ruled stepped ih =>
        obtain ⟨holding, spent⟩ := ih
        exact ⟨budget.kept holding ruled stepped,
          Spent.step budget budgeted.outside holding spent stepped⟩
  exact invariant.2

end Bounded

end LibSp.Concurrent
