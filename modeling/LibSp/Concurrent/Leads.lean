import LibSp.Concurrent.Machine

/-!
# Runs under a rule on configurations

A condition of `Machine` sees the shared state and the thread that takes the step.
A rule sees the calls of all threads, so that it can keep calls apart; and a run
under a rule may begin in any configuration.
-/

set_option autoImplicit false

namespace LibSp.Concurrent

variable {Tid State Effect : Type} {Reply : Effect → Type} {Job Result External : Type}

/-- The steps that a run may take. -/
abbrev Rule (Tid State Effect : Type) (Reply : Effect → Type) (Job Result External : Type) :=
  Config Tid State Effect Reply Job Result → Label Tid Job External → Prop

theorem Condition.always_allows {config : Config Tid State Effect Reply Job Result}
    {label : Label Tid Job External} : Condition.always.allows config label = true := by
  cases label with
  | begin thread job => rfl
  | external event => rfl
  | act thread =>
      simp only [Condition.allows]
      split <;> rfl

variable [DecidableEq Tid]

/-- A run of another condition, if this one allows its steps. -/
theorem Machine.Reachable.of_steps_within
    {machine : Machine Tid State Effect Reply Job Result External}
    {condition narrower : Condition Tid State Effect Job}
    {config next : Config Tid State Effect Reply Job Result}
    {labels : List (Label Tid Job External)}
    (within : ∀ (config : Config Tid State Effect Reply Job Result)
      (label : Label Tid Job External), narrower.allows config label = true →
        condition.allows config label = true)
    (reachable : machine.Reachable condition config)
    (ran : machine.steps narrower config labels = some next) :
    machine.Reachable condition next := by
  induction labels generalizing config with
  | nil =>
      cases ran
      exact reachable
  | cons label rest restIH =>
      simp only [Machine.steps] at ran
      split at ran
      · next allowed =>
          cases stepped : machine.step config label with
          | none => simp [stepped] at ran
          | some middle =>
              simp only [stepped] at ran
              exact restIH (.step reachable (within config label allowed) stepped) ran
      · cases ran

/-- A run from `origin` all of whose steps follow the rule ends here. -/
inductive Machine.Leads (machine : Machine Tid State Effect Reply Job Result External)
    (rule : Rule Tid State Effect Reply Job Result External)
    (origin : Config Tid State Effect Reply Job Result) :
    Config Tid State Effect Reply Job Result → Prop where
  | here : Leads machine rule origin origin
  | step {config next : Config Tid State Effect Reply Job Result}
      {label : Label Tid Job External} :
      Leads machine rule origin config → rule config label →
      machine.step config label = some next → Leads machine rule origin next

namespace Machine.Leads

variable {machine : Machine Tid State Effect Reply Job Result External}
  {rule : Rule Tid State Effect Reply Job Result External}
  {condition : Condition Tid State Effect Job}
  {origin config : Config Tid State Effect Reply Job Result}

theorem mono {weaker : Rule Tid State Effect Reply Job Result External}
    (implies : ∀ config label, rule config label → weaker config label)
    (leads : machine.Leads rule origin config) : machine.Leads weaker origin config := by
  induction leads with
  | here => exact .here
  | step _ ruled stepped ih => exact .step ih (implies _ _ ruled) stepped

theorem reachable (implies : ∀ config label, rule config label →
      condition.allows config label = true)
    (began : machine.Reachable condition origin) (leads : machine.Leads rule origin config) :
    machine.Reachable condition config := by
  induction leads with
  | here => exact began
  | step _ ruled stepped ih => exact .step ih (implies _ _ ruled) stepped

/-- A run of the machine as one under the rule, if every step of it follows the rule as
long as an invariant holds. -/
theorem of_steps {next : Config Tid State Effect Reply Job Result}
    {labels : List (Label Tid Job External)}
    {invariant : Config Tid State Effect Reply Job Result → Prop}
    {among : Label Tid Job External → Bool}
    (kept : ∀ {config next label}, invariant config → among label = true →
      condition.allows config label = true → machine.step config label = some next →
      rule config label ∧ invariant next)
    (leads : machine.Leads rule origin config) (holds : invariant config)
    (mine : labels.all among = true) (steps : machine.steps condition config labels = some next) :
    machine.Leads rule origin next ∧ invariant next := by
  induction labels generalizing config with
  | nil =>
      cases steps
      exact ⟨leads, holds⟩
  | cons label rest ih =>
      rw [List.all_cons, Bool.and_eq_true] at mine
      simp only [Machine.steps] at steps
      split at steps
      · next allowed =>
          split at steps
          · cases steps
          · next between stepped =>
              obtain ⟨ruled, holdsNext⟩ := kept holds mine.1 allowed stepped
              exact ih (.step leads ruled stepped) holdsNext mine.2 steps
      · cases steps

end Machine.Leads

end LibSp.Concurrent
