import LibSp.Concurrent.Turns

/-!
# Earlier moments of a run

A call uses a value that it has loaded before, and a log has an entry that a call has
written before. Both lead back to a moment of the same run at which the call stood at
its load, or at its write.
-/

set_option autoImplicit false

namespace LibSp.Concurrent

variable {Tid State Effect : Type} {Reply : Effect → Type} {Job Result External Value Entry : Type}
  {α β : Type}

/-- The steps that meet a condition. -/
def Condition.rule (condition : Condition Tid State Effect Job) :
    Rule Tid State Effect Reply Job Result External :=
  fun config label => condition.allows config label = true

/-- The steps that meet a condition and begin no other job of this thread. -/
def Condition.during (condition : Condition Tid State Effect Job) (thread : Tid) :
    Rule Tid State Effect Reply Job Result External :=
  fun config label => condition.allows config label = true ∧ ∀ job, label ≠ .begin thread job

section

variable [DecidableEq Tid] {machine : Machine Tid State Effect Reply Job Result External}
  {condition : Condition Tid State Effect Job}
  {config middle next : Config Tid State Effect Reply Job Result}

theorem Machine.steps_snoc {labels : List (Label Tid Job External)} {label : Label Tid Job External}
    (ran : machine.steps condition config labels = some middle)
    (allowed : condition.allows middle label = true)
    (stepped : machine.step middle label = some next) :
    machine.steps condition config (labels ++ [label]) = some next := by
  induction labels generalizing config with
  | nil =>
      cases ran
      simp only [List.nil_append, Machine.steps, if_pos allowed, stepped]
  | cons first rest restIH =>
      simp only [Machine.steps, List.cons_append] at ran ⊢
      split at ran
      · next begun =>
          rw [if_pos begun]
          cases taken : machine.step config first with
          | none => simp [taken] at ran
          | some after =>
              simp only [taken] at ran ⊢
              exact restIH ran
      · cases ran

theorem Machine.Reachable.ran (reachable : machine.Reachable condition config) :
    ∃ labels, machine.steps condition machine.initial labels = some config := by
  induction reachable with
  | start => exact ⟨[], rfl⟩
  | step _ allowed stepped ih =>
      obtain ⟨labels, ran⟩ := ih
      exact ⟨_, Machine.steps_snoc ran allowed stepped⟩

end

/-! ## Values that a call has loaded -/

/-- A part of the state, the effect that loads it, and the effects that use a value
loaded before. -/
structure Source (State Effect : Type) (Reply : Effect → Type) (Value : Type) where
  stored : State → Value
  load : Effect
  answer : Reply load → Value
  asks : Effect → Bool
  uses : Effect → Option Value

namespace Source

variable (source : Source State Effect Reply Value)

/-- The program uses this value only. -/
def Bound (value : Value) (program : Prog Effect Reply α) : Prop :=
  program.Only fun effect => ∀ used, source.uses effect = some used → used = value

/-- The program uses nothing before it loads, and then what it has loaded. -/
def Draws (program : Prog Effect Reply α) : Prop :=
  program.Entering source.asks (fun effect => (source.uses effect).isNone) fun program =>
    ∃ next, program = .act source.load next ∧
      ∀ reply, source.Bound (source.answer reply) (next reply)

/-- A program that uses nothing. -/
abbrev Idle (program : Prog Effect Reply α) : Prop :=
  program.Only fun effect => source.uses effect = none

variable {source} {value : Value}

theorem Bound.of_idle {program : Prog Effect Reply α} (idle : source.Idle program) :
    source.Bound value program := by
  refine idle.mono fun effect unused used same => ?_
  rw [unused] at same
  cases same

theorem Draws.bind {program : Prog Effect Reply α} {rest : α → Prog Effect Reply β}
    (draws : source.Draws program)
    (idle : ∀ value, (rest value).Only fun effect =>
      source.asks effect = false ∧ source.uses effect = none) :
    source.Draws (program >>= rest) := by
  refine Prog.Entering.bind (fun program drawn => ?_) draws fun value => .of_only ?_
  · obtain ⟨next, rfl, bound⟩ := drawn
    refine ⟨_, rfl, fun reply => Prog.Only.bind (bound reply) fun value => ?_⟩
    exact Bound.of_idle ((idle value).mono fun _ plain => plain.2)
  · refine (idle value).mono fun effect plain => ⟨plain.1, ?_⟩
    rw [plain.2]
    rfl

end Source

variable [DecidableEq Tid] {machine : Machine Tid State Effect Reply Job Result External}
  {condition : Condition Tid State Effect Job}
  {config next : Config Tid State Effect Reply Job Result} {thread : Tid}

/-- In the job in which the thread is, it stood at its load while this value was stored. -/
def Source.Drawn (source : Source State Effect Reply Value)
    (machine : Machine Tid State Effect Reply Job Result External)
    (condition : Condition Tid State Effect Job) (thread : Tid) (value : Value)
    (later : Config Tid State Effect Reply Job Result) : Prop :=
  ∃ config call, machine.Reachable condition config ∧ config.calls thread = some call ∧
    call.Next source.load ∧ source.stored config.state = value ∧
    machine.Leads (condition.during thread) config later

namespace Source

variable {source : Source State Effect Reply Value} {value : Value}

theorem Drawn.step {label : Label Tid Job External}
    (drawn : source.Drawn machine condition thread value config)
    (during : condition.during thread config label)
    (stepped : machine.step config label = some next) :
    source.Drawn machine condition thread value next := by
  obtain ⟨origin, call, reachable, calls, standing, stored, leads⟩ := drawn
  exact ⟨origin, call, reachable, calls, standing, stored, .step leads during stepped⟩

/-- Where a call stands: it has not loaded yet, or it uses the value that was stored when
it did. -/
def Sourced (source : Source State Effect Reply Value)
    (machine : Machine Tid State Effect Reply Job Result External)
    (condition : Condition Tid State Effect Job) (thread : Tid)
    (config : Config Tid State Effect Reply Job Result)
    (call : Call State Effect Reply Job Result) : Prop :=
  source.Draws call.prog ∨
    ∃ value, source.Drawn machine condition thread value config ∧ source.Bound value call.prog

/-- Steps of others leave a call where it stands. -/
theorem Sourced.step {label : Label Tid Job External} {call : Call State Effect Reply Job Result}
    (sourced : source.Sourced machine condition thread config call)
    (during : condition.during thread config label)
    (stepped : machine.step config label = some next) :
    source.Sourced machine condition thread next call :=
  sourced.imp_right fun ⟨value, drawn, bound⟩ => ⟨value, drawn.step during stepped, bound⟩

variable (bodies : ∀ {last state job}, machine.admits thread last state job = true →
    source.Draws (machine.body job))
  (loaded : ∀ {state reply after}, machine.exec thread source.load state = some (reply, after) →
    source.answer reply = source.stored state)
include bodies loaded

theorem sourced_of_reachable (reachable : machine.Reachable condition config)
    {call : Call State Effect Reply Job Result} (calls : config.calls thread = some call) :
    source.Sourced machine condition thread config call := by
  induction reachable generalizing call with
  | start => cases calls
  | @step config next label reachable allowed stepped ih =>
      rcases Machine.step_cases stepped with
        ⟨actor, job, last, rfl, -, admitted, rfl⟩ |
        ⟨actor, job, entry, past, effect, rest, reply, state, rfl, acting, executed, rfl⟩ |
        ⟨event, state, rfl, -, rfl⟩
      · by_cases same : thread = actor
        · subst same
          rw [Config.put_calls_self] at calls
          cases calls
          exact .inl (bodies admitted)
        · rw [Config.put_calls_other _ _ _ _ same] at calls
          refine (ih calls).step ⟨allowed, fun job begins => same ?_⟩ stepped
          cases begins
          rfl
      · by_cases same : thread = actor
        · subst same
          rw [Config.put_calls_self] at calls
          cases calls
          rcases ih acting with draws | ⟨value, drawn, bound⟩
          · cases asks : source.asks effect with
            | false => exact .inl ((draws.2 asks).2 reply)
            | true =>
                obtain ⟨continuation, loading, bound⟩ := draws.1 asks
                cases loading
                have drawn : source.Drawn machine condition thread (source.stored config.state)
                    config := ⟨config, _, reachable, acting, ⟨_, rfl⟩, rfl, .here⟩
                refine .inr ⟨_, drawn.step ⟨allowed, nofun⟩ stepped, ?_⟩
                rw [← loaded executed]
                exact bound reply
          · exact .inr ⟨value, drawn.step ⟨allowed, nofun⟩ stepped, bound.2 reply⟩
        · rw [Config.put_calls_other _ _ _ _ same] at calls
          exact (ih calls).step ⟨allowed, nofun⟩ stepped
      · exact (ih calls).step ⟨allowed, nofun⟩ stepped

/-- A value that a call uses was stored when the call loaded it. -/
theorem drawn_of_reachable (apart : ∀ {effect used}, source.uses effect = some used →
      source.asks effect = false) (reachable : machine.Reachable condition config)
    {call : Call State Effect Reply Job Result} {effect : Effect}
    (calls : config.calls thread = some call) (standing : call.Next effect)
    (uses : source.uses effect = some value) :
    source.Drawn machine condition thread value config := by
  obtain ⟨rest, program⟩ := standing
  rcases sourced_of_reachable bodies loaded reachable calls with draws | ⟨stored, drawn, bound⟩
  · rw [program] at draws
    have unused : (source.uses effect).isNone = true := (draws.2 (apart uses)).1
    rw [uses] at unused
    cases unused
  · rw [program] at bound
    rw [bound.1 value uses]
    exact drawn

end Source

/-! ## Entries that a call has written -/

/-- The log gets at most one entry with an effect, at its end. -/
structure Logs (machine : Machine Tid State Effect Reply Job Result External)
    (log : State → List Entry) (writes : Effect → Option Entry) : Prop where
  start : log machine.start = []
  acts : ∀ {thread effect state reply after},
    machine.exec thread effect state = some (reply, after) →
    log after = log state ++ (writes effect).toList
  external : ∀ {event state after}, machine.external event state = some after →
    log after = log state

/-- The thread stood at the effect that wrote this entry after the ones before it. -/
def Machine.Wrote (machine : Machine Tid State Effect Reply Job Result External)
    (condition : Condition Tid State Effect Job) (log : State → List Entry)
    (writes : Effect → Option Entry) (earlier : List Entry) (entry : Entry)
    (later : Config Tid State Effect Reply Job Result) : Prop :=
  ∃ config thread call effect, machine.Reachable condition config ∧
    log config.state = earlier ∧ config.calls thread = some call ∧ call.Next effect ∧
    writes effect = some entry ∧ machine.Leads condition.rule config later

/-- Every entry of the log was written at some moment of the run. -/
theorem Logs.wrote {log : State → List Entry} {writes : Effect → Option Entry}
    (logs : Logs machine log writes) (reachable : machine.Reachable condition config)
    {earlier later : List Entry} {entry : Entry}
    (entries : log config.state = earlier ++ entry :: later) :
    machine.Wrote condition log writes earlier entry config := by
  induction reachable generalizing later with
  | start =>
      have empty : log machine.initial.state = [] := logs.start
      rw [empty] at entries
      exact absurd entries.symm (List.append_ne_nil_of_right_ne_nil _ (List.cons_ne_nil _ _))
  | @step config next label reachable allowed stepped ih =>
      have carried : ∀ {later : List Entry}, log config.state = earlier ++ entry :: later →
          machine.Wrote condition log writes earlier entry next := by
        intro later entries
        obtain ⟨before, thread, call, effect, reached, same, calls, standing, written, leads⟩ :=
          ih entries
        exact ⟨before, thread, call, effect, reached, same, calls, standing, written,
          .step leads allowed stepped⟩
      rcases Machine.step_cases stepped with
        ⟨actor, job, last, rfl, -, -, rfl⟩ |
        ⟨actor, job, entered, past, effect, rest, reply, state, rfl, acting, executed, rfl⟩ |
        ⟨event, state, rfl, changed, rfl⟩
      · exact carried entries
      · rw [Config.put_state, logs.acts executed] at entries
        cases written : writes effect with
        | none =>
            rw [written, Option.toList_none, List.append_nil] at entries
            exact carried entries
        | some latest =>
            rw [written, Option.toList_some] at entries
            rcases List.eq_nil_or_concat later with rfl | ⟨front, last, rfl⟩
            · -- The entry is the latest one.
              obtain ⟨same, latestSame⟩ := List.append_inj' entries rfl
              cases latestSame
              exact ⟨config, actor, _, effect, reachable, same, acting, ⟨rest, rfl⟩, written,
                .step .here allowed stepped⟩
            · rw [List.concat_eq_append, ← List.cons_append, ← List.append_assoc] at entries
              exact carried (List.append_inj' entries rfl).1
      · exact carried ((logs.external changed).symm.trans entries)

end LibSp.Concurrent
