import LibSp.Concurrent.Prog

/-!
# A pool of threads over one shared state

Threads execute jobs. A job is a program; between two jobs a thread is idle.
One step of the pool begins a job, performs the next effect of one busy thread,
or lets the environment change the shared state. A run is any sequence of steps.
-/

set_option autoImplicit false

namespace LibSp.Concurrent

/-- A shared state, the meaning of every effect, and the jobs of the threads.
Effects are deterministic: what the environment decides is an argument of the
job. `admits` sees the result of the thread's previous job, if it had one. -/
structure Machine (Tid State Effect : Type) (Reply : Effect → Type)
    (Job Result External : Type) where
  start : State
  exec : Tid → (effect : Effect) → State → Option (Reply effect × State)
  body : Job → Prog Effect Reply Result
  admits : Tid → Option Result → State → Job → Bool
  external : External → State → Option State

/-- A job in progress or just returned: the state it began in, the effects it
has performed (latest first) and what is left of it. -/
structure Call (State Effect : Type) (Reply : Effect → Type) (Job Result : Type) where
  job : Job
  entry : State
  past : List Effect
  prog : Prog Effect Reply Result

structure Config (Tid State Effect : Type) (Reply : Effect → Type) (Job Result : Type) where
  state : State
  calls : Tid → Option (Call State Effect Reply Job Result)

inductive Label (Tid Job External : Type) where
  | begin (thread : Tid) (job : Job)
  | act (thread : Tid)
  | external (event : External)

/-- A thread begins a job and performs that many effects without interruption. -/
def Label.burst {Tid Job External : Type} (thread : Tid) (job : Job) (count : Nat) :
    List (Label Tid Job External) :=
  .begin thread job :: List.replicate count (.act thread)

/-- A step of one thread, or of none. -/
def Label.isBy {Tid Job External : Type} [DecidableEq Tid] (thread : Tid) :
    Label Tid Job External → Bool
  | .begin actor _ | .act actor => actor = thread
  | .external _ => true

/-- A step that begins no other job than these. -/
def Label.beginsOnly {Tid Job External : Type} (plain : Job → Bool) :
    Label Tid Job External → Bool
  | .begin _ job => plain job
  | .act _ | .external _ => true

/-- A condition on the steps of a run: on the job a thread begins and on the
effect it performs, each with the state before the step. -/
structure Condition (Tid State Effect Job : Type) where
  begins : Tid → Job → State → Bool
  acts : Tid → Job → Effect → State → Bool

namespace Condition

variable {Tid State Effect Job : Type}

def always : Condition Tid State Effect Job where
  begins _ _ _ := true
  acts _ _ _ _ := true

def both (first second : Condition Tid State Effect Job) : Condition Tid State Effect Job where
  begins thread job state := first.begins thread job state && second.begins thread job state
  acts thread job effect state :=
    first.acts thread job effect state && second.acts thread job effect state

variable {first second : Condition Tid State Effect Job} {thread : Tid} {job : Job}
  {state : State}

theorem both_begins : (first.both second).begins thread job state = true ↔
    first.begins thread job state = true ∧ second.begins thread job state = true :=
  Bool.and_eq_true_iff

theorem both_acts {effect : Effect} : (first.both second).acts thread job effect state = true ↔
    first.acts thread job effect state = true ∧ second.acts thread job effect state = true :=
  Bool.and_eq_true_iff

end Condition

section

variable {Tid State Effect : Type} {Reply : Effect → Type} {Job Result External : Type}

/-- `none` for a busy thread, else the result of its latest job, if any. -/
def Config.idle? (config : Config Tid State Effect Reply Job Result) (thread : Tid) :
    Option (Option Result) :=
  match config.calls thread with
  | none => some none
  | some ⟨_, _, _, .ret value⟩ => some (some value)
  | some ⟨_, _, _, .act _ _⟩ => none

def Call.Returned (call : Call State Effect Reply Job Result) (value : Result) : Prop :=
  call.prog = .ret value

def Call.Next (call : Call State Effect Reply Job Result) (effect : Effect) : Prop :=
  ∃ next, call.prog = .act effect next

namespace Config

variable [DecidableEq Tid]

def put (config : Config Tid State Effect Reply Job Result) (thread : Tid)
    (call : Call State Effect Reply Job Result) (state : State) :
    Config Tid State Effect Reply Job Result where
  state := state
  calls := fun other => if other = thread then some call else config.calls other

variable (config : Config Tid State Effect Reply Job Result) (thread : Tid)
  (call : Call State Effect Reply Job Result) (state : State)

@[simp] theorem put_state : (config.put thread call state).state = state := rfl

@[simp] theorem put_calls_self : (config.put thread call state).calls thread = some call := by
  simp [put]

theorem put_calls_other {other : Tid} (different : other ≠ thread) :
    (config.put thread call state).calls other = config.calls other := by
  simp [put, different]

end Config

namespace Machine

variable (machine : Machine Tid State Effect Reply Job Result External)

def initial : Config Tid State Effect Reply Job Result where
  state := machine.start
  calls _ := none

variable [DecidableEq Tid]

def step (config : Config Tid State Effect Reply Job Result) :
    Label Tid Job External → Option (Config Tid State Effect Reply Job Result)
  | .begin thread job =>
      match config.idle? thread with
      | none => none
      | some last =>
          if machine.admits thread last config.state job then
            some (config.put thread ⟨job, config.state, [], machine.body job⟩ config.state)
          else none
  | .act thread =>
      match config.calls thread with
      | some ⟨job, entry, past, .act effect next⟩ =>
          match machine.exec thread effect config.state with
          | none => none
          | some (reply, state) =>
              some (config.put thread ⟨job, entry, effect :: past, next reply⟩ state)
      | _ => none
  | .external event =>
      match machine.external event config.state with
      | none => none
      | some state => some { config with state := state }

end Machine

def Condition.allows (condition : Condition Tid State Effect Job)
    (config : Config Tid State Effect Reply Job Result) : Label Tid Job External → Bool
  | .begin thread job => condition.begins thread job config.state
  | .act thread =>
      match config.calls thread with
      | some ⟨job, _, _, .act effect _⟩ => condition.acts thread job effect config.state
      | _ => true
  | .external _ => true

variable [DecidableEq Tid]

/-- The configuration after a list of steps, if all of them can be taken and
meet the condition. -/
def Machine.steps (machine : Machine Tid State Effect Reply Job Result External)
    (condition : Condition Tid State Effect Job)
    (config : Config Tid State Effect Reply Job Result) :
    List (Label Tid Job External) → Option (Config Tid State Effect Reply Job Result)
  | [] => some config
  | label :: rest =>
      if condition.allows config label then
        match machine.step config label with
        | none => none
        | some next => machine.steps condition next rest
      else none

/-- The configurations of the runs all of whose steps meet the condition. -/
inductive Machine.Reachable (machine : Machine Tid State Effect Reply Job Result External)
    (condition : Condition Tid State Effect Job) :
    Config Tid State Effect Reply Job Result → Prop where
  | start : Reachable machine condition machine.initial
  | step {config next : Config Tid State Effect Reply Job Result}
      {label : Label Tid Job External} :
      Reachable machine condition config → condition.allows config label = true →
      machine.step config label = some next → Reachable machine condition next

variable {machine : Machine Tid State Effect Reply Job Result External}
  {condition : Condition Tid State Effect Job}
  {config next : Config Tid State Effect Reply Job Result}

/-- Everything one step of the pool can do. -/
theorem Machine.step_cases {label : Label Tid Job External}
    (stepped : machine.step config label = some next) :
    (∃ thread job last, label = .begin thread job ∧ config.idle? thread = some last ∧
      machine.admits thread last config.state job = true ∧
      next = config.put thread ⟨job, config.state, [], machine.body job⟩ config.state) ∨
    (∃ thread job entry past effect rest reply state, label = .act thread ∧
      config.calls thread = some ⟨job, entry, past, .act effect rest⟩ ∧
      machine.exec thread effect config.state = some (reply, state) ∧
      next = config.put thread ⟨job, entry, effect :: past, rest reply⟩ state) ∨
    (∃ event state, label = .external event ∧
      machine.external event config.state = some state ∧
      next = { config with state := state }) := by
  cases label with
  | begin thread job =>
      simp only [Machine.step] at stepped
      cases idle : config.idle? thread with
      | none => simp [idle] at stepped
      | some last =>
          simp only [idle] at stepped
          split at stepped
          · next admitted =>
              cases stepped
              exact .inl ⟨thread, job, last, rfl, idle, admitted, rfl⟩
          · cases stepped
  | act thread =>
      simp only [Machine.step] at stepped
      cases calls : config.calls thread with
      | none => simp [calls] at stepped
      | some call =>
          rcases call with ⟨job, entry, past, prog⟩
          cases prog with
          | ret value => simp [calls] at stepped
          | act effect rest =>
              simp only [calls] at stepped
              cases executed : machine.exec thread effect config.state with
              | none => simp [executed] at stepped
              | some done =>
                  rcases done with ⟨reply, state⟩
                  simp only [executed, Option.some.injEq] at stepped
                  exact .inr (.inl ⟨thread, job, entry, past, effect, rest, reply, state, rfl,
                    calls, executed, stepped.symm⟩)
  | external event =>
      simp only [Machine.step] at stepped
      cases changed : machine.external event config.state with
      | none => simp [changed] at stepped
      | some state =>
          simp only [changed, Option.some.injEq] at stepped
          exact .inr (.inr ⟨event, state, rfl, changed, stepped.symm⟩)

/-- A step of one thread leaves the calls of the others alone. -/
theorem Machine.step_calls_other {label : Label Tid Job External} {thread other : Tid}
    (stepped : machine.step config label = some next) (mine : label.isBy thread = true)
    (different : other ≠ thread) : next.calls other = config.calls other := by
  rcases Machine.step_cases stepped with
    ⟨actor, job, last, rfl, -, -, rfl⟩ | ⟨actor, job, entry, past, effect, rest, reply, state, rfl,
      -, -, rfl⟩ | ⟨event, state, rfl, -, rfl⟩
  · have same : actor = thread := of_decide_eq_true mine
    exact Config.put_calls_other _ _ _ _ (same ▸ different)
  · have same : actor = thread := of_decide_eq_true mine
    exact Config.put_calls_other _ _ _ _ (same ▸ different)
  · rfl

omit [DecidableEq Tid] in
theorem Config.idle?_cases {thread : Tid} {last : Option Result}
    (idle : config.idle? thread = some last) :
    (config.calls thread = none ∧ last = none) ∨
    ∃ call value, config.calls thread = some call ∧ call.prog = .ret value ∧
      last = some value := by
  simp only [Config.idle?] at idle
  cases calls : config.calls thread with
  | none => simp only [calls, Option.some.injEq] at idle; exact .inl ⟨rfl, idle.symm⟩
  | some call =>
      rcases call with ⟨job, entry, past, prog⟩
      cases prog with
      | ret value =>
          simp only [calls, Option.some.injEq] at idle
          exact .inr ⟨_, value, rfl, rfl, idle.symm⟩
      | act effect rest => simp [calls] at idle

omit [DecidableEq Tid] in
theorem Config.idle?_of_returned {thread : Tid} {call : Call State Effect Reply Job Result}
    {value : Result} (calls : config.calls thread = some call) (returned : call.Returned value) :
    config.idle? thread = some (some value) := by
  rcases call with ⟨job, entry, past, prog⟩
  cases returned
  simp only [Config.idle?, calls]

omit [DecidableEq Tid] in
/-- A thread is idle or stands at an effect. -/
theorem Config.idle_or_next (config : Config Tid State Effect Reply Job Result) (thread : Tid) :
    (∃ last, config.idle? thread = some last) ∨
      ∃ call effect, config.calls thread = some call ∧ call.Next effect := by
  cases calls : config.calls thread with
  | none => exact .inl ⟨none, by simp only [Config.idle?, calls]⟩
  | some call =>
      rcases call with ⟨job, entry, past, prog⟩
      cases prog with
      | ret value => exact .inl ⟨some value, by simp only [Config.idle?, calls]⟩
      | act effect next => exact .inr ⟨_, effect, rfl, next, rfl⟩

theorem Machine.Reachable.of_steps {labels : List (Label Tid Job External)}
    (reachable : machine.Reachable condition config)
    (ran : machine.steps condition config labels = some next) :
    machine.Reachable condition next := by
  induction labels generalizing config with
  | nil =>
      cases ran
      exact reachable
  | cons label rest restIH =>
      simp only [Machine.steps] at ran
      split at ran
      · next allowed =>
          cases stepped : machine.step config label with
          | none => simp [stepped] at ran
          | some middle =>
              simp only [stepped] at ran
              exact restIH (.step reachable allowed stepped) ran
      · cases ran

/-- A run that meets a condition meets every weaker one. -/
theorem Machine.Reachable.mono {weaker : Condition Tid State Effect Job}
    (begins : ∀ {thread job state}, condition.begins thread job state = true →
      weaker.begins thread job state = true)
    (acts : ∀ {thread job effect state}, condition.acts thread job effect state = true →
      weaker.acts thread job effect state = true)
    (reachable : machine.Reachable condition config) : machine.Reachable weaker config := by
  induction reachable with
  | start => exact .start
  | @step config next label _ allowed stepped stepIH =>
      refine .step stepIH ?_ stepped
      cases label with
      | begin thread job => exact begins allowed
      | external event => rfl
      | act thread =>
          simp only [Condition.allows] at allowed ⊢
          split
          · next calls =>
              rw [calls] at allowed
              exact acts allowed
          · rfl

/-- What holds of a call when it begins, and after each of its effects whatever
the reply, holds of the call at every moment. -/
theorem Machine.Reachable.of_call {thread : Tid}
    (holds : Call State Effect Reply Job Result → Prop)
    (begins : ∀ last job state, machine.admits thread last state job = true →
      condition.begins thread job state = true → holds ⟨job, state, [], machine.body job⟩)
    (acts : ∀ job entry past effect rest reply, holds ⟨job, entry, past, .act effect rest⟩ →
      holds ⟨job, entry, effect :: past, rest reply⟩)
    (reachable : machine.Reachable condition config)
    {call : Call State Effect Reply Job Result} (calls : config.calls thread = some call) :
    holds call := by
  induction reachable generalizing call with
  | start => cases calls
  | @step config next label _ allowed stepped stepIH =>
      rcases Machine.step_cases stepped with
        ⟨actor, job, last, rfl, -, admitted, rfl⟩ |
        ⟨actor, job, entry, past, effect, rest, reply, state, rfl, acting, -, rfl⟩ |
        ⟨event, state, rfl, -, rfl⟩
      · by_cases same : thread = actor
        · subst same
          rw [Config.put_calls_self] at calls
          cases calls
          exact begins last job config.state admitted allowed
        · rw [Config.put_calls_other _ _ _ _ same] at calls
          exact stepIH calls
      · by_cases same : thread = actor
        · subst same
          rw [Config.put_calls_self] at calls
          cases calls
          exact acts job entry past effect rest reply (stepIH acting)
        · rw [Config.put_calls_other _ _ _ _ same] at calls
          exact stepIH calls
      · exact stepIH calls

theorem Machine.Reachable.begun (reachable : machine.Reachable condition config) {thread : Tid}
    {call : Call State Effect Reply Job Result} (calls : config.calls thread = some call) :
    condition.begins thread call.job call.entry = true :=
  reachable.of_call (fun call => condition.begins thread call.job call.entry = true)
    (fun _ _ _ _ allowed => allowed) (fun _ _ _ _ _ _ began => began) calls

theorem Machine.Reachable.only (reachable : machine.Reachable condition config) {thread : Tid}
    {allowed : Effect → Prop}
    (bodies : ∀ last job state, machine.admits thread last state job = true →
      (machine.body job).Only allowed)
    {call : Call State Effect Reply Job Result} (calls : config.calls thread = some call) :
    call.prog.Only allowed :=
  reachable.of_call (fun call => call.prog.Only allowed)
    (fun last job state admitted _ => bodies last job state admitted)
    (fun _ _ _ _ _ reply only => only.2 reply) calls

/-- A call began in a reachable configuration in which its thread was idle. -/
theorem Machine.Reachable.entered (reachable : machine.Reachable condition config) {thread : Tid}
    {call : Call State Effect Reply Job Result} (calls : config.calls thread = some call) :
    ∃ before last, machine.Reachable condition before ∧ before.idle? thread = some last ∧
      before.state = call.entry ∧ machine.admits thread last call.entry call.job = true := by
  induction reachable generalizing call with
  | start => cases calls
  | @step config next label reachable _ stepped stepIH =>
      rcases Machine.step_cases stepped with
        ⟨actor, job, last, rfl, idle, admitted, rfl⟩ |
        ⟨actor, job, entry, past, effect, rest, reply, state, rfl, acting, -, rfl⟩ |
        ⟨event, state, rfl, -, rfl⟩
      · by_cases same : thread = actor
        · subst same
          rw [Config.put_calls_self] at calls
          cases calls
          exact ⟨config, last, reachable, idle, rfl, admitted⟩
        · rw [Config.put_calls_other _ _ _ _ same] at calls
          exact stepIH calls
      · by_cases same : thread = actor
        · subst same
          rw [Config.put_calls_self] at calls
          cases calls
          obtain ⟨before, last, earlier, idle, entered⟩ := stepIH acting
          exact ⟨before, last, earlier, idle, entered⟩
        · rw [Config.put_calls_other _ _ _ _ same] at calls
          exact stepIH calls
      · exact stepIH calls

/-- What every effect and every external event keeps holds in every run. -/
theorem Machine.Reachable.state_invariant (holds : State → Prop) (start : holds machine.start)
    (acts : ∀ {thread effect state reply after}, holds state →
      machine.exec thread effect state = some (reply, after) → holds after)
    (external : ∀ {event state after}, holds state →
      machine.external event state = some after → holds after)
    (reachable : machine.Reachable condition config) : holds config.state := by
  induction reachable with
  | start => exact start
  | @step config next label _ _ stepped stepIH =>
      rcases Machine.step_cases stepped with
        ⟨actor, job, last, rfl, -, -, rfl⟩ |
        ⟨actor, job, entry, past, effect, rest, reply, state, rfl, -, executed, rfl⟩ |
        ⟨event, state, rfl, changed, rfl⟩
      · exact stepIH
      · exact acts stepIH executed
      · exact external stepIH changed

/-! ## Single steps of a run -/

/-- In some run the thread stands at the program, in the state. -/
def Machine.Stands (machine : Machine Tid State Effect Reply Job Result External)
    (condition : Condition Tid State Effect Job) (thread : Tid) (job : Job)
    (program : Prog Effect Reply Result) (state : State) : Prop :=
  ∃ config entry past, machine.Reachable condition config ∧
    config.calls thread = some ⟨job, entry, past, program⟩ ∧ config.state = state

theorem Machine.Stands.act {thread : Tid} {job : Job} {effect : Effect}
    {rest : Reply effect → Prog Effect Reply Result} {reply : Reply effect} {state after : State}
    (stands : machine.Stands condition thread job (.act effect rest) state)
    (permitted : condition.acts thread job effect state = true)
    (executed : machine.exec thread effect state = some (reply, after)) :
    machine.Stands condition thread job (rest reply) after := by
  obtain ⟨config, entry, past, reachable, calls, rfl⟩ := stands
  have allowed : condition.allows config (.act thread : Label Tid Job External) = true := by
    simpa only [Condition.allows, calls] using permitted
  have stepped : machine.step config (.act thread) =
      some (config.put thread ⟨job, entry, effect :: past, rest reply⟩ after) := by
    simp only [Machine.step, calls, executed]
  exact ⟨_, entry, _, .step reachable allowed stepped, Config.put_calls_self _ _ _ _, rfl⟩

/-! ## Several steps of one thread -/

section Advances

variable {thread : Tid} {job : Job} {program rest : Prog Effect Reply Result}
  {before after : State} (reachable : machine.Reachable .always config)
include reachable

theorem Machine.Reachable.advances {entry : State} {past : List Effect} (count : Nat)
    (calls : config.calls thread = some ⟨job, entry, past, program⟩)
    (stands : config.state = before)
    (advanced : program.advance (machine.exec thread) count before = some (rest, after)) :
    ∃ next past, machine.Reachable .always next ∧
      next.calls thread = some ⟨job, entry, past, rest⟩ ∧ next.state = after ∧
      ∀ other, other ≠ thread → next.calls other = config.calls other := by
  induction count generalizing config program past before with
  | zero =>
      cases advanced
      exact ⟨config, past, reachable, calls, stands, fun _ _ => rfl⟩
  | succ count ih =>
      cases program with
      | ret value => cases advanced
      | act effect continuation =>
          subst stands
          simp only [Prog.advance] at advanced
          split at advanced
          · cases advanced
          · next reply state executed =>
              have allowed : Condition.allows .always config
                  (.act thread : Label Tid Job External) = true := by
                simp only [Condition.allows, calls, Condition.always]
              have stepped : machine.step config (.act thread) =
                  some (config.put thread ⟨job, entry, effect :: past, continuation reply⟩ state) := by
                simp only [Machine.step, calls, executed]
              obtain ⟨next, past, reached, standing, final, others⟩ := ih
                (.step reachable allowed stepped) (Config.put_calls_self _ _ _ _) rfl advanced
              refine ⟨next, past, reached, standing, final, fun other different => ?_⟩
              exact (others other different).trans (Config.put_calls_other _ _ _ _ different)

/-- An idle thread begins a job and performs that many effects. -/
theorem Machine.Reachable.burst {last : Option Result} (thread : Tid) (job : Job) (count : Nat)
    (idle : config.idle? thread = some last) (stands : config.state = before)
    (admitted : machine.admits thread last before job = true)
    (advanced : (machine.body job).advance (machine.exec thread) count before =
      some (rest, after)) :
    ∃ next past, machine.Reachable .always next ∧
      next.calls thread = some ⟨job, before, past, rest⟩ ∧ next.state = after ∧
      ∀ other, other ≠ thread → next.calls other = config.calls other := by
  subst stands
  have stepped : machine.step config (.begin thread job) =
      some (config.put thread ⟨job, config.state, [], machine.body job⟩ config.state) := by
    simp only [Machine.step, idle, admitted, if_true]
  obtain ⟨next, past, reached, standing, final, others⟩ :=
    (Machine.Reachable.step reachable rfl stepped).advances count
      (Config.put_calls_self _ _ _ _) rfl advanced
  refine ⟨next, past, reached, standing, final, fun other different => ?_⟩
  exact (others other different).trans (Config.put_calls_other _ _ _ _ different)

end Advances

/-! ## A program in place of a job -/

/-- The thread begins the program. -/
def Config.calling (config : Config Tid State Effect Reply Job Result) (thread : Tid) (job : Job)
    (program : Prog Effect Reply Result) : Config Tid State Effect Reply Job Result :=
  config.put thread ⟨job, config.state, [], program⟩ config.state

/-- The call in which the thread stands returns the value, in the configuration `after`. -/
inductive Machine.Returns (machine : Machine Tid State Effect Reply Job Result External)
    (condition : Condition Tid State Effect Job) (thread : Tid) :
    Config Tid State Effect Reply Job Result → Result →
    Config Tid State Effect Reply Job Result → Prop where
  | done {config : Config Tid State Effect Reply Job Result}
      {call : Call State Effect Reply Job Result} {value : Result} :
      config.calls thread = some call → call.Returned value →
      Returns machine condition thread config value config
  | step {config next after : Config Tid State Effect Reply Job Result}
      {label : Label Tid Job External} {call : Call State Effect Reply Job Result}
      {effect : Effect} {value : Result} :
      config.calls thread = some call → call.Next effect →
      condition.allows config label = true → machine.step config label = some next →
      Returns machine condition thread next value after →
      Returns machine condition thread config value after

/-- A program without an effect returns where it began. -/
theorem Machine.returns_calling_ret {thread : Tid} {job : Job} {value result : Result}
    {after : Config Tid State Effect Reply Job Result} :
    machine.Returns condition thread (config.calling thread job (.ret value)) result after ↔
      result = value ∧ after = config.calling thread job (.ret value) := by
  constructor
  · intro returns
    cases returns with
    | done calls returned =>
        rw [Config.calling, Config.put_calls_self] at calls
        cases calls
        cases returned
        exact ⟨rfl, rfl⟩
    | step calls standing =>
        rw [Config.calling, Config.put_calls_self] at calls
        cases calls
        obtain ⟨_, standing⟩ := standing
        cases standing
  · rintro ⟨rfl, rfl⟩
    exact .done (Config.put_calls_self _ _ _ _) rfl

end

end LibSp.Concurrent
