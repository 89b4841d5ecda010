import LibSp.Concurrent.Machine

/-!
# Lock discipline of a thread pool

`Balanced` checks a program alone: it never takes the mutex while holding it and
never returns while holding it. `Mutex.sound` turns the check of every job into
the ownership of the mutex in every run, whatever else the threads share.
-/

set_option autoImplicit false

namespace LibSp.Concurrent

/-- What an effect means for the mutex. `outside` effects may only be performed
by a thread that does not hold it, `forbidden` ones not at all. -/
inductive LockUse where
  | acquires
  | releases
  | outside
  | free
  | forbidden
  deriving DecidableEq

variable {Tid State Effect : Type} {Reply : Effect → Type} {Job Result External : Type}
  {α β : Type}

/-- Whether the performed effects (latest first) end inside a critical section. -/
def inSection (use : Effect → LockUse) : List Effect → Bool
  | [] => false
  | effect :: past =>
      match use effect with
      | .acquires => true
      | .releases => false
      | .outside | .free | .forbidden => inSection use past

/-- The program, started with or without the mutex, keeps the lock discipline
along every path whose replies are permitted. -/
def Balanced (use : Effect → LockUse) (permits : (effect : Effect) → Reply effect → Prop) :
    Prog Effect Reply α → Bool → Prop
  | .ret _, held => held = false
  | .act effect next, held =>
      match use effect with
      | .acquires => held = false ∧ ∀ reply, permits effect reply →
          Balanced use permits (next reply) true
      | .releases => held = true ∧ ∀ reply, permits effect reply →
          Balanced use permits (next reply) false
      | .outside => held = false ∧ ∀ reply, permits effect reply →
          Balanced use permits (next reply) held
      | .free => ∀ reply, permits effect reply → Balanced use permits (next reply) held
      | .forbidden => False

section Balanced

variable {use : Effect → LockUse} {permits : (effect : Effect) → Reply effect → Prop}

theorem Balanced.bind {program : Prog Effect Reply α} {rest : α → Prog Effect Reply β}
    {held : Bool} (first : Balanced use permits program held)
    (second : ∀ value, Balanced use permits (rest value) false) :
    Balanced use permits (program >>= rest) held := by
  induction program generalizing held with
  | ret value =>
      cases first
      exact second value
  | act effect next nextIH =>
      simp only [Prog.act_bind, Balanced] at first ⊢
      split at first
      · exact ⟨first.1, fun reply permitted => nextIH reply (first.2 reply permitted)⟩
      · exact ⟨first.1, fun reply permitted => nextIH reply (first.2 reply permitted)⟩
      · exact ⟨first.1, fun reply permitted => nextIH reply (first.2 reply permitted)⟩
      · exact fun reply permitted => nextIH reply (first reply permitted)
      · exact first

/-- A program that leaves the mutex alone can stand inside a critical section. -/
theorem Prog.Only.balanced_bind {program : Prog Effect Reply α} {rest : α → Prog Effect Reply β}
    {held : Bool} (free : program.Only fun effect => use effect = .free)
    (second : ∀ value, Balanced use permits (rest value) held) :
    Balanced use permits (program >>= rest) held := by
  induction program with
  | ret value => exact second value
  | act effect next nextIH =>
      simp only [Prog.act_bind, Balanced, free.1]
      exact fun reply _ => nextIH reply (free.2 reply)

theorem Balanced.act {effect : Effect} {next : Reply effect → Prog Effect Reply α} {held : Bool}
    (free : use effect = .free) (rest : ∀ reply, Balanced use permits (next reply) held) :
    Balanced use permits (.act effect next) held := by
  simp only [Balanced, free]
  exact fun reply _ => rest reply

/-- A critical section around a program that leaves the mutex alone. -/
theorem Balanced.section {enter leave : Effect} {body : Prog Effect Reply α}
    {rest : Reply leave → Prog Effect Reply β} (locks : use enter = .acquires)
    (free : body.Only fun effect => use effect = .free) (unlocks : use leave = .releases)
    (after : ∀ reply, Balanced use permits (rest reply) false) :
    Balanced use permits (.act enter fun _ => body >>= fun _ => .act leave rest) false := by
  simp only [Balanced, locks]
  refine ⟨trivial, fun _ _ => free.balanced_bind fun _ => ?_⟩
  simp only [Balanced, unlocks]
  exact ⟨trivial, fun reply _ => after reply⟩

theorem Balanced.ite {test : Prop} [Decidable test] {first second : Prog Effect Reply α}
    {held : Bool} (positive : test → Balanced use permits first held)
    (negative : ¬ test → Balanced use permits second held) :
    Balanced use permits (if test then first else second) held := by
  split
  · next holds => exact positive holds
  · next fails => exact negative fails

theorem Balanced.next {effect : Effect} {rest : Reply effect → Prog Effect Reply α}
    {past : List Effect} {reply : Reply effect}
    (balanced : Balanced use permits (.act effect rest) (inSection use past))
    (permitted : permits effect reply) :
    Balanced use permits (rest reply) (inSection use (effect :: past)) := by
  simp only [Balanced] at balanced
  simp only [inSection]
  split at balanced
  · exact balanced.2 reply permitted
  · exact balanced.2 reply permitted
  · exact balanced.2 reply permitted
  · exact balanced reply permitted
  · exact absurd balanced id

end Balanced

/-- `loose` asks of no effect more than `use` does, and may let an `outside` effect go. -/
def Loosens (use loose : Effect → LockUse) : Prop :=
  ∀ effect, loose effect = use effect ∨ use effect = .outside ∧ loose effect = .free

section Loosens

variable {use loose : Effect → LockUse}

theorem Loosens.refl (use : Effect → LockUse) : Loosens use use := fun _ => .inl rfl

theorem Loosens.same (loosens : Loosens use loose) {effect : Effect} {kept : LockUse}
    (used : use effect = kept) (within : kept ≠ .outside) : loose effect = kept := by
  rcases loosens effect with same | ⟨outside, -⟩
  · exact same.trans used
  · exact absurd (used.symm.trans outside) within

theorem Balanced.loosen {permits : (effect : Effect) → Reply effect → Prop} {held : Bool}
    {program : Prog Effect Reply α} (loosens : Loosens use loose)
    (balanced : Balanced use permits program held) : Balanced loose permits program held := by
  induction program generalizing held with
  | ret value => exact balanced
  | act effect next nextIH =>
      simp only [Balanced] at balanced
      rcases loosens effect with same | ⟨outside, free⟩
      · simp only [Balanced, same]
        split at balanced
        · exact ⟨balanced.1, fun reply permitted => nextIH reply (balanced.2 reply permitted)⟩
        · exact ⟨balanced.1, fun reply permitted => nextIH reply (balanced.2 reply permitted)⟩
        · exact ⟨balanced.1, fun reply permitted => nextIH reply (balanced.2 reply permitted)⟩
        · exact fun reply permitted => nextIH reply (balanced reply permitted)
        · exact balanced
      · simp only [outside] at balanced
        simp only [Balanced, free]
        exact fun reply permitted => nextIH reply (balanced.2 reply permitted)

end Loosens

/-- A mutex of the machine: `owner` reads it off the state, `use` classifies the
effects of each job, and only the classified effects change it. -/
structure Mutex (machine : Machine Tid State Effect Reply Job Result External)
    (owner : State → Option Tid) (use : Job → Effect → LockUse) : Prop where
  start : owner machine.start = none
  acquires : ∀ {thread job effect state reply after}, use job effect = .acquires →
    machine.exec thread effect state = some (reply, after) →
    owner state = none ∧ owner after = some thread
  releases : ∀ {thread job effect state reply after}, use job effect = .releases →
    machine.exec thread effect state = some (reply, after) → owner after = none
  keeps : ∀ {thread job effect state reply after},
    use job effect = .outside ∨ use job effect = .free →
    machine.exec thread effect state = some (reply, after) → owner after = owner state
  external : ∀ {event state after}, machine.external event state = some after →
    owner after = owner state

/-- Other jobs do not change what is a mutex. -/
theorem Mutex.transfer {machine other : Machine Tid State Effect Reply Job Result External}
    {owner : State → Option Tid} {use : Job → Effect → LockUse} (mutex : Mutex machine owner use)
    (start : other.start = machine.start) (exec : other.exec = machine.exec)
    (external : other.external = machine.external) : Mutex other owner use where
  start := start ▸ mutex.start
  acquires used executed := mutex.acquires used (exec ▸ executed)
  releases used executed := mutex.releases used (exec ▸ executed)
  keeps used executed := mutex.keeps used (exec ▸ executed)
  external changed := mutex.external (external ▸ changed)

section Sound

variable {machine : Machine Tid State Effect Reply Job Result External}
  {owner : State → Option Tid} {use : Job → Effect → LockUse}
  {condition : Condition Tid State Effect Job}
  {permits : Job → (effect : Effect) → Reply effect → Prop}

/-- Ownership agrees with the history of the thread's call, and the rest of the
call keeps the discipline. -/
def Disciplined (owner : State → Option Tid) (use : Job → Effect → LockUse)
    (permits : Job → (effect : Effect) → Reply effect → Prop) (thread : Tid) (state : State) :
    Option (Call State Effect Reply Job Result) → Prop
  | none => owner state ≠ some thread
  | some call => (owner state = some thread ↔ inSection (use call.job) call.past = true) ∧
      Balanced (use call.job) (permits call.job) call.prog (inSection (use call.job) call.past)

private theorem disciplined_of_owner {thread : Tid} {before after : State}
    {call : Option (Call State Effect Reply Job Result)}
    (same : owner after = some thread ↔ owner before = some thread)
    (kept : Disciplined owner use permits thread before call) :
    Disciplined owner use permits thread after call := by
  cases call with
  | none => exact fun owns => kept (same.mp owns)
  | some call => exact ⟨same.trans kept.1, kept.2⟩

variable [DecidableEq Tid]

theorem Mutex.sound (mutex : Mutex machine owner use)
    (replies : ∀ {thread job effect state reply after},
      condition.acts thread job effect state = true →
      machine.exec thread effect state = some (reply, after) → permits job effect reply)
    (bodies : ∀ job, Balanced (use job) (permits job) (machine.body job) false)
    {config : Config Tid State Effect Reply Job Result}
    (reachable : machine.Reachable condition config) (thread : Tid) :
    Disciplined owner use permits thread config.state (config.calls thread) := by
  induction reachable generalizing thread with
  | start => simp [Machine.initial, Disciplined, mutex.start]
  | @step config next label _ allowed stepped reachableIH =>
      rcases Machine.step_cases stepped with
        ⟨actor, job, last, rfl, idle, -, rfl⟩ |
        ⟨actor, job, entry, past, effect, rest, reply, state, rfl, calls, executed, rfl⟩ |
        ⟨event, state, rfl, changed, rfl⟩
      · by_cases same : thread = actor
        · subst thread
          rw [Config.put_calls_self]
          refine ⟨?_, bodies job⟩
          have kept := reachableIH actor
          rcases Config.idle?_cases idle with ⟨none, -⟩ | ⟨call, value, some, returned, -⟩
          · rw [none] at kept
            exact ⟨fun owns => absurd owns kept, fun inside => by simp [inSection] at inside⟩
          · rw [some] at kept
            obtain ⟨agrees, balanced⟩ := kept
            rw [returned] at balanced
            have outside : inSection (use call.job) call.past = false := balanced
            simp [agrees, outside, inSection]
        · rw [Config.put_calls_other _ _ _ _ same]
          exact reachableIH thread
      · have kept := reachableIH actor
        rw [calls] at kept
        obtain ⟨agrees, balanced⟩ := kept
        have permitted : permits job effect reply :=
          replies (by simpa only [Condition.allows, calls] using allowed) executed
        have continued := balanced.next permitted
        by_cases same : thread = actor
        · subst thread
          rw [Config.put_calls_self]
          refine ⟨?_, continued⟩
          cases used : use job effect with
          | acquires => simp [inSection, used, (mutex.acquires used executed).2]
          | releases => simp [inSection, used, mutex.releases used executed]
          | outside => simpa [inSection, used, mutex.keeps (.inl used) executed] using agrees
          | free => simpa [inSection, used, mutex.keeps (.inr used) executed] using agrees
          | forbidden => simp [Balanced, used] at balanced
        · rw [Config.put_calls_other _ _ _ _ same]
          refine disciplined_of_owner ?_ (reachableIH thread)
          cases used : use job effect with
          | acquires =>
              obtain ⟨free, taken⟩ := mutex.acquires used executed
              simp only [Config.put_state, free, taken]
              simp [Ne.symm same]
          | releases =>
              have held : inSection (use job) past = true := by
                have checked := balanced
                simp only [Balanced, used] at checked
                exact checked.1
              simp only [Config.put_state, mutex.releases used executed, agrees.mpr held]
              simp [Ne.symm same]
          | outside => rw [Config.put_state, mutex.keeps (.inl used) executed]
          | free => rw [Config.put_state, mutex.keeps (.inr used) executed]
          | forbidden => simp [Balanced, used] at balanced
      · exact disciplined_of_owner (by rw [mutex.external changed]) (reachableIH thread)

end Sound

/-! ## Consequences for one thread -/

section Consequences

variable {owner : State → Option Tid} {use : Job → Effect → LockUse}
  {permits : Job → (effect : Effect) → Reply effect → Prop} {thread : Tid} {state : State}
  {call : Call State Effect Reply Job Result}

theorem Disciplined.returned (kept : Disciplined owner use permits thread state (some call))
    {value : Result} (returned : call.Returned value) : owner state ≠ some thread := by
  obtain ⟨agrees, balanced⟩ := kept
  unfold Call.Returned at returned
  rw [returned] at balanced
  have outside : inSection (use call.job) call.past = false := balanced
  simp [agrees, outside]

theorem Disciplined.next (kept : Disciplined owner use permits thread state (some call))
    {effect : Effect} (standing : call.Next effect)
    (used : use call.job effect = .acquires ∨ use call.job effect = .outside) : owner state ≠ some thread := by
  obtain ⟨agrees, balanced⟩ := kept
  obtain ⟨rest, prog⟩ := standing
  rw [prog] at balanced
  have outside : inSection (use call.job) call.past = false := by
    rcases used with used | used <;> simp only [Balanced, used] at balanced <;> exact balanced.1
  simp [agrees, outside]

/-- The owner of the mutex is inside a critical section of a call that has not returned. -/
theorem Disciplined.owner_inSection {called : Option (Call State Effect Reply Job Result)}
    (kept : Disciplined owner use permits thread state called)
    (owns : owner state = some thread) :
    ∃ call, called = some call ∧ inSection (use call.job) call.past = true ∧
      ∀ value, ¬ call.Returned value := by
  cases called with
  | none => exact absurd owns kept
  | some call => exact ⟨call, rfl, kept.1.mp owns, fun value returned => kept.returned returned owns⟩

end Consequences

/-! ## Threads that may rest with the mutex -/

/-- The program releases the mutex only while it holds it, and returns with it or
without as `rest` allows. A lock by the owner waits for ever. -/
def Prog.Orderly (use : Effect → LockUse) (rest : Bool → Prop) :
    Prog Effect Reply α → Bool → Prop
  | .ret _, held => rest held
  | .act effect next, held =>
      match use effect with
      | .acquires => held = false → ∀ reply, Prog.Orderly use rest (next reply) true
      | .releases => held = true ∧ ∀ reply, Prog.Orderly use rest (next reply) false
      | .outside | .free => ∀ reply, Prog.Orderly use rest (next reply) held
      | .forbidden => False

section Orderly

variable {use : Effect → LockUse} {rest : Bool → Prop}

theorem Prog.Orderly.bind {middle : Bool → Prop} {program : Prog Effect Reply α}
    {continuation : α → Prog Effect Reply β} {held : Bool}
    (first : program.Orderly use middle held)
    (second : ∀ value held, middle held → (continuation value).Orderly use rest held) :
    (program >>= continuation).Orderly use rest held := by
  induction program generalizing held with
  | ret value => exact second value held first
  | act effect next nextIH =>
      simp only [Prog.act_bind, Prog.Orderly] at first ⊢
      split at first
      · exact fun free reply => nextIH reply (first free reply)
      · exact ⟨first.1, fun reply => nextIH reply (first.2 reply)⟩
      · exact fun reply => nextIH reply (first reply)
      · exact fun reply => nextIH reply (first reply)
      · exact first

theorem Prog.Orderly.mono {weaker : Bool → Prop} {program : Prog Effect Reply α} {held : Bool}
    (implies : ∀ held, rest held → weaker held) (orderly : program.Orderly use rest held) :
    program.Orderly use weaker held := by
  induction program generalizing held with
  | ret value => exact implies held orderly
  | act effect next nextIH =>
      simp only [Prog.Orderly] at orderly ⊢
      split at orderly
      · exact fun free reply => nextIH reply (orderly free reply)
      · exact ⟨orderly.1, fun reply => nextIH reply (orderly.2 reply)⟩
      · exact fun reply => nextIH reply (orderly reply)
      · exact fun reply => nextIH reply (orderly reply)
      · exact orderly

theorem Prog.Orderly.loosen {loose : Effect → LockUse} {program : Prog Effect Reply α}
    {held : Bool} (loosens : Loosens use loose) (orderly : program.Orderly use rest held) :
    program.Orderly loose rest held := by
  induction program generalizing held with
  | ret value => exact orderly
  | act effect next nextIH =>
      simp only [Prog.Orderly] at orderly
      rcases loosens effect with same | ⟨outside, free⟩
      · simp only [Prog.Orderly, same]
        split at orderly
        · exact fun free reply => nextIH reply (orderly free reply)
        · exact ⟨orderly.1, fun reply => nextIH reply (orderly.2 reply)⟩
        · exact fun reply => nextIH reply (orderly reply)
        · exact fun reply => nextIH reply (orderly reply)
        · exact orderly
      · simp only [outside] at orderly
        simp only [Prog.Orderly, free]
        exact fun reply => nextIH reply (orderly reply)

theorem Prog.Orderly.ite {test : Prop} [Decidable test] {first second : Prog Effect Reply α}
    {held : Bool} (positive : test → first.Orderly use rest held)
    (negative : ¬ test → second.Orderly use rest held) :
    (if test then first else second).Orderly use rest held := by
  split
  · next holds => exact positive holds
  · next fails => exact negative fails

theorem Balanced.orderly {program : Prog Effect Reply α} {held : Bool}
    (balanced : Balanced use (fun _ _ => True) program held) :
    program.Orderly use (fun held => held = false) held := by
  induction program generalizing held with
  | ret value => exact balanced
  | act effect next nextIH =>
      simp only [Balanced] at balanced
      simp only [Prog.Orderly]
      split at balanced
      · exact fun _ reply => nextIH reply (balanced.2 reply trivial)
      · exact ⟨balanced.1, fun reply => nextIH reply (balanced.2 reply trivial)⟩
      · exact fun reply => nextIH reply (balanced.2 reply trivial)
      · exact fun reply => nextIH reply (balanced reply trivial)
      · exact balanced

/-- A program that leaves the mutex alone. -/
theorem Prog.Only.orderly {program : Prog Effect Reply α} {held : Bool}
    (free : program.Only fun effect => use effect = .free) (rests : rest held) :
    program.Orderly use rest held := by
  induction program with
  | ret value => exact rests
  | act effect next nextIH =>
      simp only [Prog.Orderly, free.1]
      exact fun reply => nextIH reply (free.2 reply)

/-- A program that locks before it unlocks does so with the mutex in hand, too. -/
theorem Prog.Orderly.holding {program : Prog Effect Reply α}
    (orderly : program.Orderly use (fun _ => True) false) :
    program.Orderly use (fun _ => True) true := by
  induction program with
  | ret value => trivial
  | act effect next nextIH =>
      simp only [Prog.Orderly] at orderly ⊢
      split at orderly
      · exact fun held => absurd held.symm Bool.false_ne_true
      · exact absurd orderly.1 Bool.false_ne_true
      · exact fun reply => nextIH reply (orderly reply)
      · exact fun reply => nextIH reply (orderly reply)
      · exact orderly

end Orderly

section OrderlyThreads

variable {machine : Machine Tid State Effect Reply Job Result External}
  {owner : State → Option Tid} {use : Job → Effect → LockUse} {rest : Bool → Prop}
  {condition : Condition Tid State Effect Job} [DecidableEq Tid]

/-- The rest of the thread's call is orderly from what the thread holds. -/
def Rests (owner : State → Option Tid) (use : Job → Effect → LockUse) (rest : Bool → Prop)
    (thread : Tid) (state : State) : Option (Call State Effect Reply Job Result) → Prop
  | none => rest (decide (owner state = some thread))
  | some call => call.prog.Orderly (use call.job) rest (decide (owner state = some thread))

theorem Mutex.rests (mutex : Mutex machine owner use) (free : rest false)
    (bodies : ∀ job held, rest held → (machine.body job).Orderly (use job) rest held)
    {config : Config Tid State Effect Reply Job Result}
    (reachable : machine.Reachable condition config) (thread : Tid) :
    Rests owner use rest thread config.state (config.calls thread) := by
  induction reachable generalizing thread with
  | start => simpa [Machine.initial, Rests, mutex.start] using free
  | @step config next label _ _ stepped stepIH =>
      rcases Machine.step_cases stepped with
        ⟨actor, job, last, rfl, idle, -, rfl⟩ |
        ⟨actor, job, entry, past, effect, continuation, reply, state, rfl, calls, executed, rfl⟩ |
        ⟨event, state, rfl, changed, rfl⟩
      · by_cases same : thread = actor
        · subst same
          rw [Config.put_calls_self]
          refine bodies job _ ?_
          have kept := stepIH thread
          rcases Config.idle?_cases idle with ⟨none, -⟩ | ⟨call, value, some, returned, -⟩
          · rw [none] at kept
            exact kept
          · rw [some, Rests, returned] at kept
            exact kept
        · rw [Config.put_calls_other _ _ _ _ same]
          exact stepIH thread
      · have acting := stepIH actor
        rw [calls] at acting
        have orderly : (Prog.act effect continuation).Orderly (use job) rest
          (decide (owner config.state = some actor)) := acting
        -- The step of the actor, and what it leaves to every other thread.
        have moved : (continuation reply).Orderly (use job) rest
              (decide (owner state = some actor)) ∧
            ∀ other, other ≠ actor →
              decide (owner state = some other) = decide (owner config.state = some other) := by
          simp only [Prog.Orderly] at orderly
          cases used : use job effect with
          | acquires =>
              obtain ⟨none, taken⟩ := mutex.acquires used executed
              simp only [used, none] at orderly
              refine ⟨?_, fun other different => ?_⟩
              · simpa [taken] using orderly (by simp) reply
              · simp [none, taken, Ne.symm different]
          | releases =>
              simp only [used, decide_eq_true_eq] at orderly
              have gone := mutex.releases used executed
              refine ⟨?_, fun other different => ?_⟩
              · simpa [gone] using orderly.2 reply
              · simp [gone, orderly.1, Ne.symm different]
          | outside =>
              simp only [used] at orderly
              have same := mutex.keeps (.inl used) executed
              rw [same]
              exact ⟨orderly reply, fun _ _ => rfl⟩
          | free =>
              simp only [used] at orderly
              have same := mutex.keeps (.inr used) executed
              rw [same]
              exact ⟨orderly reply, fun _ _ => rfl⟩
          | forbidden => simp only [used] at orderly
        by_cases same : thread = actor
        · subst same
          rw [Config.put_calls_self]
          exact moved.1
        · rw [Config.put_calls_other _ _ _ _ same]
          have kept := stepIH thread
          unfold Rests at kept ⊢
          rw [Config.put_state, moved.2 thread same]
          exact kept
      · have same := mutex.external changed
        have kept := stepIH thread
        unfold Rests at kept ⊢
        rw [same]
        exact kept

variable (mutex : Mutex machine owner use) (free : rest false)
  (bodies : ∀ job held, rest held → (machine.body job).Orderly (use job) rest held)
  {config : Config Tid State Effect Reply Job Result}
  (reachable : machine.Reachable condition config)
include mutex free bodies reachable

/-- Only its owner releases the mutex. -/
theorem Mutex.owner_of_releases {thread : Tid} {call : Call State Effect Reply Job Result}
    {effect : Effect} (calls : config.calls thread = some call) (standing : call.Next effect)
    (used : use call.job effect = .releases) : owner config.state = some thread := by
  have kept := mutex.rests free bodies reachable thread
  obtain ⟨continuation, program⟩ := standing
  rw [calls, Rests, program] at kept
  simp only [Prog.Orderly, used, decide_eq_true_eq] at kept
  exact kept.1

/-- What the other threads do leaves the owner the owner. -/
theorem Mutex.owned_by_thread {thread other : Tid} {call : Call State Effect Reply Job Result}
    {effect : Effect} {reply : Reply effect} {after : State} (different : other ≠ thread)
    (calls : config.calls other = some call) (standing : call.Next effect)
    (executed : machine.exec other effect config.state = some (reply, after)) :
    owner after = some thread ↔ owner config.state = some thread := by
  cases used : use call.job effect with
  | acquires =>
      obtain ⟨none, taken⟩ := mutex.acquires used executed
      simp [none, taken, different]
  | releases =>
      have owns := mutex.owner_of_releases free bodies reachable calls standing used
      simp [mutex.releases used executed, owns, different]
  | outside => rw [mutex.keeps (.inl used) executed]
  | free => rw [mutex.keeps (.inr used) executed]
  | forbidden =>
      have kept := mutex.rests free bodies reachable other
      obtain ⟨continuation, program⟩ := standing
      rw [calls, Rests, program] at kept
      simp only [Prog.Orderly, used] at kept

/-- A thread all of whose jobs are balanced is so in every run. -/
theorem Mutex.balanced_thread {thread : Tid}
    (balanced : ∀ {last job state}, machine.admits thread last state job = true →
      Balanced (use job) (fun _ _ => True) (machine.body job) false) :
    match config.calls thread with
      | none => owner config.state ≠ some thread
      | some call => Balanced (use call.job) (fun _ _ => True) call.prog
          (decide (owner config.state = some thread)) := by
  induction reachable with
  | start => simp [Machine.initial, mutex.start]
  | @step config next label reachable _ stepped stepIH =>
      rcases Machine.step_cases stepped with
        ⟨actor, job, last, rfl, idle, admitted, rfl⟩ |
        ⟨actor, job, entry, past, effect, continuation, reply, state, rfl, calls, executed, rfl⟩ |
        ⟨event, state, rfl, changed, rfl⟩
      · by_cases same : thread = actor
        · subst same
          rw [Config.put_calls_self, Config.put_state]
          have outside : decide (owner config.state = some thread) = false := by
            rcases Config.idle?_cases idle with ⟨none, -⟩ | ⟨call, value, some, returned, -⟩
            · rw [none] at stepIH
              exact decide_eq_false stepIH
            · simp only [some, returned] at stepIH
              exact stepIH
          simp only [outside]
          exact balanced admitted
        · rw [Config.put_calls_other _ _ _ _ same, Config.put_state]
          exact stepIH
      · by_cases same : thread = actor
        · subst same
          rw [Config.put_calls_self, Config.put_state]
          simp only [calls, Balanced] at stepIH
          cases used : use job effect with
          | acquires =>
              simp only [used] at stepIH
              simpa only [(mutex.acquires used executed).2, decide_true]
                using stepIH.2 reply trivial
          | releases =>
              simp only [used] at stepIH
              simpa [mutex.releases used executed] using stepIH.2 reply trivial
          | outside =>
              simp only [used] at stepIH
              simpa only [mutex.keeps (.inl used) executed] using stepIH.2 reply trivial
          | free =>
              simp only [used] at stepIH
              simpa only [mutex.keeps (.inr used) executed] using stepIH reply trivial
          | forbidden => simp only [used] at stepIH
        · rw [Config.put_calls_other _ _ _ _ same, Config.put_state]
          have owned : owner state = some thread ↔ owner config.state = some thread :=
            mutex.owned_by_thread free bodies reachable (Ne.symm same) calls ⟨_, rfl⟩ executed
          cases called : config.calls thread with
          | none =>
              simp only [called] at stepIH
              exact fun owns => stepIH (owned.mp owns)
          | some call =>
              simp only [called] at stepIH
              simpa only [owned] using stepIH
      · have same := mutex.external changed
        cases called : config.calls thread with
        | none =>
            simp only [called] at stepIH
            simpa only [same] using stepIH
        | some call =>
            simp only [called] at stepIH
            simpa only [same] using stepIH

end OrderlyThreads

end LibSp.Concurrent
