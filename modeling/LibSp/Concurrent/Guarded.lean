import LibSp.Concurrent.Mutex

/-!
# A resource that a mutex guards

Some threads use a resource only while they own a mutex, and restore its invariant
before they give the mutex back. The other threads leave the resource alone. Then
the invariant holds unless the owner of the mutex has touched the resource in its call.
-/

set_option autoImplicit false

namespace LibSp.Concurrent

variable {Tid State Effect : Type} {Reply : Effect → Type}
  {Job Result External Resource : Type} {α β : Type}

namespace Prog

section

variable (use : Effect → LockUse) (touches : Effect → Prop)
  (look : (effect : Effect) → Resource → Reply effect → Resource → Prop)
  (inv : Resource → Prop)

/-- The program touches the resource only inside its critical sections, which begin
with the invariant and end with it. `held` is the resource inside of one. A lock by
the owner waits for ever. -/
def Guarded : Prog Effect Reply α → (α → Option Resource → Prop) → Option Resource → Prop
  | .ret value, post, held => post value held
  | .act effect next, post, none =>
      match use effect with
      | .acquires => ∀ reply resource, inv resource →
          (next reply).Guarded post (some resource)
      | .outside | .free => ¬ touches effect ∧ ∀ reply, (next reply).Guarded post none
      | .releases | .forbidden => False
  | .act effect next, post, some resource =>
      match use effect with
      | .acquires => True
      | .releases => inv resource ∧ ∀ reply, (next reply).Guarded post none
      | .outside | .free => ∀ reply after, look effect resource reply after →
          (next reply).Guarded post (some after)
      | .forbidden => False

end

variable {use : Effect → LockUse} {touches : Effect → Prop}
  {look : (effect : Effect) → Resource → Reply effect → Resource → Prop}
  {inv : Resource → Prop} {held : Option Resource}

theorem Guarded.mono {program : Prog Effect Reply α} {first second : α → Option Resource → Prop}
    (implies : ∀ value held, first value held → second value held)
    (guarded : program.Guarded use touches look inv first held) :
    program.Guarded use touches look inv second held := by
  induction program generalizing held with
  | ret value => exact implies value held guarded
  | act effect next nextIH =>
      cases held with
      | none =>
          simp only [Guarded] at guarded ⊢
          split at guarded
          · exact fun reply resource holds => nextIH reply (guarded reply resource holds)
          · exact ⟨guarded.1, fun reply => nextIH reply (guarded.2 reply)⟩
          · exact ⟨guarded.1, fun reply => nextIH reply (guarded.2 reply)⟩
          · exact guarded
          · exact guarded
      | some resource =>
          simp only [Guarded] at guarded ⊢
          split at guarded
          · trivial
          · exact ⟨guarded.1, fun reply => nextIH reply (guarded.2 reply)⟩
          · exact fun reply after looked => nextIH reply (guarded reply after looked)
          · exact fun reply after looked => nextIH reply (guarded reply after looked)
          · exact guarded

theorem Guarded.bind {program : Prog Effect Reply α} {rest : α → Prog Effect Reply β}
    {middle : α → Option Resource → Prop} {post : β → Option Resource → Prop}
    (first : program.Guarded use touches look inv middle held)
    (second : ∀ value held, middle value held →
      (rest value).Guarded use touches look inv post held) :
    (program >>= rest).Guarded use touches look inv post held := by
  induction program generalizing held with
  | ret value => exact second value held first
  | act effect next nextIH =>
      cases held with
      | none =>
          simp only [act_bind, Guarded] at first ⊢
          split at first
          · exact fun reply resource holds => nextIH reply (first reply resource holds)
          · exact ⟨first.1, fun reply => nextIH reply (first.2 reply)⟩
          · exact ⟨first.1, fun reply => nextIH reply (first.2 reply)⟩
          · exact first
          · exact first
      | some resource =>
          simp only [act_bind, Guarded] at first ⊢
          split at first
          · trivial
          · exact ⟨first.1, fun reply => nextIH reply (first.2 reply)⟩
          · exact fun reply after looked => nextIH reply (first reply after looked)
          · exact fun reply after looked => nextIH reply (first reply after looked)
          · exact first

theorem Guarded.ite {test : Prop} [Decidable test] {first second : Prog Effect Reply α}
    {post : α → Option Resource → Prop}
    (positive : test → first.Guarded use touches look inv post held)
    (negative : ¬ test → second.Guarded use touches look inv post held) :
    (if test then first else second).Guarded use touches look inv post held := by
  split
  · next holds => exact positive holds
  · next fails => exact negative fails

/-- A program that leaves both the mutex and the resource alone. -/
theorem Guarded.of_only {program : Prog Effect Reply α} {allowed : Effect → Prop}
    (free : ∀ effect, allowed effect → use effect = .free)
    (spares : ∀ effect, allowed effect → ¬ touches effect)
    (keeps : ∀ effect resource reply after, allowed effect → look effect resource reply after →
      after = resource)
    (only : program.Only allowed) :
    program.Guarded use touches look inv (fun _ now => now = held) held := by
  induction program with
  | ret value => exact rfl
  | act effect next nextIH =>
      cases held with
      | none =>
          simp only [Guarded, free effect only.1]
          exact ⟨spares effect only.1, fun reply => nextIH reply (only.2 reply)⟩
      | some resource =>
          simp only [Guarded, free effect only.1]
          intro reply after looked
          rw [keeps effect resource reply after only.1 looked]
          exact nextIH reply (only.2 reply)

end Prog

section

variable [DecidableEq Tid]

/-- The `members` guard the resource by the mutex, and the other threads leave it alone. -/
structure Guard (machine : Machine Tid State Effect Reply Job Result External)
    (condition : Condition Tid State Effect Job) (owner : State → Option Tid)
    (use : Job → Effect → LockUse) (members : Tid → Prop) (resource : State → Resource)
    (touches : Effect → Prop)
    (look : (effect : Effect) → Resource → Reply effect → Resource → Prop)
    (inv : Resource → Prop) : Prop where
  mutex : Mutex machine owner use
  allowed : ∀ job effect, use job effect ≠ .forbidden
  start : inv (resource machine.start)
  locks : ∀ {thread job effect state reply after},
    use job effect = .acquires ∨ use job effect = .releases →
    machine.exec thread effect state = some (reply, after) → resource after = resource state
  spares : ∀ {thread effect state reply after}, members thread → ¬ touches effect →
    machine.exec thread effect state = some (reply, after) → resource after = resource state
  looks : ∀ {config thread effect reply after}, machine.Reachable condition config →
    members thread → machine.exec thread effect config.state = some (reply, after) →
    look effect (resource config.state) reply (resource after)
  releases : ∀ {config thread call effect}, machine.Reachable condition config →
    ¬ members thread → config.calls thread = some call → call.Next effect →
    use call.job effect = .releases → owner config.state = some thread
  others : ∀ {config thread call effect reply after}, machine.Reachable condition config →
    ¬ members thread → config.calls thread = some call → call.Next effect →
    machine.exec thread effect config.state = some (reply, after) →
    resource after = resource config.state
  external : ∀ {event state after}, machine.external event state = some after →
    resource after = resource state
  bodies : ∀ {thread last job state}, members thread →
    machine.admits thread last state job = true →
    (machine.body job).Guarded (use job) touches look inv (fun _ held => held = none) none

end

section Sound

variable {machine : Machine Tid State Effect Reply Job Result External}
  {condition : Condition Tid State Effect Job} {owner : State → Option Tid}
  {use : Job → Effect → LockUse} {members : Tid → Prop} {resource : State → Resource}
  {touches : Effect → Prop} {look : (effect : Effect) → Resource → Reply effect → Resource → Prop}
  {inv : Resource → Prop} [DecidableEq Tid]

/-- The resource in the hands of the thread, if it owns the mutex. -/
def holding (owner : State → Option Tid) (resource : State → Resource) (thread : Tid)
    (state : State) : Option Resource :=
  if owner state = some thread then some (resource state) else none

/-- What the rest of a member's call does. -/
def Guarding (use : Job → Effect → LockUse) (touches : Effect → Prop)
    (look : (effect : Effect) → Resource → Reply effect → Resource → Prop)
    (inv : Resource → Prop) (held : Option Resource) :
    Option (Call State Effect Reply Job Result) → Prop
  | none => held = none
  | some call => call.prog.Guarded (use call.job) touches look inv (fun _ held => held = none) held

/-- What a step does to the resource in the hands of a thread that takes no part in it. -/
private theorem holding_other {thread : Tid} {state after : State}
    (owns : owner after = some thread ↔ owner state = some thread)
    (same : owner state = some thread → resource after = resource state) :
    holding owner resource thread after = holding owner resource thread state := by
  unfold holding
  by_cases owned : owner state = some thread
  · rw [if_pos (owns.mpr owned), if_pos owned, same owned]
  · rw [if_neg (mt owns.mp owned), if_neg owned]

/-- What a member's effect leaves to the member, to the others and of the invariant. -/
private theorem member_act
    (guard : Guard machine condition owner use members resource touches look inv)
    {config : Config Tid State Effect Reply Job Result}
    (reachable : machine.Reachable condition config)
    (restored : (∀ thread, members thread → owner config.state ≠ some thread) →
      inv (resource config.state))
    {thread : Tid} (member : members thread) {job : Job} {effect : Effect}
    {rest : Reply effect → Prog Effect Reply Result} {reply : Reply effect} {state : State}
    (guarded : (Prog.act effect rest).Guarded (use job) touches look inv
      (fun _ held => held = none) (holding owner resource thread config.state))
    (executed : machine.exec thread effect config.state = some (reply, state)) :
    (rest reply).Guarded (use job) touches look inv (fun _ held => held = none)
        (holding owner resource thread state) ∧
      (∀ other, other ≠ thread → holding owner resource other state =
        holding owner resource other config.state) ∧
      ((∀ thread, members thread → owner state ≠ some thread) → inv (resource state)) := by
  cases used : use job effect with
  | forbidden => exact absurd used (guard.allowed job effect)
  | acquires =>
      obtain ⟨free, taken⟩ := guard.mutex.acquires used executed
      have same := guard.locks (.inl used) executed
      have holds := restored fun other _ => by simp [free]
      refine ⟨?_, fun other different => ?_, fun nobody => absurd taken (nobody thread member)⟩
      · have outside : holding owner resource thread config.state = none := by
          simp [holding, free]
        simp only [outside, Prog.Guarded, used] at guarded
        simp only [holding, taken, same, if_true]
        exact guarded reply _ holds
      · simp [holding, free, taken, Ne.symm different]
  | releases =>
      have gone := guard.mutex.releases used executed
      have same := guard.locks (.inr used) executed
      by_cases owns : owner config.state = some thread
      · simp only [holding, owns, if_true, Prog.Guarded, used] at guarded
        refine ⟨?_, fun other different => ?_, fun _ => same ▸ guarded.1⟩
        · simpa [holding, gone] using guarded.2 reply
        · simp [holding, gone, owns, Ne.symm different]
      · simp only [holding, owns, if_false, Prog.Guarded, used] at guarded
  | outside | free =>
      have spared : use job effect = .outside ∨ use job effect = .free := by simp [used]
      have kept : owner state = owner config.state := guard.mutex.keeps spared executed
      by_cases owns : owner config.state = some thread
      · simp only [holding, owns, if_true, Prog.Guarded, used] at guarded
        refine ⟨?_, fun other different => ?_, fun nobody => absurd (kept.trans owns)
          (nobody thread member)⟩
        · simp only [holding, kept, owns, if_true]
          exact guarded reply _ (guard.looks reachable member executed)
        · simp [holding, kept, owns, Ne.symm different]
      · simp only [holding, owns, if_false, Prog.Guarded, used] at guarded
        have same := guard.spares member guarded.1 executed
        refine ⟨?_, fun other _ => holding_other (by rw [kept]) fun _ => same, fun nobody => ?_⟩
        · simp only [holding, kept, owns, if_false]
          exact guarded.2 reply
        · rw [same]
          exact restored fun other member => kept ▸ nobody other member

/-- The effect of another thread leaves the resource, and the mutex to its member. -/
private theorem other_act
    (guard : Guard machine condition owner use members resource touches look inv)
    {config : Config Tid State Effect Reply Job Result}
    (reachable : machine.Reachable condition config) {thread : Tid} (outsider : ¬ members thread)
    {call : Call State Effect Reply Job Result} {effect : Effect} {reply : Reply effect}
    {state : State} (calls : config.calls thread = some call) (standing : call.Next effect)
    (executed : machine.exec thread effect config.state = some (reply, state)) :
    resource state = resource config.state ∧
      ∀ member, members member →
        (owner state = some member ↔ owner config.state = some member) := by
  refine ⟨guard.others reachable outsider calls standing executed, fun member isMember => ?_⟩
  have different : thread ≠ member := by
    intro same
    subst same
    exact outsider isMember
  cases used : use call.job effect with
  | forbidden => exact absurd used (guard.allowed call.job effect)
  | acquires =>
      obtain ⟨free, taken⟩ := guard.mutex.acquires used executed
      simp [free, taken, different]
  | releases =>
      have owns := guard.releases reachable outsider calls standing used
      simp [guard.mutex.releases used executed, owns, different]
  | outside => rw [guard.mutex.keeps (.inl used) executed]
  | free => rw [guard.mutex.keeps (.inr used) executed]

theorem Guard.sound (guard : Guard machine condition owner use members resource touches look inv)
    {config : Config Tid State Effect Reply Job Result}
    (reachable : machine.Reachable condition config) :
    (∀ thread, members thread → Guarding use touches look inv
      (holding owner resource thread config.state) (config.calls thread)) ∧
    ((∀ thread, members thread → owner config.state ≠ some thread) →
      inv (resource config.state)) := by
  induction reachable with
  | start =>
      refine ⟨fun thread _ => ?_, fun _ => guard.start⟩
      simp [Machine.initial, Guarding, holding, guard.mutex.start]
  | @step config next label reachable _ stepped stepIH =>
      obtain ⟨kept, restored⟩ := stepIH
      rcases Machine.step_cases stepped with
        ⟨actor, job, last, rfl, idle, admitted, rfl⟩ |
        ⟨actor, job, entry, past, effect, rest, reply, state, rfl, calls, executed, rfl⟩ |
        ⟨event, state, rfl, changed, rfl⟩
      · refine ⟨fun thread member => ?_, restored⟩
        by_cases same : thread = actor
        · subst same
          rw [Config.put_calls_self, Config.put_state]
          have outside : holding owner resource thread config.state = none := by
            have mine := kept thread member
            rcases Config.idle?_cases idle with ⟨none, -⟩ | ⟨call, value, some, returned, -⟩
            · rw [none] at mine
              exact mine
            · rw [some, Guarding, returned] at mine
              exact mine
          rw [outside]
          exact guard.bodies member admitted
        · rw [Config.put_calls_other _ _ _ _ same]
          exact kept thread member
      · by_cases member : members actor
        · have mine := kept actor member
          rw [calls] at mine
          obtain ⟨continued, others, holds⟩ :=
            member_act guard reachable restored member mine executed
          refine ⟨fun thread isMember => ?_, holds⟩
          by_cases same : thread = actor
          · subst same
            rw [Config.put_calls_self]
            exact continued
          · rw [Config.put_calls_other _ _ _ _ same, Config.put_state, others thread same]
            exact kept thread isMember
        · obtain ⟨same, owns⟩ := other_act guard reachable member calls ⟨rest, rfl⟩ executed
          refine ⟨fun thread isMember => ?_, fun nobody => ?_⟩
          · have different : thread ≠ actor := by
              intro same
              subst same
              exact member isMember
            rw [Config.put_calls_other _ _ _ _ different, Config.put_state,
              holding_other (owns thread isMember) fun _ => same]
            exact kept thread isMember
          · rw [Config.put_state, same]
            exact restored fun thread isMember =>
              mt (owns thread isMember).mpr (nobody thread isMember)
      · have same := guard.external changed
        have owner := guard.mutex.external changed
        refine ⟨fun thread member => ?_, fun nobody => ?_⟩
        · have kept := kept thread member
          rw [← holding_other (by rw [owner]) fun _ => same] at kept
          exact kept
        · rw [same]
          exact restored fun thread member => owner ▸ nobody thread member

/-- The thread has touched the resource in its call. -/
def Touched (touches : Effect → Prop) (config : Config Tid State Effect Reply Job Result)
    (thread : Tid) : Prop :=
  ∃ call effect, config.calls thread = some call ∧ effect ∈ call.past ∧ touches effect

theorem Touched.act {config : Config Tid State Effect Reply Job Result} {thread : Tid} {job : Job}
    {entry state : State} {past : List Effect} {effect : Effect}
    {rest : Reply effect → Prog Effect Reply Result} {reply : Reply effect}
    (touched : Touched touches config thread)
    (calls : config.calls thread = some ⟨job, entry, past, .act effect rest⟩) :
    Touched touches (config.put thread ⟨job, entry, effect :: past, rest reply⟩ state) thread := by
  obtain ⟨call, earlier, called, member, touching⟩ := touched
  rw [calls] at called
  cases called
  exact ⟨_, earlier, Config.put_calls_self _ _ _ _, List.mem_cons_of_mem _ member, touching⟩

theorem Touched.put_other {config : Config Tid State Effect Reply Job Result} {thread other : Tid}
    {call : Call State Effect Reply Job Result} {state : State} (different : other ≠ thread)
    (touched : Touched touches config other) :
    Touched touches (config.put thread call state) other := by
  obtain ⟨called, effect, calls, member, touching⟩ := touched
  exact ⟨called, effect, (Config.put_calls_other _ _ _ _ different).trans calls, member, touching⟩

/-- While a member owns the mutex, the effects of the other threads leave the resource. -/
private theorem Guard.owned_before
    (guard : Guard machine condition owner use members resource touches look inv)
    {config : Config Tid State Effect Reply Job Result}
    (reachable : machine.Reachable condition config) {thread actor : Tid}
    (different : thread ≠ actor) (member : members thread) {job : Job} {entry : State}
    {past : List Effect} {effect : Effect} {rest : Reply effect → Prog Effect Reply Result}
    {reply : Reply effect} {state : State}
    (calls : config.calls actor = some ⟨job, entry, past, .act effect rest⟩)
    (executed : machine.exec actor effect config.state = some (reply, state))
    (owns : owner state = some thread) :
    owner config.state = some thread ∧ resource state = resource config.state := by
  obtain ⟨kept, restored⟩ := guard.sound reachable
  by_cases acting : members actor
  · have guarded := kept actor acting
    rw [calls] at guarded
    have unchanged := (member_act guard reachable restored acting guarded executed).2.1 thread
      different
    by_cases before : owner config.state = some thread
    · simp only [holding, owns, before, if_true, Option.some.injEq] at unchanged
      exact ⟨before, unchanged⟩
    · simp only [holding, owns, before, if_true, if_false] at unchanged
      cases unchanged
  · obtain ⟨same, owners⟩ := other_act guard reachable acting calls ⟨rest, rfl⟩ executed
    exact ⟨(owners thread member).mp owns, same⟩

/-- Whenever no member that owns the mutex has touched the resource in its call, the
invariant of the resource holds. -/
theorem Guard.inv_of_untouched
    (guard : Guard machine condition owner use members resource touches look inv)
    {config : Config Tid State Effect Reply Job Result}
    (reachable : machine.Reachable condition config)
    (untouched : ∀ thread, members thread → owner config.state = some thread →
      ¬ Touched touches config thread) :
    inv (resource config.state) := by
  by_cases owned : ∃ thread, members thread ∧ owner config.state = some thread
  case neg =>
    exact (guard.sound reachable).2 fun thread member owns => owned ⟨thread, member, owns⟩
  obtain ⟨thread, member, owns⟩ := owned
  suffices either : Touched touches config thread ∨ inv (resource config.state) from
    either.resolve_left (untouched thread member owns)
  clear untouched
  induction reachable with
  | start =>
      rw [Machine.initial, guard.mutex.start] at owns
      cases owns
  | @step config next label reachable _ stepped stepIH =>
      have kept := (guard.sound reachable).1
      rcases Machine.step_cases stepped with
        ⟨actor, job, last, rfl, idle, admitted, rfl⟩ |
        ⟨actor, job, entry, past, effect, rest, reply, state, rfl, calls, executed, rfl⟩ |
        ⟨event, state, rfl, changed, rfl⟩
      · have owned : owner config.state = some thread := owns
        have busy : thread ≠ actor := by
          intro same
          subst same
          have mine := kept thread member
          rw [holding, if_pos owned] at mine
          rcases Config.idle?_cases idle with ⟨none, -⟩ | ⟨call, value, some, returned, -⟩
          · rw [none] at mine
            cases mine
          · rw [some, Guarding, returned] at mine
            cases mine
        exact (stepIH owned).imp_left (Touched.put_other busy)
      · by_cases mine : thread = actor
        · subst mine
          have now : owner state = some thread := owns
          cases used : use job effect with
          | forbidden => exact absurd used (guard.allowed job effect)
          | acquires =>
              obtain ⟨free, -⟩ := guard.mutex.acquires used executed
              refine .inr ?_
              rw [Config.put_state, guard.locks (.inl used) executed]
              exact (guard.sound reachable).2 fun other _ => by simp [free]
          | releases =>
              rw [guard.mutex.releases used executed] at now
              cases now
          | outside | free =>
              have spared : use job effect = .outside ∨ use job effect = .free := by simp [used]
              have before : owner config.state = some thread :=
                (guard.mutex.keeps spared executed).symm.trans now
              by_cases touching : touches effect
              · exact .inl ⟨_, effect, Config.put_calls_self _ _ _ _, List.mem_cons_self, touching⟩
              · refine (stepIH before).imp (fun touched => touched.act calls) fun holds => ?_
                rw [Config.put_state, guard.spares member touching executed]
                exact holds
        · obtain ⟨before, same⟩ :=
            guard.owned_before reachable mine member calls executed owns
          refine (stepIH before).imp (Touched.put_other mine) fun holds => ?_
          rw [Config.put_state, same]
          exact holds
      · have before : owner config.state = some thread := guard.mutex.external changed ▸ owns
        refine (stepIH before).imp_right fun holds => ?_
        rw [guard.external changed]
        exact holds

end Sound

end LibSp.Concurrent
