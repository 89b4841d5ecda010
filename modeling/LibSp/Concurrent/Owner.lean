import LibSp.Concurrent.Contract

/-!
# Threads that own a part of the state

When no other thread changes a part of the state, its owner's program can be
followed on that part as if it ran alone: `OwnerSafe` quantifies over the rest of
the state and keeps only the invariant of it.
-/

set_option autoImplicit false

namespace LibSp.Concurrent

variable {Tid State Effect : Type} {Reply : Effect → Type} {Job Result External Own : Type}
  {α β : Type}

def OwnerSafe (machine : Machine Tid State Effect Reply Job Result External)
    (condition : Condition Tid State Effect Job) (rules : Rules Tid State Effect Job Result)
    (own : State → Own) (thread : Tid) (job : Job) (program : Prog Effect Reply α)
    (post : α → Own → Prop) (owned : Own) : Prop :=
  ∀ state, rules.inv state → own state = owned →
    Safe machine condition rules thread job program (fun value now => post value (own now)) state

namespace OwnerSafe

variable {machine : Machine Tid State Effect Reply Job Result External}
  {condition : Condition Tid State Effect Job} {rules : Rules Tid State Effect Job Result}
  {own : State → Own} {thread : Tid} {job : Job} {owned : Own}

theorem mono {program : Prog Effect Reply α} {first second : α → Own → Prop}
    (implies : ∀ value after, first value after → second value after)
    (safe : OwnerSafe machine condition rules own thread job program first owned) :
    OwnerSafe machine condition rules own thread job program second owned :=
  fun state invariant owns =>
    (safe state invariant owns).mono fun value now _ => implies value (own now)

section

variable (owner : ∀ before after, rules.rely thread before after → own after = own before)
include owner

theorem ret {value : α} {post : α → Own → Prop} (holds : post value owned) :
    OwnerSafe machine condition rules own thread job
      (Prog.ret value : Prog Effect Reply α) post owned := by
  rintro state - rfl now relied -
  rw [owner state now relied]
  exact holds

/-- One effect of the owner, from any state that agrees on the owned part. -/
theorem act {effect : Effect} {next : Reply effect → Prog Effect Reply α} {post : α → Own → Prop}
    (effectSafe : ∀ now, rules.inv now → own now = owned →
      rules.point thread job effect now ∧
      ∀ reply after, condition.acts thread job effect now = true →
        machine.exec thread effect now = some (reply, after) →
        rules.inv after ∧ (∀ other, other ≠ thread → rules.rely other now after) ∧
        OwnerSafe machine condition rules own thread job (next reply) post (own after)) :
    OwnerSafe machine condition rules own thread job (.act effect next) post owned := by
  rintro state - owns now relied invNow
  have still : own now = owned := (owner state now relied).trans owns
  obtain ⟨pointed, continued⟩ := effectSafe now invNow still
  refine ⟨pointed, fun reply after permitted executed => ?_⟩
  obtain ⟨invAfter, guaranteed, rest⟩ := continued reply after permitted executed
  exact ⟨invAfter, guaranteed, rest after invAfter rfl⟩

theorem of_only {allowed : Effect → Prop} {program : Prog Effect Reply α}
    (keeps : ∀ effect, allowed effect → ∀ now, rules.inv now → own now = owned →
      rules.point thread job effect now ∧
      ∀ reply after, machine.exec thread effect now = some (reply, after) →
        rules.inv after ∧ (∀ other, other ≠ thread → rules.rely other now after) ∧
        own after = owned)
    (only : program.Only allowed) :
    OwnerSafe machine condition rules own thread job program (fun _ after => after = owned)
      owned := by
  induction program with
  | ret value => exact ret owner rfl
  | act effect next nextIH =>
      refine act owner fun now invNow owns => ?_
      obtain ⟨pointed, executes⟩ := keeps effect only.1 now invNow owns
      refine ⟨pointed, fun reply after _ executed => ?_⟩
      obtain ⟨invAfter, guaranteed, same⟩ := executes reply after executed
      rw [same]
      exact ⟨invAfter, guaranteed, nextIH reply (only.2 reply)⟩

end

/-- What holds of a part of the owned state holds of the whole. -/
theorem of_part {Part : Type} {part : Own → Part} {program : Prog Effect Reply α}
    {post : α → Part → Prop}
    (safe : OwnerSafe machine condition rules (fun state => part (own state)) thread job program
      post (part owned)) :
    OwnerSafe machine condition rules own thread job program
      (fun value after => post value (part after)) owned :=
  fun state invariant owns => safe state invariant (congrArg part owns)

theorem bind {program : Prog Effect Reply α} {rest : α → Prog Effect Reply β}
    {middle : α → Own → Prop} {post : β → Own → Prop}
    (refl : ∀ state, rules.rely thread state state)
    (first : OwnerSafe machine condition rules own thread job program middle owned)
    (second : ∀ value after, middle value after →
      OwnerSafe machine condition rules own thread job (rest value) post after) :
    OwnerSafe machine condition rules own thread job (program >>= rest) post owned := by
  intro state invariant owns
  refine Safe.bind refl invariant ((first state invariant owns).mono fun value now invNow holds => ?_)
  exact second value (own now) holds now invNow rfl

theorem ite {test : Prop} [Decidable test] {first second : Prog Effect Reply α}
    {post : α → Own → Prop}
    (positive : test → OwnerSafe machine condition rules own thread job first post owned)
    (negative : ¬ test → OwnerSafe machine condition rules own thread job second post owned) :
    OwnerSafe machine condition rules own thread job (if test then first else second) post
      owned := by
  split
  · next holds => exact positive holds
  · next fails => exact negative fails

end OwnerSafe

end LibSp.Concurrent
