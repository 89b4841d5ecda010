import LibSp.Concurrent.Turns

/-!
# Passing data on to a registered pointer

Some calls store a pointer and go on record when they return. Others take data from
outside, load the pointer and pass the data on to it. The data goes to the pointer
latest on record if no registration falls between the taking and the loading.
-/

set_option autoImplicit false

namespace LibSp.Concurrent

variable {Tid State Effect : Type} {Reply : Effect → Type} {Job Result External Pointer : Type}
  {α β : Type}

/-- The pointer in the object and the one latest on record; which effects store a
pointer, put one on record, load it and pass data on; which jobs relay data, and at
which effects a job relies on the pointer to be the one on record. -/
structure Relay (State Effect : Type) (Reply : Effect → Type) (Job Pointer : Type) where
  stored : State → Option Pointer
  latest : State → Option Pointer
  puts : Effect → Option (Option Pointer)
  records : Effect → Option (Option Pointer)
  load : Effect
  answer : Reply load → Option Pointer
  passes : Effect → Option Pointer
  relays : Job → Bool
  relies : Job → Effect → Bool

/-- The part of the state that registrations change. -/
structure Registered (Pointer : Type) where
  stored : Option Pointer
  latest : Option Pointer

def Registered.Settled (part : Registered Pointer) : Prop := part.stored = part.latest

namespace Relay

variable (relay : Relay State Effect Reply Job Pointer)

def registered (state : State) : Registered Pointer := ⟨relay.stored state, relay.latest state⟩

/-- The record of a call without a pointer. -/
def voids (effect : Effect) : Bool :=
  match relay.records effect with
  | some none => true
  | _ => false

def alters (effect : Effect) : Bool := (relay.puts effect).isSome || (relay.records effect).isSome

/-- A call has its turn from its storing of the pointer on. -/
def turns : Turns Job Effect where
  enters _ effect := (relay.puts effect).isSome || relay.voids effect
  alone _ := true

def look (effect : Effect) (part : Registered Pointer) (_ : Reply effect)
    (after : Registered Pointer) : Prop :=
  after.stored = (relay.puts effect).getD part.stored ∧
    after.latest = (relay.records effect).getD part.latest ∧
    (relay.voids effect = true → part.stored = none)

/-- A call goes on record without a pointer only where the record is right. -/
def point (effect : Effect) (part : Registered Pointer) : Prop :=
  relay.voids effect = true → part.Settled

abbrev AloneIn (program : Prog Effect Reply α) (post : α → Registered Pointer → Prop)
    (part : Registered Pointer) : Prop :=
  program.Alone relay.look relay.point post part

/-- The program does not load the pointer, and passes data on to this one only. -/
def Hands (pointer : Option Pointer) (program : Prog Effect Reply α) : Prop :=
  program.Only fun effect => effect ≠ relay.load ∧
    ∀ receiver, relay.passes effect = some receiver → pointer = some receiver

/-- The program passes nothing on, or first loads the pointer and uses this one. -/
def Fresh (program : Prog Effect Reply α) : Prop :=
  relay.Hands none program ∨ ∃ next, program = .act relay.load next ∧
    ∀ reply, relay.Hands (relay.answer reply) (next reply)

/-- Whatever its first effect answers, the program goes on like that. -/
def Taking (program : Prog Effect Reply α) : Prop :=
  ∃ effect next, program = .act effect next ∧ ∀ reply, relay.Fresh (next reply)

variable {relay}

theorem Hands.any {pointer : Option Pointer} {program : Prog Effect Reply α}
    (hands : relay.Hands none program) : relay.Hands pointer program := by
  refine hands.mono fun effect silent => ⟨silent.1, fun receiver passes => ?_⟩
  cases silent.2 receiver passes

theorem Fresh.bind {program : Prog Effect Reply α} {rest : α → Prog Effect Reply β}
    (silent : ∀ value, relay.Hands none (rest value)) (fresh : relay.Fresh program) :
    relay.Fresh (program >>= rest) := by
  rcases fresh with hands | ⟨next, rfl, handing⟩
  · exact .inl (Prog.Only.bind hands silent)
  · exact .inr ⟨_, rfl, fun reply => Prog.Only.bind (handing reply) fun value => (silent value).any⟩

theorem Taking.bind {program : Prog Effect Reply α} {rest : α → Prog Effect Reply β}
    (silent : ∀ value, relay.Hands none (rest value)) (taking : relay.Taking program) :
    relay.Taking (program >>= rest) := by
  obtain ⟨effect, next, rfl, fresh⟩ := taking
  exact ⟨effect, _, rfl, fun reply => (fresh reply).bind silent⟩

theorem Fresh.ite {test : Prop} [Decidable test] {first second : Prog Effect Reply α}
    (positive : test → relay.Fresh first) (negative : ¬ test → relay.Fresh second) :
    relay.Fresh (if test then first else second) := by
  split
  · next holds => exact positive holds
  · next fails => exact negative fails

/-- Programs that neither store a pointer nor go on record. -/
abbrev Registerless (relay : Relay State Effect Reply Job Pointer) (program : Prog Effect Reply α) :
    Prop :=
  program.Only fun effect => relay.alters effect = false

theorem Registerless.entering {job : Job} {inTurn : Prog Effect Reply α → Prop}
    {program : Prog Effect Reply α} (registerless : relay.Registerless program) :
    program.Entering (relay.turns.enters job) (fun effect => !relay.alters effect) inTurn := by
  refine .of_only (registerless.mono fun effect unaltered => ?_)
  obtain ⟨puts, records⟩ : relay.puts effect = none ∧ relay.records effect = none := by
    simpa [alters] using unaltered
  simp [turns, alters, voids, puts, records]

/-- An effect that leaves the pointer and the record alone. -/
theorem aloneIn_skip {effect : Effect} {next : Reply effect → Prog Effect Reply α}
    {post : α → Registered Pointer → Prop} {part : Registered Pointer}
    (unaltered : relay.alters effect = false)
    (continued : ∀ reply, relay.AloneIn (next reply) post part) :
    relay.AloneIn (.act effect next) post part := by
  obtain ⟨puts, records⟩ : relay.puts effect = none ∧ relay.records effect = none := by
    simpa [alters] using unaltered
  refine ⟨fun voids => ?_, fun reply after looked => ?_⟩
  · simp [Relay.voids, records] at voids
  · obtain ⟨stored, latest, -⟩ := looked
    rw [puts] at stored
    rw [records] at latest
    have same : after = part := by
      cases after
      cases part
      cases stored
      cases latest
      rfl
    rw [same]
    exact continued reply

/-! ## Runs in which registrations keep apart -/

variable (relay)

/-- A call goes on record without a pointer only while none is stored. -/
def condition : Condition Tid State Effect Job where
  begins _ _ _ := true
  acts _ _ effect state := !relay.voids effect || (relay.stored state).isNone

/-- Registrations take turns. Where a job relies on the record no registration is under
way, and while a relaying call is about to load the pointer none stores another. -/
structure rule (config : Config Tid State Effect Reply Job Result)
    (label : Label Tid Job External) : Prop where
  within : relay.turns.within relay.condition config label
  relying : ∀ thread call effect, label = .act thread → config.calls thread = some call →
    call.Next effect → relay.relies call.job effect = true →
    ∀ other second, other ≠ thread → config.calls other = some second →
      ¬ second.InTurn relay.turns
  storing : ∀ thread call effect pointer, label = .act thread → config.calls thread = some call →
    call.Next effect → relay.puts effect = some pointer → pointer = relay.stored config.state ∨
    ∀ other second, other ≠ thread → config.calls other = some second →
      relay.relays second.job = true → ¬ second.Next relay.load

/-- What the effects and the jobs of a machine do with the pointer. -/
structure Lawful (machine : Machine Tid State Effect Reply Job Result External) : Prop where
  start : (relay.registered machine.start).Settled
  stored : ∀ {thread effect state reply after},
    machine.exec thread effect state = some (reply, after) →
    relay.stored after = (relay.puts effect).getD (relay.stored state)
  latest : ∀ {thread effect state reply after},
    machine.exec thread effect state = some (reply, after) →
    relay.latest after = (relay.records effect).getD (relay.latest state)
  external : ∀ {event state after}, machine.external event state = some after →
    relay.registered after = relay.registered state
  loaded : ∀ {thread state reply after},
    machine.exec thread relay.load state = some (reply, after) →
    relay.answer reply = relay.stored state
  loadPasses : relay.passes relay.load = none
  passesRelies : ∀ {job effect receiver}, relay.passes effect = some receiver →
    relay.relies job effect = false
  reliesRegisterless : ∀ {thread last state job effect},
    machine.admits thread last state job = true → relay.relies job effect = true →
    relay.Registerless (machine.body job)
  registers : ∀ {thread last state job}, machine.admits thread last state job = true →
    (machine.body job).Entering (relay.turns.enters job) (fun effect => !relay.alters effect)
      fun program => ∀ now : Registered Pointer, now.Settled →
        relay.AloneIn program (fun _ after => after.Settled) now
  relaying : ∀ {thread last state job}, machine.admits thread last state job = true →
    relay.relays job = true → (machine.body job).Entering (relay.relies job)
      (fun effect => (relay.passes effect).isNone) relay.Taking
  silent : ∀ {thread last state job}, machine.admits thread last state job = true →
    relay.relays job = false → (machine.body job).Only fun effect => relay.passes effect = none

end Relay

namespace Relay

variable {relay : Relay State Effect Reply Job Pointer}
  {machine : Machine Tid State Effect Reply Job Result External}

section

variable (lawful : relay.Lawful machine) {state after : State} {thread : Tid} {effect : Effect}
  {reply : Reply effect}
include lawful

theorem Lawful.registered (executed : machine.exec thread effect state = some (reply, after))
    (unaltered : relay.alters effect = false) :
    relay.registered after = relay.registered state := by
  obtain ⟨puts, records⟩ : relay.puts effect = none ∧ relay.records effect = none := by
    simpa [alters] using unaltered
  simp only [Relay.registered, lawful.stored executed, lawful.latest executed, puts, records,
    Option.getD_none]

theorem Lawful.fair : relay.turns.Fair machine relay.condition relay.alters
    (fun effect => !relay.alters effect) (fun _ => relay.registered) Registered.Settled
    (fun _ part now => now = part) relay.look (fun _ => relay.point) (fun _ _ => True) where
  harmless outside := by simpa using outside
  refl _ _ := rfl
  trans early late := late.trans early
  begins _ := lawful.start
  agree settled := settled
  mine {thread job effect state reply after} permitted executed := by
    refine ⟨lawful.stored executed, lawful.latest executed, fun voids => ?_⟩
    have allowed : (!relay.voids effect || (relay.stored state).isNone) = true := permitted
    have empty : relay.stored state = none := by simpa [voids] using allowed
    exact empty
  apart unaltered _ _ executed := lawful.registered executed unaltered
  keeps unaltered settled executed := (lawful.registered executed unaltered).symm ▸ settled
  external changed := lawful.external changed
  rests settled changed := (lawful.external changed).symm ▸ settled
  body admitted := by
    refine (lawful.registers admitted).mono fun program registers now settled => ?_
    have amid := Prog.Amid.of_alone id (fun _ _ same => same) (fun _ _ _ _ looked => looked)
      (registers now settled)
    exact amid.mono fun _ _ settled => ⟨trivial, settled⟩
  shared _ shares := by cases shares

end

variable [DecidableEq Tid] (lawful : relay.Lawful machine)
  {config next later : Config Tid State Effect Reply Job Result} {thread : Tid}
include lawful

/-- A call that relies on the record registers nothing itself. -/
theorem Lawful.registerless_of_relies (reachable : machine.Reachable relay.condition config)
    {call : Call State Effect Reply Job Result} {effect : Effect}
    (calls : config.calls thread = some call) (relies : relay.relies call.job effect = true) :
    relay.Registerless call.prog ∧ ∀ performed ∈ call.past, relay.alters performed = false := by
  have kept : ∀ effect, relay.relies call.job effect = true →
      relay.Registerless call.prog ∧ ∀ performed ∈ call.past, relay.alters performed = false := by
    refine reachable.of_call (fun call => ∀ effect, relay.relies call.job effect = true →
        relay.Registerless call.prog ∧ ∀ performed ∈ call.past, relay.alters performed = false)
      (fun last job state admitted _ effect relies => ?_)
      (fun job entry past effect rest reply kept other relies => ?_) calls
    · exact ⟨lawful.reliesRegisterless admitted relies, fun _ member => nomatch member⟩
    · obtain ⟨registerless, before⟩ := kept other relies
      refine ⟨registerless.2 reply, fun performed member => ?_⟩
      rcases List.mem_cons.mp member with rfl | earlier
      · exact registerless.1
      · exact before performed earlier
  exact kept effect relies

/-- Where a call relies on the record, the pointer stored is the one on record. -/
theorem Lawful.stored_eq_latest (leads : machine.Leads relay.rule machine.initial config)
    {call : Call State Effect Reply Job Result} {effect : Effect}
    (calls : config.calls thread = some call) (standing : call.Next effect)
    (relies : relay.relies call.job effect = true)
    (ruled : relay.rule config (.act thread : Label Tid Job External)) :
    relay.stored config.state = relay.latest config.state := by
  have within : machine.Leads (relay.turns.within relay.condition) machine.initial config :=
    leads.mono fun _ _ ruled => ruled.within
  have reachable : machine.Reachable relay.condition config :=
    within.reachable (fun _ _ ruled => ruled.1) .start
  refine (Turns.kept lawful.fair within).free (fun other second secondCalls inTurn => ?_) thread
  exfalso
  by_cases same : other = thread
  · subst same
    rw [calls] at secondCalls
    cases secondCalls
    obtain ⟨performed, member, entering⟩ := inTurn.1
    have unaltered := (lawful.registerless_of_relies reachable calls relies).2 performed member
    obtain ⟨puts, records⟩ : relay.puts performed = none ∧ relay.records performed = none := by
      simpa [alters] using unaltered
    simp [turns, voids, puts, records] at entering
  · exact ruled.relying thread call effect rfl calls standing relies other second same secondCalls
      inTurn

/-- Once a pointer is on record, one is. -/
theorem Lawful.latest_step (leads : machine.Leads relay.rule machine.initial config)
    {label : Label Tid Job External} (ruled : relay.rule config label)
    (stepped : machine.step config label = some next)
    (known : relay.latest config.state ≠ none) : relay.latest next.state ≠ none := by
  rcases Machine.step_cases stepped with
    ⟨actor, job, last, rfl, idle, admitted, rfl⟩ |
    ⟨actor, job, entry, past, effect, rest, reply, state, rfl, calls, executed, rfl⟩ |
    ⟨event, state, rfl, changed, rfl⟩
  · exact known
  · rw [Config.put_state, lawful.latest executed]
    cases records : relay.records effect with
    | none => exact known
    | some pointer =>
        cases pointer with
        | some pointer => exact Option.some_ne_none pointer
        | none =>
            -- Without a pointer the call only goes on record while none is stored.
            have voids : relay.voids effect = true := by rw [voids, records]
            have within : machine.Leads (relay.turns.within relay.condition) machine.initial config :=
              leads.mono fun _ _ ruled => ruled.within
            have settled : (relay.registered config.state).Settled :=
              Turns.point_of_entering lawful.fair within calls ⟨rest, rfl⟩
                (Bool.or_eq_true_iff.mpr (.inr voids)) ruled.within.2 voids
            have permitted : relay.condition.acts actor job effect config.state = true := by
              have allowed := ruled.within.1
              simpa only [Condition.allows, calls] using allowed
            have empty : relay.stored config.state = none := by
              simpa [condition, voids] using permitted
            exact absurd (settled.symm.trans empty) known
  · have kept : relay.latest state = relay.latest config.state :=
      congrArg Registered.latest (lawful.external changed)
    rw [kept]
    exact known

/-- Where a relaying call stands after it has taken data. -/
def Handing (relay : Relay State Effect Reply Job Pointer) (pointer : Option Pointer)
    (config : Config Tid State Effect Reply Job Result)
    (call : Call State Effect Reply Job Result) : Prop :=
  relay.relays call.job = true ∧
    (relay.Hands pointer call.prog ∨ relay.stored config.state = pointer ∧ ∃ next,
      call.prog = .act relay.load next ∧ ∀ reply, relay.Hands (relay.answer reply) (next reply))

/-- The steps that follow the rule and begin no other job of this thread. -/
def within (relay : Relay State Effect Reply Job Pointer) (thread : Tid) :
    Rule Tid State Effect Reply Job Result External :=
  fun config label => relay.rule config label ∧ ∀ job, label ≠ .begin thread job

/-- A step keeps a relaying call on its way to the pointer that was stored. -/
theorem Lawful.handing_step {pointer : Option Pointer} {label : Label Tid Job External}
    {call : Call State Effect Reply Job Result} (ruled : relay.within thread config label)
    (stepped : machine.step config label = some next) (calls : config.calls thread = some call)
    (handing : Handing relay pointer config call) :
    ∃ second, next.calls thread = some second ∧ Handing relay pointer next second := by
  obtain ⟨relays, going⟩ := handing
  rcases Machine.step_cases stepped with
    ⟨actor, job, last, rfl, idle, admitted, rfl⟩ |
    ⟨actor, job, entry, past, effect, rest, reply, state, rfl, acting, executed, rfl⟩ |
    ⟨event, state, rfl, changed, rfl⟩
  · have different : thread ≠ actor := by
      intro same
      subst same
      exact ruled.2 job rfl
    exact ⟨call, (Config.put_calls_other _ _ _ _ different).trans calls, relays, going⟩
  · by_cases same : thread = actor
    · subst same
      rw [calls] at acting
      cases acting
      refine ⟨_, Config.put_calls_self _ _ _ _, relays, .inl ?_⟩
      rcases going with hands | ⟨stored, continuation, program, handing⟩
      · exact hands.2 reply
      · cases program
        have hands := handing reply
        rw [lawful.loaded executed, stored] at hands
        exact hands
    · refine ⟨call, (Config.put_calls_other _ _ _ _ same).trans calls, relays, ?_⟩
      rcases going with hands | ⟨stored, continuation, program, handing⟩
      · exact .inl hands
      · refine .inr ⟨?_, continuation, program, handing⟩
        rw [Config.put_state, lawful.stored executed]
        cases puts : relay.puts effect with
        | none => exact stored
        | some value =>
            rcases ruled.1.storing actor _ effect value rfl acting ⟨rest, rfl⟩ puts with
              unchanged | nobody
            · exact unchanged.trans stored
            · exact absurd ⟨continuation, program⟩ (nobody thread call same calls relays)
  · refine ⟨call, calls, relays, ?_⟩
    rcases going with hands | ⟨stored, continuation, program, handing⟩
    · exact .inl hands
    · have kept : relay.stored state = relay.stored config.state :=
        congrArg Registered.stored (lawful.external changed)
      exact .inr ⟨kept.trans stored, continuation, program, handing⟩

/-- The call of this thread took its data where this pointer was on record. -/
def Took (relay : Relay State Effect Reply Job Pointer)
    (machine : Machine Tid State Effect Reply Job Result External) (thread : Tid)
    (pointer : Option Pointer) (later : Config Tid State Effect Reply Job Result) : Prop :=
  ∃ config next call taking, machine.Leads relay.rule machine.initial config ∧
    config.calls thread = some call ∧ call.Next taking ∧ relay.relays call.job = true ∧
    relay.relies call.job taking = true ∧ machine.step config (.act thread) = some next ∧
    machine.Leads (relay.within thread) next later ∧ relay.latest config.state = pointer

omit lawful in
theorem Took.step {pointer : Option Pointer} {label : Label Tid Job External}
    (took : relay.Took machine thread pointer config) (ruled : relay.within thread config label)
    (stepped : machine.step config label = some next) : relay.Took machine thread pointer next := by
  obtain ⟨origin, first, call, taking, earlier, calls, standing, relays, relies, taken, since,
    latest⟩ := took
  exact ⟨origin, first, call, taking, earlier, calls, standing, relays, relies, taken,
    .step since ruled stepped, latest⟩

/-- The step by which a call takes its data. -/
theorem Lawful.took_step (leads : machine.Leads relay.rule machine.initial config)
    {job : Job} {entry : State} {past : List Effect} {effect : Effect}
    {rest : Reply effect → Prog Effect Reply Result} {reply : Reply effect} {state : State}
    (ruled : relay.rule config (.act thread : Label Tid Job External))
    (calls : config.calls thread = some ⟨job, entry, past, .act effect rest⟩)
    (relays : relay.relays job = true) (relies : relay.relies job effect = true)
    (fresh : relay.Fresh (rest reply))
    (executed : machine.exec thread effect config.state = some (reply, state)) :
    ∃ pointer,
      relay.Took machine thread pointer (config.put thread ⟨job, entry, effect :: past, rest reply⟩
        state) ∧
      Handing relay pointer (config.put thread ⟨job, entry, effect :: past, rest reply⟩ state)
        ⟨job, entry, effect :: past, rest reply⟩ := by
  have stepped : machine.step config (.act thread) =
      some (config.put thread ⟨job, entry, effect :: past, rest reply⟩ state) := by
    simp only [Machine.step, calls, executed]
  have settled := lawful.stored_eq_latest leads calls ⟨rest, rfl⟩ relies ruled
  have reachable : machine.Reachable relay.condition config :=
    leads.reachable (fun _ _ ruled => ruled.within.1) .start
  have unaltered := (lawful.registerless_of_relies reachable calls relies).1.1
  refine ⟨relay.latest config.state, ⟨config, _, _, effect, leads, calls, ⟨rest, rfl⟩, relays,
    relies, stepped, .here, rfl⟩, relays, ?_⟩
  rcases fresh with hands | ⟨continuation, program, handing⟩
  · exact .inl hands.any
  · refine .inr ⟨?_, continuation, program, handing⟩
    have kept : relay.stored state = relay.stored config.state :=
      congrArg Registered.stored (lawful.registered executed unaltered)
    exact kept.trans settled

/-- A relaying call has taken nothing yet, or is on its way to the pointer on record. -/
theorem Lawful.relaying_of_leads (leads : machine.Leads relay.rule machine.initial later)
    {call : Call State Effect Reply Job Result} (calls : later.calls thread = some call)
    (relays : relay.relays call.job = true) :
    call.prog.Entering (relay.relies call.job) (fun effect => (relay.passes effect).isNone)
      relay.Taking ∨
    ∃ pointer, relay.Took machine thread pointer later ∧ Handing relay pointer later call := by
  induction leads generalizing thread call with
  | here => cases calls
  | @step config next label earlier ruled stepped ih =>
      -- A call that has taken its data stays on its way unless its thread begins a job.
      have carried : ∀ {old : Call State Effect Reply Job Result} {pointer : Option Pointer},
          (∀ job, label ≠ .begin thread job) → config.calls thread = some old →
          relay.Took machine thread pointer config → Handing relay pointer config old →
          ∃ pointer, relay.Took machine thread pointer next ∧ Handing relay pointer next call := by
        intro old pointer goesOn oldCalls took handing
        obtain ⟨second, secondCalls, kept⟩ :=
          lawful.handing_step ⟨ruled, goesOn⟩ stepped oldCalls handing
        rw [calls] at secondCalls
        cases secondCalls
        exact ⟨pointer, took.step ⟨ruled, goesOn⟩ stepped, kept⟩
      rcases Machine.step_cases stepped with
        ⟨actor, job, last, rfl, idle, admitted, rfl⟩ |
        ⟨actor, job, entry, past, effect, rest, reply, state, rfl, acting, executed, rfl⟩ |
        ⟨event, state, rfl, changed, rfl⟩
      · by_cases same : thread = actor
        · subst same
          rw [Config.put_calls_self] at calls
          cases calls
          exact .inl (lawful.relaying admitted relays)
        · have old := calls
          rw [Config.put_calls_other _ _ _ _ same] at old
          rcases ih old relays with entering | ⟨pointer, took, handing⟩
          · exact .inl entering
          · refine .inr (carried (fun job label => ?_) old took handing)
            cases label
            exact same rfl
      · by_cases same : thread = actor
        · subst same
          have performed := calls
          rw [Config.put_calls_self] at performed
          cases performed
          rcases ih acting relays with entering | ⟨pointer, took, handing⟩
          · cases relies : relay.relies job effect with
            | false => exact .inl ((entering.2 relies).2 reply)
            | true =>
                obtain ⟨_, _, program, fresh⟩ := entering.1 relies
                cases program
                exact .inr (lawful.took_step earlier ruled acting relays relies (fresh reply)
                  executed)
          · exact .inr (carried (fun _ => nofun) acting took handing)
        · have old := calls
          rw [Config.put_calls_other _ _ _ _ same] at old
          rcases ih old relays with entering | ⟨pointer, took, handing⟩
          · exact .inl entering
          · exact .inr (carried (fun _ => nofun) old took handing)
      · rcases ih calls relays with entering | ⟨pointer, took, handing⟩
        · exact .inl entering
        · exact .inr (carried (fun _ => nofun) calls took handing)

/-- Data that a call passes on goes to the pointer that was on record when it was taken. -/
theorem Lawful.passes_latest (leads : machine.Leads relay.rule machine.initial later)
    {call : Call State Effect Reply Job Result} {passing : Effect} {receiver : Pointer}
    (calls : later.calls thread = some call) (standing : call.Next passing)
    (passes : relay.passes passing = some receiver) :
    relay.Took machine thread (some receiver) later := by
  have reachable : machine.Reachable relay.condition later :=
    leads.reachable (fun _ _ ruled => ruled.within.1) .start
  obtain ⟨rest, program⟩ := standing
  cases relays : relay.relays call.job with
  | false =>
      have silent : relay.relays call.job = false →
          call.prog.Only fun effect => relay.passes effect = none :=
        reachable.of_call (fun call => relay.relays call.job = false →
            call.prog.Only fun effect => relay.passes effect = none)
          (fun last job state admitted _ silent => lawful.silent admitted silent)
          (fun job entry past effect rest reply only silent => (only silent).2 reply) calls
      have only := silent relays
      rw [program] at only
      have nothing : relay.passes passing = none := only.1
      rw [passes] at nothing
      cases nothing
  | true =>
      rcases lawful.relaying_of_leads leads calls relays with entering | ⟨pointer, took, -, going⟩
      · rw [program] at entering
        have silent : (relay.passes passing).isNone = true :=
          (entering.2 (lawful.passesRelies passes)).1
        rw [passes] at silent
        cases silent
      · rcases going with hands | ⟨-, continuation, atLoad, -⟩
        · rw [program] at hands
          exact hands.1.2 receiver passes ▸ took
        · rw [program] at atLoad
          cases atLoad
          rw [lawful.loadPasses] at passes
          cases passes

end Relay

/-! ## Runs in which one thread moves -/

namespace Relay

variable {relay : Relay State Effect Reply Job Pointer} [DecidableEq Tid]
  {machine : Machine Tid State Effect Reply Job Result External}
  {origin config next : Config Tid State Effect Reply Job Result} {thread : Tid}
  {labels : List (Label Tid Job External)}

/-- A run in which only one thread moves, while all others are idle. -/
theorem leads_of_steps (leads : machine.Leads relay.rule origin config)
    (quiet : config.Quiet thread) (mine : labels.all (Label.isBy thread) = true)
    (steps : machine.steps relay.condition config labels = some next) :
    machine.Leads relay.rule origin next ∧ next.Quiet thread := by
  have kept : ∀ {config next : Config Tid State Effect Reply Job Result}
      {label : Label Tid Job External}, config.Quiet thread → label.isBy thread = true →
      (relay.condition : Condition Tid State Effect Job).allows config label = true →
      machine.step config label = some next → relay.rule config label ∧ next.Quiet thread := by
    intro config next label quiet byThread allowed stepped
    refine ⟨⟨⟨allowed, Turns.rule_of_unclaimed quiet.unclaimed byThread⟩, ?_, ?_⟩,
      quiet.step byThread stepped⟩
    · intro actor call effect acts _ _ _ other second different secondCalls inTurn
      subst acts
      have same : actor = thread := of_decide_eq_true byThread
      obtain ⟨-, performing, standing⟩ := inTurn
      exact quiet.not_next (same ▸ different) secondCalls standing
    · intro actor call effect pointer acts _ _ _
      subst acts
      have same : actor = thread := of_decide_eq_true byThread
      exact .inr fun other second different secondCalls _ =>
        quiet.not_next (same ▸ different) secondCalls
  exact leads.of_steps kept quiet mine steps

end Relay

/-! ## Runs in which nothing is registered -/

namespace Relay

variable {relay : Relay State Effect Reply Job Pointer} {plain : Job → Bool}
  {config : Config Tid State Effect Reply Job Result}

/-- The call has registered nothing and will not, unless it has returned. -/
def Unregistering (relay : Relay State Effect Reply Job Pointer)
    (call : Call State Effect Reply Job Result) : Prop :=
  (∃ value, call.Returned value) ∨
    relay.Registerless call.prog ∧ ∀ performed ∈ call.past, relay.alters performed = false

theorem Unregistering.not_inTurn {call : Call State Effect Reply Job Result}
    (unregistering : relay.Unregistering call) : ¬ call.InTurn relay.turns := by
  intro both
  obtain ⟨⟨performed, member, entering⟩, effect, rest, program⟩ := both
  rcases unregistering with ⟨value, returned⟩ | ⟨-, before⟩
  · unfold Call.Returned at returned
    rw [returned] at program
    cases program
  · obtain ⟨puts, records⟩ : relay.puts performed = none ∧ relay.records performed = none := by
      simpa [alters] using before performed member
    simp [turns, voids, puts, records] at entering

theorem Unregistering.unaltered {call : Call State Effect Reply Job Result} {effect : Effect}
    (unregistering : relay.Unregistering call) (standing : call.Next effect) :
    relay.puts effect = none ∧ relay.records effect = none := by
  obtain ⟨rest, program⟩ := standing
  rcases unregistering with ⟨value, returned⟩ | ⟨registerless, -⟩
  · unfold Call.Returned at returned
    rw [returned] at program
    cases program
  · rw [program] at registerless
    simpa [alters] using registerless.1

theorem rule_of_unregistering
    (unregistering : ∀ thread call, config.calls thread = some call → relay.Unregistering call)
    (label : Label Tid Job External) : relay.rule config label := by
  refine ⟨⟨?_, ?_⟩, ?_, ?_⟩
  · cases label with
    | begin thread job => rfl
    | external event => rfl
    | act thread =>
        cases calls : config.calls thread with
        | none => simp [Condition.allows, calls]
        | some call =>
            rcases call with ⟨job, entry, past, program⟩
            cases program with
            | ret value => simp [Condition.allows, calls]
            | act effect rest =>
                have unaltered := (unregistering thread _ calls).unaltered ⟨rest, rfl⟩
                simp [Condition.allows, calls, condition, voids, unaltered.2]
  · intro thread call effect _ _ _ _ other second _ secondCalls inTurn
    exact absurd inTurn (unregistering other second secondCalls).not_inTurn
  · intro thread call effect _ _ _ _ other second _ secondCalls
    exact (unregistering other second secondCalls).not_inTurn
  · intro thread call effect pointer _ calls standing puts
    have unaltered := (unregistering thread call calls).unaltered standing
    rw [unaltered.1] at puts
    cases puts

variable [DecidableEq Tid] {machine : Machine Tid State Effect Reply Job Result External}
  {origin next : Config Tid State Effect Reply Job Result} {labels : List (Label Tid Job External)}

/-- A run in which only jobs begin that register nothing, while no registration is under
way. -/
theorem leads_of_plain
    (registerless : ∀ {thread last state job}, machine.admits thread last state job = true →
      plain job = true → relay.Registerless (machine.body job))
    (leads : machine.Leads relay.rule origin config)
    (unregistering : ∀ thread call, config.calls thread = some call → relay.Unregistering call)
    (among : labels.all (Label.beginsOnly plain) = true)
    (steps : machine.steps .always config labels = some next) :
    machine.Leads relay.rule origin next := by
  have kept : ∀ {config next : Config Tid State Effect Reply Job Result}
      {label : Label Tid Job External},
      (∀ thread call, config.calls thread = some call → relay.Unregistering call) →
      label.beginsOnly plain = true → Condition.always.allows config label = true →
      machine.step config label = some next → relay.rule config label ∧
        ∀ thread call, next.calls thread = some call → relay.Unregistering call := by
    intro config next label before begins _ stepped
    refine ⟨rule_of_unregistering before label, fun thread call calls => ?_⟩
    rcases Machine.step_cases stepped with
      ⟨actor, job, last, rfl, idle, admitted, rfl⟩ |
      ⟨actor, job, entry, past, effect, rest, reply, state, rfl, acting, executed, rfl⟩ |
      ⟨event, state, rfl, changed, rfl⟩
    · by_cases same : thread = actor
      · subst same
        rw [Config.put_calls_self] at calls
        cases calls
        exact .inr ⟨registerless admitted begins, fun _ member => nomatch member⟩
      · rw [Config.put_calls_other _ _ _ _ same] at calls
        exact before thread call calls
    · by_cases same : thread = actor
      · subst same
        rw [Config.put_calls_self] at calls
        cases calls
        rcases before thread _ acting with ⟨value, returned⟩ | ⟨registerless, earlier⟩
        · cases returned
        · refine .inr ⟨registerless.2 reply, fun performed member => ?_⟩
          rcases List.mem_cons.mp member with rfl | member
          · exact registerless.1
          · exact earlier performed member
      · rw [Config.put_calls_other _ _ _ _ same] at calls
        exact before thread call calls
    · exact before thread call calls
  exact (leads.of_steps kept unregistering among steps).1

/-- Where all calls have returned, none registers anything. -/
theorem unregistering_of_quiet {thread : Tid} (quiet : config.Quiet thread)
    {own : Call State Effect Reply Job Result} {value : Result}
    (calls : config.calls thread = some own) (returned : own.Returned value) (other : Tid)
    (call : Call State Effect Reply Job Result) (otherCalls : config.calls other = some call) :
    relay.Unregistering call := by
  by_cases same : other = thread
  · subst same
    rw [calls] at otherCalls
    cases otherCalls
    exact .inl ⟨value, returned⟩
  · exact .inl (quiet other call same otherCalls)

/-- A run in which only one thread moves, up to the end of its call, and then only jobs
begin that register nothing. -/
theorem leads_of_begun (plain : Job → Bool)
    (registerless : ∀ {thread last state job}, machine.admits thread last state job = true →
      plain job = true → relay.Registerless (machine.body job))
    {first : List (Label Tid Job External)} {thread : Tid} {value : Result}
    {call : Call State Effect Reply Job Result}
    (began : machine.steps relay.condition machine.initial first = some config)
    (mine : first.all (Label.isBy thread) = true) (calls : config.calls thread = some call)
    (returned : call.Returned value)
    (steps : machine.steps .always config labels = some next)
    (among : labels.all (Label.beginsOnly plain) = true) :
    machine.Leads relay.rule machine.initial next := by
  have quiet : machine.initial.Quiet thread := fun _ _ _ => nofun
  obtain ⟨leads, quietAfter⟩ := leads_of_steps .here quiet mine began
  exact leads_of_plain registerless leads (unregistering_of_quiet quietAfter calls returned) among
    steps

end Relay

end LibSp.Concurrent
