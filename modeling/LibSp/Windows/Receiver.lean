import LibSp.Windows.Send
import LibSp.Concurrent.Relay

/-!
# The receiver of the Windows port

`init` stores the receiver and is put on record when it returns; `read_data` of the
monitor thread reads from the handle, loads the receiver and passes the data on.
-/

set_option autoImplicit false

namespace LibSp.Windows

open Concurrent

/-- The receiver that the latest successful `init` passed. -/
def lastReceiver : List (Operation × Value) → Option IrecvData
  | [] => none
  | (.init _ precvData, value) :: earlier =>
      if value = .code 0 then precvData else lastReceiver earlier
  | _ :: earlier => lastReceiver earlier

/-- The receiver and the record of the port. An iteration relies on the record when it
reads. -/
def relay : Relay State Effect Effect.Reply Job IrecvData where
  stored s := s.param.precvData
  latest s := lastReceiver s.history
  puts effect :=
    match effect with
    | .store .precvData value => some value
    | _ => none
  records effect :=
    match effect with
    | .returned (.init _ precvData) value => if value = .code 0 then some precvData else none
    | _ => none
  load := .load .precvData
  answer reply := reply
  passes effect :=
    match effect with
    | .onRecvData receiver _ _ => some receiver
    | _ => none
  relays job :=
    match job with
    | .iteration .. => true
    | .operation _ | .enter => false
  relies job effect :=
    match job, effect with
    | .iteration .., .readFile .. => true
    | _, _ => false

theorem lastReceiver_cons (operation : Operation) (value : Value)
    (earlier : List (Operation × Value)) :
    lastReceiver ((operation, value) :: earlier) =
      (relay.records (.returned operation value)).getD (lastReceiver earlier) := by
  cases operation with
  | init spp precvData =>
      simp only [lastReceiver, relay]
      split <;> rfl
  | _ => rfl

theorem exec_registered {thread : Tid} {effect : Effect} {s after : State} {reply : effect.Reply}
    (executed : exec thread effect s = some (reply, after)) :
    relay.registered after =
      ⟨(relay.puts effect).getD (relay.stored s),
        (relay.records effect).getD (relay.latest s)⟩ := by
  have members := exec_members executed
  have told : relay.registered after =
      ⟨(effect.update thread s.members).param.precvData,
        lastReceiver (effect.update thread s.members).history⟩ := by
    rw [← members]
    rfl
  rw [told]
  cases effect with
  | store field value => cases field <;> rfl
  | returned operation value =>
      exact congrArg (Registered.mk s.param.precvData) (lastReceiver_cons operation value _)
  | createFile name overlapped outcome queued => cases outcome <;> rfl
  | beginthreadex outcome => cases outcome <;> rfl
  | _ => rfl

/-! ## What the jobs do with the receiver -/

section Jobs

variable {α : Type} {data : List UInt8} {outcome : WriteOutcome}

/-- Programs that neither store a receiver, nor record an `init`, nor pass data on. -/
abbrev Receiverless (program : Code α) : Prop :=
  program.Only fun effect => relay.alters effect = false ∧ relay.passes effect = none

theorem receiverless_of_ordinary {program : Code α} (ordinary : Ordinary program) :
    Receiverless program := by
  refine ordinary.mono fun effect ordinary => ?_
  cases effect with
  | store field value => cases field <;> first | exact ⟨rfl, rfl⟩ | cases ordinary
  | returned | onRecvData => cases ordinary
  | _ => exact ⟨rfl, rfl⟩

theorem send_receiverless : Receiverless (send (some data) outcome) := by
  refine (@send_routine true (some data) outcome).mono fun effect routine => ?_
  cases effect with
  | store field value => cases field <;> first | exact ⟨rfl, rfl⟩ | cases routine
  | returned | onRecvData => cases routine
  | _ => exact ⟨rfl, rfl⟩

/-- All operations but `init`. -/
theorem runJob_receiverless {operation : Operation}
    (other : ∀ spp precvData, operation ≠ .init spp precvData) :
    Receiverless (runJob (.operation operation)) := by
  have records : ∀ value, relay.alters (.returned operation value) = false := by
    intro value
    cases operation with
    | init spp precvData => exact absurd rfl (other spp precvData)
    | _ => rfl
  refine Prog.Only.bind ?_ fun value => ⟨⟨records value, rfl⟩, fun _ => trivial⟩
  by_cases sends : ∃ data outcome, operation = .send (some data) outcome
  · obtain ⟨data, outcome, rfl⟩ := sends
    exact send_receiverless.bind fun _ => trivial
  · have silent : ∀ data outcome, operation ≠ .send (some data) outcome :=
      fun data outcome same => sends ⟨data, outcome, same⟩
    exact receiverless_of_ordinary (runOperation_ordinary other silent)

/-- No operation passes data on. -/
theorem runJob_passesNothing {operation : Operation} :
    (runJob (.operation operation)).Only fun effect => relay.passes effect = none := by
  by_cases inits : ∃ spp precvData, operation = .init spp precvData
  · obtain ⟨spp, precvData, rfl⟩ := inits
    refine Prog.Only.bind ?_ fun _ => ⟨rfl, fun _ => trivial⟩
    refine Prog.Only.bind (init_only fun effect initial _ _ => ?_) fun _ => trivial
    cases effect <;> first | rfl | cases initial
  · have other : ∀ spp precvData, operation ≠ .init spp precvData :=
      fun spp precvData same => inits ⟨spp, precvData, same⟩
    exact (runJob_receiverless other).mono fun _ plain => plain.2

/-- `init` is in its turn from its storing of the receiver on. -/
theorem init_registers {spp : SpProp} {precvData : Option IrecvData} :
    (runJob (.operation (.init spp precvData))).Entering
      (relay.turns.enters (.operation (.init spp precvData)))
      (fun effect => !relay.alters effect) fun program =>
        ∀ now : Registered IrecvData, now.Settled →
          relay.AloneIn program (fun _ after => after.Settled) now := by
  by_cases accepted : (SpParamsCheck.getInstance .windows).isRight spp = 0
  · have stores : init spp precvData = (do
        store .spp spp
        if precvData.isSome then
          store .precvData precvData
        store .isInit true
        if (← load .spp).isToLog then
          perform .rotatingLogger
          store .plog true
        return 0) := by
      rw [init, if_neg (not_not_intro accepted), accepted]
    simp only [runJob, runOperation, stores]
    refine .act rfl rfl fun _ => ?_
    cases precvData with
    | some receiver =>
        -- The receiver is stored, and then put on record.
        refine .enter rfl fun now settled => ⟨nofun, fun _ stored put => ?_⟩
        have recorded : relay.AloneIn (do
            perform (.returned (.init spp (some receiver)) (.code 0))
            return .value (.code 0) : Code Result) (fun _ after => after.Settled) stored := by
          refine ⟨nofun, ?_⟩
          intro _ after post
          obtain ⟨kept, recorded, -⟩ := post
          exact kept.trans (put.1.trans recorded.symm)
        refine Relay.aloneIn_skip rfl fun _ => Relay.aloneIn_skip rfl fun loaded => ?_
        cases loaded with
        | mk name baudRate parity dataBits stopBits flowCtl opMode isToLog =>
            cases isToLog with
            | false => exact recorded
            | true => exact Relay.aloneIn_skip rfl fun _ => Relay.aloneIn_skip rfl fun _ => recorded
    | none =>
        -- The call goes on record while no receiver is stored.
        have voided : (do
            perform (.returned (.init spp none) (.code 0))
            return .value (.code 0) : Code Result).Entering
            (relay.turns.enters (.operation (.init spp none)))
            (fun effect => !relay.alters effect) fun program =>
              ∀ now : Registered IrecvData, now.Settled →
                relay.AloneIn program (fun _ after => after.Settled) now := by
          refine .enter rfl fun now settled => ⟨fun _ => settled, ?_⟩
          intro _ after post
          obtain ⟨kept, recorded, empty⟩ := post
          exact kept.trans ((empty rfl).trans recorded.symm)
        refine .act rfl rfl fun _ => .act rfl rfl fun loaded => ?_
        cases loaded with
        | mk name baudRate parity dataBits stopBits flowCtl opMode isToLog =>
            cases isToLog with
            | false => exact voided
            | true => exact .act rfl rfl fun _ => .act rfl rfl fun _ => voided
  · have refuses : init spp precvData = .ret ((SpParamsCheck.getInstance .windows).isRight spp) := by
      rw [init, if_pos accepted]
      rfl
    simp only [runJob, runOperation, refuses]
    have unrecorded : relay.records (.returned (.init spp precvData)
        (.code ((SpParamsCheck.getInstance .windows).isRight spp))) = none :=
      if_neg fun same => accepted (Value.code.inj same)
    have unaltered : relay.alters (.returned (.init spp precvData)
        (.code ((SpParamsCheck.getInstance .windows).isRight spp))) = false := by
      rw [Relay.alters, unrecorded]
      rfl
    exact Relay.Registerless.entering ⟨unaltered, fun _ => trivial⟩

theorem registerless_of_monitors {program : Code α}
    (monitors : program.Only fun effect => effect.monitors = true) :
    relay.Registerless program := by
  refine monitors.mono fun effect monitors => ?_
  cases effect with
  | store field value => cases field <;> first | rfl | cases monitors
  | returned => cases monitors
  | _ => rfl

/-- A job that is no `init`. -/
def Job.isPlain : Job → Bool
  | .operation (.init ..) => false
  | _ => true

theorem runJob_registerless {thread : Tid} {last : Option Result} {s : State} {job : Job}
    (admitted : admits thread last s job = true) (plain : job.isPlain = true) :
    relay.Registerless (runJob job) := by
  cases thread with
  | worker number => exact registerless_of_monitors (runJob_monitors admitted)
  | client number =>
      cases job with
      | enter | iteration => cases admitted
      | operation operation =>
          have other : ∀ spp precvData, operation ≠ .init spp precvData := by
            intro spp precvData same
            rw [same] at plain
            cases plain
          exact (runJob_receiverless other).mono fun _ plain => plain.1

theorem runJob_registers {thread : Tid} {last : Option Result} {s : State} {job : Job}
    (admitted : admits thread last s job = true) :
    (runJob job).Entering (relay.turns.enters job) (fun effect => !relay.alters effect)
      fun program => ∀ now : Registered IrecvData, now.Settled →
        relay.AloneIn program (fun _ after => after.Settled) now := by
  cases plain : job.isPlain with
  | true => exact Relay.Registerless.entering (runJob_registerless admitted plain)
  | false =>
      cases job with
      | enter | iteration => cases plain
      | operation operation =>
          cases operation with
          | init spp precvData => exact init_registers
          | _ => cases plain

end Jobs

section Iteration

variable {α β : Type} {job : Job} {eventMask : BitVec 32} {outcome : MonitorOutcome}

/-- Up to its `ReadFile` the program passes nothing on, and then as `Relay.Fresh` says. -/
abbrev Relaying (job : Job) (program : Code α) : Prop :=
  program.Entering (relay.relies job) (fun effect => (relay.passes effect).isNone)
    relay.Taking

/-- What an iteration performs beside reading and passing on. -/
def Effect.aside : Effect → Bool
  | .readFile .. | .onRecvData .. | .load .precvData => false
  | _ => true

abbrev Aside (program : Code α) : Prop := program.Only fun effect => effect.aside = true

theorem Aside.hands {program : Code α} (aside : Aside program) (pointer : Option IrecvData) :
    relay.Hands pointer program := by
  refine aside.mono fun effect aside => ⟨?_, ?_⟩
  · intro same
    subst same
    cases aside
  · cases effect with
    | onRecvData => cases aside
    | _ => exact nofun

theorem Aside.peaceful {inTurn : Code α → Prop} {program : Code α} (aside : Aside program) :
    program.Entering (relay.relies job) (fun effect => (relay.passes effect).isNone)
      inTurn := by
  refine .of_only (aside.mono fun effect aside => ?_)
  cases effect with
  | readFile | onRecvData => cases aside
  | _ => cases job <;> exact ⟨rfl, rfl⟩

theorem Relaying.bind {program : Code α} {rest : α → Code β} (relaying : Relaying job program)
    (aside : ∀ value, Aside (rest value)) : Relaying job (program >>= rest) :=
  Prog.Entering.bind (fun _ (taking : relay.Taking _) =>
    taking.bind fun value => (aside value).hands none) relaying fun value => (aside value).peaceful

/-- What comes before the reading. -/
theorem Relaying.after {program : Code α} {rest : α → Code β} (aside : Aside program)
    (relaying : ∀ value, Relaying job (rest value)) : Relaying job (program >>= rest) := by
  have nothing : program.Entering (relay.relies job)
      (fun effect => (relay.passes effect).isNone) fun _ => False := aside.peaceful
  exact nothing.bind (fun _ => False.elim) relaying

theorem readOverlapped_relaying {notify maxSize : Nat} {read : ReadOutcome} :
    Relaying (.iteration eventMask outcome) (readOverlapped (pure ()) notify maxSize read) := by
  refine .act rfl rfl fun handle => .enter rfl ⟨_, _, rfl, fun taken => ?_⟩
  cases taken with
  | none =>
      have waits : Aside (do
          if ERROR_IO_PENDING = (← perform .getLastError) then
            let _ ← perform (.getOverlappedResult (← load .handle) .read)) :=
        ⟨rfl, fun _ => Prog.Only.ite (fun _ => ⟨rfl, fun _ => ⟨rfl, fun _ => trivial⟩⟩)
          fun _ => trivial⟩
      exact .inl (waits.hands none)
  | some arrRead =>
      refine .inr ⟨_, rfl, fun receiver => ?_⟩
      cases receiver with
      | none => trivial
      | some receiver =>
          refine Prog.Only.ite (fun _ => trivial) fun _ => ⟨⟨nofun, fun passed same => same⟩, ?_⟩
          exact fun _ => trivial

theorem readPlain_relaying {notify maxSize : Nat} {read : ReadOutcome} :
    Relaying (.iteration eventMask outcome) (readPlain (pure ()) notify maxSize read) := by
  refine .act rfl rfl fun handle => .enter rfl ⟨_, _, rfl, fun taken => ?_⟩
  cases taken with
  | none => exact .inl trivial
  | some arrRead =>
      refine Relay.Fresh.ite (fun _ => .inl trivial) fun _ => .inr ⟨_, rfl, fun receiver => ?_⟩
      cases receiver with
      | none => exact ⟨⟨nofun, nofun⟩, fun _ => trivial⟩
      | some receiver => exact ⟨⟨nofun, fun passed same => same⟩, fun _ => trivial⟩

theorem readData_relaying {notify unread : Nat} {read : ReadOutcome} :
    Relaying (.iteration eventMask outcome) (readData (pure ()) notify unread read) := by
  have mode : ∀ maxSize, Relaying (.iteration eventMask outcome)
      (readMode (pure ()) notify maxSize read) := by
    intro maxSize
    refine .act rfl rfl fun spp => Prog.Entering.ite (fun _ => ?_) fun _ => readPlain_relaying
    refine .act rfl rfl fun _ => .act rfl rfl fun event => .act rfl rfl fun _ => ?_
    exact readOverlapped_relaying.bind fun _ => ⟨rfl, fun _ => ⟨rfl, fun _ => trivial⟩⟩
  have size : Aside (readSize unread) :=
    ⟨rfl, fun _ => Prog.Only.ite (fun _ => ⟨rfl, fun _ => ⟨rfl, fun _ => trivial⟩⟩)
      fun _ => trivial⟩
  refine Relaying.bind (.act rfl rfl fun handle => ?_) fun _ => ⟨rfl, fun _ => trivial⟩
  refine Prog.Entering.ite (fun _ => trivial) fun _ => Relaying.after size fun maxSize => ?_
  exact .act rfl rfl fun _ => (mode maxSize).bind fun _ => ⟨rfl, fun _ => trivial⟩

/-- After its `ReadFile` an iteration loads the receiver and passes the data on to it. -/
theorem iteration_relays :
    Relaying (.iteration eventMask outcome) (runJob (.iteration eventMask outcome)) := by
  have event : ∀ eventMask', Relaying (.iteration eventMask outcome)
      (handleEvent (pure ()) eventMask' outcome) := by
    intro eventMask'
    refine Prog.Entering.ite (fun _ => ?_) fun _ => trivial
    refine .act rfl rfl fun handle => .act rfl rfl fun queued => .act rfl rfl fun notify => ?_
    exact Prog.Entering.ite (fun _ => readData_relaying.bind fun _ => trivial) fun _ => trivial
  have running : Aside getRecvThreadIsRunning :=
    ⟨rfl, fun _ => ⟨rfl, fun _ => ⟨rfl, fun _ => ⟨rfl, fun _ => trivial⟩⟩⟩⟩
  have exits : Aside (do perform .threadExit; return Iteration.exited : Code Iteration) :=
    ⟨rfl, fun _ => trivial⟩
  refine Relaying.bind (Relaying.after running fun _ => ?_) fun _ => trivial
  refine Prog.Entering.ite (fun _ => exits.peaceful) fun _ => ?_
  refine .act rfl rfl fun _ => .act rfl rfl fun _ => .act rfl rfl fun _ => .act rfl rfl fun _ => ?_
  refine Prog.Entering.ite (fun _ => .act rfl rfl fun _ => .act rfl rfl fun _ => ?_) fun _ => trivial
  refine Prog.Entering.ite (fun _ => exits.peaceful) fun _ => (event _).bind fun _ => ?_
  exact Prog.Only.ite (fun _ => ⟨rfl, fun _ => ⟨rfl, fun _ => trivial⟩⟩) fun _ => trivial

theorem relay_lawful : relay.Lawful system where
  start := rfl
  stored executed := congrArg Registered.stored (exec_registered executed)
  latest executed := congrArg Registered.latest (exec_registered executed)
  external changed := by
    have members := external_members changed
    exact congrArg (fun members : Members =>
      Registered.mk members.param.precvData (lastReceiver members.history)) members
  loaded executed := by
    cases executed
    rfl
  loadPasses := rfl
  passesRelies {job effect receiver} passes := by
    cases effect with
    | onRecvData => cases job <;> rfl
    | _ => cases passes
  reliesRegisterless {thread last s job effect} admitted relies := by
    refine runJob_registerless admitted ?_
    cases job with
    | enter | iteration => rfl
    | operation operation => cases relies
  registers admitted := runJob_registers admitted
  relaying {thread last s job} _ relays := by
    cases job with
    | iteration eventMask outcome => exact iteration_relays
    | operation operation => cases relays
    | enter => cases relays
  silent {thread last s job} _ silent := by
    cases job with
    | iteration => cases silent
    | operation operation => exact runJob_passesNothing
    | enter =>
        refine Prog.Only.bind ⟨rfl, fun _ => Prog.Only.ite (fun _ => ?_) fun _ => ?_⟩
          fun _ => trivial
        · exact ⟨rfl, fun _ => trivial⟩
        · exact ⟨rfl, fun _ => ⟨rfl, fun _ => trivial⟩⟩

end Iteration

end LibSp.Windows
