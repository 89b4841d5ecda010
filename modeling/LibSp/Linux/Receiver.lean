import LibSp.Linux.Session
import LibSp.Concurrent.Relay

/-!
# The receiver of the Linux port

`init` stores the receiver and is put on record when it returns; an iteration of the
receive loop reads from the descriptor, loads the receiver and passes the data on.
-/

set_option autoImplicit false

namespace LibSp.Linux

open Concurrent

/-- The receiver that the latest successful `init` passed. -/
def lastReceiver : List (Operation × Value) → Option IrecvData
  | [] => none
  | (.init _ precvData, value) :: earlier =>
      if value = .code 0 then precvData else lastReceiver earlier
  | _ :: earlier => lastReceiver earlier

/-- The receiver and the record of the port. An iteration relies on the record when it
reads, `open` when it loads the receiver. -/
def relay : Relay State Effect Effect.Reply Job IrecvData where
  stored s := s.port.param.precvData
  latest s := lastReceiver s.port.history
  puts effect :=
    match effect with
    | .store .precvData value => some value
    | _ => none
  records effect :=
    match effect with
    | .returned (.init _ precvData) value => if value = .code 0 then some precvData else none
    | _ => none
  load := .load .precvData
  answer reply := reply
  passes effect :=
    match effect with
    | .onRecvData receiver _ _ => some receiver
    | _ => none
  relays job :=
    match job with
    | .iteration .. => true
    | .operation _ => false
  relies job effect :=
    match job, effect with
    | .iteration .., .read .. => true
    | .operation (.open _), .load .precvData => true
    | _, _ => false

/-! ## What the effects do with the receiver -/

theorem lastReceiver_cons (operation : Operation) (value : Value)
    (earlier : List (Operation × Value)) :
    lastReceiver ((operation, value) :: earlier) =
      (relay.records (.returned operation value)).getD (lastReceiver earlier) := by
  cases operation with
  | init spp precvData =>
      simp only [lastReceiver, relay]
      split <;> rfl
  | _ => rfl

theorem exec_registered {thread : Tid} {effect : Effect} {s after : State} {reply : effect.Reply}
    (executed : exec thread effect s = some (reply, after)) :
    relay.registered after =
      ⟨(relay.puts effect).getD (relay.stored s),
        (relay.records effect).getD (relay.latest s)⟩ := by
  have updated : relay.registered after =
      ⟨(effect.update thread s.members).param.precvData,
        lastReceiver (effect.update thread s.members).history⟩ :=
    congrArg (fun members : Members =>
      (⟨members.param.precvData, lastReceiver members.history⟩ : Registered IrecvData))
      (exec_members executed)
  rw [updated]
  cases effect with
  | store field value => cases field <;> rfl
  | returned operation value =>
      exact congrArg (Registered.mk s.port.param.precvData) (lastReceiver_cons operation value _)
  | pthreadCreate outcome => cases outcome <;> rfl
  | _ => rfl

/-! ## What the jobs do with the receiver -/

section Jobs

variable {libc : SpeedSetters} {α : Type}

/-- Programs that neither store a receiver, nor record an `init`, nor pass data on. -/
abbrev Receiverless (program : Code α) : Prop :=
  program.Only fun effect => relay.alters effect = false ∧ relay.passes effect = none

theorem receiverless_of_routine {program : Code α} (routine : Routine program) :
    Receiverless program := by
  refine routine.mono fun effect routine => ?_
  cases effect with
  | store field value => cases field <;> first | exact ⟨rfl, rfl⟩ | cases routine
  | returned | onRecvData => cases routine
  | _ => exact ⟨rfl, rfl⟩

theorem open_receiverless {outcome : OpenOutcome} : Receiverless («open» libc outcome) := by
  refine open_only fun effect opens => ?_
  cases effect with
  | store field value => cases field <;> first | exact ⟨rfl, rfl⟩ | cases opens
  | returned | onRecvData => cases opens
  | _ => exact ⟨rfl, rfl⟩

theorem runJob_receiverless {operation : Operation}
    (other : ∀ spp precvData, operation ≠ .init spp precvData) :
    Receiverless (runJob libc (.operation operation)) := by
  have records : ∀ value, relay.alters (.returned operation value) = false := by
    intro value
    cases operation with
    | init spp precvData => exact absurd rfl (other spp precvData)
    | _ => rfl
  refine Prog.Only.bind ?_ fun value => ⟨⟨records value, rfl⟩, fun _ => trivial⟩
  cases operation with
  | init spp precvData => exact absurd rfl (other spp precvData)
  | «open» outcome => exact open_receiverless.bind fun _ => trivial
  | close | setReadNotify | isOpened | send | destroy =>
      exact receiverless_of_routine (runOperation_routine rfl)

/-- No operation passes data on. -/
theorem runJob_passesNothing {operation : Operation} :
    (runJob libc (.operation operation)).Only fun effect => relay.passes effect = none := by
  by_cases inits : ∃ spp precvData, operation = .init spp precvData
  · obtain ⟨spp, precvData, rfl⟩ := inits
    refine Prog.Only.bind ?_ fun _ => ⟨rfl, fun _ => trivial⟩
    exact (init_only (fun _ => rfl) fun _ => rfl).bind fun _ => trivial
  · have other : ∀ spp precvData, operation ≠ .init spp precvData :=
      fun spp precvData same => inits ⟨spp, precvData, same⟩
    exact (runJob_receiverless other).mono fun _ plain => plain.2

theorem iteration_receives {hasReadBytes : Int} {outcome : RecvOutcome} :
    (runJob libc (.iteration hasReadBytes outcome)).Only fun effect => effect.receives = true := by
  refine Prog.Only.bind (threadRecvDataMonitor_only (fun _ receives => receives) ?_)
    fun _ => trivial
  trivial

theorem iteration_registerless {hasReadBytes : Int} {outcome : RecvOutcome} :
    relay.Registerless (runJob libc (.iteration hasReadBytes outcome)) := by
  refine iteration_receives.mono fun effect receives => ?_
  cases effect with
  | store | returned => cases receives
  | _ => rfl

/-- `init` is in its turn from its storing of the receiver on. -/
theorem init_registers {spp : SpProp} {precvData : Option IrecvData} :
    (runJob libc (.operation (.init spp precvData))).Entering
      (relay.turns.enters (.operation (.init spp precvData)))
      (fun effect => !relay.alters effect) fun program =>
        ∀ now : Registered IrecvData, now.Settled →
          relay.AloneIn program (fun _ after => after.Settled) now := by
  by_cases accepted : (SpParamsCheck.getInstance .linux).isRight spp = 0
  · have stores : init spp precvData = (do
        store .spp spp
        if precvData.isSome then
          store .precvData precvData
        return 0) := by
      rw [init, if_neg (not_not_intro accepted), accepted]
    simp only [runJob, runOperation, stores]
    refine .act (by rfl) (by rfl) fun _ => ?_
    cases precvData with
    | some receiver =>
        -- The receiver is stored, and then put on record.
        refine .enter (by rfl) fun now settled => ⟨nofun, fun _ stored put => ⟨nofun, ?_⟩⟩
        intro _ after post
        obtain ⟨kept, recorded, -⟩ := post
        exact kept.trans (put.1.trans recorded.symm)
    | none =>
        -- The call goes on record while no receiver is stored.
        refine .enter (by rfl) fun now settled => ⟨fun _ => settled, ?_⟩
        intro _ after post
        obtain ⟨kept, recorded, empty⟩ := post
        exact kept.trans ((empty rfl).trans recorded.symm)
  · have refuses : init spp precvData = .ret ((SpParamsCheck.getInstance .linux).isRight spp) := by
      rw [init, if_pos accepted]
      rfl
    simp only [runJob, runOperation, refuses]
    have unrecorded : relay.records (.returned (.init spp precvData)
        (.code ((SpParamsCheck.getInstance .linux).isRight spp))) = none :=
      if_neg fun same => accepted (Value.code.inj same)
    have unaltered : relay.alters (.returned (.init spp precvData)
        (.code ((SpParamsCheck.getInstance .linux).isRight spp))) = false := by
      rw [Relay.alters, unrecorded]
      rfl
    exact Relay.Registerless.entering ⟨unaltered, fun _ => trivial⟩

/-- A job that is no `init`. -/
def Job.isPlain : Job → Bool
  | .operation (.init ..) => false
  | _ => true

theorem runJob_registerless {job : Job} (plain : job.isPlain = true) :
    relay.Registerless (runJob libc job) := by
  cases job with
  | iteration hasReadBytes outcome => exact iteration_registerless
  | operation operation =>
      have other : ∀ spp precvData, operation ≠ .init spp precvData := by
        intro spp precvData same
        rw [same] at plain
        cases plain
      exact (runJob_receiverless other).mono fun _ plain => plain.1

theorem runJob_registers (job : Job) :
    (runJob libc job).Entering (relay.turns.enters job) (fun effect => !relay.alters effect)
      fun program => ∀ now : Registered IrecvData, now.Settled →
        relay.AloneIn program (fun _ after => after.Settled) now := by
  cases plain : job.isPlain with
  | true => exact Relay.Registerless.entering (runJob_registerless plain)
  | false =>
      cases job with
      | iteration hasReadBytes outcome => cases plain
      | operation operation =>
          cases operation with
          | init spp precvData => exact init_registers
          | _ => cases plain

/-- After its `read` an iteration loads the receiver and passes the data on to it. -/
theorem iteration_relays {hasReadBytes : Int} {outcome : RecvOutcome} :
    (runJob libc (.iteration hasReadBytes outcome)).Entering
      (relay.relies (.iteration hasReadBytes outcome))
      (fun effect => (relay.passes effect).isNone) relay.Taking := by
  have released : ∀ (pointer : Option IrecvData) (hasReadBytes : Int), relay.Hands pointer
      (do perform .unlock; return .next hasReadBytes : Code Iteration) :=
    fun _ _ => ⟨⟨nofun, nofun⟩, fun _ => trivial⟩
  refine Prog.Entering.bind (fun program (taking : relay.Taking program) =>
    taking.bind fun _ => trivial) (.act rfl rfl fun running => ?_) fun _ => trivial
  refine Prog.Entering.ite (fun _ => .act rfl rfl fun _ => trivial) fun _ => ?_
  refine .act rfl rfl fun fd => .act rfl rfl fun asked => Prog.Entering.ite (fun _ => trivial) ?_
  refine fun _ => .act rfl rfl fun notify => Prog.Entering.ite (fun _ => ?_) fun _ => trivial
  refine .act rfl rfl fun _ => .act rfl rfl fun opened => ?_
  refine Prog.Entering.ite (fun _ => .act rfl rfl fun fd => .enter rfl ⟨_, _, rfl, fun taken => ?_⟩)
    fun _ => .act rfl rfl fun _ => trivial
  cases taken with
  | none => exact .inl (released _ _)
  | some bufRead =>
      refine Relay.Fresh.ite (fun _ => .inr ⟨_, rfl, fun receiver => ?_⟩)
        fun _ => .inl (released _ _)
      cases receiver with
      | none => exact released _ _
      | some receiver => exact ⟨⟨nofun, fun passed same => same⟩, fun _ => released _ _⟩

theorem relay_lawful (libc : SpeedSetters) : relay.Lawful (system libc) where
  start := rfl
  stored executed := congrArg Registered.stored (exec_registered executed)
  latest executed := congrArg Registered.latest (exec_registered executed)
  external changed := by
    cases changed
    rfl
  loaded executed := by
    cases executed
    rfl
  loadPasses := rfl
  passesRelies {job effect receiver} passes := by
    cases effect with
    | onRecvData =>
        cases job with
        | iteration => rfl
        | operation operation => cases operation <;> rfl
    | _ => cases passes
  reliesRegisterless {thread last s job effect} _ relies := by
    refine runJob_registerless ?_
    cases job with
    | iteration hasReadBytes outcome => rfl
    | operation operation =>
        cases operation with
        | «open» outcome => rfl
        | _ => cases relies
  registers _ := runJob_registers _
  relaying {thread last s job} _ relays := by
    cases job with
    | iteration hasReadBytes outcome => exact @iteration_relays libc _ _
    | operation operation => cases relays
  silent {thread last s job} _ silent := by
    cases job with
    | iteration => cases silent
    | operation operation => exact runJob_passesNothing

/-! ## The receive thread that `open` starts -/

def Effect.creates : Effect → Bool
  | .pthreadCreate _ => true
  | _ => false

def Effect.asks : Effect → Bool
  | .load .precvData => true
  | _ => false

abbrev Creationless (program : Code α) : Prop :=
  program.Only fun effect => effect.creates = false

/-- Up to its loading of the receiver the program creates no thread, and later only if
there was one. -/
abbrev Asking (program : Code α) : Prop :=
  program.Entering Effect.asks (fun effect => !effect.creates) fun program =>
    ∃ next, program = .act (.load .precvData) next ∧ Creationless (next none)

theorem asking_of_plain {inTurn : Code α → Prop} {program : Code α}
    (only : program.Only fun effect => effect.asks = false ∧ effect.creates = false) :
    program.Entering Effect.asks (fun effect => !effect.creates) inTurn := by
  refine .of_only (only.mono fun effect plain => ⟨plain.1, ?_⟩)
  rw [plain.2]
  rfl

theorem close_asksNothing :
    close.Only fun effect => effect.asks = false ∧ effect.creates = false := by
  refine ⟨⟨rfl, rfl⟩, fun _ => Prog.Only.ite (fun _ => trivial) fun _ => ?_⟩
  exact ⟨⟨rfl, rfl⟩, fun _ => ⟨⟨rfl, rfl⟩, fun _ => ⟨⟨rfl, rfl⟩, fun _ => ⟨⟨rfl, rfl⟩, fun _ =>
    ⟨⟨rfl, rfl⟩, fun _ => ⟨⟨rfl, rfl⟩, fun _ => ⟨⟨rfl, rfl⟩, fun _ => trivial⟩⟩⟩⟩⟩⟩⟩

theorem setPortParams_asksNothing {outcome : OpenOutcome} :
    (setPortParams libc outcome).Only fun effect =>
      effect.asks = false ∧ effect.creates = false := by
  refine setPortParams_only fun effect tunes => ?_
  cases effect with
  | load field => cases field <;> first | exact ⟨rfl, rfl⟩ | cases tunes
  | _ => first | exact ⟨rfl, rfl⟩ | cases tunes

theorem open_asking {outcome : OpenOutcome} : Asking («open» libc outcome) := by
  have cleanUp : Asking (do
      let retVal ← perform .errno
      let _ ← close
      return retVal) :=
    asking_of_plain ⟨⟨rfl, rfl⟩, fun _ =>
      @Prog.Only.bind _ _ _ _ _ close _ close_asksNothing fun _ => trivial⟩
  refine .act rfl rfl fun _ => Prog.Entering.ite (fun _ => trivial) fun _ => ?_
  refine .act rfl rfl fun _ => .act rfl rfl fun _ => .act rfl rfl fun _ => .act rfl rfl fun _ => ?_
  refine Prog.Entering.ite (fun _ => .act rfl rfl fun _ => trivial) fun _ => .act rfl rfl fun _ => ?_
  refine .act rfl rfl fun _ => Prog.Entering.ite (fun _ => cleanUp) fun _ => ?_
  refine Prog.Entering.bind (fun _ => id) (asking_of_plain setPortParams_asksNothing) fun _ => ?_
  exact Prog.Entering.ite (fun _ => cleanUp) fun _ => .enter rfl ⟨_, rfl, trivial⟩

/-- All jobs but `open`. -/
theorem runJob_creationless {job : Job} (other : ∀ outcome, job ≠ .operation (.open outcome)) :
    Creationless (runJob libc job) := by
  have routine : ∀ {operation : Operation}, operation.routine = true →
      Creationless (runOperation libc operation) := by
    intro operation routine
    refine (runOperation_routine routine).mono fun effect routine => ?_
    cases effect with
    | pthreadCreate => cases routine
    | _ => rfl
  cases job with
  | iteration hasReadBytes outcome =>
      refine iteration_receives.mono fun effect receives => ?_
      cases effect with
      | pthreadCreate => cases receives
      | _ => rfl
  | operation operation =>
      refine Prog.Only.bind ?_ fun _ => ⟨rfl, fun _ => trivial⟩
      cases operation with
      | «open» outcome => exact absurd rfl (other outcome)
      | init spp precvData =>
          exact (init_only (fun _ => rfl) fun _ => rfl).bind fun _ => trivial
      | close | setReadNotify | isOpened | send | destroy => exact routine rfl

theorem Asking.bind {β : Type} {program : Code α} {rest : α → Code β} (asking : Asking program)
    (plain : ∀ value, (rest value).Only fun effect =>
      effect.asks = false ∧ effect.creates = false) : Asking (program >>= rest) := by
  refine Prog.Entering.bind (fun program asked => ?_) asking fun value =>
    asking_of_plain (plain value)
  obtain ⟨next, rfl, creationless⟩ := asked
  exact ⟨_, rfl, Prog.Only.bind creationless fun value => (plain value).mono fun _ kept => kept.2⟩

theorem runOpen_asking {outcome : OpenOutcome} :
    Asking (runJob libc (.operation (.open outcome))) := by
  have coded : Asking (runOperation libc (.open outcome)) :=
    open_asking.bind fun _ => trivial
  exact coded.bind fun _ => ⟨⟨rfl, rfl⟩, fun _ => trivial⟩

end Jobs

section Runs

variable {libc : SpeedSetters} {config : Config Tid State Effect Effect.Reply Job Result}

/-- Where a call stands that may create the receive thread. -/
def Consulting (config : Config Tid State Effect Effect.Reply Job Result)
    (call : Call State Effect Effect.Reply Job Result) : Prop :=
  Creationless call.prog ∨ lastReceiver config.state.port.history ≠ none ∨
    (∃ outcome, call.job = .operation (.open outcome)) ∧ Asking call.prog

theorem consulting_of_leads
    (leads : (system libc).Leads relay.rule (system libc).initial config) (thread : Tid)
    (call : Call State Effect Effect.Reply Job Result) (calls : config.calls thread = some call) :
    Consulting config call := by
  induction leads generalizing thread call with
  | here => cases calls
  | @step config next label earlier ruled stepped ih =>
      have known := (relay_lawful libc).latest_step earlier ruled stepped
      -- What another thread does leaves the call where it stands.
      have carried : ∀ {call : Call State Effect Effect.Reply Job Result},
          Consulting config call → Consulting next call := by
        intro call consulting
        rcases consulting with creationless | recorded | asking
        · exact .inl creationless
        · exact .inr (.inl (known recorded))
        · exact .inr (.inr asking)
      rcases Machine.step_cases stepped with
        ⟨actor, job, last, rfl, idle, admitted, rfl⟩ |
        ⟨actor, job, entry, past, effect, rest, reply, state, rfl, acting, executed, rfl⟩ |
        ⟨event, state, rfl, changed, rfl⟩
      · by_cases same : thread = actor
        · subst same
          rw [Config.put_calls_self] at calls
          cases calls
          by_cases opens : ∃ outcome, job = .operation (.open outcome)
          · obtain ⟨outcome, rfl⟩ := opens
            exact .inr (.inr ⟨⟨_, rfl⟩, runOpen_asking⟩)
          · exact .inl (runJob_creationless fun outcome same => opens ⟨outcome, same⟩)
        · rw [Config.put_calls_other _ _ _ _ same] at calls
          exact carried (ih thread call calls)
      · by_cases same : thread = actor
        · subst same
          rw [Config.put_calls_self] at calls
          cases calls
          rcases ih thread _ acting with creationless | recorded | ⟨opens, asking⟩
          · exact .inl (creationless.2 reply)
          · exact .inr (.inl (known recorded))
          · cases asks : effect.asks with
            | false => exact .inr (.inr ⟨opens, (asking.2 asks).2 reply⟩)
            | true =>
                -- The receiver that `open` loads is the one on record.
                obtain ⟨continuation, loading, creationless⟩ := asking.1 asks
                obtain ⟨outcome, rfl⟩ := opens
                cases loading
                have settled := (relay_lawful libc).stored_eq_latest earlier acting ⟨_, rfl⟩ rfl
                  ruled
                cases executed
                cases found : config.state.port.param.get .precvData with
                | none => exact .inl creationless
                | some receiver =>
                    refine .inr (.inl ?_)
                    have stored : relay.stored config.state = some receiver := found
                    rw [settled] at stored
                    have recorded : lastReceiver config.state.port.history = some receiver := stored
                    rw [Config.put_state, recorded]
                    exact Option.some_ne_none receiver
        · rw [Config.put_calls_other _ _ _ _ same] at calls
          exact carried (ih thread call calls)
      · exact carried (ih thread call calls)

/-- `open` starts a receive thread only if the latest successful `init` passed a receiver. -/
theorem pthreadCreate_latest
    (leads : (system libc).Leads relay.rule (system libc).initial config) {thread : Tid}
    {call : Call State Effect Effect.Reply Job Result} {outcome : CreateOutcome}
    (calls : config.calls thread = some call) (standing : call.Next (.pthreadCreate outcome)) :
    lastReceiver config.state.port.history ≠ none := by
  obtain ⟨rest, program⟩ := standing
  rcases consulting_of_leads leads thread call calls with creationless | recorded | ⟨-, asking⟩
  · rw [program] at creationless
    cases creationless.1
  · exact recorded
  · rw [program] at asking
    cases (asking.2 rfl).1

end Runs

end LibSp.Linux
