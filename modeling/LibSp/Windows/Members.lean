import LibSp.Windows.Port

/-!
# The members of the Windows port

What a run keeps of the object beside its data streams. Every effect changes it by
a function of its own, whatever the system answers, and the programs perform the
effects of a few lists.
-/

set_option autoImplicit false

namespace LibSp.Windows

open Concurrent

/-- The members of the object, its mutex, the handles of the system and what has
returned. -/
structure Members where
  param : SpParamWin
  mutexRecv : Option Tid
  handles : List (Handle × Kind)
  nextHandle : Nat
  created : Nat
  history : List (Operation × Value)

def State.members (s : State) : Members where
  param := s.param
  mutexRecv := s.mutexRecv
  handles := s.handles
  nextHandle := s.nextHandle
  created := s.created
  history := s.history

def Members.newHandle (members : Members) (kind : Kind) : Members :=
  { members with
    handles := ((members.nextHandle : Handle), kind) :: members.handles
    nextHandle := members.nextHandle + 1 }

/-- What an effect does to the members. -/
def Effect.update (thread : Tid) (members : Members) : Effect → Members
  | .store field value => { members with param := members.param.set field value }
  | .lock => { members with mutexRecv := some thread }
  | .unlock => { members with mutexRecv := none }
  | .createFile _ _ (.ok _) _ => members.newHandle .comm
  | .createEvent => members.newHandle .event
  | .beginthreadex (.ok _) =>
      { members.newHandle .thread with created := members.created + 1 }
  | .closeHandle handle =>
      { members with handles := members.handles.filter fun entry => entry.1 ≠ handle }
  | .returned operation value =>
      { members with history := (operation, value) :: members.history }
  | _ => members

/-- What an effect does to the registration of the logger. -/
def Effect.registry (registered : Bool) : Effect → Bool
  | .rotatingLogger => true
  | .spdlogShutdown => false
  | _ => registered

/-! ## Transfers -/

/-- What a transfer leaves of the state: everything but the data streams, the
transfers in flight with their blocks, and the last errors. -/
def State.Transferred (s after : State) : Prop :=
  ∃ lastError queue blocks inFlight sent consumed, after = { s with
    lastError := lastError, queue := queue, blocks := blocks, inFlight := inFlight
    sent := sent, consumed := consumed }

namespace State.Transferred

variable {first second third s after : State}

theorem trans (early : first.Transferred second) (late : second.Transferred third) :
    first.Transferred third := by
  obtain ⟨_, _, _, _, _, _, rfl⟩ := early
  obtain ⟨_, _, _, _, _, _, rfl⟩ := late
  exact ⟨_, _, _, _, _, _, rfl⟩

theorem members (transferred : s.Transferred after) : after.members = s.members := by
  obtain ⟨_, _, _, _, _, _, rfl⟩ := transferred
  rfl

theorem registered (transferred : s.Transferred after) : after.registered = s.registered := by
  obtain ⟨_, _, _, _, _, _, rfl⟩ := transferred
  rfl

end State.Transferred

section Transfers

variable (thread : Tid) (s : State)

theorem complete_transferred (transfer : Submitted) : s.Transferred (s.complete transfer) := by
  rcases transfer with ⟨data, _ | _⟩ | ⟨count, _ | _⟩ <;> exact ⟨_, _, _, _, _, _, rfl⟩

theorem completeBlock_transferred {after : State} {block : Block}
    (completed : s.completeBlock block = some after) : s.Transferred after := by
  simp only [State.completeBlock] at completed
  split at completed <;> cases completed
  exact State.Transferred.trans ⟨_, _, _, _, _, _, rfl⟩ (complete_transferred _ _)

theorem execWriteFile_transferred (handle : Handle) (data : List UInt8) (overlapped : Bool)
    (outcome : WriteOutcome) :
    s.Transferred (execWriteFile thread handle data overlapped outcome s).2 := by
  unfold execWriteFile
  split
  · cases outcome with
    | now count => cases overlapped <;> exact ⟨_, _, _, _, _, _, rfl⟩
    | pending completion =>
        cases overlapped <;> cases completion <;> exact ⟨_, _, _, _, _, _, rfl⟩
    | refused error notPending => cases overlapped <;> exact ⟨_, _, _, _, _, _, rfl⟩
  · exact ⟨_, _, _, _, _, _, rfl⟩

theorem execReadFile_transferred (handle : Handle) (count : Nat) (overlapped : Bool)
    (outcome : ReadOutcome) :
    s.Transferred (execReadFile thread handle count overlapped outcome s).2 := by
  unfold execReadFile
  split
  · cases outcome with
    | now done => cases overlapped <;> exact ⟨_, _, _, _, _, _, rfl⟩
    | pending completion =>
        cases overlapped <;> cases completion <;> exact ⟨_, _, _, _, _, _, rfl⟩
    | refused error notPending => cases overlapped <;> exact ⟨_, _, _, _, _, _, rfl⟩
  · exact ⟨_, _, _, _, _, _, rfl⟩

theorem execOverlappedResult_transferred (block : Block) :
    s.Transferred (execOverlappedResult thread block s).2 := by
  unfold execOverlappedResult
  split <;> exact ⟨_, _, _, _, _, _, rfl⟩

/-- The effects that only transfer data. -/
def Effect.transfers : Effect → Bool
  | .writeFile .. | .readFile .. | .getOverlappedResult .. => true
  | _ => false

theorem exec_transferred {thread : Tid} {effect : Effect} {s after : State}
    {reply : effect.Reply} (transfers : effect.transfers = true)
    (executed : exec thread effect s = some (reply, after)) : s.Transferred after := by
  cases effect with
  | writeFile handle data overlapped outcome =>
      cases executed
      exact execWriteFile_transferred ..
  | readFile handle count overlapped outcome =>
      cases executed
      exact execReadFile_transferred ..
  | getOverlappedResult handle block =>
      simp only [exec] at executed
      split at executed
      · split at executed <;> cases executed
        next completed =>
          exact (completeBlock_transferred s completed).trans
            (execOverlappedResult_transferred ..)
      · cases executed
        exact execOverlappedResult_transferred ..
  | _ => cases transfers

end Transfers

theorem exec_updates {thread : Tid} {effect : Effect} {s after : State} {reply : effect.Reply}
    (executed : exec thread effect s = some (reply, after)) :
    after.members = effect.update thread s.members ∧
      after.registered = effect.registry s.registered := by
  cases effect with
  | lock =>
      simp only [exec] at executed
      split at executed <;> cases executed
      exact ⟨rfl, rfl⟩
  | createFile name overlapped outcome queued => cases outcome <;> cases executed <;> exact ⟨rfl, rfl⟩
  | getConfig handle configured =>
      simp only [exec] at executed
      split at executed <;> cases executed <;> exact ⟨rfl, rfl⟩
  | setCommConfig handle cfg outcome =>
      simp only [exec] at executed
      split at executed
      · cases outcome <;> cases executed <;> exact ⟨rfl, rfl⟩
      · cases executed
        exact ⟨rfl, rfl⟩
  | setCommMask handle mask outcome =>
      simp only [exec] at executed
      split at executed
      · cases outcome <;> cases executed <;> exact ⟨rfl, rfl⟩
      · cases executed
        exact ⟨rfl, rfl⟩
  | purgeComm handle =>
      cases executed
      split <;> exact ⟨rfl, rfl⟩
  | setCommTimeouts handle timeouts =>
      cases executed
      split <;> exact ⟨rfl, rfl⟩
  | beginthreadex outcome => cases outcome <;> cases executed <;> exact ⟨rfl, rfl⟩
  | waitForThread handle timesOut =>
      simp only [exec] at executed
      split at executed <;> cases executed
      exact ⟨rfl, rfl⟩
  | threadExit =>
      cases thread with
      | client number => cases executed
      | worker number =>
          cases executed
          exact ⟨rfl, rfl⟩
  | writeFile | readFile | getOverlappedResult =>
      have transferred := exec_transferred rfl executed
      exact ⟨transferred.members, transferred.registered⟩
  | rotatingLogger =>
      simp only [exec] at executed
      split at executed <;> cases executed
      exact ⟨rfl, rfl⟩
  | nullCall => cases executed
  | _ =>
      cases executed
      exact ⟨rfl, rfl⟩

theorem exec_members {thread : Tid} {effect : Effect} {s after : State} {reply : effect.Reply}
    (executed : exec thread effect s = some (reply, after)) :
    after.members = effect.update thread s.members :=
  (exec_updates executed).1

/-- What happens beside the threads leaves the members alone. -/
theorem external_members {event : Event} {s after : State}
    (changed : system.external event s = some after) : after.members = s.members := by
  cases event with
  | arrived bytes =>
      cases changed
      rfl
  | completed block => exact (completeBlock_transferred s changed).members

/-- The effect stores the length from which on the receiver is notified. -/
def Effect.setsNotify : Effect → Bool
  | .store .minBytesReadNotify _ => true
  | _ => false

theorem exec_minBytesReadNotify {thread : Tid} {effect : Effect} {s after : State}
    {reply : effect.Reply} (keeps : effect.setsNotify = false)
    (executed : exec thread effect s = some (reply, after)) :
    after.param.minBytesReadNotify = s.param.minBytesReadNotify := by
  have updated : after.param.minBytesReadNotify =
      (effect.update thread s.members).param.minBytesReadNotify :=
    congrArg (fun members : Members => members.param.minBytesReadNotify) (exec_members executed)
  cases effect with
  | store field value => cases field <;> first | exact updated | cases keeps
  | createFile name overlapped outcome queued => cases outcome <;> exact updated
  | beginthreadex outcome => cases outcome <;> exact updated
  | _ => exact updated

/-! ## The effects of a read -/

/-- What a read performs beside its event, its lock and the callback. -/
def Effect.reading : Effect → Bool
  | .load .spp | .load .handle | .load .precvData | .clearCommError .. | .readFile ..
  | .getLastError | .getOverlappedResult _ .read | .onRecvData .. | .nullCall => true
  | _ => false

section Reads

variable {allowed : Effect → Prop} (reads : ∀ effect, effect.reading = true → allowed effect)
  {callback : Code Unit} {notify maxSize : Nat} {outcome : ReadOutcome}
include reads

theorem readSize_only {unread : Nat} : (readSize unread).Only allowed := by
  refine ⟨reads _ rfl, fun _ => Prog.Only.ite (fun _ => ?_) fun _ => trivial⟩
  exact ⟨reads _ rfl, fun _ => ⟨reads _ rfl, fun _ => trivial⟩⟩

variable (called : callback.Only allowed)
include called

theorem readOverlapped_only :
    (readOverlapped callback notify maxSize outcome).Only allowed := by
  refine ⟨reads _ rfl, fun handle => ⟨reads _ rfl, fun arrRead => ?_⟩⟩
  cases arrRead with
  | none =>
      refine ⟨reads _ rfl, fun errorId => Prog.Only.ite (fun _ => ?_) fun _ => trivial⟩
      exact ⟨reads _ rfl, fun _ => ⟨reads _ rfl, fun _ => trivial⟩⟩
  | some arrRead =>
      refine ⟨reads _ rfl, fun receiver => ?_⟩
      cases receiver with
      | none => trivial
      | some receiver =>
          exact Prog.Only.ite (fun _ => trivial) fun _ => ⟨reads _ rfl, fun _ => called⟩

theorem readPlain_only : (readPlain callback notify maxSize outcome).Only allowed := by
  refine ⟨reads _ rfl, fun handle => ⟨reads _ rfl, fun arrRead => ?_⟩⟩
  cases arrRead with
  | none => trivial
  | some arrRead =>
      refine Prog.Only.ite (fun _ => trivial) fun _ => ⟨reads _ rfl, fun receiver => ?_⟩
      cases receiver with
      | none => exact ⟨reads _ rfl, fun _ => trivial⟩
      | some receiver => exact ⟨reads _ rfl, fun _ => called⟩

/-- The event of a read is created, stored, loaded and closed. -/
theorem readMode_only (resets : allowed (.resetOverlapped .read)) (creates : allowed .createEvent)
    (stores : ∀ event, allowed (.store .readEvent event)) (loads : allowed (.load .readEvent))
    (closes : ∀ handle, allowed (.closeHandle handle)) :
    (readMode callback notify maxSize outcome).Only allowed := by
  refine ⟨reads _ rfl, fun spp => Prog.Only.ite (fun _ => ?_) fun _ => readPlain_only reads called⟩
  refine ⟨resets, fun _ => ⟨creates, fun event => ⟨stores event, fun _ => ?_⟩⟩⟩
  refine (readOverlapped_only reads called).bind fun _ => ?_
  exact ⟨loads, fun event => ⟨closes event, fun _ => trivial⟩⟩

end Reads

/-! ## The effects of a monitor thread -/

/-- What a monitor thread performs. -/
def Effect.monitors : Effect → Bool
  | .load _ | .store .readEvent _ | .lock | .unlock | .getLastError | .threadExit
  | .closeHandle _ | .createEvent | .resetEvent _ | .resetOverlapped .read | .readFile ..
  | .getOverlappedResult _ .read | .waitCommEvent _ | .waitForEvent .. | .getEventResult ..
  | .clearCommError .. | .onRecvData .. | .nullCall | .leave _ => true
  | _ => false

theorem reading_monitors (effect : Effect) (reading : effect.reading = true) :
    effect.monitors = true := by
  cases effect with
  | getOverlappedResult handle block => cases block <;> first | rfl | cases reading
  | _ => first | rfl | cases reading

section Monitor

variable {allowed : Effect → Prop} (monitors : ∀ effect, effect.monitors = true → allowed effect)
include monitors

theorem getRecvThreadIsRunning_only : getRecvThreadIsRunning.Only allowed :=
  ⟨monitors _ rfl, fun _ => ⟨monitors _ rfl, fun _ => ⟨monitors _ rfl, fun _ =>
    ⟨monitors _ rfl, fun _ => trivial⟩⟩⟩⟩

theorem enterMonitor_only : enterMonitor.Only allowed := by
  refine ⟨monitors _ rfl, fun _ => Prog.Only.ite (fun _ => ?_) fun _ => ?_⟩
  · exact ⟨monitors _ rfl, fun _ => trivial⟩
  · exact ⟨monitors _ rfl, fun _ => ⟨monitors _ rfl, fun _ => trivial⟩⟩

variable {callback : Code Unit} (called : callback.Only allowed)
include called

theorem readData_only {notify unread : Nat} {outcome : ReadOutcome} :
    (readData callback notify unread outcome).Only allowed := by
  have reads : ∀ effect, effect.reading = true → allowed effect :=
    fun effect reading => monitors effect (reading_monitors effect reading)
  have read : ∀ maxSize, (readMode callback notify maxSize outcome).Only allowed :=
    fun maxSize => readMode_only reads called (monitors _ rfl) (monitors _ rfl)
      (fun _ => monitors _ rfl) (monitors _ rfl) fun _ => monitors _ rfl
  refine Prog.Only.bind ⟨monitors _ rfl, fun _ => Prog.Only.ite (fun _ => trivial) fun _ => ?_⟩
    fun _ => ⟨monitors _ rfl, fun _ => trivial⟩
  refine (readSize_only reads).bind fun maxSize => ⟨monitors _ rfl, fun _ => ?_⟩
  exact (read maxSize).bind fun _ => ⟨monitors _ rfl, fun _ => trivial⟩

theorem handleEvent_only {eventMask : BitVec 32} {outcome : MonitorOutcome} :
    (handleEvent callback eventMask outcome).Only allowed := by
  refine Prog.Only.ite (fun _ => ?_) fun _ => trivial
  refine ⟨monitors _ rfl, fun _ => ⟨monitors _ rfl, fun _ => ⟨monitors _ rfl, fun _ => ?_⟩⟩⟩
  exact Prog.Only.ite (fun _ => (readData_only monitors called).bind fun _ => trivial)
    fun _ => trivial

theorem threadRecvDataMonitor_only {eventMask : BitVec 32} {outcome : MonitorOutcome} :
    (threadRecvDataMonitor callback eventMask outcome).Only allowed := by
  have exits : (do perform .threadExit; return Iteration.exited : Code Iteration).Only allowed :=
    ⟨monitors _ rfl, fun _ => trivial⟩
  refine (getRecvThreadIsRunning_only monitors).bind fun _ => ?_
  refine Prog.Only.ite (fun _ => exits) fun _ => ?_
  refine ⟨monitors _ rfl, fun _ => ⟨monitors _ rfl, fun _ => ⟨monitors _ rfl, fun _ =>
    ⟨monitors _ rfl, fun _ => Prog.Only.ite (fun _ => ?_) fun _ => trivial⟩⟩⟩⟩
  refine ⟨monitors _ rfl, fun _ => ⟨monitors _ rfl, fun _ => ?_⟩⟩
  refine Prog.Only.ite (fun _ => exits) fun _ => (handleEvent_only monitors called).bind fun _ => ?_
  refine Prog.Only.ite (fun _ => ?_) fun _ => trivial
  exact ⟨monitors _ rfl, fun _ => ⟨monitors _ rfl, fun _ => trivial⟩⟩

end Monitor

theorem runJob_monitors {number : Nat} {last : Option Result} {job : Job} {s : State}
    (admitted : admits (.worker number) last s job = true) :
    (runJob job).Only fun effect => effect.monitors = true := by
  cases job with
  | operation operation =>
      rcases last with _ | (value | (_ | _)) <;> cases admitted
  | enter => exact (enterMonitor_only fun _ monitors => monitors).bind fun _ => trivial
  | iteration eventMask outcome =>
      have silent : (pure () : Code Unit).Only fun effect => effect.monitors = true := trivial
      exact (threadRecvDataMonitor_only (fun _ monitors => monitors) silent).bind fun _ => trivial

/-! ## The effects of the operations -/

/-- What `init` performs. -/
def Effect.initial : Effect → Bool
  | .load _ | .store .. | .rotatingLogger | .returned .. => true
  | _ => false

theorem init_only {allowed : Effect → Prop} {spp : SpProp} {precvData : Option IrecvData}
    (initial : ∀ effect, effect.initial = true → effect ≠ .store .plog false →
      effect.setsNotify = false → allowed effect) :
    (init spp precvData).Only allowed := by
  have logs : ∀ retVal : Int, (do
      store .isInit true
      if (← load .spp).isToLog then
        perform .rotatingLogger
        store .plog true
      return retVal : Code Int).Only allowed := by
    intro retVal
    refine ⟨initial _ rfl nofun rfl, fun _ => ⟨initial _ rfl nofun rfl, fun _ => ?_⟩⟩
    refine Prog.Only.ite (fun _ => ⟨initial _ rfl nofun rfl, fun _ => ?_⟩) fun _ => trivial
    exact ⟨initial _ rfl nofun rfl, fun _ => trivial⟩
  refine Prog.Only.ite (fun _ => trivial) fun _ => ⟨initial _ rfl nofun rfl, fun _ => ?_⟩
  exact Prog.Only.ite (fun _ => ⟨initial _ rfl nofun rfl, fun _ => logs _⟩) fun _ => logs _

/-- What `stop_thread_monitor` performs. -/
def Effect.stops : Effect → Bool
  | .load _ | .store .isRunning _ | .store .threadHandle _ | .lock | .unlock | .setCommMask ..
  | .waitForThread .. | .closeHandle _ | .leave _ => true
  | _ => false

/-- What `close` performs. -/
def Effect.closes : Effect → Bool
  | .store .handle value => value = INVALID_HANDLE_VALUE
  | .isOpened | .purgeComm _ | .resetEvent _ => true
  | effect => effect.stops

/-- What `open` performs. -/
def Effect.opens : Effect → Bool
  | .store .handle _ | .store .spp _ | .store .cfg _ | .createFile .. | .getConfig ..
  | .setCommConfig .. | .setCommTimeouts .. | .beginthreadex _ | .getLastError => true
  | effect => effect.closes

/-- What `send` performs beside its write. -/
def Effect.transmits : Effect → Bool
  | .load _ | .store .writeEvent _ | .isOpened | .lock | .unlock | .getLastError | .createEvent
  | .resetOverlapped .write | .getOverlappedResult _ .write | .leave _ => true
  | _ => false

section Closing

variable {allowed : Effect → Prop} {outcome : CloseOutcome}

section Stopping

variable (stops : ∀ effect, effect.stops = true → allowed effect)
include stops

theorem setRecvThreadIsRunning_only {value : Bool} :
    (setRecvThreadIsRunning value).Only allowed :=
  ⟨stops _ rfl, fun _ => ⟨stops _ rfl, fun _ => ⟨stops _ rfl, fun _ =>
    ⟨stops _ rfl, fun _ => trivial⟩⟩⟩⟩

theorem stopThreadMonitor_only : (stopThreadMonitor outcome).Only allowed := by
  refine ⟨stops _ rfl, fun _ => ⟨stops _ rfl, fun _ => ?_⟩⟩
  refine (setRecvThreadIsRunning_only stops).bind fun _ => ⟨stops _ rfl, fun _ => ?_⟩
  refine Prog.Only.ite (fun _ => ⟨stops _ rfl, fun _ => ⟨stops _ rfl, fun _ => ?_⟩⟩) fun _ => trivial
  exact ⟨stops _ rfl, fun _ => ⟨stops _ rfl, fun _ => ⟨stops _ rfl, fun _ => trivial⟩⟩⟩

end Stopping

theorem closes_of_stops {effect : Effect} (stops : effect.stops = true) : effect.closes = true := by
  cases effect with
  | store field value => cases field <;> first | exact stops | cases stops
  | _ => first | rfl | cases stops

variable (closes : ∀ effect, effect.closes = true → allowed effect)
include closes

theorem close_only : (close outcome).Only allowed := by
  have stops : ∀ effect, effect.stops = true → allowed effect :=
    fun effect stops => closes effect (closes_of_stops stops)
  refine Prog.Only.bind ?_ fun _ => ⟨closes _ rfl, fun _ => trivial⟩
  refine ⟨closes _ rfl, fun _ => Prog.Only.ite (fun _ => ?_) fun _ => trivial⟩
  refine (stopThreadMonitor_only stops).bind fun _ => ⟨closes _ rfl, fun _ => ?_⟩
  have resets : (do
      perform (.resetEvent (← load .monitorEvent))
      return 0 : Code Int).Only allowed :=
    ⟨closes _ rfl, fun _ => ⟨closes _ rfl, fun _ => trivial⟩⟩
  refine Prog.Only.ite (fun _ => ?_) fun _ => resets
  refine ⟨closes _ rfl, fun _ => ⟨closes _ rfl, fun _ => ⟨closes _ rfl, fun _ => ?_⟩⟩⟩
  refine ⟨closes _ rfl, fun _ => ⟨closes _ rfl, fun _ => ⟨closes _ rfl, fun _ => ?_⟩⟩⟩
  exact ⟨closes _ rfl, fun _ => resets⟩

theorem destroy_only (shuts : allowed .spdlogShutdown) : (destroy outcome).Only allowed := by
  refine ⟨closes _ rfl, fun _ => Prog.Only.ite (fun _ => ?_) fun _ => trivial⟩
  refine (close_only closes).bind fun _ => ⟨closes _ rfl, fun _ => ?_⟩
  refine Prog.Only.ite (fun _ => ⟨closes _ rfl, fun _ => ?_⟩) fun _ => trivial
  exact Prog.Only.ite (fun _ => ⟨shuts, fun _ => trivial⟩) fun _ => trivial

end Closing

section Opening

theorem setFlowCtl_only {allowed : Effect → Prop} {flowCtl : Int}
    {outcome : Except SystemError Unit} (tests : allowed .isOpened)
    (loads : ∀ field, allowed (.load field)) (stores : ∀ cfg, allowed (.store .cfg cfg))
    (configures : ∀ handle cfg, allowed (.setCommConfig handle cfg outcome)) :
    (setFlowCtl flowCtl outcome).Only allowed := by
  have applied : ∀ cfg, (do
      store .cfg cfg
      let _ ← perform (.setCommConfig (← load .handle) (← load .cfg) outcome) : Code Unit).Only
        allowed :=
    fun cfg => ⟨stores cfg, fun _ => ⟨loads _, fun _ => ⟨loads _, fun _ =>
      ⟨configures _ _, fun _ => trivial⟩⟩⟩⟩
  refine ⟨tests, fun _ => Prog.Only.ite (fun _ => ⟨loads _, fun _ => ?_⟩) fun _ => trivial⟩
  refine Prog.Only.ite (fun _ => applied _) fun _ => ?_
  refine Prog.Only.ite (fun _ => applied _) fun _ => ?_
  exact Prog.Only.ite (fun _ => applied _) fun _ => trivial

variable {allowed : Effect → Prop} {outcome : OpenOutcome}
  (opens : ∀ effect, effect.opens = true → allowed effect)
include opens

theorem configure_only : (configure outcome).Only allowed := by
  refine ⟨opens _ rfl, fun _ => ⟨opens _ rfl, fun _ => ⟨opens _ rfl, fun _ => ?_⟩⟩⟩
  refine ⟨opens _ rfl, fun _ => ⟨opens _ rfl, fun _ => ⟨opens _ rfl, fun spp => ?_⟩⟩⟩
  have flow : (setFlowCtl spp.flowCtl outcome.setFlowCtl).Only allowed :=
    setFlowCtl_only (opens _ rfl) (fun _ => opens _ rfl) (fun _ => opens _ rfl)
      fun _ _ => opens _ rfl
  refine flow.bind fun _ => ⟨opens _ rfl, fun _ => ⟨opens _ rfl, fun _ => ?_⟩⟩
  refine ⟨opens _ rfl, fun accepted => Prog.Only.ite (fun _ => ?_) fun _ => trivial⟩
  refine ⟨opens _ rfl, fun _ => ⟨opens _ rfl, fun _ => ⟨opens _ rfl, fun _ => ?_⟩⟩⟩
  refine Prog.Only.ite (fun _ => ?_) fun _ => ⟨opens _ rfl, fun _ => ⟨opens _ rfl, fun _ => trivial⟩⟩
  refine ⟨opens _ rfl, fun _ => ⟨opens _ rfl, fun _ => ⟨opens _ rfl, fun _ => ?_⟩⟩⟩
  refine ⟨opens _ rfl, fun _ => Prog.Only.ite (fun _ => ⟨opens _ rfl, fun _ => ?_⟩) fun _ => trivial⟩
  refine ⟨opens _ rfl, fun _ => ⟨opens _ rfl, fun _ => ⟨opens _ rfl, fun _ => ?_⟩⟩⟩
  exact Prog.Only.ite (fun _ => ⟨opens _ rfl, fun _ => ⟨opens _ rfl, fun _ => trivial⟩⟩)
    fun _ => trivial

theorem open_only : («open» outcome).Only allowed := by
  have closes : ∀ effect, effect.closes = true → allowed effect := by
    intro effect closes
    refine opens effect ?_
    cases effect with
    | store field value => cases field <;> first | rfl | exact closes
    | _ => first | rfl | cases closes
  refine ⟨opens _ rfl, fun _ => Prog.Only.ite (fun _ => trivial) fun _ => Prog.Only.bind ?_ fun _ => ?_⟩
  · refine ⟨opens _ rfl, fun _ => ⟨opens _ rfl, fun _ => ⟨opens _ rfl, fun _ => ?_⟩⟩⟩
    refine ⟨opens _ rfl, fun _ => ⟨opens _ rfl, fun _ => Prog.Only.ite (fun _ => ?_) fun _ => trivial⟩⟩
    refine ⟨opens _ rfl, fun _ => ⟨opens _ rfl, fun _ => ⟨opens _ rfl, fun _ => ?_⟩⟩⟩
    exact Prog.Only.ite (fun _ => configure_only opens) fun _ => ⟨opens _ rfl, fun _ => trivial⟩
  · exact Prog.Only.ite (fun _ => (close_only closes).bind fun _ => trivial) fun _ => trivial

end Opening

section Sending

variable {allowed : Effect → Prop} {outcome : WriteOutcome}

theorem errorUnless_only {done : Bool} (asks : allowed .getLastError) :
    (errorUnless done).Only allowed :=
  Prog.Only.ite (fun _ => trivial) fun _ => ⟨asks, fun _ => trivial⟩

theorem sendPlain_only {data : List UInt8} (locks : allowed .lock) (loads : allowed (.load .handle))
    (writes : ∀ handle, allowed (.writeFile handle data false outcome))
    (asks : allowed .getLastError) : (sendPlain data outcome).Only allowed := by
  refine ⟨locks, fun _ => ⟨loads, fun _ => ⟨writes _, fun _ => ?_⟩⟩⟩
  exact (errorUnless_only asks).bind fun _ => ⟨locks, fun _ => trivial⟩

variable (transmits : ∀ effect, effect.transmits = true → allowed effect)
include transmits

theorem awaitWrite_only {written : Bool} {errorId : Int} :
    (awaitWrite written errorId).Only allowed :=
  Prog.Only.ite (fun _ => ⟨transmits _ rfl, fun _ => ⟨transmits _ rfl, fun _ => trivial⟩⟩)
    fun _ => trivial

variable (writes : ∀ handle data overlapped, allowed (.writeFile handle data overlapped outcome))
include writes

theorem sendOverlapped_only {data : List UInt8} : (sendOverlapped data outcome).Only allowed := by
  refine ⟨transmits _ rfl, fun _ => ⟨transmits _ rfl, fun _ => ⟨transmits _ rfl, fun _ => ?_⟩⟩⟩
  refine ⟨transmits _ rfl, fun _ => ⟨transmits _ rfl, fun _ => ⟨writes _ _ _, fun _ => ?_⟩⟩⟩
  refine (errorUnless_only (transmits _ rfl)).bind fun _ => ⟨transmits _ rfl, fun _ => ?_⟩
  refine (awaitWrite_only transmits).bind fun _ => ?_
  exact Prog.Only.ite (fun _ => ⟨transmits _ rfl, fun _ => trivial⟩) fun _ => trivial

theorem send_only {pdata : Option (List UInt8)} : (send pdata outcome).Only allowed := by
  refine Prog.Only.bind ?_ fun _ => ⟨transmits _ rfl, fun _ => trivial⟩
  cases pdata with
  | none => trivial
  | some data =>
      refine Prog.Only.ite (fun _ => trivial) fun _ => ⟨transmits _ rfl, fun _ => ?_⟩
      refine Prog.Only.ite (fun _ => ⟨transmits _ rfl, fun _ => ?_⟩) fun _ => trivial
      refine Prog.Only.ite (fun _ => sendOverlapped_only transmits writes) fun _ => ?_
      exact sendPlain_only (transmits _ rfl) (transmits _ rfl) (fun _ => writes _ _ _)
        (transmits _ rfl)

end Sending

/-! ## The jobs -/

/-- Only `set_read_notify` stores the length. -/
theorem runJob_keepsNotify {job : Job} (other : ∀ len, job ≠ .operation (.setReadNotify len)) :
    (runJob job).Only fun effect => effect.setsNotify = false := by
  have monitors : ∀ effect : Effect, effect.monitors = true → effect.setsNotify = false := by
    intro effect monitors
    cases effect with
    | store field value => cases field <;> first | rfl | cases monitors
    | _ => rfl
  have closes : ∀ effect : Effect, effect.closes = true → effect.setsNotify = false := by
    intro effect closes
    cases effect with
    | store field value => cases field <;> first | rfl | cases closes
    | _ => rfl
  cases job with
  | enter => exact (enterMonitor_only monitors).bind fun _ => trivial
  | iteration eventMask outcome =>
      have silent : (pure () : Code Unit).Only fun effect => effect.setsNotify = false := trivial
      exact (threadRecvDataMonitor_only monitors silent).bind fun _ => trivial
  | operation operation =>
      refine Prog.Only.bind ?_ fun _ => ⟨rfl, fun _ => trivial⟩
      cases operation with
      | init spp precvData => exact (init_only fun _ _ _ keeps => keeps).bind fun _ => trivial
      | «open» outcome =>
          refine Prog.Only.bind (open_only fun effect opens => ?_) fun _ => trivial
          cases effect with
          | store field value => cases field <;> first | rfl | cases opens
          | _ => rfl
      | close outcome => exact (close_only closes).bind fun _ => trivial
      | setReadNotify len => exact absurd rfl (other len)
      | isOpened => exact ⟨rfl, fun _ => trivial⟩
      | send pdata outcome =>
          refine Prog.Only.bind (send_only (fun effect transmits => ?_) fun _ _ _ => rfl)
            fun _ => trivial
          cases effect with
          | store field value => cases field <;> first | rfl | cases transmits
          | _ => rfl
      | getRecvThreadIsRunning =>
          exact (getRecvThreadIsRunning_only monitors).bind fun _ => trivial
      | setRecvThreadIsRunning value =>
          have stops : ∀ effect : Effect, effect.stops = true → effect.setsNotify = false :=
            fun effect stops => closes effect (closes_of_stops stops)
          exact (setRecvThreadIsRunning_only stops).bind fun _ => trivial
      | destroy outcome => exact (destroy_only closes rfl).bind fun _ => trivial

/-! ## The handles -/

/-- Handles are numbered from 1 in the order of their creation. -/
structure Members.Numbered (members : Members) : Prop where
  positive : 0 < members.nextHandle
  given : ∀ entry ∈ members.handles, 0 < entry.1 ∧ entry.1 < members.nextHandle
  unique : ∀ entry ∈ members.handles, ∀ other ∈ members.handles, entry.1 = other.1 →
    entry.2 = other.2

section Numbered

variable {members : Members} (numbered : members.Numbered)
include numbered

theorem Members.Numbered.newHandle (kind : Kind) : (members.newHandle kind).Numbered where
  positive := Nat.lt_succ_of_lt numbered.positive
  given := by
    have next : (members.nextHandle : Int) < (members.newHandle kind).nextHandle :=
      Int.ofNat_lt.mpr (Nat.lt_succ_self _)
    intro entry member
    rcases List.mem_cons.mp member with rfl | before
    · exact ⟨Int.natCast_pos.mpr numbered.positive, next⟩
    · exact ⟨(numbered.given entry before).1, Int.lt_trans (numbered.given entry before).2 next⟩
  unique := by
    intro entry member other also same
    rcases List.mem_cons.mp member with rfl | before <;>
      rcases List.mem_cons.mp also with rfl | alsoBefore
    · rfl
    · exact absurd same.symm (Int.ne_of_lt (numbered.given other alsoBefore).2)
    · exact absurd same (Int.ne_of_lt (numbered.given entry before).2)
    · exact numbered.unique entry before other alsoBefore same

theorem Members.Numbered.update (thread : Tid) (effect : Effect) :
    (effect.update thread members).Numbered := by
  unfold Effect.update
  split
  · exact { numbered with }
  · exact { numbered with }
  · exact { numbered with }
  · exact numbered.newHandle .comm
  · exact numbered.newHandle .event
  · exact { numbered.newHandle .thread with }
  · constructor
    · exact numbered.positive
    · exact fun entry member => numbered.given entry (List.mem_filter.mp member).1
    · exact fun entry member other also =>
        numbered.unique entry (List.mem_filter.mp member).1 other (List.mem_filter.mp also).1
  · exact { numbered with }
  · exact numbered

end Numbered

theorem numbered_of_reachable {condition : Condition Tid State Effect Job}
    {config : Config Tid State Effect Effect.Reply Job Result}
    (reachable : system.Reachable condition config) : config.state.members.Numbered := by
  refine reachable.state_invariant (fun s => s.members.Numbered) ?_ ?_ ?_
  · constructor
    · decide
    · decide
    · decide
  · intro thread effect s reply after numbered executed
    rw [exec_members executed]
    exact numbered.update thread effect
  · intro event s after numbered changed
    rw [external_members changed]
    exact numbered

end LibSp.Windows
