import LibSp.Windows.Monitors
import LibSp.Windows.Stop
import LibSp.Windows.MutexRecv
import LibSp.Concurrent.Progress

/-!
# Every call on Windows can be completed

A client waits for the mutex of the port and, in `stop_thread_monitor`, for its monitor
thread. Both are granted by steps of the monitor threads alone, also of those that an
earlier `close` has given up, if data is sent in the asynchronous mode, `open` is called
with a receiver registered and the log is asked for while its name is free.
-/

set_option autoImplicit false

namespace LibSp.Windows

open Concurrent

/-! ## The runs -/

/-- Data is sent on a closed port or in the asynchronous mode, `open` finds a receiver,
and an `init` that asks for the log finds no logger registered. -/
def considerate : Condition Tid State Effect Job where
  begins _ job s :=
    match job with
    | .operation (.init spp _) => !spp.isToLog || !s.registered
    | .operation (.open _) => s.param.precvData.isSome
    | .operation (.send (some data) _) =>
        data.isEmpty || !s.param.isOpened || decide (modeAsync = s.param.spp.opMode)
    | _ => true
  acts _ _ _ _ := true

theorem considerate_single : Single (oneClient.both considerate) :=
  fun begins => (Condition.both_begins.mp begins).1

theorem considerate_registers : Registers (oneClient.both considerate) :=
  fun begins => (Condition.both_begins.mp begins).2

/-! ## What the client stands on -/

/-- The view of the client, whether it owns the mutex, and whether a logger has the name. -/
structure Standing where
  view : View
  owns : Bool
  registered : Bool

def State.standing (s : State) : Standing where
  view := s.view
  owns := decide (s.mutexRecv = some (.client 0))
  registered := s.registered

/-- What an effect does to the ownership of the mutex. -/
def Effect.owning (owns : Bool) : Effect → Bool
  | .lock => true
  | .unlock => false
  | _ => owns

structure Effect.LookStanding (effect : Effect) (standing : Standing) (reply : effect.Reply)
    (after : Standing) : Prop where
  view : effect.look standing.view reply after.view
  owns : after.owns = effect.owning standing.owns
  registered : after.registered = effect.registry standing.registered

theorem exec_standing {effect : Effect} {s after : State} {reply : effect.Reply}
    (executed : exec (.client 0) effect s = some (reply, after)) :
    effect.LookStanding s.standing reply after.standing where
  view := exec_look executed
  owns := by
    have updated : after.mutexRecv = (effect.update (.client 0) s.members).mutexRecv :=
      congrArg Members.mutexRecv (exec_members executed)
    simp only [State.standing, updated]
    cases effect with
    | createFile name overlapped outcome queued => cases outcome <;> rfl
    | beginthreadex outcome => cases outcome <;> rfl
    | lock => simp [Effect.update, Effect.owning]
    | unlock => simp [Effect.update, Effect.owning]
    | _ => rfl
  registered := (exec_updates executed).2

theorem standing_sole : Sole system (oneClient.both considerate) (.client 0) State.standing
    Effect.LookStanding where
  mine _ _ _ executed := exec_standing executed
  others {config other call effect reply after} reachable different calls standing executed := by
    have view := (client_sole considerate_single).others reachable different calls standing executed
    have owner := @Mutex.owned_by_thread _ _ _ _ _ _ _ _ _ _ (· = false) _ _ mutexRecv_mutex
      rfl runJob_orderly _ reachable (.client 0) _ _ _ _ _ different calls standing executed
    have registered : after.registered = config.state.registered := by
      rw [(exec_updates executed).2]
      match other with
      | .client 0 => exact absurd rfl different
      | .client (number + 1) =>
          simpa [oneClient] using considerate_single (reachable.begun calls)
      | .worker number =>
          have only : call.prog.Only fun effect => effect.monitors = true :=
            reachable.only (fun _ _ _ admitted => runJob_monitors admitted) calls
          obtain ⟨rest, program⟩ := standing
          rw [program] at only
          have monitors := only.1
          cases effect <;> first | rfl | cases monitors
    simp only [State.standing, view, registered, decide_eq_decide.mpr owner]
  external {event s after} changed := by
    have view := (client_sole considerate_single).external changed
    have owner : after.mutexRecv = s.mutexRecv :=
      congrArg Members.mutexRecv (external_members changed)
    have registered : after.registered = s.registered := by
      cases event with
      | arrived bytes =>
          cases changed
          rfl
      | completed block => exact (completeBlock_transferred s changed).registered
    simp only [State.standing, view, registered, owner]

/-! ## Where the client may have to wait -/

/-- What the client has established at the effects that may have to wait. -/
def Attends (effect : Effect) (now : Standing) : Prop :=
  match effect with
  | .lock => now.owns = false
  | .waitForThread .. => now.owns = false ∧ now.view.isRunning = false
  | .rotatingLogger => now.registered = false
  | .threadExit | .nullCall => False
  | _ => True

section Attends

variable {standing : Standing} {α β : Type} {post : α → Standing → Prop}

abbrev AttendsAlone (program : Code α) (post : α → Standing → Prop) (standing : Standing) : Prop :=
  program.Alone Effect.LookStanding Attends post standing

/-- Outside of its critical sections. -/
def Outside (_ : α) (standing : Standing) : Prop := standing.owns = false

/-- The effects that never wait and never take the mutex. -/
def Effect.quiet : Effect → Bool
  | .lock | .waitForThread .. | .rotatingLogger | .threadExit | .nullCall => false
  | _ => true

theorem attends_of_quiet {effect : Effect} (quiet : effect.quiet = true) :
    Attends effect standing := by
  cases effect <;> trivial

theorem outside_of_quiet {effect : Effect} {reply : effect.Reply} {after : Standing}
    (quiet : effect.quiet = true) (looked : effect.LookStanding standing reply after)
    (outside : standing.owns = false) : after.owns = false := by
  rw [looked.owns]
  cases effect <;> first | exact outside | rfl | cases quiet

theorem attends_act {effect : Effect} {next : effect.Reply → Code α} (quiet : effect.quiet = true)
    (continued : ∀ reply after, effect.LookStanding standing reply after →
      AttendsAlone (next reply) post after) :
    AttendsAlone (.act effect next) post standing :=
  ⟨attends_of_quiet quiet, continued⟩

/-- A quiet effect outside of the critical sections, whatever it answers. -/
theorem attends_skip {effect : Effect} {next : effect.Reply → Code α} (quiet : effect.quiet = true)
    (outside : standing.owns = false)
    (continued : ∀ reply after, after.owns = false → AttendsAlone (next reply) post after) :
    AttendsAlone (.act effect next) post standing :=
  attends_act quiet fun reply after looked =>
    continued reply after (outside_of_quiet quiet looked outside)

theorem attends_only {program : Code α} (outside : standing.owns = false)
    (only : program.Only fun effect => effect.quiet = true) :
    AttendsAlone program Outside standing :=
  Prog.Alone.of_only (fun _ _ quiet _ => attends_of_quiet quiet)
    (fun _ _ _ _ quiet outside looked => outside_of_quiet quiet looked outside) only outside

/-- A load keeps the view. -/
theorem view_of_load {field : Field} {value : field.Val} {after : Standing}
    (looked : (Effect.load field).LookStanding standing value after) :
    after.view = standing.view ∧
      ∀ stored, standing.view.get? field = some stored → value = stored :=
  ⟨looked.view.2, looked.view.1⟩

theorem setRecvThreadIsRunning_attends {value : Bool} (outside : standing.owns = false) :
    AttendsAlone (setRecvThreadIsRunning value)
      (fun _ after => after.owns = false ∧ after.view.isRunning = value) standing := by
  refine ⟨outside, fun _ locked _ => attends_act rfl fun _ stored looked => ?_⟩
  have flag : stored.view.isRunning = value := by
    rw [show stored.view = locked.view.set .isRunning value from looked.view]
    rfl
  refine attends_act rfl fun _ unlocked released => attends_act rfl fun _ left leaves => ?_
  refine ⟨leaves.owns.trans released.owns, ?_⟩
  rw [show left.view = unlocked.view from leaves.view,
    show unlocked.view = stored.view from released.view]
  exact flag

theorem getRecvThreadIsRunning_attends (outside : standing.owns = false) :
    AttendsAlone getRecvThreadIsRunning Outside standing := by
  refine ⟨outside, fun _ _ _ => attends_act rfl fun _ _ _ => ?_⟩
  exact attends_act rfl fun _ _ released => attends_act rfl fun _ _ leaves =>
    leaves.owns.trans released.owns

/-- The thread is waited for with the flag cleared and the mutex free. -/
theorem stopThreadMonitor_attends {outcome : CloseOutcome} (outside : standing.owns = false) :
    AttendsAlone (stopThreadMonitor outcome) Outside standing := by
  refine attends_skip rfl outside fun _ _ outside => attends_skip rfl outside fun _ _ outside => ?_
  refine (setRecvThreadIsRunning_attends outside).bind fun _ stopped known => ?_
  obtain ⟨outside, flag⟩ := known
  refine attends_act rfl fun handle now looked => Prog.Alone.ite (fun _ => ?_) fun _ => ?_
  · refine attends_act rfl fun again later loaded => ?_
    have outsideLater : later.owns = false := loaded.owns.trans (looked.owns.trans outside)
    have cleared : later.view.isRunning = false := by
      rw [(view_of_load loaded).1, (view_of_load looked).1]
      exact flag
    refine ⟨⟨outsideLater, cleared⟩, fun _ waited looked => ?_⟩
    have outsideWaited : waited.owns = false := looked.owns.trans outsideLater
    exact attends_only outsideWaited ⟨rfl, fun _ => ⟨rfl, fun _ => ⟨rfl, fun _ => trivial⟩⟩⟩
  · exact looked.owns.trans outside

theorem close_attends {outcome : CloseOutcome} (outside : standing.owns = false) :
    AttendsAlone (close outcome) Outside standing := by
  refine Prog.Alone.bind (attends_skip rfl outside fun opened _ outside => ?_)
    fun _ _ outside => attends_only outside ⟨rfl, fun _ => trivial⟩
  refine Prog.Alone.ite (fun _ => ?_) fun _ => outside
  have resets : (do
      perform (.resetEvent (← load .monitorEvent))
      return 0 : Code Int).Only fun effect => effect.quiet = true :=
    ⟨rfl, fun _ => ⟨rfl, fun _ => trivial⟩⟩
  refine (stopThreadMonitor_attends outside).bind fun _ _ outside => attends_only outside ?_
  refine ⟨rfl, fun _ => Prog.Only.ite (fun _ => ?_) fun _ => resets⟩
  refine ⟨rfl, fun _ => ⟨rfl, fun _ => ⟨rfl, fun _ => ⟨rfl, fun _ => ⟨rfl, fun _ => ?_⟩⟩⟩⟩⟩
  exact ⟨rfl, fun _ => ⟨rfl, fun _ => resets⟩⟩

theorem configure_quiet {outcome : OpenOutcome} :
    (configure outcome).Only fun effect => effect.quiet = true := by
  have flow : ∀ flowCtl, (setFlowCtl flowCtl outcome.setFlowCtl).Only fun effect =>
      effect.quiet = true :=
    fun _ => setFlowCtl_only rfl (fun _ => rfl) (fun _ => rfl) fun _ _ => rfl
  refine ⟨rfl, fun _ => ⟨rfl, fun _ => ⟨rfl, fun _ => ⟨rfl, fun _ => ⟨rfl, fun _ => ?_⟩⟩⟩⟩⟩
  refine ⟨rfl, fun spp => (flow _).bind fun _ => ⟨rfl, fun _ => ⟨rfl, fun _ => ⟨rfl, fun _ => ?_⟩⟩⟩⟩
  refine Prog.Only.ite (fun _ => ?_) fun _ => trivial
  refine ⟨rfl, fun _ => ⟨rfl, fun _ => ⟨rfl, fun _ => ?_⟩⟩⟩
  refine Prog.Only.ite (fun _ => ?_) fun _ => ⟨rfl, fun _ => ⟨rfl, fun _ => trivial⟩⟩
  refine ⟨rfl, fun _ => ⟨rfl, fun _ => ⟨rfl, fun _ => ⟨rfl, fun _ => ?_⟩⟩⟩⟩
  refine Prog.Only.ite (fun _ => ?_) fun _ => trivial
  refine ⟨rfl, fun _ => ⟨rfl, fun _ => ⟨rfl, fun _ => ?_⟩⟩⟩
  refine ⟨rfl, fun _ => Prog.Only.ite (fun _ => ?_) fun _ => trivial⟩
  exact ⟨rfl, fun _ => ⟨rfl, fun _ => trivial⟩⟩

theorem openNamed_quiet {outcome : OpenOutcome} :
    (openNamed outcome).Only fun effect => effect.quiet = true := by
  refine ⟨rfl, fun _ => ⟨rfl, fun _ => ⟨rfl, fun _ => ⟨rfl, fun _ => ⟨rfl, fun _ => ?_⟩⟩⟩⟩⟩
  refine Prog.Only.ite (fun _ => ?_) fun _ => trivial
  refine ⟨rfl, fun _ => ⟨rfl, fun _ => ⟨rfl, fun _ => ?_⟩⟩⟩
  exact Prog.Only.ite (fun _ => configure_quiet) fun _ => ⟨rfl, fun _ => trivial⟩

theorem open_attends {outcome : OpenOutcome} (outside : standing.owns = false) :
    AttendsAlone («open» outcome) Outside standing := by
  refine attends_skip rfl outside fun isInit _ outside => ?_
  refine Prog.Alone.ite (fun _ => outside) fun _ => ?_
  refine (attends_only outside openNamed_quiet).bind fun retVal _ outside => ?_
  exact Prog.Alone.ite (fun _ => (close_attends outside).bind fun _ _ outside => outside)
    fun _ => outside

theorem destroy_attends {outcome : CloseOutcome} (outside : standing.owns = false) :
    AttendsAlone (destroy outcome) Outside standing := by
  refine attends_skip rfl outside fun opened _ outside => ?_
  refine Prog.Alone.ite (fun _ => ?_) fun _ => outside
  refine (close_attends outside).bind fun _ _ outside => attends_only outside ?_
  refine ⟨rfl, fun _ => Prog.Only.ite (fun _ => ⟨rfl, fun _ => ?_⟩) fun _ => trivial⟩
  exact Prog.Only.ite (fun _ => ⟨rfl, fun _ => trivial⟩) fun _ => trivial

theorem sendOverlapped_attends {data : List UInt8} {outcome : WriteOutcome}
    (outside : standing.owns = false) :
    AttendsAlone (sendOverlapped data outcome) Outside standing := by
  refine attends_skip rfl outside fun _ _ outside => ?_
  refine attends_skip rfl outside fun event _ outside => ?_
  refine attends_skip rfl outside fun _ _ outside => ⟨outside, fun _ _ _ => ?_⟩
  refine attends_act rfl fun handle _ _ => attends_act rfl fun written _ _ => ?_
  have asked : ∀ now, AttendsAlone (errorUnless written) (fun _ _ => True) now := fun now =>
    Prog.Alone.ite (fun _ => trivial) fun _ => attends_act rfl fun _ _ _ => trivial
  refine (asked _).bind fun errorId _ _ => attends_act rfl fun _ unlocked released => ?_
  have awaits : (awaitWrite written errorId).Only fun effect => effect.quiet = true :=
    Prog.Only.ite (fun _ => ⟨rfl, fun _ => ⟨rfl, fun _ => trivial⟩⟩) fun _ => trivial
  refine attends_only released.owns (awaits.bind fun ended => ?_)
  exact Prog.Only.ite (fun _ => ⟨rfl, fun _ => trivial⟩) fun _ => trivial

/-- A `send` of data finds the port closed or the mode asynchronous. -/
theorem send_attends {pdata : Option (List UInt8)} {outcome : WriteOutcome}
    (outside : standing.owns = false)
    (mode : ∀ data, pdata = some data → data.length ≠ 0 →
      standing.view.handle ≠ INVALID_HANDLE_VALUE → modeAsync = standing.view.spp.opMode) :
    AttendsAlone (send pdata outcome) Outside standing := by
  refine Prog.Alone.bind (?_ : Prog.Alone _ _ _ Outside standing)
    fun _ _ outside => attends_only outside ⟨rfl, fun _ => trivial⟩
  cases pdata with
  | none => exact outside
  | some data =>
      refine Prog.Alone.ite (fun _ => outside) fun some => ?_
      refine attends_act rfl fun opened tested looked => ?_
      have outsideTested : tested.owns = false := looked.owns.trans outside
      obtain ⟨answer, view⟩ := looked.view
      refine Prog.Alone.ite (fun isOpened => ?_) fun _ => outsideTested
      refine attends_act rfl fun spp loaded found => ?_
      have outsideLoaded : loaded.owns = false := found.owns.trans outsideTested
      have read : spp = standing.view.spp := (view_of_load found).2 _ (by rw [view]; rfl)
      have async : modeAsync = SpProp.opMode spp := by
        rw [read]
        refine mode data rfl some ?_
        rw [answer] at isOpened
        exact of_decide_eq_true isOpened
      refine Prog.Alone.ite (fun _ => sendOverlapped_attends outsideLoaded) fun sync => ?_
      exact absurd async sync

/-- The log is asked for while its name is free. -/
theorem init_attends {spp : SpProp} {precvData : Option IrecvData}
    (outside : standing.owns = false)
    (free : spp.isToLog = true → standing.registered = false) :
    AttendsAlone (init spp precvData) Outside standing := by
  have logs : ∀ (retVal : Int) (now : Standing), now.owns = false → now.view.spp = spp →
      now.registered = standing.registered → AttendsAlone (do
        store .isInit true
        if (← load .spp).isToLog then
          perform .rotatingLogger
          store .plog true
        return retVal) Outside now := by
    intro retVal now outside stored registered
    refine attends_act rfl fun _ marked looked => attends_act rfl fun found loaded looking => ?_
    have outsideLoaded : loaded.owns = false := looking.owns.trans (looked.owns.trans outside)
    have same : found = spp := by
      refine ((view_of_load looking).2 _ rfl).trans ?_
      rw [show marked.view = now.view.set .isInit true from looked.view]
      exact stored
    refine Prog.Alone.ite (fun asks => ⟨?_, fun _ logging logged => ?_⟩) fun _ => outsideLoaded
    · rw [same] at asks
      exact looking.registered.trans (looked.registered.trans (registered.trans (free asks)))
    · exact attends_only (logged.owns.trans outsideLoaded) ⟨rfl, fun _ => trivial⟩
  refine Prog.Alone.ite (fun _ => outside) fun _ => attends_act rfl fun _ stored looked => ?_
  have view : stored.view = standing.view.set .spp spp := looked.view
  have outsideStored : stored.owns = false := looked.owns.trans outside
  refine Prog.Alone.ite (fun _ => attends_act rfl fun _ passed looking => ?_) fun _ => ?_
  · have same : passed.view = stored.view := looking.view
    have registered := looking.registered.trans looked.registered
    refine logs _ _ (looking.owns.trans outsideStored) ?_ registered
    rw [same, view]
    rfl
  · refine logs _ _ outsideStored ?_ looked.registered
    rw [view]
    rfl

/-- What a call of the client may rely on when it begins. -/
def Considers (standing : Standing) : Operation → Prop
  | .init spp _ => spp.isToLog = true → standing.registered = false
  | .send (some data) _ => data.length ≠ 0 → standing.view.handle ≠ INVALID_HANDLE_VALUE →
      modeAsync = standing.view.spp.opMode
  | _ => True

theorem runOperation_attends {operation : Operation} (outside : standing.owns = false)
    (considers : Considers standing operation) :
    AttendsAlone (runOperation operation) Outside standing := by
  cases operation with
  | init spp precvData =>
      exact (init_attends outside considers).bind fun _ _ outside => outside
  | «open» outcome => exact (open_attends outside).bind fun _ _ outside => outside
  | close outcome => exact (close_attends outside).bind fun _ _ outside => outside
  | setReadNotify len => exact attends_only outside ⟨rfl, fun _ => trivial⟩
  | isOpened => exact attends_only outside ⟨rfl, fun _ => trivial⟩
  | send pdata outcome =>
      refine (send_attends outside fun data same => ?_).bind fun _ _ outside => outside
      subst same
      exact considers
  | getRecvThreadIsRunning =>
      exact (getRecvThreadIsRunning_attends outside).bind fun _ _ outside => outside
  | setRecvThreadIsRunning value =>
      exact (setRecvThreadIsRunning_attends outside).bind fun _ _ known => known.1
  | destroy outcome => exact (destroy_attends outside).bind fun _ _ outside => outside

def attending : Account Standing Effect Job Result where
  ready standing := standing.owns = false
  point _ _ := Attends
  post _ _ _ after := after.owns = false

theorem considers_of_begins {thread : Tid} {operation : Operation} {s : State}
    (begins : considerate.begins thread (.operation operation) s = true) :
    Considers s.standing operation := by
  cases operation with
  | init spp precvData =>
      intro asks
      have free : s.registered = false := by simpa [considerate, asks] using begins
      exact free
  | send pdata outcome =>
      cases pdata with
      | none => trivial
      | some data =>
          intro some isOpened
          have nonempty : data.isEmpty = false := by
            cases data with
            | nil => exact absurd rfl some
            | cons first rest => rfl
          have opened : s.param.isOpened = true := decide_eq_true isOpened
          have async : modeAsync = s.param.spp.opMode := by
            simpa [considerate, nonempty, opened] using begins
          exact async
  | _ => trivial

theorem attending_holds : attending.Holds system (oneClient.both considerate) (.client 0)
    State.standing Effect.LookStanding where
  start := rfl
  body {job last s} outside admitted begins := by
    cases job with
    | enter | iteration => cases admitted
    | operation operation =>
        have considers := considers_of_begins (Condition.both_begins.mp begins).2
        exact (runOperation_attends outside considers).bind fun _ _ outside =>
          attends_only outside ⟨rfl, fun _ => trivial⟩
  returned post := post

end Attends

/-! ## The mutex -/

section Runs

variable {config : Config Tid State Effect Effect.Reply Job Result} {number : Nat}

/-- The helpers of the client: its own effects and all that the monitor threads do. -/
def Helps : Label Tid Job Event → Prop
  | .begin (.worker _) _ | .act _ => True
  | .begin (.client _) _ | .external _ => False

variable (reachable : system.Reachable (oneClient.both considerate) config)
include reachable

theorem attends_of_reachable {call : Call State Effect Effect.Reply Job Result} {effect : Effect}
    (calls : config.calls (.client 0) = some call) (standing : call.Next effect) :
    Attends effect config.state.standing :=
  Account.point_of_reachable standing_sole attending_holds reachable calls standing

theorem monitors_of_considerate : MonitorsInv config.state :=
  (monitors_contract considerate_registers).inv_of_reachable reachable

omit reachable in
theorem monitor_body_balanced {last : Option Result} {job : Job} {s : State}
    (admitted : system.admits (.worker number) last s job = true) :
    Balanced (lockUse job) (fun _ _ => True) (system.body job) false := by
  cases job with
  | operation operation => rcases last with _ | (value | (_ | _)) <;> cases admitted
  | enter => exact enterMonitor_balanced.bind fun _ => rfl
  | iteration eventMask outcome => exact iteration_balanced.bind fun _ => rfl

/-- A monitor thread holds the mutex as the rest of its call says, and only in a call. -/
theorem balanced_of_monitor :
    (config.calls (.worker number) = none → config.state.mutexRecv ≠ some (.worker number)) ∧
      ∀ call, config.calls (.worker number) = some call →
        Balanced (lockUse call.job) (fun _ _ => True) call.prog
          (decide (config.state.mutexRecv = some (.worker number))) := by
  have balanced := @Mutex.balanced_thread _ _ _ _ _ _ _ _ _ _ (· = false) _ _ mutexRecv_mutex rfl
    runJob_orderly _ reachable (.worker number) monitor_body_balanced
  refine ⟨fun calls => ?_, fun call calls => ?_⟩
  · simpa only [calls] using balanced
  · simpa only [calls] using balanced

theorem called_of_owner (owns : config.state.mutexRecv = some (.worker number)) :
    ∃ call, config.calls (.worker number) = some call :=
  Option.ne_none_iff_exists'.mp fun none => (balanced_of_monitor reachable).1 none owns

/-- The owner of the mutex is the client or a monitor thread. -/
theorem owner_cases : config.state.mutexRecv = none ∨
    config.state.mutexRecv = some (.client 0) ∨
      ∃ number, config.state.mutexRecv = some (.worker number) := by
  cases owned : config.state.mutexRecv with
  | none => exact .inl rfl
  | some thread =>
      match thread with
      | .client 0 => exact .inr (.inl rfl)
      | .worker number => exact .inr (.inr ⟨number, rfl⟩)
      | .client (number + 1) =>
          have rests := @Mutex.rests _ _ _ _ _ _ _ _ _ _ (· = false) _ _ mutexRecv_mutex rfl
            runJob_orderly _ reachable (.client (number + 1))
          cases calls : config.calls (.client (number + 1)) with
          | none =>
              rw [calls] at rests
              exact absurd owned (of_decide_eq_false rests)
          | some call => simpa [oneClient] using considerate_single (reachable.begun calls)

/-! ## The monitor threads -/

def FreeFor (number : Nat) (s : State) : Prop :=
  s.mutexRecv = none ∨ s.mutexRecv = some (.worker number)

omit reachable in
/-- The driver can complete what a block shows as pending. -/
theorem completeBlock_of_pending {s : State} {block : Block} (submits : Submits s)
    (pending : (s.blocks block).pending = true) : ∃ after, s.completeBlock block = some after := by
  obtain ⟨transfer, member, ofBlock⟩ := submits block pending
  simp only [State.completeBlock]
  cases found : s.inFlight.find? fun transfer => transfer.block = block with
  | none =>
      have missing := List.find?_eq_none.mp found transfer member
      simp [ofBlock] at missing
  | some first => exact ⟨_, rfl⟩

omit reachable in
theorem overlappedResult_executes {thread : Tid} {handle : Handle} {block : Block} {s : State}
    (submits : Submits s) :
    ∃ reply after, exec thread (.getOverlappedResult handle block) s = some (reply, after) := by
  simp only [exec]
  split
  · next pending =>
      obtain ⟨ended, completed⟩ := completeBlock_of_pending submits pending
      rw [completed]
      exact ⟨_, _, rfl⟩
  · exact ⟨_, _, rfl⟩

/-- A monitor thread that finds the mutex free or its own can perform its next effect. -/
theorem monitor_executes {call : Call State Effect Effect.Reply Job Result} {effect : Effect}
    (calls : config.calls (.worker number) = some call) (standing : call.Next effect)
    (free : FreeFor number config.state) :
    ∃ reply after, exec (.worker number) effect config.state = some (reply, after) ∧
      after.view = config.state.view ∧ FreeFor number after := by
  have only : call.prog.Only fun effect => effect.monitors = true :=
    reachable.only (fun _ _ _ admitted => runJob_monitors admitted) calls
  have contract := monitors_contract considerate_registers
  obtain ⟨permitted, -⟩ := contract.point_of_reachable reachable calls standing
  have balanced := (balanced_of_monitor reachable).2 call calls
  have stands := standing
  obtain ⟨rest, program⟩ := stands
  rw [program] at only balanced
  have monitors := only.1
  have executes : ∃ reply after,
      exec (.worker number) effect config.state = some (reply, after) := by
    cases effect with
    | lock =>
        have mine : config.state.mutexRecv ≠ some (.worker number) := of_decide_eq_false balanced.1
        simp only [exec, free.resolve_right mine]
        exact ⟨_, _, rfl⟩
    | getOverlappedResult handle block =>
        exact overlappedResult_executes (monitors_of_considerate reachable).submitted
    | nullCall => exact permitted.elim
    | createFile | setCommConfig | setCommMask | beginthreadex | waitForThread | rotatingLogger
    | getConfig => cases monitors
    | _ => exact ⟨_, _, rfl⟩
  obtain ⟨reply, after, executed⟩ := executes
  have different : Tid.worker number ≠ .client 0 := by simp
  refine ⟨reply, after, executed, ?_, ?_⟩
  · exact (client_sole considerate_single).others reachable different calls standing executed
  · have allowed : lockUse call.job effect ≠ .forbidden := by cases effect <;> simp [lockUse]
    exact mutexRecv_mutex.kept_by allowed free executed

omit reachable in
/-- What the steps of a monitor thread leave as it was. -/
structure Beside (number : Nat) (origin config : Config Tid State Effect Effect.Reply Job Result) :
    Prop where
  free : FreeFor number config.state
  view : config.state.view = origin.state.view
  calls : ∀ other, other ≠ .worker number → config.calls other = origin.calls other

omit reachable in
theorem Beside.refl (free : FreeFor number config.state) : Beside number config config :=
  ⟨free, rfl, fun _ _ => rfl⟩

omit reachable in
theorem Beside.trans {origin middle : Config Tid State Effect Effect.Reply Job Result}
    (early : Beside number origin middle) (late : Beside number middle config) :
    Beside number origin config where
  free := late.free
  view := late.view.trans early.view
  calls other different := (late.calls other different).trans (early.calls other different)

/-- A monitor thread in a job completes it by itself. -/
theorem monitor_completes (free : FreeFor number config.state)
    {call : Call State Effect Effect.Reply Job Result}
    (calls : config.calls (.worker number) = some call) :
    ∃ after, system.Leads ((oneClient.both considerate).helped Helps) config after ∧
      Beside number config after ∧ Completed (.worker number) call after := by
  refine reachable.completes (Beside number config) trivial ?_ (.refl free) calls
  intro now call effect reachableNow beside callsNow standing
  obtain ⟨reply, after, executed, view, freeAfter⟩ :=
    monitor_executes reachableNow callsNow standing beside.free
  refine Machine.advances_now callsNow standing rfl executed fun rest _ => ?_
  refine beside.trans ⟨freeAfter, view, fun other different => ?_⟩
  exact Config.put_calls_other _ _ _ _ different

/-- A monitor thread comes to the end of its job by itself. -/
theorem monitor_rests (free : FreeFor number config.state) :
    ∃ after last, system.Leads ((oneClient.both considerate).helped Helps) config after ∧
      Beside number config after ∧ after.idle? (.worker number) = some last := by
  rcases config.idle_or_next (.worker number) with ⟨last, idle⟩ | ⟨call, effect, calls, standing⟩
  · exact ⟨config, last, .here, .refl free, idle⟩
  · obtain ⟨after, leads, beside, ended, value, called, -, -, returned⟩ :=
      monitor_completes reachable free calls
    exact ⟨after, some value, leads, beside, Config.idle?_of_returned called returned⟩

/-- The monitor thread that holds the mutex gives it back by itself. -/
theorem monitor_releases (owns : config.state.mutexRecv = some (.worker number)) :
    ∃ after, system.Leads ((oneClient.both considerate).helped Helps) config after ∧
      Beside number config after ∧ after.state.mutexRecv = none := by
  obtain ⟨call, calls⟩ := called_of_owner reachable owns
  obtain ⟨after, leads, beside, ended, value, called, -, -, returned⟩ :=
    monitor_completes reachable (.inr owns) calls
  have balanced := (balanced_of_monitor (leads.reachable_helped reachable)).2 ended called
  rw [returned] at balanced
  exact ⟨after, leads, beside, beside.free.resolve_right (of_decide_eq_false balanced)⟩

theorem unowned_of_idle {last : Option Result}
    (idle : config.idle? (.worker number) = some last) :
    config.state.mutexRecv ≠ some (.worker number) := by
  rcases Config.idle?_cases idle with ⟨none, -⟩ | ⟨ended, value, called, returned, -⟩
  · exact (balanced_of_monitor reachable).1 none
  · have balanced := (balanced_of_monitor reachable).2 ended called
    rw [returned] at balanced
    exact of_decide_eq_false balanced

/-- A thread alive between two jobs has not exited. -/
theorem monitor_carries {last : Option Result} (idle : config.idle? (.worker number) = some last)
    (alive : number ∈ config.state.monitors) :
    last = none ∨ ∃ eventMask, last = some (.iteration (.next eventMask)) := by
  have contract := monitors_contract considerate_registers
  have ready := contract.ready_of_reachable reachable idle number rfl
  rcases last with _ | (value | (eventMask | _))
  · exact .inl rfl
  · exact absurd rfl (ready.carries value)
  · exact .inr ⟨eventMask, rfl⟩
  · exact absurd alive (ready.ended rfl).2

/-- With the flag cleared a monitor thread ends in its next iteration. -/
theorem monitor_exits {eventMask : BitVec 32}
    (idle : config.idle? (.worker number) = some (some (.iteration (.next eventMask))))
    (alive : number ∈ config.state.monitors) (free : FreeFor number config.state)
    (cleared : config.state.view.isRunning = false) :
    ∃ after, system.Leads ((oneClient.both considerate).helped Helps) config after ∧
      Beside number config after ∧ number ∉ after.state.monitors := by
  have nobody : config.state.mutexRecv = none :=
    free.resolve_right (unowned_of_idle reachable idle)
  have flag : config.state.param.isRunning = false := cleared
  have inv := monitors_of_considerate reachable
  have admitted : system.admits (.worker number) (some (.iteration (.next eventMask)))
      config.state (.iteration eventMask .quiet) = true := by
    simp [system, admits, alive]
  have advanced : (system.body (.iteration eventMask .quiet)).advance
      (system.exec (.worker number)) 5 config.state = some (.ret (.iteration .exited),
        { config.state with
          mutexRecv := none, monitors := config.state.monitors.erase number }) := by
    simp [system, runJob, threadRecvDataMonitor, getRecvThreadIsRunning, leaving, load, perform,
      Prog.advance, exec, SpParamWin.get, flag, nobody]
  have begun : (oneClient.both considerate).begins (.worker number)
      (.iteration eventMask .quiet) config.state = true := rfl
  have helping : Helps (.act (.worker number)) := trivial
  obtain ⟨after, past, leads, -, final, others⟩ :=
    Machine.Leads.burst 5 helping trivial (fun _ _ _ => rfl) idle admitted begun advanced
  refine ⟨after, leads, ⟨.inl (by rw [final]), ?_, others⟩, ?_⟩
  · rw [final]
    rfl
  · rw [final]
    exact inv.nodup.not_mem_erase

/-- A monitor thread that has not begun comes to the end of its first job. -/
theorem monitor_enters (idle : config.idle? (.worker number) = some none)
    (alive : number ∈ config.state.monitors) (free : FreeFor number config.state) :
    ∃ after value, system.Leads ((oneClient.both considerate).helped Helps) config after ∧
      Beside number config after ∧ after.idle? (.worker number) = some (some value) := by
  have admitted : system.admits (.worker number) none config.state .enter = true := by
    simp [system, admits, alive]
  have stepped : system.step config (.begin (.worker number) .enter) =
      some (config.put (.worker number) ⟨.enter, config.state, [], system.body .enter⟩
        config.state) := by
    simp only [Machine.step, idle, admitted, if_true]
  have ruled : (oneClient.both considerate).helped Helps config
      (.begin (.worker number) .enter) := ⟨rfl, trivial⟩
  have begun := Machine.Leads.step .here ruled stepped
  obtain ⟨after, leads, beside, ended, value, called, -, -, returned⟩ :=
    monitor_completes (begun.reachable_helped reachable) free (Config.put_calls_self _ _ _ _)
  refine ⟨after, value, begun.trans leads, ⟨beside.free, beside.view, fun other different => ?_⟩,
    Config.idle?_of_returned called returned⟩
  exact (beside.calls other different).trans (Config.put_calls_other _ _ _ _ different)

/-- A monitor thread that has done a job ends with the next one. -/
theorem monitor_stops {value : Result} (idle : config.idle? (.worker number) = some (some value))
    (free : FreeFor number config.state) (cleared : config.state.view.isRunning = false) :
    ∃ after, system.Leads ((oneClient.both considerate).helped Helps) config after ∧
      Beside number config after ∧ number ∉ after.state.monitors := by
  by_cases alive : number ∈ config.state.monitors
  · rcases monitor_carries reachable idle alive with none | ⟨eventMask, same⟩
    · cases none
    · cases same
      exact monitor_exits reachable idle alive free cleared
  · exact ⟨config, .here, .refl free, alive⟩

theorem monitor_ends (free : FreeFor number config.state)
    (cleared : config.state.view.isRunning = false) :
    ∃ after, system.Leads ((oneClient.both considerate).helped Helps) config after ∧
      Beside number config after ∧ number ∉ after.state.monitors := by
  obtain ⟨middle, last, leads, beside, idle⟩ := monitor_rests reachable free
  have reachableMiddle := leads.reachable_helped reachable
  have clearedMiddle : middle.state.view.isRunning = false := by
    rw [beside.view]
    exact cleared
  cases last with
  | some value =>
      obtain ⟨after, leadsOn, besideOn, dead⟩ :=
        monitor_stops reachableMiddle idle beside.free clearedMiddle
      exact ⟨after, leads.trans leadsOn, beside.trans besideOn, dead⟩
  | none =>
      by_cases alive : number ∈ middle.state.monitors
      · obtain ⟨entered, value, leadsIn, besideIn, idleIn⟩ :=
          monitor_enters reachableMiddle idle alive beside.free
        have clearedIn : entered.state.view.isRunning = false := by
          rw [besideIn.view]
          exact clearedMiddle
        obtain ⟨after, leadsOn, besideOn, dead⟩ := monitor_stops
          (leadsIn.reachable_helped reachableMiddle) idleIn besideIn.free clearedIn
        exact ⟨after, (leads.trans leadsIn).trans leadsOn,
          (beside.trans besideIn).trans besideOn, dead⟩
      · exact ⟨middle, leads, beside, alive⟩

/-! ## The client -/

/-- Outside of its critical sections the client sees the mutex free after some steps of the
thread that holds it. -/
theorem mutex_frees (outside : config.state.standing.owns = false) :
    ∃ after, system.Leads ((oneClient.both considerate).helped Helps) config after ∧
      after.calls (.client 0) = config.calls (.client 0) ∧
      after.state.view = config.state.view ∧ after.state.mutexRecv = none := by
  rcases owner_cases reachable with none | mine | ⟨number, owns⟩
  · exact ⟨config, .here, rfl, rfl, none⟩
  · exact absurd mine (of_decide_eq_false outside)
  · obtain ⟨after, leads, beside, none⟩ := monitor_releases reachable owns
    exact ⟨after, leads, beside.calls (.client 0) (by simp), beside.view, none⟩

omit reachable in
/-- What a client performs without waiting. -/
theorem client_executes {effect : Effect} {s : State} (submits : Submits s)
    (attended : Attends effect s.standing) (lock : effect ≠ .lock)
    (waits : ∀ handle timesOut, effect ≠ .waitForThread handle timesOut) :
    ∃ reply after, exec (.client 0) effect s = some (reply, after) := by
  cases effect with
  | lock => exact absurd rfl lock
  | waitForThread handle timesOut => exact absurd rfl (waits handle timesOut)
  | rotatingLogger =>
      have free : s.registered = false := attended
      simp only [exec, free]
      exact ⟨_, _, rfl⟩
  | getOverlappedResult handle block => exact overlappedResult_executes submits
  | threadExit | nullCall => exact attended.elim
  | createFile name overlapped outcome queued => cases outcome <;> exact ⟨_, _, rfl⟩
  | beginthreadex outcome => cases outcome <;> exact ⟨_, _, rfl⟩
  | getConfig handle configured =>
      simp only [exec]
      split <;> exact ⟨_, _, rfl⟩
  | setCommConfig handle cfg outcome =>
      simp only [exec]
      split
      · cases outcome <;> exact ⟨_, _, rfl⟩
      · exact ⟨_, _, rfl⟩
  | setCommMask handle mask outcome =>
      simp only [exec]
      split
      · cases outcome <;> exact ⟨_, _, rfl⟩
      · exact ⟨_, _, rfl⟩
  | _ => exact ⟨_, _, rfl⟩

/-- Whatever effect the client stands at can be performed, if need be after some steps of
the monitor threads. -/
theorem client_advances {call : Call State Effect Effect.Reply Job Result} {effect : Effect}
    (calls : config.calls (.client 0) = some call) (standing : call.Next effect) :
    system.Advances (oneClient.both considerate) Helps (.client 0) (fun _ => True) config := by
  have attended := attends_of_reachable reachable calls standing
  have now {middle : Config Tid State Effect Effect.Reply Job Result}
      {reply : effect.Reply} {after : State}
      (same : middle.calls (.client 0) = config.calls (.client 0))
      (executed : exec (.client 0) effect middle.state = some (reply, after)) :
      system.Advances (oneClient.both considerate) Helps (.client 0) (fun _ => True) middle :=
    Machine.advances_now (same.trans calls) standing rfl executed fun _ _ => trivial
  by_cases lock : effect = .lock
  · subst lock
    obtain ⟨after, leads, same, -, free⟩ := mutex_frees reachable attended
    have executed : exec (.client 0) .lock after.state =
        some ((), { after.state with mutexRecv := some (.client 0) }) := by
      simp only [exec, free]
    exact .after leads same (now same executed)
  by_cases waits : ∃ handle timesOut, effect = .waitForThread handle timesOut
  · obtain ⟨handle, timesOut, rfl⟩ := waits
    obtain ⟨outside, cleared⟩ := attended
    obtain ⟨middle, leads, same, view, free⟩ := mutex_frees reachable outside
    have clearedNow : middle.state.view.isRunning = false := by
      rw [view]
      exact cleared
    obtain ⟨after, leadsOn, beside, dead⟩ := monitor_ends
      (leads.reachable_helped reachable) (.inl free : FreeFor handle.toNat middle.state) clearedNow
    have sameAfter := (beside.calls (.client 0) (by simp)).trans same
    have executed : exec (.client 0) (.waitForThread handle timesOut) after.state =
        some ((), after.state) := by
      simp only [exec, dead, false_and, and_false, if_false]
    exact .after (leads.trans leadsOn) sameAfter (now sameAfter executed)
  obtain ⟨reply, after, executed⟩ := client_executes (monitors_of_considerate reachable).submitted
    attended lock fun handle timesOut same => waits ⟨handle, timesOut, same⟩
  exact now rfl executed

end Runs

/-- Wherever a client's call stands, it returns if the client and the monitor threads go on:
neither the mutex nor the wait for a monitor thread holds it up for ever, however many
monitor threads earlier calls have given up. -/
theorem call_completes (config : Config Tid State Effect Effect.Reply Job Result)
    (reachable : system.Reachable (oneClient.both considerate) config)
    (call : Call State Effect Effect.Reply Job Result)
    (calls : config.calls (.client 0) = some call) :
    ∃ after, system.Leads ((oneClient.both considerate).helped Helps) config after ∧
      Completed (.client 0) call after := by
  obtain ⟨after, leads, -, completed⟩ := reachable.completes (fun _ => True) trivial
    (fun now _ called standing => client_advances now called standing) trivial calls
  exact ⟨after, leads, completed⟩

/-- `close` has given up the first monitor thread, which waits for an event. -/
def givenUpRun : List (Label Tid Job Event) :=
  Label.burst (.client 0) (.operation (.init eightNone (some 7))) 5 ++
    Label.burst (.client 0) (.operation (.open .fine)) 36 ++
    Label.burst (.worker 3) .enter 3 ++
    Label.burst (.worker 3) (.iteration 0 .quiet) 7 ++
    Label.burst (.client 0) (.operation (.close ⟨true⟩)) 25

/-- The next `close` waits for the second monitor thread, and the first holds the mutex. -/
def waitingAtCloseRun : List (Label Tid Job Event) :=
  Label.burst (.client 0) (.operation (.open .fine)) 36 ++
    Label.burst (.client 0) (.operation (.close ⟨false⟩)) 9 ++
    .act (.worker 3) :: Label.burst (.worker 3) (.iteration 0 .quiet) 1

theorem call_completes_waiting :
    ∃ between config call,
      system.steps (oneClient.both considerate) system.initial givenUpRun = some between ∧
      system.steps (oneClient.both considerate) between waitingAtCloseRun = some config ∧
      config.calls (.client 0) = some call ∧ call.Next (.waitForThread 5 false) ∧
      exec (.client 0) (.waitForThread 5 false) config.state = none ∧
      config.state.monitors = [3, 5] ∧ config.state.mutexRecv = some (.worker 3) ∧
      ∃ after, system.Leads ((oneClient.both considerate).helped Helps) config after ∧
        Completed (.client 0) call after := by
  have ran : ∃ between config call,
      system.steps (oneClient.both considerate) system.initial givenUpRun = some between ∧
      system.steps (oneClient.both considerate) between waitingAtCloseRun = some config ∧
      config.calls (.client 0) = some call ∧ call.Next (.waitForThread 5 false) ∧
      exec (.client 0) (.waitForThread 5 false) config.state = none ∧
      config.state.monitors = [3, 5] ∧ config.state.mutexRecv = some (.worker 3) :=
    ⟨_, _, _, rfl, rfl, rfl, ⟨_, rfl⟩, rfl, rfl, rfl⟩
  obtain ⟨between, config, call, early, late, calls, standing, waits, alive, owned⟩ := ran
  have reachable := (Machine.Reachable.of_steps .start early).of_steps late
  exact ⟨between, config, call, early, late, calls, standing, waits, alive, owned,
    call_completes config reachable call calls⟩

end LibSp.Windows
