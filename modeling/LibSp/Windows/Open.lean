import LibSp.Windows.Client

/-!
# Opening with one client

The monitor threads touch nothing that `open` speaks of, so the rules of the
client hold in every run with one. They say which name each `CreateFile` gets,
and what an `open` has kept or restored when it returns.
-/

set_option autoImplicit false

namespace LibSp.Windows

open Concurrent

/-! ## The monitor threads -/

section Monitor

variable {condition : Condition Tid State Effect Job} {number : Nat} {job : Job} {α β : Type}

/-- From every state the monitor thread can run the program under interference. -/
def MonitorSafe (condition : Condition Tid State Effect Job) (number : Nat) (job : Job)
    (program : Code α) : Prop :=
  ∀ s, s.members.Inv →
    Safe system condition rules (.worker number) job program (fun _ _ => True) s

theorem monitor_guarantees {effect : Effect} {s after : State} {reply : effect.Reply}
    (inv : s.members.Inv) (pointed : MonitorPoint s.members effect)
    (executed : exec (.worker number) effect s = some (reply, after)) :
    after.members.Inv ∧ ∀ other, other ≠ .worker number → Rely other s after := by
  obtain ⟨invAfter, owned⟩ := monitor_keeps inv pointed
  rw [← exec_members executed] at invAfter owned
  refine ⟨invAfter, fun other _ => ?_⟩
  match other with
  | .client 0 => exact owned
  | .client (_ + 1) => trivial
  | .worker second => exact worker_relies executed second

/-- An effect whose point is that some handle is harmless. -/
theorem monitor_harmless {effect : Effect} {next : effect.Reply → Code α} {handle : Handle}
    (pointed : ∀ members : Members, members.Harmless handle → MonitorPoint members effect)
    (continued : ∀ reply, MonitorSafe condition number job (next reply)) {s : State}
    (harmless : s.members.Harmless handle) :
    Safe system condition rules (.worker number) job (.act effect next) (fun _ _ => True) s := by
  intro now relied inv
  have pointedNow := pointed now.members (relied handle harmless)
  refine ⟨pointedNow, fun reply after _ executed => ?_⟩
  obtain ⟨invAfter, guaranteed⟩ := monitor_guarantees inv pointedNow executed
  exact ⟨invAfter, guaranteed, continued reply after invAfter⟩

namespace MonitorSafe

theorem ret {value : α} : MonitorSafe condition number job (Prog.ret value : Code α) :=
  fun _ _ _ _ _ => trivial

theorem act {effect : Effect} {next : effect.Reply → Code α}
    (pointed : ∀ members, MonitorPoint members effect)
    (continued : ∀ reply, MonitorSafe condition number job (next reply)) :
    MonitorSafe condition number job (.act effect next) :=
  fun _ inv => monitor_harmless (fun members _ => pointed members) continued inv.readEvent

theorem bind {program : Code α} {rest : α → Code β}
    (first : MonitorSafe condition number job program)
    (second : ∀ value, MonitorSafe condition number job (rest value)) :
    MonitorSafe condition number job (program >>= rest) := by
  intro s inv
  refine Safe.bind (rely_refl (.worker number)) inv ((first s inv).mono ?_)
  exact fun value now invNow _ => second value now invNow

theorem ite {test : Prop} [Decidable test] {first second : Code α}
    (positive : test → MonitorSafe condition number job first)
    (negative : ¬ test → MonitorSafe condition number job second) :
    MonitorSafe condition number job (if test then first else second) := by
  split
  · next holds => exact positive holds
  · next fails => exact negative fails

end MonitorSafe

theorem getRecvThreadIsRunning_monitor :
    MonitorSafe condition number job getRecvThreadIsRunning :=
  .act (fun _ => trivial) fun _ => .act (fun _ => trivial) fun _ => .act (fun _ => trivial)
    fun _ => .act (fun _ => trivial) fun _ => .ret

theorem enterMonitor_monitor : MonitorSafe condition number job enterMonitor := by
  refine .act (fun _ => trivial) fun handle => .ite (fun _ => ?_) fun _ => ?_
  · exact .act (fun _ => trivial) fun _ => .ret
  · exact .act (fun _ => trivial) fun _ => .act (fun _ => trivial) fun _ => .ret

theorem readOverlapped_monitor {notify maxSize : Nat} {outcome : ReadOutcome} :
    MonitorSafe condition number job (readOverlapped (pure ()) notify maxSize outcome) := by
  refine .act (fun _ => trivial) fun _ => .act (fun _ => trivial) fun arrRead => ?_
  cases arrRead with
  | none =>
      refine .act (fun _ => trivial) fun errorId => .ite (fun _ => ?_) fun _ => .ret
      exact .act (fun _ => trivial) fun _ => .act (fun _ => trivial) fun _ => .ret
  | some arrRead =>
      refine .act (fun _ => trivial) fun receiver => ?_
      cases receiver with
      | none => exact .ret
      | some receiver =>
          exact .ite (fun _ => .ret) fun _ => .act (fun _ => trivial) fun _ => .ret

theorem readPlain_monitor {notify maxSize : Nat} {outcome : ReadOutcome} :
    MonitorSafe condition number job (readPlain (pure ()) notify maxSize outcome) := by
  refine .act (fun _ => trivial) fun _ => .act (fun _ => trivial) fun arrRead => ?_
  cases arrRead with
  | none => exact .ret
  | some arrRead =>
      refine .ite (fun _ => .ret) fun _ => .act (fun _ => trivial) fun receiver => ?_
      cases receiver with
      | none => exact .act (fun _ => trivial) fun _ => .ret
      | some receiver => exact .act (fun _ => trivial) fun _ => .ret

/-- The events of the reads are created and closed by monitor threads only. -/
theorem readMode_monitor {notify maxSize : Nat} {outcome : ReadOutcome} :
    MonitorSafe condition number job (readMode (pure ()) notify maxSize outcome) := by
  refine .act (fun _ => trivial) fun spp => .ite (fun _ => ?_) fun _ => readPlain_monitor
  refine .act (fun _ => trivial) fun _ => fun s inv now _ invNow => ⟨trivial, ?_⟩
  rintro event created - executed
  have pointed : MonitorPoint now.members .createEvent := trivial
  obtain ⟨invCreated, guaranteed⟩ := monitor_guarantees invNow pointed executed
  refine ⟨invCreated, guaranteed, ?_⟩
  have harmless : created.members.Harmless event := by
    cases executed
    exact newHandle_fresh invNow
  have stores : ∀ members : Members, members.Harmless event →
      MonitorPoint members (.store .readEvent event) := fun _ harmless => harmless
  refine monitor_harmless stores (fun _ => ?_) harmless
  refine readOverlapped_monitor.bind fun _ => fun before _ reading _ invReading => ⟨trivial, ?_⟩
  rintro handle loaded - executed
  cases executed
  refine ⟨invReading, fun other _ => rely_refl other _, ?_⟩
  have closes : ∀ members : Members, members.Harmless reading.param.readEvent →
      MonitorPoint members (.closeHandle reading.param.readEvent) := fun _ harmless => harmless
  exact monitor_harmless closes (fun _ => .ret) invReading.readEvent

theorem readData_monitor {notify unread : Nat} {outcome : ReadOutcome} :
    MonitorSafe condition number job (readData (pure ()) notify unread outcome) := by
  have body : MonitorSafe condition number job (do
      if INVALID_HANDLE_VALUE ≠ (← load .handle) then
        return 0
      let maxSize ← readSize unread
      perform .lock
      readMode (pure ()) notify maxSize outcome
      perform .unlock
      return (0 : Int)) := by
    refine .act (fun _ => trivial) fun handle => .ite (fun _ => .ret) fun _ => ?_
    refine .act (fun _ => trivial) fun spp => ?_
    have transfer : ∀ maxSize, MonitorSafe condition number job (do
        perform .lock
        readMode (pure ()) notify maxSize outcome
        perform .unlock
        return (0 : Int)) := fun maxSize =>
      .act (fun _ => trivial) fun _ => readMode_monitor.bind fun _ =>
        .act (fun _ => trivial) fun _ => .ret
    refine MonitorSafe.bind (.ite (fun _ => ?_) fun _ => .ret) transfer
    exact .act (fun _ => trivial) fun _ => .act (fun _ => trivial) fun _ => .ret
  exact body.bind fun _ => .act (fun _ => trivial) fun _ => .ret

theorem handleEvent_monitor {eventMask : BitVec 32} {outcome : MonitorOutcome} :
    MonitorSafe condition number job (handleEvent (pure ()) eventMask outcome) := by
  refine .ite (fun _ => ?_) fun _ => .ret
  refine .act (fun _ => trivial) fun _ => .act (fun _ => trivial) fun cbInQue => ?_
  refine .act (fun _ => trivial) fun notify => .ite (fun _ => ?_) fun _ => .ret
  exact readData_monitor.bind fun _ => .ret

theorem threadRecvDataMonitor_monitor {eventMask : BitVec 32} {outcome : MonitorOutcome} :
    MonitorSafe condition number job (threadRecvDataMonitor (pure ()) eventMask outcome) := by
  refine getRecvThreadIsRunning_monitor.bind fun running => .ite (fun _ => ?_) fun _ => ?_
  · exact .act (fun _ => trivial) fun _ => .ret
  · refine .act (fun _ => trivial) fun _ => .act (fun _ => trivial) fun _ => ?_
    refine .act (fun _ => trivial) fun _ => .act (fun _ => trivial) fun signalled => ?_
    refine .ite (fun _ => ?_) fun _ => .ret
    refine .act (fun _ => trivial) fun _ => .act (fun _ => trivial) fun confirmed => ?_
    refine .ite (fun _ => .act (fun _ => trivial) fun _ => .ret) fun _ => ?_
    refine handleEvent_monitor.bind fun _ => .ite (fun _ => ?_) fun _ => .ret
    exact .act (fun _ => trivial) fun _ => .act (fun _ => trivial) fun _ => .ret

end Monitor

/-! ## Runs -/

theorem rely_of_members {s after : State} (same : after.members = s.members) (thread : Tid) :
    Rely thread s after := by
  match thread with
  | .client 0 => exact congrArg Members.owned same
  | .client (_ + 1) => trivial
  | .worker number =>
      intro handle harmless
      rw [same]
      exact harmless

theorem client_call {thread : Nat} {last : Option Result} {job : Job} {s : State}
    (inv : s.members.Inv) (ready : rules.ready (.client thread) last s)
    (admitted : admits (.client thread) last s job = true)
    (begins : oneClient.begins (.client thread) job s = true) :
    Safe system oneClient rules (.client thread) job (runJob job)
      (rules.post (.client thread) job s) s := by
  have first : thread = 0 := by simpa [oneClient] using begins
  subst first
  cases job with
  | operation operation => exact operation_safe inv ready
  | enter => cases admitted
  | iteration eventMask outcome => cases admitted

theorem monitor_call {number : Nat} {last : Option Result} {job : Job} {s : State}
    (inv : s.members.Inv) (admitted : admits (.worker number) last s job = true) :
    Safe system oneClient rules (.worker number) job (runJob job)
      (rules.post (.worker number) job s) s := by
  cases job with
  | operation operation => cases last with
      | none => cases admitted
      | some result => cases result with
          | value value => cases admitted
          | iteration iteration => cases iteration <;> cases admitted
  | enter => exact enterMonitor_monitor.bind (fun _ => .ret) s inv
  | iteration eventMask outcome =>
      exact threadRecvDataMonitor_monitor.bind (fun _ => .ret) s inv

theorem windows_contract : Contract system oneClient rules where
  rely_refl := rely_refl
  rely_trans thread := rely_trans thread
  inv_start := members_start
  ready_start thread := by
    match thread with
    | .client 0 => exact rfl
    | .client (_ + 1) => trivial
    | .worker number => trivial
  ready_stable thread last s after ready relied _ := by
    match thread with
    | .client 0 =>
        have named : Named s.owned.toSettings := ready
        have same : after.owned = s.owned := relied
        rw [← same] at named
        exact named
    | .client (_ + 1) => trivial
    | .worker number => trivial
  external event s after inv changed := by
    have same := external_members changed
    have invAfter : after.members.Inv := same ▸ inv
    exact ⟨invAfter, rely_of_members same⟩
  post_ready thread job entry value s inv post := by
    match thread, job, value with
    | .client 0, .operation _, .value _ => exact post.1
    | .client (_ + 1), _, _ => trivial
    | .worker number, _, _ => trivial
  call thread last job s inv ready admitted begins := by
    cases thread with
    | client thread => exact client_call inv ready admitted begins
    | worker number => exact monitor_call inv admitted

/-! ## The name that `CreateFile` gets -/

theorem length_renamed (name : String) : (devicePrefix ++ name).length = 4 + name.length :=
  length_prefixed 1 name

theorem name_ne_renamed (name : String) : devicePrefix ++ name ≠ name := by
  intro same
  have lengths := congrArg String.length same
  rw [length_renamed] at lengths
  omega

theorem prefixed_succ_iff (opens : Nat) (name : String) :
    prefixed (opens + 1) name = devicePrefix ++ name ↔ opens = 0 := by
  constructor
  · intro same
    have lengths := congrArg String.length same
    rw [length_renamed, length_prefixed] at lengths
    omega
  · intro same
    subst same
    rfl

/-- In every run with one client, each `CreateFile` gets the device prefix and the
name of the latest successful `init` exactly if no `open` has been called since. -/
theorem createFile_name_iff (config : Config Tid State Effect Effect.Reply Job Result)
    (reachable : system.Reachable oneClient config) (thread : Tid)
    (call : Call State Effect Effect.Reply Job Result) (name : String) (overlapped : Bool)
    (outcome : Except SystemError Unit) (queued : List UInt8)
    (calls : config.calls thread = some call)
    (standing : call.Next (.createFile name overlapped outcome queued)) :
    ∃ spp opens, lastInit config.state.history = some (spp, opens) ∧
      (name = devicePrefix ++ spp.name ↔ opens = 0) := by
  have pointed := windows_contract.point_of_reachable reachable calls standing
  cases thread with
  | client thread =>
      obtain ⟨spp, opens, found, rfl⟩ := pointed
      exact ⟨spp, opens, found, prefixed_succ_iff opens spp.name⟩
  | worker number => exact pointed.elim

def eightNonePlain : SpProp := { eightNone with opMode := modeSync }

theorem createFile_name_first :
    ∃ config call spp opens, system.steps oneClient system.initial
        (Label.burst (.client 0) (.operation (.init eightNone none)) 4 ++
          Label.burst (.client 0) (.operation (.open .fine)) 6) = some config ∧
      config.calls (.client 0) = some call ∧
      lastInit config.state.history = some (spp, opens) ∧
      (devicePrefix ++ eightNone.name = devicePrefix ++ spp.name ↔ opens = 0) := by
  have ran : ∃ config call, system.steps oneClient system.initial
      (Label.burst (.client 0) (.operation (.init eightNone none)) 4 ++
        Label.burst (.client 0) (.operation (.open .fine)) 6) = some config ∧
      config.calls (.client 0) = some call ∧
      call.Next (.createFile (devicePrefix ++ eightNone.name) true (.ok ()) []) :=
    ⟨_, _, rfl, rfl, _, rfl⟩
  obtain ⟨config, call, steps, calls, standing⟩ := ran
  obtain ⟨spp, opens, found, named⟩ := createFile_name_iff config (.of_steps .start steps)
    (.client 0) call _ _ _ _ calls standing
  exact ⟨config, call, spp, opens, steps, calls, found, named⟩

def reopeningRun : List (Label Tid Job Event) :=
  Label.burst (.client 0) (.operation (.init eightNonePlain none)) 4 ++
    Label.burst (.client 0) (.operation (.open .fine)) 30 ++
    Label.burst (.client 0) (.operation (.close ⟨false⟩)) 20 ++
    Label.burst (.client 0) (.operation (.open .fine)) 6

/-- Nothing has failed, and the second `open` asks for another device. -/
theorem reopening_renames :
    ∃ config call name, system.Reachable oneClient config ∧
      config.calls (.client 0) = some call ∧ call.Next (.createFile name false (.ok ()) []) ∧
      lastInit config.state.history = some (eightNonePlain, 1) ∧
      name = devicePrefix ++ (devicePrefix ++ eightNonePlain.name) ∧
      name ≠ devicePrefix ++ eightNonePlain.name := by
  have ran : ∃ config call, system.steps oneClient system.initial reopeningRun = some config ∧
      config.calls (.client 0) = some call ∧
      call.Next (.createFile (devicePrefix ++ (devicePrefix ++ eightNonePlain.name)) false
        (.ok ()) []) ∧
      lastInit config.state.history = some (eightNonePlain, 1) :=
    ⟨_, _, rfl, rfl, ⟨_, rfl⟩, rfl⟩
  obtain ⟨config, call, steps, calls, standing, found⟩ := ran
  exact ⟨config, call, _, .of_steps .start steps, calls, standing, found, rfl, name_ne_renamed _⟩

/-! ## What `open` keeps or restores -/

/-- An `open` that fails leaves the opened state, the handles, the monitor thread
and the settings as they were. One that returns 0 has opened the port and, in the
asynchronous mode, created a monitor thread. -/
def KeepsOrRestores (before : State) (value : Int) (after : State) : Prop :=
  (value ≠ 0 → after.param.isOpened = before.param.isOpened ∧
    after.param.handle = before.param.handle ∧
    after.param.threadHandle = before.param.threadHandle ∧
    after.param.isRunning = before.param.isRunning ∧ after.created = before.created ∧
    after.param.spp = before.param.spp) ∧
  (value = 0 → after.param.isOpened = true ∧
    (after.param.spp.opMode = modeAsync → after.created = before.created + 1))

/-- `open` can do what it should: before any `init`, or on a closed port when every
call that it makes succeeds. -/
def OpensCleanly (outcome : OpenOutcome) (before : State) : Prop :=
  before.param.isInit = false ∨
    before.param.isOpened = false ∧ outcome.createFile.isOk = true ∧
      outcome.setCommConfig.isOk = true ∧
      (before.param.spp.opMode = modeAsync →
        outcome.setCommMask.isOk = true ∧ outcome.beginthreadex.isOk = true)

theorem isOpened_eq_false_iff {s : State} :
    s.param.isOpened = false ↔ s.owned.handle = INVALID_HANDLE_VALUE := by
  rw [SpParamWin.isOpened, decide_eq_false_iff_not, Decidable.not_not]
  rfl

/-- The cases of `open`: only the first and the last can keep their promise. -/
theorem keepsOrRestores_iff {before after : State} {outcome : OpenOutcome} {value : Int}
    {ended : Owned} {operation : Operation} {returned : Value}
    (done : OpenDone outcome before.owned value ended)
    (recorded : after.owned = ended.record operation returned) :
    KeepsOrRestores before value after ↔ OpensCleanly outcome before := by
  have handle : after.param.handle = ended.handle := congrArg Owned.handle recorded
  have spp : after.param.spp = ended.spp := congrArg (fun owned => owned.spp) recorded
  cases done with
  | refused isInit negative same =>
      subst same
      refine iff_of_true ⟨fun _ => ?_, fun zero => ?_⟩ (.inl isInit)
      · have opened : after.param.isOpened = before.param.isOpened := by
          rw [SpParamWin.isOpened, handle]
          rfl
        exact ⟨opened, handle, congrArg Owned.threadHandle recorded,
          congrArg Owned.isRunning recorded, congrArg Owned.created recorded, spp⟩
      · rw [negative] at zero
        cases zero
  | failed isInit fails nonzero renamed =>
      have stored : ended.spp = before.owned.renamed.spp := congrArg Settings.spp renamed
      refine iff_of_false (fun keeps => ?_) ?_
      · have same := (keeps.1 nonzero).2.2.2.2.2
        rw [spp, stored] at same
        exact name_ne_renamed _ (congrArg SpProp.name same)
      · intro condition
        rcases condition with notInit | ⟨isClosed, createFile, setCommConfig, async⟩
        · exact absurd (notInit.symm.trans isInit) (by decide)
        · exact fails ⟨isOpened_eq_false_iff.mp isClosed, createFile, setCommConfig,
            fun mode => (async mode).1⟩
  | opened isInit opens zero renamed isOpened created =>
      have mode : after.param.spp.opMode = before.param.spp.opMode := by
        rw [spp]
        exact congrArg (fun settings => settings.spp.opMode) renamed
      have counted : after.created = before.created +
          startedThreads outcome before.param.spp.opMode :=
        (congrArg Owned.created recorded).trans created
      have isOpenedAfter : after.param.isOpened = true := by
        rw [SpParamWin.isOpened, handle]
        exact decide_eq_true isOpened
      constructor
      · intro keeps
        refine .inr ⟨isOpened_eq_false_iff.mpr opens.isClosed, opens.createFile,
          opens.setCommConfig, fun async => ⟨opens.setCommMask async, ?_⟩⟩
        have started := (keeps.2 zero).2 (mode.trans async)
        rw [counted, startedThreads] at started
        by_cases created : outcome.beginthreadex.isOk = true
        · exact created
        · simp [created] at started
      · intro condition
        rcases condition with notInit | ⟨-, -, -, starts⟩
        · exact absurd (notInit.symm.trans isInit) (by decide)
        · refine ⟨fun nonzero => absurd zero nonzero, fun _ => ⟨isOpenedAfter, fun async => ?_⟩⟩
          have mode := mode.symm.trans async
          rw [counted, startedThreads, if_pos ⟨mode, (starts mode).2⟩]

/-- Every `open` of every run with one client keeps its promise exactly if it runs
before any `init`, or on a closed port with no call of the system failing. -/
theorem open_keepsOrRestores_iff (config : Config Tid State Effect Effect.Reply Job Result)
    (reachable : system.Reachable oneClient config)
    (call : Call State Effect Effect.Reply Job Result) (outcome : OpenOutcome) (value : Int)
    (calls : config.calls (.client 0) = some call) (job : call.job = .operation (.open outcome))
    (returned : call.Returned (.value (.code value))) :
    KeepsOrRestores call.entry value config.state ↔ OpensCleanly outcome call.entry := by
  have ended := windows_contract.post_of_reachable reachable calls returned
  rw [job] at ended
  obtain ⟨-, final, done, recorded⟩ := ended
  exact keepsOrRestores_iff done recorded

def openingRun : List (Label Tid Job Event) :=
  Label.burst (.client 0) (.operation (.init eightNone none)) 4 ++
    Label.burst (.client 0) (.operation (.open .fine)) 36

theorem open_keepsOrRestores_fine :
    ∃ config call, system.steps oneClient system.initial openingRun = some config ∧
      config.calls (.client 0) = some call ∧
      (KeepsOrRestores call.entry 0 config.state ↔ OpensCleanly .fine call.entry) := by
  have ran : ∃ config call, system.steps oneClient system.initial openingRun = some config ∧
      config.calls (.client 0) = some call ∧ call.job = .operation (.open .fine) ∧
      call.Returned (.value (.code 0)) := ⟨_, _, rfl, rfl, rfl, rfl⟩
  obtain ⟨config, call, steps, calls, job, returned⟩ := ran
  exact ⟨config, call, steps, calls, open_keepsOrRestores_iff config (.of_steps .start steps)
    call .fine 0 calls job returned⟩

/-- Every call succeeds, but the monitor thread outlasts the wait of a `close`. -/
def OpenOutcome.outlasting : OpenOutcome := { OpenOutcome.fine with close := ⟨true⟩ }

/-- A second `open` fails and closes the open port. -/
theorem second_open_closes :
    ∃ config call, system.Reachable oneClient config ∧ config.calls (.client 0) = some call ∧
      call.job = .operation (.open .outlasting) ∧ call.Returned (.value (.code (-5))) ∧
      call.entry.param.isOpened = true ∧ config.state.param.isOpened = false ∧
      ¬ KeepsOrRestores call.entry (-5) config.state := by
  have ran : ∃ config call, system.steps oneClient system.initial
      (openingRun ++ Label.burst (.client 0) (.operation (.open .outlasting)) 31) = some config ∧
      config.calls (.client 0) = some call ∧ call.job = .operation (.open .outlasting) ∧
      call.Returned (.value (.code (-5))) ∧ call.entry.param.isOpened = true ∧
      config.state.param.isOpened = false := ⟨_, _, rfl, rfl, rfl, rfl, rfl, rfl⟩
  obtain ⟨config, call, steps, calls, job, returned, before, after⟩ := ran
  refine ⟨config, call, .of_steps .start steps, calls, job, returned, before, after, ?_⟩
  intro keeps
  have same := (keeps.1 (by decide)).1
  rw [before, after] at same
  cases same

end LibSp.Windows
