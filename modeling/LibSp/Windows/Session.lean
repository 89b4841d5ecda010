import LibSp.Windows.View

/-!
# The operations of one client on a Windows port

What each operation does to the settings, the handle and the device.
-/

set_option autoImplicit false

namespace LibSp.Windows

open Concurrent

/-! ## The configuration that `open` asks for -/

/-- The flow control that `set_flow_ctl` puts into a configuration. -/
def flowConfig (flowCtl : Int) (dcb : Dcb) : Dcb :=
  if flowCtl = flowCtlNone then
    { dcb with
      fOutxCtsFlow := false, fRtsControl := RTS_CONTROL_DISABLE, fInX := false, fOutX := false }
  else if flowCtl = flowCtlHardware then
    { dcb with
      fOutxCtsFlow := false, fRtsControl := RTS_CONTROL_DISABLE, fInX := true, fOutX := true }
  else if flowCtl = flowCtlSoftware then
    { dcb with
      fOutxCtsFlow := true, fRtsControl := RTS_CONTROL_HANDSHAKE, fInX := false, fOutX := false }
  else dcb

/-! ## What an operation has done when it returns -/

/-- How a device was opened and configured. -/
def Device.opened (device : Device) : String × Bool × Dcb :=
  (device.name, device.overlapped, device.dcb)

/-- The settings and the device stay, and the handle unless it is given up. -/
structure View.Calm (closing : Bool) (view after : View) : Prop where
  settings : after.toSettings = view.toSettings
  handle : after.handle = view.handle ∨ closing = true ∧ after.handle = INVALID_HANDLE_VALUE
  device : after.device.map Device.opened = view.device.map Device.opened

/-- The port is closed and keeps its settings. -/
structure View.Shut (view after : View) : Prop where
  isClosed : after.handle = INVALID_HANDLE_VALUE
  settings : after.toSettings = view.toSettings

/-- What an `open` that returned this value did. -/
inductive OpenSeen (outcome : OpenOutcome) (view : View) (value : Int) (after : View) : Prop where
  | refused (isInit : view.isInit = false) (negative : value = -1) (same : after = view)
  | already (isInit : view.isInit = true) (isOpened : view.handle ≠ INVALID_HANDLE_VALUE)
      (negative : value = -5) (isClosed : after.handle = INVALID_HANDLE_VALUE)
      (renamed : after.toSettings = view.toSettings.renamed)
  | opened (isInit : view.isInit = true) (opens : Opens outcome view.toOwned) (zero : value = 0)
      (isOpened : after.handle ≠ INVALID_HANDLE_VALUE)
      (renamed : after.toSettings = view.toSettings.renamed)
      (device : after.device.map Device.opened = some
        (devicePrefix ++ view.spp.name, decide (modeAsync = view.spp.opMode),
          flowConfig view.spp.flowCtl (portConfig view.spp outcome.configured)))
  | failed (isInit : view.isInit = true) (wasClosed : view.handle = INVALID_HANDLE_VALUE)
      (fails : ¬ Opens outcome view.toOwned) (nonzero : value ≠ 0)
      (isClosed : after.handle = INVALID_HANDLE_VALUE)
      (renamed : after.toSettings = view.toSettings.renamed)

/-- What an operation that returned this value did. -/
def Seen (view : View) (value : Value) (after : View) : Operation → Prop
  | .init spp precvData => value = .code ((SpParamsCheck.getInstance .windows).isRight spp) ∧
      after.toSettings = view.toSettings.after (.init spp precvData) value ∧
      after.handle = view.handle ∧ after.device = view.device
  | .open outcome => ∃ code, value = .code code ∧ OpenSeen outcome view code after
  | .close _ => view.Shut after ∧
      value = .code (if view.handle = INVALID_HANDLE_VALUE then -1 else 0)
  | .isOpened => value = .flag (decide (view.handle ≠ INVALID_HANDLE_VALUE)) ∧ view.Calm false after
  | .destroy _ => view.Shut after
  | .setReadNotify _ | .send .. | .getRecvThreadIsRunning | .setRecvThreadIsRunning _ =>
      view.Calm false after

section Operations

variable {view : View} {α : Type}

/-- The program of client 0, followed on its view. -/
abbrev ViewAlone (program : Code α) (post : α → View → Prop) (view : View) : Prop :=
  program.Alone Effect.look (fun _ _ => True) post view

section Effects

variable {post : α → View → Prop}

theorem seen_load {field : Field} {value : field.Val} {next : field.Val → Code α}
    (known : view.get? field = some value) (continued : ViewAlone (next value) post view) :
    ViewAlone (.act (.load field) next) post view := by
  refine ⟨trivial, ?_⟩
  intro reply _ post
  obtain ⟨read, rfl⟩ := post
  rw [read value known]
  exact continued

theorem seen_skip {effect : Effect} {next : effect.Reply → Code α}
    (skips : ∀ reply after, effect.look view reply after → after = view)
    (continued : ∀ reply, ViewAlone (next reply) post view) :
    ViewAlone (.act effect next) post view := by
  refine ⟨trivial, fun reply after looked => ?_⟩
  rw [skips reply after looked]
  exact continued reply

theorem seen_store {field : Field} {value : field.Val} {next : Unit → Code α}
    (continued : ViewAlone (next ()) post (view.set field value)) :
    ViewAlone (.act (.store field value) next) post view := by
  refine ⟨trivial, ?_⟩
  intro _ _ same
  subst same
  exact continued

theorem seen_isOpened {next : Bool → Code α}
    (continued : ViewAlone (next (decide (view.handle ≠ INVALID_HANDLE_VALUE))) post view) :
    ViewAlone (.act .isOpened next) post view := by
  refine ⟨trivial, ?_⟩
  intro _ _ post
  obtain ⟨rfl, rfl⟩ := post
  exact continued

theorem seen_getConfig {handle : Handle} {configured : Dcb} {next : Option Dcb → Code α}
    (comm : view.isComm handle = true)
    (continued : ViewAlone (next (some configured)) post view) :
    ViewAlone (.act (.getConfig handle configured) next) post view := by
  refine ⟨trivial, ?_⟩
  intro _ _ post
  obtain ⟨rfl, rfl⟩ := post
  rw [comm]
  exact continued

theorem seen_setCommConfig {handle : Handle} {cfg : Dcb} {outcome : Except SystemError Unit}
    {next : Bool → Code α} (comm : view.isComm handle = true)
    (accepted : outcome.isOk = true → ViewAlone (next true) post
      (view.setDevice fun device => { device with dcb := cfg }))
    (refused : outcome.isOk = false → ViewAlone (next false) post view) :
    ViewAlone (.act (.setCommConfig handle cfg outcome) next) post view := by
  refine ⟨trivial, ?_⟩
  intro _ _ post
  obtain ⟨rfl, rfl⟩ := post
  rw [comm, Bool.true_and]
  cases answered : outcome.isOk with
  | true => exact accepted answered
  | false => exact refused answered

theorem seen_setCommMask {handle : Handle} {mask : BitVec 32} {outcome : Except SystemError Unit}
    {next : Bool → Code α} (comm : view.isComm handle = true)
    (accepted : outcome.isOk = true → ViewAlone (next true) post
      (view.setDevice fun device => { device with mask := mask }))
    (refused : outcome.isOk = false → ViewAlone (next false) post view) :
    ViewAlone (.act (.setCommMask handle mask outcome) next) post view := by
  refine ⟨trivial, ?_⟩
  intro _ _ post
  obtain ⟨rfl, rfl⟩ := post
  rw [comm, Bool.true_and]
  cases answered : outcome.isOk with
  | true => exact accepted answered
  | false => exact refused answered

theorem seen_setCommTimeouts {handle : Handle} {timeouts : CommTimeouts} {next : Unit → Code α}
    (comm : view.isComm handle = true)
    (continued : ViewAlone (next ()) post
      (view.setDevice fun device => { device with timeouts := timeouts })) :
    ViewAlone (.act (.setCommTimeouts handle timeouts) next) post view := by
  refine ⟨trivial, ?_⟩
  intro _ _ same
  subst same
  rw [comm]
  exact continued

theorem seen_createFile {name : String} {overlapped : Bool} {outcome : Except SystemError Unit}
    {queued : List UInt8} {next : Handle → Code α}
    (refused : outcome.isOk = false → ViewAlone (next INVALID_HANDLE_VALUE) post view)
    (granted : outcome.isOk = true → ∀ number : Nat, ViewAlone (next number) post { view with
      comms := ((number : Handle), .comm) :: view.comms
      device := some ⟨name, overlapped, Dcb.zero, ⟨0, 0, 0, 0, 0⟩, 0⟩ }) :
    ViewAlone (.act (.createFile name overlapped outcome queued) next) post view := by
  refine ⟨trivial, ?_⟩
  cases outcome with
  | error error =>
      intro _ _ post
      obtain ⟨rfl, rfl⟩ := post
      exact refused rfl
  | ok =>
      intro _ _ post
      obtain ⟨number, rfl, rfl⟩ := post
      exact granted rfl number

end Effects

/-! ### Routine operations -/

namespace View.Calm

variable {closing : Bool} {first second third : View}

theorem refl : first.Calm closing first := ⟨rfl, .inl rfl, rfl⟩

theorem trans (early : first.Calm closing second) (late : second.Calm closing third) :
    first.Calm closing third where
  settings := late.settings.trans early.settings
  handle := by
    rcases late.handle with same | given
    · rw [same]
      exact early.handle
    · exact .inr given
  device := late.device.trans early.device

theorem handle_eq (calm : first.Calm false second) : second.handle = first.handle :=
  calm.handle.resolve_right fun given => Bool.false_ne_true given.1

end View.Calm

theorem setDevice_opened {change : Device → Device}
    (keeps : ∀ device, (change device).opened = device.opened) :
    (view.setDevice change).device.map Device.opened = view.device.map Device.opened := by
  rw [View.setDevice, Option.map_map]
  exact congrArg (view.device.map ·) (funext keeps)

theorem routine_look {closing : Bool} {effect : Effect} {reply : effect.Reply} {after : View}
    (routine : effect.routine closing = true) (looked : effect.look view reply after) :
    view.Calm closing after := by
  cases effect with
  | store field value =>
      cases field with
      | handle =>
          obtain ⟨closes, same⟩ := Bool.and_eq_true_iff.mp routine
          cases looked
          exact ⟨rfl, .inr ⟨closes, of_decide_eq_true same⟩, rfl⟩
      | isRunning | threadHandle | writeEvent | minBytesReadNotify =>
          cases looked
          exact ⟨rfl, .inl rfl, rfl⟩
      | spp | precvData | cfg | monitorEvent | readEvent | isInit | plog => cases routine
  | setCommMask handle mask outcome =>
      obtain ⟨-, rfl⟩ := looked
      split
      · exact ⟨rfl, .inl rfl, setDevice_opened fun _ => rfl⟩
      · exact .refl
  | closeHandle handle =>
      cases looked
      exact ⟨rfl, .inl rfl, rfl⟩
  | load field =>
      obtain ⟨-, rfl⟩ := looked
      exact .refl
  | isOpened =>
      obtain ⟨-, rfl⟩ := looked
      exact .refl
  | resetOverlapped block | getOverlappedResult handle block =>
      cases block <;> cases looked <;> exact .refl
  | lock | unlock | getLastError | purgeComm | waitForThread | createEvent | resetEvent
  | writeFile | spdlogShutdown | leave =>
      cases looked
      exact .refl
  | _ => cases routine

theorem routine_seen (closing : Bool) {program : Code α} (routine : Routine closing program) :
    ViewAlone program (fun _ after => view.Calm closing after) view :=
  Prog.Alone.of_only (fun _ _ _ _ => trivial)
    (fun _ _ _ _ allowed calm looked => calm.trans (routine_look allowed looked)) routine .refl

theorem seen_routine {effect : Effect} {next : effect.Reply → Code α}
    {post : α → View → Prop} (routine : effect.routine false = true)
    (continued : ∀ reply after, view.Calm false after → ViewAlone (next reply) post after) :
    ViewAlone (.act effect next) post view :=
  ⟨trivial, fun reply after looked => continued reply after (routine_look routine looked)⟩

/-! ### Closing -/

theorem shut_calm {now after : View} (shut : view.Shut now) (calm : now.Calm false after) :
    view.Shut after :=
  ⟨calm.handle_eq.trans shut.isClosed, calm.settings.trans shut.settings⟩

theorem close_seen {outcome : CloseOutcome} :
    ViewAlone (close outcome) (fun value after => view.Shut after ∧
      value = if view.handle = INVALID_HANDLE_VALUE then -1 else 0) view := by
  have left : ∀ (value : Int) (now : View), view.Shut now ∧
      value = (if view.handle = INVALID_HANDLE_VALUE then -1 else 0) →
      ViewAlone (do perform (.leave .close); return value) (fun value after => view.Shut after ∧
        value = if view.handle = INVALID_HANDLE_VALUE then -1 else 0) now := by
    intro value now post
    obtain ⟨shut, result⟩ := post
    exact seen_routine rfl fun _ after calm => ⟨shut_calm shut calm, result⟩
  refine Prog.Alone.bind ?_ left
  refine seen_isOpened (Prog.Alone.ite (fun opened => ?_) fun closed => ?_)
  · have isOpened : view.handle ≠ INVALID_HANDLE_VALUE := of_decide_eq_true opened
    have ended : ∀ now : View, view.Shut now → ViewAlone (do
        perform (.resetEvent (← load .monitorEvent))
        return (0 : Int)) (fun value after => view.Shut after ∧
          value = if view.handle = INVALID_HANDLE_VALUE then -1 else 0) now := by
      intro now shut
      refine seen_routine rfl fun event loaded calm => ?_
      refine seen_routine rfl fun _ after calmAfter => ?_
      exact ⟨shut_calm shut (calm.trans calmAfter), (if_neg isOpened).symm⟩
    refine Prog.Alone.bind (routine_seen false stopThreadMonitor_routine) ?_
    intro _ stopped calm
    refine seen_load rfl (Prog.Alone.ite (fun _ => ?_) fun valid => ?_)
    · refine seen_load rfl (seen_routine rfl fun _ masked calmMasked => ?_)
      refine seen_load rfl (seen_routine rfl fun _ purged calmPurged => ?_)
      refine seen_load rfl (seen_routine rfl fun _ freed calmFreed => ?_)
      refine seen_store (ended _ ⟨rfl, ?_⟩)
      exact (calm.trans (calmMasked.trans (calmPurged.trans calmFreed))).settings
    · have same : INVALID_HANDLE_VALUE = stopped.handle := Decidable.not_not.mp valid
      exact absurd (calm.handle_eq.symm.trans same.symm) isOpened
  · have isClosed : view.handle = INVALID_HANDLE_VALUE := by simpa using closed
    exact ⟨⟨isClosed, rfl⟩, (if_pos isClosed).symm⟩

/-! ### Opening -/

/-- The settings and the handles stay, and the device but for its configuration. -/
structure View.Tuned (view after : View) : Prop where
  settings : after.toSettings = view.toSettings
  handle : after.handle = view.handle
  comms : after.comms = view.comms
  device : after.device.map (fun device => (device.name, device.overlapped)) =
    view.device.map fun device => (device.name, device.overlapped)

theorem setFlowCtl_seen {flowCtl : Int} {outcome : Except SystemError Unit}
    (isOpened : view.handle ≠ INVALID_HANDLE_VALUE) :
    ViewAlone (setFlowCtl flowCtl outcome)
      (fun _ after => view.Tuned after ∧ after.cfg = flowConfig flowCtl view.cfg) view := by
  have applied : ∀ cfg, flowConfig flowCtl view.cfg = cfg → ViewAlone (do
      store .cfg cfg
      let _ ← perform (.setCommConfig (← load .handle) (← load .cfg) outcome))
      (fun _ after => view.Tuned after ∧ after.cfg = flowConfig flowCtl view.cfg) view := by
    intro _ same
    subst same
    refine seen_store (seen_load rfl (seen_load rfl ⟨trivial, ?_⟩))
    intro _ _ post
    obtain ⟨-, rfl⟩ := post
    split
    · refine ⟨⟨rfl, rfl, rfl, ?_⟩, rfl⟩
      simp [View.setDevice, View.set, Function.comp_def]
    · exact ⟨⟨rfl, rfl, rfl, rfl⟩, rfl⟩
  refine seen_isOpened (Prog.Alone.ite (fun _ => ?_) fun closed => ?_)
  · refine seen_load rfl (Prog.Alone.ite (fun none => applied _ ?_) fun notNone => ?_)
    · rw [flowConfig, if_pos none]
    refine Prog.Alone.ite (fun hardware => applied _ ?_) fun notHardware => ?_
    · rw [flowConfig, if_neg notNone, if_pos hardware]
    refine Prog.Alone.ite (fun software => applied _ ?_) fun notSoftware => ?_
    · rw [flowConfig, if_neg notNone, if_neg notHardware, if_pos software]
    · refine ⟨⟨rfl, rfl, rfl, rfl⟩, ?_⟩
      rw [flowConfig, if_neg notNone, if_neg notHardware, if_neg notSoftware]
  · exact absurd (by simpa using closed) isOpened

theorem startThreadMonitor_seen {outcome : Except SystemError Unit} :
    ViewAlone (startThreadMonitor outcome) (fun started after => started = true ∧
      view.Calm false after) view := by
  refine ⟨trivial, ?_⟩
  intro _ _ post
  obtain ⟨number, rfl, rfl⟩ := post
  refine seen_store (seen_load rfl ?_)
  exact ⟨if_neg (natCast_ne_invalid number), rfl, .inl rfl, rfl⟩

/-- What the calls whose failure `open` notices once it has the device must do. -/
def Accepts (outcome : OpenOutcome) (spp : SpProp) : Prop :=
  outcome.setCommConfig.isOk = true ∧ (spp.opMode = modeAsync → outcome.setCommMask.isOk = true)

/-- What `open` does once it has the device. -/
inductive ConfigureSeen (outcome : OpenOutcome) (view : View) (value : Int) (after : View) :
    Prop where
  | accepted (accepts : Accepts outcome view.spp) (zero : value = 0)
      (settings : after.toSettings = view.toSettings) (handle : after.handle = view.handle)
      (device : after.device.map Device.opened = view.device.map fun device =>
        (device.name, device.overlapped,
          flowConfig view.spp.flowCtl (portConfig view.spp outcome.configured)))
  | refused (refuses : ¬ Accepts outcome view.spp) (nonzero : value ≠ 0)
      (settings : after.toSettings = view.toSettings)

/-- `open` after the configuration of the device has been accepted. -/
private theorem accepted_seen {outcome : OpenOutcome}
    (accepted : outcome.setCommConfig.isOk = true) (comm : view.isComm view.handle = true) :
    ViewAlone (do
        perform (.purgeComm (← load .handle))
        if modeAsync = (← load .spp).opMode then
          perform (.setCommTimeouts (← load .handle) timeoutsAsync)
          if ← perform (.setCommMask (← load .handle) (EV_TXEMPTY ||| EV_RXCHAR ||| EV_DSR)
              outcome.setCommMask) then
            store .isRunning true
            if !(← startThreadMonitor outcome.beginthreadex) then
              store .isRunning false
              return ← perform .getLastError
            return 0
          else
            return -3
        else
          perform (.setCommTimeouts (← load .handle) timeoutsSync)
          return 0)
      (fun value after => view.Calm false after ∧
        (value = 0 ∧ Accepts outcome view.spp ∨ value ≠ 0 ∧ ¬ Accepts outcome view.spp))
      view := by
  have timed : ∀ timeouts : CommTimeouts, view.Calm false
      (view.setDevice fun device => { device with timeouts := timeouts }) :=
    fun timeouts => ⟨rfl, .inl rfl, setDevice_opened fun _ => rfl⟩
  refine seen_load rfl (seen_skip (fun _ _ looked => looked) fun _ => seen_load rfl ?_)
  refine Prog.Alone.ite (fun async => ?_) fun plain => ?_
  · refine seen_load rfl (seen_setCommTimeouts comm (seen_load rfl ?_))
    refine seen_setCommMask comm (fun masked => ?_) fun refused => ?_
    · refine seen_store (startThreadMonitor_seen.bind ?_)
      intro _ after post
      obtain ⟨rfl, started⟩ := post
      refine ⟨(timed timeoutsAsync).trans (View.Calm.trans ?_ started), ?_⟩
      · exact ⟨rfl, .inl rfl, setDevice_opened fun _ => rfl⟩
      · exact .inl ⟨rfl, accepted, fun _ => masked⟩
    · refine ⟨timed timeoutsAsync, .inr ⟨by decide, fun accepts => ?_⟩⟩
      rw [accepts.2 async.symm] at refused
      cases refused
  · refine seen_load rfl (seen_setCommTimeouts comm ?_)
    exact ⟨timed timeoutsSync, .inl ⟨rfl, accepted, fun async => absurd async.symm plain⟩⟩

theorem configure_seen {outcome : OpenOutcome} (isOpened : view.handle ≠ INVALID_HANDLE_VALUE)
    (comm : view.isComm view.handle = true) :
    ViewAlone (configure outcome)
      (fun value after => ConfigureSeen outcome view value after) view := by
  refine seen_load rfl (seen_getConfig comm (seen_load rfl (seen_load rfl (seen_store ?_))))
  refine seen_load rfl ?_
  change ViewAlone (setFlowCtl _ outcome.setFlowCtl >>= _) _ _
  refine Prog.Alone.bind (setFlowCtl_seen isOpened) ?_
  intro _ tuned post
  obtain ⟨same, cfg⟩ := post
  have commTuned : tuned.isComm tuned.handle = true := by
    rw [View.isComm, same.comms, same.handle]
    exact comm
  refine seen_load rfl (seen_load rfl (seen_setCommConfig commTuned (fun accepted => ?_) ?_))
  · have spp : tuned.spp = view.spp := congrArg Settings.spp same.settings
    have rest := @accepted_seen (tuned.setDevice fun device => { device with dcb := tuned.cfg })
      outcome accepted commTuned
    refine Prog.Alone.mono ?_ rest
    intro value after post
    obtain ⟨calm, answered⟩ := post
    have settings : after.toSettings = view.toSettings := calm.settings.trans same.settings
    change value = 0 ∧ Accepts outcome tuned.spp ∨ value ≠ 0 ∧ ¬ Accepts outcome tuned.spp at answered
    rw [spp] at answered
    rcases answered with ⟨zero, accepts⟩ | ⟨nonzero, refuses⟩
    · refine .accepted accepts zero settings (calm.handle_eq.trans same.handle) ?_
      have named := congrArg (Option.map fun device : String × Bool =>
        (device.1, device.2, tuned.cfg)) same.device
      rw [Option.map_map, Option.map_map] at named
      rw [calm.device, View.setDevice, Option.map_map]
      refine named.trans ?_
      rw [cfg]
      rfl
    · exact .refused refuses nonzero settings
  · intro refused
    refine .refused (fun accepts => ?_) (by decide) same.settings
    rw [accepts.1] at refused
    cases refused

theorem openClosed_seen {outcome : OpenOutcome} {name : String} {overlapped : Bool}
    (isClosed : view.handle = INVALID_HANDLE_VALUE) :
    ViewAlone (openClosed name overlapped outcome) (fun value after =>
      after.toSettings = view.toSettings ∧
        (value = 0 ∧ Opens outcome view.toOwned ∧ after.handle ≠ INVALID_HANDLE_VALUE ∧
          after.device.map Device.opened = some (name, overlapped,
            flowConfig view.spp.flowCtl (portConfig view.spp outcome.configured)) ∨
        value ≠ 0 ∧ ¬ Opens outcome view.toOwned)) view := by
  refine seen_createFile (fun refused => ?_) fun granted number => ?_
  · refine seen_store (seen_load rfl (seen_skip (fun _ _ looked => looked) fun error => ?_))
    refine ⟨rfl, .inr ⟨createFileError_ne_zero error, fun opens => ?_⟩⟩
    rw [opens.createFile] at refused
    cases refused
  · -- The test is decided: a new handle is a natural number.
    have valid := natCast_ne_invalid number
    refine seen_store (seen_load rfl ?_)
    refine Prog.Alone.mono ?_ (configure_seen (Ne.symm valid) (by simp [View.isComm, View.set]))
    intro value after seen
    cases seen with
    | accepted accepts zero settings handle device =>
        refine ⟨settings, .inl ⟨zero, ⟨isClosed, granted, accepts.1, accepts.2⟩, ?_, device⟩⟩
        rw [handle]
        exact Ne.symm valid
    | refused refuses nonzero settings =>
        exact ⟨settings, .inr ⟨nonzero, fun opens =>
          refuses ⟨opens.setCommConfig, opens.setCommMask⟩⟩⟩

/-- The clean-up of an `open` that returns an error. -/
private theorem rollback_seen {outcome : CloseOutcome} {retVal : Int} :
    ViewAlone (close outcome >>= fun _ => (.ret retVal : Code Int)) (fun value after =>
      value = retVal ∧ view.Shut after) view :=
  close_seen.bind fun _ _ closed => ⟨rfl, closed.1⟩

theorem openNamed_seen {outcome : OpenOutcome} :
    ViewAlone (openNamed outcome) (fun value after =>
      after.toSettings = view.toSettings.renamed ∧
        (value = -5 ∧ view.handle ≠ INVALID_HANDLE_VALUE ∨
        view.handle = INVALID_HANDLE_VALUE ∧
          (value = 0 ∧ Opens outcome view.toOwned ∧ after.handle ≠ INVALID_HANDLE_VALUE ∧
            after.device.map Device.opened = some
              (devicePrefix ++ view.spp.name, decide (modeAsync = view.spp.opMode),
                flowConfig view.spp.flowCtl (portConfig view.spp outcome.configured)) ∨
          value ≠ 0 ∧ ¬ Opens outcome view.toOwned))) view := by
  refine seen_load rfl (seen_load rfl (seen_store (seen_load rfl (seen_isOpened ?_))))
  refine Prog.Alone.ite (fun closed => ?_) fun opened => ?_
  · change (!decide (view.handle ≠ INVALID_HANDLE_VALUE)) = true at closed
    have isClosed : view.handle = INVALID_HANDLE_VALUE := by simpa using closed
    refine (@openClosed_seen (view.set .spp { view.spp with name := devicePrefix ++ view.spp.name })
      _ _ _ isClosed).mono ?_
    intro value after post
    obtain ⟨settings, answered⟩ := post
    refine ⟨settings, .inr ⟨isClosed, ?_⟩⟩
    rcases answered with ⟨zero, opens, isOpened, device⟩ | ⟨nonzero, fails⟩
    · exact .inl ⟨zero, { opens with }, isOpened, device⟩
    · exact .inr ⟨nonzero, fun opens => fails { opens with }⟩
  · change ¬ (!decide (view.handle ≠ INVALID_HANDLE_VALUE)) = true at opened
    exact ⟨rfl, .inl ⟨rfl, by simpa using opened⟩⟩

theorem open_seen {outcome : OpenOutcome} :
    ViewAlone («open» outcome) (fun value after => OpenSeen outcome view value after) view := by
  refine seen_load rfl (Prog.Alone.ite (fun notInit => ?_) fun initialized => ?_)
  · exact .refused (by simpa using notInit) rfl rfl
  have isInit : view.isInit = true := by simpa using initialized
  refine openNamed_seen.bind ?_
  intro value now post
  obtain ⟨renamed, answered⟩ := post
  refine Prog.Alone.ite (fun nonzero => rollback_seen.mono ?_) fun zero => ?_
  · intro _ after post
    obtain ⟨rfl, shut⟩ := post
    have kept := shut.settings.trans renamed
    rcases answered with ⟨rfl, isOpened⟩ | ⟨wasClosed, ⟨zero, -⟩ | ⟨-, fails⟩⟩
    · exact .already isInit isOpened rfl shut.isClosed kept
    · exact absurd zero nonzero
    · exact .failed isInit wasClosed fails nonzero shut.isClosed kept
  · rcases answered with ⟨rfl, -⟩ | ⟨-, ⟨same, opens, isOpened, device⟩ | ⟨nonzero, -⟩⟩
    · exact absurd (by decide) zero
    · exact .opened isInit opens same isOpened renamed device
    · exact absurd nonzero zero

theorem init_seen {spp : SpProp} {precvData : Option IrecvData} :
    ViewAlone (init spp precvData) (fun value after =>
      value = (SpParamsCheck.getInstance .windows).isRight spp ∧
        after.toSettings = view.toSettings.after (.init spp precvData) (.code value) ∧
        after.handle = view.handle ∧ after.device = view.device) view := by
  refine Prog.Alone.ite (fun refused => ⟨rfl, ?_, rfl, rfl⟩) fun accepted => ?_
  · simp [Settings.after, refused]
  · have zero : (SpParamsCheck.getInstance .windows).isRight spp = 0 :=
      Decidable.not_not.mp accepted
    have stored : ∀ now : View, now = { view with spp := spp } →
        ViewAlone (do
          store .isInit true
          if (← load .spp).isToLog then
            perform .rotatingLogger
            store .plog true
          return (SpParamsCheck.getInstance .windows).isRight spp)
        (fun value after => value = (SpParamsCheck.getInstance .windows).isRight spp ∧
          after.toSettings = view.toSettings.after (.init spp precvData) (.code value) ∧
          after.handle = view.handle ∧ after.device = view.device) now := by
      intro _ same
      subst same
      have ended : ({ view with spp := spp, isInit := true } : View).toSettings =
          view.toSettings.after (.init spp precvData)
            (.code ((SpParamsCheck.getInstance .windows).isRight spp)) := by
        simp [Settings.after, zero]
      refine seen_store (seen_load rfl (Prog.Alone.ite (fun _ => ?_) fun _ => ?_))
      · refine seen_skip (fun _ _ looked => looked) fun _ => seen_store ?_
        exact ⟨rfl, ended, rfl, rfl⟩
      · exact ⟨rfl, ended, rfl, rfl⟩
    refine seen_store (Prog.Alone.ite (fun _ => seen_store ?_) fun _ => ?_)
    · exact stored _ rfl
    · exact stored _ rfl

theorem destroy_seen {outcome : CloseOutcome} :
    ViewAlone (destroy outcome) (fun _ after => view.Shut after) view := by
  refine seen_isOpened (Prog.Alone.ite (fun _ => ?_) fun closed => ?_)
  · refine close_seen.bind ?_
    intro _ now post
    obtain ⟨shut, -⟩ := post
    have logged : Routine false (do
        if (← load .spp).isToLog then
          if ← load .plog then
            perform .spdlogShutdown) := by
      refine ⟨rfl, fun _ => Prog.Only.ite (fun _ => ⟨rfl, fun _ => ?_⟩) fun _ => trivial⟩
      exact Prog.Only.ite (fun _ => ⟨rfl, fun _ => trivial⟩) fun _ => trivial
    exact (routine_seen false logged).mono fun _ after calm => shut_calm shut calm
  · exact ⟨by simpa using closed, rfl⟩

theorem runOperation_seen (operation : Operation) :
    ViewAlone (runOperation operation) (fun value after => Seen view value after operation)
      view := by
  cases operation with
  | init spp precvData =>
      refine init_seen.bind ?_
      intro value after post
      obtain ⟨rfl, settings, handle, device⟩ := post
      exact ⟨rfl, settings, handle, device⟩
  | «open» outcome => exact open_seen.bind fun value after seen => ⟨value, rfl, seen⟩
  | close outcome =>
      refine close_seen.bind ?_
      intro value after post
      obtain ⟨shut, rfl⟩ := post
      exact ⟨shut, rfl⟩
  | setReadNotify len => exact (routine_seen false setReadNotify_routine).bind fun _ _ calm => calm
  | isOpened => exact seen_isOpened ⟨rfl, .refl⟩
  | send pdata outcome => exact (routine_seen false send_routine).bind fun _ _ calm => calm
  | getRecvThreadIsRunning =>
      exact (routine_seen false getRecvThreadIsRunning_routine).bind fun _ _ calm => calm
  | setRecvThreadIsRunning value =>
      exact (routine_seen false setRecvThreadIsRunning_routine).bind fun _ _ calm => calm
  | destroy outcome => exact destroy_seen.bind fun _ _ shut => shut

end Operations

/-! ## The record of the calls -/

theorem Seen.settings {view after : View} {operation : Operation} {value : Value}
    (seen : Seen view value after operation) :
    after.toSettings = view.toSettings.after operation value := by
  cases operation with
  | init spp precvData => exact seen.2.1
  | «open» outcome =>
      obtain ⟨code, -, seen⟩ := seen
      cases seen with
      | refused isInit negative same => simp [Settings.after, isInit, same]
      | already isInit isOpened negative isClosed renamed => simp [Settings.after, isInit, renamed]
      | opened isInit opens zero isOpened renamed device => simp [Settings.after, isInit, renamed]
      | failed isInit wasClosed fails nonzero isClosed renamed =>
          simp [Settings.after, isInit, renamed]
  | close outcome => exact seen.1.settings
  | isOpened => exact seen.2.settings
  | destroy outcome => exact View.Shut.settings seen
  | setReadNotify | send | getRecvThreadIsRunning | setRecvThreadIsRunning =>
      exact View.Calm.settings seen

theorem Seen.history {view after : View} {operation : Operation} {value : Value}
    (seen : Seen view value after operation) : after.history = view.history := by
  rw [seen.settings]
  unfold Settings.after
  split
  · split <;> rfl
  · split <;> rfl
  · rfl

/-- By its record the port has been initialized. -/
def initialized (history : List (Operation × Value)) : Bool := (lastInit history).isSome

/-- The mode that the latest successful `init` stored. -/
def lastMode (history : List (Operation × Value)) : Int :=
  match lastInit history with
  | none => SpProp.zero.opMode
  | some (spp, _) => spp.opMode

/-- By its record the port is open: its latest `open` returned 0, and no `close` since. -/
def opened : List (Operation × Value) → Bool
  | [] => false
  | (.open _, value) :: _ => decide (value = .code 0)
  | (.close _, _) :: _ | (.destroy _, _) :: _ => false
  | _ :: earlier => opened earlier

/-- Between two operations the port is what the record of its calls says. -/
structure Recorded (view : View) : Prop where
  named : Named view.toSettings
  isOpened : decide (view.handle ≠ INVALID_HANDLE_VALUE) = opened view.history
  initFirst : view.handle ≠ INVALID_HANDLE_VALUE → view.isInit = true

namespace Recorded

variable {view ended : View} {operation : Operation} {value : Value}

theorem initialized_eq (recorded : Recorded view) : initialized view.history = view.isInit := by
  have named := recorded.named
  rw [Named] at named
  rw [initialized]
  cases found : lastInit view.history with
  | none =>
      rw [found] at named
      exact named.symm
  | some latest =>
      rw [found] at named
      exact named.1.symm

theorem lastMode_eq (recorded : Recorded view) (isInit : view.isInit = true) :
    lastMode view.history = view.spp.opMode := by
  have named := recorded.named
  unfold Named at named
  unfold lastMode
  cases found : lastInit view.history with
  | none =>
      rw [found] at named
      exact absurd (named.symm.trans isInit) Bool.false_ne_true
  | some latest =>
      rw [found] at named
      exact (congrArg SpProp.opMode named.2).symm

theorem named_record (recorded : Recorded view) (seen : Seen view value ended operation) :
    Named (ended.record operation value).toSettings := by
  have named := recorded.named.after operation value
  rw [← seen.settings] at named
  exact named

private theorem history_record (seen : Seen view value ended operation) :
    (ended.record operation value).history = (operation, value) :: view.history := by
  rw [View.record, seen.history]

private theorem of_shut (recorded : Recorded view) (seen : Seen view value ended operation)
    (isClosed : ended.handle = INVALID_HANDLE_VALUE)
    (openedAfter : opened ((operation, value) :: view.history) = false) :
    Recorded (ended.record operation value) where
  named := recorded.named_record seen
  isOpened := by
    rw [history_record seen, openedAfter]
    exact decide_eq_false (not_not_intro isClosed)
  initFirst isOpened := absurd isClosed isOpened

private theorem of_calm (recorded : Recorded view) (seen : Seen view value ended operation)
    (handle : ended.handle = view.handle)
    (isInit : view.isInit = true → ended.isInit = true)
    (openedAfter : opened ((operation, value) :: view.history) = opened view.history) :
    Recorded (ended.record operation value) where
  named := recorded.named_record seen
  isOpened := by
    rw [history_record seen, openedAfter, ← recorded.isOpened]
    exact congrArg (fun handle => decide (handle ≠ INVALID_HANDLE_VALUE)) handle
  initFirst isOpened := isInit (recorded.initFirst fun same => isOpened (handle.trans same))

theorem record (recorded : Recorded view) (seen : Seen view value ended operation) :
    Recorded (ended.record operation value) := by
  have effect := seen
  cases operation with
  | init spp precvData =>
      obtain ⟨-, settings, handle, -⟩ := seen
      refine recorded.of_calm effect handle (fun isInit => ?_) rfl
      rw [settings, Settings.after]
      split <;> first | rfl | exact isInit
  | «open» outcome =>
      obtain ⟨code, rfl, seen⟩ := seen
      cases seen with
      | refused isInit negative same =>
          subst negative
          have isClosed : ended.handle = INVALID_HANDLE_VALUE := by
            rw [same]
            refine Decidable.not_not.mp fun isOpened => ?_
            rw [recorded.initFirst isOpened] at isInit
            cases isInit
          exact recorded.of_shut effect isClosed (by simp [opened])
      | already isInit isOpened negative isClosed renamed =>
          subst negative
          exact recorded.of_shut effect isClosed (by simp [opened])
      | opened isInit opens zero isOpened renamed device =>
          subst zero
          refine ⟨recorded.named_record effect, ?_, fun _ => ?_⟩
          · rw [history_record effect, opened]
            exact decide_eq_true isOpened
          · exact (congrArg Settings.isInit renamed).trans isInit
      | failed isInit wasClosed fails nonzero isClosed renamed =>
          exact recorded.of_shut effect isClosed (by simp [opened, nonzero])
  | close outcome => exact recorded.of_shut effect seen.1.isClosed rfl
  | destroy outcome => exact recorded.of_shut effect (View.Shut.isClosed seen) rfl
  | isOpened =>
      exact recorded.of_calm effect seen.2.handle_eq
        (fun isInit => (congrArg Settings.isInit seen.2.settings).trans isInit) rfl
  | setReadNotify | send | getRecvThreadIsRunning | setRecvThreadIsRunning =>
      have calm : view.Calm false ended := seen
      exact recorded.of_calm effect calm.handle_eq
        (fun isInit => (congrArg Settings.isInit calm.settings).trans isInit) rfl

end Recorded

/-! ## Runs -/

section Runs

variable {condition : Condition Tid State Effect Job}
  {config : Config Tid State Effect Effect.Reply Job Result}

theorem recorded_start : Recorded State.start.view where
  named := rfl
  isOpened := rfl
  initFirst isOpened := absurd rfl isOpened

/-- What is established of the client: its record, and what its last call did. -/
def session : Account View Effect Job Result where
  ready := Recorded
  point _ _ _ _ := True
  post job view result after := Recorded view ∧ ∃ operation value ended,
    job = .operation operation ∧ result = .value value ∧ Seen view value ended operation ∧
      after = ended.record operation value

theorem session_holds :
    session.Holds system condition (.client 0) State.view Effect.look where
  start := recorded_start
  body {job last s} recorded admitted _ := by
    cases job with
    | enter => cases admitted
    | iteration eventMask outcome => cases admitted
    | operation operation =>
        refine (runOperation_seen operation).bind fun value ended seen => ⟨trivial, ?_⟩
        intro _ _ same
        subst same
        exact ⟨recorded, operation, value, ended, rfl, rfl, seen, rfl⟩
  returned := by
    intro job view result after post
    obtain ⟨recorded, operation, value, ended, rfl, rfl, seen, rfl⟩ := post
    exact recorded.record seen

theorem seen_of_reachable (single : Single condition) (reachable : system.Reachable condition config)
    {call : Call State Effect Effect.Reply Job Result} {operation : Operation} {value : Value}
    (calls : config.calls (.client 0) = some call) (job : call.job = .operation operation)
    (returned : call.Returned (.value value)) :
    ∃ ended, Seen call.entry.view value ended operation ∧
      config.state.view = ended.record operation value := by
  obtain ⟨-, _, _, ended, same, result, seen, after⟩ := Account.post_of_reachable
    (client_sole single) session_holds reachable calls returned
  rw [job] at same
  cases same
  cases result
  exact ⟨ended, seen, after⟩

end Runs

end LibSp.Windows
