import LibSp.Linux.OpenClose
import LibSp.Linux.Framing
import LibSp.Linux.Session
import LibSp.Windows.Session

/-!
# Flow control of an open port

Which flow control a port is left with by a successful `open`. On Linux the
software bits go to the wrong word and one of them is cleared afterwards; on
Windows the two kinds of flow control are exchanged.
-/

set_option autoImplicit false

namespace LibSp.Linux

open Flags Concurrent

/-- The flow control of the termios is the one requested, and the step that sets it
leaves the rest of `c_cflag` alone. -/
structure FlowControlled (libc : SpeedSetters) (spp : SpProp) (prior options : Termios) : Prop where
  hardware : options.cCflag &&& CRTSCTS = CRTSCTS ↔ spp.flowCtl = flowCtlHardware
  software : spp.flowCtl = flowCtlSoftware →
    options.cIflag &&& IXON = IXON ∧ options.cIflag &&& IXOFF = IXOFF
  otherwise : spp.flowCtl ≠ flowCtlSoftware →
    options.cIflag &&& IXON = 0 ∧ options.cIflag &&& IXOFF = 0
  others : ∀ before, before = setStopBits spp (setDataBits spp (setSpeed libc spp prior)) →
    (setFlowCtl spp before).cCflag &&& ~~~CRTSCTS = before.cCflag &&& ~~~CRTSCTS

/-- The requests that come out right: no software flow control, no `IXOFF` left
behind by the previous user and, for a value outside the enumeration, no `CRTSCTS`. -/
def FlowKept (spp : SpProp) (prior : Termios) : Prop :=
  spp.flowCtl ≠ flowCtlSoftware ∧ prior.cIflag &&& IXOFF = 0 ∧
    (spp.flowCtl = flowCtlNone ∨ spp.flowCtl = flowCtlHardware ∨
      prior.cCflag &&& CRTSCTS ≠ CRTSCTS)

section

variable {libc : SpeedSetters} {spp : SpProp} {prior options : Termios}

theorem setSpeed_cIflag :
    (setSpeed libc spp options).cIflag &&& ~~~IBAUD0 = options.cIflag &&& ~~~IBAUD0 := by
  have input := (libc.ispeedOnly options (BitVec.ofInt 32 spp.baudRate)).iflag
  have output := (libc.ospeedOnly (libc.cfsetispeed options (BitVec.ofInt 32 spp.baudRate)).1
    (BitVec.ofInt 32 spp.baudRate)).iflag
  exact output.trans input

theorem portOptions_ixon : (portOptions libc spp prior).cIflag &&& IXON = 0 := by
  have cleared : ~~~(BRKINT ||| ICRNL ||| INPCK ||| ISTRIP ||| IXON) &&& IXON = 0 := by decide
  simp only [portOptions, setLineMode]
  rw [clearBits_and, cleared]
  simp

theorem portOptions_ixoff :
    (portOptions libc spp prior).cIflag &&& IXOFF = prior.cIflag &&& IXOFF := by
  simp only [portOptions, setLineMode]
  rw [clearBits_and_of_disjoint (by decide), steps_cIflag]
  exact and_eq_of_agree setSpeed_cIflag (by decide)

theorem setFlowCtl_crtscts :
    (setFlowCtl spp options).cCflag &&& CRTSCTS =
      if spp.flowCtl = flowCtlNone then 0
      else if spp.flowCtl = flowCtlHardware then CRTSCTS
      else options.cCflag &&& CRTSCTS := by
  simp only [setFlowCtl]
  split
  · exact clearBits_and_self _ CRTSCTS
  · split
    · exact setBits_and_self _ CRTSCTS
    · split
      · exact setBits_and_of_disjoint (by decide)
      · rfl

theorem portOptions_crtscts :
    (portOptions libc spp prior).cCflag &&& CRTSCTS =
      if spp.flowCtl = flowCtlNone then 0
      else if spp.flowCtl = flowCtlHardware then CRTSCTS
      else prior.cCflag &&& CRTSCTS := by
  have kept : (setStopBits spp (setDataBits spp (setSpeed libc spp prior))).cCflag &&& CRTSCTS =
      prior.cCflag &&& CRTSCTS := by
    rw [setStopBits_untouched (by decide), setDataBits_untouched (by decide),
      setSpeed_untouched libc (by decide)]
  rw [← kept, ← setFlowCtl_crtscts]
  exact setParity_untouched (by decide)

theorem setFlowCtl_others (notSoftware : spp.flowCtl ≠ flowCtlSoftware) :
    (setFlowCtl spp options).cCflag &&& ~~~CRTSCTS = options.cCflag &&& ~~~CRTSCTS := by
  simp only [setFlowCtl]
  split
  · exact clearBits_and_of_disjoint (by decide)
  · split
    · exact setBits_and_of_disjoint (by decide)
    · rfl

theorem portOptions_flow_iff :
    FlowControlled libc spp prior (portOptions libc spp prior) ↔ FlowKept spp prior := by
  have hardwareNotNone : flowCtlHardware ≠ flowCtlNone := by decide
  constructor
  · intro controlled
    obtain ⟨hardware, software, otherwise, -⟩ := controlled
    have notSoftware : spp.flowCtl ≠ flowCtlSoftware := by
      intro requested
      have set := (software requested).1
      rw [portOptions_ixon] at set
      exact absurd set (by decide)
    refine ⟨notSoftware, portOptions_ixoff ▸ (otherwise notSoftware).2, ?_⟩
    by_cases none : spp.flowCtl = flowCtlNone
    · exact .inl none
    by_cases requested : spp.flowCtl = flowCtlHardware
    · exact .inr (.inl requested)
    · refine .inr (.inr fun inherited => requested (hardware.mp ?_))
      rw [portOptions_crtscts, if_neg none, if_neg requested, inherited]
  · intro condition
    obtain ⟨notSoftware, ixoff, listed⟩ := condition
    refine ⟨?_, fun software => absurd software notSoftware, fun _ => ?_, ?_⟩
    · rw [portOptions_crtscts]
      by_cases none : spp.flowCtl = flowCtlNone
      · rw [if_pos none, none]
        decide
      by_cases requested : spp.flowCtl = flowCtlHardware
      · simp [requested, hardwareNotNone]
      · rw [if_neg none, if_neg requested]
        have clear := (listed.resolve_left none).resolve_left requested
        exact iff_of_false clear requested
    · exact ⟨portOptions_ixon, portOptions_ixoff.trans ixoff⟩
    · intro _ same
      subst same
      exact setFlowCtl_others notSoftware

end

end LibSp.Linux

namespace LibSp.Windows

open Concurrent

/-- The flow control of the configuration is the one requested. -/
structure FlowControlled (spp : SpProp) (dcb : Dcb) : Prop where
  hardware : (dcb.fOutxCtsFlow = true ∧ dcb.fRtsControl = RTS_CONTROL_HANDSHAKE) ↔
    spp.flowCtl = flowCtlHardware
  software : (dcb.fInX = true ∧ dcb.fOutX = true) ↔ spp.flowCtl = flowCtlSoftware

/-- The requests that come out right: none or, for a value outside the enumeration,
a device that was not left with hardware flow control. -/
def FlowKept (spp : SpProp) (prior : Dcb) : Prop :=
  spp.flowCtl ≠ flowCtlHardware ∧ spp.flowCtl ≠ flowCtlSoftware ∧
    (spp.flowCtl = flowCtlNone ∨
      ¬ (prior.fOutxCtsFlow = true ∧ prior.fRtsControl = RTS_CONTROL_HANDSHAKE))

theorem flowConfig_iff {spp : SpProp} {prior : Dcb} :
    FlowControlled spp (flowConfig spp.flowCtl (portConfig spp prior)) ↔ FlowKept spp prior := by
  have disabled : RTS_CONTROL_DISABLE ≠ RTS_CONTROL_HANDSHAKE := by decide
  have hardwareNotNone : flowCtlHardware ≠ flowCtlNone := by decide
  have softwareNotNone : flowCtlSoftware ≠ flowCtlNone := by decide
  have softwareNotHardware : flowCtlSoftware ≠ flowCtlHardware := by decide
  by_cases none : spp.flowCtl = flowCtlNone
  · refine iff_of_true ⟨?_, ?_⟩ ⟨?_, ?_, .inl none⟩ <;>
      simp [flowConfig, none, hardwareNotNone.symm, softwareNotNone.symm]
  by_cases hardware : spp.flowCtl = flowCtlHardware
  · refine iff_of_false (fun controlled => ?_) fun kept => kept.1 hardware
    have set := controlled.hardware.mpr hardware
    simp [flowConfig, hardware, hardwareNotNone] at set
  by_cases software : spp.flowCtl = flowCtlSoftware
  · refine iff_of_false (fun controlled => ?_) fun kept => kept.2.1 software
    have set := controlled.software.mpr software
    simp [flowConfig, software, softwareNotNone, softwareNotHardware] at set
  · constructor
    · intro controlled
      obtain ⟨set, -⟩ := controlled
      refine ⟨hardware, software, .inr fun inherited => hardware (set.mp ?_)⟩
      simpa [flowConfig, none, hardware, software, portConfig] using inherited
    · intro controlled
      obtain ⟨-, -, listed⟩ := controlled
      have clear := listed.resolve_left none
      constructor
      · simpa [flowConfig, none, hardware, software, portConfig] using clear
      · simp [flowConfig, none, hardware, software, portConfig]

end LibSp.Windows

namespace LibSp

open Concurrent

/-- After every `open` that returned 0 to a single client, the flow control of the
device is the one requested exactly for these settings and what the device was
left with. -/
theorem flowControlled_iff (libc : Linux.SpeedSetters) :
    (∀ config call outcome, (Linux.system libc).Reachable Linux.oneClient config →
      config.calls (.client 0) = some call → call.job = .operation (.open outcome) →
      call.Returned (.value (.code 0)) →
      ∃ prior options, outcome.tcgetattr = .ok prior ∧ config.state.port.handed = some options ∧
        (Linux.FlowControlled libc config.state.port.param.spp prior options ↔
          Linux.FlowKept config.state.port.param.spp prior)) ∧
    (∀ config call outcome, Windows.system.Reachable Windows.oneClient config →
      config.calls (.client 0) = some call → call.job = .operation (.open outcome) →
      call.Returned (.value (.code 0)) →
      ∃ device, config.state.device = some device ∧
        (Windows.FlowControlled config.state.param.spp device.dcb ↔
          Windows.FlowKept config.state.param.spp outcome.configured)) := by
  constructor
  · intro config call outcome reachable calls job returned
    obtain ⟨ended, ⟨code, same, seen⟩, port⟩ :=
      Linux.seen_of_reachable Linux.oneClient_assumes reachable calls job returned
    cases same
    cases seen with
    | already isOpened negative same => cases negative
    | failed isClosed fails nonzero shut => exact absurd rfl nonzero
    | opened opens zero isOpened spp history prior answered handed =>
        have stored : config.state.port.param.spp = call.entry.port.param.spp := by
          rw [port]
          exact spp
        rw [← stored] at handed
        exact ⟨prior, _, answered, (congrArg Linux.Port.handed port).trans handed,
          Linux.portOptions_flow_iff⟩
  · intro config call outcome reachable calls job returned
    obtain ⟨ended, ⟨code, same, seen⟩, view⟩ :=
      Windows.seen_of_reachable (fun begins => begins) reachable calls job returned
    cases same
    cases seen with
    | refused isInit negative same => cases negative
    | already isInit isOpened negative isClosed renamed => cases negative
    | failed isInit wasClosed fails nonzero isClosed renamed => exact absurd rfl nonzero
    | opened isInit opens zero isOpened renamed device =>
        have stored : config.state.param.spp = { call.entry.param.spp with
            name := Windows.devicePrefix ++ call.entry.param.spp.name } := by
          have settings := congrArg (fun view => view.spp) view
          exact settings.trans (congrArg Windows.Settings.spp renamed)
        have found : config.state.device.map Windows.Device.opened = _ :=
          (congrArg (fun view => view.device.map Windows.Device.opened) view).trans device
        obtain ⟨configured, present, same⟩ := Option.map_eq_some_iff.mp found
        refine ⟨configured, present, ?_⟩
        have dcb := congrArg (fun opened => opened.2.2) same
        change configured.dcb = _ at dcb
        rw [dcb, stored]
        exact Windows.flowConfig_iff

/-- Eight data bits and no parity, with this flow control, and an `open` that the
system grants on a device left with no flow control. -/
def Linux.askingRun (flowCtl : Int) : List (Label Tid Linux.Job (List UInt8)) :=
  Label.burst (.client 0) (.operation (.init { Linux.eightNone with flowCtl := flowCtl } none)) 2 ++
    Label.burst (.client 0) (.operation (.open (.fine 3))) 16

def Windows.askingRun (flowCtl : Int) : List (Label Tid Windows.Job Windows.Event) :=
  Label.burst (.client 0)
      (.operation (.init { Windows.eightNone with flowCtl := flowCtl } none)) 4 ++
    Label.burst (.client 0) (.operation (.open .fine)) 36

theorem flowControlled_none :
    (∃ config, (Linux.system Linux.glibc).Reachable Linux.oneClient config ∧
      ∃ prior options, config.state.port.handed = some options ∧
        (Linux.FlowControlled Linux.glibc config.state.port.param.spp prior options ↔
          Linux.FlowKept config.state.port.param.spp prior)) ∧
    (∃ config, Windows.system.Reachable Windows.oneClient config ∧
      ∃ device, config.state.device = some device ∧
        (Windows.FlowControlled config.state.param.spp device.dcb ↔
          Windows.FlowKept config.state.param.spp Windows.Dcb.zero)) := by
  have linuxRan : ∃ config call, (Linux.system Linux.glibc).steps Linux.oneClient
        (Linux.system Linux.glibc).initial (Linux.askingRun flowCtlNone) = some config ∧
      config.calls (.client 0) = some call ∧ call.job = .operation (.open (.fine 3)) ∧
      call.Returned (.value (.code 0)) := ⟨_, _, rfl, rfl, rfl, rfl⟩
  have windowsRan : ∃ config call, Windows.system.steps Windows.oneClient Windows.system.initial
        (Windows.askingRun flowCtlNone) = some config ∧
      config.calls (.client 0) = some call ∧ call.job = .operation (.open .fine) ∧
      call.Returned (.value (.code 0)) := ⟨_, _, rfl, rfl, rfl, rfl⟩
  obtain ⟨linux, call, steps, calls, job, returned⟩ := linuxRan
  obtain ⟨windows, other, stepsToo, callsToo, jobToo, returnedToo⟩ := windowsRan
  obtain ⟨prior, options, -, handed, controlled⟩ := (flowControlled_iff Linux.glibc).1 linux call
    (.fine 3) (.of_steps .start steps) calls job returned
  exact ⟨⟨linux, .of_steps .start steps, prior, options, handed, controlled⟩,
    windows, .of_steps .start stepsToo, (flowControlled_iff Linux.glibc).2 windows other .fine
      (.of_steps .start stepsToo) callsToo jobToo returnedToo⟩

/-- Software flow control asked for on Linux and hardware flow control asked for on
Windows: both times `open` returns 0 and the device has something else. -/
theorem flowControl_not_asked_for :
    (∃ config options, (Linux.system Linux.glibc).Reachable Linux.oneClient config ∧
      config.state.port.param.isOpened = true ∧
      config.state.port.param.spp.flowCtl = flowCtlSoftware ∧
      config.state.port.handed = some options ∧ options.cIflag = 0 ∧
      ¬ Linux.FlowControlled Linux.glibc config.state.port.param.spp Linux.Termios.zero options) ∧
    (∃ config device, Windows.system.Reachable Windows.oneClient config ∧
      config.state.param.isOpened = true ∧ config.state.param.spp.flowCtl = flowCtlHardware ∧
      config.state.device = some device ∧ device.dcb.fOutxCtsFlow = false ∧
      device.dcb.fInX = true ∧ ¬ Windows.FlowControlled config.state.param.spp device.dcb) := by
  have linuxRan : ∃ config options, (Linux.system Linux.glibc).steps Linux.oneClient
        (Linux.system Linux.glibc).initial (Linux.askingRun flowCtlSoftware) = some config ∧
      config.state.port.param.isOpened = true ∧
      config.state.port.param.spp.flowCtl = flowCtlSoftware ∧
      config.state.port.handed = some options ∧ options.cIflag = 0 :=
    ⟨_, _, rfl, rfl, rfl, rfl, by decide⟩
  have windowsRan : ∃ config device, Windows.system.steps Windows.oneClient
        Windows.system.initial (Windows.askingRun flowCtlHardware) = some config ∧
      config.state.param.isOpened = true ∧ config.state.param.spp.flowCtl = flowCtlHardware ∧
      config.state.device = some device ∧ device.dcb.fOutxCtsFlow = false ∧
      device.dcb.fInX = true :=
    ⟨_, _, rfl, rfl, rfl, rfl, rfl, rfl⟩
  obtain ⟨linux, options, steps, isOpened, asked, handed, cIflag⟩ := linuxRan
  obtain ⟨windows, device, stepsToo, isOpenedToo, askedToo, found, cts, xoff⟩ := windowsRan
  refine ⟨⟨linux, options, .of_steps .start steps, isOpened, asked, handed, cIflag, ?_⟩,
    windows, device, .of_steps .start stepsToo, isOpenedToo, askedToo, found, cts, xoff, ?_⟩
  · intro controlled
    have set := (controlled.software asked).1
    rw [cIflag] at set
    exact absurd set (by decide)
  · intro controlled
    have set := (controlled.hardware.mpr askedToo).1
    rw [cts] at set
    cases set

end LibSp
