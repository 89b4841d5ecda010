import Mathlib.Algebra.Group.Int.Defs
import LibSp.Linux.Speed
import LibSp.Interface.Accepting
import LibSp.Interface.FlowControl

/-!
# The settings of an open port

`init` stores its settings in any state of the port. As long as it does so only
while the port is closed, and only settings for which the device has a place, an
open port has the settings that its device was opened and configured with.
-/

set_option autoImplicit false

namespace LibSp.Linux

open Concurrent

/-- The termios has a place for these settings. -/
def Fitting (spp : SpProp) : Prop :=
  spp.dataBits ∈ dataBitsValues ∧ spp.stopBits ∈ stopBitsValues ∧ spp.flowCtl ∈ flowControls ∧
    spp.parity ∈ parities .linux

instance (spp : SpProp) : Decidable (Fitting spp) := inferInstanceAs (Decidable (_ ∧ _))

/-- Only settings with an unlisted field, which the check accepts behind an unlisted rate, have
no place. -/
theorem fitting_of_valid {spp : SpProp} (valid : Valid .linux spp) : Fitting spp :=
  ⟨valid.dataBits, valid.stopBits, valid.flowCtl, valid.parity⟩

/-- The termios has these settings, as far as `set_port_params` sets what was asked for. -/
structure Matches (libc : SpeedSetters) (spp : SpProp) (prior options : Termios) : Prop where
  fitting : Fitting spp
  framing : Framed spp options.cCflag ↔ FramingKept spp
  flowCtl : FlowControlled libc spp prior options ↔ FlowKept spp prior
  speed : libc = glibc → (SpeedSet spp options ↔ SpeedInherited spp prior)

theorem portOptions_matches {libc : SpeedSetters} {spp : SpProp} {prior : Termios}
    (fitting : Fitting spp) : Matches libc spp prior (portOptions libc spp prior) where
  fitting := fitting
  framing := portOptions_framed_iff
  flowCtl := portOptions_flow_iff
  speed same := by
    subst same
    exact speedSet_iff

/-- The settings of an open port are those it was opened and configured with. -/
def Settled (libc : SpeedSetters) (port : Port) : Prop :=
  port.param.isOpened = true → port.param.spp = openedWith port.history ∧
    ∃ prior options, openedOn port.history = some prior ∧ port.handed = some options ∧
      Matches libc port.param.spp prior options

structure Steady (history : List (Operation × Value)) : Prop where
  fitting : Fitting (lastSettings history)
  same : opened history = true → lastSettings history = openedWith history

section

variable {libc : SpeedSetters} {port after : Port}

theorem Recorded.settled (recorded : Recorded libc port) (steady : Steady port.history) :
    Settled libc port := by
  intro isOpened
  rw [recorded.isOpened] at isOpened
  have spp : port.param.spp = openedWith port.history := recorded.spp.trans (steady.same isOpened)
  have fitting : Fitting port.param.spp := by
    rw [recorded.spp]
    exact steady.fitting
  obtain ⟨prior, found, handed⟩ := recorded.handed isOpened
  rw [← spp] at handed
  exact ⟨spp, prior, _, found, handed, portOptions_matches fitting⟩

theorem Steady.record {history : List (Operation × Value)} {operation : Operation} {value : Value}
    (steady : Steady history)
    (kept : ∀ spp precvData, operation = .init spp precvData → value = .code 0 →
      opened history = false ∧ Fitting spp) :
    Steady ((operation, value) :: history) := by
  cases operation with
  | init spp precvData =>
      by_cases succeeded : value = .code 0
      · obtain ⟨isClosed, fitting⟩ := kept spp precvData rfl succeeded
        constructor
        · rw [lastSettings, if_pos succeeded]
          exact fitting
        · intro isOpened
          simp only [opened, isClosed] at isOpened
          cases isOpened
      · constructor
        · rw [lastSettings, if_neg succeeded]
          exact steady.fitting
        · intro isOpened
          simp only [opened] at isOpened
          simp only [lastSettings, if_neg succeeded, openedWith]
          exact steady.same isOpened
  | «open» outcome =>
      refine ⟨steady.fitting, fun isOpened => ?_⟩
      simp only [opened] at isOpened
      simp only [lastSettings, openedWith]
      split
      · rfl
      · next failed =>
          rw [if_neg failed] at isOpened
          exact steady.same isOpened
  | close | destroy => exact ⟨steady.fitting, fun isOpened => absurd isOpened Bool.false_ne_true⟩
  | isOpened | setReadNotify | send => exact ⟨steady.fitting, steady.same⟩

/-- The client between its operations, and at the effects of each that is not an `open`. -/
def settling (libc : SpeedSetters) : Account Port Effect Job Result where
  ready port := Recorded libc port ∧ Steady port.history
  point job _ _ port := (∀ outcome, job ≠ .operation (.open outcome)) → Settled libc port
  post _ _ _ port := Recorded libc port ∧ Steady port.history

end

end LibSp.Linux

namespace LibSp.Windows

open Concurrent

/-- The configuration has a place for these settings: a DWORD for the rate and a BYTE for
each of the next three. -/
def Fitting (spp : SpProp) : Prop :=
  (0 ≤ spp.baudRate ∧ spp.baudRate < 2 ^ 32) ∧ (0 ≤ spp.dataBits ∧ spp.dataBits < 2 ^ 8) ∧
    (0 ≤ spp.parity ∧ spp.parity < 2 ^ 8) ∧ (0 ≤ spp.stopBits ∧ spp.stopBits < 2 ^ 8) ∧
      spp.flowCtl ∈ flowControls

instance (spp : SpProp) : Decidable (Fitting spp) := inferInstanceAs (Decidable (_ ∧ _))

theorem fitting_of_valid {spp : SpProp} (valid : Valid .windows spp) : Fitting spp := by
  have rates : ∀ rate ∈ baudRates, 0 ≤ rate ∧ rate < 2 ^ 32 := by decide
  have sizes : ∀ size ∈ dataBitsValues, 0 ≤ size ∧ size < 2 ^ 8 := by decide
  have checks : ∀ check ∈ parities .windows, 0 ≤ check ∧ check < 2 ^ 8 := by decide
  have stops : ∀ stop ∈ stopBitsValues, 0 ≤ stop ∧ stop < 2 ^ 8 := by decide
  exact ⟨rates _ valid.baudRate, sizes _ valid.dataBits, checks _ valid.parity,
    stops _ valid.stopBits, valid.flowCtl⟩

/-- The device has these settings, the flow control as far as `set_flow_ctl` sets what was
asked for. -/
structure Matches (spp : SpProp) (device : Device) : Prop where
  name : device.name = spp.name
  overlapped : device.overlapped = decide (modeAsync = spp.opMode)
  baudRate : (device.dcb.baudRate.toNat : Int) = spp.baudRate
  dataBits : (device.dcb.byteSize.toNat : Int) = spp.dataBits
  parity : (device.dcb.parity.toNat : Int) = spp.parity
  stopBits : (device.dcb.stopBits.toNat : Int) = spp.stopBits
  flowCtl : FlowControlled spp device.dcb ↔ spp.flowCtl = flowCtlNone

/-- The settings of an open port are those its device was opened and configured with. -/
def Settled (view : View) : Prop :=
  Fitting view.spp ∧ (view.handle ≠ INVALID_HANDLE_VALUE →
    ∃ device, view.device = some device ∧ Matches view.spp device)

theorem Matches.congr {spp : SpProp} {first second : Device} (matching : Matches spp first)
    (same : second.opened = first.opened) : Matches spp second := by
  have dcb : second.dcb = first.dcb := congrArg (·.2.2) same
  exact {
    name := (congrArg (·.1) same).trans matching.name
    overlapped := (congrArg (·.2.1) same).trans matching.overlapped
    baudRate := dcb ▸ matching.baudRate
    dataBits := dcb ▸ matching.dataBits
    parity := dcb ▸ matching.parity
    stopBits := dcb ▸ matching.stopBits
    flowCtl := dcb ▸ matching.flowCtl }

theorem Fitting.renamed {spp : SpProp} (fitting : Fitting spp) (name : String) :
    Fitting { spp with name := name } := fitting

/-- What fits a word is in the word. -/
theorem toNat_ofInt_of_fits {width : Nat} {value : Int} (fits : 0 ≤ value ∧ value < 2 ^ width) :
    ((BitVec.ofInt width value).toNat : Int) = value := by
  rw [BitVec.toNat_ofInt, Int.emod_eq_of_lt fits.1 (by exact_mod_cast fits.2)]
  exact Int.toNat_of_nonneg fits.1

theorem flowConfig_numbers (flowCtl : Int) (dcb : Dcb) :
    (flowConfig flowCtl dcb).baudRate = dcb.baudRate ∧
      (flowConfig flowCtl dcb).byteSize = dcb.byteSize ∧
      (flowConfig flowCtl dcb).parity = dcb.parity ∧
      (flowConfig flowCtl dcb).stopBits = dcb.stopBits := by
  unfold flowConfig
  split
  · exact ⟨rfl, rfl, rfl, rfl⟩
  split
  · exact ⟨rfl, rfl, rfl, rfl⟩
  split <;> exact ⟨rfl, rfl, rfl, rfl⟩

theorem flowKept_iff {spp : SpProp} {prior : Dcb} (listed : spp.flowCtl ∈ flowControls) :
    FlowKept spp prior ↔ spp.flowCtl = flowCtlNone := by
  have hardwareNotNone : flowCtlHardware ≠ flowCtlNone := by decide
  have softwareNotNone : flowCtlSoftware ≠ flowCtlNone := by decide
  constructor
  · intro kept
    obtain ⟨notHardware, notSoftware, -⟩ := kept
    simpa [flowControls, notHardware, notSoftware] using listed
  · intro none
    exact ⟨none ▸ hardwareNotNone.symm, none ▸ softwareNotNone.symm, .inl none⟩

/-- The device of an `open` has the settings that fit it. -/
theorem matches_of_opened {spp : SpProp} {device : Device} {configured : Dcb}
    (fitting : Fitting spp) (same : device.opened =
      (spp.name, decide (modeAsync = spp.opMode), flowConfig spp.flowCtl (portConfig spp configured))) :
    Matches spp device := by
  obtain ⟨baudRate, dataBits, parity, stopBits, listed⟩ := fitting
  have dcb : device.dcb = flowConfig spp.flowCtl (portConfig spp configured) :=
    congrArg (·.2.2) same
  obtain ⟨rate, size, check, stops⟩ := flowConfig_numbers spp.flowCtl (portConfig spp configured)
  rw [← dcb] at rate size check stops
  exact {
    name := congrArg (·.1) same
    overlapped := congrArg (·.2.1) same
    baudRate := by
      rw [rate]
      exact toNat_ofInt_of_fits baudRate
    dataBits := by
      rw [size]
      exact toNat_ofInt_of_fits dataBits
    parity := by
      rw [check]
      exact toNat_ofInt_of_fits parity
    stopBits := by
      rw [stops]
      exact toNat_ofInt_of_fits stopBits
    flowCtl := by
      rw [dcb]
      exact flowConfig_iff.trans (flowKept_iff listed) }

section

variable {view after : View} {operation : Operation} {value : Value}

theorem View.Calm.settled {closing : Bool} (calm : view.Calm closing after)
    (settled : Settled view) : Settled after := by
  obtain ⟨fitting, present⟩ := settled
  have spp : after.spp = view.spp := congrArg Settings.spp calm.settings
  refine ⟨spp ▸ fitting, fun isOpened => ?_⟩
  have handle : after.handle = view.handle :=
    calm.handle.resolve_right fun given => isOpened given.2
  obtain ⟨device, found, matching⟩ := present (handle ▸ isOpened)
  have kept := calm.device
  rw [found, Option.map_some] at kept
  obtain ⟨configured, foundAfter, same⟩ := Option.map_eq_some_iff.mp kept
  exact ⟨configured, foundAfter, spp ▸ matching.congr same⟩

/-- A closed port that keeps its settings, but for the name. -/
theorem Settled.closed (settled : Settled view) (isClosed : after.handle = INVALID_HANDLE_VALUE)
    (name : String) (spp : after.spp = { view.spp with name := name }) : Settled after :=
  ⟨spp ▸ settled.1.renamed name, fun isOpened => absurd isClosed isOpened⟩

/-- What every operation leaves behind but an `init` on an open port or with settings that
do not fit. -/
theorem Settled.seen (settled : Settled view) (seen : Seen view value after operation)
    (stores : ∀ spp precvData, operation = .init spp precvData → value = .code 0 →
      view.handle = INVALID_HANDLE_VALUE ∧ Fitting spp) : Settled after := by
  cases operation with
  | init spp precvData =>
      obtain ⟨-, settings, handle, device⟩ := seen
      by_cases succeeded : value = .code 0
      · obtain ⟨isClosed, fitting⟩ := stores spp precvData rfl succeeded
        rw [Settings.after, if_pos succeeded] at settings
        have stored : after.spp = spp := congrArg Settings.spp settings
        exact ⟨stored ▸ fitting, fun isOpened => absurd (handle.trans isClosed) isOpened⟩
      · rw [Settings.after, if_neg succeeded] at settings
        have kept : after.spp = view.spp := congrArg Settings.spp settings
        rw [Settled, kept, handle, device]
        exact settled
  | «open» outcome =>
      obtain ⟨code, -, seen⟩ := seen
      cases seen with
      | refused isInit negative same =>
          rw [same]
          exact settled
      | already isInit wasOpened negative isClosed renamed =>
          exact settled.closed isClosed (devicePrefix ++ view.spp.name)
            (congrArg Settings.spp renamed)
      | failed isInit wasClosed fails nonzero isClosed renamed =>
          exact settled.closed isClosed (devicePrefix ++ view.spp.name)
            (congrArg Settings.spp renamed)
      | opened isInit opens zero _ renamed device =>
          obtain ⟨configured, found, same⟩ := Option.map_eq_some_iff.mp device
          have spp : after.spp = { view.spp with name := devicePrefix ++ view.spp.name } :=
            congrArg Settings.spp renamed
          rw [Settled, spp]
          have fitting := settled.1.renamed (devicePrefix ++ view.spp.name)
          exact ⟨fitting, fun _ => ⟨configured, found, matches_of_opened fitting same⟩⟩
  | close outcome =>
      exact settled.closed seen.1.isClosed view.spp.name (congrArg Settings.spp seen.1.settings)
  | destroy outcome =>
      exact settled.closed (View.Shut.isClosed seen) view.spp.name
        (congrArg Settings.spp (View.Shut.settings seen))
  | isOpened => exact seen.2.settled settled
  | setReadNotify | send | getRecvThreadIsRunning | setRecvThreadIsRunning =>
      exact View.Calm.settled seen settled

/-- The client between its operations, and at the effects of each that is not an `open`. -/
def settling : Account View Effect Job Result where
  ready := Settled
  point job _ _ view := (∀ outcome, job ≠ .operation (.open outcome)) → Settled view
  post _ _ _ := Settled

end

end LibSp.Windows

namespace LibSp

open Concurrent

end LibSp
