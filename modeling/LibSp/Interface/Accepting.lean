import LibSp.Linux.Port
import LibSp.Windows.Port

/-!
# Accepting settings

`init` checks its settings field by field. A baud rate that is not listed ends the check
without a code of its own, so that `init` takes the settings for right.
-/

set_option autoImplicit false

namespace LibSp

/-! ## The documented check -/

def baudRates : List Int :=
  [baudRate110, baudRate300, baudRate600, baudRate1200, baudRate2400, baudRate4800, baudRate9600,
    baudRate14400, baudRate19200, baudRate38400, baudRate56000, baudRate57600, baudRate115200,
    baudRate921600]

def stopBitsValues : List Int := [stop1, stop1_5, stop2]

def dataBitsValues : List Int := [dataBits5, dataBits6, dataBits7, dataBits8]

def flowControls : List Int := [flowCtlNone, flowCtlHardware, flowCtlSoftware]

def parities : Platform → List Int
  | .windows => [parityNone, parityOdd, parityEven, parityMark, paritySpace]
  | .linux => [parityNone, parityOdd, parityEven, paritySpace]

structure Valid (platform : Platform) (spp : SpProp) : Prop where
  name : spp.name ≠ ""
  baudRate : spp.baudRate ∈ baudRates
  stopBits : spp.stopBits ∈ stopBitsValues
  dataBits : spp.dataBits ∈ dataBitsValues
  flowCtl : spp.flowCtl ∈ flowControls
  parity : spp.parity ∈ parities platform

/-- The code of the first field that is not valid, in the order of the documentation. -/
def firstOffence (platform : Platform) (spp : SpProp) : Int :=
  if spp.name = "" then -1
  else if spp.baudRate ∉ baudRates then -2
  else if spp.stopBits ∉ stopBitsValues then -3
  else if spp.dataBits ∉ dataBitsValues then -4
  else if spp.flowCtl ∉ flowControls then -5
  else if spp.parity ∉ parities platform then -6
  else 0

theorem firstOffence_eq_zero_iff {platform : Platform} {spp : SpProp} :
    firstOffence platform spp = 0 ↔ Valid platform spp := by
  constructor
  · intro none
    simp only [firstOffence] at none
    split at none
    · cases none
    split at none
    · cases none
    split at none
    · cases none
    split at none
    · cases none
    split at none
    · cases none
    split at none
    · cases none
    next name baudRate stopBits dataBits flowCtl parity =>
      exact ⟨name, Decidable.not_not.mp baudRate, Decidable.not_not.mp stopBits,
        Decidable.not_not.mp dataBits, Decidable.not_not.mp flowCtl, Decidable.not_not.mp parity⟩
  · intro valid
    simp only [firstOffence, valid.name, valid.baudRate, valid.stopBits, valid.dataBits,
      valid.flowCtl, valid.parity, not_true_eq_false, if_false]

/-! ## The check of the code -/

theorem mapFind_eq_zero_iff {map : MapType} {key : Int} :
    SpParamsCheck.mapFind map key = 0 ↔ key ∈ map.map Prod.fst := by
  simp only [SpParamsCheck.mapFind]
  cases found : map.find? fun entry => entry.1 == key with
  | none =>
      have missing := List.find?_eq_none.mp found
      constructor
      · intro zero
        cases zero
      · intro member
        obtain ⟨entry, inside, same⟩ := List.mem_map.mp member
        exact absurd (beq_iff_eq.mpr same) (missing entry inside)
  | some entry =>
      have same : entry.1 = key := by simpa using List.find?_some found
      have inside := List.mem_of_find?_eq_some found
      exact ⟨fun _ => List.mem_map.mpr ⟨entry, inside, same⟩, fun _ => rfl⟩

theorem isRight_eq (platform : Platform) (spp : SpProp) :
    (SpParamsCheck.getInstance platform).isRight spp =
      if spp.name ≠ "" ∧ spp.baudRate ∉ baudRates then 0 else firstOffence platform spp := by
  have baud : (SpParamsCheck.getInstance platform).mapBaud.map Prod.fst = baudRates := by
    cases platform <;> rfl
  have stop : (SpParamsCheck.getInstance platform).mapSb.map Prod.fst = stopBitsValues := by
    cases platform <;> rfl
  have data : (SpParamsCheck.getInstance platform).mapDb.map Prod.fst = dataBitsValues := by
    cases platform <;> rfl
  have flow : (SpParamsCheck.getInstance platform).mapFctrl.map Prod.fst = flowControls := by
    cases platform <;> rfl
  have parity : (SpParamsCheck.getInstance platform).mapParity.map Prod.fst = parities platform := by
    cases platform <;> rfl
  simp only [SpParamsCheck.isRight, ne_eq, mapFind_eq_zero_iff, baud, stop, data, flow, parity,
    firstOffence, String.length_eq_zero_iff]
  by_cases name : spp.name = ""
  · simp only [name, if_true, not_true_eq_false, false_and, if_false]
  · by_cases rate : spp.baudRate ∈ baudRates
    · simp only [name, rate, not_true_eq_false, and_false, if_false, not_false_eq_true]
    · simp only [name, rate, not_false_eq_true, and_self, if_true, if_false]

/-- The check of the baud rate is reached and passed, or not reached. -/
def RateChecked (spp : SpProp) : Prop := spp.name = "" ∨ spp.baudRate ∈ baudRates

instance (spp : SpProp) : Decidable (RateChecked spp) := inferInstanceAs (Decidable (_ ∨ _))

theorem isRight_of_rateChecked {platform : Platform} {spp : SpProp} (checked : RateChecked spp) :
    (SpParamsCheck.getInstance platform).isRight spp = firstOffence platform spp := by
  rw [isRight_eq, if_neg]
  intro unlisted
  rcases checked with empty | listed
  · exact unlisted.1 empty
  · exact unlisted.2 listed

theorem isRight_of_not_rateChecked {platform : Platform} {spp : SpProp}
    (unchecked : ¬ RateChecked spp) : (SpParamsCheck.getInstance platform).isRight spp = 0 := by
  rw [isRight_eq, if_pos (not_or.mp unchecked)]

/-! ## `init` -/

/-- The values that the switches of the open path know: in `set_port_params` on Linux, in
`set_flow_ctl` on Windows. -/
def Switched (platform : Platform) (spp : SpProp) : Prop :=
  match platform with
  | .linux => spp.dataBits ∈ dataBitsValues ∧ spp.stopBits ∈ stopBitsValues ∧
      spp.flowCtl ∈ flowControls ∧ spp.parity ∈ parities .linux
  | .windows => spp.flowCtl ∈ flowControls

theorem Valid.switched {platform : Platform} {spp : SpProp} (valid : Valid platform spp) :
    Switched platform spp := by
  cases platform with
  | linux => exact ⟨valid.dataBits, valid.stopBits, valid.flowCtl, valid.parity⟩
  | windows => exact valid.flowCtl

/-- What `init` owes its caller, with the settings that it leaves in the object. -/
structure Accepts {State : Type} (platform : Platform) (stored : State → SpProp) (spp : SpProp)
    (s : State) (value : Int) (after : State) : Prop where
  accepted : value = 0 ↔ Valid platform spp
  refused : ¬ Valid platform spp → value = firstOffence platform spp ∧ after = s
  switched : value = 0 → Switched platform (stored after)

theorem accepts_of_rateChecked {State : Type} {platform : Platform} {stored : State → SpProp}
    {spp : SpProp} {s after : State}
    (kept : (SpParamsCheck.getInstance platform).isRight spp ≠ 0 → after = s)
    (stores : (SpParamsCheck.getInstance platform).isRight spp = 0 → stored after = spp)
    (checked : RateChecked spp) :
    Accepts platform stored spp s ((SpParamsCheck.getInstance platform).isRight spp) after := by
  have code := @isRight_of_rateChecked platform spp checked
  have accepted : (SpParamsCheck.getInstance platform).isRight spp = 0 ↔ Valid platform spp := by
    rw [code]
    exact firstOffence_eq_zero_iff
  refine ⟨accepted, fun invalid => ⟨code, ?_⟩, fun zero => ?_⟩
  · exact kept fun zero => invalid (accepted.mp zero)
  · rw [stores zero]
    exact (accepted.mp zero).switched

theorem rateChecked_of_accepts {State : Type} {platform : Platform} {stored : State → SpProp}
    {spp : SpProp} {s after : State}
    (accepts :
      Accepts platform stored spp s ((SpParamsCheck.getInstance platform).isRight spp) after) :
    RateChecked spp := by
  refine Decidable.byContradiction fun unchecked => ?_
  have valid := accepts.accepted.mp (isRight_of_not_rateChecked unchecked)
  exact unchecked (.inr valid.baudRate)

end LibSp

namespace LibSp.Linux

open Concurrent

/-- The state that `init` leaves. -/
def afterInit (spp : SpProp) (precvData : Option IrecvData) (s : State) : State :=
  if (SpParamsCheck.getInstance .linux).isRight spp ≠ 0 then s
  else { s with
    port := { s.port with
      param := { s.port.param with
        spp := spp
        precvData := if precvData.isSome then precvData else s.port.param.precvData } } }

theorem init_run (thread : Tid) (spp : SpProp) (precvData : Option IrecvData) (s : State) :
    (init spp precvData).run (exec thread) s =
      some ((SpParamsCheck.getInstance .linux).isRight spp, afterInit spp precvData s) := by
  simp only [init, afterInit]
  by_cases refused : (SpParamsCheck.getInstance .linux).isRight spp ≠ 0
  · rw [if_pos refused, if_pos refused]
    rfl
  · rw [if_neg refused, if_neg refused]
    cases precvData <;> rfl

theorem init_accepting (thread : Tid) (spp : SpProp) (precvData : Option IrecvData)
    (s : State) :
    (∃ value after, (init spp precvData).run (exec thread) s = some (value, after) ∧
        Accepts .linux (·.port.param.spp) spp s value after) ↔ RateChecked spp := by
  rw [init_run]
  constructor
  · intro accepts
    obtain ⟨value, after, ran, accepts⟩ := accepts
    cases ran
    exact rateChecked_of_accepts accepts
  · intro checked
    refine ⟨_, _, rfl, accepts_of_rateChecked (fun refused => ?_) (fun zero => ?_) checked⟩
    · exact if_pos refused
    · rw [afterInit, if_neg (Decidable.not_not.mpr zero)]

end LibSp.Linux

namespace LibSp.Windows

open Concurrent

/-- The logger that the settings ask for is registered already: `rotating_logger_mt` throws. -/
def Throws (spp : SpProp) (s : State) : Prop :=
  (SpParamsCheck.getInstance .windows).isRight spp = 0 ∧ spp.isToLog = true ∧ s.registered = true

/-- The state that `init` leaves when it returns. -/
def afterInit (spp : SpProp) (precvData : Option IrecvData) (s : State) : State :=
  if (SpParamsCheck.getInstance .windows).isRight spp ≠ 0 then s
  else { s with
    param := { s.param with
      spp := spp
      precvData := if precvData.isSome then precvData else s.param.precvData
      isInit := true
      plog := spp.isToLog || s.param.plog }
    registered := spp.isToLog || s.registered }

theorem init_run (thread : Tid) (spp : SpProp) (precvData : Option IrecvData) (s : State) :
    (Throws spp s → (init spp precvData).run (exec thread) s = none) ∧
      (¬ Throws spp s → (init spp precvData).run (exec thread) s =
        some ((SpParamsCheck.getInstance .windows).isRight spp, afterInit spp precvData s)) := by
  simp only [init, afterInit, Throws]
  by_cases refused : (SpParamsCheck.getInstance .windows).isRight spp ≠ 0
  · simp only [if_pos refused]
    exact ⟨fun throws => absurd throws.1 refused, fun _ => rfl⟩
  · have zero := Decidable.not_not.mp refused
    simp only [if_neg refused]
    cases log : spp.isToLog with
    | false =>
        refine ⟨fun throws => absurd throws.2.1 Bool.false_ne_true, fun _ => ?_⟩
        cases precvData <;>
          simp [Prog.run, store, load, perform, exec, SpParamWin.set, SpParamWin.get, log]
    | true =>
        cases registered : s.registered with
        | true =>
            refine ⟨fun _ => ?_, fun quiet => absurd ⟨zero, rfl, rfl⟩ quiet⟩
            cases precvData <;>
              simp [Prog.run, store, load, perform, exec, SpParamWin.set, SpParamWin.get, log,
                registered]
        | false =>
            refine ⟨fun throws => absurd throws.2.2 Bool.false_ne_true, fun _ => ?_⟩
            cases precvData <;>
              simp [Prog.run, store, load, perform, exec, SpParamWin.set, SpParamWin.get, log,
                registered]

theorem init_accepting (thread : Tid) (spp : SpProp) (precvData : Option IrecvData)
    (s : State) :
    (∃ value after, (init spp precvData).run (exec thread) s = some (value, after) ∧
        Accepts .windows (·.param.spp) spp s value after) ↔
      RateChecked spp ∧ ¬ Throws spp s := by
  obtain ⟨throws, returns⟩ := init_run thread spp precvData s
  constructor
  · intro accepts
    obtain ⟨value, after, ran, accepts⟩ := accepts
    have quiet : ¬ Throws spp s := by
      intro thrown
      rw [throws thrown] at ran
      cases ran
    rw [returns quiet] at ran
    cases ran
    exact ⟨rateChecked_of_accepts accepts, quiet⟩
  · intro condition
    obtain ⟨checked, quiet⟩ := condition
    refine ⟨_, _, returns quiet, accepts_of_rateChecked (fun refused => ?_) (fun zero => ?_) checked⟩
    · exact if_pos refused
    · rw [afterInit, if_neg (Decidable.not_not.mpr zero)]

end LibSp.Windows

namespace LibSp

/-- On both platforms and from every state `init` accepts exactly the valid settings, refuses
others with the documented code and without a change, and leaves settings that every later
switch knows, exactly if the baud rate is listed or the name empty and, on Windows, the
settings do not ask for a logger that is registered. -/
theorem init_accepts_iff (thread : Tid) (spp : SpProp) (precvData : Option IrecvData) :
    (∀ s : Linux.State,
      (∃ value after,
        (Linux.init spp precvData).run (Linux.exec thread) s = some (value, after) ∧
          Accepts .linux (·.port.param.spp) spp s value after) ↔ RateChecked spp) ∧
    ∀ s : Windows.State,
      (∃ value after,
        (Windows.init spp precvData).run (Windows.exec thread) s = some (value, after) ∧
          Accepts .windows (·.param.spp) spp s value after) ↔
        RateChecked spp ∧ ¬ Windows.Throws spp s :=
  ⟨Linux.init_accepting thread spp precvData, Windows.init_accepting thread spp precvData⟩

/-- Settings with the baud rate 1 and the parity 9. -/
def oddRate : SpProp := { SpProp.zero with name := "COM3", baudRate := 1, parity := 9 }

/-- `init` takes a rate that is not listed for right, whatever the fields after it. -/
theorem init_takes_oddRate :
    (∃ after, (Linux.init oddRate none).run (Linux.exec (.client 0)) Linux.State.start =
      some (0, after) ∧ after.port.param.spp = oddRate) ∧
    (∃ after, (Windows.init oddRate none).run (Windows.exec (.client 0)) Windows.State.start =
      some (0, after) ∧ after.param.spp = oddRate) ∧
    ¬ Valid .linux oddRate ∧ ¬ Valid .windows oddRate ∧ ¬ Switched .linux oddRate := by
  have unlisted : oddRate.baudRate ∉ baudRates := by decide
  refine ⟨⟨_, rfl, rfl⟩, ⟨_, rfl, rfl⟩, fun valid => unlisted valid.baudRate,
    fun valid => unlisted valid.baudRate, fun switched => ?_⟩
  have unknown : oddRate.parity ∉ parities .linux := by decide
  exact unknown switched.2.2.2

end LibSp
