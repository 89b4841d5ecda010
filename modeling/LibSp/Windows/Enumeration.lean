import LibSp.Interface

/-!
# Port enumeration on Windows

The loop of `get_available_serial_port` over the present COM-port interfaces. One
variable is the condition of the loop and the result of the calls in its body.
-/

set_option autoImplicit false

namespace LibSp

/-! ## Mapping a list up to the first failure -/

section

variable {α β : Type} (f : α → Option β)

def mapWhile : List α → List β
  | [] => []
  | first :: rest =>
      match f first with
      | none => []
      | some value => value :: mapWhile rest

/-- Nothing is lost exactly if no element with a value comes after one without. -/
theorem mapWhile_eq_filterMap_iff (list : List α) :
    mapWhile f list = list.filterMap f ↔
      list.Pairwise fun earlier later => (f later).isSome → (f earlier).isSome := by
  induction list with
  | nil => simp [mapWhile]
  | cons first rest ih =>
      rw [List.pairwise_cons]
      cases value : f first with
      | some mapped =>
          simp only [mapWhile, value, List.filterMap_cons_some value, List.cons.injEq, true_and,
            Option.isSome_some, implies_true, true_and]
          exact ih
      | none =>
          simp only [mapWhile, value, List.filterMap_cons_none value, Option.isSome_none,
            Bool.false_eq_true, imp_false, Bool.not_eq_true, Option.isSome_eq_false_iff,
            Option.isNone_iff_eq_none]
          constructor
          · intro empty
            have missing := List.filterMap_eq_nil_iff.mp empty.symm
            refine ⟨missing, List.pairwise_of_forall_mem_list ?_⟩
            intro earlier _ later member some
            simp [missing later member] at some
          · intro ordered
            exact (List.filterMap_eq_nil_iff.mpr ordered.1).symm

end

end LibSp

namespace LibSp.Windows

/-- What the system answers about one present interface, texts as `wstr2str` returns
them: the detail query, the friendly name, and the registry key with its `PortName`. -/
structure DeviceInterface where
  detail : Bool
  friendlyName : Option String
  devRegKey : Option (Option String)

/-- What the interface is to be listed as, if all three calls succeed. A key without a
port name reads as the zeroed buffer. -/
def DeviceInterface.entry? (device : DeviceInterface) : Option SpNameDesc :=
  match device.detail, device.friendlyName, device.devRegKey with
  | true, some description, some portName => some ⟨portName.getD "", description⟩
  | _, _, _ => none

/-- How a turn of the loop ends: by `break`, or with a value of `ret_val`. -/
inductive Turn where
  | broken (listSp : List SpNameDesc)
  | next (retVal : Bool) (listSp : List SpNameDesc)

/-- `SetupDiEnumDeviceInterfaces` succeeds for the indices below the number of devices. -/
def enumTurn (devices : List DeviceInterface) (index : Nat) (listSp : List SpNameDesc) : Turn :=
  match devices[index]? with
  | none => .next false listSp
  | some device =>
      if !device.detail then .broken listSp
      else
        match device.friendlyName with
        | none => .next false listSp
        | some strDescription =>
            match device.devRegKey with
            | none => .next false listSp
            | some portName => .next true (listSp ++ [⟨portName.getD "", strDescription⟩])

theorem enumTurn_cases (devices : List DeviceInterface) (index : Nat)
    (listSp : List SpNameDesc) :
    (∃ device entry, devices[index]? = some device ∧ device.entry? = some entry ∧
      enumTurn devices index listSp = .next true (listSp ++ [entry])) ∨
    ((∀ device, devices[index]? = some device → device.entry? = none) ∧
      (enumTurn devices index listSp = .broken listSp ∨
        enumTurn devices index listSp = .next false listSp)) := by
  cases found : devices[index]? with
  | none => exact .inr ⟨nofun, .inr (by simp only [enumTurn, found])⟩
  | some device =>
      obtain ⟨detail, friendlyName, devRegKey⟩ := device
      have same : ∀ {other}, some (DeviceInterface.mk detail friendlyName devRegKey) = some other →
          other = ⟨detail, friendlyName, devRegKey⟩ := fun equal => (Option.some.inj equal).symm
      cases detail with
      | false =>
          refine .inr ⟨fun other equal => ?_, .inl (by simp [enumTurn, found])⟩
          rw [same equal]
          rfl
      | true =>
          cases friendlyName with
          | none =>
              refine .inr ⟨fun other equal => ?_, .inr (by simp [enumTurn, found])⟩
              rw [same equal]
              rfl
          | some description =>
              cases devRegKey with
              | none =>
                  refine .inr ⟨fun other equal => ?_, .inr (by simp [enumTurn, found])⟩
                  rw [same equal]
                  rfl
              | some portName =>
                  exact .inl ⟨_, _, rfl, rfl, by simp [enumTurn, found]⟩

/-- The loop from a turn on that its condition lets begin. -/
def enumLoop (devices : List DeviceInterface) (index : Nat) (listSp : List SpNameDesc) :
    List SpNameDesc :=
  match turn : enumTurn devices index listSp with
  | .broken listed => listed
  | .next false listed => listed
  | .next true listed => enumLoop devices (index + 1) listed
termination_by devices.length - index
decreasing_by
  rcases enumTurn_cases devices index listSp with ⟨device, entry, found, -⟩ | ⟨-, ended⟩
  · have inside := (List.getElem?_eq_some_iff.mp found).1
    omega
  · rcases ended with ended | ended <;> simp [ended] at turn

/-- `classDevs` and `allocated` tell whether `SetupDiGetClassDevs` and the allocation of the
detail buffer succeed. -/
def getAvailableSerialPort (classDevs allocated : Bool) (devices : List DeviceInterface) :
    List SpNameDesc :=
  if classDevs then
    if allocated then enumLoop devices 0 [] else []
  else []

/-- The loop ends at the first device on which a call fails. -/
theorem enumLoop_eq (devices : List DeviceInterface) (index : Nat) (listSp : List SpNameDesc) :
    enumLoop devices index listSp =
      listSp ++ mapWhile DeviceInterface.entry? (devices.drop index) := by
  induction remaining : devices.length - index generalizing index listSp with
  | zero =>
      have outside : devices.length ≤ index := by omega
      have absent : devices[index]? = none := List.getElem?_eq_none outside
      have turn : enumTurn devices index listSp = .next false listSp := by
        simp only [enumTurn, absent]
      rw [enumLoop, List.drop_eq_nil_of_le outside, mapWhile, List.append_nil]
      split <;> simp_all
  | succ count ih =>
      have inside : index < devices.length := by omega
      have present : devices[index]? = some devices[index] := List.getElem?_eq_getElem inside
      rw [List.drop_eq_getElem_cons inside, mapWhile, enumLoop]
      rcases enumTurn_cases devices index listSp with
        ⟨device, entry, found, listed, turn⟩ | ⟨missing, turn⟩
      · rw [present] at found
        cases found
        have rest := ih (index + 1) (listSp ++ [entry]) (by omega)
        rw [listed]
        split <;> simp_all
      · rw [missing _ present, List.append_nil]
        rcases turn with turn | turn <;> split <;> simp_all

theorem getAvailableSerialPort_eq (classDevs allocated : Bool) (devices : List DeviceInterface) :
    getAvailableSerialPort classDevs allocated devices =
      if classDevs && allocated then mapWhile DeviceInterface.entry? devices else [] := by
  simp only [getAvailableSerialPort, enumLoop_eq, List.drop_zero, List.nil_append]
  cases classDevs <;> rfl

/-- The devices for which all three calls succeed are listed, each once and in their order,
exactly if there is none of them or the enumeration gets under way and none of them comes
after a device on which a call fails. -/
theorem getAvailableSerialPort_complete_iff (classDevs allocated : Bool)
    (devices : List DeviceInterface) :
    getAvailableSerialPort classDevs allocated devices =
        devices.filterMap DeviceInterface.entry? ↔
      devices.filterMap DeviceInterface.entry? = [] ∨
        classDevs = true ∧ allocated = true ∧
          devices.Pairwise fun earlier later => later.entry?.isSome → earlier.entry?.isSome := by
  rw [getAvailableSerialPort_eq, ← mapWhile_eq_filterMap_iff]
  cases classDevs with
  | false => simp [eq_comm]
  | true =>
      cases allocated with
      | false => simp [eq_comm]
      | true =>
          simp only [Bool.and_self, if_true, true_and]
          constructor
          · exact .inr
          · intro complete
            rcases complete with empty | complete
            · rw [empty]
              cases devices with
              | nil => rfl
              | cons device rest =>
                  have missing := List.filterMap_eq_nil_iff.mp empty device List.mem_cons_self
                  rw [mapWhile, missing]
            · exact complete

/-- `COM1` and `COM3` are in order, the friendly name of `COM2` cannot be read. -/
def faultyDevices : List DeviceInterface :=
  [⟨true, some "first", some (some "COM1")⟩, ⟨true, none, some (some "COM2")⟩,
    ⟨true, some "third", some (some "COM3")⟩]

/-- `COM3` is hidden by the failure on `COM2`. -/
theorem getAvailableSerialPort_faulty :
    getAvailableSerialPort true true faultyDevices = [⟨"COM1", "first"⟩] ∧
      getAvailableSerialPort true true faultyDevices ≠
        faultyDevices.filterMap DeviceInterface.entry? := by
  rw [getAvailableSerialPort_eq]
  decide

end LibSp.Windows
