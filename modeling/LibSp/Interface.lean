/-!
# The serial port interface

`serial_port_interface.h` and `constdef.h`: the settings of a port with the values
of their enumerations, and the results of the operations of `iserial_port`. The
enumerations are unscoped C++ enums whose fields may hold any integer.
-/

set_option autoImplicit false

namespace LibSp

def lenBuf1024 : Nat := 1024

def invalidValue : Int := -1

def modeAsync : Int := 0
def modeSync : Int := 1

def baudRate110 : Int := 110
def baudRate300 : Int := 300
def baudRate600 : Int := 600
def baudRate1200 : Int := 1200
def baudRate2400 : Int := 2400
def baudRate4800 : Int := 4800
def baudRate9600 : Int := 9600
def baudRate14400 : Int := 14400
def baudRate19200 : Int := 19200
def baudRate38400 : Int := 38400
def baudRate56000 : Int := 56000
def baudRate57600 : Int := 57600
def baudRate115200 : Int := 115200
def baudRate921600 : Int := 921600

def dataBits5 : Int := 5
def dataBits6 : Int := 6
def dataBits7 : Int := 7
def dataBits8 : Int := 8

def stop1 : Int := 0
def stop1_5 : Int := 1
def stop2 : Int := 2

def flowCtlNone : Int := 0
def flowCtlHardware : Int := 1
def flowCtlSoftware : Int := 2

def parityNone : Int := 0
def parityOdd : Int := 1
def parityEven : Int := 2
/-- Declared for Windows only. -/
def parityMark : Int := 3
def paritySpace : Int := 4

/-- `serial_port_prop_`, the settings of a port. -/
structure SpProp where
  name : String
  baudRate : Int
  parity : Int
  dataBits : Int
  stopBits : Int
  flowCtl : Int
  opMode : Int
  isToLog : Bool
  deriving DecidableEq

def SpProp.zero : SpProp where
  name := ""
  baudRate := baudRate9600
  parity := parityEven
  dataBits := dataBits8
  stopBits := stop1
  flowCtl := flowCtlNone
  opMode := modeAsync
  isToLog := false

/-- `serial_port_available_`, one port of an enumeration. -/
structure SpNameDesc where
  name : String
  description : String
  deriving DecidableEq

def SpNameDesc.zero : SpNameDesc := ⟨"", ""⟩

/-- An object registered for received data, by its identity. A C++ pointer to
one is an `Option`, `none` for `nullptr`. -/
abbrev IrecvData := Nat

inductive Value where
  | code (value : Int)
  | flag (value : Bool)
  | void
  deriving DecidableEq

/-- One call of `on_recv_data`: the object called, the bytes passed, and the
notify threshold that the receive path had tested. -/
structure Delivery where
  receiver : IrecvData
  chunk : List UInt8
  notify : Nat
  deriving DecidableEq

def deliveredBytes (deliveries : List Delivery) : List UInt8 := deliveries.flatMap (·.chunk)

@[simp] theorem deliveredBytes_append (deliveries : List Delivery) (delivery : Delivery) :
    deliveredBytes (deliveries ++ [delivery]) = deliveredBytes deliveries ++ delivery.chunk := by
  simp [deliveredBytes]

/-- What `send` is documented to tell: as many bytes as the device accepted of the
data, or an error if the write failed. `sent` is what the device had before. -/
structure Told (failed : Bool) (data sent after : List UInt8) (value : Int) : Prop where
  counts : ∀ n : Nat, value = n ↔
    failed = false ∧ n ≤ data.length ∧ after = sent ++ data.take n
  negative : value < 0 ↔ failed = true

theorem told_iff_count {data sent : List UInt8} {count : Nat} {value : Int} :
    Told false data sent (sent ++ data.take count) value ↔ value = (min count data.length : Nat) := by
  have taken : ∀ n, n ≤ data.length →
      (sent ++ data.take count = sent ++ data.take n ↔ n = min count data.length) := by
    intro n bounded
    constructor
    · intro same
      have lengths := congrArg List.length (List.append_cancel_left same)
      simp only [List.length_take] at lengths
      omega
    · intro same
      subst same
      rw [List.append_cancel_left_eq, List.take_eq_take_iff]
      omega
  constructor
  · intro told
    refine (told.counts _).mpr ⟨rfl, Nat.min_le_right _ _, ?_⟩
    exact (taken _ (Nat.min_le_right _ _)).mpr rfl
  · intro same
    subst same
    refine ⟨fun n => ?_, ?_⟩
    · constructor
      · intro same
        have equal : min count data.length = n := Int.ofNat.inj same
        subst equal
        exact ⟨rfl, Nat.min_le_right _ _, (taken _ (Nat.min_le_right _ _)).mpr rfl⟩
      · intro told
        obtain ⟨-, bounded, same⟩ := told
        rw [(taken n bounded).mp same]
    · simp only [Bool.false_eq_true, iff_false]
      omega

theorem told_iff_negative {data sent after : List UInt8} {value : Int} :
    Told true data sent after value ↔ value < 0 := by
  constructor
  · exact fun told => told.negative.mpr rfl
  · intro negative
    refine ⟨fun n => ?_, fun _ => rfl, fun _ => negative⟩
    simp only [Bool.true_eq_false, false_and, iff_false]
    omega

/-- The last of the lengths passed to `set_read_notify`, 1 before the first. -/
def lastNotify (lens : List Nat) : Nat := lens.getLast?.getD 1

/-- The threads of a process that uses one port: clients call the operations,
workers receive data. -/
inductive Tid where
  | client (number : Nat)
  | worker (number : Nat)
  deriving DecidableEq

/-- Conversion of an `int` to `unsigned int`. -/
def toUnsigned (value : Int) : Nat := (value % 4294967296).toNat

def ofUnsigned (value : Nat) : Int :=
  if value < 2147483648 then value else value - 4294967296

end LibSp
