import LibSp.Params
import LibSp.Concurrent.Machine

/-!
# Win32 objects behind a serial port

What the system keeps for `serial_port_win_base`: its handles, the device with
its configuration and input queue, overlapped operations in flight, and the
answers that it gives to the calls of one operation.
-/

set_option autoImplicit false

namespace LibSp.Windows

/-! ## Values of the headers -/

abbrev Handle := Int

def INVALID_HANDLE_VALUE : Handle := -1

theorem ne_invalid_of_nonneg {handle : Handle} (nonneg : 0 ≤ handle) :
    handle ≠ INVALID_HANDLE_VALUE := by
  intro same
  subst same
  exact absurd nonneg (by decide)

def ERROR_FILE_NOT_FOUND : Int := 2
def ERROR_ACCESS_DENIED : Int := 5
def ERROR_INVALID_HANDLE : Int := 6
def ERROR_IO_PENDING : Int := 997

def EV_RXCHAR : BitVec 32 := 0x1
def EV_TXEMPTY : BitVec 32 := 0x4
def EV_DSR : BitVec 32 := 0x10

def RTS_CONTROL_DISABLE : Nat := 0
def RTS_CONTROL_HANDSHAKE : Nat := 2

def MAXDWORD : Nat := 0xFFFFFFFF

/-- The members of a DCB that the port sets. -/
structure Dcb where
  baudRate : BitVec 32
  byteSize : BitVec 8
  parity : BitVec 8
  stopBits : BitVec 8
  fBinary : Bool
  fInX : Bool
  fOutX : Bool
  fAbortOnError : Bool
  fNull : Bool
  fOutxCtsFlow : Bool
  fRtsControl : Nat
  deriving DecidableEq

def Dcb.zero : Dcb where
  baudRate := 0
  byteSize := 0
  parity := 0
  stopBits := 0
  fBinary := false
  fInX := false
  fOutX := false
  fAbortOnError := false
  fNull := false
  fOutxCtsFlow := false
  fRtsControl := 0

structure CommTimeouts where
  readIntervalTimeout : Nat
  readTotalTimeoutMultiplier : Nat
  readTotalTimeoutConstant : Nat
  writeTotalTimeoutMultiplier : Nat
  writeTotalTimeoutConstant : Nat
  deriving DecidableEq

/-! ## Objects of the kernel -/

inductive Kind where
  | event
  | comm
  | thread
  deriving DecidableEq

/-- For the searches of the open handles. -/
instance : LawfulBEq (Handle × Kind) := inferInstance

structure Device where
  name : String
  overlapped : Bool
  dcb : Dcb
  timeouts : CommTimeouts
  mask : BitVec 32

/-- The OVERLAPPED blocks of the object that carry data. -/
inductive Block where
  | write
  | read
  deriving DecidableEq

structure SystemError where
  code : Int
  positive : 0 < code
  deriving DecidableEq

/-- The end of a transfer: the bytes transferred, or an error. -/
abbrev Completion := Except SystemError Nat

/-- `Internal` and `InternalHigh` of an OVERLAPPED block. -/
structure Overlapped where
  pending : Bool
  completion : Completion

def Overlapped.zero : Overlapped where
  pending := false
  completion := .ok 0

/-- A transfer that the driver has accepted and not completed, with the end it
will have. -/
inductive Submitted where
  | write (data : List UInt8) (completion : Completion)
  | read (count : Nat) (completion : Except SystemError Unit)

def Submitted.block : Submitted → Block
  | .write .. => .write
  | .read .. => .read

/-! ## Answers of the system -/

/-- `WriteFile` or `ReadFile` at once, later, or refused. A refusal has a code
of its own, since `ERROR_IO_PENDING` means later. -/
inductive TransferOutcome (Completed : Type) where
  | now (completed : Completed)
  | pending (completion : Except SystemError Completed)
  | refused (error : SystemError) (notPending : error.code ≠ ERROR_IO_PENDING)

abbrev WriteOutcome := TransferOutcome Nat

/-- `ReadFile` transfers all that is asked for and queued. -/
abbrev ReadOutcome := TransferOutcome Unit

structure CloseOutcome where
  timesOut : Bool

structure OpenOutcome where
  createFile : Except SystemError Unit
  queued : List UInt8
  configured : Dcb
  setFlowCtl : Except SystemError Unit
  setCommConfig : Except SystemError Unit
  setCommMask : Except SystemError Unit
  beginthreadex : Except SystemError Unit
  close : CloseOutcome

/-- What one iteration of the monitor loop meets: whether the wait is signalled,
the event mask written by then, if any, whether the event is confirmed, and what
the two status variables hold (`comm_status` and `comstat`) if they cannot be read. -/
structure MonitorOutcome where
  signalled : Bool
  mask : Option (BitVec 32)
  confirmed : Bool
  unread : Nat
  comstat : Nat
  read : ReadOutcome

end LibSp.Windows
