import LibSp.Params
import LibSp.Linux.Termios
import LibSp.Concurrent.Machine

/-!
# The Linux serial port

`serial_port_linux_base` as programs over atomic effects: one effect is one access
to a member of `_sp_param`, one system call, or one call of `on_recv_data`. What
the system answers is an argument of the operation. The console output of `log`
is left out, and so are the operations that touch no member of the object
(`get_version`, `get_available_serial_port`).
-/

set_option autoImplicit false

namespace LibSp.Linux

open Concurrent

/-! ## Outcomes of the system -/

/-- The error numbers a failing system call stores in `errno`. -/
structure Errno where
  value : Int
  positive : 0 < value

def EBADF : Int := 9

inductive CreateOutcome where
  | created
  /-- The error number returned, and what is left in the thread identifier. -/
  | failed (error : Errno) (leftover : Int)

/-- How the system answers the calls of one `open`; `queued` is what the device
already holds for reading. -/
structure OpenOutcome where
  descriptor : Except Errno Int
  queued : List UInt8
  fcntl : Except Errno Unit
  tcgetattr : Except Errno Termios
  tcsetattr : Except Errno Unit
  pthreadCreate : CreateOutcome

structure RecvOutcome where
  fionread : Bool
  read : Bool

inductive Operation where
  | init (spp : SpProp) (precvData : Option IrecvData)
  | «open» (outcome : OpenOutcome)
  | close
  | setReadNotify (len : Nat)
  | isOpened
  | send (pdata : Option (List UInt8)) (outcome : Except Errno Nat)
  | destroy

/-! ## State -/

/-- `serial_port_param_linux_`, without the mutex. -/
structure SpParamLinux where
  spp : SpProp
  precvData : Option IrecvData
  threadRecvIsRunning : Bool
  threadRecv : Int
  fd : Int
  minByteReadNotify : Nat

def SpParamLinux.zero : SpParamLinux where
  spp := SpProp.zero
  precvData := none
  threadRecvIsRunning := false
  threadRecv := invalidValue
  fd := invalidValue
  minByteReadNotify := 1

def SpParamLinux.isOpened (param : SpParamLinux) : Bool := param.fd ≠ invalidValue

/-- What the calls of the object's clients change: its members, `errno` of each
client, the descriptors it holds, and a record of the receive threads. `created`
counts the successful `pthread_create` calls, whose threads are numbered in that
order; `badJoins` are the identifiers passed to `pthread_join` that belong to no
created thread or to one already joined. -/
structure Port where
  param : SpParamLinux
  errno : Nat → Int
  fds : List Int
  created : Nat
  joined : List Nat
  badJoins : List Int
  handed : Option Termios
  sent : List UInt8
  history : List (Operation × Value)

/-- The port, its mutex, the receive threads that run, the input queue of the
open device, and what the receivers took from it and passed on. -/
structure State where
  port : Port
  mutexRecv : Option Tid
  receivers : List Nat
  pending : List UInt8
  consumed : List UInt8
  delivered : List Delivery

def Port.start : Port where
  param := SpParamLinux.zero
  errno _ := 0
  fds := []
  created := 0
  joined := []
  badJoins := []
  handed := none
  sent := []
  history := []

def State.start : State where
  port := Port.start
  mutexRecv := none
  receivers := []
  pending := []
  consumed := []
  delivered := []

def Port.Unjoined (port : Port) (number : Nat) : Prop :=
  number < port.created ∧ number ∉ port.joined

instance (port : Port) (number : Nat) : Decidable (port.Unjoined number) :=
  inferInstanceAs (Decidable (_ ∧ _))

/-- The thread created under an identifier and not joined yet, if there is one. -/
def Port.unjoined? (port : Port) (identifier : Int) : Option Nat :=
  if 0 ≤ identifier ∧ port.Unjoined identifier.toNat then some identifier.toNat else none

/-! ## Effects -/

inductive Field where
  | spp
  | precvData
  | threadRecvIsRunning
  | threadRecv
  | fd
  | minByteReadNotify

@[reducible] def Field.Val : Field → Type
  | .spp => SpProp
  | .precvData => Option IrecvData
  | .threadRecvIsRunning => Bool
  | .threadRecv => Int
  | .fd => Int
  | .minByteReadNotify => Nat

def SpParamLinux.get (param : SpParamLinux) : (field : Field) → field.Val
  | .spp => param.spp
  | .precvData => param.precvData
  | .threadRecvIsRunning => param.threadRecvIsRunning
  | .threadRecv => param.threadRecv
  | .fd => param.fd
  | .minByteReadNotify => param.minByteReadNotify

def SpParamLinux.set (param : SpParamLinux) : (field : Field) → field.Val → SpParamLinux
  | .spp, value => { param with spp := value }
  | .precvData, value => { param with precvData := value }
  | .threadRecvIsRunning, value => { param with threadRecvIsRunning := value }
  | .threadRecv, value => { param with threadRecv := value }
  | .fd, value => { param with fd := value }
  | .minByteReadNotify, value => { param with minByteReadNotify := value }

inductive Effect where
  | load (field : Field)
  | store (field : Field) (value : field.Val)
  | isOpened
  | lock
  | unlock
  | errno
  | open (name : String) (outcome : OpenOutcome)
  | fcntl (fd : Int) (outcome : Except Errno Unit)
  | tcgetattr (fd : Int) (outcome : Except Errno Termios)
  | tcflush (fd : Int)
  | tcsetattr (fd : Int) (options : Termios) (outcome : Except Errno Unit)
  | close (fd : Int)
  | write (fd : Int) (data : List UInt8) (outcome : Except Errno Nat)
  | pthreadCreate (outcome : CreateOutcome)
  | pthreadJoin (identifier : Int)
  | pthreadExit
  | ioctl (fd : Int) (succeeds : Bool)
  | read (fd : Int) (count : Nat) (succeeds : Bool)
  /-- The threshold is the one this iteration tested, kept for the record. -/
  | onRecvData (receiver : IrecvData) (chunk : List UInt8) (notify : Nat)
  /-- A client's operation returns; kept for the record. -/
  | returned (operation : Operation) (value : Value)

/-- `ioctl` leaves its argument alone or replaces it; `read` fails or returns
what it put in the buffer. -/
@[reducible] def Effect.Reply : Effect → Type
  | .load field => field.Val
  | .isOpened => Bool
  | .errno | .open .. | .fcntl .. | .tcsetattr .. | .write .. | .pthreadCreate .. => Int
  | .tcgetattr .. => Option Termios
  | .ioctl .. => Option Int
  | .read .. => Option (List UInt8)
  | .store .. | .lock | .unlock | .tcflush .. | .close .. | .pthreadJoin .. | .pthreadExit
  | .onRecvData .. | .returned .. => Unit

/-- `errno` is per thread; only the clients' is ever read. -/
def Port.setErrno (port : Port) (thread : Tid) (value : Int) : Port :=
  match thread with
  | .client number =>
      { port with errno := fun other => if other = number then value else port.errno other }
  | .worker _ => port

def Port.getErrno (port : Port) : Tid → Int
  | .client number => port.errno number
  | .worker _ => 0

def answer (thread : Tid) (port : Port) : Except Errno Unit → Int × Port
  | .ok _ => (0, port)
  | .error error => (-1, port.setErrno thread error.value)

def exec (thread : Tid) : (effect : Effect) → State → Option (effect.Reply × State)
  | .load field, s => some (s.port.param.get field, s)
  | .store field value, s =>
      some ((), { s with port := { s.port with param := s.port.param.set field value } })
  | .isOpened, s => some (s.port.param.isOpened, s)
  -- The default mutex: a second lock by its owner waits for ever.
  | .lock, s =>
      match s.mutexRecv with
      | none => some ((), { s with mutexRecv := some thread })
      | some _ => none
  | .unlock, s => some ((), { s with mutexRecv := none })
  | .errno, s => some (s.port.getErrno thread, s)
  | .open _ outcome, s =>
      match outcome.descriptor with
      | .error error => some (-1, { s with port := s.port.setErrno thread error.value })
      | .ok fd =>
          if 0 ≤ fd ∧ fd ∉ s.port.fds then
            some (fd, { s with
              port := { s.port with fds := fd :: s.port.fds }
              pending := outcome.queued })
          else none
  | .fcntl _ outcome, s =>
      some ((answer thread s.port outcome).1, { s with port := (answer thread s.port outcome).2 })
  | .tcgetattr _ outcome, s =>
      match outcome with
      | .ok options => some (some options, s)
      | .error error => some (none, { s with port := s.port.setErrno thread error.value })
  | .tcflush _, s => some ((), { s with pending := [] })
  | .tcsetattr _ options outcome, s =>
      some ((answer thread s.port outcome).1,
        { s with port := { (answer thread s.port outcome).2 with handed := some options } })
  -- The last close of the device throws away what is queued.
  | .close fd, s =>
      some ((), { s with
        port := { s.port with fds := s.port.fds.erase fd }
        pending := if s.port.fds.erase fd = [] then [] else s.pending })
  | .write fd data outcome, s =>
      if fd ∈ s.port.fds then
        match outcome with
        | .ok count =>
            some ((min count data.length : Nat),
              { s with port := { s.port with sent := s.port.sent ++ data.take count } })
        | .error error => some (-1, { s with port := s.port.setErrno thread error.value })
      else some (-1, { s with port := s.port.setErrno thread EBADF })
  | .pthreadCreate outcome, s =>
      match outcome with
      | .created =>
          some (0, { s with
            port := { s.port with
              param := { s.port.param with threadRecv := s.port.created }
              created := s.port.created + 1 }
            receivers := s.receivers ++ [s.port.created] })
      | .failed error leftover =>
          some (error.value, { s with
            port := { s.port with param := { s.port.param with threadRecv := leftover } } })
  | .pthreadJoin identifier, s =>
      match s.port.unjoined? identifier with
      | some number =>
          if number ∈ s.receivers then none -- waits for the thread
          else some ((), { s with port := { s.port with joined := number :: s.port.joined } })
      | none =>
          some ((), { s with port := { s.port with badJoins := identifier :: s.port.badJoins } })
  | .pthreadExit, s =>
      match thread with
      | .worker number => some ((), { s with receivers := s.receivers.erase number })
      | .client _ => none
  | .ioctl fd succeeds, s =>
      if succeeds ∧ fd ∈ s.port.fds then some (some s.pending.length, s) else some (none, s)
  | .read fd count succeeds, s =>
      if succeeds ∧ fd ∈ s.port.fds then
        if 0 < count ∧ s.pending = [] then none -- a blocking descriptor with VMIN = 1
        else
          some (some (s.pending.take count), { s with
            pending := s.pending.drop count
            consumed := s.consumed ++ s.pending.take count })
      else some (none, s)
  | .onRecvData receiver chunk notify, s =>
      some ((), { s with delivered := s.delivered ++ [⟨receiver, chunk, notify⟩] })
  | .returned operation value, s =>
      some ((), { s with port := { s.port with history := (operation, value) :: s.port.history } })

/-! ## Programs -/

abbrev Code := Prog Effect Effect.Reply

def perform (effect : Effect) : Code effect.Reply := Prog.perform effect

def load (field : Field) : Code field.Val := perform (.load field)

def store (field : Field) (value : field.Val) : Code Unit := perform (.store field value)

def init (spp : SpProp) (precvData : Option IrecvData) : Code Int := do
  let retVal := (SpParamsCheck.getInstance .linux).isRight spp
  if retVal ≠ 0 then
    return retVal
  store .spp spp
  if precvData.isSome then
    store .precvData precvData
  return retVal

/-- -1 when the port's settings cannot be read, -2 when they cannot be written. -/
def setPortParams (libc : SpeedSetters) (outcome : OpenOutcome) : Code Int := do
  match ← perform (.tcgetattr (← load .fd) outcome.tcgetattr) with
  | none => return -1
  | some options =>
      let options := portOptions libc (← load .spp) options
      perform (.tcflush (← load .fd))
      let retVal ← perform (.tcsetattr (← load .fd) options outcome.tcsetattr)
      if retVal < 0 then
        return -2
      return retVal

/-- The result tests the sign of the error number that `pthread_create` returns. -/
def startThreadRecv (outcome : CreateOutcome) : Code Bool := do
  store .threadRecvIsRunning true
  let ret ← perform (.pthreadCreate outcome)
  return if 0 > ret then false else true

def stopThreadRecv : Code Int := do
  store .threadRecvIsRunning false
  perform (.pthreadJoin (← load .threadRecv))
  store .threadRecv invalidValue
  return 0

def close : Code Int := do
  if !(← perform .isOpened) then
    return -1
  let _ ← stopThreadRecv
  perform (.close (← load .fd))
  store .fd invalidValue
  return 0

def «open» (libc : SpeedSetters) (outcome : OpenOutcome) : Code Int := do
  if ← perform .isOpened then
    return -1
  store .fd (← perform (.open (← load .spp).name outcome))
  if (← load .fd) = invalidValue then
    return ← perform .errno
  if 0 > (← perform (.fcntl (← load .fd) outcome.fcntl)) then
    let retVal ← perform .errno
    let _ ← close
    return retVal
  if 0 ≠ (← setPortParams libc outcome) then
    let retVal ← perform .errno
    let _ ← close
    return retVal
  if (← load .precvData).isSome then
    if !(← startThreadRecv outcome.pthreadCreate) then
      return ← perform .errno
  return 0

def setReadNotify (len : Nat) : Code Unit := do
  if lenBuf1024 < len then
    store .minByteReadNotify lenBuf1024
  else
    store .minByteReadNotify len

/-- The return for a closed port leaves the mutex locked. -/
def send (pdata : Option (List UInt8)) (outcome : Except Errno Nat) : Code Int := do
  match pdata with
  | none => return -1
  | some data =>
      if data.length = 0 then
        return -1
      perform .lock
      if !(← perform .isOpened) then
        return -2
      let retVal ← perform (.write (← load .fd) data outcome)
      perform .unlock
      return retVal

def destroy : Code Unit := do
  if ← perform .isOpened then
    let _ ← close
  return ()

/-- How one iteration of the receive loop ends: with the value of
`has_read_bytes` for the next one, or with the end of the thread. -/
inductive Iteration where
  | next (hasReadBytes : Int)
  | exited
  deriving DecidableEq

/-- Conversion of an `int` to `size_t`. -/
def toSize (value : Int) : Nat := (value % 18446744073709551616).toNat

/-- The rest of an iteration, from its threshold test on; `callback` is what
`on_recv_data` does with the port. -/
def notifyCallback (callback : Code Unit) (outcome : RecvOutcome) (hasReadBytes : Int) :
    Code Iteration := do
  let minByteReadNotify ← load .minByteReadNotify
  if toUnsigned hasReadBytes ≥ minByteReadNotify then
    perform .lock
    if ← perform .isOpened then
      match ← perform (.read (← load .fd) (toSize hasReadBytes) outcome.read) with
      | none => pure ()
      | some bufRead =>
          if 0 < bufRead.length then
            match ← load .precvData with
            | none => pure ()
            | some receiver =>
                perform (.onRecvData receiver bufRead minByteReadNotify)
                callback
    perform .unlock
  return .next hasReadBytes

/-- One iteration of the loop of `thread_recv_data_monitor`, with the test that ends it. -/
def threadRecvDataMonitor (callback : Code Unit) (hasReadBytes : Int) (outcome : RecvOutcome) :
    Code Iteration := do
  if !(← load .threadRecvIsRunning) then
    perform .pthreadExit
    return .exited
  let hasReadBytes := (← perform (.ioctl (← load .fd) outcome.fionread)).getD hasReadBytes
  if (lenBuf1024 : Int) < hasReadBytes then
    return .next hasReadBytes
  notifyCallback callback outcome hasReadBytes

/-! ## The system of threads -/

inductive Job where
  | operation (operation : Operation)
  | iteration (hasReadBytes : Int) (outcome : RecvOutcome)

inductive Result where
  | value (value : Value)
  | iteration (iteration : Iteration)

def runOperation (libc : SpeedSetters) : Operation → Code Value
  | .init spp precvData => return .code (← init spp precvData)
  | .open outcome => return .code (← «open» libc outcome)
  | .close => return .code (← close)
  | .setReadNotify len => do
      setReadNotify len
      return .void
  | .isOpened => return .flag (← perform .isOpened)
  | .send pdata outcome => return .code (← send pdata outcome)
  | .destroy => do
      destroy
      return .void

/-- Callbacks that do not call back into the port. -/
def runJob (libc : SpeedSetters) : Job → Code Result
  | .operation operation => do
      let value ← runOperation libc operation
      perform (.returned operation value)
      return .value value
  | .iteration hasReadBytes outcome =>
      return .iteration (← threadRecvDataMonitor (pure ()) hasReadBytes outcome)

def Operation.destroys : Operation → Bool
  | .destroy => true
  | _ => false

/-- A client may call any operation until the object is destroyed. A receive
thread starts its loop with `has_read_bytes` 0 and carries it along. -/
def admits (thread : Tid) (last : Option Result) (s : State) (job : Job) : Bool :=
  match thread, last, job with
  | .client _, _, .operation _ => !s.port.history.any fun entry => entry.1.destroys
  | .worker number, none, .iteration hasReadBytes _ =>
      s.receivers.contains number && hasReadBytes == 0
  | .worker number, some (.iteration (.next carried)), .iteration hasReadBytes _ =>
      s.receivers.contains number && hasReadBytes == carried
  | _, _, _ => false

/-- The input queue once these bytes have arrived: they are lost unless the device is open. -/
def State.queued (s : State) (arrived : List UInt8) : List UInt8 :=
  if s.port.fds = [] then s.pending else s.pending ++ arrived

theorem State.pending_prefix (s : State) (arrived : List UInt8) :
    s.pending <+: s.queued arrived := by
  unfold State.queued
  split
  · exact List.prefix_rfl
  · exact List.prefix_append _ _

/-- The environment appends received bytes to the input queue. -/
def system (libc : SpeedSetters) :
    Machine Tid State Effect Effect.Reply Job Result (List UInt8) where
  start := State.start
  exec := exec
  body := runJob libc
  admits := admits
  external arrived s := some { s with pending := s.queued arrived }

/-! ## A system that answers every call -/

def Termios.zero : Termios where
  cIflag := 0
  cOflag := 0
  cCflag := 0
  cLflag := 0
  cCc _ := 0
  cIspeed := 0
  cOspeed := 0

def OpenOutcome.fine (fd : Int) : OpenOutcome where
  descriptor := .ok fd
  queued := []
  fcntl := .ok ()
  tcgetattr := .ok Termios.zero
  tcsetattr := .ok ()
  pthreadCreate := .created

/-- 8 data bits, no parity, one stop bit, without flow control. -/
def eightNone : SpProp := { SpProp.zero with name := "/dev/ttyS0", parity := parityNone }

/-! ## Conditions on the clients -/

def oneClient : Condition Tid State Effect Job where
  begins thread _ _ := thread = .client 0 ∨ thread matches .worker _
  acts _ _ _ _ := true

end LibSp.Linux
