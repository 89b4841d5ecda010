import LibSp.Windows.Kernel

/-!
# The Windows serial port

`serial_port_win_base` as programs over atomic effects, in the configuration
without `use_cxx11_thread`. What the system answers is an argument of the
operation. Left out are the texts that `log` writes, the operations that touch
no member of the object (`get_version`, `get_available_serial_port`) and the
member `_is_opened`, which nothing reads or writes after construction.
-/

set_option autoImplicit false

namespace LibSp.Windows

open Concurrent

/-! ## State -/

/-- The operations of the object, with what the system will answer. -/
inductive Operation where
  | init (spp : SpProp) (precvData : Option IrecvData)
  | «open» (outcome : OpenOutcome)
  | close (outcome : CloseOutcome)
  | setReadNotify (len : Nat)
  | isOpened
  | send (pdata : Option (List UInt8)) (outcome : WriteOutcome)
  | getRecvThreadIsRunning
  | setRecvThreadIsRunning (value : Bool)
  | destroy (outcome : CloseOutcome)

/-- `serial_port_param_win_`, without the mutex and the OVERLAPPED blocks. A
logger is present or not. -/
structure SpParamWin where
  spp : SpProp
  precvData : Option IrecvData
  isRunning : Bool
  threadHandle : Handle
  cfg : Dcb
  handle : Handle
  minBytesReadNotify : Nat
  monitorEvent : Handle
  writeEvent : Handle
  readEvent : Handle
  isInit : Bool
  plog : Bool

def SpParamWin.zero : SpParamWin where
  spp := SpProp.zero
  precvData := none
  isRunning := false
  threadHandle := INVALID_HANDLE_VALUE
  cfg := Dcb.zero
  handle := INVALID_HANDLE_VALUE
  minBytesReadNotify := 1
  monitorEvent := INVALID_HANDLE_VALUE
  writeEvent := INVALID_HANDLE_VALUE
  readEvent := INVALID_HANDLE_VALUE
  isInit := false
  plog := false

def SpParamWin.isOpened (param : SpParamWin) : Bool := param.handle ≠ INVALID_HANDLE_VALUE

/-- The object and what the system keeps for it. Handles are numbered in the
order of their creation, and a monitor thread has the number of its handle.
`created` counts the monitor threads ever created. -/
structure State where
  param : SpParamWin
  mutexRecv : Option Tid
  lastError : Tid → Int
  handles : List (Handle × Kind)
  nextHandle : Nat
  created : Nat
  monitors : List Nat
  device : Option Device
  queue : List UInt8
  blocks : Block → Overlapped
  inFlight : List Submitted
  sent : List UInt8
  consumed : List UInt8
  delivered : List Delivery
  registered : Bool
  history : List (Operation × Value)

def State.zero : State where
  param := SpParamWin.zero
  mutexRecv := none
  lastError _ := 0
  handles := []
  nextHandle := 1
  created := 0
  monitors := []
  device := none
  queue := []
  blocks _ := Overlapped.zero
  inFlight := []
  sent := []
  consumed := []
  delivered := []
  registered := false
  history := []

/-! ## Effects -/

inductive Field where
  | spp
  | precvData
  | isRunning
  | threadHandle
  | cfg
  | handle
  | minBytesReadNotify
  | monitorEvent
  | writeEvent
  | readEvent
  | isInit
  | plog

@[reducible] def Field.Val : Field → Type
  | .spp => SpProp
  | .precvData => Option IrecvData
  | .isRunning | .isInit | .plog => Bool
  | .threadHandle | .handle | .monitorEvent | .writeEvent | .readEvent => Handle
  | .cfg => Dcb
  | .minBytesReadNotify => Nat

def SpParamWin.get (param : SpParamWin) : (field : Field) → field.Val
  | .spp => param.spp
  | .precvData => param.precvData
  | .isRunning => param.isRunning
  | .threadHandle => param.threadHandle
  | .cfg => param.cfg
  | .handle => param.handle
  | .minBytesReadNotify => param.minBytesReadNotify
  | .monitorEvent => param.monitorEvent
  | .writeEvent => param.writeEvent
  | .readEvent => param.readEvent
  | .isInit => param.isInit
  | .plog => param.plog

def SpParamWin.set (param : SpParamWin) : (field : Field) → field.Val → SpParamWin
  | .spp, value => { param with spp := value }
  | .precvData, value => { param with precvData := value }
  | .isRunning, value => { param with isRunning := value }
  | .threadHandle, value => { param with threadHandle := value }
  | .cfg, value => { param with cfg := value }
  | .handle, value => { param with handle := value }
  | .minBytesReadNotify, value => { param with minBytesReadNotify := value }
  | .monitorEvent, value => { param with monitorEvent := value }
  | .writeEvent, value => { param with writeEvent := value }
  | .readEvent, value => { param with readEvent := value }
  | .isInit, value => { param with isInit := value }
  | .plog, value => { param with plog := value }

/-- The functions whose returns are marked in a run. -/
inductive Function where
  | send
  | readData
  | close
  | getRecvThreadIsRunning
  | setRecvThreadIsRunning
  deriving DecidableEq

inductive Effect where
  | load (field : Field)
  | store (field : Field) (value : field.Val)
  | isOpened
  | lock
  | unlock
  | getLastError
  | createFile (name : String) (overlapped : Bool) (outcome : Except SystemError Unit)
      (queued : List UInt8)
  /-- `GetCommConfig` or `GetCommState`. -/
  | getConfig (handle : Handle) (configured : Dcb)
  | setCommConfig (handle : Handle) (cfg : Dcb) (outcome : Except SystemError Unit)
  | purgeComm (handle : Handle)
  | setCommTimeouts (handle : Handle) (timeouts : CommTimeouts)
  | setCommMask (handle : Handle) (mask : BitVec 32) (outcome : Except SystemError Unit)
  | beginthreadex (outcome : Except SystemError Unit)
  | waitForThread (handle : Handle) (timesOut : Bool)
  | threadExit
  | closeHandle (handle : Handle)
  | createEvent
  | resetEvent (handle : Handle)
  | resetOverlapped (block : Block)
  | writeFile (handle : Handle) (data : List UInt8) (overlapped : Bool) (outcome : WriteOutcome)
  | readFile (handle : Handle) (count : Nat) (overlapped : Bool) (outcome : ReadOutcome)
  /-- `GetOverlappedResult` of a transfer, waiting for its end. -/
  | getOverlappedResult (handle : Handle) (block : Block)
  | waitCommEvent (handle : Handle)
  /-- `WaitForSingleObject` on the monitor event, without a bound. -/
  | waitForEvent (event : Handle) (signalled : Bool)
  /-- `GetOverlappedResult` of the monitor event. -/
  | getEventResult (handle : Handle) (confirmed : Bool)
  | clearCommError (handle : Handle) (unread : Nat)
  | rotatingLogger
  | spdlogShutdown
  /-- The threshold is the one this iteration tested, kept for the record. -/
  | onRecvData (receiver : IrecvData) (chunk : List UInt8) (notify : Nat)
  | nullCall
  /-- The function returns; kept for the record. -/
  | leave (function : Function)
  /-- A client's operation returns; kept for the record. -/
  | returned (operation : Operation) (value : Value)

@[reducible] def Effect.Reply : Effect → Type
  | .load field => field.Val
  | .isOpened | .setCommConfig .. | .setCommMask .. | .writeFile .. | .getOverlappedResult ..
  | .waitForEvent .. | .getEventResult .. => Bool
  | .getLastError => Int
  | .createFile .. | .beginthreadex .. | .createEvent => Handle
  | .getConfig .. => Option Dcb
  | .readFile .. => Option (List UInt8)
  | .clearCommError .. => Nat
  | _ => Unit

namespace State

def setLastError (s : State) (thread : Tid) (code : Int) : State :=
  { s with lastError := fun other => if other = thread then code else s.lastError other }

def isComm (s : State) (handle : Handle) : Bool := (handle, Kind.comm) ∈ s.handles

def newHandle (s : State) (kind : Kind) : Handle × State :=
  (s.nextHandle, { s with
    handles := ((s.nextHandle : Handle), kind) :: s.handles
    nextHandle := s.nextHandle + 1 })

def setBlock (s : State) (block : Block) (overlapped : Overlapped) : State :=
  { s with blocks := fun other => if other = block then overlapped else s.blocks other }

def accept (s : State) (data : List UInt8) (count : Nat) : State :=
  { s with sent := s.sent ++ data.take count }

def take (s : State) (count : Nat) : List UInt8 × State :=
  (s.queue.take count, { s with
    queue := s.queue.drop count
    consumed := s.consumed ++ s.queue.take count })

/-- The driver completes an accepted transfer and fills its OVERLAPPED block. -/
def complete (s : State) (transfer : Submitted) : State :=
  match transfer with
  | .write data completion =>
      let s := match completion with
        | .ok count => s.accept data count
        | .error _ => s
      s.setBlock .write ⟨false, completion⟩
  | .read count completion =>
      match completion with
      | .ok _ => (s.take count).2.setBlock .read ⟨false, .ok (s.take count).1.length⟩
      | .error error => s.setBlock .read ⟨false, .error error⟩

def submit (s : State) (transfer : Submitted) : State :=
  { s with inFlight := s.inFlight ++ [transfer] }.setBlock transfer.block ⟨true, .ok 0⟩

/-- The driver completes its oldest transfer with this block, if there is one. -/
def completeBlock (s : State) (block : Block) : Option State :=
  match s.inFlight.find? fun transfer => transfer.block = block with
  | none => none
  | some transfer => some (complete
      { s with inFlight := s.inFlight.eraseP fun transfer => transfer.block = block } transfer)

end State

def execWriteFile (thread : Tid) (handle : Handle) (data : List UInt8) (overlapped : Bool)
    (outcome : WriteOutcome) (s : State) : Bool × State :=
  if s.isComm handle then
    match outcome, overlapped with
    | .now count, true => (true, (s.accept data count).setBlock .write ⟨false, .ok count⟩)
    | .now count, false => (true, s.accept data count)
    | .pending completion, true =>
        (false, (s.submit (.write data completion)).setLastError thread ERROR_IO_PENDING)
    | .pending (.ok count), false => (true, s.accept data count)
    | .pending (.error error), false => (false, s.setLastError thread error.code)
    | .refused error _, _ => (false, s.setLastError thread error.code)
  else (false, s.setLastError thread ERROR_INVALID_HANDLE)

/-- `ReadFile`, with the bytes it has put into the buffer if it has ended well. -/
def execReadFile (thread : Tid) (handle : Handle) (count : Nat) (overlapped : Bool)
    (outcome : ReadOutcome) (s : State) : Option (List UInt8) × State :=
  if s.isComm handle then
    match outcome, overlapped with
    | .now _, true =>
        (some (s.take count).1, (s.take count).2.setBlock .read ⟨false, .ok (s.take count).1.length⟩)
    | .now _, false => (some (s.take count).1, (s.take count).2)
    | .pending completion, true =>
        (none, (s.submit (.read count completion)).setLastError thread ERROR_IO_PENDING)
    | .pending (.ok _), false => (some (s.take count).1, (s.take count).2)
    | .pending (.error error), false => (none, s.setLastError thread error.code)
    | .refused error _, _ => (none, s.setLastError thread error.code)
  else (none, s.setLastError thread ERROR_INVALID_HANDLE)

def execOverlappedResult (thread : Tid) (block : Block) (s : State) : Bool × State :=
  match (s.blocks block).completion with
  | .ok _ => (true, s)
  | .error error => (false, s.setLastError thread error.code)

def exec (thread : Tid) : (effect : Effect) → State → Option (effect.Reply × State)
  | .load field, s => some (s.param.get field, s)
  | .store field value, s => some ((), { s with param := s.param.set field value })
  | .isOpened, s => some (s.param.isOpened, s)
  -- `std::mutex`: a second lock by its owner does not return.
  | .lock, s =>
      match s.mutexRecv with
      | none => some ((), { s with mutexRecv := some thread })
      | some _ => none
  | .unlock, s => some ((), { s with mutexRecv := none })
  | .getLastError, s => some (s.lastError thread, s)
  | .createFile name overlapped outcome queued, s =>
      match outcome with
      | .error error => some (INVALID_HANDLE_VALUE, s.setLastError thread error.code)
      | .ok _ => some ((s.newHandle .comm).1, { (s.newHandle .comm).2 with
          device := some ⟨name, overlapped, Dcb.zero, ⟨0, 0, 0, 0, 0⟩, 0⟩
          queue := queued })
  | .getConfig handle configured, s =>
      if s.isComm handle then some (some configured, s) else some (none, s)
  | .setCommConfig handle cfg outcome, s =>
      if s.isComm handle then
        match outcome with
        | .ok _ => some (true, { s with
            device := s.device.map fun device => { device with dcb := cfg } })
        | .error error => some (false, s.setLastError thread error.code)
      else some (false, s.setLastError thread ERROR_INVALID_HANDLE)
  | .purgeComm handle, s => some ((), if s.isComm handle then { s with queue := [] } else s)
  | .setCommTimeouts handle timeouts, s =>
      some ((), if s.isComm handle then { s with
        device := s.device.map fun device => { device with timeouts := timeouts } } else s)
  | .setCommMask handle mask outcome, s =>
      if s.isComm handle then
        match outcome with
        | .ok _ => some (true, { s with
            device := s.device.map fun device => { device with mask := mask } })
        | .error error => some (false, s.setLastError thread error.code)
      else some (false, s.setLastError thread ERROR_INVALID_HANDLE)
  | .beginthreadex outcome, s =>
      match outcome with
      | .ok _ => some ((s.newHandle .thread).1, { (s.newHandle .thread).2 with
          created := s.created + 1
          monitors := s.monitors ++ [s.nextHandle] })
      | .error error => some (0, s.setLastError thread error.code)
  | .waitForThread handle timesOut, s =>
      if (handle, Kind.thread) ∈ s.handles ∧ handle.toNat ∈ s.monitors ∧ timesOut = false then
        none -- waits for the thread
      else some ((), s)
  | .threadExit, s =>
      match thread with
      | .worker number => some ((), { s with monitors := s.monitors.erase number })
      | .client _ => none
  | .closeHandle handle, s =>
      some ((), { s with handles := s.handles.filter fun entry => entry.1 ≠ handle })
  | .createEvent, s => some ((s.newHandle .event).1, (s.newHandle .event).2)
  | .resetEvent _, s => some ((), s)
  | .resetOverlapped block, s => some ((), s.setBlock block Overlapped.zero)
  | .writeFile handle data overlapped outcome, s =>
      some ((execWriteFile thread handle data overlapped outcome s).1,
        (execWriteFile thread handle data overlapped outcome s).2)
  | .readFile handle count overlapped outcome, s =>
      some ((execReadFile thread handle count overlapped outcome s).1,
        (execReadFile thread handle count overlapped outcome s).2)
  | .getOverlappedResult _ block, s =>
      if (s.blocks block).pending then
        match s.completeBlock block with
        | none => none
        | some ended => some ((execOverlappedResult thread block ended).1,
            (execOverlappedResult thread block ended).2)
      else some ((execOverlappedResult thread block s).1, (execOverlappedResult thread block s).2)
  | .waitCommEvent _, s => some ((), s)
  | .waitForEvent _ signalled, s => some (signalled, s)
  | .getEventResult _ confirmed, s => some (confirmed, s)
  | .clearCommError handle unread, s =>
      some (if s.isComm handle then s.queue.length else unread, s)
  -- A second registration of the name throws out of a `noexcept` function.
  | .rotatingLogger, s => if s.registered then none else some ((), { s with registered := true })
  | .spdlogShutdown, s => some ((), { s with registered := false })
  | .onRecvData receiver chunk notify, s =>
      some ((), { s with delivered := s.delivered ++ [⟨receiver, chunk, notify⟩] })
  | .nullCall, _ => none
  | .leave _, s => some ((), s)
  | .returned operation value, s =>
      some ((), { s with history := (operation, value) :: s.history })

/-! ## Programs -/

abbrev Code := Prog Effect Effect.Reply

def perform (effect : Effect) : Code effect.Reply := Prog.perform effect

def load (field : Field) : Code field.Val := perform (.load field)

def store (field : Field) (value : field.Val) : Code Unit := perform (.store field value)

def leaving {α : Type} (function : Function) (body : Code α) : Code α := do
  let value ← body
  perform (.leave function)
  return value

/-- The constructor, on the memory that `State.zero` describes. -/
def construct : Code Unit := do
  store .spp SpProp.zero
  store .monitorEvent (← perform .createEvent)

def getRecvThreadIsRunning : Code Bool := leaving .getRecvThreadIsRunning do
  perform .lock
  let retVal ← load .isRunning
  perform .unlock
  return retVal

def setRecvThreadIsRunning (value : Bool) : Code Unit := leaving .setRecvThreadIsRunning do
  perform .lock
  store .isRunning value
  perform .unlock

def init (spp : SpProp) (precvData : Option IrecvData) : Code Int := do
  let retVal := (SpParamsCheck.getInstance .windows).isRight spp
  if retVal ≠ 0 then
    return retVal
  store .spp spp
  if precvData.isSome then
    store .precvData precvData
  store .isInit true
  if (← load .spp).isToLog then
    perform .rotatingLogger
    store .plog true
  return retVal

/-- An unknown value of the enumeration leaves the configuration alone. -/
def setFlowCtl (flowCtl : Int) (outcome : Except SystemError Unit) : Code Unit := do
  if ← perform .isOpened then
    let dcb ← load .cfg
    if flowCtl = flowCtlNone then
      store .cfg { dcb with
        fOutxCtsFlow := false, fRtsControl := RTS_CONTROL_DISABLE, fInX := false, fOutX := false }
      let _ ← perform (.setCommConfig (← load .handle) (← load .cfg) outcome)
    else if flowCtl = flowCtlHardware then
      store .cfg { dcb with
        fOutxCtsFlow := false, fRtsControl := RTS_CONTROL_DISABLE, fInX := true, fOutX := true }
      let _ ← perform (.setCommConfig (← load .handle) (← load .cfg) outcome)
    else if flowCtl = flowCtlSoftware then
      store .cfg { dcb with
        fOutxCtsFlow := true, fRtsControl := RTS_CONTROL_HANDSHAKE, fInX := false, fOutX := false }
      let _ ← perform (.setCommConfig (← load .handle) (← load .cfg) outcome)

/-- `_beginthreadex` reports a failure by 0, which is not the value tested. -/
def startThreadMonitor (outcome : Except SystemError Unit) : Code Bool := do
  store .threadHandle (← perform (.beginthreadex outcome))
  return if INVALID_HANDLE_VALUE = (← load .threadHandle) then false else true

def stopThreadMonitor (outcome : CloseOutcome) : Code Bool := do
  let _ ← perform (.setCommMask (← load .threadHandle) 0 (.ok ()))
  setRecvThreadIsRunning false
  if INVALID_HANDLE_VALUE ≠ (← load .threadHandle) then
    perform (.waitForThread (← load .threadHandle) outcome.timesOut)
    perform (.closeHandle (← load .threadHandle))
    store .threadHandle INVALID_HANDLE_VALUE
  return true

def close (outcome : CloseOutcome) : Code Int := leaving .close do
  if ← perform .isOpened then
    let _ ← stopThreadMonitor outcome
    if INVALID_HANDLE_VALUE ≠ (← load .handle) then
      let _ ← perform (.setCommMask (← load .handle) 0 (.ok ()))
      perform (.purgeComm (← load .handle))
      perform (.closeHandle (← load .handle))
      store .handle INVALID_HANDLE_VALUE
    perform (.resetEvent (← load .monitorEvent))
    return 0
  else
    return -1

def timeoutsAsync : CommTimeouts := ⟨MAXDWORD, 0, 0, 0, 0⟩

def timeoutsSync : CommTimeouts := ⟨MAXDWORD, 0, 0, 100, 500⟩

/-- The configuration read from the device, with the settings of the port: a DWORD and
three BYTEs. -/
def portConfig (spp : SpProp) (dcb : Dcb) : Dcb :=
  { dcb with
    baudRate := BitVec.ofInt 32 spp.baudRate
    byteSize := BitVec.ofInt 8 spp.dataBits
    parity := BitVec.ofInt 8 spp.parity
    stopBits := BitVec.ofInt 8 spp.stopBits
    fBinary := true
    fInX := false
    fOutX := false
    fAbortOnError := false
    fNull := false }

/-- The part of `open` after a successful `CreateFile`: -6 if the configuration
is refused, -3 if the event mask is. -/
def configure (outcome : OpenOutcome) : Code Int := do
  let read ← perform (.getConfig (← load .handle) outcome.configured)
  store .cfg (portConfig (← load .spp) (read.getD (← load .cfg)))
  setFlowCtl (← load .spp).flowCtl outcome.setFlowCtl
  if ← perform (.setCommConfig (← load .handle) (← load .cfg) outcome.setCommConfig) then
    perform (.purgeComm (← load .handle))
    if modeAsync = (← load .spp).opMode then
      perform (.setCommTimeouts (← load .handle) timeoutsAsync)
      if ← perform (.setCommMask (← load .handle) (EV_TXEMPTY ||| EV_RXCHAR ||| EV_DSR)
          outcome.setCommMask) then
        store .isRunning true
        if !(← startThreadMonitor outcome.beginthreadex) then
          store .isRunning false
          return ← perform .getLastError
        return 0
      else
        return -3
    else
      perform (.setCommTimeouts (← load .handle) timeoutsSync)
      return 0
  else
    return -6

def createFileError (error : Int) : Int :=
  if error = ERROR_FILE_NOT_FOUND then -2
  else if error = ERROR_ACCESS_DENIED then -3
  else -4

def devicePrefix : String := "\\\\.\\"

def openClosed (name : String) (overlapped : Bool) (outcome : OpenOutcome) : Code Int := do
  store .handle (← perform (.createFile name overlapped outcome.createFile outcome.queued))
  if INVALID_HANDLE_VALUE ≠ (← load .handle) then
    configure outcome
  else
    return createFileError (← perform .getLastError)

/-- `open` up to its clean-up. The stored name gets the prefix before anything can fail. -/
def openNamed (outcome : OpenOutcome) : Code Int := do
  let overlapped := decide (modeAsync = (← load .spp).opMode)
  let spp ← load .spp
  store .spp { spp with name := devicePrefix ++ spp.name }
  let name := (← load .spp).name
  if !(← perform .isOpened) then
    openClosed name overlapped outcome
  else
    return -5

def «open» (outcome : OpenOutcome) : Code Int := do
  if !(← load .isInit) then
    return -1
  let retVal ← openNamed outcome
  if retVal ≠ 0 then
    let _ ← close outcome.close
  return retVal

def setReadNotify (len : Nat) : Code Unit :=
  store .minBytesReadNotify (if 0 = len then 1 else len)

def errorUnless (done : Bool) : Code Int :=
  if done then pure 0 else perform .getLastError

def awaitWrite (written : Bool) (errorId : Int) : Code Bool := do
  if !written && errorId = ERROR_IO_PENDING then
    return ← perform (.getOverlappedResult (← load .handle) .write)
  return written

def sendOverlapped (data : List UInt8) (outcome : WriteOutcome) : Code Int := do
  perform (.resetOverlapped .write)
  store .writeEvent (← perform .createEvent)
  perform .lock
  let written ← perform (.writeFile (← load .handle) data true outcome)
  let errorId ← errorUnless written
  perform .unlock
  if !(← awaitWrite written errorId) then
    return ← perform .getLastError
  return if !written && errorId = ERROR_IO_PENDING then ofUnsigned data.length else 0

/-- `send` in the synchronous mode, which ends with a second lock. -/
def sendPlain (data : List UInt8) (outcome : WriteOutcome) : Code Int := do
  perform .lock
  let written ← perform (.writeFile (← load .handle) data false outcome)
  let retVal ← errorUnless written
  perform .lock
  return retVal

def send (pdata : Option (List UInt8)) (outcome : WriteOutcome) : Code Int := leaving .send do
  match pdata with
  | none => return -1
  | some data =>
      if data.length = 0 then
        return -1
      if ← perform .isOpened then
        if modeAsync = (← load .spp).opMode then
          sendOverlapped data outcome
        else
          sendPlain data outcome
      else
        return -2

def readSize (unread : Nat) : Code Nat := do
  if modeAsync = (← load .spp).opMode then
    let cbInQue ← perform (.clearCommError (← load .handle) unread)
    return if lenBuf1024 < cbInQue then lenBuf1024 else cbInQue
  return lenBuf1024

/-- The overlapped read; one that completes later is waited for and not passed on. -/
def readOverlapped (callback : Code Unit) (notify maxSize : Nat) (outcome : ReadOutcome) :
    Code Unit := do
  match ← perform (.readFile (← load .handle) maxSize true outcome) with
  | some arrRead =>
      match ← load .precvData with
      | none => return ()
      | some receiver =>
          if lenBuf1024 < arrRead.length then
            return ()
          perform (.onRecvData receiver arrRead notify)
          callback
  | none =>
      if ERROR_IO_PENDING = (← perform .getLastError) then
        let _ ← perform (.getOverlappedResult (← load .handle) .read)

def readPlain (callback : Code Unit) (notify maxSize : Nat) (outcome : ReadOutcome) :
    Code Unit := do
  match ← perform (.readFile (← load .handle) maxSize false outcome) with
  | some arrRead =>
      if lenBuf1024 < arrRead.length then
        return ()
      match ← load .precvData with
      | none => perform .nullCall
      | some receiver =>
          perform (.onRecvData receiver arrRead notify)
          callback
  | none => return ()

/-- The transfer of `read_data`, in the mode stored at that moment. -/
def readMode (callback : Code Unit) (notify maxSize : Nat) (outcome : ReadOutcome) :
    Code Unit := do
  if modeAsync = (← load .spp).opMode then
    perform (.resetOverlapped .read)
    store .readEvent (← perform .createEvent)
    readOverlapped callback notify maxSize outcome
    perform (.closeHandle (← load .readEvent))
  else
    readPlain callback notify maxSize outcome

/-- `notify` is only recorded with a delivery; `callback` is what `on_recv_data`
does with the port. -/
def readData (callback : Code Unit) (notify unread : Nat) (outcome : ReadOutcome) : Code Int :=
  leaving .readData do
    if INVALID_HANDLE_VALUE ≠ (← load .handle) then
      return 0
    let maxSize ← readSize unread
    perform .lock
    readMode callback notify maxSize outcome
    perform .unlock
    return 0

def destroy (outcome : CloseOutcome) : Code Unit := do
  if ← perform .isOpened then
    let _ ← close outcome
    if (← load .spp).isToLog then
      if ← load .plog then
        perform .spdlogShutdown

/-- How a job of the monitor thread ends: with the event mask for the next
iteration, or with the end of the thread. -/
inductive Iteration where
  | next (eventMask : BitVec 32)
  | exited
  deriving DecidableEq

def enterMonitor : Code Iteration := do
  if INVALID_HANDLE_VALUE = (← load .handle) then
    perform .threadExit
    return .exited
  perform (.resetEvent (← load .handle))
  return .next 0

/-- The rest of what the monitor loop does for a received byte, from its threshold test on. -/
def notifyCallback (callback : Code Unit) (outcome : MonitorOutcome) (cbInQue : Nat) :
    Code Unit := do
  let notify ← load .minBytesReadNotify
  if notify ≤ cbInQue then
    let _ ← readData callback notify outcome.comstat outcome.read

/-- What the monitor loop does for an event whose mask has been written. -/
def handleEvent (callback : Code Unit) (eventMask : BitVec 32) (outcome : MonitorOutcome) :
    Code Unit := do
  if EV_RXCHAR &&& eventMask ≠ 0 then
    let cbInQue ← perform (.clearCommError (← load .handle) outcome.unread)
    notifyCallback callback outcome cbInQue

/-- One iteration of the loop of `thread_recv_data_monitor`, with the test that ends it. -/
def threadRecvDataMonitor (callback : Code Unit) (eventMask : BitVec 32)
    (outcome : MonitorOutcome) : Code Iteration := do
  if !(← getRecvThreadIsRunning) then
    perform .threadExit
    return .exited
  perform (.waitCommEvent (← load .handle))
  let eventMask := outcome.mask.getD eventMask
  if ← perform (.waitForEvent (← load .monitorEvent) outcome.signalled) then
    if !(← perform (.getEventResult (← load .handle) outcome.confirmed)) then
      perform .threadExit
      return .exited
    handleEvent callback eventMask outcome
    if EV_TXEMPTY &&& eventMask ≠ 0 then
      let _ ← perform (.getEventResult (← load .handle) outcome.confirmed)
  return .next eventMask

/-! ## The system of threads -/

/-- A new object, after its constructor. -/
def State.start : State :=
  { State.zero with
    param := { SpParamWin.zero with monitorEvent := 1 }
    handles := [(1, .event)]
    nextHandle := 2 }

example : construct.run (exec (.client 0)) State.zero = some ((), State.start) := rfl

inductive Job where
  | operation (operation : Operation)
  | enter
  | iteration (eventMask : BitVec 32) (outcome : MonitorOutcome)

inductive Result where
  | value (value : Value)
  | iteration (iteration : Iteration)

def runOperation : Operation → Code Value
  | .init spp precvData => return .code (← init spp precvData)
  | .open outcome => return .code (← «open» outcome)
  | .close outcome => return .code (← close outcome)
  | .setReadNotify len => do
      setReadNotify len
      return .void
  | .isOpened => return .flag (← perform .isOpened)
  | .send pdata outcome => return .code (← send pdata outcome)
  | .getRecvThreadIsRunning => return .flag (← getRecvThreadIsRunning)
  | .setRecvThreadIsRunning value => do
      setRecvThreadIsRunning value
      return .void
  | .destroy outcome => do
      destroy outcome
      return .void

/-- Callbacks that do not call back into the port. -/
def runJob : Job → Code Result
  | .operation operation => do
      let value ← runOperation operation
      perform (.returned operation value)
      return .value value
  | .enter => return .iteration (← enterMonitor)
  | .iteration eventMask outcome =>
      return .iteration (← threadRecvDataMonitor (pure ()) eventMask outcome)

def Operation.destroys : Operation → Bool
  | .destroy _ => true
  | _ => false

/-- A client may call any operation until the object is destroyed. A monitor
thread enters its loop once and carries the event mask along. -/
def admits (thread : Tid) (last : Option Result) (s : State) (job : Job) : Bool :=
  match thread, last, job with
  | .client _, _, .operation _ => !s.history.any fun entry => entry.1.destroys
  | .worker number, none, .enter => s.monitors.contains number
  | .worker number, some (.iteration (.next carried)), .iteration eventMask _ =>
      s.monitors.contains number && eventMask == carried
  | _, _, _ => false

/-- What happens beside the threads: input arrives, the driver completes a transfer. -/
inductive Event where
  | arrived (bytes : List UInt8)
  | completed (block : Block)

def system : Machine Tid State Effect Effect.Reply Job Result Event where
  start := State.start
  exec := exec
  body := runJob
  admits := admits
  external event s :=
    match event with
    | .arrived bytes => some { s with queue := s.queue ++ bytes }
    | .completed block => s.completeBlock block

def oneClient : Condition Tid State Effect Job where
  begins thread _ _ := thread = .client 0 ∨ thread matches .worker _
  acts _ _ _ _ := true

/-! ## A system that answers every call -/

def OpenOutcome.fine : OpenOutcome where
  createFile := .ok ()
  queued := []
  configured := Dcb.zero
  setFlowCtl := .ok ()
  setCommConfig := .ok ()
  setCommMask := .ok ()
  beginthreadex := .ok ()
  close := ⟨false⟩

/-- 8 data bits, no parity, one stop bit, overlapped I/O, no log. -/
def eightNone : SpProp := { SpProp.zero with name := "COM3", parity := parityNone }

end LibSp.Windows
