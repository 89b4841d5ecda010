import LibSp.Linux.Rules

/-!
# The operations of the client

Every operation of a single client, followed on the members of the object. A
receive thread exists exactly between the `pthread_create` of an `open` and the
`pthread_join` of the next `close`.
-/

set_option autoImplicit false

namespace LibSp.Linux

open Concurrent

section

variable {libc : SpeedSetters} {condition : Condition Tid State Effect Job} {exact strict : Prop}
  {job : Job} {α β : Type}

/-- The program of client 0 is safe from this port and ends in the postcondition. -/
abbrev ClientSafe (libc : SpeedSetters) (condition : Condition Tid State Effect Job)
    (exact strict : Prop) (job : Job) (program : Code α) (post : α → Port → Prop) (port : Port) :
    Prop :=
  OwnerSafe (system libc) condition (rules exact strict) State.port (.client 0) job program post
    port

theorem client_owner (s after : State) (relied : (rules exact strict).rely (.client 0) s after) :
    after.port = s.port := relied

theorem rely_refl (thread : Tid) (s : State) : Rely thread s s := by
  match thread with
  | .client 0 => exact rfl
  | .client (_ + 1) => trivial
  | .worker _ => exact WorkerRely.refl

theorem rely_trans (thread : Tid) {first second third : State} (early : Rely thread first second)
    (late : Rely thread second third) : Rely thread first third := by
  match thread with
  | .client 0 => exact Eq.trans late early
  | .client (_ + 1) => trivial
  | .worker _ => exact WorkerRely.trans early late

variable {effect : Effect} {next : effect.Reply → Code α} {post : α → Port → Prop} {port : Port}

/-- One effect of the client: what it must establish and what it finds. -/
theorem client_act (permitted : Permitted strict port effect)
    (continued : ∀ s reply after, s.port = port → Inv exact strict s →
      exec (.client 0) effect s = some (reply, after) →
      ClientSafe libc condition exact strict job (next reply) post after.port) :
    ClientSafe libc condition exact strict job (.act effect next) post port := by
  refine OwnerSafe.act client_owner fun now inv owns => ?_
  subst owns
  refine ⟨permitted, fun reply after _ executed => ?_⟩
  obtain ⟨invAfter, relied⟩ := client_keeps inv permitted executed
  refine ⟨invAfter, fun other different => ?_, continued now reply after rfl inv executed⟩
  match other with
  | .client 0 => exact absurd rfl different
  | .client (_ + 1) => trivial
  | .worker number => exact relied number

end

section Effects

variable {libc : SpeedSetters} {condition : Condition Tid State Effect Job} {exact strict : Prop}
  {job : Job} {α : Type} {post : α → Port → Prop} {port : Port}

theorem client_load {field : Field} {next : field.Val → Code α}
    (continued : ClientSafe libc condition exact strict job (next (port.param.get field)) post
      port) :
    ClientSafe libc condition exact strict job (.act (.load field) next) post port := by
  refine client_act trivial fun s reply after owns _ executed => ?_
  cases executed
  rw [owns]
  exact continued

theorem client_store {field : Field} {value : field.Val} {next : Unit → Code α}
    (permitted : Permitted strict port (.store field value))
    (continued : ClientSafe libc condition exact strict job (next ()) post
      { port with param := port.param.set field value }) :
    ClientSafe libc condition exact strict job (.act (.store field value) next) post port := by
  refine client_act permitted fun s reply after owns _ executed => ?_
  cases executed
  cases owns
  exact continued

theorem client_isOpened {next : Bool → Code α}
    (continued : ClientSafe libc condition exact strict job (next port.param.isOpened) post port) :
    ClientSafe libc condition exact strict job (.act .isOpened next) post port := by
  refine client_act trivial fun s reply after owns _ executed => ?_
  cases executed
  rw [owns]
  exact continued

theorem client_errno {next : Int → Code α}
    (continued : ClientSafe libc condition exact strict job (next (port.errno 0)) post port) :
    ClientSafe libc condition exact strict job (.act .errno next) post port := by
  refine client_act trivial fun s reply after owns _ executed => ?_
  cases executed
  rw [owns]
  exact continued

theorem client_lock {next : Unit → Code α}
    (continued : ClientSafe libc condition exact strict job (next ()) post port) :
    ClientSafe libc condition exact strict job (.act .lock next) post port := by
  refine client_act trivial fun s reply after owns _ executed => ?_
  simp only [exec] at executed
  split at executed <;> cases executed
  cases owns
  exact continued

theorem client_unlock {next : Unit → Code α}
    (continued : ClientSafe libc condition exact strict job (next ()) post port) :
    ClientSafe libc condition exact strict job (.act .unlock next) post port := by
  refine client_act trivial fun s reply after owns _ executed => ?_
  cases executed
  cases owns
  exact continued

theorem client_open {name : String} {outcome : OpenOutcome} {next : Int → Code α}
    (quiet : port.Quiet)
    (refused : ∀ error, outcome.descriptor = .error error →
      ClientSafe libc condition exact strict job (next (-1)) post
        (port.setErrno (.client 0) error.value))
    (granted : ∀ fd, outcome.descriptor = .ok fd → 0 ≤ fd →
      ClientSafe libc condition exact strict job (next fd) post
        { port with fds := fd :: port.fds }) :
    ClientSafe libc condition exact strict job (.act (.open name outcome) next) post port := by
  refine client_act quiet fun s reply after owns _ executed => ?_
  cases owns
  simp only [exec] at executed
  split at executed
  · next error answered =>
      cases executed
      exact refused error answered
  · next fd answered =>
      split at executed <;> cases executed
      next valid => exact granted reply answered valid.1

theorem client_fcntl {fd : Int} {outcome : Except Errno Unit} {next : Int → Code α}
    (continued : ClientSafe libc condition exact strict job
      (next (answer (.client 0) port outcome).1) post (answer (.client 0) port outcome).2) :
    ClientSafe libc condition exact strict job (.act (.fcntl fd outcome) next) post port := by
  refine client_act trivial fun s reply after owns _ executed => ?_
  cases executed
  cases owns
  exact continued

theorem client_tcgetattr {fd : Int} {outcome : Except Errno Termios}
    {next : Option Termios → Code α}
    (refused : ∀ error, outcome = .error error →
      ClientSafe libc condition exact strict job (next none) post
        (port.setErrno (.client 0) error.value))
    (granted : ∀ options, outcome = .ok options →
      ClientSafe libc condition exact strict job (next (some options)) post port) :
    ClientSafe libc condition exact strict job (.act (.tcgetattr fd outcome) next) post port := by
  refine client_act trivial fun s reply after owns _ executed => ?_
  cases owns
  cases outcome with
  | error error =>
      cases executed
      exact refused error rfl
  | ok options =>
      cases executed
      exact granted options rfl

theorem client_tcflush {fd : Int} {next : Unit → Code α} (quiet : port.Quiet)
    (continued : ClientSafe libc condition exact strict job (next ()) post port) :
    ClientSafe libc condition exact strict job (.act (.tcflush fd) next) post port := by
  refine client_act quiet fun s reply after owns _ executed => ?_
  cases executed
  cases owns
  exact continued

theorem client_tcsetattr {fd : Int} {options : Termios} {outcome : Except Errno Unit}
    {next : Int → Code α}
    (continued : ClientSafe libc condition exact strict job
      (next (answer (.client 0) port outcome).1) post
      { (answer (.client 0) port outcome).2 with handed := some options }) :
    ClientSafe libc condition exact strict job (.act (.tcsetattr fd options outcome) next) post
      port := by
  refine client_act trivial fun s reply after owns _ executed => ?_
  cases executed
  cases owns
  exact continued

theorem client_close {fd : Int} {next : Unit → Code α} (quiet : port.Quiet)
    (continued : ClientSafe libc condition exact strict job (next ()) post
      { port with fds := port.fds.erase fd }) :
    ClientSafe libc condition exact strict job (.act (.close fd) next) post port := by
  refine client_act quiet fun s reply after owns _ executed => ?_
  cases executed
  cases owns
  exact continued

theorem client_returned {operation : Operation} {value : Value} {next : Unit → Code α}
    (continued : ClientSafe libc condition exact strict job (next ()) post
      { port with history := (operation, value) :: port.history }) :
    ClientSafe libc condition exact strict job (.act (.returned operation value) next) post
      port := by
  refine client_act trivial fun s reply after owns _ executed => ?_
  cases executed
  cases owns
  exact continued

theorem client_write {fd : Int} {data : List UInt8} {outcome : Except Errno Nat}
    {next : Int → Code α}
    (continued : ∀ reply errno sent, ClientSafe libc condition exact strict job (next reply) post
      { port with errno := errno, sent := sent }) :
    ClientSafe libc condition exact strict job (.act (.write fd data outcome) next) post port := by
  refine client_act trivial fun s reply after owns _ executed => ?_
  cases owns
  simp only [exec] at executed
  split at executed
  · cases outcome <;> cases executed <;> exact continued _ _ _
  · cases executed
    exact continued _ _ _

theorem client_pthreadCreate {outcome : CreateOutcome} {next : Int → Code α} (quiet : port.Quiet)
    (descriptor : port.param.fd ∈ port.fds) (receiver : port.param.precvData.isSome = true)
    (created : outcome = .created → port.created ∉ port.joined →
      ClientSafe libc condition exact strict job (next 0) post
        { port with
          param := { port.param with threadRecv := port.created }
          created := port.created + 1 })
    (failed : ∀ error leftover, outcome = .failed error leftover →
      ClientSafe libc condition exact strict job (next error.value) post
        { port with param := { port.param with threadRecv := leftover } }) :
    ClientSafe libc condition exact strict job (.act (.pthreadCreate outcome) next) post port := by
  refine client_act ⟨quiet, descriptor, receiver⟩ fun s reply after owns inv executed => ?_
  cases owns
  cases outcome with
  | created =>
      cases executed
      exact created rfl fun joined => Nat.lt_irrefl _ (inv.joined_created _ joined)
  | failed error leftover =>
      cases executed
      exact failed error leftover rfl

theorem client_pthreadJoin {next : Unit → Code α}
    (unjoined : strict → ∃ number : Nat, port.param.threadRecv = number ∧ port.Unjoined number)
    (continued : ∀ joined badJoins, { port with joined := joined, badJoins := badJoins }.Quiet →
      ClientSafe libc condition exact strict job (next ()) post
        { port with joined := joined, badJoins := badJoins }) :
    ClientSafe libc condition exact strict job (.act (.pthreadJoin port.param.threadRecv) next) post
      port := by
  refine client_act ⟨rfl, unjoined⟩ fun s reply after owns inv executed => ?_
  cases owns
  simp only [exec] at executed
  cases found : s.port.unjoined? s.port.param.threadRecv with
  | none =>
      simp only [found] at executed
      cases executed
      refine continued s.port.joined (_ :: s.port.badJoins) fun number fresh => ?_
      have current := (inv.unjoined_current number fresh).1
      have unjoined : s.port.Unjoined number := fresh
      simp [Port.unjoined?, current, unjoined] at found
  | some joining =>
      simp only [found] at executed
      split at executed <;> cases executed
      refine continued (joining :: s.port.joined) s.port.badJoins fun number fresh => ?_
      obtain ⟨before, joinedNot⟩ := fresh
      simp only [List.mem_cons, not_or] at joinedNot
      have current := (inv.unjoined_current number ⟨before, joinedNot.2⟩).1
      simp only [Port.unjoined?] at found
      split at found <;> cases found
      simp [current] at joinedNot

end Effects

/-! ## The operations -/

theorem Port.Alike.unjoined {port after : Port} (alike : port.Alike after) (number : Nat) :
    after.Unjoined number ↔ port.Unjoined number := by
  rw [Port.Unjoined, Port.Unjoined, alike.created, alike.joined]

theorem Port.Alike.quiet {port after : Port} (alike : port.Alike after) (quiet : port.Quiet) :
    after.Quiet :=
  fun number unjoined => quiet number ((alike.unjoined number).mp unjoined)

theorem Idle.congr {port after : Port} (idle : Idle port) (fd : after.param.fd = port.param.fd)
    (running : after.param.threadRecvIsRunning = port.param.threadRecvIsRunning)
    (fds : after.fds = port.fds) (threads : ∀ number, after.Unjoined number ↔ port.Unjoined number) :
    Idle after := by
  have isOpened : after.param.isOpened = port.param.isOpened := by
    rw [SpParamLinux.isOpened, fd, SpParamLinux.isOpened]
  have quiet : port.Quiet → after.Quiet :=
    fun quiet number unjoined => quiet number ((threads number).mp unjoined)
  constructor
  · intro isClosed
    obtain ⟨stopped, descriptors, quietBefore⟩ := idle.closed (isOpened ▸ isClosed)
    exact ⟨running.trans stopped, fds.trans descriptors, quiet quietBefore⟩
  · intro opened
    obtain ⟨descriptors, started⟩ := idle.opened (isOpened ▸ opened)
    rw [fds, fd, running]
    exact ⟨descriptors, started.imp_left quiet⟩

theorem closed_idle {after : Port} (quiet : after.Quiet) (fds : after.fds = [])
    (fd : after.param.fd = invalidValue) (running : after.param.threadRecvIsRunning = false) :
    Idle after where
  closed _ := ⟨running, fds, quiet⟩
  opened isOpened := by simp [SpParamLinux.isOpened, fd] at isOpened

theorem answer_negative_iff (port : Port) (outcome : Except Errno Unit) :
    0 > (answer (.client 0) port outcome).1 ↔ outcome.isOk ≠ true := by
  cases outcome <;> simp [answer, Except.isOk, Except.toBool]

theorem answer_errno (port : Port) {outcome : Except Errno Unit}
    (refused : outcome.isOk ≠ true) : (answer (.client 0) port outcome).2.errno 0 ≠ 0 := by
  cases outcome with
  | ok done => simp [Except.isOk, Except.toBool] at refused
  | error error =>
      have positive := error.positive
      simp only [answer, Port.setErrno, ↓reduceIte]
      omega

theorem answer_alike (port : Port) (outcome : Except Errno Unit) :
    port.Alike (answer (.client 0) port outcome).2 := by
  cases outcome <;> exact ⟨rfl, rfl, rfl, rfl⟩

section Operations

variable {libc : SpeedSetters} {condition : Condition Tid State Effect Job} {exact strict : Prop}
  {job : Job} {port : Port}

/-- When an open port is closed, a receive thread is there to be joined. -/
def Joinable (strict : Prop) (port : Port) : Prop :=
  strict → port.param.isOpened = true →
    ∃ number : Nat, port.param.threadRecv = number ∧ port.Unjoined number

theorem stopThreadRecv_safe
    (unjoined : strict → ∃ number : Nat, port.param.threadRecv = number ∧ port.Unjoined number) :
    ClientSafe libc condition exact strict job stopThreadRecv
      (fun _ after => after.Quiet ∧ after.fds = port.fds ∧
        after.param = { port.param with
          threadRecvIsRunning := false
          threadRecv := invalidValue }) port := by
  refine client_store (fun running => absurd running (by decide)) ?_
  apply client_load
  refine client_pthreadJoin unjoined fun joined badJoins quiet => ?_
  refine client_store quiet ?_
  exact OwnerSafe.ret client_owner ⟨quiet, rfl, rfl⟩

theorem close_safe (joinable : Joinable strict port) :
    ClientSafe libc condition exact strict job close
      (fun value after =>
        (port.param.isOpened = false ∧ value = -1 ∧ after = port) ∨
        (port.param.isOpened = true ∧ value = 0 ∧ after.Quiet ∧
          after.fds = port.fds.erase port.param.fd ∧
          after.param = { port.param with
            threadRecvIsRunning := false
            threadRecv := invalidValue
            fd := invalidValue })) port := by
  apply client_isOpened
  refine OwnerSafe.ite (fun negated => ?_) fun notNegated => ?_
  · refine OwnerSafe.ret client_owner (.inl ⟨?_, rfl, rfl⟩)
    simpa using negated
  · have opened : port.param.isOpened = true := by simpa using notNegated
    refine OwnerSafe.bind (rely_refl (.client 0))
      (stopThreadRecv_safe fun strictly => joinable strictly opened) ?_
    intro _ stopped post
    obtain ⟨quiet, fds, param⟩ := post
    apply client_load
    apply client_close quiet
    refine client_store quiet ?_
    refine OwnerSafe.ret client_owner (.inr ⟨opened, rfl, quiet, ?_, ?_⟩)
    · simp only [SpParamLinux.get, fds, param]
    · simp only [SpParamLinux.set, param]

theorem setPortParams_safe {outcome : OpenOutcome} (quiet : port.Quiet) :
    ClientSafe libc condition exact strict job (setPortParams libc outcome)
      (fun value after => port.Alike after ∧
        (value = 0 ↔ outcome.tcgetattr.isOk = true ∧ outcome.tcsetattr.isOk = true) ∧
        (value ≠ 0 → after.errno 0 ≠ 0)) port := by
  apply client_load
  refine client_tcgetattr (fun error refused => ?_) fun options granted => ?_
  · refine OwnerSafe.ret client_owner ⟨⟨rfl, rfl, rfl, rfl⟩, ?_, fun _ => ?_⟩
    · simp [refused, Except.isOk, Except.toBool]
    · have positive := error.positive
      simp only [Port.setErrno, ↓reduceIte]
      omega
  · refine client_load (client_load (client_tcflush quiet (client_load (client_tcsetattr ?_))))
    cases answered : outcome.tcsetattr with
    | ok done =>
        refine OwnerSafe.ret client_owner ⟨⟨rfl, rfl, rfl, rfl⟩, ?_, fun failed => ?_⟩
        · simp [granted, answer, Except.isOk, Except.toBool]
        · exact absurd rfl failed
    | error error =>
        refine OwnerSafe.ret client_owner ⟨⟨rfl, rfl, rfl, rfl⟩, ?_, fun _ => ?_⟩
        · simp [granted, Except.isOk, Except.toBool]
        · have positive := error.positive
          simp only [answer, Port.setErrno, ↓reduceIte]
          omega

/-- The result is `true` even when no thread could be created. -/
theorem startThreadRecv_safe {outcome : CreateOutcome} (quiet : port.Quiet)
    (descriptor : port.param.fd ∈ port.fds) (receiver : port.param.precvData.isSome = true) :
    ClientSafe libc condition exact strict job (startThreadRecv outcome)
      (fun value after => value = true ∧ after.fds = port.fds ∧
        after.param.fd = port.param.fd ∧ after.param.precvData = port.param.precvData ∧
        after.param.threadRecvIsRunning = true ∧
        match outcome with
        | .created => after.Unjoined port.created
        | .failed .. => after.Quiet) port := by
  refine client_store (fun _ => quiet) ?_
  refine client_pthreadCreate quiet descriptor receiver (fun created fresh => ?_)
    fun error leftover failed => ?_
  · subst created
    exact OwnerSafe.ret client_owner ⟨rfl, rfl, rfl, rfl, rfl, Nat.lt_succ_self _, fresh⟩
  · subst failed
    have positive := error.positive
    have notNegative : ¬ 0 > error.value := by omega
    exact OwnerSafe.ret client_owner ⟨if_neg notNegative, rfl, rfl, rfl, rfl, quiet⟩

/-- The port while an `open` that found it closed prepares the descriptor. -/
structure Opening (before : Port) (fd : Int) (port : Port) : Prop where
  idle : Idle before
  isClosed : before.param.isOpened = false
  valid : 0 ≤ fd
  current : port.param.fd = fd
  fds : port.fds = [fd]
  running : port.param.threadRecvIsRunning = false
  precvData : port.param.precvData = before.param.precvData
  created : port.created = before.created
  quiet : port.Quiet

theorem Opening.alike {before after : Port} {fd : Int} (opening : Opening before fd port)
    (alike : port.Alike after) : Opening before fd after where
  idle := opening.idle
  isClosed := opening.isClosed
  valid := opening.valid
  current := by rw [alike.param, opening.current]
  fds := by rw [alike.fds, opening.fds]
  running := by rw [alike.param, opening.running]
  precvData := by rw [alike.param, opening.precvData]
  created := by rw [alike.created, opening.created]
  quiet := alike.quiet opening.quiet

theorem isOpened_of_nonneg {param : SpParamLinux} (valid : 0 ≤ param.fd) :
    param.isOpened = true := by
  have notInvalid : param.fd ≠ invalidValue := by
    simp only [invalidValue]
    omega
  exact decide_eq_true notInvalid

/-- The clean-up of a failing `open` restores a port that was closed. -/
private theorem open_rollback {outcome : OpenOutcome} {before : Port} {fd retVal : Int}
    (opening : Opening before fd port) (fails : ¬ Opens outcome before) (nonzero : retVal ≠ 0)
    (joinable : Joinable strict port) :
    ClientSafe libc condition exact strict job
      (close >>= fun _ => (.ret retVal : Code Int))
      (fun value after => Idle after ∧ OpenDone outcome before value after) port := by
  obtain ⟨stopped, descriptors, quietBefore⟩ := opening.idle.closed opening.isClosed
  have closed : before.param.fd = invalidValue := by
    simpa [SpParamLinux.isOpened] using opening.isClosed
  apply OwnerSafe.bind (rely_refl (.client 0)) (close_safe joinable)
  intro _ after post
  rcases post with ⟨notOpened, -⟩ | ⟨-, -, quiet, fdsAfter, param⟩
  · rw [isOpened_of_nonneg (opening.current ▸ opening.valid)] at notOpened
    cases notOpened
  · have fdsNil : after.fds = [] := by simp [fdsAfter, opening.fds, opening.current]
    have fdAfter : after.param.fd = invalidValue := by rw [param]
    have runningAfter : after.param.threadRecvIsRunning = false := by rw [param]
    refine OwnerSafe.ret client_owner ⟨closed_idle quiet fdsNil fdAfter runningAfter, ?_⟩
    refine .failed fails nonzero (fdAfter.trans closed.symm) (fdsNil.trans descriptors.symm)
      (runningAfter.trans stopped.symm) fun number => ?_
    exact ⟨fun unjoined => absurd unjoined (quiet number),
      fun unjoined => absurd unjoined (quietBefore number)⟩

/-- The last step of `open`: a receive thread, if a receiver is registered. -/
private def openReceiver (outcome : OpenOutcome) : Code Int := do
  if (← load .precvData).isSome then
    if !(← startThreadRecv outcome.pthreadCreate) then
      return ← perform .errno
  return 0

private theorem openReceiver_safe {outcome : OpenOutcome} {before : Port} {fd : Int}
    (opening : Opening before fd port) (opens : Opens outcome before) :
    ClientSafe libc condition exact strict job (openReceiver outcome)
      (fun value after => Idle after ∧ OpenDone outcome before value after) port := by
  have isOpened : port.param.isOpened = true :=
    isOpened_of_nonneg (opening.current ▸ opening.valid)
  refine client_load (OwnerSafe.ite (fun receiver => ?_) fun noReceiver => ?_)
  · refine OwnerSafe.bind (rely_refl (.client 0))
      (startThreadRecv_safe opening.quiet (by simp [opening.fds, opening.current]) receiver) ?_
    intro _ after post
    obtain ⟨rfl, fds, fdAfter, precvData, running, thread⟩ := post
    have isOpenedAfter : after.param.isOpened = true := by
      rw [SpParamLinux.isOpened, fdAfter]
      exact isOpened
    refine OwnerSafe.ret client_owner ⟨⟨fun isClosed => ?_, fun _ => ?_⟩, ?_⟩
    · rw [isOpenedAfter] at isClosed
      cases isClosed
    · exact ⟨by rw [fds, fdAfter, opening.fds, opening.current], .inr running⟩
    · refine .opened opens rfl isOpenedAfter (precvData.trans opening.precvData) fun _ => ?_
      rw [← opening.created]
      cases create : outcome.pthreadCreate with
      | created =>
          rw [create] at thread
          exact ⟨running, thread⟩
      | failed error leftover =>
          rw [create] at thread
          exact thread
  · refine OwnerSafe.ret client_owner ⟨⟨fun isClosed => ?_, fun _ => ?_⟩, ?_⟩
    · rw [isOpened] at isClosed
      cases isClosed
    · exact ⟨by rw [opening.fds, opening.current], .inl opening.quiet⟩
    · refine .opened opens rfl isOpened opening.precvData fun registered => ?_
      rw [← opening.precvData] at registered
      exact absurd registered noReceiver

theorem open_safe {outcome : OpenOutcome} (idle : Idle port)
    (smooth : strict → port.param.isOpened = false → outcome.descriptor.isOk = true →
      outcome.fcntl.isOk = true ∧ outcome.tcgetattr.isOk = true ∧ outcome.tcsetattr.isOk = true) :
    ClientSafe libc condition exact strict job («open» libc outcome)
      (fun value after => Idle after ∧ OpenDone outcome port value after) port := by
  refine client_isOpened (OwnerSafe.ite (fun opened => ?_) fun notOpened => ?_)
  · refine OwnerSafe.ret client_owner ⟨idle, .failed ?_ (by decide) rfl rfl rfl fun _ => .rfl⟩
    intro opens
    rw [opens.1] at opened
    cases opened
  have isClosed : port.param.isOpened = false := by simpa using notOpened
  have closed : port.param.fd = invalidValue := by simpa [SpParamLinux.isOpened] using isClosed
  obtain ⟨stopped, descriptors, quiet⟩ := idle.closed isClosed
  refine client_load (client_open quiet (fun error refused => ?_) fun fd granted valid => ?_)
  · -- `::open` fails: `_fd` is the invalid descriptor that it was before.
    refine client_store quiet (client_load (client_errno ?_))
    have positive := error.positive
    refine OwnerSafe.ret client_owner ⟨⟨fun _ => ⟨stopped, descriptors, quiet⟩, ?_⟩,
      .failed ?_ ?_ closed.symm rfl rfl fun _ => .rfl⟩
    · intro isOpened
      cases isOpened
    · intro opens
      have granted := opens.2.1
      simp [refused, Except.isOk, Except.toBool] at granted
    · simp only [Port.setErrno, ↓reduceIte]
      omega
  · -- From here on the port holds the new descriptor.
    have grants : outcome.descriptor.isOk = true := by
      simp [granted, Except.isOk, Except.toBool]
    have joinable : ¬ Opens outcome port → ∀ after : Port, Joinable strict after := by
      intro fails after strictly
      exact absurd ⟨isClosed, grants, smooth strictly isClosed grants⟩ fails
    refine client_store quiet (client_load (OwnerSafe.ite (fun invalid => ?_) fun _ => ?_))
    · have same : fd = -1 := invalid
      omega
    have held : Opening port fd
        { port with fds := fd :: port.fds, param := port.param.set .fd fd } :=
      ⟨idle, isClosed, valid, rfl, congrArg (fd :: ·) descriptors, stopped, rfl, rfl, quiet⟩
    have opening := held.alike (answer_alike _ outcome.fcntl)
    refine client_load (client_fcntl (OwnerSafe.ite (fun failed => ?_) fun succeeded => ?_))
    · have refused := (answer_negative_iff _ _).mp failed
      have fails : ¬ Opens outcome port := fun opens => refused opens.2.2.1
      exact client_errno
        (open_rollback opening fails (answer_errno _ refused) (joinable fails _))
    · have unblocked : outcome.fcntl.isOk = true :=
        Decidable.not_not.mp fun refused => succeeded ((answer_negative_iff _ _).mpr refused)
      apply OwnerSafe.bind (rely_refl (.client 0)) (setPortParams_safe opening.quiet)
      intro value after post
      obtain ⟨alike, zero, failure⟩ := post
      have prepared := opening.alike alike
      refine OwnerSafe.ite (fun nonzero => ?_) fun configured => ?_
      · have fails : ¬ Opens outcome port :=
          fun opens => nonzero (zero.mpr opens.2.2.2).symm
        exact client_errno
          (open_rollback prepared fails (failure (Ne.symm nonzero)) (joinable fails _))
      · have success : value = 0 := (Decidable.not_not.mp configured).symm
        exact openReceiver_safe prepared ⟨isClosed, grants, unblocked, zero.mp success⟩

theorem init_safe {spp : SpProp} {precvData : Option IrecvData} (idle : Idle port) :
    ClientSafe libc condition exact strict job (init spp precvData)
      (fun _ after => Idle after) port := by
  refine OwnerSafe.ite (fun _ => OwnerSafe.ret client_owner idle) fun _ => ?_
  refine client_store trivial (OwnerSafe.ite (fun receiver => ?_) fun _ => ?_)
  · refine client_store receiver (OwnerSafe.ret client_owner ?_)
    exact idle.congr rfl rfl rfl fun _ => .rfl
  · exact OwnerSafe.ret client_owner (idle.congr rfl rfl rfl fun _ => .rfl)

theorem setReadNotify_safe {len : Nat} (idle : Idle port) :
    ClientSafe libc condition exact strict job (setReadNotify len) (fun _ after => Idle after)
      port := by
  refine OwnerSafe.ite (fun _ => ?_) fun short => ?_
  · refine client_store (Nat.le_refl _) (OwnerSafe.ret client_owner ?_)
    exact idle.congr rfl rfl rfl fun _ => .rfl
  · refine client_store (Nat.le_of_not_lt short) (OwnerSafe.ret client_owner ?_)
    exact idle.congr rfl rfl rfl fun _ => .rfl

theorem send_safe {pdata : Option (List UInt8)} {outcome : Except Errno Nat} (idle : Idle port) :
    ClientSafe libc condition exact strict job (send pdata outcome) (fun _ after => Idle after)
      port := by
  cases pdata with
  | none => exact OwnerSafe.ret client_owner idle
  | some data =>
      refine OwnerSafe.ite (fun _ => OwnerSafe.ret client_owner idle) fun _ => ?_
      refine client_lock (client_isOpened (OwnerSafe.ite (fun _ => ?_) fun _ => ?_))
      · exact OwnerSafe.ret client_owner idle
      · refine client_load (client_write fun reply errno sent => client_unlock ?_)
        exact OwnerSafe.ret client_owner (idle.congr rfl rfl rfl fun _ => .rfl)

theorem close_done (idle : Idle port) (joinable : Joinable strict port) :
    ClientSafe libc condition exact strict job close
      (fun value after => Idle after ∧ CloseDone port value after) port := by
  refine OwnerSafe.mono ?_ (close_safe joinable)
  intro value after post
  rcases post with ⟨isClosed, rfl, rfl⟩ | ⟨isOpened, rfl, quiet, fds, param⟩
  · exact ⟨idle, .failed isClosed rfl ⟨rfl, rfl, rfl, rfl⟩⟩
  · have fd : after.param.fd = invalidValue := by rw [param]
    have running : after.param.threadRecvIsRunning = false := by rw [param]
    have none : after.fds = [] := by simp [fds, (idle.opened isOpened).1]
    refine ⟨closed_idle quiet none fd running, .closed isOpened rfl ?_ quiet⟩
    simp [SpParamLinux.isOpened, fd]

theorem destroy_safe (idle : Idle port) (joinable : Joinable strict port) :
    ClientSafe libc condition exact strict job destroy (fun _ after => Idle after) port := by
  refine client_isOpened (OwnerSafe.ite (fun _ => ?_) fun _ => OwnerSafe.ret client_owner idle)
  exact OwnerSafe.bind (rely_refl (.client 0)) (close_done idle joinable) fun _ after done =>
    OwnerSafe.ret client_owner done.1

/-- What `strict` runs ask of an operation about to begin. -/
def Careful (strict : Prop) (port : Port) : Operation → Prop
  | .close | .destroy => Joinable strict port
  | .open outcome => strict → port.param.isOpened = false → outcome.descriptor.isOk = true →
      outcome.fcntl.isOk = true ∧ outcome.tcgetattr.isOk = true ∧ outcome.tcsetattr.isOk = true
  | _ => True

theorem runOperation_safe {operation : Operation} (idle : Idle port)
    (careful : Careful strict port operation) :
    ClientSafe libc condition exact strict job (runOperation libc operation)
      (fun value after => Idle after ∧ Done port after operation value) port := by
  have refl := rely_refl (.client 0)
  cases operation with
  | init spp precvData =>
      exact OwnerSafe.bind refl (init_safe idle) fun _ after idleAfter =>
        OwnerSafe.ret client_owner ⟨idleAfter, trivial⟩
  | «open» outcome =>
      exact OwnerSafe.bind refl (open_safe idle careful) fun _ after done =>
        OwnerSafe.ret client_owner done
  | close =>
      exact OwnerSafe.bind refl (close_done idle careful) fun _ after done =>
        OwnerSafe.ret client_owner done
  | setReadNotify len =>
      exact OwnerSafe.bind refl (setReadNotify_safe idle) fun _ after idleAfter =>
        OwnerSafe.ret client_owner ⟨idleAfter, trivial⟩
  | isOpened => exact client_isOpened (OwnerSafe.ret client_owner ⟨idle, trivial⟩)
  | send pdata outcome =>
      exact OwnerSafe.bind refl (send_safe idle) fun _ after idleAfter =>
        OwnerSafe.ret client_owner ⟨idleAfter, trivial⟩
  | destroy =>
      exact OwnerSafe.bind refl (destroy_safe idle careful) fun _ after idleAfter =>
        OwnerSafe.ret client_owner ⟨idleAfter, trivial⟩

theorem Done.returned {before after : Port} {operation : Operation} {value : Value}
    (done : Done before after operation value) (entry : Operation × Value) :
    Done before { after with history := entry :: after.history } operation value := by
  cases operation with
  | «open» outcome =>
      cases value with
      | code value =>
          cases done with
          | opened opens zero isOpened precvData thread =>
              refine .opened opens zero isOpened precvData fun registered => ?_
              have started := thread registered
              cases create : outcome.pthreadCreate <;> rw [create] at started <;> exact started
          | failed fails nonzero fd fds running threads =>
              exact .failed fails nonzero fd fds running threads
      | flag | void => trivial
  | close =>
      cases value with
      | code value =>
          cases done with
          | closed isOpened zero isClosed quiet => exact .closed isOpened zero isClosed quiet
          | failed isClosed negative same =>
              exact .failed isClosed negative ⟨same.param, same.fds, same.created, same.joined⟩
      | flag | void => trivial
  | _ => trivial

theorem operation_safe {operation : Operation} {s : State} (inv : Inv exact strict s)
    (idle : Idle s.port) (careful : Careful strict s.port operation) :
    Safe (system libc) condition (rules exact strict) (.client 0) (.operation operation)
      (runJob libc (.operation operation))
      ((rules exact strict).post (.client 0) (.operation operation) s) s := by
  have program : ClientSafe libc condition exact strict (.operation operation)
      (runJob libc (.operation operation))
      (fun result after => ∃ value, result = .value value ∧ Idle after ∧
        Done s.port after operation value) s.port := by
    apply OwnerSafe.bind (rely_refl (.client 0)) (runOperation_safe idle careful)
    intro value after post
    obtain ⟨idleAfter, done⟩ := post
    refine client_returned (OwnerSafe.ret client_owner ⟨value, rfl, ?_, done.returned _⟩)
    exact idleAfter.congr rfl rfl rfl fun _ => .rfl
  refine (program s inv rfl).mono ?_
  rintro _ now - ⟨value, rfl, idleNow, done⟩
  exact ⟨inv, idle, idleNow, done⟩

end Operations

end LibSp.Linux
