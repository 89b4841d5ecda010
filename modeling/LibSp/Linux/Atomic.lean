import LibSp.Linux.Descriptors

/-!
# Opening and closing one at a time

The port as its clients are meant to see it is open or closed, and `open`, `close` and the
destructor change it at one stroke. In runs whose calls take turns on the descriptor the
real calls cannot be told from these, however many clients there are.
-/

set_option autoImplicit false

namespace LibSp.Linux

open Concurrent

/-! ## The port that changes at one stroke -/

/-- The error of `set_port_params`. -/
def OpenOutcome.configureFailure (outcome : OpenOutcome) : Option Errno :=
  match outcome.tcgetattr with
  | .error error => some error
  | .ok _ =>
      match outcome.tcsetattr with
      | .error error => some error
      | .ok _ => none

/-- The error of `open` after a successful `::open`; that of `pthread_create` it does not
heed. -/
def OpenOutcome.failureOnceOpened (outcome : OpenOutcome) : Option Errno :=
  match outcome.fcntl with
  | .error error => some error
  | .ok _ => outcome.configureFailure

def OpenOutcome.failure (outcome : OpenOutcome) : Option Errno :=
  match outcome.descriptor with
  | .error error => some error
  | .ok _ => outcome.failureOnceOpened

/-- What a call answers on an open or a closed port, and whether it leaves it open. -/
def Operation.atOnce (isOpened : Bool) : Operation → Value × Bool
  | .open outcome =>
      if isOpened then (.code (-1), true)
      else match outcome.failure with
        | some error => (.code error.value, false)
        | none => (.code 0, true)
  | .close => (.code (if isOpened then 0 else -1), false)
  | .destroy => (.void, false)
  | _ => (.void, isOpened)

/-- Whether the port is open after these calls, the latest first. -/
def openedAfter : List (Operation × Value) → Bool
  | [] => false
  | (operation, _) :: earlier => (operation.atOnce (openedAfter earlier)).2

/-- Each call has answered what it does on the port that those before it left. -/
def AnsweredAtOnce : List (Operation × Value) → Prop
  | [] => True
  | (operation, value) :: earlier =>
      AnsweredAtOnce earlier ∧ value = (operation.atOnce (openedAfter earlier)).1

/-- The calls that have opened and closed the port, the latest first. -/
def changes (history : List (Operation × Value)) : List (Operation × Value) :=
  history.filter fun entry => entry.1.changesFd

def Descriptor.Is : Bool → Descriptor → Prop
  | true, part => part.Opened
  | false, part => part.Closed

/-! ## What the calls see of the real one -/

/-- The descriptor, the calling thread's `errno` and the calls that have returned. -/
structure Book extends Descriptor where
  errno : Int
  entries : List (Operation × Value)

def State.book (thread : Tid) (s : State) : Book where
  toDescriptor := s.descriptor
  errno := s.port.getErrno thread
  entries := changes s.port.history

def Book.Settled (part : Book) : Prop :=
  AnsweredAtOnce part.entries ∧ part.toDescriptor.Is (openedAfter part.entries)

/-- A call that fails leaves its error. -/
def Book.After {α : Type} (part : Book) (outcome : Except Errno α) (after : Book) : Prop :=
  match outcome with
  | .ok _ => after = part
  | .error error => after = { part with errno := error.value }

def Effect.lookBook : (effect : Effect) → Book → effect.Reply → Book → Prop
  | .load .fd, part, reply, after => reply = part.fd ∧ after = part
  | .store .fd value, part, _, after => after = { part with fd := value }
  | .isOpened, part, reply, after => reply = decide (part.fd ≠ invalidValue) ∧ after = part
  | .errno, part, reply, after => reply = part.errno ∧ after = part
  | .open _ outcome, part, reply, after =>
      match outcome.descriptor with
      | .ok fd => 0 ≤ fd ∧ reply = fd ∧ after = { part with fds := fd :: part.fds }
      | .error error => reply = -1 ∧ after = { part with errno := error.value }
  | .fcntl _ outcome, part, reply, after =>
      (reply < 0 ↔ outcome.isOk = false) ∧ part.After outcome after
  | .tcgetattr _ outcome, part, reply, after =>
      (reply = none ↔ outcome.isOk = false) ∧ part.After outcome after
  | .tcsetattr _ _ outcome, part, reply, after =>
      reply = (if outcome.isOk then 0 else -1) ∧ part.After outcome after
  | .close fd, part, _, after => after = { part with fds := part.fds.erase fd }
  | .write .., part, _, after => ∃ errno, after = { part with errno }
  | .pthreadCreate _, part, reply, after => 0 ≤ reply ∧ after = part
  | .returned operation value, part, _, after =>
      after = { part with entries :=
        if operation.changesFd then (operation, value) :: part.entries else part.entries }
  | _, part, _, after => after = part

/-- The effects whose errors a client reads. -/
def Effect.configures : Effect → Bool
  | .open .. | .fcntl .. | .tcgetattr .. | .tcsetattr .. => true
  | _ => false

/-- Only clients configure the port. -/
def clientsConfigure : Condition Tid State Effect Job where
  begins _ _ _ := true
  acts thread _ effect _ := thread matches .client _ || !effect.configures

theorem setErrno_client {number : Nat} {s : State} {value : Int} :
    State.book (.client number) { s with port := s.port.setErrno (.client number) value } =
      { s.book (.client number) with errno := value } := by
  simp only [State.book, State.descriptor, Port.setErrno, Port.getErrno, ↓reduceIte]

theorem setErrno_book (thread : Tid) (s : State) (value : Int) :
    ∃ errno, State.book thread { s with port := s.port.setErrno thread value } =
      { s.book thread with errno } := by
  cases thread with
  | client number => exact ⟨value, setErrno_client⟩
  | worker number => exact ⟨0, rfl⟩

theorem answer_book {number : Nat} {s : State} {outcome : Except Errno Unit} :
    (s.book (.client number)).After outcome (State.book (.client number)
      { s with port := (answer (.client number) s.port outcome).2 }) := by
  cases outcome with
  | ok done => rfl
  | error error => exact setErrno_client

/-- The system calls that tell their errors by `errno`. -/
def Effect.setsErrno : Effect → Bool
  | .write .. => true
  | effect => effect.configures

theorem exec_errno {thread : Tid} {effect : Effect} {s after : State} {reply : effect.Reply}
    (quiet : effect.setsErrno = false) (executed : exec thread effect s = some (reply, after)) :
    after.port.errno = s.port.errno := by
  cases effect with
  | «open» | fcntl | tcgetattr | tcsetattr | write => cases quiet
  | lock =>
      simp only [exec] at executed
      split at executed <;> cases executed
      rfl
  | pthreadCreate outcome => cases outcome <;> cases executed <;> rfl
  | pthreadJoin identifier =>
      simp only [exec] at executed
      split at executed
      · split at executed <;> cases executed
        rfl
      · cases executed
        rfl
  | pthreadExit =>
      cases thread with
      | client number => cases executed
      | worker number =>
          cases executed
          rfl
  | ioctl fd succeeds =>
      simp only [exec] at executed
      split at executed <;> cases executed <;> rfl
  | read fd count succeeds =>
      simp only [exec] at executed
      split at executed
      · split at executed <;> cases executed
        rfl
      · cases executed
        rfl
  | _ =>
      cases executed
      rfl

/-- The effects that change nothing that the calls see. -/
def Effect.unseen : Effect → Bool
  | .store .fd _ | .close _ | .returned .. => false
  | effect => !effect.setsErrno

theorem exec_unseen {thread : Tid} {effect : Effect} {s after : State} {reply : effect.Reply}
    (unseen : effect.unseen = true) (executed : exec thread effect s = some (reply, after)) :
    after.book thread = s.book thread := by
  have descriptor : after.descriptor = s.descriptor := by
    refine exec_descriptor ?_ executed
    cases effect with
    | store field value => cases field <;> first | rfl | cases unseen
    | _ => first | rfl | cases unseen
  have errno : after.port.errno = s.port.errno := by
    refine exec_errno ?_ executed
    cases effect <;> first | rfl | cases unseen
  have history : after.port.history = s.port.history := by
    refine (congrArg Members.history (exec_members executed)).trans ?_
    cases effect with
    | pthreadCreate outcome => cases outcome <;> rfl
    | _ => first | rfl | cases unseen
  cases thread <;> simp only [State.book, Port.getErrno, descriptor, errno, history]

theorem exec_book {thread : Tid} {job : Job} {effect : Effect} {s after : State}
    {reply : effect.Reply} (allowed : clientsConfigure.acts thread job effect s = true)
    (executed : exec thread effect s = some (reply, after)) :
    effect.lookBook (s.book thread) reply (after.book thread) := by
  have client : effect.configures = true → ∃ number, thread = .client number := by
    intro configures
    cases thread with
    | client number => exact ⟨number, rfl⟩
    | worker number =>
        simp only [clientsConfigure, configures, Bool.not_true, Bool.or_false] at allowed
        cases allowed
  cases effect with
  | load field =>
      have same := exec_unseen rfl executed
      cases executed
      cases field <;> first | exact ⟨rfl, rfl⟩ | exact rfl
  | store field value =>
      cases field with
      | fd =>
          cases executed
          rfl
      | _ => exact exec_unseen rfl executed
  | isOpened | errno =>
      cases executed
      exact ⟨rfl, rfl⟩
  | «open» name outcome =>
      obtain ⟨number, rfl⟩ := client rfl
      simp only [exec] at executed
      simp only [Effect.lookBook]
      split at executed
      · next error refused =>
          cases executed
          rw [refused]
          exact ⟨rfl, setErrno_client⟩
      · next fd granted =>
          split at executed <;> cases executed
          next valid =>
            rw [granted]
            exact ⟨valid.1, rfl, rfl⟩
  | fcntl fd outcome =>
      obtain ⟨number, rfl⟩ := client rfl
      cases executed
      refine ⟨?_, answer_book⟩
      cases outcome <;> simp [answer, Except.isOk, Except.toBool]
  | tcgetattr fd outcome =>
      obtain ⟨number, rfl⟩ := client rfl
      cases outcome with
      | ok options =>
          cases executed
          exact ⟨by simp [Except.isOk, Except.toBool], rfl⟩
      | error error =>
          cases executed
          exact ⟨by simp [Except.isOk, Except.toBool], setErrno_client⟩
  | tcsetattr fd options outcome =>
      obtain ⟨number, rfl⟩ := client rfl
      cases executed
      refine ⟨?_, answer_book⟩
      cases outcome <;> rfl
  | close fd =>
      cases executed
      rfl
  | write fd data outcome =>
      simp only [exec] at executed
      split at executed
      · cases outcome with
        | ok count =>
            cases executed
            exact ⟨_, rfl⟩
        | error error =>
            cases executed
            exact setErrno_book thread s error.value
      · cases executed
        exact setErrno_book thread s EBADF
  | pthreadCreate outcome =>
      refine ⟨?_, exec_unseen rfl executed⟩
      cases outcome with
      | created =>
          cases executed
          exact Int.le_refl 0
      | failed error leftover =>
          cases executed
          exact Int.le_of_lt error.positive
  | returned operation value =>
      cases executed
      simp only [Effect.lookBook, State.book, changes, List.filter_cons]
      rfl
  | _ => exact exec_unseen rfl executed

/-! ## The operations, each on a port that nobody else changes -/

abbrev BookAlone {α : Type} (program : Code α) (post : α → Book → Prop) (part : Book) : Prop :=
  program.Alone Effect.lookBook (fun _ _ => True) post part

section Operations

variable {libc : SpeedSetters} {part : Book} {α : Type}

theorem lookBook_leaves {effect : Effect} {part after : Book} {reply : effect.Reply}
    (leaves : effect.leavesFd = true) (looked : effect.lookBook part reply after) :
    after.toDescriptor = part.toDescriptor := by
  have answered : ∀ {β : Type} {outcome : Except Errno β}, part.After outcome after →
      after.toDescriptor = part.toDescriptor := by
    intro β outcome failed
    cases outcome <;> cases failed <;> rfl
  cases effect with
  | load field => cases field <;> first | exact congrArg _ looked | exact congrArg _ looked.2
  | store field value => cases field <;> first | exact congrArg _ looked | cases leaves
  | isOpened | errno | pthreadCreate => exact congrArg _ looked.2
  | fcntl | tcgetattr | tcsetattr => exact answered looked.2
  | returned operation value =>
      cases looked
      rfl
  | «open» | close | write => cases leaves
  | _ => exact congrArg _ looked

theorem book_of_only {program : Code α} (only : program.Only fun effect => effect.leavesFd = true) :
    BookAlone program (fun _ after => after.toDescriptor = part.toDescriptor) part :=
  Prog.Alone.of_only (fun _ _ _ _ => trivial)
    (fun _ _ _ _ leaves same looked => (lookBook_leaves leaves looked).trans same) only rfl

theorem close_book {isOpened : Bool} (is : part.toDescriptor.Is isOpened) :
    BookAlone close (fun value after =>
      value = (if isOpened then 0 else -1) ∧ after.toDescriptor.Closed) part := by
  refine ⟨trivial, fun found part looked => ?_⟩
  obtain ⟨rfl, rfl⟩ := looked
  cases isOpened with
  | false =>
      have invalid : part.fd = invalidValue := is.1
      refine Prog.Alone.ite (fun _ => ⟨rfl, is⟩) fun opened => ?_
      simp [invalid] at opened
  | true =>
      have opened : part.toDescriptor.Opened := is
      have valid : part.fd ≠ invalidValue := by
        intro invalid
        have nonneg := opened.1
        rw [invalid] at nonneg
        exact absurd nonneg (by decide)
      refine Prog.Alone.ite (fun closed => ?_) fun _ => ?_
      · simp [valid] at closed
      refine Prog.Alone.bind (book_of_only stopThreadRecv_leaves) fun _ after same => ?_
      have fds : after.fds = [after.fd] := by
        rw [same]
        exact opened.2
      refine ⟨trivial, fun fd part looked => ?_⟩
      obtain ⟨rfl, rfl⟩ := looked
      refine ⟨trivial, fun _ closed looked => ?_⟩
      have emptied : closed.fds = [] := by
        rw [looked, fds]
        simp
      refine ⟨trivial, fun _ after looked => ⟨rfl, ?_⟩⟩
      rw [looked]
      exact ⟨rfl, emptied⟩

theorem destroy_book {isOpened : Bool} (is : part.toDescriptor.Is isOpened) :
    BookAlone destroy (fun _ after => after.toDescriptor.Closed) part := by
  refine ⟨trivial, fun found part looked => ?_⟩
  obtain ⟨rfl, rfl⟩ := looked
  refine Prog.Alone.ite (fun _ => ?_) fun isClosed => ?_
  · exact (close_book is).bind fun _ _ closed => closed.2
  · have invalid : part.fd = invalidValue := by simpa using isClosed
    cases isOpened with
    | false => exact is
    | true =>
        have nonneg : 0 ≤ part.fd := is.1
        rw [invalid] at nonneg
        exact absurd nonneg (by decide)

/-- The clean-up of an `open` that failed after `::open`: its error is told. -/
theorem cleanUp_book (opened : part.toDescriptor.Opened) :
    BookAlone (do
      let retVal ← perform .errno
      let _ ← close
      return retVal : Code Int) (fun value after =>
        value = part.errno ∧ after.toDescriptor.Closed) part := by
  refine ⟨trivial, fun retVal after looked => ?_⟩
  obtain ⟨rfl, rfl⟩ := looked
  have is : after.toDescriptor.Is true := opened
  show BookAlone (close >>= fun _ => (.ret after.errno : Code Int)) _ after
  exact Prog.Alone.bind (close_book is) fun _ _ closed => ⟨rfl, closed.2⟩

theorem setPortParams_book {outcome : OpenOutcome} :
    BookAlone (setPortParams libc outcome) (fun value after =>
      after.toDescriptor = part.toDescriptor ∧
      (value = 0 ↔ outcome.configureFailure = none) ∧
      ∀ error, outcome.configureFailure = some error → after.errno = error.value) part := by
  refine ⟨trivial, fun fd part looked => ?_⟩
  obtain ⟨rfl, rfl⟩ := looked
  refine ⟨trivial, fun found after looked => ?_⟩
  obtain ⟨answered, failed⟩ := looked
  cases read : outcome.tcgetattr with
  | error error =>
      rw [read] at answered failed
      cases answered.mpr rfl
      cases failed
      refine ⟨rfl, ?_, ?_⟩
      · simp [OpenOutcome.configureFailure, read]
      · intro found some
        simp only [OpenOutcome.configureFailure, read, Option.some.injEq] at some
        rw [← some]
  | ok options =>
      rw [read] at answered failed
      cases failed
      cases found with
      | none => cases answered.mp rfl
      | some options =>
          refine ⟨trivial, fun spp part looked => ?_⟩
          cases looked
          refine ⟨trivial, fun fd part looked => ?_⟩
          obtain ⟨rfl, rfl⟩ := looked
          refine ⟨trivial, fun _ part looked => ?_⟩
          cases looked
          refine ⟨trivial, fun fd part looked => ?_⟩
          obtain ⟨rfl, rfl⟩ := looked
          refine ⟨trivial, fun retVal after looked => ?_⟩
          obtain ⟨answered, failed⟩ := looked
          show BookAlone (if retVal < 0 then .ret (-2) else .ret retVal : Code Int) _ after
          cases written : outcome.tcsetattr with
          | error error =>
              rw [written] at answered failed
              cases failed
              refine Prog.Alone.ite (fun _ => ?_) fun done => ?_
              · refine ⟨rfl, ?_, ?_⟩
                · simp [OpenOutcome.configureFailure, read, written]
                · intro found some
                  simp only [OpenOutcome.configureFailure, read, written,
                    Option.some.injEq] at some
                  rw [← some]
              · simp [answered, Except.isOk, Except.toBool] at done
          | ok done =>
              rw [written] at answered failed
              cases failed
              have zero : retVal = 0 := answered
              refine Prog.Alone.ite (fun failed => ?_) fun _ => ?_
              · simp [zero] at failed
              · refine ⟨rfl, ?_, ?_⟩
                · simp [OpenOutcome.configureFailure, read, written, zero]
                · intro found some
                  simp [OpenOutcome.configureFailure, read, written] at some

/-- Whatever `pthread_create` returns, `open` goes on. -/
theorem receiver_book {outcome : CreateOutcome} :
    BookAlone (do
      if (← load .precvData).isSome then
        if !(← startThreadRecv outcome) then
          return ← perform .errno
      return 0 : Code Int) (fun value after =>
        value = 0 ∧ after.toDescriptor = part.toDescriptor) part := by
  refine ⟨trivial, fun receiver after looked => ?_⟩
  cases looked
  refine Prog.Alone.ite (fun _ => ?_) fun _ => ⟨rfl, rfl⟩
  refine ⟨trivial, fun _ after looked => ?_⟩
  cases looked
  refine ⟨trivial, fun ret part looked => ?_⟩
  obtain ⟨nonneg, rfl⟩ := looked
  have started : (if 0 > ret then false else true) = true := if_neg (Int.not_lt.mpr nonneg)
  refine Prog.Alone.ite (fun failed => ?_) fun _ => ⟨rfl, rfl⟩
  rw [started] at failed
  cases failed

theorem opened_book {outcome : OpenOutcome} (opened : part.toDescriptor.Opened) :
    BookAlone (do
      if 0 > (← perform (.fcntl (← load .fd) outcome.fcntl)) then
        let retVal ← perform .errno
        let _ ← close
        return retVal
      if 0 ≠ (← setPortParams libc outcome) then
        let retVal ← perform .errno
        let _ ← close
        return retVal
      if (← load .precvData).isSome then
        if !(← startThreadRecv outcome.pthreadCreate) then
          return ← perform .errno
      return 0 : Code Int) (fun value after =>
        match outcome.failureOnceOpened with
        | some error => value = error.value ∧ after.toDescriptor.Closed
        | none => value = 0 ∧ after.toDescriptor.Opened) part := by
  refine ⟨trivial, fun loaded part looked => ?_⟩
  obtain ⟨-, rfl⟩ := looked
  refine ⟨trivial, fun answered after looked => ?_⟩
  obtain ⟨answered, failed⟩ := looked
  cases blocked : outcome.fcntl with
  | error error =>
      rw [blocked] at answered failed
      cases failed
      have failure : outcome.failureOnceOpened = some error := by
        simp only [OpenOutcome.failureOnceOpened, blocked]
      simp only [failure]
      refine Prog.Alone.ite (fun _ => cleanUp_book opened) fun succeeds => ?_
      exact absurd (answered.mpr rfl) succeeds
  | ok done =>
      rw [blocked] at answered failed
      cases failed
      have failure : outcome.failureOnceOpened = outcome.configureFailure := by
        simp only [OpenOutcome.failureOnceOpened, blocked]
      simp only [failure]
      refine Prog.Alone.ite (fun fails => Bool.noConfusion (answered.mp fails)) fun _ => ?_
      refine setPortParams_book.bind fun value after configured => ?_
      obtain ⟨same, zero, errno⟩ := configured
      have openedAfter : after.toDescriptor.Opened := same ▸ opened
      cases refused : outcome.configureFailure with
      | some error =>
          refine Prog.Alone.ite (fun _ => ?_) fun succeeds => ?_
          · refine (cleanUp_book openedAfter).mono fun value after ended => ?_
            exact ⟨ended.1.trans (errno error refused), ended.2⟩
          · rw [refused] at zero
            cases zero.mp (Decidable.not_not.mp succeeds).symm
      | none =>
          refine Prog.Alone.ite (fun fails => absurd (zero.mpr refused).symm fails) fun _ => ?_
          refine receiver_book.mono fun value ended received => ?_
          exact ⟨received.1, received.2 ▸ openedAfter⟩

theorem open_book {outcome : OpenOutcome} {isOpened : Bool} (is : part.toDescriptor.Is isOpened) :
    BookAlone («open» libc outcome) (fun value after =>
      .code value = ((Operation.open outcome).atOnce isOpened).1 ∧
      after.toDescriptor.Is ((Operation.open outcome).atOnce isOpened).2) part := by
  refine ⟨trivial, fun found part looked => ?_⟩
  obtain ⟨rfl, rfl⟩ := looked
  cases isOpened with
  | true =>
      have nonneg : 0 ≤ part.fd := is.1
      refine Prog.Alone.ite (fun _ => ⟨rfl, is⟩) fun isClosed => ?_
      have invalid : part.fd = invalidValue := by simpa using isClosed
      rw [invalid] at nonneg
      exact absurd nonneg (by decide)
  | false =>
      have closed : part.toDescriptor.Closed := is
      refine Prog.Alone.ite (fun isOpened => ?_) fun _ => ?_
      · simp [closed.1] at isOpened
      refine ⟨trivial, fun spp after looked => ?_⟩
      cases looked
      refine ⟨trivial, fun fd granted looked => ?_⟩
      cases described : outcome.descriptor with
      | error error =>
          simp only [Effect.lookBook, described] at looked
          obtain ⟨rfl, rfl⟩ := looked
          refine ⟨trivial, fun _ after looked => ?_⟩
          cases looked
          refine ⟨trivial, fun loaded part looked => ?_⟩
          obtain ⟨invalid, rfl⟩ := looked
          refine Prog.Alone.ite (fun _ => ?_) fun valid => absurd invalid valid
          refine ⟨trivial, fun retVal after looked => ?_⟩
          obtain ⟨rfl, rfl⟩ := looked
          have failure : outcome.failure = some error := by
            simp only [OpenOutcome.failure, described]
          simp only [Operation.atOnce, failure]
          exact ⟨rfl, rfl, closed.2⟩
      | ok descriptor =>
          simp only [Effect.lookBook, described] at looked
          obtain ⟨nonneg, answered, rfl⟩ := looked
          have opened : ∀ {after : Book}, after.fd = descriptor →
              after.fds = descriptor :: part.fds → after.toDescriptor.Opened := by
            intro after fd fds
            refine ⟨fd ▸ nonneg, ?_⟩
            rw [fds, fd, closed.2]
          refine ⟨trivial, fun _ after looked => ?_⟩
          have opened := opened (congrArg (fun book => book.fd) looked |>.trans answered)
            (congrArg (fun book => book.fds) looked)
          refine ⟨trivial, fun loaded part looked => ?_⟩
          obtain ⟨same, rfl⟩ := looked
          refine Prog.Alone.ite (fun invalid => ?_) fun _ => ?_
          · have valid := opened.1
            rw [← same, invalid] at valid
            exact absurd valid (by decide)
          have failure : outcome.failure = outcome.failureOnceOpened := by
            simp only [OpenOutcome.failure, described]
          refine (opened_book opened).mono fun value after ended => ?_
          simp only [Operation.atOnce, failure]
          cases failed : outcome.failureOnceOpened with
          | none =>
              simp only [failed] at ended
              exact ⟨congrArg _ ended.1, ended.2⟩
          | some error =>
              simp only [failed] at ended
              exact ⟨congrArg _ ended.1, ended.2⟩

theorem operation_book {operation : Operation} {isOpened : Bool}
    (changing : operation.changesFd = true) (is : part.toDescriptor.Is isOpened) :
    BookAlone (runOperation libc operation) (fun value after =>
      value = (operation.atOnce isOpened).1 ∧
      after.toDescriptor.Is (operation.atOnce isOpened).2) part := by
  cases operation with
  | «open» outcome => exact (open_book is).bind fun _ _ ended => ended
  | close => exact (close_book is).bind fun _ _ ended => ⟨congrArg _ ended.1, ended.2⟩
  | destroy => exact (destroy_book is).bind fun _ _ closed => ⟨rfl, closed⟩
  | init | setReadNotify | isOpened | send => cases changing

/-- The effects that change the descriptor or the record of the calls that do. -/
def Effect.changesBook : Effect → Bool
  | .returned operation _ => operation.changesFd
  | effect => effect.changesFd

def Effect.records : Effect → Bool
  | .returned .. => true
  | _ => false

theorem lookBook_entries {effect : Effect} {part after : Book} {reply : effect.Reply}
    (unrecorded : effect.records = false) (looked : effect.lookBook part reply after) :
    after.entries = part.entries := by
  have answered : ∀ {β : Type} {outcome : Except Errno β}, part.After outcome after →
      after.entries = part.entries := by
    intro β outcome failed
    cases outcome <;> cases failed <;> rfl
  cases effect with
  | load field => cases field <;> first | exact congrArg _ looked | exact congrArg _ looked.2
  | store field value => cases field <;> cases looked <;> rfl
  | isOpened | errno | pthreadCreate => exact congrArg _ looked.2
  | fcntl | tcgetattr | tcsetattr => exact answered looked.2
  | «open» name outcome =>
      simp only [Effect.lookBook] at looked
      split at looked
      · obtain ⟨-, -, rfl⟩ := looked
        rfl
      · obtain ⟨-, rfl⟩ := looked
        rfl
  | close fd =>
      cases looked
      rfl
  | write fd data outcome =>
      obtain ⟨errno, rfl⟩ := looked
      rfl
  | returned => cases unrecorded
  | _ => exact congrArg _ looked

theorem operation_unrecorded {operation : Operation} (changing : operation.changesFd = true) :
    (runOperation libc operation).Only fun effect => effect.records = false := by
  have closes : ∀ effect : Effect, effect.closes = true → effect.records = false := by
    intro effect closes
    cases effect <;> first | rfl | cases closes
  cases operation with
  | «open» outcome =>
      refine (open_only fun effect opens => ?_).bind fun _ => trivial
      cases effect <;> first | rfl | cases opens
  | close => exact (close_only closes).bind fun _ => trivial
  | destroy => exact (destroy_only closes).bind fun _ => trivial
  | init | setReadNotify | isOpened | send => cases changing

abbrev BookPoint (_ : Effect) (part : Book) : Prop := AnsweredAtOnce part.entries

/-- A call that changes the port, from its test to its return. -/
theorem changing_settles {operation : Operation} (changing : operation.changesFd = true)
    (settled : part.Settled) :
    (runJob libc (.operation operation)).Alone Effect.lookBook BookPoint
      (fun _ after => after.Settled) part := by
  have kept : (runOperation libc operation).Alone Effect.lookBook BookPoint
      (fun _ after => after.entries = part.entries) part :=
    Prog.Alone.of_only (fun _ now _ same => by
        show AnsweredAtOnce now.entries
        rw [same]
        exact settled.1)
      (fun _ _ _ _ unrecorded same looked => (lookBook_entries unrecorded looked).trans same)
      (operation_unrecorded changing) rfl
  refine (((operation_book changing settled.2).and kept).pointed fun _ _ both => both.2).bind ?_
  intro value after ended
  obtain ⟨⟨answered, is⟩, same⟩ := ended
  refine ⟨?_, fun _ recorded looked => ?_⟩
  · show AnsweredAtOnce after.entries
    rw [same]
    exact settled.1
  · have entries : recorded.entries = (operation, value) :: part.entries := by
      have appended := congrArg Book.entries looked
      rw [changing, if_pos rfl, same] at appended
      exact appended
    have descriptor : recorded.toDescriptor = after.toDescriptor := by
      cases looked
      rfl
    constructor
    · rw [entries]
      exact ⟨settled.1, answered⟩
    · rw [entries, descriptor]
      exact is

end Operations

/-! ## The calls in their turns -/

abbrev InBookTurn (program : Code Result) : Prop :=
  ∀ now : Book, now.Settled → program.Amid (fun part now => now = part) Effect.lookBook BookPoint
    (fun _ after => True ∧ after.Settled) now

theorem Book.Settled.congr {part after : Book} (settled : part.Settled)
    (descriptor : after.toDescriptor = part.toDescriptor) (entries : after.entries = part.entries) :
    after.Settled := by
  unfold Book.Settled
  rw [descriptor, entries]
  exact settled

theorem lookBook_unchanged {effect : Effect} {part after : Book} {reply : effect.Reply}
    (unchanging : effect.changesBook = false) (looked : effect.lookBook part reply after) :
    after.toDescriptor = part.toDescriptor ∧ after.entries = part.entries := by
  cases effect with
  | returned operation value =>
      have notRecorded : operation.changesFd = false := unchanging
      simp only [Effect.lookBook, notRecorded, Bool.false_eq_true, if_false] at looked
      rw [looked]
      exact ⟨rfl, rfl⟩
  | write fd data outcome =>
      obtain ⟨errno, rfl⟩ := looked
      exact ⟨rfl, rfl⟩
  | store field value =>
      refine ⟨lookBook_leaves ?_ looked, lookBook_entries rfl looked⟩
      cases field <;> first | rfl | cases unchanging
  | «open» | close => cases unchanging
  | _ => exact ⟨lookBook_leaves rfl looked, lookBook_entries rfl looked⟩

theorem inBookTurn_of_only {program : Code Result}
    (only : program.Only fun effect => effect.changesBook = false) : InBookTurn program := by
  intro now settled
  refine (Prog.Amid.of_only ?_ (fun _ _ _ settled => settled.1) ?_ only settled).mono
    fun _ _ settled => ⟨trivial, settled⟩
  · intro part now settled same
    rw [same]
    exact settled
  · intro effect part reply after unchanging settled looked
    have same := lookBook_unchanged unchanging looked
    exact settled.congr same.1 same.2

/-- A call that changes nothing stands well wherever it enters its turn. -/
theorem entering_of_only {enters : Effect → Bool} {program : Code Result}
    (only : program.Only fun effect => effect.changesBook = false) :
    program.Entering enters (fun effect => !effect.changesBook) InBookTurn := by
  induction program with
  | ret value => trivial
  | act effect next nextIH =>
      have unchanging : effect.changesBook = false := only.1
      refine ⟨fun _ => inBookTurn_of_only only, fun _ => ⟨?_, ?_⟩⟩
      · show (!effect.changesBook) = true
        rw [unchanging]
        rfl
      · exact fun reply => nextIH reply (only.2 reply)

section Turns

variable {libc : SpeedSetters}

theorem runJob_unchanging {job : Job} (shares : fdTurns.alone job = false) :
    (runJob libc job).Only fun effect => effect.changesBook = false := by
  cases job with
  | iteration hasReadBytes outcome =>
      refine Prog.Only.bind (threadRecvDataMonitor_only (fun effect receives => ?_) ?_)
        fun _ => trivial
      · cases effect <;> first | rfl | cases receives
      · trivial
  | operation operation =>
      refine Prog.Only.bind ?_ fun _ => ⟨shares, fun _ => trivial⟩
      cases operation with
      | «open» | close | destroy => cases shares
      | init spp precvData => exact (init_only (fun _ => rfl) fun _ => rfl).bind fun _ => trivial
      | setReadNotify len =>
          refine Prog.Only.bind (Prog.Only.ite (fun _ => ?_) fun _ => ?_) fun _ => trivial
          · exact ⟨rfl, fun _ => trivial⟩
          · exact ⟨rfl, fun _ => trivial⟩
      | isOpened => exact ⟨rfl, fun _ => trivial⟩
      | send pdata outcome =>
          exact Prog.Only.bind (send_only rfl rfl rfl rfl fun _ _ => rfl) fun _ => trivial

theorem runJob_booked (job : Job) :
    (runJob libc job).Entering (fdTurns.enters job) (fun effect => !effect.changesBook)
      InBookTurn := by
  have changing : ∀ {operation : Operation}, operation.changesFd = true →
      InBookTurn (runJob libc (.operation operation)) := by
    intro operation changes now settled
    have amid := Prog.Amid.of_alone id (fun _ _ same => same) (fun _ _ _ _ looked => looked)
      (@changing_settles libc now operation changes settled)
    exact amid.mono fun _ _ settled => ⟨trivial, settled⟩
  cases job with
  | iteration hasReadBytes outcome => exact entering_of_only (runJob_unchanging rfl)
  | operation operation =>
      cases operation with
      | «open» outcome => exact .enter (by rfl) (@changing (.open outcome) rfl)
      | close => exact .enter (by rfl) (@changing .close rfl)
      | destroy => exact .enter (by rfl) (@changing .destroy rfl)
      | init | setReadNotify | isOpened | send => exact entering_of_only (runJob_unchanging rfl)

theorem exec_unchanging {thread : Tid} {effect : Effect} {s after : State} {reply : effect.Reply}
    (unchanging : effect.changesBook = false)
    (executed : exec thread effect s = some (reply, after)) :
    after.descriptor = s.descriptor ∧ changes after.port.history = changes s.port.history := by
  constructor
  · refine exec_descriptor ?_ executed
    cases effect <;> first | rfl | exact unchanging
  · have history := congrArg Members.history (exec_members executed)
    cases effect with
    | returned operation value =>
        have notRecorded : operation.changesFd = false := unchanging
        cases executed
        simp only [changes, List.filter_cons, notRecorded, Bool.false_eq_true, if_false]
    | pthreadCreate outcome => cases outcome <;> exact congrArg changes history
    | _ => exact congrArg changes history

theorem setErrno_other {thread other : Tid} (port : Port) (value : Int)
    (different : other ≠ thread) :
    (port.setErrno thread value).getErrno other = port.getErrno other := by
  cases thread with
  | worker number => rfl
  | client number =>
      cases other with
      | worker second => rfl
      | client second =>
          have distinct : second ≠ number := fun same => different (same ▸ rfl)
          simp only [Port.setErrno, Port.getErrno, distinct, if_false]

theorem exec_errno_other {thread other : Tid} {effect : Effect} {s after : State}
    {reply : effect.Reply} (different : other ≠ thread)
    (executed : exec thread effect s = some (reply, after)) :
    after.port.getErrno other = s.port.getErrno other := by
  cases effect with
  | «open» name outcome =>
      simp only [exec] at executed
      split at executed
      · cases executed
        exact setErrno_other _ _ different
      · split at executed <;> cases executed
        rfl
  | fcntl fd outcome | tcsetattr fd options outcome =>
      cases outcome with
      | ok done =>
          cases executed
          rfl
      | error error =>
          cases executed
          exact setErrno_other _ _ different
  | tcgetattr fd outcome =>
      cases outcome with
      | ok options =>
          cases executed
          rfl
      | error error =>
          cases executed
          exact setErrno_other _ _ different
  | write fd data outcome =>
      simp only [exec] at executed
      split at executed
      · cases outcome with
        | ok count =>
            cases executed
            rfl
        | error error =>
            cases executed
            exact setErrno_other _ _ different
      · cases executed
        exact setErrno_other _ _ different
  | _ =>
      have same := exec_errno rfl executed
      cases other <;> simp only [Port.getErrno, same]

theorem book_fair (libc : SpeedSetters) :
    fdTurns.Fair (system libc) clientsConfigure Effect.changesBook
      (fun effect => !effect.changesBook) State.book Book.Settled (fun _ part now => now = part)
      Effect.lookBook (fun _ => BookPoint) (fun _ _ => True) where
  harmless unchanging := (Bool.not_eq_true' _).mp unchanging
  refl _ _ := rfl
  trans early late := late.trans early
  begins _ := ⟨trivial, rfl, rfl⟩
  agree settled := settled
  mine allowed executed := exec_book allowed executed
  apart unchanging _ different executed := by
    have same := exec_unchanging unchanging executed
    have errno := exec_errno_other different executed
    simp only [State.book, same.1, same.2, errno]
  keeps unchanging settled executed := by
    have same := exec_unchanging unchanging executed
    exact settled.congr same.1 same.2
  external changed := by
    cases changed
    rfl
  rests settled changed := by
    cases changed
    exact settled
  body _ := runJob_booked _
  shared _ shares := runJob_unchanging shares

end Turns

/-! ## Runs in turns -/

/-- Only clients configure the port, in every run. -/
theorem leads_clientsConfigure {libc : SpeedSetters}
    {config : Config Tid State Effect Effect.Reply Job Result}
    (leads : (system libc).Leads (fdTurns.within .always) (system libc).initial config) :
    (system libc).Leads (fdTurns.within clientsConfigure) (system libc).initial config := by
  induction leads with
  | here => exact .here
  | @step config next label earlier ruled stepped ih =>
      refine .step ih ⟨?_, ruled.2⟩ stepped
      have reachable : (system libc).Reachable .always config :=
        earlier.reachable (fun _ _ ruled => ruled.1) .start
      cases label with
      | begin thread job => rfl
      | external arrived => rfl
      | act thread =>
          simp only [Condition.allows]
          split
          · next job entry past effect rest calls =>
              cases thread with
              | client number => rfl
              | worker number =>
                  have only := reachable.of_call
                    (fun call => call.prog.Only fun effect : Effect => effect.configures = false)
                    (fun last job s admitted _ => by
                      cases job with
                      | operation operation =>
                          rcases last with _ | (value | (_ | _)) <;> cases admitted
                      | iteration hasReadBytes outcome =>
                          refine Prog.Only.bind (threadRecvDataMonitor_only
                            (fun effect receives => ?_) trivial) fun _ => trivial
                          cases effect <;> first | rfl | cases receives)
                    (fun _ _ _ _ _ reply only => only.2 reply) calls
                  have quiet : effect.configures = false := only.1
                  simp only [clientsConfigure, quiet, Bool.not_false, Bool.or_true]
          · rfl

/-- In every run of any number of clients whose calls take turns on the descriptor: the calls
that open and close the port have answered, in the order of their returns, as if each had
happened at one stroke; and while none of them is under way, the port is as they left it,
open with the only descriptor it holds or closed without one. As in the whole model,
`pthread_join` of an identifier of no thread is taken to return without effect. -/
theorem changes_at_once (libc : SpeedSetters)
    (config : Config Tid State Effect Effect.Reply Job Result)
    (leads : (system libc).Leads (fdTurns.within .always) (system libc).initial config) :
    AnsweredAtOnce (changes config.state.port.history) ∧
    ((∀ thread call, config.calls thread = some call → call.InTurn fdTurns →
        fdTurns.alone call.job = false) →
      config.state.descriptor.Is (openedAfter (changes config.state.port.history))) := by
  have narrowed := leads_clientsConfigure leads
  have kept := Turns.kept (book_fair libc) narrowed
  constructor
  · apply Classical.byContradiction
    intro unanswered
    apply unanswered
    refine (kept.free (fun thread call calls inTurn => ?_) (.client 0)).1
    obtain ⟨entered, effect, standing⟩ := inTurn
    exact absurd (Turns.point_of_inTurn (book_fair libc) narrowed calls entered standing) unanswered
  · intro free
    exact (kept.free free (.client 0)).2

/-- One client has opened the port, another opens it again and closes it. -/
theorem changes_at_once_twice :
    ∃ config, (system glibc).Leads (fdTurns.within .always) (system glibc).initial config ∧
      (changes config.state.port.history).map Prod.snd = [.code 0, .code (-1), .code 0] ∧
      AnsweredAtOnce (changes config.state.port.history) ∧ config.state.descriptor.Is false := by
  have ran : ∃ opened closed call second, (system glibc).steps .always (system glibc).initial
        openedRun = some opened ∧
      opened.calls (.client 0) = some call ∧ call.Returned (.value (.code 0)) ∧
      (system glibc).steps .always opened
        (Label.burst (.client 1) (.operation (.open (.fine 4))) 2 ++
          Label.burst (.client 1) (.operation .close) 9) = some closed ∧
      closed.calls (.client 1) = some second ∧ second.Returned (.value (.code 0)) ∧
      (changes closed.state.port.history).map Prod.snd = [.code 0, .code (-1), .code 0] ∧
      openedAfter (changes closed.state.port.history) = false :=
    ⟨_, _, _, _, rfl, rfl, rfl, rfl, rfl, rfl, rfl, rfl⟩
  obtain ⟨opened, closed, call, second, first, calls, returned, next, secondCalls, secondReturned,
    answers, shut⟩ := ran
  have quiet : (system glibc).initial.Quiet (.client 0) := by
    intro _ _ _ calls
    cases calls
  have passed : opened.Quiet (.client 1) := fun _ _ _ otherCalls =>
    (quiet.steps rfl first).idle calls returned otherCalls
  have leads : (system glibc).Leads (fdTurns.within .always) (system glibc).initial closed :=
    Turns.leads_of_steps (Turns.leads_of_steps .here quiet.unclaimed rfl first)
      passed.unclaimed rfl next
  obtain ⟨answered, stands⟩ := changes_at_once glibc closed leads
  have is := stands fun thread call threadCalls inTurn => by
    obtain ⟨value, ended⟩ := (passed.steps rfl next).idle secondCalls secondReturned threadCalls
    exact absurd inTurn ended.not_inTurn
  rw [shut] at is
  exact ⟨closed, leads, answers, answered, is⟩

end LibSp.Linux
