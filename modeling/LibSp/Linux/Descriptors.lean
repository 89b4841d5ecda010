import LibSp.Linux.Members
import LibSp.Concurrent.Turns

/-!
# The descriptor under several clients

`open`, `close` and the destructor test `_fd` and change it later, without the mutex;
`send` tests it and uses it later. As long as no such call of one client overlaps an
`open`, `close` or destructor call of another, the descriptor that a call tested is
the one it uses.
-/

set_option autoImplicit false

namespace LibSp.Linux

open Concurrent

/-! ## Turns -/

def Operation.changesFd : Operation → Bool
  | .open _ | .close | .destroy => true
  | _ => false

def Operation.usesFd : Operation → Bool
  | .send .. => true
  | operation => operation.changesFd

/-- A call has its turn from its test of `_fd` on; `send` shares it with other sends. -/
def fdTurns : Turns Job Effect where
  enters job effect :=
    match job, effect with
    | .operation operation, .isOpened => operation.usesFd
    | _, _ => false
  alone job :=
    match job with
    | .operation operation => operation.changesFd
    | .iteration .. => false

/-- The effects that change the descriptor or the open descriptors. -/
def Effect.changesFd : Effect → Bool
  | .store .fd _ | .open .. | .close _ => true
  | _ => false

/-! ## The descriptor -/

structure Descriptor where
  fd : Int
  fds : List Int

def State.descriptor (s : State) : Descriptor := ⟨s.port.param.fd, s.port.fds⟩

def Descriptor.Closed (part : Descriptor) : Prop := part.fd = invalidValue ∧ part.fds = []

def Descriptor.Opened (part : Descriptor) : Prop := 0 ≤ part.fd ∧ part.fds = [part.fd]

/-- What every call finds that nobody overlaps. -/
def Descriptor.Settled (part : Descriptor) : Prop := part.Closed ∨ part.Opened

theorem Descriptor.Opened.mem {part : Descriptor} (opened : part.Opened) : part.fd ∈ part.fds := by
  rw [opened.2]
  exact List.mem_singleton_self _

theorem Descriptor.Settled.opened {part : Descriptor} (settled : part.Settled)
    (valid : part.fd ≠ invalidValue) : part.Opened :=
  settled.resolve_left fun closed => valid closed.1

theorem Descriptor.Settled.closed {part : Descriptor} (settled : part.Settled)
    (invalid : part.fd = invalidValue) : part.Closed := by
  apply settled.resolve_right
  intro opened
  have nonneg := opened.1
  rw [invalid] at nonneg
  exact absurd nonneg (by decide)

/-- What an effect answers and does to the descriptor. -/
def Effect.lookFd : (effect : Effect) → Descriptor → effect.Reply → Descriptor → Prop
  | .load .fd, part, reply, after => reply = part.fd ∧ after = part
  | .store .fd value, part, _, after => after = { part with fd := value }
  | .isOpened, part, reply, after => reply = decide (part.fd ≠ invalidValue) ∧ after = part
  | .open .., part, reply, after =>
      (reply = -1 ∧ after = part) ∨
        (0 ≤ reply ∧ reply ∉ part.fds ∧ after = { part with fds := reply :: part.fds })
  | .close fd, part, _, after => after = { part with fds := part.fds.erase fd }
  | _, part, _, after => after = part

/-- A write uses the descriptor of the port, which is open; only an open descriptor is
closed, and an open one is not overwritten. -/
def FdPoint (effect : Effect) (part : Descriptor) : Prop :=
  match effect with
  | .write fd _ _ => fd = part.fd ∧ fd ∈ part.fds
  | .close fd => fd ∈ part.fds
  | .store .fd _ => part.fd ∉ part.fds
  | _ => True

theorem exec_fd {thread : Tid} {effect : Effect} {s after : State} {reply : effect.Reply}
    (executed : exec thread effect s = some (reply, after)) :
    effect.lookFd s.descriptor reply after.descriptor := by
  have updated : after.descriptor = ⟨(effect.update thread s.members).param.fd,
      (effect.update thread s.members).fds⟩ :=
    congrArg (fun members : Members => (⟨members.param.fd, members.fds⟩ : Descriptor))
      (exec_members executed)
  cases effect with
  | load field =>
      cases executed
      cases field with
      | fd => exact ⟨rfl, rfl⟩
      | _ => exact rfl
  | store field value => cases field <;> exact updated
  | isOpened =>
      cases executed
      exact ⟨rfl, rfl⟩
  | «open» name outcome =>
      simp only [exec] at executed
      split at executed
      · next error refused =>
          cases executed
          simp only [Effect.update, refused] at updated
          exact .inl ⟨rfl, updated⟩
      · split at executed <;> cases executed
        next granted => exact .inr ⟨granted.1, granted.2, rfl⟩
  | pthreadCreate outcome => cases outcome <;> exact updated
  | _ => exact updated

theorem exec_descriptor {thread : Tid} {effect : Effect} {s after : State} {reply : effect.Reply}
    (still : effect.changesFd = false) (executed : exec thread effect s = some (reply, after)) :
    after.descriptor = s.descriptor := by
  have looked := exec_fd executed
  cases effect with
  | load field => cases field <;> first | exact looked | exact looked.2
  | store field value => cases field <;> first | exact looked | cases still
  | isOpened => exact looked.2
  | «open» | close => cases still
  | _ => exact looked

/-! ## The operations, each from a descriptor that nobody else changes -/

/-- Neither changes the descriptor nor writes to it. -/
def Effect.leavesFd : Effect → Bool
  | .store .fd _ | .open .. | .close _ | .write .. => false
  | _ => true

theorem changesFd_of_leaves {effect : Effect} (leaves : effect.leavesFd = true) :
    effect.changesFd = false := by
  cases effect with
  | store field value => cases field <;> first | rfl | cases leaves
  | «open» | close => cases leaves
  | _ => rfl

abbrev FdAlone {α : Type} (program : Code α) (post : α → Descriptor → Prop)
    (part : Descriptor) : Prop :=
  program.Alone Effect.lookFd FdPoint post part

theorem lookFd_leaves {effect : Effect} {part after : Descriptor} {reply : effect.Reply}
    (leaves : effect.leavesFd = true) (looked : effect.lookFd part reply after) :
    after = part := by
  cases effect with
  | load field => cases field <;> first | exact looked | exact looked.2
  | store field value => cases field <;> first | exact looked | cases leaves
  | isOpened => exact looked.2
  | «open» | close | write => cases leaves
  | _ => exact looked

theorem fdPoint_leaves {effect : Effect} {part : Descriptor} (leaves : effect.leavesFd = true) :
    FdPoint effect part := by
  cases effect with
  | store field value => cases field <;> trivial
  | close | write => cases leaves
  | _ => trivial

section Operations

variable {libc : SpeedSetters} {part : Descriptor} {α : Type}

theorem fd_of_only {program : Code α} (only : program.Only fun effect => effect.leavesFd = true) :
    FdAlone program (fun _ after => after = part) part :=
  Prog.Alone.of_only (fun _ _ leaves _ => fdPoint_leaves leaves)
    (fun _ _ _ _ leaves same looked => (lookFd_leaves leaves looked).trans same) only rfl

theorem stopThreadRecv_leaves : stopThreadRecv.Only fun effect => effect.leavesFd = true :=
  ⟨rfl, fun _ => ⟨rfl, fun _ => ⟨rfl, fun _ => ⟨rfl, fun _ => trivial⟩⟩⟩⟩

theorem startThreadRecv_leaves {outcome : CreateOutcome} :
    (startThreadRecv outcome).Only fun effect => effect.leavesFd = true :=
  ⟨rfl, fun _ => ⟨rfl, fun _ => trivial⟩⟩

theorem setPortParams_leaves {outcome : OpenOutcome} :
    (setPortParams libc outcome).Only fun effect => effect.leavesFd = true :=
  setPortParams_only fun effect tunes => by
    cases effect <;> first | rfl | cases tunes

theorem close_fd (settled : part.Settled) :
    FdAlone close (fun _ after => after.Settled) part := by
  refine ⟨trivial, fun found part looked => ?_⟩
  obtain ⟨rfl, rfl⟩ := looked
  refine Prog.Alone.ite (fun _ => settled) fun isOpened => ?_
  have opened : part.Opened := settled.opened (by simpa using isOpened)
  refine Prog.Alone.bind (fd_of_only stopThreadRecv_leaves) fun _ after same => ?_
  subst same
  refine ⟨trivial, fun fd part looked => ?_⟩
  obtain ⟨rfl, rfl⟩ := looked
  refine ⟨opened.mem, fun _ closed looked => ?_⟩
  have emptied : closed.fds = [] := by
    rw [looked, opened.2]
    simp
  refine ⟨?_, fun _ after looked => .inl ?_⟩
  · show closed.fd ∉ closed.fds
    rw [emptied]
    exact List.not_mem_nil
  · rw [looked]
    exact ⟨rfl, emptied⟩

/-- The part of `open` after a successful `::open`. -/
theorem open_fd {outcome : OpenOutcome} (settled : part.Settled) :
    FdAlone («open» libc outcome) (fun _ after => after.Settled) part := by
  have cleanUp : ∀ {part : Descriptor}, part.Settled →
      FdAlone (do
        let retVal ← perform .errno
        let _ ← close
        return retVal : Code Int) (fun _ after => after.Settled) part := by
    intro part settled
    refine ⟨trivial, fun retVal after looked => ?_⟩
    rw [looked]
    show FdAlone (close >>= fun _ => (.ret retVal : Code Int)) _ part
    exact Prog.Alone.bind (close_fd settled) fun _ _ settled => settled
  refine ⟨trivial, fun found part looked => ?_⟩
  obtain ⟨rfl, rfl⟩ := looked
  refine Prog.Alone.ite (fun _ => settled) fun isClosed => ?_
  have closed : part.Closed := settled.closed (by simpa using isClosed)
  refine ⟨trivial, fun spp after looked => ?_⟩
  cases looked
  refine ⟨trivial, fun fd granted looked => ?_⟩
  -- Whether `::open` answers a descriptor or -1, its store finds none that is open.
  have stored : part.fd = granted.fd ∧ granted.fd ∉ granted.fds ∧
      Descriptor.Settled { granted with fd := fd } := by
    rcases looked with ⟨rfl, rfl⟩ | ⟨nonneg, fresh, rfl⟩
    · refine ⟨rfl, ?_, .inl ⟨rfl, closed.2⟩⟩
      rw [closed.2]
      exact List.not_mem_nil
    · refine ⟨rfl, ?_, .inr ⟨nonneg, ?_⟩⟩
      · show part.fd ∉ fd :: part.fds
        rw [closed.1, closed.2]
        intro member
        have same : invalidValue = fd := List.mem_singleton.mp member
        have negative : ¬ 0 ≤ invalidValue := by decide
        exact negative (same ▸ nonneg)
      · show fd :: part.fds = [fd]
        rw [closed.2]
  obtain ⟨-, fresh, settled⟩ := stored
  refine ⟨fresh, fun _ after looked => ?_⟩
  cases looked
  refine ⟨trivial, fun fd part looked => ?_⟩
  obtain ⟨-, rfl⟩ := looked
  refine Prog.Alone.ite (fun _ => ⟨trivial, fun _ after looked => ?_⟩) fun _ => ?_
  · rw [looked]
    exact settled
  refine ⟨trivial, fun fd part looked => ?_⟩
  obtain ⟨-, rfl⟩ := looked
  refine ⟨trivial, fun answered part looked => ?_⟩
  cases looked
  refine Prog.Alone.ite (fun _ => cleanUp settled) fun _ => ?_
  refine Prog.Alone.bind (fd_of_only setPortParams_leaves) fun configured part same => ?_
  cases same
  refine Prog.Alone.ite (fun _ => cleanUp settled) fun _ => ?_
  refine (fd_of_only ?_).mono fun _ after same => by
    rw [same]
    exact settled
  refine ⟨rfl, fun receiver => Prog.Only.ite (fun _ => ?_) fun _ => trivial⟩
  refine Prog.Only.bind startThreadRecv_leaves fun started => ?_
  exact Prog.Only.ite (fun _ => ⟨rfl, fun _ => trivial⟩) fun _ => trivial

theorem destroy_fd (settled : part.Settled) :
    FdAlone destroy (fun _ after => after.Settled) part := by
  refine ⟨trivial, fun found part looked => ?_⟩
  obtain ⟨rfl, rfl⟩ := looked
  refine Prog.Alone.ite (fun _ => ?_) fun _ => settled
  exact Prog.Alone.bind (close_fd settled) fun _ _ settled => settled

/-- The part of `send` under the mutex. -/
theorem send_fd {data : List UInt8} {outcome : Except Errno Nat} (settled : part.Settled) :
    FdAlone (do
      if !(← perform .isOpened) then
        return -2
      let retVal ← perform (.write (← load .fd) data outcome)
      perform .unlock
      return retVal : Code Int) (fun _ after => after.Settled) part := by
  refine ⟨trivial, fun found part looked => ?_⟩
  obtain ⟨rfl, rfl⟩ := looked
  refine Prog.Alone.ite (fun _ => settled) fun isOpened => ?_
  have opened : part.Opened := settled.opened (by simpa using isOpened)
  refine ⟨trivial, fun fd part looked => ?_⟩
  obtain ⟨rfl, rfl⟩ := looked
  refine ⟨⟨rfl, opened.mem⟩, fun _ part looked => ?_⟩
  cases looked
  refine ⟨trivial, fun _ part looked => ?_⟩
  cases looked
  exact settled

end Operations

/-! ## The calls in their turns -/

section Turns

variable {libc : SpeedSetters}

abbrev InFdTurn (program : Code Result) : Prop :=
  ∀ now : Descriptor, now.Settled → program.Amid (fun part now => now = part) Effect.lookFd FdPoint
    (fun _ after => True ∧ after.Settled) now

/-- From every settled descriptor to a settled one. -/
abbrev FdSafe {α : Type} (program : Code α) : Prop :=
  ∀ part : Descriptor, part.Settled → FdAlone program (fun _ after => after.Settled) part

theorem FdSafe.bind {α β : Type} {program : Code α} {rest : α → Code β}
    (first : FdSafe program) (second : ∀ value, FdSafe (rest value)) :
    FdSafe (program >>= rest) :=
  fun part settled => (first part settled).bind fun value now => second value now

theorem returned_fd {operation : Operation} {value : Value} :
    FdSafe (do
      perform (.returned operation value)
      return .value value : Code Result) := by
  refine fun part settled => ⟨trivial, fun _ after looked => ?_⟩
  rw [looked]
  exact settled

theorem inFdTurn {program : Code Result} (alone : FdSafe program) : InFdTurn program := by
  intro now settled
  have amid := Prog.Amid.of_alone id (fun _ _ same => same) (fun _ _ _ _ looked => looked)
    (alone now settled)
  exact amid.mono fun _ _ settled => ⟨trivial, settled⟩

theorem runJob_fd {operation : Operation} (alone : FdSafe (runOperation libc operation)) :
    FdSafe (runJob libc (.operation operation)) :=
  alone.bind fun _ => returned_fd

/-- Programs that never change the descriptor and never enter a turn. -/
abbrev Outside (job : Job) {α : Type} (program : Code α) : Prop :=
  program.Only fun effect => fdTurns.enters job effect = false ∧ effect.leavesFd = true

theorem iteration_outside {hasReadBytes : Int} {outcome : RecvOutcome} :
    Outside (.iteration hasReadBytes outcome)
      (runJob libc (.iteration hasReadBytes outcome)) := by
  refine Prog.Only.bind (threadRecvDataMonitor_only (fun effect receives => ?_) ?_)
    fun _ => trivial
  · cases effect with
    | load | ioctl | lock | unlock | isOpened | read | onRecvData | pthreadExit =>
        exact ⟨rfl, rfl⟩
    | _ => cases receives
  · trivial

theorem send_entering {pdata : Option (List UInt8)} {outcome : Except Errno Nat} :
    (runJob libc (.operation (.send pdata outcome))).Entering
      (fdTurns.enters (.operation (.send pdata outcome))) Effect.leavesFd
      InFdTurn := by
  have under : (send pdata outcome).Entering (fdTurns.enters (.operation (.send pdata outcome)))
      Effect.leavesFd FdSafe := by
    cases pdata with
    | none => trivial
    | some data =>
        refine Prog.Entering.ite (fun _ => trivial) fun _ => .act (by rfl) (by rfl) fun _ => ?_
        exact .enter (by rfl) fun part settled => send_fd settled
  have coded : (runOperation libc (.send pdata outcome)).Entering
      (fdTurns.enters (.operation (.send pdata outcome))) Effect.leavesFd
      FdSafe :=
    under.bind (fun _ safe => safe.bind fun _ _ settled => settled) fun _ => trivial
  refine coded.bind (fun program safe => inFdTurn (safe.bind fun _ => returned_fd)) fun value => ?_
  exact .act (by rfl) (by rfl) fun _ => trivial

theorem send_keepsFd {pdata : Option (List UInt8)} {outcome : Except Errno Nat} :
    (runJob libc (.operation (.send pdata outcome))).Only fun effect =>
      effect.changesFd = false := by
  refine Prog.Only.bind (Prog.Only.bind ?_ fun _ => trivial) fun _ => ⟨rfl, fun _ => trivial⟩
  exact send_only rfl rfl rfl rfl fun _ _ => rfl

theorem operation_outside {operation : Operation} (unused : operation.usesFd = false) :
    Outside (.operation operation) (runJob libc (.operation operation)) := by
  cases operation with
  | init spp precvData =>
      refine Prog.Only.bind (Prog.Only.bind ?_ fun _ => trivial) fun _ => ⟨⟨rfl, rfl⟩, fun _ => trivial⟩
      exact init_only (fun _ => ⟨rfl, rfl⟩) fun _ => ⟨rfl, rfl⟩
  | setReadNotify len =>
      refine Prog.Only.bind (Prog.Only.bind (Prog.Only.ite (fun _ => ?_) fun _ => ?_)
        fun _ => trivial) fun _ => ⟨⟨rfl, rfl⟩, fun _ => trivial⟩
      · exact ⟨⟨rfl, rfl⟩, fun _ => trivial⟩
      · exact ⟨⟨rfl, rfl⟩, fun _ => trivial⟩
  | isOpened => exact ⟨⟨rfl, rfl⟩, fun _ => ⟨⟨rfl, rfl⟩, fun _ => trivial⟩⟩
  | «open» | close | send | destroy => cases unused

theorem runJob_entering (job : Job) :
    (runJob libc job).Entering (fdTurns.enters job) Effect.leavesFd
      InFdTurn := by
  cases job with
  | iteration hasReadBytes outcome => exact .of_only iteration_outside
  | operation operation =>
      cases operation with
      | «open» outcome =>
          exact .enter (by rfl) (inFdTurn (@runJob_fd libc (.open outcome) fun _ settled =>
            (open_fd settled).bind fun _ _ settled => settled))
      | close =>
          exact .enter (by rfl) (inFdTurn (@runJob_fd libc .close fun _ settled =>
            (close_fd settled).bind fun _ _ settled => settled))
      | send pdata outcome => exact send_entering
      | destroy =>
          exact .enter (by rfl) (inFdTurn (@runJob_fd libc .destroy fun _ settled =>
            (destroy_fd settled).bind fun _ _ settled => settled))
      | init | setReadNotify | isOpened => exact .of_only (operation_outside rfl)

theorem fd_fair (libc : SpeedSetters) :
    fdTurns.Fair (system libc) .always Effect.changesFd Effect.leavesFd (fun _ => State.descriptor)
      Descriptor.Settled (fun _ part now => now = part) Effect.lookFd (fun _ => FdPoint)
      (fun _ _ => True) where
  harmless leaves := changesFd_of_leaves leaves
  refl _ _ := rfl
  trans early late := late.trans early
  begins _ := .inl ⟨rfl, rfl⟩
  agree settled := settled
  mine _ executed := exec_fd executed
  apart still _ _ executed := exec_descriptor still executed
  keeps still settled executed := (exec_descriptor still executed).symm ▸ settled
  external changed := by
    cases changed
    rfl
  rests settled changed := by
    cases changed
    exact settled
  body _ := runJob_entering _
  shared {thread last s job} admitted shares := by
    have outside : ∀ program : Code Result, Outside job program →
        program.Only fun effect => effect.changesFd = false :=
      fun _ only => only.mono fun effect outside => changesFd_of_leaves outside.2
    cases job with
    | iteration hasReadBytes outcome => exact outside _ (@iteration_outside libc _ _)
    | operation operation =>
        cases operation with
        | send pdata outcome => exact send_keepsFd
        | «open» | close | destroy => cases shares
        | init | setReadNotify | isOpened => exact outside _ (@operation_outside libc _ rfl)

end Turns

/-- In every run of any number of clients in which an `open`, `close` or destructor call
that has tested `_fd` overlaps no other such call and no `send` that has tested it: a
write goes to the descriptor of the port, which is open; only an open descriptor is
closed, and an open descriptor is never overwritten. -/
theorem fd_never_dead (libc : SpeedSetters)
    (config : Config Tid State Effect Effect.Reply Job Result)
    (leads : (system libc).Leads (fdTurns.within .always) (system libc).initial config)
    (thread : Tid) (call : Call State Effect Effect.Reply Job Result)
    (calls : config.calls thread = some call) :
    (∀ fd data outcome, call.Next (.write fd data outcome) →
      fd = config.state.port.param.fd ∧ fd ∈ config.state.port.fds) ∧
    (∀ fd, call.Next (.close fd) → fd ∈ config.state.port.fds) ∧
    (∀ value, call.Next (.store .fd value) → config.state.port.param.fd ∉ config.state.port.fds) := by
  have pointed : ∀ effect, call.Next effect → FdPoint effect config.state.descriptor := by
    intro effect standing
    by_cases entered : call.Entered fdTurns
    · exact Turns.point_of_inTurn (fd_fair libc) leads calls entered standing
    · cases entering : fdTurns.enters call.job effect with
      | false =>
          exact fdPoint_leaves
            (Turns.outside_of_waiting (fd_fair libc) leads calls entered standing entering)
      | true =>
          cases effect with
          | isOpened => trivial
          | _ => cases job : call.job <;> rw [job] at entering <;> cases entering
  refine ⟨fun fd data outcome standing => pointed _ standing, fun fd standing => pointed _ standing,
    fun value standing => pointed _ standing⟩

/-- A client has opened the port without a receiver. -/
def openedRun : List (Label Tid Job (List UInt8)) :=
  Label.burst (.client 0) (.operation (.init eightNone none)) 2 ++
    Label.burst (.client 0) (.operation (.open (.fine 3))) 16

/-- One client is about to write, and another, which has called `close`, to test `_fd`. -/
theorem fd_never_dead_writing :
    ∃ config closing, (system glibc).Leads (fdTurns.within .always) (system glibc).initial config ∧
      config.calls (.client 1) = some closing ∧ closing.Next .isOpened ∧
      (3 : Int) = config.state.port.param.fd ∧ (3 : Int) ∈ config.state.port.fds := by
  have ran : ∃ opened call closes closing config second,
      (system glibc).steps .always (system glibc).initial openedRun = some opened ∧
      opened.calls (.client 0) = some call ∧ call.Returned (.value (.code 0)) ∧
      (system glibc).steps .always opened (Label.burst (.client 1) (.operation .close) 0) =
        some closes ∧
      closes.calls (.client 1) = some closing ∧ closing.past = [] ∧ closing.Next .isOpened ∧
      (system glibc).steps .always closes
        (Label.burst (.client 0) (.operation (.send (some [0x55]) (.ok 1))) 3) = some config ∧
      config.calls (.client 1) = some closing ∧
      config.calls (.client 0) = some second ∧ second.Next (.write 3 [0x55] (.ok 1)) :=
    ⟨_, _, _, _, _, _, rfl, rfl, rfl, rfl, rfl, rfl, ⟨_, rfl⟩, rfl, rfl, rfl, _, rfl⟩
  obtain ⟨opened, call, closes, closing, config, second, first, calls, returned, begun,
    closesCalls, past, tests, sends, still, secondCalls, standing⟩ := ran
  have waits : ¬ closing.InTurn fdTurns := by
    rintro ⟨⟨effect, member, -⟩, -⟩
    simp [past] at member
  have leads := Turns.leads_of_overtaking first calls returned begun closesCalls waits sends rfl rfl
    rfl
  have never := fd_never_dead glibc config leads (.client 0) second secondCalls
  exact ⟨config, closing, leads, still, tests, never.1 3 [0x55] (.ok 1) standing⟩

/-- A `close` between the test of a `send` and its write; two `close` calls; two `open`
calls. -/
theorem fd_dead :
    (∃ config call, (system glibc).steps .always (system glibc).initial (openedRun ++
        Label.burst (.client 1) (.operation (.send (some [0x55]) (.ok 1))) 3 ++
        Label.burst (.client 0) (.operation .close) 9) = some config ∧
      config.calls (.client 1) = some call ∧ call.Next (.write 3 [0x55] (.ok 1)) ∧
      (3 : Int) ∉ config.state.port.fds) ∧
    (∃ config call, (system glibc).steps .always (system glibc).initial (openedRun ++
        Label.burst (.client 1) (.operation .close) 6 ++
        Label.burst (.client 0) (.operation .close) 9) = some config ∧
      config.calls (.client 1) = some call ∧ call.Next (.close 3) ∧
      (3 : Int) ∉ config.state.port.fds) ∧
    ∃ config call, (system glibc).steps .always (system glibc).initial (
        Label.burst (.client 1) (.operation (.open (.fine 4))) 3 ++ openedRun) = some config ∧
      config.calls (.client 1) = some call ∧ call.Next (.store .fd 4) ∧
      config.state.port.param.fd ∈ config.state.port.fds := by
  refine ⟨⟨_, _, rfl, rfl, ⟨_, rfl⟩, ?_⟩, ⟨_, _, rfl, rfl, ⟨_, rfl⟩, ?_⟩, _, _, rfl, rfl, ⟨_, rfl⟩, ?_⟩
  · decide
  · decide
  · decide

end LibSp.Linux
