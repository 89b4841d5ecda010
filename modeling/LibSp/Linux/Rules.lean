import LibSp.Linux.Port
import LibSp.Concurrent.Owner

/-!
# One client and the receive threads

What holds of a Linux port in every run with a single client thread. The client
owns the members of the object. A receive thread relies on the client to leave
its descriptor and its input alone until it has been joined.
-/

set_option autoImplicit false

namespace LibSp.Linux

open Concurrent

/-- The bounds of one delivery; the lower one needs exact answers of `FIONREAD`. -/
structure Fits (exact : Prop) (delivery : Delivery) : Prop where
  nonempty : 1 ≤ delivery.chunk.length
  fits : delivery.chunk.length ≤ lenBuf1024
  notified : exact → delivery.notify ≤ delivery.chunk.length

/-- Everything taken from the device has been passed to `on_recv_data`. -/
def PassedOn (s : State) : Prop := s.consumed = deliveredBytes s.delivered

/-- Everything but this chunk, which a receive thread has read and not passed on yet. -/
def Holding (s : State) (chunk : List UInt8) : Prop :=
  s.consumed = deliveredBytes s.delivered ++ chunk

def Port.Quiet (port : Port) : Prop := ∀ number, ¬ port.Unjoined number

/-- What holds at every moment of a run with one client. `exact` stands for runs
whose `FIONREAD` queries succeed, `strict` for runs without a bad join. -/
structure Inv (exact strict : Prop) (s : State) : Prop where
  receivers_unjoined : ∀ number ∈ s.receivers, s.port.Unjoined number
  receivers_nodup : s.receivers.Nodup
  unjoined_current : ∀ number, s.port.Unjoined number →
    s.port.param.threadRecv = number ∧ s.port.param.fd ∈ s.port.fds ∧
      s.port.param.precvData.isSome = true
  running_alive : s.port.param.threadRecvIsRunning = true → ∀ number, s.port.Unjoined number →
    number ∈ s.receivers
  joined_created : ∀ number ∈ s.port.joined, number < s.port.created
  descriptors : ∀ fd ∈ s.port.fds, 0 ≤ fd
  passed_on : s.receivers = [] → PassedOn s
  chunks : ∀ delivery ∈ s.delivered, Fits exact delivery
  notify_le : s.port.param.minByteReadNotify ≤ lenBuf1024
  joins : strict → s.port.badJoins = []

/-- What a living receive thread relies on, and what it finds when it starts. -/
structure WorkerRely (number : Nat) (s after : State) : Prop where
  alive : number ∈ s.receivers → number ∈ after.receivers
  descriptor : number ∈ s.receivers → after.port.param.fd = s.port.param.fd
  stopped : number ∈ s.receivers → s.port.param.threadRecvIsRunning = false →
    after.port.param.threadRecvIsRunning = false
  queue : number ∈ s.receivers → s.pending <+: after.pending
  stream : number ∈ s.receivers → after.consumed = s.consumed ∧ after.delivered = s.delivered
  fresh : number ∉ s.receivers → number ∈ after.receivers → PassedOn after

def Rely : Tid → State → State → Prop
  | .client 0, s, after => after.port = s.port
  | .client _, _, _ => True
  | .worker number, s, after => WorkerRely number s after

namespace WorkerRely

variable {number : Nat} {first second third s after : State}

theorem refl : WorkerRely number s s where
  alive alive := alive
  descriptor _ := rfl
  stopped _ stopped := stopped
  queue _ := List.prefix_refl _
  stream _ := ⟨rfl, rfl⟩
  fresh dead alive := absurd alive dead

theorem trans (early : WorkerRely number first second) (late : WorkerRely number second third) :
    WorkerRely number first third where
  alive alive := late.alive (early.alive alive)
  descriptor alive := (late.descriptor (early.alive alive)).trans (early.descriptor alive)
  stopped alive stopped := late.stopped (early.alive alive) (early.stopped alive stopped)
  queue alive := (early.queue alive).trans (late.queue (early.alive alive))
  stream alive :=
    ⟨(late.stream (early.alive alive)).1.trans (early.stream alive).1,
      (late.stream (early.alive alive)).2.trans (early.stream alive).2⟩
  fresh dead alive := by
    by_cases between : number ∈ second.receivers
    · rw [PassedOn, (late.stream between).1, (late.stream between).2]
      exact early.fresh dead between
    · exact late.fresh between alive

theorem of_dead (dead : number ∉ s.receivers) (still : number ∉ after.receivers) :
    WorkerRely number s after where
  alive alive := absurd alive dead
  descriptor alive := absurd alive dead
  stopped alive := absurd alive dead
  queue alive := absurd alive dead
  stream alive := absurd alive dead
  fresh _ alive := absurd alive still

end WorkerRely

namespace Inv

variable {exact strict : Prop} {s : State}

theorem unjoined_unique (inv : Inv exact strict s) {first second : Nat}
    (firstUnjoined : s.port.Unjoined first) (secondUnjoined : s.port.Unjoined second) :
    first = second := by
  have firstCurrent := (inv.unjoined_current first firstUnjoined).1
  have secondCurrent := (inv.unjoined_current second secondUnjoined).1
  omega

theorem receivers_unique (inv : Inv exact strict s) {first second : Nat}
    (firstAlive : first ∈ s.receivers) (secondAlive : second ∈ s.receivers) : first = second :=
  inv.unjoined_unique (inv.receivers_unjoined first firstAlive)
    (inv.receivers_unjoined second secondAlive)

theorem receivers_nil (inv : Inv exact strict s) (quiet : s.port.Quiet) : s.receivers = [] := by
  cases receivers : s.receivers with
  | nil => rfl
  | cons number rest =>
      exact absurd (inv.receivers_unjoined number (by simp [receivers])) (quiet number)

theorem not_alive (inv : Inv exact strict s) (quiet : s.port.Quiet) {number : Nat} :
    number ∉ s.receivers := by
  simp [inv.receivers_nil quiet]

/-- An open port has a receive thread exactly while one is running. -/
theorem isOpened_of_alive (inv : Inv exact strict s) {number : Nat}
    (alive : number ∈ s.receivers) : s.port.param.isOpened = true := by
  have current := (inv.unjoined_current number (inv.receivers_unjoined number alive)).2.1
  have nonneg := inv.descriptors _ current
  have valid : s.port.param.fd ≠ invalidValue := by
    simp only [invalidValue]
    omega
  exact decide_eq_true valid

end Inv

theorem inv_start (exact strict : Prop) : Inv exact strict State.start where
  receivers_unjoined := by simp [State.start]
  receivers_nodup := List.nodup_nil
  unjoined_current number unjoined := absurd unjoined.1 (Nat.not_lt_zero number)
  running_alive running := by cases running
  joined_created := by simp [State.start, Port.start]
  descriptors := by simp [State.start, Port.start]
  passed_on _ := rfl
  chunks := by simp [State.start]
  notify_le := by decide
  joins _ := rfl

theorem quiet_start : Port.start.Quiet :=
  fun number unjoined => absurd unjoined.1 (Nat.not_lt_zero number)

/-! ## The effects of the client -/

/-- The effects that the client performs, each with what it must have established. -/
def Permitted (strict : Prop) (port : Port) : Effect → Prop
  | .store .precvData precvData => precvData.isSome = true
  | .store .threadRecvIsRunning running => running = true → port.Quiet
  | .store .threadRecv _ | .store .fd _ | .open .. | .tcflush _ | .close _ => port.Quiet
  | .store .minByteReadNotify notify => notify ≤ lenBuf1024
  | .pthreadCreate _ =>
      port.Quiet ∧ port.param.fd ∈ port.fds ∧ port.param.precvData.isSome = true
  | .pthreadJoin identifier => identifier = port.param.threadRecv ∧
      (strict → ∃ number : Nat, identifier = number ∧ port.Unjoined number)
  | .pthreadExit | .ioctl .. | .read .. | .onRecvData .. => False
  | _ => True

section Client

variable {exact strict : Prop} {s after : State} {number : Nat}

private theorem inv_of_unseen {port : Port} (inv : Inv exact strict s)
    (param : port.param = s.port.param) (fds : port.fds = s.port.fds)
    (created : port.created = s.port.created) (joined : port.joined = s.port.joined)
    (badJoins : port.badJoins = s.port.badJoins) (mutexRecv : Option Tid) :
    Inv exact strict { s with port := port, mutexRecv := mutexRecv } := by
  have unjoined : ∀ number, port.Unjoined number ↔ s.port.Unjoined number := by
    intro number
    rw [Port.Unjoined, Port.Unjoined, created, joined]
  exact {
    receivers_unjoined := fun number alive =>
      (unjoined number).mpr (inv.receivers_unjoined number alive)
    receivers_nodup := inv.receivers_nodup
    unjoined_current := by
      intro number fresh
      rw [param, fds]
      exact inv.unjoined_current number ((unjoined number).mp fresh)
    running_alive := by
      intro running number fresh
      exact inv.running_alive (param ▸ running) number ((unjoined number).mp fresh)
    joined_created := by
      rw [joined, created]
      exact inv.joined_created
    descriptors := by
      rw [fds]
      exact inv.descriptors
    passed_on := inv.passed_on
    chunks := inv.chunks
    notify_le := by
      rw [param]
      exact inv.notify_le
    joins := by
      rw [badJoins]
      exact inv.joins }

private theorem rely_of_unseen {port : Port} {mutexRecv : Option Tid}
    (fd : port.param.fd = s.port.param.fd)
    (running : port.param.threadRecvIsRunning = s.port.param.threadRecvIsRunning) :
    WorkerRely number s { s with port := port, mutexRecv := mutexRecv } where
  alive alive := alive
  descriptor _ := fd
  stopped _ stopped := running.trans stopped
  queue _ := List.prefix_refl _
  stream _ := ⟨rfl, rfl⟩
  fresh dead alive := absurd alive dead

private theorem unseen_keeps {port : Port} {mutexRecv : Option Tid} (inv : Inv exact strict s)
    (param : port.param = s.port.param) (fds : port.fds = s.port.fds)
    (created : port.created = s.port.created) (joined : port.joined = s.port.joined)
    (badJoins : port.badJoins = s.port.badJoins) :
    Inv exact strict { s with port := port, mutexRecv := mutexRecv } ∧
      ∀ number, WorkerRely number s { s with port := port, mutexRecv := mutexRecv } :=
  ⟨inv_of_unseen inv param fds created joined badJoins mutexRecv,
    fun _ => rely_of_unseen (by rw [param]) (by rw [param])⟩

private theorem store_keeps {field : Field} {value : field.Val} (inv : Inv exact strict s)
    (permitted : Permitted strict s.port (.store field value)) :
    Inv exact strict
        { s with port := { s.port with param := s.port.param.set field value } } ∧
      ∀ number, WorkerRely number s
        { s with port := { s.port with param := s.port.param.set field value } } := by
  cases field with
  | spp => exact ⟨{ inv with }, fun _ => rely_of_unseen rfl rfl⟩
  | precvData =>
      refine ⟨{ inv with unjoined_current := fun number unjoined => ?_ },
        fun _ => rely_of_unseen rfl rfl⟩
      obtain ⟨current, descriptor, -⟩ := inv.unjoined_current number unjoined
      exact ⟨current, descriptor, permitted⟩
  | threadRecvIsRunning =>
      refine ⟨{ inv with
        running_alive := fun running number unjoined => absurd unjoined (permitted running number) },
        fun number => ?_⟩
      exact {
        alive := id
        descriptor := fun _ => rfl
        stopped := by
          intro alive _
          cases running : value with
          | false => rfl
          | true => exact absurd (inv.receivers_unjoined number alive) (permitted running number)
        queue := fun _ => List.prefix_refl _
        stream := fun _ => ⟨rfl, rfl⟩
        fresh := fun dead alive => absurd alive dead }
  | threadRecv =>
      refine ⟨{ inv with
        unjoined_current := fun number unjoined => absurd unjoined (permitted number) },
        fun _ => rely_of_unseen rfl rfl⟩
  | fd =>
      exact ⟨{ inv with
        unjoined_current := fun number unjoined => absurd unjoined (permitted number) },
        fun _ => .of_dead (inv.not_alive permitted) (inv.not_alive permitted)⟩
  | minByteReadNotify =>
      exact ⟨{ inv with notify_le := permitted }, fun _ => rely_of_unseen rfl rfl⟩

private theorem pthreadCreate_keeps {outcome : CreateOutcome} {reply : Int}
    (inv : Inv exact strict s) (permitted : Permitted strict s.port (.pthreadCreate outcome))
    (executed : exec (.client 0) (.pthreadCreate outcome) s = some (reply, after)) :
    Inv exact strict after ∧ ∀ number, WorkerRely number s after := by
  obtain ⟨quiet, descriptor, receiver⟩ := permitted
  have none := inv.receivers_nil quiet
  cases outcome with
  | failed error leftover =>
      cases executed
      exact ⟨{ inv with unjoined_current := fun number unjoined => absurd unjoined (quiet number) },
        fun _ => rely_of_unseen rfl rfl⟩
  | created =>
      cases executed
      -- The new thread is the only one that is not joined.
      have only : ∀ number, number < s.port.created + 1 ∧ number ∉ s.port.joined →
          number = s.port.created := by
        intro number unjoined
        by_cases old : number < s.port.created
        · exact absurd ⟨old, unjoined.2⟩ (quiet number)
        · omega
      have fresh : s.port.created ∉ s.port.joined :=
        fun joined => Nat.lt_irrefl _ (inv.joined_created _ joined)
      refine ⟨{ inv with
        receivers_unjoined := ?_, receivers_nodup := ?_, unjoined_current := ?_,
        running_alive := ?_, joined_created := ?_, passed_on := ?_ }, fun number => ?_⟩
      · intro number alive
        simp only [none, List.nil_append, List.mem_singleton] at alive
        subst alive
        exact ⟨Nat.lt_succ_self _, fresh⟩
      · simp [none]
      · intro number unjoined
        rw [only number unjoined]
        exact ⟨rfl, descriptor, receiver⟩
      · intro _ number unjoined
        simp [only number unjoined]
      · intro number joined
        exact Nat.lt_succ_of_lt (inv.joined_created number joined)
      · simp
      · exact {
          alive := fun alive => absurd alive (inv.not_alive quiet)
          descriptor := fun alive => absurd alive (inv.not_alive quiet)
          stopped := fun alive => absurd alive (inv.not_alive quiet)
          queue := fun alive => absurd alive (inv.not_alive quiet)
          stream := fun alive => absurd alive (inv.not_alive quiet)
          fresh := fun _ _ => inv.passed_on none }

private theorem pthreadJoin_keeps {identifier : Int} (inv : Inv exact strict s)
    (permitted : Permitted strict s.port (.pthreadJoin identifier))
    (executed : exec (.client 0) (.pthreadJoin identifier) s = some ((), after)) :
    Inv exact strict after ∧ ∀ number, WorkerRely number s after := by
  simp only [exec] at executed
  cases found : s.port.unjoined? identifier with
  | none =>
      simp only [found] at executed
      cases executed
      refine ⟨{ inv with joins := fun strictly => ?_ }, fun _ => rely_of_unseen rfl rfl⟩
      obtain ⟨number, rfl, unjoined⟩ := permitted.2 strictly
      simp [Port.unjoined?, unjoined] at found
  | some joining =>
      simp only [found] at executed
      split at executed
      · cases executed
      · next ended =>
          cases executed
          have created : joining < s.port.created := by
            simp only [Port.unjoined?] at found
            split at found
            · next unjoined =>
                cases found
                exact unjoined.2.1
            · cases found
          refine ⟨{ inv with
            receivers_unjoined := ?_, unjoined_current := ?_, running_alive := ?_,
            joined_created := ?_ }, fun _ => rely_of_unseen rfl rfl⟩
          · intro number alive
            obtain ⟨before, unjoined⟩ := inv.receivers_unjoined number alive
            refine ⟨before, ?_⟩
            simp only [List.mem_cons, not_or]
            exact ⟨fun same => ended (same ▸ alive), unjoined⟩
          · intro number unjoined
            exact inv.unjoined_current number
              ⟨unjoined.1, fun joined => unjoined.2 (List.mem_cons_of_mem _ joined)⟩
          · intro running number unjoined
            exact inv.running_alive running number
              ⟨unjoined.1, fun joined => unjoined.2 (List.mem_cons_of_mem _ joined)⟩
          · intro number joined
            rcases List.mem_cons.mp joined with rfl | before
            · exact created
            · exact inv.joined_created number before

theorem client_keeps {effect : Effect} {reply : effect.Reply} (inv : Inv exact strict s)
    (permitted : Permitted strict s.port effect)
    (executed : exec (.client 0) effect s = some (reply, after)) :
    Inv exact strict after ∧ ∀ number, WorkerRely number s after := by
  cases effect with
  | load field =>
      cases executed
      exact ⟨inv, fun _ => .refl⟩
  | isOpened =>
      cases executed
      exact ⟨inv, fun _ => .refl⟩
  | errno =>
      cases executed
      exact ⟨inv, fun _ => .refl⟩
  | store field value =>
      cases executed
      exact store_keeps inv permitted
  | lock =>
      simp only [exec] at executed
      split at executed <;> cases executed
      exact unseen_keeps inv rfl rfl rfl rfl rfl
  | unlock =>
      cases executed
      exact unseen_keeps inv rfl rfl rfl rfl rfl
  | «open» name outcome =>
      have dead : ∀ number, number ∉ s.receivers := fun _ => inv.not_alive permitted
      simp only [exec] at executed
      split at executed
      · cases executed
        exact unseen_keeps inv rfl rfl rfl rfl rfl
      · split at executed <;> cases executed
        next opened =>
          refine ⟨{ inv with
            unjoined_current := fun number unjoined => absurd unjoined (permitted number)
            descriptors := fun fd member => ?_ }, fun number => .of_dead (dead number) (dead number)⟩
          rcases List.mem_cons.mp member with rfl | before
          · exact opened.1
          · exact inv.descriptors fd before
  | fcntl fd outcome =>
      cases outcome <;> cases executed <;> exact unseen_keeps inv rfl rfl rfl rfl rfl
  | tcgetattr fd outcome =>
      cases outcome <;> cases executed <;> exact unseen_keeps inv rfl rfl rfl rfl rfl
  | tcflush fd =>
      cases executed
      exact ⟨{ inv with }, fun _ => .of_dead (inv.not_alive permitted) (inv.not_alive permitted)⟩
  | tcsetattr fd options outcome =>
      cases outcome <;> cases executed <;> exact unseen_keeps inv rfl rfl rfl rfl rfl
  | close fd =>
      cases executed
      exact ⟨{ inv with
        unjoined_current := fun number unjoined => absurd unjoined (permitted number)
        descriptors := fun other member => inv.descriptors other (List.mem_of_mem_erase member) },
        fun _ => .of_dead (inv.not_alive permitted) (inv.not_alive permitted)⟩
  | write fd data outcome =>
      simp only [exec] at executed
      split at executed
      · cases outcome <;> cases executed <;> exact unseen_keeps inv rfl rfl rfl rfl rfl
      · cases executed
        exact unseen_keeps inv rfl rfl rfl rfl rfl
  | pthreadCreate outcome => exact pthreadCreate_keeps inv permitted executed
  | pthreadJoin identifier => exact pthreadJoin_keeps inv permitted executed
  | pthreadExit => exact permitted.elim
  | ioctl fd succeeds => exact permitted.elim
  | read fd count succeeds => exact permitted.elim
  | onRecvData receiver chunk notify => exact permitted.elim
  | returned operation value =>
      cases executed
      exact unseen_keeps inv rfl rfl rfl rfl rfl

end Client

/-! ## The effects of a receive thread -/

def WorkerPoint (exact : Prop) (s : State) : Effect → Prop
  | .ioctl fd _ => PassedOn s ∧ fd = s.port.param.fd ∧ fd ∈ s.port.fds
  | .read fd count _ => PassedOn s ∧ fd = s.port.param.fd ∧ fd ∈ s.port.fds ∧
      count ≤ lenBuf1024 ∧ (exact → count ≤ s.pending.length)
  | .load .precvData => ∃ chunk, Holding s chunk
  | .onRecvData receiver chunk notify => Holding s chunk ∧ Fits exact ⟨receiver, chunk, notify⟩
  | .load _ | .isOpened | .lock | .unlock | .pthreadExit => PassedOn s
  | _ => False

/-! ## The rules -/

/-- A port between two operations of its client. -/
structure Idle (port : Port) : Prop where
  closed : port.param.isOpened = false →
    port.param.threadRecvIsRunning = false ∧ port.fds = [] ∧ port.Quiet
  opened : port.param.isOpened = true →
    port.fds = [port.param.fd] ∧ (port.Quiet ∨ port.param.threadRecvIsRunning = true)

/-- `open` finds a closed port and the calls that prepare it all succeed. -/
def Opens (outcome : OpenOutcome) (port : Port) : Prop :=
  port.param.isOpened = false ∧ outcome.descriptor.isOk = true ∧ outcome.fcntl.isOk = true ∧
    outcome.tcgetattr.isOk = true ∧ outcome.tcsetattr.isOk = true

/-- What an `open` that returned this value did to the port. -/
inductive OpenDone (outcome : OpenOutcome) (port : Port) (value : Int) (after : Port) : Prop where
  | opened (opens : Opens outcome port) (zero : value = 0)
      (isOpened : after.param.isOpened = true)
      (precvData : after.param.precvData = port.param.precvData)
      (thread : port.param.precvData.isSome = true → match outcome.pthreadCreate with
        | .created => after.param.threadRecvIsRunning = true ∧ after.Unjoined port.created
        | .failed .. => after.Quiet)
  | failed (fails : ¬ Opens outcome port) (nonzero : value ≠ 0)
      (fd : after.param.fd = port.param.fd) (fds : after.fds = port.fds)
      (running : after.param.threadRecvIsRunning = port.param.threadRecvIsRunning)
      (threads : ∀ number, after.Unjoined number ↔ port.Unjoined number)

structure Port.Alike (port after : Port) : Prop where
  param : after.param = port.param
  fds : after.fds = port.fds
  created : after.created = port.created
  joined : after.joined = port.joined

inductive CloseDone (port : Port) (value : Int) (after : Port) : Prop where
  | closed (isOpened : port.param.isOpened = true) (zero : value = 0)
      (isClosed : after.param.isOpened = false) (quiet : after.Quiet)
  | failed (isClosed : port.param.isOpened = false) (negative : value = -1) (same : port.Alike after)

def Done (port : Port) (after : Port) : Operation → Value → Prop
  | .open outcome, .code value => OpenDone outcome port value after
  | .close, .code value => CloseDone port value after
  | _, _ => True

/-- The count that an iteration hands to the next one is not negative. -/
def Carries (last : Option Result) : Prop :=
  ∀ hasReadBytes, last = some (.iteration (.next hasReadBytes)) → 0 ≤ hasReadBytes

def rules (exact strict : Prop) : Rules Tid State Effect Job Result where
  inv := Inv exact strict
  rely := Rely
  point thread _ effect s :=
    match thread with
    | .client _ => Permitted strict s.port effect
    | .worker number => number ∈ s.receivers ∧ WorkerPoint exact s effect
  post thread job entry result s :=
    match thread, job, result with
    | .client _, .operation operation, .value value =>
        Inv exact strict entry ∧ Idle entry.port ∧ Idle s.port ∧
          Done entry.port s.port operation value
    | .worker number, .iteration .., .iteration iteration =>
        (number ∈ s.receivers → PassedOn s) ∧ Carries (some (.iteration iteration))
    | _, _, _ => False
  ready thread last s :=
    match thread with
    | .client 0 => Idle s.port
    | .client _ => True
    | .worker number => (number ∈ s.receivers → PassedOn s) ∧ Carries last

end LibSp.Linux
