import LibSp.Linux.Port

/-!
# The members of the Linux port

What a run keeps of the object beside its data streams. Every effect changes it by
a function of its own, and the programs perform the effects of a few lists.
-/

set_option autoImplicit false

namespace LibSp.Linux

open Concurrent

/-- The members of the object, its mutex, the open descriptors, the threads created and
what has returned. -/
structure Members where
  param : SpParamLinux
  mutexRecv : Option Tid
  fds : List Int
  created : Nat
  history : List (Operation × Value)

def State.members (s : State) : Members where
  param := s.port.param
  mutexRecv := s.mutexRecv
  fds := s.port.fds
  created := s.port.created
  history := s.port.history

/-- What an effect does to the members. -/
def Effect.update (thread : Tid) (members : Members) : Effect → Members
  | .store field value => { members with param := members.param.set field value }
  | .lock => { members with mutexRecv := some thread }
  | .unlock => { members with mutexRecv := none }
  | .open _ outcome => { members with
      fds := match outcome.descriptor with
        | .ok fd => fd :: members.fds
        | .error _ => members.fds }
  | .close fd => { members with fds := members.fds.erase fd }
  | .pthreadCreate .created => { members with
      param := { members.param with threadRecv := members.created }
      created := members.created + 1 }
  | .pthreadCreate (.failed _ leftover) =>
      { members with param := { members.param with threadRecv := leftover } }
  | .returned operation value =>
      { members with history := (operation, value) :: members.history }
  | _ => members

theorem setErrno_members (s : State) (thread : Tid) (value : Int) :
    State.members { s with port := s.port.setErrno thread value } = s.members := by
  cases thread <;> rfl

theorem answer_members (s : State) (thread : Tid) (outcome : Except Errno Unit) :
    State.members { s with port := (answer thread s.port outcome).2 } = s.members := by
  cases outcome with
  | ok done => rfl
  | error error => exact setErrno_members s thread error.value

theorem exec_members {thread : Tid} {effect : Effect} {s after : State} {reply : effect.Reply}
    (executed : exec thread effect s = some (reply, after)) :
    after.members = effect.update thread s.members := by
  cases effect with
  | lock =>
      simp only [exec] at executed
      split at executed <;> cases executed
      rfl
  | «open» name outcome =>
      simp only [exec] at executed
      split at executed
      · next error refused =>
          cases executed
          simp only [Effect.update, refused]
          exact setErrno_members s thread error.value
      · next fd granted =>
          split at executed <;> cases executed
          simp only [Effect.update, granted]
          rfl
  | fcntl fd outcome =>
      cases executed
      exact answer_members s thread outcome
  | tcgetattr fd outcome =>
      cases outcome with
      | ok options =>
          cases executed
          rfl
      | error error =>
          cases executed
          exact setErrno_members s thread error.value
  | tcsetattr fd options outcome =>
      cases executed
      exact answer_members s thread outcome
  | write fd data outcome =>
      simp only [exec] at executed
      split at executed
      · cases outcome with
        | ok count =>
            cases executed
            rfl
        | error error =>
            cases executed
            exact setErrno_members s thread error.value
      · cases executed
        exact setErrno_members s thread EBADF
  | pthreadCreate outcome => cases outcome <;> cases executed <;> rfl
  | pthreadJoin identifier =>
      simp only [exec] at executed
      split at executed
      · split at executed <;> cases executed
        rfl
      · cases executed
        rfl
  | pthreadExit =>
      cases thread with
      | client number => cases executed
      | worker number =>
          cases executed
          rfl
  | ioctl fd succeeds =>
      simp only [exec] at executed
      split at executed <;> cases executed <;> rfl
  | read fd count succeeds =>
      simp only [exec] at executed
      split at executed
      · split at executed <;> cases executed
        rfl
      · cases executed
        rfl
  | _ =>
      cases executed
      rfl

/-- The effect stores the length from which on the receiver is notified. -/
def Effect.setsNotify : Effect → Bool
  | .store .minByteReadNotify _ => true
  | _ => false

theorem exec_minByteReadNotify {thread : Tid} {effect : Effect} {s after : State}
    {reply : effect.Reply} (keeps : effect.setsNotify = false)
    (executed : exec thread effect s = some (reply, after)) :
    after.port.param.minByteReadNotify = s.port.param.minByteReadNotify := by
  have updated : after.port.param.minByteReadNotify =
      (effect.update thread s.members).param.minByteReadNotify :=
    congrArg (fun members : Members => members.param.minByteReadNotify) (exec_members executed)
  cases effect with
  | store field value => cases field <;> first | exact updated | cases keeps
  | pthreadCreate outcome => cases outcome <;> exact updated
  | _ => exact updated

/-! ## The routine operations -/

/-- What the operations other than `init` and `open` perform. -/
def Effect.routine : Effect → Bool
  | .store .fd value => value = invalidValue
  | .load _ | .store .threadRecvIsRunning _ | .store .threadRecv _ | .store .minByteReadNotify _
  | .isOpened | .lock | .unlock | .close _ | .write .. | .pthreadJoin _ => true
  | _ => false

/-- The operations other than `init` and `open`. -/
def Operation.routine : Operation → Bool
  | .init .. | .open _ => false
  | _ => true

abbrev Routine {α : Type} (program : Code α) : Prop :=
  program.Only fun effect => effect.routine = true

section Routine

variable {libc : SpeedSetters}

/-- What `close` performs. -/
def Effect.closes : Effect → Bool
  | .store .fd value => value = invalidValue
  | .load _ | .store .threadRecvIsRunning _ | .store .threadRecv _ | .isOpened | .close _
  | .pthreadJoin _ => true
  | _ => false

theorem close_only {allowed : Effect → Prop}
    (closes : ∀ effect, effect.closes = true → allowed effect) : close.Only allowed := by
  refine ⟨closes _ rfl, fun _ => Prog.Only.ite (fun _ => trivial) fun _ => ?_⟩
  refine ⟨closes _ rfl, fun _ => ⟨closes _ rfl, fun _ => ⟨closes _ rfl, fun _ => ?_⟩⟩⟩
  refine ⟨closes _ rfl, fun _ => ⟨closes _ rfl, fun _ => ⟨closes _ rfl, fun _ => ?_⟩⟩⟩
  exact ⟨closes _ rfl, fun _ => trivial⟩

theorem routine_of_closes {effect : Effect} (closes : effect.closes = true) :
    effect.routine = true := by
  cases effect with
  | store field value => cases field <;> first | exact closes | cases closes
  | _ => first | rfl | cases closes

theorem close_routine : Routine close :=
  close_only fun _ => routine_of_closes

theorem destroy_only {allowed : Effect → Prop}
    (closes : ∀ effect, effect.closes = true → allowed effect) : destroy.Only allowed :=
  ⟨closes _ rfl, fun _ => Prog.Only.ite (fun _ => (close_only closes).bind fun _ => trivial)
    fun _ => trivial⟩

theorem send_only {allowed : Effect → Prop} {pdata : Option (List UInt8)}
    {outcome : Except Errno Nat} (locks : allowed .lock) (unlocks : allowed .unlock)
    (tests : allowed .isOpened) (loads : allowed (.load .fd))
    (writes : ∀ fd data, allowed (.write fd data outcome)) :
    (send pdata outcome).Only allowed := by
  cases pdata with
  | none => trivial
  | some data =>
      refine Prog.Only.ite (fun _ => trivial) fun _ => ⟨locks, fun _ => ⟨tests, fun _ => ?_⟩⟩
      refine Prog.Only.ite (fun _ => trivial) fun _ => ⟨loads, fun _ => ⟨writes _ _, fun _ => ?_⟩⟩
      exact ⟨unlocks, fun _ => trivial⟩

theorem runOperation_routine {operation : Operation} (routine : operation.routine = true) :
    Routine (runOperation libc operation) := by
  cases operation with
  | init | «open» => cases routine
  | close => exact close_routine.bind fun _ => trivial
  | setReadNotify len =>
      refine Prog.Only.bind (Prog.Only.ite (fun _ => ?_) fun _ => ?_) fun _ => trivial
      · exact ⟨rfl, fun _ => trivial⟩
      · exact ⟨rfl, fun _ => trivial⟩
  | isOpened => exact ⟨rfl, fun _ => trivial⟩
  | send pdata outcome =>
      exact Prog.Only.bind (send_only rfl rfl rfl rfl fun _ _ => rfl) fun _ => trivial
  | destroy =>
      refine Prog.Only.bind (destroy_only fun effect closes => ?_) fun _ => trivial
      exact routine_of_closes closes

end Routine

/-! ## The settings -/

theorem init_only {allowed : Effect → Prop} {spp : SpProp} {precvData : Option IrecvData}
    (stores : ∀ value, allowed (.store .spp value))
    (registers : ∀ value, allowed (.store .precvData value)) :
    (init spp precvData).Only allowed := by
  refine Prog.Only.ite (fun _ => trivial) fun _ => ⟨stores _, fun _ => ?_⟩
  exact Prog.Only.ite (fun _ => ⟨registers _, fun _ => trivial⟩) fun _ => trivial

/-- What `setPortParams` performs. -/
def Effect.tunes : Effect → Bool
  | .load .fd | .load .spp | .tcgetattr .. | .tcflush _ | .tcsetattr .. => true
  | _ => false

theorem setPortParams_only {libc : SpeedSetters} {allowed : Effect → Prop} {outcome : OpenOutcome}
    (tunes : ∀ effect, effect.tunes = true → allowed effect) :
    (setPortParams libc outcome).Only allowed := by
  refine ⟨tunes _ rfl, fun _ => ⟨tunes _ rfl, fun options => ?_⟩⟩
  cases options with
  | none => trivial
  | some options =>
      refine ⟨tunes _ rfl, fun _ => ⟨tunes _ rfl, fun _ => ⟨tunes _ rfl, fun _ => ?_⟩⟩⟩
      refine ⟨tunes _ rfl, fun _ => ⟨tunes _ rfl, fun _ => ?_⟩⟩
      exact Prog.Only.ite (fun _ => trivial) fun _ => trivial

/-- What `open` performs. -/
def Effect.opens : Effect → Bool
  | .store .fd _ | .open .. | .errno | .fcntl .. | .pthreadCreate _ => true
  | effect => effect.closes || effect.tunes

theorem open_only {libc : SpeedSetters} {allowed : Effect → Prop} {outcome : OpenOutcome}
    (opens : ∀ effect, effect.opens = true → allowed effect) :
    («open» libc outcome).Only allowed := by
  have closes : ∀ effect, effect.closes = true → allowed effect := by
    intro effect closes
    refine opens effect ?_
    cases effect with
    | store field value => cases field <;> first | rfl | cases closes
    | _ => first | rfl | cases closes
  have tunes : ∀ effect, effect.tunes = true → allowed effect := by
    intro effect tunes
    refine opens effect ?_
    cases effect <;> first | rfl | cases tunes
  have cleanUp : (do
      let retVal ← perform .errno
      let _ ← close
      return retVal : Code Int).Only allowed :=
    ⟨opens _ rfl, fun _ => @Prog.Only.bind _ _ _ _ _ close _ (close_only closes) fun _ => trivial⟩
  refine ⟨opens _ rfl, fun _ => Prog.Only.ite (fun _ => trivial) fun _ => ⟨opens _ rfl, fun _ => ?_⟩⟩
  refine ⟨opens _ rfl, fun _ => ⟨opens _ rfl, fun _ => ⟨opens _ rfl, fun _ => ?_⟩⟩⟩
  refine Prog.Only.ite (fun _ => ⟨opens _ rfl, fun _ => trivial⟩) fun _ => ⟨opens _ rfl, fun _ => ?_⟩
  refine ⟨opens _ rfl, fun _ => Prog.Only.ite (fun _ => cleanUp) fun _ => ?_⟩
  refine Prog.Only.bind (setPortParams_only tunes) fun _ => ?_
  refine Prog.Only.ite (fun _ => cleanUp) fun _ => ⟨opens _ rfl, fun receiver => ?_⟩
  refine Prog.Only.ite (fun _ => ⟨opens _ rfl, fun _ => ⟨opens _ rfl, fun _ => ?_⟩⟩) fun _ => trivial
  exact Prog.Only.ite (fun _ => ⟨opens _ rfl, fun _ => trivial⟩) fun _ => trivial

/-! ## The receive loop -/

/-- What an iteration of the receive loop performs beside the callback. -/
def Effect.receives : Effect → Bool
  | .load _ | .ioctl .. | .lock | .unlock | .isOpened | .read .. | .onRecvData .. | .pthreadExit => true
  | _ => false

theorem threadRecvDataMonitor_only {allowed : Effect → Prop} {callback : Code Unit}
    {hasReadBytes : Int} {outcome : RecvOutcome}
    (receives : ∀ effect, effect.receives = true → allowed effect)
    (called : callback.Only allowed) :
    (threadRecvDataMonitor callback hasReadBytes outcome).Only allowed := by
  have released : ∀ hasReadBytes : Int,
      (do perform .unlock; return .next hasReadBytes : Code Iteration).Only allowed :=
    fun _ => ⟨receives _ rfl, fun _ => trivial⟩
  refine ⟨receives _ rfl, fun _ => Prog.Only.ite (fun _ => ?_) fun _ => ?_⟩
  · exact ⟨receives _ rfl, fun _ => trivial⟩
  refine ⟨receives _ rfl, fun _ => ⟨receives _ rfl, fun _ => ?_⟩⟩
  refine Prog.Only.ite (fun _ => trivial) fun _ => ⟨receives _ rfl, fun _ => ?_⟩
  refine Prog.Only.ite (fun _ => ?_) fun _ => trivial
  refine ⟨receives _ rfl, fun _ => ⟨receives _ rfl, fun _ => ?_⟩⟩
  refine Prog.Only.ite (fun _ => ?_) fun _ => released _
  refine ⟨receives _ rfl, fun _ => ⟨receives _ rfl, fun taken => ?_⟩⟩
  cases taken with
  | none => exact released _
  | some bufRead =>
      refine Prog.Only.ite (fun _ => ⟨receives _ rfl, fun receiver => ?_⟩) fun _ => released _
      cases receiver with
      | none => exact released _
      | some receiver => exact ⟨receives _ rfl, fun _ => called.bind fun _ => released _⟩

/-! ## The jobs -/

/-- Only `set_read_notify` stores the length. -/
theorem runJob_keepsNotify {libc : SpeedSetters} {job : Job}
    (other : ∀ len, job ≠ .operation (.setReadNotify len)) :
    (runJob libc job).Only fun effect => effect.setsNotify = false := by
  cases job with
  | iteration hasReadBytes outcome =>
      refine Prog.Only.bind (threadRecvDataMonitor_only (fun effect receives => ?_) ?_)
        fun _ => trivial
      · cases effect <;> first | rfl | cases receives
      · trivial
  | operation operation =>
      refine Prog.Only.bind ?_ fun _ => ⟨rfl, fun _ => trivial⟩
      have closing : ∀ effect : Effect, effect.closes = true → effect.setsNotify = false := by
        intro effect closes
        cases effect with
        | store field value => cases field <;> first | rfl | cases closes
        | _ => rfl
      cases operation with
      | init spp precvData => exact (init_only (fun _ => rfl) fun _ => rfl).bind fun _ => trivial
      | «open» outcome =>
          refine Prog.Only.bind (open_only fun effect opens => ?_) fun _ => trivial
          cases effect with
          | store field value => cases field <;> first | rfl | cases opens
          | _ => rfl
      | close => exact (close_only closing).bind fun _ => trivial
      | setReadNotify len => exact absurd rfl (other len)
      | isOpened => exact ⟨rfl, fun _ => trivial⟩
      | send pdata outcome =>
          exact Prog.Only.bind (send_only rfl rfl rfl rfl fun _ _ => rfl) fun _ => trivial
      | destroy => exact (destroy_only closing).bind fun _ => trivial

end LibSp.Linux
