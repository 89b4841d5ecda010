import LibSp.Windows.Members
import LibSp.Concurrent.Mutex

/-!
# The mutex of the Windows port

`_mutex_recv` guards the running flag, the write and the read. Every function
gives it back except a synchronous `send`, which takes it twice. In the runs
without one no thread takes a mutex it owns, and none keeps it.
-/

set_option autoImplicit false

namespace LibSp.Windows

open Concurrent

/-- Marked functions return, and threads end, without the mutex. -/
def lockUse (_ : Job) : Effect → LockUse
  | .lock => .acquires
  | .unlock => .releases
  | .leave _ | .returned .. | .threadExit => .outside
  | _ => .free

/-- A `send` that gets as far as its choice of I/O finds the asynchronous mode. -/
def sendsAsync : Condition Tid State Effect Job where
  begins _ _ _ := true
  acts _ job effect s :=
    match job, effect with
    | .operation (.send ..), .load .spp => s.param.spp.opMode = modeAsync
    | _, _ => true

/-- What `sendsAsync` says of the replies. -/
def FoundAsync (job : Job) : (effect : Effect) → effect.Reply → Prop
  | .load .spp, spp => ∀ pdata outcome, job = .operation (.send pdata outcome) →
      SpProp.opMode spp = modeAsync
  | _, _ => True

theorem foundAsync_of_sendsAsync {thread : Tid} {job : Job} {effect : Effect} {s after : State}
    {reply : effect.Reply} (allowed : sendsAsync.acts thread job effect s = true)
    (executed : exec thread effect s = some (reply, after)) : FoundAsync job effect reply := by
  cases effect with
  | load field =>
      cases field with
      | spp =>
          intro pdata outcome same
          subst same
          cases executed
          exact of_decide_eq_true allowed
      | _ => trivial
  | _ => trivial

/-! ## Only `lock` and `unlock` touch the mutex -/

theorem exec_mutexRecv {thread : Tid} {effect : Effect} {s after : State} {reply : effect.Reply}
    (executed : exec thread effect s = some (reply, after)) (notLock : effect ≠ .lock)
    (notUnlock : effect ≠ .unlock) : after.mutexRecv = s.mutexRecv := by
  have kept : (effect.update thread s.members).mutexRecv = s.members.mutexRecv := by
    unfold Effect.update
    split
    · rfl
    · exact absurd rfl notLock
    · exact absurd rfl notUnlock
    · rfl
    · rfl
    · rfl
    · rfl
    · rfl
    · rfl
  exact (congrArg Members.mutexRecv (exec_members executed)).trans kept

theorem mutexRecv_mutex : Mutex system State.mutexRecv lockUse where
  start := rfl
  acquires := by
    intro thread job effect s reply after used executed
    cases effect with
    | lock =>
        simp only [system, exec] at executed
        split at executed <;> cases executed
        next free => exact ⟨free, rfl⟩
    | _ => cases used
  releases := by
    intro thread job effect s reply after used executed
    cases effect with
    | unlock =>
        cases executed
        rfl
    | _ => cases used
  keeps := by
    intro thread job effect s reply after used executed
    refine exec_mutexRecv executed ?_ ?_
    · intro same
      subst same
      rcases used with used | used <;> cases used
    · intro same
      subst same
      rcases used with used | used <;> cases used
  external changed := congrArg Members.mutexRecv (external_members changed)

/-! ## Every function keeps the discipline -/

section Functions

variable {job : Job} {permits : (effect : Effect) → effect.Reply → Prop}

theorem leaving_balanced {α : Type} {function : Function} {body : Code α}
    (balanced : Balanced (lockUse job) permits body false) :
    Balanced (lockUse job) permits (leaving function body) false :=
  balanced.bind fun _ => ⟨rfl, fun _ _ => rfl⟩

theorem getRecvThreadIsRunning_balanced :
    Balanced (lockUse job) permits getRecvThreadIsRunning false :=
  leaving_balanced ⟨rfl, fun _ _ _ _ => ⟨rfl, fun _ _ => rfl⟩⟩

theorem setRecvThreadIsRunning_balanced {value : Bool} :
    Balanced (lockUse job) permits (setRecvThreadIsRunning value) false :=
  leaving_balanced ⟨rfl, fun _ _ _ _ => ⟨rfl, fun _ _ => rfl⟩⟩

theorem init_balanced {spp : SpProp} {precvData : Option IrecvData} :
    Balanced (lockUse job) permits (init spp precvData) false := by
  refine Balanced.ite (fun _ => rfl) fun _ => ?_
  intro _ _
  refine Balanced.ite (fun _ _ _ => ?_) fun _ => ?_
  · intro _ _ spp _
    exact Balanced.ite (fun _ _ _ _ _ => rfl) fun _ => rfl
  · intro _ _ spp _
    exact Balanced.ite (fun _ _ _ _ _ => rfl) fun _ => rfl

theorem stopThreadMonitor_balanced {outcome : CloseOutcome} :
    Balanced (lockUse job) permits (stopThreadMonitor outcome) false := by
  intro handle _ _ _
  refine setRecvThreadIsRunning_balanced.bind fun _ => ?_
  intro handle _
  exact Balanced.ite (fun _ _ _ _ _ _ _ _ _ _ _ => rfl) fun _ => rfl

theorem close_balanced {outcome : CloseOutcome} :
    Balanced (lockUse job) permits (close outcome) false := by
  refine leaving_balanced fun opened _ => Balanced.ite (fun _ => ?_) fun _ => rfl
  refine stopThreadMonitor_balanced.bind fun _ => ?_
  intro handle _
  refine Balanced.ite (fun _ => ?_) fun _ => ?_
  · intro _ _ _ _ _ _ _ _ _ _ _ _ _ _ _ _ _ _
    rfl
  · intro _ _ _ _
    rfl

theorem setFlowCtl_balanced {flowCtl : Int} {outcome : Except SystemError Unit} :
    Balanced (lockUse job) permits (setFlowCtl flowCtl outcome) false := by
  intro opened _
  refine Balanced.ite (fun _ => ?_) fun _ => rfl
  intro dcb _
  refine Balanced.ite (fun _ _ _ _ _ _ _ _ _ => rfl) fun _ => ?_
  refine Balanced.ite (fun _ _ _ _ _ _ _ _ _ => rfl) fun _ => ?_
  exact Balanced.ite (fun _ _ _ _ _ _ _ _ _ => rfl) fun _ => rfl

theorem startThreadMonitor_balanced {outcome : Except SystemError Unit} :
    Balanced (lockUse job) permits (startThreadMonitor outcome) false := by
  intro _ _ _ _ _ _
  rfl

theorem configure_balanced {outcome : OpenOutcome} :
    Balanced (lockUse job) permits (configure outcome) false := by
  intro handle _ read _ spp _ cfg _ _ _ spp _
  refine setFlowCtl_balanced.bind fun _ => ?_
  intro handle _ cfg _ accepted _
  refine Balanced.ite (fun _ => ?_) fun _ => rfl
  intro handle _ _ _ spp _
  refine Balanced.ite (fun _ => ?_) fun _ _ _ _ _ => rfl
  intro handle _ _ _ handle _ masked _
  refine Balanced.ite (fun _ => ?_) fun _ => rfl
  intro _ _
  refine startThreadMonitor_balanced.bind fun started => ?_
  exact Balanced.ite (fun _ _ _ _ _ => rfl) fun _ => rfl

theorem openNamed_balanced {outcome : OpenOutcome} :
    Balanced (lockUse job) permits (openNamed outcome) false := by
  intro spp _ spp _ _ _ spp _ opened _
  refine Balanced.ite (fun _ => ?_) fun _ => rfl
  intro handle _ _ _ handle _
  exact Balanced.ite (fun _ => configure_balanced) fun _ _ _ => rfl

theorem open_balanced {outcome : OpenOutcome} :
    Balanced (lockUse job) permits («open» outcome) false := by
  intro isInit _
  refine Balanced.ite (fun _ => rfl) fun _ => openNamed_balanced.bind fun retVal => ?_
  exact Balanced.ite (fun _ => close_balanced.bind fun _ => rfl) fun _ => rfl

theorem destroy_balanced {outcome : CloseOutcome} :
    Balanced (lockUse job) permits (destroy outcome) false := by
  intro opened _
  refine Balanced.ite (fun _ => close_balanced.bind fun _ => ?_) fun _ => rfl
  intro spp _
  refine Balanced.ite (fun _ => ?_) fun _ => rfl
  intro logger _
  exact Balanced.ite (fun _ _ _ => rfl) fun _ => rfl

theorem enterMonitor_balanced : Balanced (lockUse job) permits enterMonitor false := by
  intro handle _
  exact Balanced.ite (fun _ => ⟨rfl, fun _ _ => rfl⟩) fun _ _ _ _ _ => rfl

end Functions

/-! ## The transfers of `read_data` -/

theorem reading_free {job : Job} (effect : Effect) (reading : effect.reading = true) :
    lockUse job effect = .free := by
  cases effect <;> first | rfl | cases reading

section Threads

variable {job : Job} {permits : (effect : Effect) → effect.Reply → Prop}
  {loose : Effect → LockUse} (loosens : Loosens (lockUse job) loose)
  {callback : Code Unit} (silent : callback.Only fun effect => loose effect = .free)
include loosens silent

theorem readMode_free {notify maxSize : Nat} {outcome : ReadOutcome} :
    (readMode callback notify maxSize outcome).Only fun effect => loose effect = .free := by
  have free : ∀ effect, lockUse job effect = .free → loose effect = .free :=
    fun _ used => loosens.same used nofun
  exact readMode_only (fun effect reading => free effect (reading_free effect reading)) silent
    (free _ rfl) (free _ rfl) (fun _ => free _ rfl) (free _ rfl) fun _ => free _ rfl

/-- The callback runs in the critical section of a read. -/
theorem readData_balanced {notify unread : Nat} {outcome : ReadOutcome} :
    Balanced loose permits (readData callback notify unread outcome) false := by
  have marked : ∀ retVal : Int, Balanced (lockUse job) permits
      (do perform (.leave .readData); return retVal) false := fun _ => ⟨rfl, fun _ _ => rfl⟩
  have sized : Balanced (lockUse job) permits (readSize unread) false := by
    intro spp _
    exact Balanced.ite (fun _ _ _ _ _ => rfl) fun _ => rfl
  refine Balanced.bind ?_ fun retVal => (marked retVal).loosen loosens
  refine .act (loosens.same rfl nofun) fun handle => Balanced.ite (fun _ => rfl) fun _ => ?_
  refine (sized.loosen loosens).bind fun maxSize => ?_
  exact .section (loosens.same rfl nofun) (readMode_free loosens silent)
    (loosens.same rfl nofun) fun _ => rfl

theorem handleEvent_balanced {eventMask : BitVec 32} {outcome : MonitorOutcome} :
    Balanced loose permits (handleEvent callback eventMask outcome) false := by
  refine Balanced.ite (fun _ => ?_) fun _ => rfl
  refine .act (loosens.same rfl nofun) fun handle => ?_
  refine .act (loosens.same rfl nofun) fun cbInQue => ?_
  refine .act (loosens.same rfl nofun) fun notify => ?_
  exact Balanced.ite (fun _ => (readData_balanced loosens silent).bind fun _ => rfl) fun _ => rfl

theorem threadRecvDataMonitor_balanced {eventMask : BitVec 32} {outcome : MonitorOutcome} :
    Balanced loose permits (threadRecvDataMonitor callback eventMask outcome) false := by
  have exits : Balanced loose permits
      (do perform .threadExit; return Iteration.exited : Code Iteration) false :=
    Balanced.loosen loosens ⟨rfl, fun _ _ => rfl⟩
  refine (getRecvThreadIsRunning_balanced.loosen loosens).bind fun running => ?_
  refine Balanced.ite (fun _ => exits) fun _ => ?_
  refine .act (loosens.same rfl nofun) fun handle => ?_
  refine .act (loosens.same rfl nofun) fun _ => ?_
  refine .act (loosens.same rfl nofun) fun event => ?_
  refine .act (loosens.same rfl nofun) fun signalled => Balanced.ite (fun _ => ?_) fun _ => rfl
  refine .act (loosens.same rfl nofun) fun handle => ?_
  refine .act (loosens.same rfl nofun) fun confirmed => Balanced.ite (fun _ => exits) fun _ => ?_
  refine (handleEvent_balanced loosens silent).bind fun _ => Balanced.ite (fun _ => ?_) fun _ => rfl
  refine .act (loosens.same rfl nofun) fun handle => ?_
  exact .act (loosens.same rfl nofun) fun _ => rfl

end Threads

/-- An iteration whose callback does nothing with the port. -/
theorem iteration_balanced {job : Job} {permits : (effect : Effect) → effect.Reply → Prop}
    {eventMask : BitVec 32} {outcome : MonitorOutcome} :
    Balanced (lockUse job) permits (threadRecvDataMonitor (pure ()) eventMask outcome) false := by
  have silent : (pure () : Code Unit).Only fun effect => lockUse job effect = .free := trivial
  exact threadRecvDataMonitor_balanced (.refl (lockUse job)) silent

/-! ## Jobs -/

theorem errorUnless_free {job : Job} {done : Bool} :
    (errorUnless done).Only fun effect => lockUse job effect = .free :=
  errorUnless_only rfl

theorem sendOverlapped_balanced {job : Job} {permits : (effect : Effect) → effect.Reply → Prop}
    {data : List UInt8} {outcome : WriteOutcome} :
    Balanced (lockUse job) permits (sendOverlapped data outcome) false := by
  intro _ _ event _ _ _
  refine ⟨rfl, fun _ _ handle _ written _ => ?_⟩
  refine errorUnless_free.balanced_bind fun errorId => ⟨rfl, fun _ _ => ?_⟩
  have awaited : Balanced (lockUse job) permits (awaitWrite written errorId) false :=
    Balanced.ite (fun _ _ _ _ _ => rfl) fun _ => rfl
  refine awaited.bind fun ended => ?_
  exact Balanced.ite (fun _ _ _ => rfl) fun _ => rfl

/-- A `send` that finds the asynchronous mode never takes the branch with two locks. -/
theorem send_balanced {pdata : Option (List UInt8)} {outcome : WriteOutcome} :
    Balanced (lockUse (.operation (.send pdata outcome)))
      (FoundAsync (.operation (.send pdata outcome))) (send pdata outcome) false := by
  apply leaving_balanced
  cases pdata with
  | none => rfl
  | some data =>
      refine Balanced.ite (fun _ => rfl) fun _ => ?_
      intro opened _
      refine Balanced.ite (fun _ => ?_) fun _ => rfl
      intro spp found
      refine Balanced.ite (fun _ => sendOverlapped_balanced) fun notAsync => ?_
      exact absurd (found (some data) outcome rfl).symm notAsync

theorem runOperation_balanced {operation : Operation} :
    Balanced (lockUse (.operation operation)) (FoundAsync (.operation operation))
      (runOperation operation) false := by
  cases operation with
  | init spp precvData => exact init_balanced.bind fun _ => rfl
  | «open» outcome => exact open_balanced.bind fun _ => rfl
  | close outcome => exact close_balanced.bind fun _ => rfl
  | setReadNotify len => exact fun _ _ => rfl
  | isOpened => exact fun _ _ => rfl
  | send pdata outcome => exact send_balanced.bind fun _ => rfl
  | getRecvThreadIsRunning => exact getRecvThreadIsRunning_balanced.bind fun _ => rfl
  | setRecvThreadIsRunning value => exact setRecvThreadIsRunning_balanced.bind fun _ => rfl
  | destroy outcome => exact destroy_balanced.bind fun _ => rfl

theorem runJob_balanced (job : Job) :
    Balanced (lockUse job) (FoundAsync job) (system.body job) false := by
  cases job with
  | operation operation => exact runOperation_balanced.bind fun value => ⟨rfl, fun _ _ => rfl⟩
  | enter => exact enterMonitor_balanced.bind fun _ => rfl
  | iteration eventMask outcome => exact iteration_balanced.bind fun _ => rfl

/-! ## Sends in any mode -/

/-- The second lock of a synchronous `send` waits for ever. -/
theorem sendPlain_orderly {job : Job} {data : List UInt8} {outcome : WriteOutcome} :
    (sendPlain data outcome).Orderly (lockUse job) (fun held => held = false) false := by
  intro _ _ handle written
  have inside : (errorUnless written).Orderly (lockUse job) (fun held => held = true) true :=
    errorUnless_free.orderly rfl
  refine inside.bind fun retVal held owns => ?_
  subst owns
  exact fun free => absurd free.symm Bool.false_ne_true

theorem send_orderly {job : Job} {pdata : Option (List UInt8)} {outcome : WriteOutcome} :
    (send pdata outcome).Orderly (lockUse job) (fun held => held = false) false := by
  refine Prog.Orderly.bind (?_ : Prog.Orderly _ (fun held => held = false) _ _)
    fun value held free _ => free
  cases pdata with
  | none => rfl
  | some data =>
      refine Prog.Orderly.ite (fun _ => rfl) fun _ opened => ?_
      refine Prog.Orderly.ite (fun _ spp => ?_) fun _ => rfl
      exact Prog.Orderly.ite (fun _ => sendOverlapped_balanced.orderly) fun _ => sendPlain_orderly

theorem runJob_orderly (job : Job) (held : Bool) (outside : held = false) :
    (system.body job).Orderly (lockUse job) (fun held => held = false) held := by
  subst outside
  cases job with
  | enter => exact enterMonitor_balanced.orderly.bind fun _ _ free => free
  | iteration eventMask outcome =>
      exact iteration_balanced.orderly.bind fun _ _ free => free
  | operation operation =>
      have tidy : Balanced (lockUse (.operation operation)) (fun _ _ => True)
          (runOperation operation) false → (runOperation operation).Orderly
            (lockUse (.operation operation)) (fun held => held = false) false :=
        fun balanced => balanced.orderly
      refine Prog.Orderly.bind (?_ : Prog.Orderly _ (fun held => held = false) _ _)
        fun value held free _ => free
      cases operation with
      | init spp precvData => exact tidy (init_balanced.bind fun _ => rfl)
      | «open» outcome => exact tidy (open_balanced.bind fun _ => rfl)
      | close outcome => exact tidy (close_balanced.bind fun _ => rfl)
      | setReadNotify len => exact tidy fun _ _ => rfl
      | isOpened => exact tidy fun _ _ => rfl
      | send pdata outcome => exact send_orderly.bind fun _ _ free => free
      | getRecvThreadIsRunning => exact tidy (getRecvThreadIsRunning_balanced.bind fun _ => rfl)
      | setRecvThreadIsRunning value =>
          exact tidy (setRecvThreadIsRunning_balanced.bind fun _ => rfl)
      | destroy outcome => exact tidy (destroy_balanced.bind fun _ => rfl)

/-! ## Runs -/

theorem mutexRecv_disciplined {config : Config Tid State Effect Effect.Reply Job Result}
    (reachable : system.Reachable sendsAsync config) (thread : Tid) :
    Disciplined State.mutexRecv lockUse FoundAsync thread config.state (config.calls thread) :=
  mutexRecv_mutex.sound foundAsync_of_sendsAsync runJob_balanced reachable thread

/-- In every run whose sends find the asynchronous mode: a thread that is about to
lock the mutex does not own it, nor does one that leaves a marked function, nor
one whose job has returned. -/
theorem mutexRecv_returned (config : Config Tid State Effect Effect.Reply Job Result)
    (reachable : system.Reachable sendsAsync config) (thread : Tid)
    (call : Call State Effect Effect.Reply Job Result)
    (calls : config.calls thread = some call) :
    (call.Next .lock → config.state.mutexRecv ≠ some thread) ∧
    (∀ function, call.Next (.leave function) → config.state.mutexRecv ≠ some thread) ∧
    (∀ value, call.Returned value → config.state.mutexRecv ≠ some thread) := by
  have disciplined := mutexRecv_disciplined reachable thread
  rw [calls] at disciplined
  refine ⟨fun standing => ?_, fun function standing => ?_, fun value returned => ?_⟩
  · exact disciplined.next standing (.inl rfl)
  · exact disciplined.next standing (.inr rfl)
  · exact disciplined.returned returned

def sendingRun : List (Label Tid Job Event) :=
  Label.burst (.client 0) (.operation (.init eightNone none)) 4 ++
    Label.burst (.client 0) (.operation (.open .fine)) 36 ++
    Label.burst (.client 1) (.operation (.send (some [0x55]) (.now 1))) 9

theorem mutexRecv_returned_sending :
    ∃ config call, system.steps sendsAsync system.initial sendingRun = some config ∧
      config.calls (.client 1) = some call ∧ call.Next (.leave .send) ∧
      config.state.mutexRecv ≠ some (.client 1) := by
  have ran : ∃ config call, system.steps sendsAsync system.initial sendingRun = some config ∧
      config.calls (.client 1) = some call ∧ call.Next (.leave .send) :=
    ⟨_, _, rfl, rfl, _, rfl⟩
  obtain ⟨config, call, steps, calls, standing⟩ := ran
  exact ⟨config, call, steps, calls, standing,
    (mutexRecv_returned config (.of_steps .start steps) (.client 1) call calls).2.1 _ standing⟩

def plainRun : List (Label Tid Job Event) :=
  Label.burst (.client 0) (.operation (.init { eightNone with opMode := modeSync } none)) 4 ++
    Label.burst (.client 0) (.operation (.open .fine)) 30 ++
    Label.burst (.client 0) (.operation (.send (some [0x55]) (.now 1))) 5

/-- A `send` in the synchronous mode is about to lock the mutex that it owns. -/
theorem send_plain_locks_twice :
    ∃ config call, system.Reachable .always config ∧ config.calls (.client 0) = some call ∧
      call.job = .operation (.send (some [0x55]) (.now 1)) ∧ call.Next .lock ∧
      config.state.mutexRecv = some (.client 0) := by
  have ran : ∃ config call, system.steps .always system.initial plainRun = some config ∧
      config.calls (.client 0) = some call ∧
      call.job = .operation (.send (some [0x55]) (.now 1)) ∧ call.Next .lock ∧
      config.state.mutexRecv = some (.client 0) := ⟨_, _, rfl, rfl, rfl, ⟨_, rfl⟩, rfl⟩
  obtain ⟨config, call, steps, calls, job, standing, owned⟩ := ran
  exact ⟨config, call, .of_steps .start steps, calls, job, standing, owned⟩

end LibSp.Windows
