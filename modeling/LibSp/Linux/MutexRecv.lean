import LibSp.Linux.Members
import LibSp.Concurrent.Mutex

/-!
# The mutex of the Linux port

`_mutex_recv` is taken by `send` and by the receive loop. Both give it back on
every path but one: `send` on a closed port. In the runs that avoid this path
the owner of the mutex is always between its `lock` and its `unlock`.
-/

set_option autoImplicit false

namespace LibSp.Linux

open Concurrent

def Job.locks : Job → Bool
  | .operation (.send ..) | .iteration .. => true
  | .operation _ => false

/-- A client's return and the end of a receive thread are to happen without the mutex. -/
def lockUse (job : Job) : Effect → LockUse
  | .lock => if job.locks then .acquires else .forbidden
  | .unlock => .releases
  | .returned .. | .pthreadExit => .outside
  | _ => .free

/-- No `send` with data to write tests `is_opened` while the port is closed. -/
def sendsWhenOpen : Condition Tid State Effect Job where
  begins _ _ _ := true
  acts _ job effect s :=
    match job, effect with
    | .operation (.send ..), .isOpened => s.port.param.isOpened
    | _, _ => true

/-- What `sendsWhenOpen` says of the replies. -/
def FoundOpen (job : Job) : (effect : Effect) → effect.Reply → Prop
  | .isOpened, reply => ∀ pdata outcome, job = .operation (.send pdata outcome) → reply = true
  | _, _ => True

theorem foundOpen_of_sendsWhenOpen {thread : Tid} {job : Job} {effect : Effect} {s after : State}
    {reply : effect.Reply} (allowed : sendsWhenOpen.acts thread job effect s = true)
    (executed : exec thread effect s = some (reply, after)) : FoundOpen job effect reply := by
  cases effect <;> try trivial
  intro pdata outcome same
  subst same
  cases executed
  exact allowed

theorem mutexRecv_mutex (libc : SpeedSetters) :
    Mutex (system libc) State.mutexRecv lockUse where
  start := rfl
  acquires := by
    intro thread job effect s reply after used executed
    cases effect with
    | lock =>
        simp only [system, exec] at executed
        split at executed
        · next free =>
            cases executed
            exact ⟨free, rfl⟩
        · cases executed
    | _ => simp [lockUse] at used
  releases := by
    intro thread job effect s reply after used executed
    cases effect with
    | unlock =>
        cases executed
        rfl
    | lock =>
        simp only [lockUse] at used
        split at used <;> cases used
    | _ => simp [lockUse] at used
  keeps := by
    intro thread job effect s reply after used executed
    have kept : after.mutexRecv = (effect.update thread s.members).mutexRecv :=
      congrArg Members.mutexRecv (exec_members executed)
    cases effect with
    | lock =>
        simp only [lockUse] at used
        split at used <;> simp at used
    | unlock => simp [lockUse] at used
    | pthreadCreate outcome => cases outcome <;> exact kept
    | _ => exact kept
  external := by
    intro event s after changed
    cases changed
    rfl

section

variable {job : Job} {permits : (effect : Effect) → effect.Reply → Prop}

theorem stopThreadRecv_balanced : Balanced (lockUse job) permits stopThreadRecv false := by
  intro _ _ _ _ _ _ _ _
  rfl

theorem close_balanced : Balanced (lockUse job) permits close false := by
  intro opened _
  cases opened with
  | false => rfl
  | true => exact stopThreadRecv_balanced.bind fun _ _ _ _ _ _ _ => rfl

theorem setPortParams_balanced {libc : SpeedSetters} {outcome : OpenOutcome} :
    Balanced (lockUse job) permits (setPortParams libc outcome) false := by
  intro fd _ prior _
  cases prior with
  | none => rfl
  | some options =>
      intro spp _ fd _ _ _ fd _ retVal _
      exact Balanced.ite (fun _ => rfl) fun _ => rfl

theorem open_balanced {libc : SpeedSetters} {outcome : OpenOutcome} :
    Balanced (lockUse job) permits («open» libc outcome) false := by
  intro opened _
  cases opened with
  | true => rfl
  | false =>
      intro spp _ fd _ _ _ fd _
      refine Balanced.ite (fun _ _ _ => rfl) fun _ => ?_
      intro _ _ unblocked _
      refine Balanced.ite (fun _ _ _ => close_balanced.bind fun _ => rfl) fun _ => ?_
      refine setPortParams_balanced.bind fun configured => ?_
      refine Balanced.ite (fun _ _ _ => close_balanced.bind fun _ => rfl) fun _ => ?_
      intro receiver _
      refine Balanced.ite (fun _ _ _ ret _ => ?_) fun _ => rfl
      refine Balanced.ite (fun _ _ _ => rfl) fun _ => rfl

theorem init_balanced {spp : SpProp} {precvData : Option IrecvData} :
    Balanced (lockUse job) permits (init spp precvData) false := by
  refine Balanced.ite (fun _ => rfl) fun _ => ?_
  intro _ _
  exact Balanced.ite (fun _ _ _ => rfl) fun _ => rfl

theorem setReadNotify_balanced {len : Nat} :
    Balanced (lockUse job) permits (setReadNotify len) false :=
  Balanced.ite (fun _ _ _ => rfl) fun _ _ _ => rfl

theorem destroy_balanced : Balanced (lockUse job) permits destroy false := by
  intro opened _
  cases opened with
  | false => rfl
  | true => exact close_balanced.bind fun _ => rfl

end

/-- Between `lock` and `unlock` the receive loop has no way out, and its callback is to
leave the mutex alone. -/
theorem threadRecvDataMonitor_balanced {callback : Code Unit} {hasReadBytes : Int}
    {outcome : RecvOutcome} {permits : (effect : Effect) → effect.Reply → Prop}
    (free : callback.Only fun effect =>
      lockUse (.iteration hasReadBytes outcome) effect = .free) :
    Balanced (lockUse (.iteration hasReadBytes outcome)) permits
      (threadRecvDataMonitor callback hasReadBytes outcome) false := by
  intro running _
  cases running with
  | false => exact ⟨rfl, fun _ _ => rfl⟩
  | true =>
      intro fd _ queried _
      refine Balanced.ite (fun _ => rfl) fun _ => ?_
      intro notify _
      refine Balanced.ite (fun _ => ?_) fun _ => rfl
      refine ⟨rfl, fun _ _ opened _ => ?_⟩
      cases opened with
      | false => exact ⟨rfl, fun _ _ => rfl⟩
      | true =>
          intro fd _ buffer _
          cases buffer with
          | none => exact ⟨rfl, fun _ _ => rfl⟩
          | some bufRead =>
              refine Balanced.ite (fun _ receiver _ => ?_) fun _ => ⟨rfl, fun _ _ => rfl⟩
              cases receiver with
              | none => exact ⟨rfl, fun _ _ => rfl⟩
              | some receiver =>
                  exact fun _ _ => free.balanced_bind fun _ => ⟨rfl, fun _ _ => rfl⟩

theorem send_balanced {pdata : Option (List UInt8)} {outcome : Except Errno Nat} :
    Balanced (lockUse (.operation (.send pdata outcome)))
      (FoundOpen (.operation (.send pdata outcome))) (send pdata outcome) false := by
  cases pdata with
  | none => rfl
  | some data =>
      refine Balanced.ite (fun _ => rfl) fun _ => ?_
      refine ⟨rfl, fun _ _ opened found => ?_⟩
      cases opened with
      | false => exact absurd (found (some data) outcome rfl) (by simp)
      | true => exact fun _ _ _ _ => ⟨rfl, fun _ _ => rfl⟩

theorem runOperation_balanced {libc : SpeedSetters} {operation : Operation} :
    Balanced (lockUse (.operation operation)) (FoundOpen (.operation operation))
      (runOperation libc operation) false := by
  cases operation with
  | init spp precvData => exact init_balanced.bind fun _ => rfl
  | «open» outcome => exact open_balanced.bind fun _ => rfl
  | close => exact close_balanced.bind fun _ => rfl
  | setReadNotify len => exact setReadNotify_balanced.bind fun _ => rfl
  | isOpened => exact fun _ _ => rfl
  | send pdata outcome => exact send_balanced.bind fun _ => rfl
  | destroy => exact destroy_balanced.bind fun _ => rfl

theorem runJob_balanced {libc : SpeedSetters} (job : Job) :
    Balanced (lockUse job) (FoundOpen job) ((system libc).body job) false := by
  cases job with
  | operation operation =>
      exact runOperation_balanced.bind fun value => ⟨rfl, fun _ _ => rfl⟩
  | iteration hasReadBytes outcome =>
      have silent : (pure () : Code Unit).Only fun effect =>
        lockUse (.iteration hasReadBytes outcome) effect = .free := trivial
      exact (threadRecvDataMonitor_balanced silent).bind fun _ => rfl

/-! ## Every run that sends on open ports only -/

section

variable {libc : SpeedSetters} {config : Config Tid State Effect Effect.Reply Job Result}

theorem mutexRecv_disciplined (reachable : (system libc).Reachable sendsWhenOpen config)
    (thread : Tid) :
    Disciplined State.mutexRecv lockUse FoundOpen thread config.state (config.calls thread) :=
  (mutexRecv_mutex libc).sound foundOpen_of_sendsWhenOpen runJob_balanced reachable thread

theorem locks_of_inSection {job : Job} {past : List Effect}
    (inside : inSection (lockUse job) past = true) : job.locks = true := by
  induction past with
  | nil => cases inside
  | cons effect past pastIH =>
      cases locking : job.locks with
      | true => rfl
      | false =>
          cases effect <;> simp [inSection, lockUse, locking] at inside <;>
            exact locking ▸ pastIH inside

end

/-- Whatever has returned does not own the mutex, and the owner is a `send` or an
iteration of the receive loop between its `lock` and its `unlock`. -/
theorem mutexRecv_given_back (libc : SpeedSetters)
    (config : Config Tid State Effect Effect.Reply Job Result)
    (reachable : (system libc).Reachable sendsWhenOpen config) (thread : Tid) :
    (∀ call value, config.calls thread = some call → call.Returned value →
      config.state.mutexRecv ≠ some thread) ∧
    (config.state.mutexRecv = some thread → ∃ call, config.calls thread = some call ∧
      call.job.locks = true ∧ inSection (lockUse call.job) call.past = true ∧
      ∀ value, ¬ call.Returned value) := by
  have disciplined := mutexRecv_disciplined reachable thread
  constructor
  · intro call value calls returned
    rw [calls] at disciplined
    exact disciplined.returned returned
  · intro owns
    obtain ⟨call, calls, inside, busy⟩ := disciplined.owner_inSection owns
    exact ⟨call, calls, locks_of_inSection inside, inside, busy⟩

def sendingRun : List (Label Tid Job (List UInt8)) :=
  Label.burst (.client 0) (.operation (.init eightNone none)) 2 ++
    Label.burst (.client 0) (.operation (.open (.fine 3))) 16 ++
    Label.burst (.client 1) (.operation (.send (some [0x55]) (.ok 1))) 2

theorem mutexRecv_given_back_sending :
    ∃ config, (system glibc).steps sendsWhenOpen (system glibc).initial sendingRun = some config ∧
      config.state.mutexRecv = some (.client 1) ∧
      ∃ call, config.calls (.client 1) = some call ∧ call.job.locks = true ∧
        inSection (lockUse call.job) call.past = true ∧ ∀ value, ¬ call.Returned value := by
  have ran : ∃ config,
      (system glibc).steps sendsWhenOpen (system glibc).initial sendingRun = some config ∧
      config.state.mutexRecv = some (.client 1) := ⟨_, rfl, rfl⟩
  obtain ⟨config, steps, owns⟩ := ran
  exact ⟨config, steps, owns,
    (mutexRecv_given_back glibc config (.of_steps .start steps) (.client 1)).2 owns⟩

/-- A `send` on a port that was never opened returns -2 and keeps the mutex. -/
theorem send_closed_keeps_mutexRecv :
    ∃ config, (system glibc).Reachable .always config ∧
      config.state.mutexRecv = some (.client 0) ∧
      ∃ call, config.calls (.client 0) = some call ∧ call.Returned (.value (.code (-2))) := by
  have ran : ∃ config, (system glibc).steps .always (system glibc).initial
      (Label.burst (.client 0) (.operation (.send (some [0x55]) (.ok 1))) 3) = some config ∧
      config.state.mutexRecv = some (.client 0) ∧
      ∃ call, config.calls (.client 0) = some call ∧ call.Returned (.value (.code (-2))) :=
    ⟨_, rfl, rfl, _, rfl, rfl⟩
  obtain ⟨config, steps, owned, returned⟩ := ran
  exact ⟨config, .of_steps .start steps, owned, returned⟩

end LibSp.Linux
