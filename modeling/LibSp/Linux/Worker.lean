import LibSp.Linux.Client

/-!
# The receive thread

One iteration of `thread_recv_data_monitor` under interference by the client. As
long as the thread is not joined, its descriptor stays open and its input queue
only grows.
-/

set_option autoImplicit false

namespace LibSp.Linux

open Concurrent

section

variable {libc : SpeedSetters} {condition : Condition Tid State Effect Job} {exact strict : Prop}
  {job : Job} {number : Nat} {α : Type} {post : α → State → Prop}

abbrev WorkerSafe (libc : SpeedSetters) (condition : Condition Tid State Effect Job)
    (exact strict : Prop) (number : Nat) (job : Job) (program : Code α) (post : α → State → Prop)
    (s : State) : Prop :=
  Safe (system libc) condition (rules exact strict) (.worker number) job program post s

/-- What the thread knows before it reads: it runs, it has passed on what it took. -/
structure Waiting (number : Nat) (s : State) : Prop where
  alive : number ∈ s.receivers
  passed_on : PassedOn s

theorem Waiting.stable {s after : State} (waiting : Waiting number s)
    (relied : WorkerRely number s after) : Waiting number after where
  alive := relied.alive waiting.alive
  passed_on := by
    obtain ⟨consumed, delivered⟩ := relied.stream waiting.alive
    rw [PassedOn, consumed, delivered]
    exact waiting.passed_on

/-- The thread has loaded its descriptor, and so many bytes are in its queue. -/
structure Queried (number : Nat) (fd : Int) (count : Nat) (s : State) : Prop where
  waiting : Waiting number s
  current : s.port.param.fd = fd
  queued : count ≤ s.pending.length

theorem Queried.stable {fd : Int} {count : Nat} {s after : State}
    (queried : Queried number fd count s) (relied : WorkerRely number s after) :
    Queried number fd count after where
  waiting := queried.waiting.stable relied
  current := (relied.descriptor queried.waiting.alive).trans queried.current
  queued := Nat.le_trans queried.queued (relied.queue queried.waiting.alive).length_le

/-- The thread has read this chunk and not passed it on yet. -/
structure Carrying (number : Nat) (chunk : List UInt8) (s : State) : Prop where
  alive : number ∈ s.receivers
  holding : Holding s chunk

theorem Carrying.stable {chunk : List UInt8} {s after : State}
    (carrying : Carrying number chunk s) (relied : WorkerRely number s after) :
    Carrying number chunk after where
  alive := relied.alive carrying.alive
  holding := by
    obtain ⟨consumed, delivered⟩ := relied.stream carrying.alive
    rw [Holding, consumed, delivered]
    exact carrying.holding

theorem others_rely {s after : State} (inv : Inv exact strict s) (alive : number ∈ s.receivers)
    (port : after.port = s.port) (ending : ∀ other ∈ after.receivers, other ∈ s.receivers)
    (other : Tid) (different : other ≠ .worker number) : Rely other s after := by
  match other with
  | .client 0 => exact port
  | .client (_ + 1) => trivial
  | .worker second =>
      have dead : second ∉ s.receivers := by
        intro running
        exact different (by rw [inv.receivers_unique running alive])
      exact .of_dead dead fun running => dead (ending second running)

variable {effect : Effect} {next : effect.Reply → Code α} {s : State}

/-- One effect of a receive thread, from what it knows in a form that no other
thread can invalidate. -/
theorem worker_act {known : State → Prop}
    (stable : ∀ {s after}, known s → WorkerRely number s after → known after) (knows : known s)
    (alive : ∀ {s}, known s → number ∈ s.receivers)
    (continued : ∀ now, known now → Inv exact strict now → WorkerPoint exact now effect ∧
      ∀ reply after, exec (.worker number) effect now = some (reply, after) →
        Inv exact strict after ∧ after.port = now.port ∧
        (∀ other ∈ after.receivers, other ∈ now.receivers) ∧
        WorkerSafe libc condition exact strict number job (next reply) post after) :
    WorkerSafe libc condition exact strict number job (.act effect next) post s := by
  intro now relied inv
  have knowsNow := stable knows relied
  obtain ⟨pointed, executes⟩ := continued now knowsNow inv
  refine ⟨⟨alive knowsNow, pointed⟩, fun reply after _ executed => ?_⟩
  obtain ⟨invAfter, port, ending, rest⟩ := executes reply after executed
  exact ⟨invAfter, others_rely inv (alive knowsNow) port ending, rest⟩

theorem mutexRecv_unseen {mutexRecv : Option Tid} (inv : Inv exact strict s) :
    Inv exact strict { s with mutexRecv := mutexRecv } ∧
      WorkerRely number s { s with mutexRecv := mutexRecv } :=
  ⟨{ inv with }, { WorkerRely.refl (s := s) with }⟩

end

section Steps

variable {libc : SpeedSetters} {condition : Condition Tid State Effect Job} {exact strict : Prop}
  {job : Job} {number : Nat} {α : Type} {post : α → State → Prop} {s : State}
  {known : State → Prop}

theorem worker_load {field : Field} {next : field.Val → Code α}
    (stable : ∀ {s after}, known s → WorkerRely number s after → known after) (knows : known s)
    (waiting : ∀ {s}, known s → Waiting number s) (notReceiver : field ≠ .precvData)
    (continued : ∀ now, known now → Inv exact strict now →
      WorkerSafe libc condition exact strict number job (next (now.port.param.get field)) post now) :
    WorkerSafe libc condition exact strict number job (.act (.load field) next) post s := by
  refine worker_act stable knows (fun knows => (waiting knows).alive) fun now knows inv => ⟨?_, ?_⟩
  · have passedOn := (waiting knows).passed_on
    cases field <;> first | exact passedOn | exact absurd rfl notReceiver
  · intro reply after executed
    cases executed
    exact ⟨inv, rfl, fun _ alive => alive, continued now knows inv⟩

theorem worker_isOpened {next : Bool → Code α}
    (stable : ∀ {s after}, known s → WorkerRely number s after → known after) (knows : known s)
    (waiting : ∀ {s}, known s → Waiting number s)
    (continued : ∀ now, known now →
      WorkerSafe libc condition exact strict number job (next true) post now) :
    WorkerSafe libc condition exact strict number job (.act .isOpened next) post s := by
  refine worker_act stable knows (fun knows => (waiting knows).alive) fun now knows inv => ⟨?_, ?_⟩
  · exact (waiting knows).passed_on
  · intro reply after executed
    cases executed
    rw [inv.isOpened_of_alive (waiting knows).alive]
    exact ⟨inv, rfl, fun _ alive => alive, continued now knows⟩

theorem worker_lock {next : Unit → Code α}
    (stable : ∀ {s after}, known s → WorkerRely number s after → known after) (knows : known s)
    (waiting : ∀ {s}, known s → Waiting number s)
    (continued : ∀ now, known now →
      WorkerSafe libc condition exact strict number job (next ()) post now) :
    WorkerSafe libc condition exact strict number job (.act .lock next) post s := by
  refine worker_act stable knows (fun knows => (waiting knows).alive) fun now knows inv => ⟨?_, ?_⟩
  · exact (waiting knows).passed_on
  · intro reply after executed
    simp only [exec] at executed
    split at executed <;> cases executed
    obtain ⟨invAfter, relied⟩ := mutexRecv_unseen inv
    exact ⟨invAfter, rfl, fun _ alive => alive, continued _ (stable knows relied)⟩

theorem worker_unlock {next : Unit → Code α} (waiting : Waiting number s)
    (continued : ∀ now, Waiting number now →
      WorkerSafe libc condition exact strict number job (next ()) post now) :
    WorkerSafe libc condition exact strict number job (.act .unlock next) post s := by
  refine worker_act Waiting.stable waiting Waiting.alive fun now waiting inv =>
    ⟨waiting.passed_on, fun reply after executed => ?_⟩
  cases executed
  obtain ⟨invAfter, relied⟩ := mutexRecv_unseen inv
  exact ⟨invAfter, rfl, fun _ alive => alive, continued _ (waiting.stable relied)⟩

/-- The query leaves a count that is not negative and, if it succeeds, not above
what the queue holds from now on. -/
theorem worker_ioctl {fd hasReadBytes : Int} {succeeds : Bool} {next : Option Int → Code α}
    (queried : Queried number fd 0 s) (carried : 0 ≤ hasReadBytes)
    (continued : ∀ now (reply : Option Int) (count : Nat), reply.getD hasReadBytes = count →
      Queried number fd (if succeeds then count else 0) now →
      WorkerSafe libc condition exact strict number job (next reply) post now) :
    WorkerSafe libc condition exact strict number job (.act (.ioctl fd succeeds) next) post s := by
  refine worker_act Queried.stable queried (fun queried => queried.waiting.alive)
    fun now queried inv => ?_
  have unjoined := inv.receivers_unjoined number queried.waiting.alive
  have descriptor : fd ∈ now.port.fds := queried.current ▸ (inv.unjoined_current number unjoined).2.1
  refine ⟨⟨queried.waiting.passed_on, queried.current.symm, descriptor⟩,
    fun reply after executed => ?_⟩
  cases succeeds with
  | true =>
      simp only [exec, descriptor, and_self, ↓reduceIte] at executed
      cases executed
      exact ⟨inv, rfl, fun _ alive => alive,
        continued now _ now.pending.length rfl ⟨queried.waiting, queried.current, Nat.le_refl _⟩⟩
  | false =>
      simp only [exec, Bool.false_eq_true, false_and, ↓reduceIte] at executed
      cases executed
      refine ⟨inv, rfl, fun _ alive => alive, continued now none hasReadBytes.toNat ?_ queried⟩
      simp only [Option.getD_none]
      omega

theorem worker_read {fd : Int} {count queued : Nat} {succeeds : Bool}
    {next : Option (List UInt8) → Code α} (queried : Queried number fd queued s)
    (small : count ≤ lenBuf1024) (answered : exact → count ≤ queued)
    (failed : ∀ now, Waiting number now →
      WorkerSafe libc condition exact strict number job (next none) post now)
    (taken : ∀ now chunk, Carrying number chunk now → chunk.length ≤ count →
      (exact → chunk.length = count) →
      WorkerSafe libc condition exact strict number job (next (some chunk)) post now) :
    WorkerSafe libc condition exact strict number job (.act (.read fd count succeeds) next) post
      s := by
  refine worker_act Queried.stable queried (fun queried => queried.waiting.alive)
    fun now queried inv => ?_
  have alive := queried.waiting.alive
  have passedOn : now.consumed = deliveredBytes now.delivered := queried.waiting.passed_on
  have descriptor : fd ∈ now.port.fds :=
    queried.current ▸ (inv.unjoined_current number (inv.receivers_unjoined number alive)).2.1
  have enough : exact → count ≤ now.pending.length :=
    fun exactly => Nat.le_trans (answered exactly) queried.queued
  refine ⟨⟨passedOn, queried.current.symm, descriptor, small, enough⟩,
    fun reply after executed => ?_⟩
  simp only [exec] at executed
  split at executed
  · split at executed <;> cases executed
    refine ⟨{ inv with passed_on := fun none => ?_ }, rfl, fun _ alive => alive,
      taken _ _ ⟨alive, ?_⟩ (List.length_take_le _ _) fun exactly => ?_⟩
    · have dead : now.receivers = [] := none
      simp [dead] at alive
    · simp only [Holding, passedOn]
    · simp [Nat.min_eq_left (enough exactly)]
  · cases executed
    exact ⟨inv, rfl, fun _ alive => alive, failed now queried.waiting⟩

/-- A receive thread exists only while a receiver is registered. -/
theorem worker_receiver {chunk : List UInt8} {next : Option IrecvData → Code α}
    (carrying : Carrying number chunk s)
    (continued : ∀ now receiver, Carrying number chunk now →
      WorkerSafe libc condition exact strict number job (next (some receiver)) post now) :
    WorkerSafe libc condition exact strict number job (.act (.load .precvData) next) post s := by
  refine worker_act Carrying.stable carrying Carrying.alive fun now carrying inv =>
    ⟨⟨chunk, carrying.holding⟩, fun reply after executed => ?_⟩
  cases executed
  have unjoined := inv.receivers_unjoined number carrying.alive
  obtain ⟨receiver, registered⟩ :=
    Option.isSome_iff_exists.mp (inv.unjoined_current number unjoined).2.2
  refine ⟨inv, rfl, fun _ alive => alive, ?_⟩
  have loaded : now.port.param.get .precvData = some receiver := registered
  rw [loaded]
  exact continued now receiver carrying

theorem worker_onRecvData {receiver : IrecvData} {chunk : List UInt8} {notify : Nat}
    {next : Unit → Code α} (carrying : Carrying number chunk s)
    (fits : Fits exact ⟨receiver, chunk, notify⟩)
    (continued : ∀ now, Waiting number now →
      WorkerSafe libc condition exact strict number job (next ()) post now) :
    WorkerSafe libc condition exact strict number job (.act (.onRecvData receiver chunk notify) next)
      post s := by
  refine worker_act Carrying.stable carrying Carrying.alive fun now carrying inv =>
    ⟨⟨carrying.holding, fits⟩, fun reply after executed => ?_⟩
  cases executed
  have passedOn : now.consumed = deliveredBytes (now.delivered ++ [⟨receiver, chunk, notify⟩]) := by
    rw [deliveredBytes_append]
    exact carrying.holding
  refine ⟨{ inv with passed_on := fun _ => passedOn, chunks := ?_ }, rfl, fun _ alive => alive,
    continued _ ⟨carrying.alive, passedOn⟩⟩
  intro delivery member
  rcases List.mem_append.mp member with before | last
  · exact inv.chunks delivery before
  · rw [List.mem_singleton.mp last]
    exact fits

theorem worker_pthreadExit {next : Unit → Code α} (waiting : Waiting number s)
    (stopped : s.port.param.threadRecvIsRunning = false)
    (continued : ∀ now, number ∉ now.receivers →
      WorkerSafe libc condition exact strict number job (next ()) post now) :
    WorkerSafe libc condition exact strict number job (.act .pthreadExit next) post s := by
  have stable : ∀ {s after},
      Waiting number s ∧ s.port.param.threadRecvIsRunning = false → WorkerRely number s after →
      Waiting number after ∧ after.port.param.threadRecvIsRunning = false := by
    intro s after known relied
    exact ⟨known.1.stable relied, relied.stopped known.1.alive known.2⟩
  refine worker_act stable ⟨waiting, stopped⟩ (fun known => known.1.alive) fun now known inv =>
    ⟨known.1.passed_on, fun reply after executed => ?_⟩
  cases executed
  have ending : ∀ other ∈ now.receivers.erase number, other ∈ now.receivers :=
    fun other member => List.mem_of_mem_erase member
  refine ⟨{ inv with
    receivers_unjoined := fun other member => inv.receivers_unjoined other (ending other member)
    receivers_nodup := inv.receivers_nodup.erase number
    running_alive := fun running => ?_
    passed_on := fun _ => known.1.passed_on }, rfl, ending, continued _ ?_⟩
  · have stopped : now.port.param.threadRecvIsRunning = true := running
    rw [known.2] at stopped
    cases stopped
  · exact inv.receivers_nodup.not_mem_erase

end Steps

/-! ## The iteration -/

def IterationDone (number : Nat) (iteration : Iteration) (s : State) : Prop :=
  (number ∈ s.receivers → PassedOn s) ∧ Carries (some (.iteration iteration))

theorem toSize_natCast {count : Nat} (small : count ≤ lenBuf1024) : toSize count = count := by
  have bound : count ≤ 1024 := small
  simp only [toSize]
  omega

theorem toUnsigned_natCast {count : Nat} (small : count ≤ lenBuf1024) :
    toUnsigned count = count := by
  have bound : count ≤ 1024 := small
  simp only [toUnsigned]
  omega

section Iteration

variable {libc : SpeedSetters} {condition : Condition Tid State Effect Job} {exact strict : Prop}
  {job : Job} {number : Nat} {s : State}

theorem worker_next {hasReadBytes : Int} {count : Nat} (waiting : Waiting number s)
    (counted : hasReadBytes = count) :
    WorkerSafe libc condition exact strict number job
      (.ret (.next hasReadBytes) : Code Iteration) (IterationDone number) s := by
  intro now relied _
  refine ⟨fun _ => (waiting.stable relied).passed_on, fun carried same => ?_⟩
  cases same
  omega

theorem threadRecvDataMonitor_safe {hasReadBytes : Int} {outcome : RecvOutcome}
    (waiting : Waiting number s) (carried : 0 ≤ hasReadBytes)
    (exactly : exact → outcome.fionread = true) :
    WorkerSafe libc condition exact strict number job
      (threadRecvDataMonitor (pure ()) hasReadBytes outcome) (IterationDone number) s := by
  refine worker_load Waiting.stable waiting id (by simp) fun now waiting _ => ?_
  refine Safe.ite (fun stopped => ?_) fun _ => ?_
  · refine worker_pthreadExit waiting (by simpa [SpParamLinux.get] using stopped) fun now dead => ?_
    exact fun later relied _ => ⟨fun alive => relied.fresh dead alive, fun _ same => by cases same⟩
  refine worker_load Waiting.stable waiting id (by simp) fun now waiting _ => ?_
  refine worker_ioctl ⟨waiting, rfl, Nat.zero_le _⟩ carried fun now reply count counted queried => ?_
  refine Safe.ite (fun _ => worker_next queried.waiting counted) fun short => ?_
  have small : count ≤ lenBuf1024 := by
    rw [counted] at short
    omega
  refine worker_load Queried.stable queried Queried.waiting (by simp) fun now queried _ => ?_
  refine Safe.ite (fun notified => ?_) fun _ => worker_next queried.waiting counted
  rw [counted, toUnsigned_natCast small] at notified
  refine worker_lock Queried.stable queried Queried.waiting fun later queried => ?_
  refine worker_isOpened Queried.stable queried Queried.waiting fun later queried => ?_
  refine worker_load Queried.stable queried Queried.waiting (by simp) fun later queried _ => ?_
  have loaded : later.port.param.get .fd = _ := queried.current
  rw [loaded]
  refine worker_read queried ?_ ?_ (fun now waiting => ?_) fun now chunk carrying short full => ?_
  · rw [counted, toSize_natCast small]
    exact small
  · intro exactness
    rw [counted, toSize_natCast small, exactly exactness]
    exact Nat.le_refl _
  · exact worker_unlock waiting fun now waiting => worker_next waiting counted
  rw [counted, toSize_natCast small] at short full
  refine Safe.ite (fun nonempty => ?_) fun empty => ?_
  · refine worker_receiver carrying fun now receiver carrying => ?_
    refine worker_onRecvData carrying ⟨nonempty, Nat.le_trans short small, fun exactness => ?_⟩
      fun now waiting => ?_
    · rw [full exactness]
      exact notified
    · exact worker_unlock waiting fun now waiting => worker_next waiting counted
  · have none : chunk = [] := List.length_eq_zero_iff.mp (by omega)
    have waiting : Waiting number now := ⟨carrying.alive, by
      have holding := carrying.holding
      rw [Holding, none, List.append_nil] at holding
      exact holding⟩
    exact worker_unlock waiting fun now waiting => worker_next waiting counted

theorem iteration_safe {hasReadBytes : Int} {outcome : RecvOutcome} {entry : State}
    (inv : Inv exact strict s) (waiting : Waiting number s) (carried : 0 ≤ hasReadBytes)
    (exactly : exact → outcome.fionread = true) :
    WorkerSafe libc condition exact strict number (.iteration hasReadBytes outcome)
      (runJob libc (.iteration hasReadBytes outcome))
      ((rules exact strict).post (.worker number) (.iteration hasReadBytes outcome) entry) s := by
  refine Safe.bind (rely_refl (.worker number)) inv
    ((threadRecvDataMonitor_safe waiting carried exactly).mono ?_)
  intro iteration now inv done later relied _
  refine ⟨fun alive => ?_, done.2⟩
  by_cases before : number ∈ now.receivers
  · exact (Waiting.stable ⟨before, done.1 before⟩ relied).passed_on
  · exact relied.fresh before alive

end Iteration

end LibSp.Linux
