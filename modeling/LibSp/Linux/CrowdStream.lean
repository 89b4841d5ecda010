import LibSp.Linux.Crowd
import LibSp.Linux.Requests

/-!
# The stream of a port with any number of clients

One iteration of `thread_recv_data_monitor` while other receive threads and any
clients run, and what that makes of every run: `close` and `open` of several clients
may leave several receive threads on one port, and the stream stays whole.
-/

set_option autoImplicit false

namespace LibSp.Linux

open Concurrent

/-! ## One iteration -/

section Workers

variable {libc : SpeedSetters} {condition : Condition Tid State Effect Job} {job : Job}
  {number : Nat} {α : Type} {post : α → State → Prop} {s : State}

/-- A receive thread that does not hold the mutex. -/
structure WorkerOutside (number : Nat) (s : State) : Prop where
  alive : number ∈ s.receivers
  free : ¬ Owns (.worker number) s

/-- One that holds the mutex and has passed on what it took. -/
structure WorkerInside (number : Nat) (s : State) : Prop where
  alive : number ∈ s.receivers
  owns : Owns (.worker number) s
  passed_on : PassedOn s

/-- One that holds the mutex and has this chunk in its buffer. -/
structure InHand (number : Nat) (chunk : List UInt8) (s : State) : Prop where
  alive : number ∈ s.receivers
  owns : Owns (.worker number) s
  holding : Holding s chunk
  fits : 1 ≤ chunk.length ∧ chunk.length ≤ lenBuf1024

theorem WorkerOutside.stable {after : State} (outside : WorkerOutside number s)
    (relied : CrowdRely (.worker number) s after) : WorkerOutside number after where
  alive := relied.alive number rfl outside.alive
  free := mt relied.owner.mp outside.free

theorem WorkerInside.stable {after : State} (inside : WorkerInside number s)
    (relied : CrowdRely (.worker number) s after) : WorkerInside number after where
  alive := relied.alive number rfl inside.alive
  owns := relied.owner.mpr inside.owns
  passed_on := by
    obtain ⟨consumed, delivered⟩ := relied.stream inside.owns
    rw [PassedOn, consumed, delivered]
    exact inside.passed_on

theorem InHand.stable {chunk : List UInt8} {after : State} (inHand : InHand number chunk s)
    (relied : CrowdRely (.worker number) s after) : InHand number chunk after where
  alive := relied.alive number rfl inHand.alive
  owns := relied.owner.mpr inHand.owns
  holding := by
    obtain ⟨consumed, delivered⟩ := relied.stream inHand.owns
    rw [Holding, consumed, delivered]
    exact inHand.holding
  fits := inHand.fits

theorem WorkerOutside.stands {effect : Effect} (outside : WorkerOutside number s) :
    CrowdStands number effect s where
  alive := outside.alive
  stream owns := absurd owns outside.free

theorem WorkerInside.stands {effect : Effect} (inside : WorkerInside number s) : CrowdStands number effect s where
  alive := inside.alive
  stream _ := .inl inside.passed_on

private theorem of_worker {holds : Nat → Prop} (mine : holds number) (worker : Nat)
    (same : Tid.worker number = .worker worker) : holds worker := by
  cases same
  exact mine

/-- The effects of a receive thread that leave the state as it is. -/
def Effect.looks : Effect → Bool
  | .load _ | .isOpened | .ioctl .. => true
  | _ => false

theorem looks_same {thread : Tid} {effect : Effect} {reply : effect.Reply} {after : State}
    (looks : effect.looks = true) (executed : exec thread effect s = some (reply, after)) :
    after = s := by
  cases effect with
  | load | isOpened =>
      cases executed
      rfl
  | ioctl fd succeeds =>
      simp only [exec] at executed
      split at executed <;> cases executed <;> rfl
  | _ => cases looks

theorem permitted_of_looks {thread : Tid} {effect : Effect} (looks : effect.looks = true) :
    CrowdPermitted thread s effect := by
  cases effect <;> trivial

theorem outside_looks {effect : Effect} {next : effect.Reply → Code α} (outside : WorkerOutside number s)
    (looks : effect.looks = true)
    (continued : ∀ now reply, exec (.worker number) effect now = some (reply, now) →
      WorkerOutside number now → CrowdSafe libc condition (.worker number) job (next reply) post now) :
    CrowdSafe libc condition (.worker number) job (.act effect next) post s := by
  refine crowd_act WorkerOutside.stable outside fun now outside _ => ?_
  refine ⟨permitted_of_looks looks, of_worker outside.stands, fun reply after executed _ => ?_⟩
  have same := looks_same looks executed
  subst same
  exact continued after reply executed outside

theorem inside_looks {effect : Effect} {next : effect.Reply → Code α} (inside : WorkerInside number s)
    (looks : effect.looks = true)
    (continued : ∀ now reply, WorkerInside number now →
      CrowdSafe libc condition (.worker number) job (next reply) post now) :
    CrowdSafe libc condition (.worker number) job (.act effect next) post s := by
  refine crowd_act WorkerInside.stable inside fun now inside _ => ?_
  refine ⟨permitted_of_looks looks, of_worker inside.stands, fun reply after executed _ => ?_⟩
  have same := looks_same looks executed
  subst same
  exact continued after reply inside

theorem outside_lock {next : Unit → Code α} (outside : WorkerOutside number s)
    (continued : ∀ now, WorkerInside number now →
      CrowdSafe libc condition (.worker number) job (next ()) post now) :
    CrowdSafe libc condition (.worker number) job (.act .lock next) post s := by
  refine crowd_act WorkerOutside.stable outside fun now outside inv => ?_
  refine ⟨trivial, of_worker outside.stands, fun _ after executed _ => continued after ?_⟩
  simp only [exec] at executed
  split at executed
  · next free =>
      cases executed
      exact ⟨outside.alive, rfl, inv.passed_on fun other => by simp [free]⟩
  · cases executed

theorem inside_unlock {next : Unit → Code α} (inside : WorkerInside number s)
    (continued : ∀ now, WorkerOutside number now →
      CrowdSafe libc condition (.worker number) job (next ()) post now) :
    CrowdSafe libc condition (.worker number) job (.act .unlock next) post s := by
  refine crowd_act WorkerInside.stable inside fun now inside _ => ?_
  refine ⟨⟨inside.owns, inside.passed_on⟩, of_worker inside.stands, ?_⟩
  intro _ after executed _
  cases executed
  exact continued _ ⟨inside.alive, by simp [Owns]⟩

theorem inside_read {fd : Int} {count : Nat} {succeeds : Bool}
    {next : Option (List UInt8) → Code α} (inside : WorkerInside number s)
    (small : count ≤ lenBuf1024)
    (failed : ∀ now, WorkerInside number now →
      CrowdSafe libc condition (.worker number) job (next none) post now)
    (empty : ∀ now, WorkerInside number now →
      CrowdSafe libc condition (.worker number) job (next (some [])) post now)
    (taken : ∀ now chunk, 0 < chunk.length → InHand number chunk now →
      CrowdSafe libc condition (.worker number) job (next (some chunk)) post now) :
    CrowdSafe libc condition (.worker number) job (.act (.read fd count succeeds) next) post s := by
  refine crowd_act WorkerInside.stable inside fun now inside _ => ?_
  refine ⟨⟨inside.owns, number, rfl⟩, of_worker inside.stands, fun reply after executed _ => ?_⟩
  have passedOn : now.consumed = deliveredBytes now.delivered := inside.passed_on
  simp only [exec] at executed
  split at executed
  · split at executed <;> cases executed
    cases chunk : now.pending.take count with
    | nil =>
        refine empty _ ⟨inside.alive, inside.owns, ?_⟩
        simpa [PassedOn, chunk] using passedOn
    | cons byte rest =>
        refine taken _ _ (by simp) ⟨inside.alive, inside.owns, ?_, by simp, ?_⟩
        · simp only [Holding, passedOn]
        · rw [← chunk]
          exact Nat.le_trans (List.length_take_le _ _) small
  · cases executed
    exact failed now inside

/-- A receive thread exists only after a receiver has been registered. -/
theorem inHand_receiver {chunk : List UInt8} {next : Option IrecvData → Code α}
    (inHand : InHand number chunk s)
    (continued : ∀ now receiver, InHand number chunk now →
      CrowdSafe libc condition (.worker number) job (next (some receiver)) post now) :
    CrowdSafe libc condition (.worker number) job (.act (.load .precvData) next) post s := by
  refine crowd_act InHand.stable inHand fun now inHand inv => ?_
  refine ⟨trivial, of_worker ⟨inHand.alive, fun _ => ?_⟩, fun reply after executed _ => ?_⟩
  · exact .inr ⟨chunk, inHand.holding, inHand.fits.1, inHand.fits.2, .inl rfl⟩
  · cases executed
    have created : number < now.port.created := inv.receivers_created number inHand.alive
    obtain ⟨receiver, registered⟩ := Option.isSome_iff_exists.mp (inv.registered (by omega))
    have loaded : now.port.param.get .precvData = some receiver := registered
    rw [loaded]
    exact continued now receiver inHand

theorem inHand_onRecvData {receiver : IrecvData} {chunk : List UInt8} {notify : Nat}
    {next : Unit → Code α} (inHand : InHand number chunk s)
    (continued : ∀ now, WorkerInside number now →
      CrowdSafe libc condition (.worker number) job (next ()) post now) :
    CrowdSafe libc condition (.worker number) job (.act (.onRecvData receiver chunk notify) next)
      post s := by
  refine crowd_act InHand.stable inHand fun now inHand _ => ?_
  have fits : Fits False ⟨receiver, chunk, notify⟩ := ⟨inHand.fits.1, inHand.fits.2, False.elim⟩
  refine ⟨⟨inHand.owns, inHand.holding, fits⟩, of_worker ⟨inHand.alive, fun _ => ?_⟩, ?_⟩
  · exact .inr ⟨chunk, inHand.holding, fits.nonempty, fits.fits, .inr ⟨receiver, notify, rfl⟩⟩
  · intro _ after executed _
    cases executed
    refine continued _ ⟨inHand.alive, inHand.owns, ?_⟩
    rw [PassedOn, deliveredBytes_append]
    exact inHand.holding

/-- What an iteration leaves behind. -/
def CrowdDone (number : Nat) (iteration : Iteration) (s : State) : Prop :=
  CrowdIdle number (some (.iteration iteration)) s

theorem crowd_next {hasReadBytes : Int} (outside : WorkerOutside number s)
    (carried : 0 ≤ hasReadBytes) :
    CrowdSafe libc condition (.worker number) job (.ret (.next hasReadBytes) : Code Iteration)
      (CrowdDone number) s := by
  intro now relied _
  refine ⟨mt relied.owner.mp outside.free, fun count same => ?_, fun same => ?_⟩
  · cases same
    exact carried
  · cases same

theorem threadRecvDataMonitor_crowd {hasReadBytes : Int} {outcome : RecvOutcome}
    (outside : WorkerOutside number s) (carried : 0 ≤ hasReadBytes) :
    CrowdSafe libc condition (.worker number) job
      (threadRecvDataMonitor (pure ()) hasReadBytes outcome) (CrowdDone number) s := by
  refine outside_looks outside rfl fun now running _ outside => ?_
  refine Safe.ite (fun _ => ?_) fun _ => ?_
  · refine crowd_act WorkerOutside.stable outside fun now outside inv =>
      ⟨trivial, of_worker outside.stands, fun _ after executed _ => ?_⟩
    cases executed
    intro later relied _
    have dead : number ∉ now.receivers.erase number := inv.receivers_nodup.not_mem_erase
    have created : number < now.port.created := inv.receivers_created number outside.alive
    exact {
      free := mt relied.owner.mp outside.free
      carries := fun _ same => (by cases same)
      ended := fun _ => relied.ended number ⟨created, dead⟩ }
  refine outside_looks outside rfl fun now fd _ outside => ?_
  refine outside_looks outside rfl fun now reply executed outside => ?_
  have counted : 0 ≤ reply.getD hasReadBytes := by
    simp only [exec] at executed
    split at executed <;> cases executed
    · exact Int.natCast_nonneg _
    · exact carried
  obtain ⟨count, same⟩ := Int.eq_ofNat_of_zero_le counted
  refine Safe.ite (fun _ => crowd_next outside counted) fun short => ?_
  have small : count ≤ lenBuf1024 := by
    rw [same] at short
    omega
  refine outside_looks outside rfl fun now notify _ outside => ?_
  refine Safe.ite (fun _ => ?_) fun _ => crowd_next outside counted
  refine outside_lock outside fun now inside => ?_
  refine inside_looks inside rfl fun now opened inside => ?_
  have leaves : ∀ now, WorkerInside number now → CrowdSafe libc condition (.worker number) job
      (do perform .unlock; return .next (reply.getD hasReadBytes) : Code Iteration)
      (CrowdDone number) now :=
    fun now inside => inside_unlock inside fun now outside => crowd_next outside counted
  refine Safe.ite (fun _ => ?_) fun _ => leaves now inside
  refine inside_looks inside rfl fun now fd inside => ?_
  refine inside_read inside ?_ leaves leaves fun now chunk some inHand => ?_
  · rw [same, toSize_natCast small]
    exact small
  refine Safe.ite (fun _ => ?_) fun none => absurd some none
  refine inHand_receiver inHand fun now receiver inHand => ?_
  exact inHand_onRecvData inHand leaves

end Workers

/-! ## Runs -/

section Runs

variable {libc : SpeedSetters} {condition : Condition Tid State Effect Job}
  {config : Config Tid State Effect Effect.Reply Job Result}

/-- A receive thread is alive when it begins an iteration, with a count that it was left. -/
theorem iteration_of_admits {number : Nat} {last : Option Result} {s : State} {job : Job}
    (admitted : admits (.worker number) last s job = true) (carries : Carries last) :
    ∃ hasReadBytes outcome, job = .iteration hasReadBytes outcome ∧ number ∈ s.receivers ∧
      0 ≤ hasReadBytes := by
  cases job with
  | operation operation => rcases last with _ | (value | (_ | _)) <;> cases admitted
  | iteration hasReadBytes outcome =>
      have alive : number ∈ s.receivers := admits_alive admitted
      refine ⟨hasReadBytes, outcome, rfl, alive, ?_⟩
      rcases last with _ | (value | (carried | _))
      · simp only [admits, Bool.and_eq_true, beq_iff_eq] at admitted
        exact admitted.2 ▸ Int.le_refl 0
      · cases admitted
      · simp only [admits, Bool.and_eq_true, beq_iff_eq] at admitted
        exact admitted.2 ▸ carries carried rfl
      · cases admitted

theorem job_crowd {thread : Tid} {last : Option Result} {job : Job} {s : State} (inv : CrowdInv s)
    (ready : crowdRules.ready thread last s) (admitted : admits thread last s job = true) :
    CrowdSafe libc condition thread job (runJob libc job) (crowdRules.post thread job s) s := by
  cases thread with
  | client number =>
      cases job with
      | iteration hasReadBytes outcome => cases admitted
      | operation operation =>
          refine crowd_bind inv (runOperation_crowd inv operation) fun value now _ => ?_
          refine crowd_client rfl fun _ _ after _ _ => ?_
          intro _ _ _ number same
          cases same
  | worker number =>
      obtain ⟨free, carries, -⟩ := ready number rfl
      obtain ⟨hasReadBytes, outcome, rfl, alive, carried⟩ := iteration_of_admits admitted carries
      refine Safe.bind (fun _ => CrowdRely.refl) inv
        ((threadRecvDataMonitor_crowd ⟨alive, free⟩ carried).mono fun iteration now _ done => ?_)
      intro later relied _ other same
      cases same
      exact CrowdIdle.stable done relied

theorem crowd_contract (libc : SpeedSetters) (condition : Condition Tid State Effect Job) :
    Contract (system libc) condition crowdRules where
  rely_refl _ _ := .refl
  rely_trans _ := .trans
  inv_start := crowdInv_start
  ready_start thread number same := by
    exact ⟨by simp [system, State.start], fun _ none => (by cases none), fun none => (by cases none)⟩
  ready_stable thread last _ _ ready relied _ := by
    intro number same
    subst same
    exact (ready number rfl).stable relied
  external event s after inv changed := by
    cases changed
    exact ⟨{ inv with }, fun _ => { CrowdRely.refl (s := s) with }⟩
  post_ready thread job entry value s _ post := post
  call thread last job s inv ready admitted _ := job_crowd inv ready admitted

/-- A receive thread that holds the mutex stands at an effect. -/
theorem owner_stands (reachable : (system libc).Reachable condition config) {number : Nat}
    (owns : Owns (.worker number) config.state) :
    ∃ call effect, config.calls (.worker number) = some call ∧ call.Next effect ∧
      CrowdStands number effect config.state := by
  have contract := crowd_contract libc condition
  rcases config.idle_or_next (.worker number) with ⟨last, idle⟩ | ⟨call, effect, calls, standing⟩
  · have ready := contract.ready_of_reachable reachable idle
    exact absurd owns (ready number rfl).free
  · have pointed := contract.point_of_reachable reachable calls standing
    exact ⟨call, effect, calls, standing, pointed.2 number rfl⟩

end Runs

/-- Whatever any number of clients do: what has been read off the device has been passed
on, in order and once, but for the chunk that the receive thread holding the mutex has
read and not passed on yet; and no chunk exceeds the buffer. -/
theorem received_stream_crowd (libc : SpeedSetters)
    (config : Config Tid State Effect Effect.Reply Job Result)
    (reachable : (system libc).Reachable .always config) :
    (∀ delivery ∈ config.state.delivered,
      1 ≤ delivery.chunk.length ∧ delivery.chunk.length ≤ lenBuf1024) ∧
    (PassedOn config.state ∨ ∃ number call chunk,
      config.state.mutexRecv = some (.worker number) ∧
      config.calls (.worker number) = some call ∧ BetweenReadAndCallback call ∧
      Holding config.state chunk ∧ 1 ≤ chunk.length ∧ chunk.length ≤ lenBuf1024) := by
  have inv := (crowd_contract libc .always).inv_of_reachable reachable
  refine ⟨fun delivery member => ?_, ?_⟩
  · have fits := inv.chunks delivery member
    exact ⟨fits.nonempty, fits.fits⟩
  by_cases owned : ∃ number, config.state.mutexRecv = some (.worker number)
  · obtain ⟨number, owns⟩ := owned
    obtain ⟨call, effect, calls, standing, stands⟩ := owner_stands reachable owns
    refine (stands.stream owns).imp_right fun inHand => ?_
    obtain ⟨chunk, holding, nonempty, fits, between⟩ := inHand
    refine ⟨number, call, chunk, owns, calls, ?_, holding, nonempty, fits⟩
    rcases between with rfl | ⟨receiver, notify, rfl⟩
    · exact .inl standing
    · exact .inr ⟨receiver, chunk, notify, standing⟩
  · exact .inl (inv.passed_on fun number owns => owned ⟨number, owns⟩)

/-- Two clients have opened the port, so that two receive threads read from it: one has
read a chunk, the other and a `send` wait for the mutex. -/
def crowdedRun : List (Label Tid Job (List UInt8)) :=
  Label.burst (.client 0) (.operation (.init eightNone (some 7))) 3 ++
    Label.burst (.client 0) (.operation (.open (.fine 3))) 1 ++
    Label.burst (.client 1) (.operation (.open (.fine 4))) 18 ++
    List.replicate 17 (.act (.client 0)) ++ [.external [0x61, 0x62]] ++
    Label.burst (.worker 0) (.iteration 0 ⟨true, true⟩) 4 ++
    Label.burst (.worker 1) (.iteration 0 ⟨true, true⟩) 8 ++
    Label.burst (.client 1) (.operation (.send (some [0x55]) (.ok 1))) 0

theorem received_stream_crowd_crowded :
    ∃ config, (system glibc).steps .always (system glibc).initial crowdedRun = some config ∧
      config.state.receivers = [0, 1] ∧ config.state.consumed = [0x61, 0x62] ∧
      (PassedOn config.state ∨ ∃ number call chunk,
        config.state.mutexRecv = some (.worker number) ∧
        config.calls (.worker number) = some call ∧ BetweenReadAndCallback call ∧
        Holding config.state chunk ∧ 1 ≤ chunk.length ∧ chunk.length ≤ lenBuf1024) := by
  have ran : ∃ config,
      (system glibc).steps .always (system glibc).initial crowdedRun = some config ∧
      config.state.receivers = [0, 1] ∧ config.state.consumed = [0x61, 0x62] :=
    ⟨_, rfl, rfl, rfl⟩
  obtain ⟨config, steps, receivers, consumed⟩ := ran
  exact ⟨config, steps, receivers, consumed,
    (received_stream_crowd glibc config (.of_steps .start steps)).2⟩

end LibSp.Linux
