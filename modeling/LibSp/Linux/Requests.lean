import LibSp.Linux.Receive
import LibSp.Concurrent.Amid

/-!
# What the receive threads ask for

The size of the reads of `thread_recv_data_monitor`. The count of an iteration is
the answer of its query or, when that fails, what the iterations before left in
`has_read_bytes`; the queue only grows between the query and the read.
-/

set_option autoImplicit false

namespace LibSp.Linux

open Concurrent

/-- The query of an iteration answers, or the count left by the iterations before is
pending when it begins or is too long to be read; and the threshold tested is not 0. -/
def seenCounts : Condition Tid State Effect Job where
  begins _ job s :=
    match job with
    | .iteration hasReadBytes outcome =>
        outcome.fionread || decide (hasReadBytes ≤ s.pending.length) ||
          decide ((lenBuf1024 : Int) < hasReadBytes)
    | .operation _ => true
  acts _ _ effect s :=
    match effect with
    | .load .minByteReadNotify => decide (0 < s.port.param.minByteReadNotify)
    | _ => true

theorem seenCounts_contract (libc : SpeedSetters) :
    Contract (system libc) (oneClient.both seenCounts) (rules False False) :=
  linux_contract libc (oneClient_assumes.both seenCounts)

/-! ## One iteration -/

section Iteration

variable {number : Nat} {hasReadBytes : Int} {α : Type}

/-- A read of at least one byte and at most those pending and those that fit the buffer. -/
def Modest (s : State) (count : Nat) : Prop :=
  1 ≤ count ∧ count ≤ min lenBuf1024 s.pending.length

/-- What an effect of a receive thread finds and does. -/
structure WorkerLook (number : Nat) (effect : Effect) (s : State) (reply : effect.Reply)
    (after : State) : Prop where
  executed : exec (.worker number) effect s = some (reply, after)
  alive : number ∈ s.receivers
  descriptor : s.port.param.fd ∈ s.port.fds
  threshold : effect = .load .minByteReadNotify → 0 < s.port.param.minByteReadNotify

/-- The reads of an iteration that has this count to start with. -/
def Asks (hasReadBytes : Int) (effect : Effect) (s : State) : Prop :=
  ∀ fd count succeeds, effect = .read fd count succeeds → 0 ≤ hasReadBytes → Modest s count

abbrev WorkerAmid (number : Nat) (hasReadBytes : Int) (program : Code α) (s : State) : Prop :=
  program.Amid (WorkerRely number) (WorkerLook number) (Asks hasReadBytes) (fun _ _ => True) s

/-- The thread runs on this descriptor, and so many bytes are pending. -/
structure Stocked (number : Nat) (fd : Int) (count : Nat) (s : State) : Prop where
  alive : number ∈ s.receivers
  current : s.port.param.fd = fd
  queued : count ≤ s.pending.length

variable {fd : Int} {count : Nat} {s : State}

theorem Stocked.stable {after : State} (stocked : Stocked number fd count s)
    (relied : WorkerRely number s after) : Stocked number fd count after where
  alive := relied.alive stocked.alive
  current := (relied.descriptor stocked.alive).trans stocked.current
  queued := Nat.le_trans stocked.queued (relied.queue stocked.alive).length_le

def Effect.reads : Effect → Bool
  | .read .. => true
  | _ => false

theorem amid_of_readless {program : Code α} {s : State}
    (readless : program.Only fun effect => effect.reads = false) :
    WorkerAmid number hasReadBytes program s := by
  have points : ∀ (effect : Effect) (s : State), effect.reads = false → True →
      Asks hasReadBytes effect s := by
    rintro effect s readless - fd count succeeds rfl
    cases readless
  exact Prog.Amid.of_only (fun _ _ _ _ => trivial) points (fun _ _ _ _ _ _ _ => trivial) readless
    trivial

theorem amid_ret {value : α} {s : State} :
    WorkerAmid number hasReadBytes (.ret value : Code α) s := fun _ _ => trivial

/-- An effect that leaves the port, its queue and the threads alone. -/
theorem amid_act {effect : Effect} {next : effect.Reply → Code α}
    (stocked : Stocked number fd count s) (readless : effect.reads = false)
    (still : ∀ now reply after, exec (.worker number) effect now = some (reply, after) →
      after.port = now.port ∧ after.receivers = now.receivers ∧ after.pending = now.pending)
    (continued : ∀ now reply after, WorkerLook number effect now reply after →
      Stocked number fd count now → Stocked number fd count after →
      WorkerAmid number hasReadBytes (next reply) after) :
    WorkerAmid number hasReadBytes (.act effect next) s := by
  intro now relied
  constructor
  · intro fd count succeeds same
    subst same
    cases readless
  · intro reply after looked
    have stockedNow := stocked.stable relied
    obtain ⟨port, receivers, pending⟩ := still now reply after looked.executed
    have stockedAfter : Stocked number fd count after :=
      ⟨receivers ▸ stockedNow.alive, port ▸ stockedNow.current, pending ▸ stockedNow.queued⟩
    exact continued now reply after looked stockedNow stockedAfter

theorem amid_load {field : Field} {next : field.Val → Code α}
    (stocked : Stocked number fd count s)
    (continued : ∀ now, (field = .minByteReadNotify → 0 < now.port.param.minByteReadNotify) →
      Stocked number fd count now →
      WorkerAmid number hasReadBytes (next (now.port.param.get field)) now) :
    WorkerAmid number hasReadBytes (.act (.load field) next) s := by
  refine amid_act stocked rfl ?_ ?_
  · intro now reply after executed
    cases executed
    exact ⟨rfl, rfl, rfl⟩
  · intro now reply after looked stockedNow _
    obtain ⟨executed, -, -, threshold⟩ := looked
    cases executed
    exact continued now (fun same => threshold (congrArg Effect.load same)) stockedNow

theorem amid_isOpened {next : Bool → Code α} (stocked : Stocked number fd count s)
    (continued : ∀ now opened, Stocked number fd count now →
      WorkerAmid number hasReadBytes (next opened) now) :
    WorkerAmid number hasReadBytes (.act .isOpened next) s := by
  refine amid_act stocked rfl ?_ ?_
  · intro now reply after executed
    cases executed
    exact ⟨rfl, rfl, rfl⟩
  · intro now reply after _ _ stockedAfter
    exact continued after reply stockedAfter

theorem amid_lock {next : Unit → Code α} (stocked : Stocked number fd count s)
    (continued : ∀ now, Stocked number fd count now →
      WorkerAmid number hasReadBytes (next ()) now) :
    WorkerAmid number hasReadBytes (.act .lock next) s := by
  refine amid_act stocked rfl ?_ ?_
  · intro now reply after executed
    simp only [exec] at executed
    split at executed
    · cases executed
      exact ⟨rfl, rfl, rfl⟩
    · cases executed
  · intro now reply after _ _ stockedAfter
    exact continued after stockedAfter

/-- The query answers what is pending unless it is to fail. -/
theorem amid_ioctl {succeeds : Bool} {next : Option Int → Code α}
    (stocked : Stocked number fd count s)
    (continued : ∀ now reply, Stocked number fd count now →
      reply = some (now.pending.length : Int) ∨ reply = none ∧ succeeds = false →
      WorkerAmid number hasReadBytes (next reply) now) :
    WorkerAmid number hasReadBytes (.act (.ioctl fd succeeds) next) s := by
  refine amid_act stocked rfl ?_ ?_
  · intro now reply after executed
    simp only [exec] at executed
    split at executed
    · cases executed
      exact ⟨rfl, rfl, rfl⟩
    · cases executed
      exact ⟨rfl, rfl, rfl⟩
  · intro now reply after looked stockedNow _
    obtain ⟨executed, -, descriptor, -⟩ := looked
    rw [stockedNow.current] at descriptor
    simp only [exec, descriptor, and_true] at executed
    split at executed
    · cases executed
      exact continued now _ stockedNow (.inl rfl)
    · next fails =>
        cases executed
        exact continued now none stockedNow (.inr ⟨rfl, Bool.not_eq_true _ ▸ fails⟩)

/-- An iteration whose count is seen asks for what is pending. -/
theorem threadRecvDataMonitor_amid {carried : Nat} {outcome : RecvOutcome}
    {callback : Code Unit} (silent : callback.Only fun effect => effect.reads = false)
    (alive : number ∈ s.receivers)
    (seen : outcome.fionread = true ∨ carried ≤ s.pending.length ∨ lenBuf1024 < carried) :
    WorkerAmid number hasReadBytes (threadRecvDataMonitor callback carried outcome) s := by
  obtain ⟨count, stocked, promised⟩ : ∃ count, Stocked number s.port.param.fd count s ∧
      (outcome.fionread = false → carried = count ∨ lenBuf1024 < carried) := by
    by_cases pending : carried ≤ s.pending.length
    · exact ⟨carried, ⟨alive, rfl, pending⟩, fun _ => .inl rfl⟩
    · refine ⟨0, ⟨alive, rfl, Nat.zero_le _⟩, fun fails => ?_⟩
      rcases seen with succeeds | queued | long
      · rw [fails] at succeeds
        cases succeeds
      · exact absurd queued pending
      · exact .inr long
  refine amid_load stocked fun now _ stocked => ?_
  refine Prog.Amid.ite (fun _ => amid_of_readless ⟨rfl, fun _ => trivial⟩) fun _ => ?_
  refine amid_load stocked fun now _ stocked => ?_
  have current : now.port.param.get .fd = s.port.param.fd := stocked.current
  rw [current]
  refine amid_ioctl stocked fun now reply stocked answered => ?_
  refine Prog.Amid.ite (fun _ => amid_ret) fun short => ?_
  obtain ⟨count, counted, stocked⟩ : ∃ count : Nat, reply.getD (carried : Int) = count ∧
      Stocked number s.port.param.fd count now := by
    rcases answered with rfl | ⟨rfl, fails⟩
    · exact ⟨now.pending.length, rfl, stocked.alive, stocked.current, Nat.le_refl _⟩
    · rcases promised fails with same | long
      · exact ⟨count, congrArg Nat.cast same, stocked⟩
      · exact absurd (Int.ofNat_lt.mpr long) short
  have small : count ≤ lenBuf1024 := by omega
  refine amid_load stocked fun now threshold stocked => ?_
  have positive : 0 < now.port.param.minByteReadNotify := threshold rfl
  refine Prog.Amid.ite (fun notified => ?_) fun _ => amid_ret
  rw [counted, toUnsigned_natCast small] at notified
  refine amid_lock stocked fun now stocked => ?_
  refine amid_isOpened stocked fun now opened stocked => ?_
  refine Prog.Amid.ite (fun _ => ?_) fun _ => amid_of_readless ⟨rfl, fun _ => trivial⟩
  refine amid_load stocked fun now _ stocked => ?_
  intro later relied
  constructor
  · intro _ asked _ same _
    cases same
    rw [counted, toSize_natCast small]
    have queued := (stocked.stable relied).queued
    exact ⟨Nat.le_trans positive notified, Nat.le_min.mpr ⟨small, queued⟩⟩
  · intro taken after _
    apply amid_of_readless
    cases taken with
    | none => exact ⟨rfl, fun _ => trivial⟩
    | some bufRead =>
        refine Prog.Only.ite (fun _ => ⟨rfl, fun receiver => ?_⟩) fun _ => ⟨rfl, fun _ => trivial⟩
        cases receiver with
        | none => exact ⟨rfl, fun _ => trivial⟩
        | some receiver =>
            refine ⟨rfl, fun _ => ?_⟩
            exact @Prog.Only.bind _ _ _ _ _ callback _ silent fun _ => ⟨rfl, fun _ => trivial⟩

end Iteration

/-! ## Runs -/

section Runs

variable {libc : SpeedSetters} {config : Config Tid State Effect Effect.Reply Job Result}
  {number : Nat}

theorem worker_receivers {exact : Prop} {effect : Effect} {s after : State}
    {reply : effect.Reply} (pointed : WorkerPoint exact s effect)
    (executed : exec (.worker number) effect s = some (reply, after)) :
    ∀ other ∈ after.receivers, other ∈ s.receivers := by
  intro other alive
  cases effect with
  | lock =>
      simp only [exec] at executed
      split at executed
      · cases executed
        exact alive
      · cases executed
  | ioctl fd succeeds =>
      simp only [exec] at executed
      split at executed <;> cases executed <;> exact alive
  | read fd count succeeds =>
      simp only [exec] at executed
      split at executed
      · split at executed
        · cases executed
        · cases executed
          exact alive
      · cases executed
        exact alive
  | pthreadExit =>
      cases executed
      exact List.mem_of_mem_erase alive
  | load | isOpened | unlock | onRecvData =>
      cases executed
      exact alive
  | _ => exact pointed.elim

theorem worker_shared (number : Nat) :
    Shared (system libc) (oneClient.both seenCounts) (.worker number) id (WorkerRely number)
      (WorkerLook number) where
  refl _ := .refl
  trans early late := early.trans late
  mine {config call effect reply after} reachable calls standing permitted executed := by
    have contract := seenCounts_contract libc
    have alive := (contract.point_of_reachable reachable calls standing).1
    have inv := contract.inv_of_reachable reachable
    have unjoined := inv.receivers_unjoined number alive
    refine ⟨executed, alive, (inv.unjoined_current number unjoined).2.1, ?_⟩
    intro same
    subst same
    exact of_decide_eq_true (Condition.both_acts.mp permitted).2
  others {config other call effect reply after} reachable different calls standing executed := by
    have contract := seenCounts_contract libc
    have inv := contract.inv_of_reachable reachable
    have pointed := contract.point_of_reachable reachable calls standing
    match other with
    | .client 0 => exact (client_keeps inv pointed executed).2 number
    | .client (_ + 1) =>
        simpa [oneClient] using (Condition.both_begins.mp (reachable.begun calls)).1
    | .worker second =>
        have apart : number ∉ config.state.receivers := fun alive =>
          different (congrArg Tid.worker (inv.receivers_unique pointed.1 alive))
        exact .of_dead apart fun running => apart (worker_receivers pointed.2 executed number running)
  external {config event after} reachable changed := by
    have inv := (seenCounts_contract libc).inv_of_reachable reachable
    cases changed
    exact (pending_unseen inv event).2 (.worker number)

def asking : Account State Effect Job Result where
  ready _ := True
  point job _ effect s :=
    match job with
    | .iteration hasReadBytes _ => Asks hasReadBytes effect s
    | .operation _ => False
  post _ _ _ _ := True

theorem admits_alive {last : Option Result} {s : State} {hasReadBytes : Int}
    {outcome : RecvOutcome}
    (admitted : admits (.worker number) last s (.iteration hasReadBytes outcome) = true) :
    number ∈ s.receivers := by
  rcases last with _ | (value | (carried | _))
  · exact List.contains_iff_mem.mp (Bool.and_eq_true_iff.mp admitted).1
  · cases admitted
  · exact List.contains_iff_mem.mp (Bool.and_eq_true_iff.mp admitted).1
  · cases admitted

theorem asking_endures (libc : SpeedSetters) (number : Nat) :
    asking.Endures (system libc) (oneClient.both seenCounts) (.worker number) id
      (WorkerRely number) (WorkerLook number) where
  start := trivial
  drifted _ _ := trivial
  returned _ := trivial
  body {job last s} _ admitted begins := by
    cases job with
    | operation operation => rcases last with _ | (value | (_ | _)) <;> cases admitted
    | iteration hasReadBytes outcome =>
        have alive := admits_alive admitted
        have counted := (Condition.both_begins.mp begins).2
        by_cases natural : 0 ≤ hasReadBytes
        · obtain ⟨carried, rfl⟩ := Int.eq_ofNat_of_zero_le natural
          have seen : outcome.fionread = true ∨ carried ≤ s.pending.length ∨
              lenBuf1024 < carried := by
            simpa [seenCounts, or_assoc] using counted
          have asks : WorkerAmid number carried
              (threadRecvDataMonitor (pure ()) carried outcome) s :=
            threadRecvDataMonitor_amid trivial alive seen
          exact asks.bind (fun _ => .refl) fun _ _ _ => amid_ret
        · exact Prog.Amid.any (fun _ _ _ _ _ _ nonneg => absurd nonneg natural)
            fun _ _ => trivial

/-- The count that an iteration begins with is not negative. -/
theorem carried_nonneg (reachable : (system libc).Reachable (oneClient.both seenCounts) config)
    {call : Call State Effect Effect.Reply Job Result} {hasReadBytes : Int}
    {outcome : RecvOutcome} (calls : config.calls (.worker number) = some call)
    (job : call.job = .iteration hasReadBytes outcome) : 0 ≤ hasReadBytes := by
  obtain ⟨before, last, earlier, idle, -, admitted⟩ := reachable.entered calls
  have ready := (seenCounts_contract libc).ready_of_reachable earlier idle
  have admitted : admits (.worker number) last call.entry call.job = true := admitted
  rw [job] at admitted
  rcases last with _ | (value | (carried | _))
  · have zero := (Bool.and_eq_true_iff.mp admitted).2
    exact Int.le_of_eq (eq_of_beq zero).symm
  · cases admitted
  · have same := (Bool.and_eq_true_iff.mp admitted).2
    rw [eq_of_beq same]
    exact ready.2 carried rfl
  · cases admitted

end Runs

/-- In every run with one client in which the counts are seen, a read asks for at least
one byte and for no more than are pending and fit the buffer; so it does not wait. -/
theorem reads_seen (libc : SpeedSetters) (config : Config Tid State Effect Effect.Reply Job Result)
    (reachable : (system libc).Reachable (oneClient.both seenCounts) config) (thread : Tid)
    (call : Call State Effect Effect.Reply Job Result) (fd : Int) (count : Nat) (succeeds : Bool)
    (calls : config.calls thread = some call) (standing : call.Next (.read fd count succeeds)) :
    1 ≤ count ∧ count ≤ min lenBuf1024 config.state.pending.length ∧
      exec thread (.read fd count succeeds) config.state ≠ none := by
  cases thread with
  | client number =>
      exact absurd ((seenCounts_contract libc).point_of_reachable reachable calls standing) id
  | worker number =>
      have asked := Account.endures_point (worker_shared number) (asking_endures libc number)
        reachable calls standing
      cases job : call.job with
      | operation operation =>
          rw [job] at asked
          exact asked.elim
      | iteration hasReadBytes outcome =>
          rw [job] at asked
          obtain ⟨some, few⟩ := asked fd count succeeds rfl (carried_nonneg reachable calls job)
          refine ⟨some, few, fun waits => ?_⟩
          have pending : config.state.pending ≠ [] := by
            have queued : count ≤ config.state.pending.length :=
              Nat.le_trans few (Nat.min_le_right _ _)
            exact List.ne_nil_of_length_pos (Nat.le_trans some queued)
          simp only [exec, pending, and_false, ↓reduceIte] at waits
          split at waits <;> cases waits

def deliveringRun : List (Label Tid Job (List UInt8)) :=
  Label.burst (.client 0) (.operation (.init eightNone (some 7))) 3 ++
    Label.burst (.client 0) (.operation (.open (.fine 3))) 18 ++
    [.external [0x61, 0x62, 0x63]] ++
    Label.burst (.worker 0) (.iteration 0 ⟨true, true⟩) 10

/-- The query of the second iteration fails, but as many bytes have arrived again. -/
def carryingRun : List (Label Tid Job (List UInt8)) :=
  deliveringRun ++ .act (.worker 0) :: .external [0x64, 0x65, 0x66] ::
    Label.burst (.worker 0) (.iteration 3 ⟨false, true⟩) 7

theorem reads_seen_carrying :
    ∃ config, (system glibc).steps (oneClient.both seenCounts) (system glibc).initial carryingRun =
        some config ∧
      1 ≤ 3 ∧ 3 ≤ min lenBuf1024 config.state.pending.length ∧
        exec (.worker 0) (.read 3 3 true) config.state ≠ none := by
  have ran : ∃ config call, (system glibc).steps (oneClient.both seenCounts)
      (system glibc).initial carryingRun = some config ∧
      config.calls (.worker 0) = some call ∧ call.Next (.read 3 3 true) :=
    ⟨_, _, rfl, rfl, _, rfl⟩
  obtain ⟨config, call, steps, calls, standing⟩ := ran
  exact ⟨config, steps,
    reads_seen glibc config (.of_steps .start steps) (.worker 0) call 3 3 true calls standing⟩

/-- A threshold of 0 and an empty queue. -/
def emptyRun : List (Label Tid Job (List UInt8)) :=
  Label.burst (.client 0) (.operation (.init eightNone (some 7))) 3 ++
    Label.burst (.client 0) (.operation (.setReadNotify 0)) 2 ++
    Label.burst (.client 0) (.operation (.open (.fine 3))) 18 ++
    Label.burst (.worker 0) (.iteration 0 ⟨true, true⟩) 7

/-- Three bytes are read, and the next query fails. -/
def staleRun : List (Label Tid Job (List UInt8)) :=
  deliveringRun ++ .act (.worker 0) :: Label.burst (.worker 0) (.iteration 3 ⟨false, true⟩) 7

/-- The thread asks for 0 bytes, and for 3 bytes that are not there: it waits in `read`
with the mutex that `send` needs. -/
theorem reads_unseen :
    (∃ config call, (system glibc).steps oneClient (system glibc).initial emptyRun = some config ∧
      config.calls (.worker 0) = some call ∧ call.Next (.read 3 0 true)) ∧
    ∃ config call, (system glibc).steps oneClient (system glibc).initial staleRun = some config ∧
      config.calls (.worker 0) = some call ∧ call.Next (.read 3 3 true) ∧
      config.state.pending = [] ∧ config.state.mutexRecv = some (.worker 0) ∧
      exec (.worker 0) (.read 3 3 true) config.state = none :=
  ⟨⟨_, _, rfl, rfl, _, rfl⟩, _, _, rfl, rfl, ⟨_, rfl⟩, rfl, rfl, rfl⟩

end LibSp.Linux
