import LibSp.Windows.View
import LibSp.Windows.Receive

/-!
# The monitor threads beside any number of clients

What holds of the monitor threads whatever the clients do at the same time, if `open`
is called once a receiver is registered. A monitor thread that a `close` has given up
lives on, and no read comes to a null receiver.
-/

set_option autoImplicit false

namespace LibSp.Windows

open Concurrent

/-! ## The rules -/

/-- What holds at every moment of a run with any number of clients. -/
structure MonitorsInv (s : State) : Prop where
  registered : s.monitors ≠ [] → s.param.precvData.isSome = true
  numbered : ∀ number ∈ s.monitors, number < s.nextHandle
  nodup : s.monitors.Nodup
  submitted : ∀ block, (s.blocks block).pending = true →
    ∃ transfer ∈ s.inFlight, transfer.block = block

/-- The monitor thread has been created and has ended. -/
def Ended (number : Nat) (s : State) : Prop := number < s.nextHandle ∧ number ∉ s.monitors

/-- What a thread relies on: the others take the receiver from nobody, and neither end
nor revive a monitor thread. -/
structure MonitorsRely (thread : Tid) (s after : State) : Prop where
  registered : s.param.precvData.isSome = true → after.param.precvData.isSome = true
  alive : ∀ number, thread = .worker number → number ∈ s.monitors → number ∈ after.monitors
  ended : ∀ number, Ended number s → Ended number after

/-- The effects with what the invariant needs of them. -/
def MonitorsPermit (s : State) : Effect → Prop
  | .store .precvData precvData => precvData.isSome = true
  | .beginthreadex _ => s.param.precvData.isSome = true
  | .nullCall => False
  | _ => True

/-- A monitor thread between two jobs, or after its end. -/
structure MonitorIdle (number : Nat) (last : Option Result) (s : State) : Prop where
  carries : ∀ value, last ≠ some (.value value)
  ended : last = some (.iteration .exited) → Ended number s

def monitorsRules : Rules Tid State Effect Job Result where
  inv := MonitorsInv
  rely := MonitorsRely
  point thread _ effect s := MonitorsPermit s effect ∧
    ∀ number, thread = .worker number → number ∈ s.monitors
  post thread _ _ result s := ∀ number, thread = .worker number →
    MonitorIdle number (some result) s
  ready thread last s := ∀ number, thread = .worker number → MonitorIdle number last s

namespace MonitorsRely

variable {thread : Tid} {first second third : State}

theorem refl : MonitorsRely thread first first where
  registered some := some
  alive _ _ alive := alive
  ended _ ended := ended

theorem trans (early : MonitorsRely thread first second)
    (late : MonitorsRely thread second third) : MonitorsRely thread first third where
  registered some := late.registered (early.registered some)
  alive number same alive := late.alive number same (early.alive number same alive)
  ended number ended := late.ended number (early.ended number ended)

end MonitorsRely

theorem monitorsInv_start : MonitorsInv State.start where
  registered some := absurd rfl some
  numbered := by simp [State.start, State.zero]
  nodup := List.nodup_nil
  submitted block pending := by cases pending

/-! ## One effect of any thread -/

section Effects

variable {thread : Tid} {effect : Effect} {s after : State} {reply : effect.Reply}

/-- Nobody takes the receiver away. -/
theorem exec_keepsReceiver (permitted : MonitorsPermit s effect)
    (executed : exec thread effect s = some (reply, after))
    (some : s.param.precvData.isSome = true) : after.param.precvData.isSome = true := by
  have updated : after.param.precvData = (effect.update thread s.members).param.precvData :=
    congrArg (fun members : Members => members.param.precvData) (exec_members executed)
  rw [updated]
  cases effect with
  | store field value => cases field <;> first | exact permitted | exact some
  | createFile name overlapped outcome queued => cases outcome <;> exact some
  | beginthreadex outcome => cases outcome <;> exact some
  | _ => exact some

theorem exec_nextHandle (executed : exec thread effect s = some (reply, after)) :
    s.nextHandle ≤ after.nextHandle := by
  have updated : after.nextHandle = (effect.update thread s.members).nextHandle :=
    congrArg Members.nextHandle (exec_members executed)
  rw [updated]
  cases effect with
  | createFile name overlapped outcome queued =>
      cases outcome <;> first | exact Nat.le_refl _ | exact Nat.le_succ _
  | beginthreadex outcome =>
      cases outcome <;> first | exact Nat.le_refl _ | exact Nat.le_succ _
  | createEvent => exact Nat.le_succ _
  | _ => exact Nat.le_refl _

/-- A transfer that its block shows as pending has been submitted and not completed. -/
def Submits (s : State) : Prop :=
  ∀ block, (s.blocks block).pending = true → ∃ transfer ∈ s.inFlight, transfer.block = block

theorem Submits.setBlock {overlapped : Overlapped} (submits : Submits s) (block : Block)
    (settled : overlapped.pending = false) : Submits (s.setBlock block overlapped) := by
  intro other pending
  simp only [State.setBlock] at pending
  split at pending
  · rw [settled] at pending
    cases pending
  · exact submits other pending

theorem Submits.submit (submits : Submits s) (transfer : Submitted) :
    Submits (s.submit transfer) := by
  intro other pending
  by_cases same : other = transfer.block
  · exact ⟨transfer, List.mem_append_right _ (List.mem_singleton.mpr rfl), same.symm⟩
  · simp only [State.submit, State.setBlock, same, if_false] at pending
    obtain ⟨earlier, member, ofBlock⟩ := submits other pending
    exact ⟨earlier, List.mem_append_left _ member, ofBlock⟩

/-- A completion settles the block of the transfer. -/
theorem complete_settles (s : State) (transfer : Submitted) :
    ∃ overlapped, overlapped.pending = false ∧
      (s.complete transfer).blocks = (s.setBlock transfer.block overlapped).blocks ∧
      (s.complete transfer).inFlight = s.inFlight := by
  cases transfer with
  | write data completion => cases completion <;> exact ⟨_, rfl, rfl, rfl⟩
  | read count completion => cases completion <;> exact ⟨_, rfl, rfl, rfl⟩

theorem Submits.completeBlock (submits : Submits s) {block : Block}
    (completed : s.completeBlock block = some after) : Submits after := by
  simp only [State.completeBlock] at completed
  split at completed
  · cases completed
  · next transfer found =>
      have ofBlock : transfer.block = block := by simpa using List.find?_some found
      cases completed
      obtain ⟨overlapped, settled, blocks, inFlight⟩ := complete_settles
        { s with inFlight := s.inFlight.eraseP fun transfer => transfer.block = block } transfer
      intro other pending
      rw [blocks] at pending
      rw [inFlight]
      simp only [State.setBlock] at pending
      split at pending
      · rw [settled] at pending
        cases pending
      · next different =>
          obtain ⟨left, member, ofOther⟩ := submits other pending
          refine ⟨left, (List.mem_eraseP_of_neg ?_).mpr member, ofOther⟩
          rw [ofOther, ← ofBlock]
          simpa using different

theorem Submits.congr (submits : Submits s) (blocks : after.blocks = s.blocks)
    (inFlight : after.inFlight = s.inFlight) : Submits after := by
  unfold Submits
  rw [blocks, inFlight]
  exact submits

theorem execWriteFile_submits (submits : Submits s) (handle : Handle) (data : List UInt8)
    (overlapped : Bool) (outcome : WriteOutcome) :
    Submits (execWriteFile thread handle data overlapped outcome s).2 := by
  unfold execWriteFile
  split
  · cases outcome with
    | now count =>
        cases overlapped with
        | true => exact Submits.setBlock (submits.congr rfl rfl) .write rfl
        | false => exact submits.congr rfl rfl
    | pending completion =>
        cases overlapped with
        | true => exact (submits.submit (.write data completion)).congr rfl rfl
        | false => cases completion <;> exact submits.congr rfl rfl
    | refused error notPending => cases overlapped <;> exact submits.congr rfl rfl
  · exact submits.congr rfl rfl

theorem execReadFile_submits (submits : Submits s) (handle : Handle) (count : Nat)
    (overlapped : Bool) (outcome : ReadOutcome) :
    Submits (execReadFile thread handle count overlapped outcome s).2 := by
  unfold execReadFile
  split
  · cases outcome with
    | now done =>
        cases overlapped with
        | true => exact Submits.setBlock (submits.congr rfl rfl) .read rfl
        | false => exact submits.congr rfl rfl
    | pending completion =>
        cases overlapped with
        | true => exact (submits.submit (.read count completion)).congr rfl rfl
        | false => cases completion <;> exact submits.congr rfl rfl
    | refused error notPending => cases overlapped <;> exact submits.congr rfl rfl
  · exact submits.congr rfl rfl

theorem exec_submits (submits : Submits s)
    (executed : exec thread effect s = some (reply, after)) : Submits after := by
  have wired (unwired : effect.wires = false) : Submits after := by
    obtain ⟨-, inFlight, blocks⟩ := (exec_beside executed).wires unwired
    exact submits.congr blocks inFlight
  cases effect with
  | writeFile handle data overlapped outcome =>
      cases executed
      exact execWriteFile_submits submits handle data overlapped outcome
  | readFile handle count overlapped outcome =>
      cases executed
      exact execReadFile_submits submits handle count overlapped outcome
  | resetOverlapped block =>
      cases executed
      exact submits.setBlock block rfl
  | getOverlappedResult handle block =>
      have answered : ∀ s, Submits s → Submits (execOverlappedResult thread block s).2 := by
        intro s submits
        unfold execOverlappedResult
        split <;> exact submits.congr rfl rfl
      simp only [exec] at executed
      split at executed
      · split at executed
        · cases executed
        · next ended completed =>
            cases executed
            exact answered ended (submits.completeBlock completed)
      · cases executed
        exact answered s submits
  | _ => exact wired rfl

/-! ### The monitor threads alive -/

/-- The invariant holds again, and the other threads find what they rely on. -/
def MonitorsKept (thread : Tid) (s after : State) : Prop :=
  MonitorsInv after ∧ ∀ other, other ≠ thread → MonitorsRely other s after

/-- An effect that neither starts nor ends a monitor thread. -/
private theorem kept_of_unthreaded (inv : MonitorsInv s) (permitted : MonitorsPermit s effect)
    (executed : exec thread effect s = some (reply, after))
    (monitors : after.monitors = s.monitors) : MonitorsKept thread s after := by
  have receiver := exec_keepsReceiver permitted executed
  have given := exec_nextHandle executed
  refine ⟨⟨fun some => ?_, fun number alive => ?_, ?_, exec_submits inv.submitted executed⟩,
    fun _ _ => ⟨receiver, fun number _ alive => ?_, fun number ended => ?_⟩⟩
  · rw [monitors] at some
    exact receiver (inv.registered some)
  · rw [monitors] at alive
    exact Nat.lt_of_lt_of_le (inv.numbered number alive) given
  · rw [monitors]
    exact inv.nodup
  · rw [monitors]
    exact alive
  · refine ⟨Nat.lt_of_lt_of_le ended.1 given, ?_⟩
    rw [monitors]
    exact ended.2

private theorem kept_beginthreadex {outcome : Except SystemError Unit} {reply : Handle}
    (inv : MonitorsInv s) (permitted : MonitorsPermit s (.beginthreadex outcome))
    (executed : exec thread (.beginthreadex outcome) s = some (reply, after)) :
    MonitorsKept thread s after := by
  cases outcome with
  | error error =>
      have monitors : after.monitors = s.monitors := by
        cases executed
        rfl
      exact kept_of_unthreaded inv permitted executed monitors
  | ok =>
      have submitted := exec_submits inv.submitted executed
      cases executed
      have fresh : s.nextHandle ∉ s.monitors :=
        fun alive => Nat.lt_irrefl _ (inv.numbered _ alive)
      refine ⟨⟨fun _ => permitted, fun number alive => ?_, ?_, submitted⟩,
        fun _ _ => ⟨fun some => some, fun number _ alive => List.mem_append_left _ alive, ?_⟩⟩
      · rcases List.mem_append.mp alive with before | last
        · exact Nat.lt_succ_of_lt (inv.numbered number before)
        · rw [List.mem_singleton.mp last]
          exact Nat.lt_succ_self _
      · show (s.monitors ++ [s.nextHandle]).Nodup
        rw [List.nodup_append]
        refine ⟨inv.nodup, by simp, fun number alive last member => ?_⟩
        rw [List.mem_singleton.mp member]
        intro same
        subst same
        exact fresh alive
      · intro number ended
        obtain ⟨before, dead⟩ := ended
        refine ⟨Nat.lt_succ_of_lt before, fun alive => ?_⟩
        rcases List.mem_append.mp alive with running | last
        · exact dead running
        · rw [List.mem_singleton.mp last] at before
          exact Nat.lt_irrefl _ before

private theorem kept_threadExit {reply : Unit} (inv : MonitorsInv s)
    (executed : exec thread .threadExit s = some (reply, after)) :
    MonitorsKept thread s after := by
  cases thread with
  | client number => cases executed
  | worker ended =>
      cases executed
      refine ⟨⟨fun some => ?_, fun number alive => ?_, inv.nodup.erase ended, inv.submitted⟩,
        fun other different =>
          ⟨fun some => some, fun number same alive => ?_, fun number dead => ?_⟩⟩
      · refine inv.registered fun none => some ?_
        show s.monitors.erase ended = []
        rw [none]
        rfl
      · exact inv.numbered number (List.mem_of_mem_erase alive)
      · have apart : number ≠ ended := by
          intro equal
          subst equal
          exact different same
        exact (List.mem_erase_of_ne apart).mpr alive
      · exact ⟨dead.1, fun alive => dead.2 (List.mem_of_mem_erase alive)⟩

/-- What every effect keeps, whichever thread performs it. -/
theorem monitors_keep (inv : MonitorsInv s) (permitted : MonitorsPermit s effect)
    (executed : exec thread effect s = some (reply, after)) : MonitorsKept thread s after := by
  cases effect with
  | beginthreadex outcome => exact kept_beginthreadex inv permitted executed
  | threadExit => exact kept_threadExit inv executed
  | _ => exact kept_of_unthreaded inv permitted executed ((exec_beside executed).monitors rfl)

theorem external_keeps {event : Event} (inv : MonitorsInv s)
    (changed : system.external event s = some after) :
    MonitorsInv after ∧ ∀ thread, MonitorsRely thread s after := by
  cases event with
  | arrived bytes =>
      cases changed
      exact ⟨⟨inv.registered, inv.numbered, inv.nodup, inv.submitted⟩,
        fun _ => ⟨fun some => some, fun _ _ alive => alive, fun _ ended => ended⟩⟩
  | completed block =>
      have submitted := Submits.completeBlock inv.submitted changed
      obtain ⟨_, _, _, _, _, _, rfl⟩ := completeBlock_transferred s changed
      exact ⟨⟨inv.registered, inv.numbered, inv.nodup, submitted⟩,
        fun _ => ⟨fun some => some, fun _ _ alive => alive, fun _ ended => ended⟩⟩

end Effects

/-! ## The operations of a client -/

section Jobs

variable {condition : Condition Tid State Effect Job} {job : Job} {thread : Tid} {number : Nat}
  {α : Type} {post : α → State → Prop} {s : State}

abbrev MonitorsSafe (condition : Condition Tid State Effect Job) (thread : Tid) (job : Job)
    (program : Code α) (post : α → State → Prop) (s : State) : Prop :=
  Safe system condition monitorsRules thread job program post s

/-- The effects that a client may perform, if `found` with a receiver registered. -/
def Effect.harmless (found : Bool) : Effect → Bool
  | .store .precvData precvData => precvData.isSome
  | .beginthreadex _ => found
  | .nullCall => false
  | _ => true

theorem permit_of_harmless {found : Bool} {effect : Effect}
    (knows : found = true → s.param.precvData.isSome = true)
    (harmless : effect.harmless found = true) : MonitorsPermit s effect := by
  cases effect with
  | store field value => cases field <;> first | exact harmless | trivial
  | beginthreadex outcome => exact knows harmless
  | nullCall => cases harmless
  | _ => trivial

theorem client_monitors {found : Bool} {program : Code α}
    (knows : found = true → s.param.precvData.isSome = true)
    (only : program.Only fun effect => effect.harmless found = true) :
    MonitorsSafe condition (.client number) job program (fun _ _ => True) s := by
  induction program generalizing s with
  | ret value => exact fun _ _ _ => trivial
  | act effect next nextIH =>
      intro now relied inv
      have knowsNow : found = true → now.param.precvData.isSome = true :=
        fun some => relied.registered (knows some)
      have permitted := permit_of_harmless knowsNow only.1
      refine ⟨⟨permitted, fun worker same => by cases same⟩, fun reply after _ executed => ?_⟩
      obtain ⟨invAfter, others⟩ := monitors_keep inv permitted executed
      refine ⟨invAfter, others, nextIH reply (fun some => ?_) (only.2 reply)⟩
      exact exec_keepsReceiver permitted executed (knowsNow some)

theorem init_harmless {spp : SpProp} {precvData : Option IrecvData} :
    (init spp precvData).Only fun effect => effect.harmless false = true := by
  have logs : ∀ retVal : Int, (do
      store .isInit true
      if (← load .spp).isToLog then
        perform .rotatingLogger
        store .plog true
      return retVal : Code Int).Only fun effect => effect.harmless false = true := by
    intro retVal
    refine ⟨rfl, fun _ => ⟨rfl, fun _ => Prog.Only.ite (fun _ => ?_) fun _ => trivial⟩⟩
    exact ⟨rfl, fun _ => ⟨rfl, fun _ => trivial⟩⟩
  refine Prog.Only.ite (fun _ => trivial) fun _ => ⟨rfl, fun _ => ?_⟩
  exact Prog.Only.ite (fun some => ⟨some, fun _ => logs _⟩) fun _ => logs _

theorem harmless_of_opens {effect : Effect} (opens : effect.opens = true) :
    effect.harmless true = true := by
  cases effect with
  | store field value => cases field <;> first | rfl | cases opens
  | _ => first | rfl | cases opens

theorem harmless_of_routine {closing : Bool} {effect : Effect}
    (routine : effect.routine closing = true) : effect.harmless false = true := by
  cases effect with
  | store field value => cases field <;> first | rfl | cases routine
  | _ => first | rfl | cases routine

theorem operation_monitors (operation : Operation)
    (opening : ∀ outcome, operation = .open outcome → s.param.precvData.isSome = true) :
    MonitorsSafe condition (.client number) job (runJob (.operation operation))
      (fun _ _ => True) s := by
  have recorded (found : Bool) (knows : found = true → s.param.precvData.isSome = true)
      (only : (runOperation operation).Only fun effect => effect.harmless found = true) :
      MonitorsSafe condition (.client number) job (runJob (.operation operation))
        (fun _ _ => True) s := by
    have marked : (runJob (.operation operation)).Only fun effect => effect.harmless found = true :=
      only.bind fun _ => ⟨rfl, fun _ => trivial⟩
    exact client_monitors knows marked
  have idly : false = true → s.param.precvData.isSome = true := fun never => by cases never
  cases operation with
  | init spp precvData => exact recorded false idly (init_harmless.bind fun _ => trivial)
  | «open» outcome =>
      have opened : (runOperation (.open outcome)).Only fun effect => effect.harmless true = true :=
        (open_only fun _ => harmless_of_opens).bind fun _ => trivial
      exact recorded true (fun _ => opening outcome rfl) opened
  | _ => exact recorded false idly ((runOperation_routine rfl).mono fun _ => harmless_of_routine)

/-! ## The jobs of a monitor thread -/

/-- What a monitor thread knows wherever it stands. -/
structure Alive (number : Nat) (s : State) : Prop where
  inv : MonitorsInv s
  alive : number ∈ s.monitors

theorem Alive.registered (alive : Alive number s) : s.param.precvData.isSome = true :=
  alive.inv.registered (List.ne_nil_of_mem alive.alive)

theorem Alive.stable {after : State} (alive : Alive number s)
    (relied : MonitorsRely (.worker number) s after) (inv : MonitorsInv after) :
    Alive number after :=
  ⟨inv, relied.alive number rfl alive.alive⟩

/-- What a monitor thread may perform wherever it stands. -/
def Effect.watching : Effect → Bool
  | .threadExit | .nullCall => false
  | effect => effect.monitors

theorem permit_of_watching {effect : Effect} (watching : effect.watching = true) :
    MonitorsPermit s effect := by
  cases effect with
  | store field value => cases field <;> trivial
  | beginthreadex | nullCall => cases watching
  | _ => trivial

variable {effect : Effect} {next : effect.Reply → Code α}

theorem monitor_step (alive : Alive number s) (watching : effect.watching = true)
    (continued : ∀ s reply after, Alive number s →
      exec (.worker number) effect s = some (reply, after) → Alive number after →
      MonitorsSafe condition (.worker number) job (next reply) post after) :
    MonitorsSafe condition (.worker number) job (.act effect next) post s := by
  intro now relied inv
  have aliveNow : Alive number now := alive.stable relied inv
  have permitted : MonitorsPermit now effect := permit_of_watching watching
  refine ⟨⟨permitted, fun worker same => ?_⟩, fun reply after _ executed => ?_⟩
  · cases same
    exact aliveNow.alive
  · obtain ⟨invAfter, others⟩ := monitors_keep inv permitted executed
    have monitors : after.monitors = now.monitors := (exec_beside executed).monitors (by
      cases effect <;> first | rfl | cases watching)
    have aliveAfter : Alive number after := ⟨invAfter, monitors ▸ aliveNow.alive⟩
    exact ⟨invAfter, others, continued now reply after aliveNow executed aliveAfter⟩

/-- A step whose answer does not matter. -/
theorem monitor_skip (alive : Alive number s) (watching : effect.watching = true)
    (continued : ∀ reply s, Alive number s →
      MonitorsSafe condition (.worker number) job (next reply) post s) :
    MonitorsSafe condition (.worker number) job (.act effect next) post s :=
  monitor_step alive watching fun _ reply after _ _ aliveAfter => continued reply after aliveAfter

/-- The receiver that a monitor thread loads is not null. -/
theorem monitor_receiver {next : Option IrecvData → Code α} (alive : Alive number s)
    (continued : ∀ receiver s, Alive number s →
      MonitorsSafe condition (.worker number) job (next (some receiver)) post s) :
    MonitorsSafe condition (.worker number) job (.act (.load .precvData) next) post s := by
  refine monitor_step alive rfl fun s reply after found executed aliveAfter => ?_
  obtain ⟨receiver, same⟩ := Option.isSome_iff_exists.mp found.registered
  have loaded : reply = some receiver := by
    cases executed
    exact same
  subst loaded
  exact continued receiver after aliveAfter

theorem monitor_done {value : α} (alive : Alive number s)
    (ends : ∀ now, Alive number now → post value now) :
    MonitorsSafe condition (.worker number) job (.ret value) post s :=
  fun now relied inv => ends now (alive.stable relied inv)

theorem monitor_bind {β : Type} {program : Code β} {rest : β → Code α} (alive : Alive number s)
    (first : MonitorsSafe condition (.worker number) job program (fun _ => Alive number) s)
    (second : ∀ value s, Alive number s →
      MonitorsSafe condition (.worker number) job (rest value) post s) :
    MonitorsSafe condition (.worker number) job (program >>= rest) post s :=
  Safe.bind (fun _ => MonitorsRely.refl) alive.inv
    (first.mono fun value now _ => second value now)

/-- The thread goes on alive, whatever the programs have done. -/
abbrev MonitorStays (condition : Condition Tid State Effect Job) (job : Job) (number : Nat)
    (program : Code α) (s : State) : Prop :=
  MonitorsSafe condition (.worker number) job program (fun _ => Alive number) s

theorem monitor_stays {value : α} (alive : Alive number s) :
    MonitorStays condition job number (.ret value) s :=
  monitor_done alive fun _ aliveNow => aliveNow

theorem watching_stays {program : Code α} (alive : Alive number s)
    (only : program.Only fun effect => effect.watching = true) :
    MonitorStays condition job number program s := by
  induction program generalizing s with
  | ret value => exact monitor_stays alive
  | act effect next nextIH =>
      exact monitor_skip alive only.1 fun reply s alive => nextIH reply alive (only.2 reply)

theorem readOverlapped_stays {notify maxSize : Nat} {outcome : ReadOutcome}
    (alive : Alive number s) :
    MonitorStays condition job number (readOverlapped (pure ()) notify maxSize outcome) s := by
  refine monitor_skip alive rfl fun handle s alive => ?_
  refine monitor_skip alive rfl fun arrRead s alive => ?_
  cases arrRead with
  | none =>
      refine watching_stays alive ⟨rfl, fun errorId => Prog.Only.ite (fun _ => ?_) fun _ => trivial⟩
      exact ⟨rfl, fun _ => ⟨rfl, fun _ => trivial⟩⟩
  | some arrRead =>
      refine monitor_receiver alive fun receiver s alive => ?_
      refine Safe.ite (fun _ => monitor_stays alive) fun _ => ?_
      exact monitor_skip alive rfl fun _ s alive => monitor_stays alive

/-- The null call is never reached. -/
theorem readPlain_stays {notify maxSize : Nat} {outcome : ReadOutcome} (alive : Alive number s) :
    MonitorStays condition job number (readPlain (pure ()) notify maxSize outcome) s := by
  refine monitor_skip alive rfl fun handle s alive => ?_
  refine monitor_skip alive rfl fun arrRead s alive => ?_
  cases arrRead with
  | none => exact monitor_stays alive
  | some arrRead =>
      refine Safe.ite (fun _ => monitor_stays alive) fun _ => ?_
      refine monitor_receiver alive fun receiver s alive => ?_
      exact monitor_skip alive rfl fun _ s alive => monitor_stays alive

theorem readMode_stays {notify maxSize : Nat} {outcome : ReadOutcome} (alive : Alive number s) :
    MonitorStays condition job number (readMode (pure ()) notify maxSize outcome) s := by
  refine monitor_skip alive rfl fun spp s alive => ?_
  refine Safe.ite (fun _ => ?_) fun _ => readPlain_stays alive
  refine monitor_skip alive rfl fun _ s alive => monitor_skip alive rfl fun event s alive => ?_
  refine monitor_skip alive rfl fun _ s alive => ?_
  refine (monitor_bind alive (readOverlapped_stays alive) fun _ s alive => ?_ :)
  exact watching_stays alive ⟨rfl, fun _ => ⟨rfl, fun _ => trivial⟩⟩

theorem readData_stays {notify unread : Nat} {outcome : ReadOutcome} (alive : Alive number s) :
    MonitorStays condition job number (readData (pure ()) notify unread outcome) s := by
  have sized : (readSize unread).Only fun effect => effect.watching = true :=
    ⟨rfl, fun _ => Prog.Only.ite (fun _ => ⟨rfl, fun _ => ⟨rfl, fun _ => trivial⟩⟩)
      fun _ => trivial⟩
  have marked : ∀ (retVal : Int) s, Alive number s → MonitorStays condition job number
      (do perform (.leave .readData); return retVal) s :=
    fun _ _ alive => watching_stays alive ⟨rfl, fun _ => trivial⟩
  refine monitor_bind alive ?_ fun retVal s alive => marked retVal s alive
  refine monitor_skip alive rfl fun handle s alive => ?_
  refine Safe.ite (fun _ => monitor_stays alive) fun _ => ?_
  refine monitor_bind alive (watching_stays alive sized) fun maxSize s alive => ?_
  refine monitor_skip alive rfl fun _ s alive => ?_
  refine (monitor_bind alive (readMode_stays alive) fun _ s alive => ?_ :)
  exact watching_stays alive ⟨rfl, fun _ => trivial⟩

theorem handleEvent_stays {eventMask : BitVec 32} {outcome : MonitorOutcome}
    (alive : Alive number s) :
    MonitorStays condition job number (handleEvent (pure ()) eventMask outcome) s := by
  refine Safe.ite (fun _ => ?_) fun _ => monitor_stays alive
  refine monitor_skip alive rfl fun handle s alive => ?_
  refine monitor_skip alive rfl fun cbInQue s alive => ?_
  refine monitor_skip alive rfl fun notify s alive => ?_
  refine Safe.ite (fun _ => ?_) fun _ => monitor_stays alive
  exact monitor_bind alive (readData_stays alive) fun _ s alive => monitor_stays alive

/-! ### Its end -/

/-- An iteration ends in the next one, or with the thread. -/
def MonitorEnds (number : Nat) (iteration : Iteration) (s : State) : Prop :=
  iteration = .exited → Ended number s

abbrev MonitorRuns (condition : Condition Tid State Effect Job) (job : Job) (number : Nat)
    (program : Code Iteration) (s : State) : Prop :=
  MonitorsSafe condition (.worker number) job program (MonitorEnds number) s

theorem monitor_next {eventMask : BitVec 32} :
    MonitorRuns condition job number (.ret (.next eventMask)) s :=
  fun _ _ _ never => by cases never

theorem monitor_leaves (alive : Alive number s) :
    MonitorRuns condition job number (do perform .threadExit; return .exited) s := by
  intro now relied inv
  have aliveNow : Alive number now := alive.stable relied inv
  refine ⟨⟨trivial, fun worker same => ?_⟩, fun reply after _ executed => ?_⟩
  · cases same
    exact aliveNow.alive
  · have executed : exec (.worker number) .threadExit now = some (reply, after) := executed
    have permitted : MonitorsPermit now .threadExit := trivial
    obtain ⟨invAfter, others⟩ := monitors_keep inv permitted executed
    refine ⟨invAfter, others, fun later reliedLater _ _ => reliedLater.ended number ?_⟩
    have given := inv.numbered number aliveNow.alive
    cases executed
    exact ⟨given, inv.nodup.not_mem_erase⟩

theorem enterMonitor_runs (alive : Alive number s) :
    MonitorRuns condition job number enterMonitor s := by
  refine monitor_skip alive rfl fun handle s alive => ?_
  refine Safe.ite (fun _ => monitor_leaves alive) fun _ => ?_
  refine monitor_skip alive rfl fun _ s alive => monitor_skip alive rfl fun _ s alive => ?_
  exact monitor_next

theorem threadRecvDataMonitor_runs {eventMask : BitVec 32} {outcome : MonitorOutcome}
    (alive : Alive number s) :
    MonitorRuns condition job number (threadRecvDataMonitor (pure ()) eventMask outcome) s := by
  have running : getRecvThreadIsRunning.Only fun effect => effect.watching = true :=
    ⟨rfl, fun _ => ⟨rfl, fun _ => ⟨rfl, fun _ => ⟨rfl, fun _ => trivial⟩⟩⟩⟩
  refine monitor_bind alive (watching_stays alive running) fun running s alive => ?_
  refine Safe.ite (fun _ => monitor_leaves alive) fun _ => ?_
  refine monitor_skip alive rfl fun handle s alive => monitor_skip alive rfl fun _ s alive => ?_
  refine monitor_skip alive rfl fun event s alive => ?_
  refine monitor_skip alive rfl fun signalled s alive => ?_
  refine Safe.ite (fun _ => ?_) fun _ => monitor_next
  refine monitor_skip alive rfl fun handle s alive => ?_
  refine monitor_skip alive rfl fun confirmed s alive => ?_
  refine Safe.ite (fun _ => monitor_leaves alive) fun _ => ?_
  refine monitor_bind alive (handleEvent_stays alive) fun _ s alive => ?_
  refine Safe.ite (fun _ => ?_) fun _ => monitor_next
  exact monitor_skip alive rfl fun _ s alive => monitor_skip alive rfl fun _ s _ => monitor_next

theorem runJob_ends {last : Option Result} (inv : MonitorsInv s)
    (admitted : admits (.worker number) last s job = true) :
    MonitorsSafe condition (.worker number) job (runJob job)
      (fun result => MonitorIdle number (some result)) s := by
  have idle : ∀ iteration s, MonitorEnds number iteration s →
      MonitorIdle number (some (.iteration iteration)) s := by
    intro iteration s ends
    refine ⟨fun value same => ?_, fun same => ends ?_⟩
    · cases same
    · cases same
      rfl
  have finishes {program : Code Iteration} (runs : MonitorRuns condition job number program s) :
      MonitorsSafe condition (.worker number) job
        (do return .iteration (← program) : Code Result)
        (fun result => MonitorIdle number (some result)) s := by
    refine Safe.bind (fun _ => MonitorsRely.refl) inv (runs.mono fun iteration now _ ends => ?_)
    intro later relied _
    exact idle iteration later fun same => relied.ended number (ends same)
  cases job with
  | operation operation => rcases last with _ | (value | (_ | _)) <;> cases admitted
  | enter =>
      have alive : Alive number s := by
        rcases last with _ | (value | (_ | _))
        · exact ⟨inv, by simpa [admits] using admitted⟩
        · cases admitted
        · cases admitted
        · cases admitted
      exact finishes (enterMonitor_runs alive)
  | iteration eventMask outcome =>
      have alive : Alive number s := by
        rcases last with _ | (value | (carried | _))
        · cases admitted
        · cases admitted
        · exact ⟨inv, by simpa [admits] using (Bool.and_eq_true_iff.mp admitted).1⟩
        · cases admitted
      exact finishes (threadRecvDataMonitor_runs alive)

end Jobs

/-! ## The runs -/

/-- `open` is called once a receiver is registered. -/
def Registers (condition : Condition Tid State Effect Job) : Prop :=
  ∀ {thread outcome s}, condition.begins thread (.operation (.open outcome)) s = true →
    s.param.precvData.isSome = true

theorem monitors_contract {condition : Condition Tid State Effect Job}
    (registers : Registers condition) : Contract system condition monitorsRules where
  rely_refl _ _ := .refl
  rely_trans _ _ _ _ early late := early.trans late
  inv_start := monitorsInv_start
  ready_start _ _ _ := by
    constructor
    · intro value same
      cases same
    · intro same
      cases same
  ready_stable thread last s after ready relied _ := by
    intro number same
    obtain ⟨carries, ended⟩ := ready number same
    exact ⟨carries, fun exited => relied.ended number (ended exited)⟩
  external event _ _ inv changed := external_keeps inv changed
  post_ready _ _ _ _ _ _ post := post
  call thread last job s inv _ admitted begun := by
    cases thread with
    | worker number =>
        refine (runJob_ends inv admitted).mono fun result now _ idle worker same => ?_
        cases same
        exact idle
    | client number =>
        cases job with
        | enter | iteration => cases admitted
        | operation operation =>
            have opening : ∀ outcome, operation = .open outcome →
                s.param.precvData.isSome = true := by
              intro outcome same
              subst same
              exact registers begun
            refine (operation_monitors operation opening).mono fun result now _ _ worker same => ?_
            cases same

/-- `open` is called once a receiver is registered, by whichever client. -/
def registeredFirst : Condition Tid State Effect Job where
  begins _ job s :=
    match job with
    | .operation (.open _) => s.param.precvData.isSome
    | _ => true
  acts _ _ _ _ := true

theorem registeredFirst_registers : Registers registeredFirst := fun begins => begins

/-- Whatever the clients do, and however many monitor threads their calls of `close` have
given up: a monitor thread takes a step only while it is alive, and no thread ever comes
to a call through a null receiver. -/
theorem null_never_called (config : Config Tid State Effect Effect.Reply Job Result)
    (reachable : system.Reachable registeredFirst config) (thread : Tid)
    (call : Call State Effect Effect.Reply Job Result) (calls : config.calls thread = some call) :
    ¬ call.Next .nullCall ∧ ∀ number effect, thread = .worker number → call.Next effect →
      number ∈ config.state.monitors := by
  have contract := monitors_contract registeredFirst_registers
  refine ⟨fun standing => ?_, fun number effect same standing => ?_⟩
  · exact (contract.point_of_reachable reachable calls standing).1
  · exact (contract.point_of_reachable reachable calls standing).2 number same

/-- A `close` gives the monitor thread up on its way to `read_data`. -/
def readingRun (precvData : Option IrecvData) : List (Label Tid Job Event) :=
  Label.burst (.client 0) (.operation (.init eightNone precvData)) (4 + precvData.toList.length) ++
    Label.burst (.client 0) (.operation (.open .fine)) 36 ++
    Label.burst (.worker 3) .enter 3 ++
    .external (.arrived [0x61]) ::
    Label.burst (.worker 3) (.iteration 0 (.rxchar (.now ()))) 13 ++
    Label.burst (.client 0) (.operation (.close ⟨true⟩)) 25

/-- The thread finds no handle and the synchronous mode; then another client opens the
port again, and the thread reads. -/
def readingOnRun : List (Label Tid Job Event) :=
  Label.burst (.client 1) (.operation (.init { eightNone with opMode := modeSync } none)) 4 ++
    List.replicate 4 (.act (.worker 3)) ++
    Label.burst (.client 1) (.operation (.open .fine)) 8 ++
    .external (.arrived [0x62]) :: List.replicate 3 (.act (.worker 3))

theorem null_never_called_overtaken :
    ∃ between config call,
      system.steps registeredFirst system.initial (readingRun (some 7)) = some between ∧
      system.steps registeredFirst between readingOnRun = some config ∧
      config.calls (.worker 3) = some call ∧ call.Next (.onRecvData 7 [0x62] 1) ∧
      ¬ call.Next .nullCall ∧ 3 ∈ config.state.monitors := by
  have ran : ∃ between config call,
      system.steps registeredFirst system.initial (readingRun (some 7)) = some between ∧
      system.steps registeredFirst between readingOnRun = some config ∧
      config.calls (.worker 3) = some call ∧ call.Next (.onRecvData 7 [0x62] 1) :=
    ⟨_, _, _, rfl, rfl, rfl, ⟨_, rfl⟩⟩
  obtain ⟨between, config, call, early, late, calls, standing⟩ := ran
  have reachable := (Machine.Reachable.of_steps .start early).of_steps late
  obtain ⟨never, alive⟩ := null_never_called config reachable (.worker 3) call calls
  exact ⟨between, config, call, early, late, calls, standing, never, alive 3 _ rfl standing⟩

/-- Without a receiver the same steps lead to the null call. -/
example : ∃ between config call,
    system.steps .always system.initial (readingRun none) = some between ∧
    system.steps .always between readingOnRun = some config ∧
    config.calls (.worker 3) = some call ∧ call.Next .nullCall :=
  ⟨_, _, _, rfl, rfl, rfl, ⟨_, rfl⟩⟩

end LibSp.Windows
