import LibSp.Linux.Runs

/-!
# Opening and closing with one client

What `open` leaves behind when it returns, and which threads `pthread_join` is
called for, in every run with one client.
-/

set_option autoImplicit false

namespace LibSp.Linux

open Concurrent

section

variable {exact strict : Prop} {s : State}

theorem mem_receivers_iff (inv : Inv exact strict s) (idle : Idle s.port) (number : Nat) :
    number ∈ s.receivers ↔ s.port.Unjoined number := by
  refine ⟨inv.receivers_unjoined number, fun unjoined => ?_⟩
  cases isOpened : s.port.param.isOpened with
  | false => exact absurd unjoined ((idle.closed isOpened).2.2 number)
  | true =>
      rcases (idle.opened isOpened).2 with quiet | running
      · exact absurd unjoined (quiet number)
      · exact inv.running_alive running number unjoined

theorem receivers_eq_singleton (inv : Inv exact strict s) {number : Nat}
    (alive : number ∈ s.receivers) : s.receivers = [number] := by
  have unique : ∀ other ∈ s.receivers, other = number :=
    fun other running => inv.receivers_unique running alive
  cases receivers : s.receivers with
  | nil => simp [receivers] at alive
  | cons first rest =>
      rw [receivers] at unique
      cases rest with
      | nil => rw [unique first (by simp)]
      | cons second others =>
          have nodup := inv.receivers_nodup
          rw [receivers, unique first (by simp), unique second (by simp)] at nodup
          simp at nodup

end

/-! ## `open` -/

/-- An `open` that returns 0 leaves an open port, with one receive thread if a
receiver is registered; any other value leaves everything as it was. -/
def AllOrNothing (before : State) (value : Int) (after : State) : Prop :=
  (value = 0 → after.port.param.isOpened = true ∧
    (after.port.param.precvData.isSome = true →
      ∃ number : Nat, after.receivers = [number] ∧ after.port.param.threadRecv = number)) ∧
  (value ≠ 0 → after.port.param.isOpened = before.port.param.isOpened ∧
    after.port.fds = before.port.fds ∧
    after.port.param.threadRecvIsRunning = before.port.param.threadRecvIsRunning ∧
    ∀ number, number ∈ after.receivers ↔ number ∈ before.receivers)

/-- The one failure that `open` does not notice: `pthread_create` for a
registered receiver, after everything else has succeeded. -/
def ThreadMissing (outcome : OpenOutcome) (before : State) : Prop :=
  Opens outcome before.port ∧ before.port.param.precvData.isSome = true ∧
    ∃ error leftover, outcome.pthreadCreate = .failed error leftover

theorem allOrNothing_iff {exact strict : Prop} {before after : State} {outcome : OpenOutcome}
    {value : Int} (invBefore : Inv exact strict before) (idleBefore : Idle before.port)
    (inv : Inv exact strict after) (idle : Idle after.port)
    (done : OpenDone outcome before.port value after.port) :
    AllOrNothing before value after ↔ ¬ ThreadMissing outcome before := by
  cases done with
  | opened opens zero isOpened precvData thread =>
      cases create : outcome.pthreadCreate with
      | created =>
          have notMissing : ¬ ThreadMissing outcome before := by
            intro fails
            obtain ⟨-, -, error, leftover, failed⟩ := fails
            rw [create] at failed
            cases failed
          refine iff_of_true ⟨fun _ => ⟨isOpened, fun registered => ?_⟩,
            fun nonzero => absurd zero nonzero⟩ notMissing
          rw [precvData] at registered
          have started := thread registered
          rw [create] at started
          have alive := inv.running_alive started.1 _ started.2
          exact ⟨_, receivers_eq_singleton inv alive, (inv.unjoined_current _ started.2).1⟩
      | failed error leftover =>
          constructor
          · rintro ⟨succeeds, -⟩ ⟨-, registered, -⟩
            have quiet := thread registered
            rw [create] at quiet
            obtain ⟨number, receivers, -⟩ := (succeeds zero).2 (precvData ▸ registered)
            rw [inv.receivers_nil quiet] at receivers
            cases receivers
          · intro notMissing
            refine ⟨fun _ => ⟨isOpened, fun registered => ?_⟩, fun nonzero => absurd zero nonzero⟩
            rw [precvData] at registered
            exact absurd ⟨opens, registered, error, leftover, create⟩ notMissing
  | failed fails nonzero fd fds running threads =>
      refine iff_of_true ⟨fun zero => absurd zero nonzero, fun _ => ?_⟩ fun missing =>
        fails missing.1
      refine ⟨by rw [SpParamLinux.isOpened, fd, SpParamLinux.isOpened], fds, running,
        fun number => ?_⟩
      rw [mem_receivers_iff inv idle, mem_receivers_iff invBefore idleBefore, threads]

/-- Every `open` of every run with one client is all or nothing, except the one
whose thread could not be created. -/
theorem open_allOrNothing_iff (libc : SpeedSetters)
    (config : Config Tid State Effect Effect.Reply Job Result)
    (reachable : (system libc).Reachable oneClient config)
    (call : Call State Effect Effect.Reply Job Result) (outcome : OpenOutcome) (value : Int)
    (calls : config.calls (.client 0) = some call) (job : call.job = .operation (.open outcome))
    (returned : call.Returned (.value (.code value))) :
    AllOrNothing call.entry value config.state ↔ ¬ ThreadMissing outcome call.entry := by
  have contract := linux_contract libc oneClient_assumes
  have inv := contract.inv_of_reachable reachable
  have ended := contract.post_of_reachable reachable calls returned
  rw [job] at ended
  obtain ⟨invBefore, idleBefore, idle, done⟩ := ended
  exact allOrNothing_iff invBefore idleBefore inv idle done

def openingRun (outcome : OpenOutcome) (effects : Nat) : List (Label Tid Job (List UInt8)) :=
  Label.burst (.client 0) (.operation (.init eightNone (some 7))) 3 ++
    Label.burst (.client 0) (.operation (.open outcome)) effects

theorem open_allOrNothing_fine :
    ∃ config call, (system glibc).steps oneClient (system glibc).initial
        (openingRun (.fine 3) 18) = some config ∧
      config.calls (.client 0) = some call ∧
      (AllOrNothing call.entry 0 config.state ↔ ¬ ThreadMissing (.fine 3) call.entry) := by
  have ran : ∃ config call, (system glibc).steps oneClient (system glibc).initial
      (openingRun (.fine 3) 18) = some config ∧ config.calls (.client 0) = some call ∧
      call.job = .operation (.open (.fine 3)) ∧ call.Returned (.value (.code 0)) :=
    ⟨_, _, rfl, rfl, rfl, rfl⟩
  obtain ⟨config, call, steps, calls, job, returned⟩ := ran
  exact ⟨config, call, steps, calls, open_allOrNothing_iff glibc config (.of_steps .start steps)
    call (.fine 3) 0 calls job returned⟩

def OpenOutcome.noThread : OpenOutcome :=
  { OpenOutcome.fine 3 with pthreadCreate := .failed ⟨11, by decide⟩ 0 }

/-- `open` returns 0 with a receiver registered and no receive thread. -/
theorem open_noThread_returns_zero :
    ∃ config call, (system glibc).Reachable oneClient config ∧
      config.calls (.client 0) = some call ∧
      call.job = .operation (.open .noThread) ∧ call.Returned (.value (.code 0)) ∧
      config.state.port.param.precvData = some 7 ∧ config.state.receivers = [] ∧
      ¬ AllOrNothing call.entry 0 config.state := by
  have ran : ∃ config call, (system glibc).steps oneClient (system glibc).initial
      (openingRun .noThread 18) = some config ∧ config.calls (.client 0) = some call ∧
      call.job = .operation (.open .noThread) ∧ call.Returned (.value (.code 0)) ∧
      config.state.port.param.precvData = some 7 ∧ config.state.receivers = [] :=
    ⟨_, _, rfl, rfl, rfl, rfl, rfl, rfl⟩
  obtain ⟨config, call, steps, calls, job, returned, registered, none⟩ := ran
  refine ⟨config, call, .of_steps .start steps, calls, job, returned, registered, none, ?_⟩
  intro opens
  obtain ⟨succeeds, -⟩ := opens
  obtain ⟨number, receivers, -⟩ := (succeeds rfl).2 (by rw [registered]; rfl)
  rw [none] at receivers
  cases receivers

/-! ## `pthread_join` -/

/-- An open port is closed only while its receive thread is there, and no `open`
fails after it has got a descriptor. -/
def threadsToJoin : Condition Tid State Effect Job where
  begins _ job s :=
    match job with
    | .operation .close | .operation .destroy =>
        !s.port.param.isOpened || !s.receivers.isEmpty
    | .operation (.open outcome) =>
        s.port.param.isOpened || !outcome.descriptor.isOk ||
          (outcome.fcntl.isOk && outcome.tcgetattr.isOk && outcome.tcsetattr.isOk)
    | _ => true
  acts _ _ _ _ := true

theorem joinable_of_receivers {exact strict : Prop} {s : State} (inv : Inv exact strict s)
    (present : (!s.port.param.isOpened || !s.receivers.isEmpty) = true) :
    Joinable strict s.port := by
  intro _ isOpened
  rw [isOpened] at present
  cases receivers : s.receivers with
  | nil => simp [receivers] at present
  | cons number rest =>
      have unjoined := inv.receivers_unjoined number (by simp [receivers])
      exact ⟨number, (inv.unjoined_current number unjoined).1, unjoined⟩

theorem threadsToJoin_assumes : Assumes (oneClient.both threadsToJoin) False True where
  single begins := (Condition.both_begins.mp begins).1
  exactly _ := nofun
  careful := by
    intro thread operation s inv begins
    have careful : threadsToJoin.begins thread (.operation operation) s = true :=
      (Condition.both_begins.mp begins).2
    cases operation with
    | «open» outcome =>
        intro _ isClosed grants
        simp only [threadsToJoin, isClosed, grants] at careful
        simpa [and_assoc] using careful
    | close | destroy => exact joinable_of_receivers inv careful
    | _ => trivial

def Effect.replacesThread : Effect → Bool
  | .pthreadCreate _ | .store .threadRecv _ => true
  | _ => false

/-- In every run with one client that closes open ports only while they have a
receive thread: each join is for the one thread that is created and not joined,
and the identifier is replaced only when every created thread has been joined. -/
theorem joins_created_threads (libc : SpeedSetters)
    (config : Config Tid State Effect Effect.Reply Job Result)
    (reachable : (system libc).Reachable (oneClient.both threadsToJoin) config) :
    config.state.port.badJoins = [] ∧
    (∀ thread call identifier, config.calls thread = some call →
      call.Next (.pthreadJoin identifier) →
      ∃ number : Nat, identifier = number ∧ config.state.port.Unjoined number) ∧
    (∀ thread call effect, config.calls thread = some call → call.Next effect →
      effect.replacesThread = true → config.state.port.Quiet) := by
  have contract := linux_contract libc threadsToJoin_assumes
  refine ⟨(contract.inv_of_reachable reachable).joins trivial,
    fun thread call identifier calls standing => ?_,
    fun thread call effect calls standing replaces => ?_⟩
  · have pointed := contract.point_of_reachable reachable calls standing
    cases thread with
    | client thread => exact pointed.2 trivial
    | worker number => exact pointed.2.elim
  · have pointed := contract.point_of_reachable reachable calls standing
    cases thread with
    | client thread =>
        cases effect with
        | pthreadCreate outcome => exact pointed.1
        | store field value =>
            cases field with
            | threadRecv => exact pointed
            | _ => cases replaces
        | _ => cases replaces
    | worker number =>
        cases effect with
        | pthreadCreate outcome => exact pointed.2.elim
        | store field value => exact pointed.2.elim
        | _ => cases replaces

def joiningRun : List (Label Tid Job (List UInt8)) :=
  openingRun (.fine 3) 18 ++ Label.burst (.client 0) (.operation .close) 3

theorem joins_created_threads_joining :
    ∃ config call, (system glibc).steps (oneClient.both threadsToJoin) (system glibc).initial
        joiningRun = some config ∧
      config.calls (.client 0) = some call ∧ call.Next (.pthreadJoin 0) ∧
      config.state.port.badJoins = [] ∧
      ∃ number : Nat, (0 : Int) = number ∧ config.state.port.Unjoined number := by
  have ran : ∃ config call, (system glibc).steps (oneClient.both threadsToJoin)
      (system glibc).initial joiningRun = some config ∧
      config.calls (.client 0) = some call ∧ call.Next (.pthreadJoin 0) :=
    ⟨_, _, rfl, rfl, _, rfl⟩
  obtain ⟨config, call, steps, calls, standing⟩ := ran
  have joins := joins_created_threads glibc config (.of_steps .start steps)
  exact ⟨config, call, steps, calls, standing, joins.1, joins.2.1 _ call 0 calls standing⟩

/-- A port opened without a receiver: its `close` joins a thread that was never created. -/
theorem close_without_thread_joins :
    ∃ config call, (system glibc).Reachable oneClient config ∧
      config.calls (.client 0) = some call ∧ call.Next (.pthreadJoin invalidValue) ∧
      config.state.port.created = 0 := by
  have ran : ∃ config call, (system glibc).steps oneClient (system glibc).initial
      (Label.burst (.client 0) (.operation (.init eightNone none)) 2 ++
        Label.burst (.client 0) (.operation (.open (.fine 3))) 16 ++
        Label.burst (.client 0) (.operation .close) 3) = some config ∧
      config.calls (.client 0) = some call ∧ call.Next (.pthreadJoin invalidValue) ∧
      config.state.port.created = 0 := ⟨_, _, rfl, rfl, ⟨_, rfl⟩, rfl⟩
  obtain ⟨config, call, steps, calls, standing, none⟩ := ran
  exact ⟨config, call, .of_steps .start steps, calls, standing, none⟩

end LibSp.Linux
