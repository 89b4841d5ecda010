import LibSp.Linux.Input
import LibSp.Linux.OpenClose
import LibSp.Linux.Session
import LibSp.Concurrent.Progress

/-!
# Every operation can be completed

A client waits for the mutex of the port and, in `stop_thread_recv`, for the end of
its receive thread. Both are granted by steps of the receive thread alone, if `send`
is called on open ports only and the system answers each query of the input queue.
-/

set_option autoImplicit false

namespace LibSp.Linux

open Concurrent

/-! ## The runs -/

/-- Data is sent on an open port only, `open` gets a descriptor that the object does not
hold, and the queries of the input queue succeed. -/
def considerate : Condition Tid State Effect Job where
  begins _ job s :=
    match job with
    | .iteration _ outcome => outcome.fionread
    | .operation (.send (some data) _) => data.isEmpty || s.port.param.isOpened
    | .operation (.open outcome) =>
        match outcome.descriptor with
        | .ok fd => decide (0 ≤ fd ∧ fd ∉ s.port.fds)
        | .error _ => true
    | .operation _ => true
  acts _ _ _ _ := true

theorem considerate_assumes : Assumes (oneClient.both considerate) True False where
  single begins := (Condition.both_begins.mp begins).1
  exactly begins _ := (Condition.both_begins.mp begins).2
  careful _ _ := careful_of_lax

/-! ## Where the client may have to wait -/

/-- What the client has established at the effects that may have to wait, on the port
as it found it. -/
def Attends (job : Job) (entry : Port) (effect : Effect) (now : Port) : Prop :=
  match effect with
  | .isOpened => ∀ pdata outcome, job = .operation (.send pdata outcome) →
      now.param = entry.param ∧ ∃ data, pdata = some data ∧ data.length ≠ 0
  | .open _ outcome => job = .operation (.open outcome) ∧ now.fds = entry.fds
  | .pthreadJoin _ => job.locks = false ∧ now.param.threadRecvIsRunning = false
  | _ => True

section Attends

variable {libc : SpeedSetters} {job : Job} {entry port : Port} {α : Type}
  {post : α → Port → Prop}

abbrev AttendsAlone (job : Job) (entry : Port) (program : Code α) (post : α → Port → Prop)
    (port : Port) : Prop :=
  program.Alone Effect.look (Attends job entry) post port

def Effect.plain : Effect → Bool
  | .isOpened | .open .. | .pthreadJoin _ => false
  | _ => true

theorem attends_of_plain {effect : Effect} {now : Port} (plain : effect.plain = true) :
    Attends job entry effect now := by
  cases effect <;> trivial

theorem attends_act {effect : Effect} {next : effect.Reply → Code α} (plain : effect.plain = true)
    (continued : ∀ reply after, effect.look port reply after →
      AttendsAlone job entry (next reply) post after) :
    AttendsAlone job entry (.act effect next) post port :=
  ⟨attends_of_plain plain, continued⟩

theorem attends_of_only {program : Code α}
    (only : program.Only fun effect => effect.plain = true) :
    AttendsAlone job entry program (fun _ _ => True) port :=
  Prog.Alone.of_only (fun _ _ plain _ => attends_of_plain plain) (fun _ _ _ _ _ _ _ => trivial)
    only trivial

theorem attends_isOpened (outside : job.locks = false) : Attends job entry .isOpened port := by
  intro pdata outcome same
  subst same
  cases outside

/-- The thread is joined with the flag cleared. -/
theorem close_attends (outside : job.locks = false) :
    AttendsAlone job entry close (fun _ _ => True) port := by
  refine ⟨attends_isOpened outside, fun opened now _ => ?_⟩
  refine Prog.Alone.ite (fun _ => trivial) fun _ => ?_
  refine attends_act rfl fun _ cleared stored => attends_act rfl fun _ same loaded => ?_
  have flag : same.param.threadRecvIsRunning = false := by
    cases stored
    rw [loaded.2]
    rfl
  refine ⟨⟨outside, flag⟩, fun _ _ _ => ?_⟩
  exact attends_of_only ⟨rfl, fun _ => ⟨rfl, fun _ => ⟨rfl, fun _ => ⟨rfl, fun _ => trivial⟩⟩⟩⟩

theorem send_attends {pdata : Option (List UInt8)} {outcome : Except Errno Nat} :
    AttendsAlone (.operation (.send pdata outcome)) entry (send pdata outcome) (fun _ _ => True)
      entry := by
  cases pdata with
  | none => trivial
  | some data =>
      refine Prog.Alone.ite (fun _ => trivial) fun some => ?_
      refine attends_act rfl fun _ after locked => ?_
      subst locked
      refine ⟨fun pdata outcome same => ?_, fun opened now _ => ?_⟩
      · cases same
        exact ⟨rfl, data, rfl, some⟩
      · refine Prog.Alone.ite (fun _ => trivial) fun _ => ?_
        exact attends_of_only ⟨rfl, fun _ => ⟨rfl, fun _ => ⟨rfl, fun _ => trivial⟩⟩⟩

private theorem cleanUp_attends (outside : job.locks = false) :
    AttendsAlone job entry (do
      let retVal ← perform .errno
      let _ ← close
      return retVal : Code Int) (fun _ _ => True) port :=
  attends_act rfl fun _ _ _ =>
    @Prog.Alone.bind _ _ _ _ _ _ _ _ close _ _ _ (close_attends outside) fun _ _ _ => trivial

theorem open_attends {outcome : OpenOutcome} :
    AttendsAlone (.operation (.open outcome)) entry («open» libc outcome) (fun _ _ => True)
      entry := by
  have outside : (Job.operation (.open outcome)).locks = false := rfl
  refine ⟨attends_isOpened outside, fun opened now looked => ?_⟩
  obtain ⟨-, rfl⟩ := looked
  refine Prog.Alone.ite (fun _ => trivial) fun _ => ?_
  refine attends_act rfl fun spp same loaded => ?_
  obtain ⟨-, rfl⟩ := loaded
  refine ⟨⟨rfl, rfl⟩, fun fd _ _ => attends_act rfl fun _ _ _ => attends_act rfl fun _ _ _ => ?_⟩
  refine Prog.Alone.ite (fun _ => attends_act rfl fun _ _ _ => trivial) fun _ => ?_
  refine attends_act rfl fun _ _ _ => attends_act rfl fun _ _ _ => ?_
  refine Prog.Alone.ite (fun _ => cleanUp_attends outside) fun _ => ?_
  refine Prog.Alone.bind (attends_of_only (setPortParams_only fun effect tunes => ?_)) fun _ _ _ => ?_
  · cases effect <;> first | rfl | cases tunes
  refine Prog.Alone.ite (fun _ => cleanUp_attends outside) fun _ => ?_
  refine attends_act rfl fun receiver _ _ => Prog.Alone.ite (fun _ => ?_) fun _ => trivial
  refine attends_act rfl fun _ _ _ => attends_act rfl fun _ _ _ => ?_
  exact Prog.Alone.ite (fun _ => attends_act rfl fun _ _ _ => trivial) fun _ => trivial

theorem runOperation_attends (operation : Operation) :
    AttendsAlone (.operation operation) entry (runOperation libc operation) (fun _ _ => True)
      entry := by
  cases operation with
  | init spp precvData =>
      exact attends_of_only ((init_only (fun _ => rfl) fun _ => rfl).bind fun _ => trivial)
  | «open» outcome => exact open_attends.bind fun _ _ _ => trivial
  | close => exact (close_attends rfl).bind fun _ _ _ => trivial
  | setReadNotify len =>
      refine attends_of_only (Prog.Only.bind (?_ : (setReadNotify len).Only _) fun _ => trivial)
      exact Prog.Only.ite (fun _ => ⟨rfl, fun _ => trivial⟩) fun _ => ⟨rfl, fun _ => trivial⟩
  | isOpened => exact ⟨attends_isOpened rfl, fun _ _ _ => trivial⟩
  | send pdata outcome => exact send_attends.bind fun _ _ _ => trivial
  | destroy =>
      refine Prog.Alone.bind (?_ : AttendsAlone _ entry destroy (fun _ _ => True) entry)
        fun _ _ _ => trivial
      refine ⟨attends_isOpened rfl, fun opened _ _ => ?_⟩
      exact Prog.Alone.ite (fun _ => (close_attends rfl).bind fun _ _ _ => trivial)
        fun _ => trivial

def attending : Account Port Effect Job Result where
  ready _ := True
  point := Attends
  post _ _ _ _ := True

theorem attending_holds {condition : Condition Tid State Effect Job} :
    attending.Holds (system libc) condition (.client 0) State.port Effect.look where
  start := trivial
  body {job last s} _ admitted _ := by
    cases job with
    | iteration hasReadBytes outcome => cases admitted
    | operation operation =>
        exact (runOperation_attends operation).bind fun _ _ _ => ⟨trivial, fun _ _ _ => trivial⟩
  returned _ := trivial

end Attends

/-! ## The mutex -/

section Runs

variable {libc : SpeedSetters} {config : Config Tid State Effect Effect.Reply Job Result}
  {number : Nat}

/-- The helpers of the client: its own effects and all that the receive threads do. -/
def Helps : Label Tid Job (List UInt8) → Prop
  | .begin (.worker _) _ | .act _ => True
  | .begin (.client _) _ | .external _ => False

theorem attends_of_reachable (reachable : (system libc).Reachable (oneClient.both considerate) config)
    {call : Call State Effect Effect.Reply Job Result} {effect : Effect}
    (calls : config.calls (.client 0) = some call) (standing : call.Next effect) :
    Attends call.job call.entry.port effect config.state.port :=
  Account.point_of_reachable (client_sole libc considerate_assumes) attending_holds reachable
    calls standing

/-- Who performs an effect of a client is the client. -/
theorem client_zero (reachable : (system libc).Reachable (oneClient.both considerate) config)
    {thread : Nat} {call : Call State Effect Effect.Reply Job Result}
    (calls : config.calls (.client thread) = some call) : thread = 0 := by
  have single := (Condition.both_begins.mp (reachable.begun calls)).1
  simpa [oneClient] using single

/-- A `send` tests a port that is open. -/
theorem isOpened_of_send (reachable : (system libc).Reachable (oneClient.both considerate) config)
    {thread : Tid} {call : Call State Effect Effect.Reply Job Result}
    (calls : config.calls thread = some call) (standing : call.Next .isOpened)
    {pdata : Option (List UInt8)} {outcome : Except Errno Nat}
    (sends : call.job = .operation (.send pdata outcome)) :
    config.state.port.param.isOpened = true := by
  cases thread with
  | worker number =>
      obtain ⟨before, last, -, -, -, admitted⟩ := reachable.entered calls
      rw [sends] at admitted
      rcases last with _ | (value | (_ | _)) <;> cases admitted
  | client thread =>
      have first := client_zero reachable calls
      subst first
      obtain ⟨same, data, rfl, nonempty⟩ :=
        attends_of_reachable reachable calls standing pdata outcome sends
      have begun := (Condition.both_begins.mp (reachable.begun calls)).2
      rw [sends] at begun
      have opened : data.isEmpty = true ∨ call.entry.port.param.isOpened = true :=
        Bool.or_eq_true_iff.mp begun
      rw [same]
      refine opened.resolve_left fun empty => nonempty ?_
      rw [List.isEmpty_iff.mp empty]
      rfl

theorem sendsWhenOpen_of_considerate
    (reachable : (system libc).Reachable (oneClient.both considerate) config) :
    (system libc).Reachable sendsWhenOpen config := by
  induction reachable with
  | start => exact .start
  | @step config next label reachable _ stepped reachableIH =>
      refine .step reachableIH ?_ stepped
      cases label with
      | begin thread job => rfl
      | external event => rfl
      | act thread =>
          simp only [Condition.allows]
          split
          · next job entry past effect rest calls =>
              simp only [sendsWhenOpen]
              split
              · next pdata outcome =>
                  exact isOpened_of_send reachable calls ⟨rest, rfl⟩ rfl
              · rfl
          · rfl

theorem disciplined_of_considerate
    (reachable : (system libc).Reachable (oneClient.both considerate) config) (thread : Tid) :
    Disciplined State.mutexRecv lockUse FoundOpen thread config.state (config.calls thread) :=
  mutexRecv_disciplined (sendsWhenOpen_of_considerate reachable) thread

/-- Who waits for the mutex does not hold it. -/
theorem unowned_at_lock (reachable : (system libc).Reachable (oneClient.both considerate) config)
    {thread : Tid} {call : Call State Effect Effect.Reply Job Result}
    (calls : config.calls thread = some call) (standing : call.Next .lock) :
    config.state.mutexRecv ≠ some thread := by
  have disciplined := disciplined_of_considerate reachable thread
  rw [calls] at disciplined
  cases locks : call.job.locks with
  | true => exact disciplined.next standing (.inl (by simp [lockUse, locks]))
  | false =>
      obtain ⟨-, balanced⟩ := disciplined
      obtain ⟨rest, program⟩ := standing
      simp [program, Concurrent.Balanced, lockUse, locks] at balanced

/-! ## The receive thread -/

def FreeFor (number : Nat) (s : State) : Prop :=
  s.mutexRecv = none ∨ s.mutexRecv = some (.worker number)

/-- A receive thread that finds the mutex free or its own can perform its next effect. -/
theorem worker_executes (reachable : (system libc).Reachable (oneClient.both considerate) config)
    {call : Call State Effect Effect.Reply Job Result} {effect : Effect}
    (calls : config.calls (.worker number) = some call) (standing : call.Next effect)
    (free : FreeFor number config.state) :
    ∃ reply after, exec (.worker number) effect config.state = some (reply, after) ∧
      after.port = config.state.port ∧ FreeFor number after ∧
      after.input = config.state.input ∧ after.pending <:+ config.state.pending := by
  have contract := linux_contract libc considerate_assumes
  obtain ⟨-, pointed⟩ := contract.point_of_reachable reachable calls standing
  have executes : ∃ reply after, exec (.worker number) effect config.state = some (reply, after) := by
    cases effect with
    | lock =>
        have none : config.state.mutexRecv = none :=
          free.resolve_right (unowned_at_lock reachable calls standing)
        simp only [exec, none]
        exact ⟨_, _, rfl⟩
    | ioctl fd succeeds =>
        by_cases answers : succeeds ∧ fd ∈ config.state.port.fds
        · exact ⟨_, _, if_pos answers⟩
        · exact ⟨_, _, if_neg answers⟩
    | read fd count succeeds =>
        obtain ⟨-, -, descriptor, -, pending⟩ := pointed
        have queued : ¬ (0 < count ∧ config.state.pending = []) := by
          intro waits
          have enough := pending trivial
          rw [waits.2] at enough
          exact absurd waits.1 (Nat.not_lt.mpr enough)
        cases succeeds with
        | true =>
            simp only [exec, descriptor, and_self, if_true, queued, if_false]
            exact ⟨_, _, rfl⟩
        | false =>
            simp only [exec, Bool.false_eq_true, false_and, if_false]
            exact ⟨_, _, rfl⟩
    | load | isOpened | unlock | onRecvData | pthreadExit => exact ⟨_, _, rfl⟩
    | _ => exact pointed.elim
  obtain ⟨reply, after, executed⟩ := executes
  have keeps : effect.flushes config.state = false := by
    cases effect <;> first | rfl | exact pointed.elim
  refine ⟨reply, after, executed, worker_port pointed executed, ?_, exec_input keeps executed⟩
  have allowed : lockUse (.iteration 0 ⟨true, true⟩) effect ≠ .forbidden := by
    cases effect <;> simp [lockUse, Job.locks]
  exact (mutexRecv_mutex libc).kept_by allowed free executed

/-- What the steps of a receive thread leave as it was, but for what they take from the
queue. -/
structure Beside (number : Nat) (origin config : Config Tid State Effect Effect.Reply Job Result) :
    Prop where
  free : FreeFor number config.state
  port : config.state.port = origin.state.port
  input : config.state.input = origin.state.input
  pending : config.state.pending <:+ origin.state.pending
  calls : ∀ other, other ≠ .worker number → config.calls other = origin.calls other

theorem Beside.refl (free : FreeFor number config.state) : Beside number config config :=
  ⟨free, rfl, rfl, List.suffix_rfl, fun _ _ => rfl⟩

theorem Beside.trans {origin middle : Config Tid State Effect Effect.Reply Job Result}
    (early : Beside number origin middle) (late : Beside number middle config) :
    Beside number origin config where
  free := late.free
  port := late.port.trans early.port
  input := late.input.trans early.input
  pending := late.pending.trans early.pending
  calls other different := (late.calls other different).trans (early.calls other different)

/-- A receive thread in an iteration completes it by itself. -/
theorem worker_completes (reachable : (system libc).Reachable (oneClient.both considerate) config)
    (free : FreeFor number config.state) {call : Call State Effect Effect.Reply Job Result}
    (calls : config.calls (.worker number) = some call) :
    ∃ after, (system libc).Leads ((oneClient.both considerate).helped Helps) config after ∧
      Beside number config after ∧ Completed (.worker number) call after := by
  refine reachable.completes (Beside number config) trivial ?_ (.refl free) calls
  intro now call effect reachableNow beside callsNow standing
  obtain ⟨reply, after, executed, port, freeAfter, input, pending⟩ :=
    worker_executes reachableNow callsNow standing beside.free
  refine Machine.advances_now callsNow standing rfl executed fun rest _ => ?_
  refine beside.trans ⟨freeAfter, port, input, pending, fun other different => ?_⟩
  exact Config.put_calls_other _ _ _ _ different

/-- A receive thread between two iterations has been left a count to begin the next with. -/
theorem worker_carried (reachable : (system libc).Reachable (oneClient.both considerate) config)
    {last : Option Result} (idle : config.idle? (.worker number) = some last)
    (alive : number ∈ config.state.receivers) :
    ∃ carried, admits (.worker number) last config.state (.iteration carried ⟨true, true⟩) = true := by
  have contract := crowd_contract libc (oneClient.both considerate)
  have ready := (contract.ready_of_reachable reachable idle) number rfl
  rcases last with _ | (value | (carried | _))
  · exact ⟨0, by simp [admits, alive]⟩
  · rcases Config.idle?_cases idle with ⟨-, none⟩ | ⟨call, result, calls, returned, same⟩
    · cases none
    · cases same
      have post := (linux_contract libc considerate_assumes).post_of_reachable reachable calls returned
      cases job : call.job with
      | operation operation =>
          rw [job] at post
          exact post.elim
      | iteration hasReadBytes outcome =>
          rw [job] at post
          exact post.elim
  · exact ⟨carried, by simp [admits, alive]⟩
  · exact absurd alive (ready.ended rfl).2

/-- With the flag cleared a receive thread ends in its next iteration. -/
theorem worker_exits (reachable : (system libc).Reachable (oneClient.both considerate) config)
    {last : Option Result} (idle : config.idle? (.worker number) = some last)
    (alive : number ∈ config.state.receivers) (free : FreeFor number config.state)
    (cleared : config.state.port.param.threadRecvIsRunning = false) :
    ∃ after, (system libc).Leads ((oneClient.both considerate).helped Helps) config after ∧
      Beside number config after ∧ number ∉ after.state.receivers := by
  obtain ⟨carried, admitted⟩ := worker_carried reachable idle alive
  have inv := (crowd_contract libc (oneClient.both considerate)).inv_of_reachable reachable
  have advanced : (runJob libc (.iteration carried ⟨true, true⟩)).advance (exec (.worker number)) 2
      config.state = some (.ret (.iteration .exited),
        { config.state with receivers := config.state.receivers.erase number }) := by
    simp [runJob, threadRecvDataMonitor, load, perform, Prog.advance, exec, SpParamLinux.get, cleared]
  have admits : (system libc).admits (.worker number) last config.state
      (.iteration carried ⟨true, true⟩) = true := admitted
  have begun : (oneClient.both considerate).begins (.worker number)
      (.iteration carried ⟨true, true⟩) config.state = true := rfl
  have helping : Helps (.act (.worker number)) := trivial
  obtain ⟨after, past, leads, -, final, others⟩ :=
    Machine.Leads.burst 2 helping trivial (fun _ _ _ => rfl) idle admits begun advanced
  refine ⟨after, leads, ⟨?_, by rw [final], by rw [final]; rfl, ?_, others⟩, ?_⟩
  · rw [final]
    exact free
  · rewrite [final]
    exact List.suffix_rfl
  · rw [final]
    exact inv.receivers_nodup.not_mem_erase

/-- A receive thread comes to the end of its iteration by itself. -/
theorem worker_rests (reachable : (system libc).Reachable (oneClient.both considerate) config)
    (free : FreeFor number config.state) :
    ∃ after last, (system libc).Leads ((oneClient.both considerate).helped Helps) config after ∧
      Beside number config after ∧ after.idle? (.worker number) = some last := by
  rcases config.idle_or_next (.worker number) with ⟨last, idle⟩ | ⟨call, effect, calls, standing⟩
  · exact ⟨config, last, .here, .refl free, idle⟩
  · obtain ⟨after, leads, beside, ended, value, called, -, -, returned⟩ :=
      worker_completes reachable free calls
    exact ⟨after, some value, leads, beside, Config.idle?_of_returned called returned⟩

theorem worker_ends (reachable : (system libc).Reachable (oneClient.both considerate) config)
    (free : FreeFor number config.state)
    (cleared : config.state.port.param.threadRecvIsRunning = false) :
    ∃ after, (system libc).Leads ((oneClient.both considerate).helped Helps) config after ∧
      Beside number config after ∧ number ∉ after.state.receivers := by
  obtain ⟨middle, last, leads, beside, idle⟩ := worker_rests reachable free
  by_cases alive : number ∈ middle.state.receivers
  · have clearedNow : middle.state.port.param.threadRecvIsRunning = false := by
      rw [beside.port]
      exact cleared
    obtain ⟨after, leadsOn, besideOn, dead⟩ :=
      worker_exits (leads.reachable_helped reachable) idle alive beside.free clearedNow
    exact ⟨after, leads.trans leadsOn, beside.trans besideOn, dead⟩
  · exact ⟨middle, leads, beside, alive⟩

/-- The receive thread that holds the mutex gives it back by itself. -/
theorem worker_releases (reachable : (system libc).Reachable (oneClient.both considerate) config)
    (owns : config.state.mutexRecv = some (.worker number)) :
    ∃ after, (system libc).Leads ((oneClient.both considerate).helped Helps) config after ∧
      Beside number config after ∧ after.state.mutexRecv = none := by
  obtain ⟨call, calls, -, -⟩ :=
    (disciplined_of_considerate reachable (.worker number)).owner_inSection owns
  obtain ⟨after, leads, beside, ended, value, called, -, -, returned⟩ :=
    worker_completes reachable (.inr owns) calls
  have disciplined := disciplined_of_considerate (leads.reachable_helped reachable) (.worker number)
  rw [called] at disciplined
  exact ⟨after, leads, beside, beside.free.resolve_right (disciplined.returned returned)⟩

/-! ## The client -/

/-- The owner of the mutex is the client or the receive thread. -/
theorem owner_cases (reachable : (system libc).Reachable (oneClient.both considerate) config) :
    config.state.mutexRecv = none ∨ config.state.mutexRecv = some (.client 0) ∨
      ∃ number, config.state.mutexRecv = some (.worker number) := by
  cases owned : config.state.mutexRecv with
  | none => exact .inl rfl
  | some thread =>
      cases thread with
      | worker number => exact .inr (.inr ⟨number, rfl⟩)
      | client number =>
          obtain ⟨call, calls, -, -⟩ :=
            (disciplined_of_considerate reachable (.client number)).owner_inSection owned
          have first := client_zero reachable calls
          subst first
          exact .inr (.inl rfl)

/-- At a join the mutex is free or held by the thread that is waited for. -/
theorem freeFor_at_join (reachable : (system libc).Reachable (oneClient.both considerate) config)
    {call : Call State Effect Effect.Reply Job Result} (calls : config.calls (.client 0) = some call)
    (outside : call.job.locks = false) (alive : number ∈ config.state.receivers) :
    FreeFor number config.state := by
  rcases owner_cases reachable with none | mine | ⟨other, owns⟩
  · exact .inl none
  · have disciplined := disciplined_of_considerate reachable (.client 0)
    obtain ⟨current, called, inside, -⟩ := disciplined.owner_inSection mine
    rw [calls] at called
    cases called
    have locks := locks_of_inSection inside
    rw [outside] at locks
    cases locks
  · have contract := linux_contract libc considerate_assumes
    have inv := contract.inv_of_reachable reachable
    obtain ⟨current, effect, called, standing, stands⟩ := owner_stands reachable owns
    have same := inv.receivers_unique stands.alive alive
    subst same
    exact .inr owns

/-- What a client performs without waiting. -/
theorem client_executes {effect : Effect} {s : State} (permitted : Permitted False s.port effect)
    (lock : effect ≠ .lock) (join : ∀ identifier, effect ≠ .pthreadJoin identifier)
    (opens : ∀ name outcome, effect = .open name outcome → ∀ fd, outcome.descriptor = .ok fd →
      0 ≤ fd ∧ fd ∉ s.port.fds) :
    ∃ reply after, exec (.client 0) effect s = some (reply, after) := by
  cases effect with
  | lock => exact absurd rfl lock
  | pthreadJoin identifier => exact absurd rfl (join identifier)
  | «open» name outcome =>
      cases granted : outcome.descriptor with
      | error error =>
          simp only [exec, granted]
          exact ⟨_, _, rfl⟩
      | ok fd =>
          have fresh := opens name outcome rfl fd granted
          simp only [exec, granted, fresh, not_false_iff, and_self, if_true]
          exact ⟨_, _, rfl⟩
  | tcgetattr fd outcome => cases outcome <;> exact ⟨_, _, rfl⟩
  | write fd data outcome =>
      simp only [exec]
      split
      · cases outcome <;> exact ⟨_, _, rfl⟩
      · exact ⟨_, _, rfl⟩
  | pthreadCreate outcome => cases outcome <;> exact ⟨_, _, rfl⟩
  | pthreadExit | ioctl | read | onRecvData => exact permitted.elim
  | _ => exact ⟨_, _, rfl⟩

/-- Whatever effect the client stands at can be performed, if need be after some steps of
the receive thread. -/
theorem client_advances
    (reachable : (system libc).Reachable (oneClient.both considerate) config)
    {call : Call State Effect Effect.Reply Job Result} {effect : Effect}
    (calls : config.calls (.client 0) = some call) (standing : call.Next effect) :
    (system libc).Advances (oneClient.both considerate) Helps (.client 0) (fun _ => True) config := by
  have attended := attends_of_reachable reachable calls standing
  have now {middle : Config Tid State Effect Effect.Reply Job Result}
      {reply : effect.Reply} {after : State}
      (same : middle.calls (.client 0) = config.calls (.client 0))
      (executed : exec (.client 0) effect middle.state = some (reply, after)) :
      (system libc).Advances (oneClient.both considerate) Helps (.client 0) (fun _ => True) middle :=
    Machine.advances_now (same.trans calls) standing rfl executed fun _ _ => trivial
  by_cases lock : effect = .lock
  · subst lock
    have free {middle : Config Tid State Effect Effect.Reply Job Result}
        (none : middle.state.mutexRecv = none) :
        exec (.client 0) .lock middle.state =
          some ((), { middle.state with mutexRecv := some (.client 0) }) := by
      simp only [exec, none]
    rcases owner_cases reachable with none | mine | ⟨number, owns⟩
    · exact now rfl (free none)
    · exact absurd mine (unowned_at_lock reachable calls standing)
    · obtain ⟨after, leads, beside, none⟩ := worker_releases reachable owns
      have same := beside.calls (.client 0) (by simp)
      exact .after leads same (now same (free none))
  by_cases join : ∃ identifier, effect = .pthreadJoin identifier
  · obtain ⟨identifier, rfl⟩ := join
    obtain ⟨outside, cleared⟩ := attended
    cases found : config.state.port.unjoined? identifier with
    | none =>
        refine now rfl (?_ : _ = some ((), { config.state with
          port := { config.state.port with badJoins := identifier :: config.state.port.badJoins } }))
        simp only [exec, found]
    | some number =>
        have ended {middle : Config Tid State Effect Effect.Reply Job Result}
            (port : middle.state.port = config.state.port)
            (dead : number ∉ middle.state.receivers) :
            exec (.client 0) (.pthreadJoin identifier) middle.state =
              some ((), { middle.state with
                port := { middle.state.port with joined := number :: middle.state.port.joined } }) := by
          simp only [exec, port, found, dead, if_false]
        by_cases alive : number ∈ config.state.receivers
        · have free := freeFor_at_join reachable calls outside alive
          obtain ⟨after, leads, beside, dead⟩ := worker_ends reachable free cleared
          have same := beside.calls (.client 0) (by simp)
          exact .after leads same (now same (ended beside.port dead))
        · exact now rfl (ended rfl alive)
  have contract := linux_contract libc considerate_assumes
  have permitted : Permitted False config.state.port effect :=
    contract.point_of_reachable reachable calls standing
  obtain ⟨reply, after, executed⟩ := client_executes permitted lock
    (fun identifier same => join ⟨identifier, same⟩) fun name outcome same fd granted => by
      subst same
      obtain ⟨job, fds⟩ := attended
      have begun := (Condition.both_begins.mp (reachable.begun calls)).2
      rw [job] at begun
      simp only [considerate, granted, decide_eq_true_eq] at begun
      rw [fds]
      exact begun
  exact now rfl executed

end Runs

end LibSp.Linux
