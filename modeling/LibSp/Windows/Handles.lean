import LibSp.Windows.Threads
import LibSp.Windows.Receive
import LibSp.Windows.MutexRecv
import LibSp.Concurrent.Guarded

/-!
# The handles of a Windows port

A monitor thread creates the event of a read inside its critical section and closes
it there. The event that an asynchronous `send` creates is never closed, and neither
is the one of the constructor.
-/

set_option autoImplicit false

namespace LibSp.Windows

open Concurrent

/-! ## The events -/

structure Events where
  handles : List (Handle × Kind)
  readEvent : Handle

def State.events (s : State) : Events where
  handles := s.handles.filter fun entry => entry.2 = .event
  readEvent := s.param.readEvent

/-- The event of the constructor is the only one. -/
def Events.Tidy (events : Events) : Prop :=
  events.handles = [(State.start.param.monitorEvent, .event)]

def Effect.touches : Effect → Prop
  | .createEvent | .closeHandle _ | .store .readEvent _ => True
  | _ => False

/-- What an effect of a monitor thread answers and does. -/
def Effect.lookEvents : (effect : Effect) → Events → effect.Reply → Events → Prop
  | .createEvent, events, reply, after => (∀ entry ∈ events.handles, entry.1 ≠ reply) ∧
      after = { events with handles := (reply, .event) :: events.handles }
  | .closeHandle handle, events, _, after =>
      after = { events with handles := events.handles.filter fun entry => entry.1 ≠ handle }
  | .store .readEvent value, events, _, after => after = { events with readEvent := value }
  | .load .readEvent, events, reply, after => reply = events.readEvent ∧ after = events
  | _, events, _, after => after = events

section

variable {thread : Tid} {effect : Effect} {s after : State} {reply : effect.Reply}

/-- The events after an effect. -/
theorem exec_events (executed : exec thread effect s = some (reply, after)) :
    after.events = ⟨(effect.update thread s.members).handles.filter fun entry =>
      entry.2 = .event, (effect.update thread s.members).param.readEvent⟩ := by
  rw [← exec_members executed]
  rfl

theorem spares_events (spares : ¬ effect.touches)
    (executed : exec thread effect s = some (reply, after)) : after.events = s.events := by
  rw [exec_events executed]
  cases effect with
  | createEvent | closeHandle => exact absurd trivial spares
  | store field value => cases field <;> first | rfl | exact absurd trivial spares
  | createFile name overlapped outcome queued => cases outcome <;> rfl
  | beginthreadex outcome => cases outcome <;> rfl
  | _ => rfl

theorem exec_lookEvents (numbered : s.members.Numbered)
    (executed : exec thread effect s = some (reply, after)) :
    effect.lookEvents s.events reply after.events := by
  have events := exec_events executed
  cases effect with
  | createEvent =>
      cases executed
      refine ⟨fun entry member => ?_, rfl⟩
      exact Int.ne_of_lt (numbered.given entry (List.mem_filter.mp member).1).2
  | closeHandle handle =>
      rw [events]
      simp only [Effect.lookEvents, Effect.update, State.events, State.members,
        List.filter_filter, Bool.and_comm]
  | store field value =>
      rw [events]
      cases field <;> rfl
  | load field =>
      cases executed
      cases field <;> first | rfl | exact ⟨rfl, rfl⟩
  | _ => exact spares_events id executed

end

/-! ## The monitor threads -/

/-- The effects that use neither the mutex nor the events. -/
def Effect.eventless : Effect → Bool
  | .lock | .unlock | .leave _ | .returned .. | .threadExit | .createEvent | .closeHandle _
  | .store .readEvent _ | .load .readEvent => false
  | _ => true

section Monitor

variable {job : Job} {α : Type} {held : Option Events}

/-- The program keeps the events tidy outside of its critical sections. -/
abbrev EventGuarded (job : Job) (program : Code α) (post : α → Option Events → Prop)
    (held : Option Events) : Prop :=
  program.Guarded (lockUse job) Effect.touches Effect.lookEvents Events.Tidy post held

theorem eventless_guarded {program : Code α}
    (only : program.Only fun effect => effect.eventless = true) :
    EventGuarded job program (fun _ now => now = held) held := by
  refine Prog.Guarded.of_only (fun effect allowed => ?_) (fun effect allowed => ?_)
    (fun effect events reply after allowed looked => ?_) only
  · cases effect <;> first | rfl | cases allowed
  · cases effect with
    | store field value => cases field <;> first | exact id | cases allowed
    | createEvent | closeHandle => cases allowed
    | _ => exact id
  · cases effect with
    | store field value => cases field <;> first | exact looked | cases allowed
    | load field => cases field <;> first | exact looked | cases allowed
    | createEvent | closeHandle => cases allowed
    | _ => exact looked

theorem reading_eventless (effect : Effect) (reading : effect.reading = true) :
    effect.eventless = true := by
  cases effect with
  | load field => cases field <;> first | rfl | cases reading
  | _ => first | rfl | cases reading

/-- A read closes the event that it has created. -/
theorem readMode_guarded {notify maxSize : Nat} {outcome : ReadOutcome} {events : Events}
    (tidy : events.Tidy) :
    EventGuarded job (readMode (pure ()) notify maxSize outcome)
      (fun _ now => ∃ ended : Events, now = some ended ∧ ended.Tidy) (some events) := by
  have silent : (pure () : Code Unit).Only fun effect => effect.eventless = true := trivial
  intro spp _ same
  subst same
  refine Prog.Guarded.ite (fun _ => ?_) fun _ => ?_
  · rintro _ _ rfl event _ ⟨fresh, rfl⟩ _ _ rfl
    change EventGuarded job (readOverlapped (pure ()) notify maxSize outcome >>= _) _ _
    refine Prog.Guarded.bind (eventless_guarded (readOverlapped_only reading_eventless silent)) ?_
    rintro _ _ rfl readEvent _ ⟨rfl, rfl⟩ _ _ rfl
    refine ⟨_, rfl, ?_⟩
    unfold Events.Tidy at tidy ⊢
    have other := fresh (State.start.param.monitorEvent, .event) (by simp [tidy])
    simp [tidy, other]
  · refine Prog.Guarded.mono ?_ (eventless_guarded (readPlain_only reading_eventless silent))
    exact fun _ now same => ⟨_, same, tidy⟩

theorem getRecvThreadIsRunning_guarded :
    EventGuarded job getRecvThreadIsRunning (fun _ now => now = none) none := by
  intro _ events tidy running after looked
  cases looked
  exact ⟨tidy, fun _ => ⟨id, fun _ => rfl⟩⟩

theorem readData_guarded {notify unread : Nat} {outcome : ReadOutcome} :
    EventGuarded job (readData (pure ()) notify unread outcome) (fun _ now => now = none) none := by
  refine Prog.Guarded.bind (?_ : EventGuarded job _ (fun _ now => now = none) none) ?_
  case refine_2 =>
    intro value _ same
    subst same
    exact ⟨id, fun _ => rfl⟩
  refine ⟨id, fun handle => Prog.Guarded.ite (fun _ => rfl) fun _ => ?_⟩
  refine Prog.Guarded.bind (eventless_guarded (readSize_only reading_eventless)) ?_
  rintro maxSize _ rfl _ events tidy
  change EventGuarded job (readMode (pure ()) notify maxSize outcome >>= _) _ _
  refine Prog.Guarded.bind (readMode_guarded tidy) ?_
  intro _ _ post
  obtain ⟨ended, rfl, tidy⟩ := post
  exact ⟨tidy, fun _ => rfl⟩

theorem handleEvent_guarded {eventMask : BitVec 32} {outcome : MonitorOutcome} :
    EventGuarded job (handleEvent (pure ()) eventMask outcome) (fun _ now => now = none) none := by
  refine Prog.Guarded.ite (fun _ => ?_) fun _ => rfl
  refine ⟨id, fun _ => ⟨id, fun _ => ⟨id, fun _ => Prog.Guarded.ite (fun _ => ?_) fun _ => rfl⟩⟩⟩
  exact Prog.Guarded.bind readData_guarded fun _ _ outside => outside

theorem enterMonitor_guarded : EventGuarded job enterMonitor (fun _ now => now = none) none := by
  refine ⟨id, fun _ => Prog.Guarded.ite (fun _ => ⟨id, fun _ => rfl⟩) fun _ => ?_⟩
  exact ⟨id, fun _ => ⟨id, fun _ => rfl⟩⟩

theorem threadRecvDataMonitor_guarded {eventMask : BitVec 32} {outcome : MonitorOutcome} :
    EventGuarded job (threadRecvDataMonitor (pure ()) eventMask outcome)
      (fun _ now => now = none) none := by
  refine Prog.Guarded.bind getRecvThreadIsRunning_guarded ?_
  intro running _ same
  subst same
  refine Prog.Guarded.ite (fun _ => ⟨id, fun _ => rfl⟩) fun _ => ?_
  refine ⟨id, fun _ => ⟨id, fun _ => ⟨id, fun _ => ⟨id, fun _ => ?_⟩⟩⟩⟩
  refine Prog.Guarded.ite (fun _ => ⟨id, fun _ => ⟨id, fun _ => ?_⟩⟩) fun _ => rfl
  refine Prog.Guarded.ite (fun _ => ⟨id, fun _ => rfl⟩) fun _ => ?_
  refine Prog.Guarded.bind handleEvent_guarded ?_
  intro _ _ same
  subst same
  exact Prog.Guarded.ite (fun _ => ⟨id, fun _ => ⟨id, fun _ => rfl⟩⟩) fun _ => rfl

theorem runJob_guarded {number : Nat} {last : Option Result} {s : State}
    (admitted : admits (.worker number) last s job = true) :
    EventGuarded job (runJob job) (fun _ now => now = none) none := by
  cases job with
  | operation operation => rcases last with _ | (value | (_ | _)) <;> cases admitted
  | enter => exact Prog.Guarded.bind enterMonitor_guarded fun _ _ outside => outside
  | iteration eventMask outcome =>
      exact Prog.Guarded.bind threadRecvDataMonitor_guarded fun _ _ outside => outside

end Monitor

/-! ## The client -/

/-- No `send` of data finds the port open in the asynchronous mode. -/
def eventKeeping : Condition Tid State Effect Job where
  begins _ job s :=
    match job with
    | .operation (.send (some data) _) =>
        data.length = 0 || !s.param.isOpened || decide (s.param.spp.opMode ≠ modeAsync)
    | _ => true
  acts _ _ _ _ := true

/-- The `send` does not get as far as its overlapped write. -/
def Plain (view : View) (pdata : Option (List UInt8)) : Prop :=
  ∀ data, pdata = some data → data.length = 0 ∨ view.handle = INVALID_HANDLE_VALUE ∨
    view.spp.opMode ≠ modeAsync

section Client

theorem send_plain {view : View} {pdata : Option (List UInt8)} {outcome : WriteOutcome}
    (plain : Plain view pdata) :
    (send pdata outcome).Alone Effect.look (fun effect _ => effect ≠ .createEvent)
      (fun _ _ => True) view := by
  refine Prog.Alone.bind (?_ : Prog.Alone _ _ _ (fun _ _ => True) _) ?_
  case refine_2 => exact fun _ _ _ => ⟨nofun, fun _ _ _ => trivial⟩
  cases pdata with
  | none => trivial
  | some data =>
      refine Prog.Alone.ite (fun _ => trivial) fun some => ⟨nofun, ?_⟩
      intro _ now post
      obtain ⟨rfl, same⟩ := post
      rw [same]
      refine Prog.Alone.ite (fun opened => ⟨nofun, ?_⟩) fun _ => trivial
      intro spp now post
      obtain ⟨read, same⟩ := post
      have stored : spp = view.spp := read _ rfl
      rw [same, stored]
      refine Prog.Alone.ite (fun async => ?_) fun _ => ?_
      · rcases plain data rfl with empty | isClosed | notAsync
        · exact absurd empty some
        · exact absurd isClosed (of_decide_eq_true opened)
        · exact absurd async.symm notAsync
      · have only : (sendPlain data outcome).Only fun effect => effect ≠ .createEvent :=
          sendPlain_only nofun nofun (fun _ => nofun) nofun
        refine (Prog.Alone.of_only ?_ (fun _ _ _ _ _ _ _ => trivial) only trivial).mono ?_
        · exact fun _ _ notCreate _ => notCreate
        · exact fun _ _ _ => trivial

def plainly : Account View Effect Job Result where
  ready _ := True
  point job view effect _ := ∀ pdata outcome, job = .operation (.send pdata outcome) →
    Plain view pdata → effect ≠ .createEvent
  post _ _ _ _ := True

variable {condition : Condition Tid State Effect Job}

theorem plainly_holds :
    plainly.Holds system condition (.client 0) State.view Effect.look where
  start := trivial
  returned _ := trivial
  body {job last s} _ _ _ := by
    by_cases sends : ∃ pdata outcome, job = .operation (.send pdata outcome) ∧ Plain s.view pdata
    · obtain ⟨pdata, outcome, rfl, plain⟩ := sends
      have sent : (runJob (.operation (.send pdata outcome))).Alone Effect.look
          (fun effect _ => effect ≠ .createEvent) (fun _ _ => True) s.view := by
        refine Prog.Alone.bind (?_ : Prog.Alone _ _ _ (fun _ _ => True) _) ?_
        · exact (send_plain plain).bind fun _ _ _ => trivial
        · exact fun _ _ _ => ⟨nofun, fun _ _ _ => trivial⟩
      exact sent.pointed fun effect now notCreate =>
        (fun _ _ _ _ => notCreate :
          plainly.point (.operation (.send pdata outcome)) s.view effect now)
    · apply Prog.Alone.any
      · intro effect now pdata outcome same plain
        exact absurd ⟨pdata, outcome, same, plain⟩ sends
      · exact fun _ _ => trivial

theorem eventKeeping_watches : Watches (oneClient.both eventKeeping) False where
  single begins := (Condition.both_begins.mp begins).1
  awaits prompt := prompt.elim

variable {config : Config Tid State Effect Effect.Reply Job Result}

theorem creates_no_event (reachable : system.Reachable (oneClient.both eventKeeping) config)
    {call : Call State Effect Effect.Reply Job Result} {effect : Effect}
    (calls : config.calls (.client 0) = some call) (standing : call.Next effect) :
    effect ≠ .createEvent := by
  intro same
  subst same
  have watches := eventKeeping_watches
  obtain ⟨operation, job, settled⟩ := established_of_reachable watches reachable calls standing
  have sends := settled.creates rfl
  cases operation with
  | send pdata outcome =>
      refine Account.point_of_reachable (client_sole watches.single) plainly_holds reachable calls
        standing pdata outcome job ?_ rfl
      have begun := (Condition.both_begins.mp (reachable.begun calls)).2
      intro data same
      subst same
      simp only [eventKeeping, job, Bool.or_eq_true, decide_eq_true_eq, Bool.not_eq_true'] at begun
      rw [or_assoc] at begun
      exact begun.imp_right fun rest => rest.imp_left isOpened_eq_false_iff.mp
  | _ => cases sends

/-- The client leaves the events alone. -/
theorem client_events (reachable : system.Reachable (oneClient.both eventKeeping) config)
    {call : Call State Effect Effect.Reply Job Result} {effect : Effect} {reply : effect.Reply}
    {after : State} (calls : config.calls (.client 0) = some call) (standing : call.Next effect)
    (executed : exec (.client 0) effect config.state = some (reply, after)) :
    after.events = config.state.events := by
  have watches := eventKeeping_watches
  have single := Single.reachable watches.single reachable
  have numbered := numbered_of_reachable reachable
  have notCreate := creates_no_event reachable calls standing
  obtain ⟨_, -, settled⟩ := established_of_reachable watches reachable calls standing
  have pointed := windows_contract.point_of_reachable single calls standing
  cases effect with
  | createEvent => exact absurd rfl notCreate
  | closeHandle handle =>
      have notEvent : (handle, Kind.event) ∉ config.state.handles := by
        intro member
        rcases settled.closes with none | comm | thread
        · exact absurd (numbered.given _ member).1 (Int.not_lt.mpr none)
        · cases numbered.unique _ (List.mem_filter.mp comm).1 _ member rfl
        · cases numbered.unique _ (List.mem_filter.mp thread).1 _ member rfl
      rw [exec_events executed]
      exact congrArg (Events.mk · config.state.param.readEvent) (filter_closed notEvent)
  | store field value =>
      cases field with
      | readEvent => exact pointed.elim
      | _ => exact spares_events id executed
  | _ => exact spares_events id executed

end Client

/-! ## Runs -/

def IsMonitor : Tid → Prop
  | .worker _ => True
  | .client _ => False

/-- The monitor threads use the events under the mutex, the client leaves them alone. -/
theorem events_guard : Guard system (oneClient.both eventKeeping) State.mutexRecv lockUse IsMonitor
    State.events Effect.touches Effect.lookEvents Events.Tidy where
  mutex := mutexRecv_mutex
  allowed job effect := by
    unfold lockUse
    split <;> simp
  start := rfl
  locks {thread job effect s reply after} used executed := by
    cases effect with
    | lock => exact @spares_events thread .lock s after reply id executed
    | unlock => exact @spares_events thread .unlock s after reply id executed
    | _ =>
        unfold lockUse at used
        simp at used
  spares _ spared executed := spares_events spared executed
  looks reachable _ executed := exec_lookEvents (numbered_of_reachable reachable) executed
  releases reachable _ calls standing used :=
    @Mutex.owner_of_releases _ _ _ _ _ _ _ _ _ _ (· = false) _ _ mutexRecv_mutex rfl
      runJob_orderly _ reachable _ _ _ calls standing used
  others {config thread call effect reply after} reachable outsider calls standing executed := by
    cases thread with
    | worker number => exact absurd trivial outsider
    | client number =>
        cases number with
        | zero => exact client_events reachable calls standing executed
        | succ number => simpa [oneClient] using eventKeeping_watches.single (reachable.begun calls)
  external {event s after} changed := by
    have members := external_members changed
    have handles : after.handles = s.handles := congrArg Members.handles members
    have param : after.param = s.param := congrArg Members.param members
    simp only [State.events, handles, param]
  bodies {thread last job s} member admitted := by
    cases thread with
    | worker number => exact runJob_guarded admitted
    | client number => exact absurd member id

theorem perm_kinds (handles : List (Handle × Kind)) : handles.Perm
    ((handles.filter fun entry => entry.2 = .event) ++
      ((handles.filter fun entry => entry.2 = .comm) ++
        handles.filter fun entry => entry.2 = .thread)) := by
  induction handles with
  | nil => exact .nil
  | cons entry handles ih =>
      obtain ⟨handle, kind⟩ := entry
      cases kind with
      | event => exact ih.cons _
      | comm => exact (ih.cons _).trans List.perm_middle.symm
      | thread =>
          refine (ih.cons _).trans ?_
          rw [← List.append_assoc, ← List.append_assoc]
          exact List.perm_middle.symm

/-- The handles of an object: the event of its constructor, the port while it is open,
and the thread that was started for the open port. -/
def State.ownedHandles (s : State) : List (Handle × Kind) :=
  [(State.start.param.monitorEvent, .event)] ++
    ((if s.param.isOpened then [(s.param.handle, .comm)] else []) ++
      if monitored s.history then [(s.param.threadHandle, .thread)] else [])

/-- The handles that an object is to have between two operations. -/
def State.dueHandles (s : State) : List (Handle × Kind) :=
  if s.history.any fun entry => entry.1.destroys then [] else s.ownedHandles

section Owned

variable {prompt : Prop} {watch : Watch}

theorem Watched.threads (watched : Watched prompt watch) : watch.threads =
    if monitored watch.view.history then [(watch.view.threadHandle, .thread)] else [] := by
  have started := watched.started
  cases watched.kept with
  | closed opMode holds =>
      rw [holds.threadHandle] at started
      have none : ¬ monitored watch.view.history = true := fun some =>
        absurd (started.mpr some) (show ¬ (0 : Int) < -1 by decide)
      rw [holds.threads, if_neg none]
      rfl
  | opened opMode handle threadHandle valid apart holds =>
      have started : 0 < threadHandle ↔ monitored watch.view.history = true := by
        rw [← started, holds.threadHandle]
        rfl
      rw [holds.threads, holds.threadHandle]
      change ((live threadHandle).toList.map fun handle => (handle, Kind.thread)) =
        if monitored watch.view.history then [(threadHandle, .thread)] else []
      by_cases some : monitored watch.view.history = true
      · rw [if_pos some, live, if_pos (started.mpr some)]
        rfl
      · rw [if_neg some, live, if_neg (mt started.mp some)]
        rfl

theorem owned_of_watched {s : State} (watched : Watched prompt s.watch) (tidy : s.events.Tidy) :
    s.handles.Perm s.ownedHandles := by
  have threads : (s.handles.filter fun entry => entry.2 = .thread) =
      if monitored s.history then [(s.param.threadHandle, .thread)] else [] := watched.threads
  have events : (s.handles.filter fun entry => entry.2 = .event) =
      [(State.start.param.monitorEvent, .event)] := tidy
  have kinds := perm_kinds s.handles
  rw [events, comms_of_kept watched.kept, threads] at kinds
  exact kinds

end Owned

theorem length_ownedHandles (s : State) : s.ownedHandles.length ≤ 3 := by
  unfold State.ownedHandles
  split <;> split <;> simp

theorem length_dueHandles (s : State) : s.dueHandles.length ≤ 3 := by
  unfold State.dueHandles
  split
  · exact Nat.zero_le 3
  · exact length_ownedHandles s

/-- The monitor thread is in the middle of a read: it owns the mutex, and has created
the event of the read in its call. -/
def Reading (config : Config Tid State Effect Effect.Reply Job Result) (number : Nat) : Prop :=
  config.state.mutexRecv = some (.worker number) ∧
    Touched Effect.touches config (.worker number)

/-- In every run with one client whose sends of data do not find the port open in the
asynchronous mode: between two operations, with no read in progress, there are at most
three handles, and they are those that the object is to have unless it was destroyed. -/
theorem handles_due_iff (config : Config Tid State Effect Effect.Reply Job Result)
    (reachable : system.Reachable (oneClient.both eventKeeping) config) (last : Option Result)
    (idle : config.idle? (.client 0) = some last) (quiet : ∀ number, ¬ Reading config number) :
    (config.state.handles.Perm config.state.dueHandles ↔
      config.state.history.any (fun entry => entry.1.destroys) = false) ∧
    config.state.handles.length ≤ 3 := by
  have watched := watched_of_reachable eventKeeping_watches reachable idle
  have tidy : config.state.events.Tidy := by
    refine events_guard.inv_of_untouched reachable fun thread member owns touched => ?_
    cases thread with
    | worker number => exact quiet number ⟨owns, touched⟩
    | client number => exact member
  have owned := owned_of_watched watched tidy
  refine ⟨?_, Nat.le_trans (Nat.le_of_eq owned.length_eq) (length_ownedHandles config.state)⟩
  unfold State.dueHandles
  constructor
  · intro due
    refine Bool.eq_false_iff.mpr fun destroyed => ?_
    rw [if_pos destroyed] at due
    have none := owned.symm.trans due
    simp [State.ownedHandles] at none
  · intro alive
    rw [if_neg (by simp [alive])]
    exact owned

/-- The port is open, and a monitor thread tests its flag. -/
def testingFlagRun : List (Label Tid Job Event) :=
  openingRun ++ Label.burst (.worker 3) .enter 3 ++
    Label.burst (.worker 3) (.iteration 0 (.rxchar (.now ()))) 1

theorem handles_due_testing :
    ∃ config last, system.steps (oneClient.both eventKeeping) system.initial testingFlagRun =
        some config ∧
      config.idle? (.client 0) = some last ∧ config.state.mutexRecv = some (.worker 3) ∧
      (config.state.handles.Perm config.state.dueHandles ↔
        config.state.history.any (fun entry => entry.1.destroys) = false) ∧
      config.state.handles.length ≤ 3 := by
  have ran : ∃ config last call, system.steps (oneClient.both eventKeeping) system.initial
        testingFlagRun = some config ∧
      config.idle? (.client 0) = some last ∧ config.state.mutexRecv = some (.worker 3) ∧
      config.calls (.worker 3) = some call ∧ call.past = [.lock] :=
    ⟨_, _, _, rfl, rfl, rfl, rfl, rfl⟩
  obtain ⟨config, last, call, steps, idle, owner, calls, past⟩ := ran
  refine ⟨config, last, steps, idle, owner,
    handles_due_iff config (.of_steps .start steps) last idle ?_⟩
  rintro number ⟨owns, other, effect, found, member, touches⟩
  cases owner.symm.trans owns
  cases calls.symm.trans found
  rw [past, List.mem_singleton] at member
  subst member
  exact touches

/-- Two bytes are sent, one after the other. -/
def sendingTwiceRun : List (Label Tid Job Event) :=
  openingRun ++ Label.burst (.client 0) (.operation (.send (some [0x55]) (.now 1))) 11 ++
    Label.burst (.client 0) (.operation (.send (some [0x56]) (.now 1))) 11

/-- Every `send` leaves its event, and the destructor that of the constructor. -/
theorem handles_left :
    (∃ config last, system.Reachable oneClient config ∧
      config.idle? (.client 0) = some last ∧ config.state.mutexRecv = none ∧
      config.state.history.any (fun entry => entry.1.destroys) = false ∧
      config.state.handles.length = 5 ∧
      ¬ config.state.handles.Perm config.state.dueHandles) ∧
    ∃ config last, system.Reachable oneClient config ∧
      config.idle? (.client 0) = some last ∧ config.state.mutexRecv = none ∧
      config.state.history.any (fun entry => entry.1.destroys) = true ∧
      config.state.handles = [(State.start.param.monitorEvent, .event)] ∧
      ¬ config.state.handles.Perm config.state.dueHandles := by
  constructor
  · have ran : ∃ config last, system.steps oneClient system.initial sendingTwiceRun =
        some config ∧ config.idle? (.client 0) = some last ∧ config.state.mutexRecv = none ∧
        config.state.history.any (fun entry => entry.1.destroys) = false ∧
        config.state.handles.length = 5 := ⟨_, _, rfl, rfl, rfl, rfl, rfl⟩
    obtain ⟨config, last, steps, idle, free, alive, many⟩ := ran
    refine ⟨config, last, .of_steps .start steps, idle, free, alive, many, fun same => ?_⟩
    have few := length_dueHandles config.state
    rw [← same.length_eq, many] at few
    exact absurd few (by decide)
  · have ran : ∃ config last, system.steps oneClient system.initial
        (openingRun ++ Label.burst (.client 0) (.operation (.destroy ⟨true⟩)) 27) =
          some config ∧ config.idle? (.client 0) = some last ∧ config.state.mutexRecv = none ∧
        config.state.history.any (fun entry => entry.1.destroys) = true ∧
        config.state.handles = [(State.start.param.monitorEvent, .event)] :=
      ⟨_, _, rfl, rfl, rfl, rfl, rfl⟩
    obtain ⟨config, last, steps, idle, free, destroyed, left⟩ := ran
    refine ⟨config, last, .of_steps .start steps, idle, free, destroyed, left, fun same => ?_⟩
    rw [left, State.dueHandles, if_pos destroyed] at same
    exact absurd same.length_eq (by decide)

end LibSp.Windows
