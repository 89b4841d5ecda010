import LibSp.Windows.Threads
import LibSp.Windows.Receive

/-!
# Stopping reception

`close` waits for the monitor thread, but not for ever, and goes on when the wait
has run out. In the runs in which no such wait ends before the thread, a port that
has been closed has no monitor thread, and a port never has two.
-/

set_option autoImplicit false

namespace LibSp.Windows

open Concurrent

/-! ## What a monitor thread stands on -/

/-- The port has an open comm handle. -/
structure Watch.Opened (watch : Watch) : Prop where
  valid : 0 < watch.view.handle
  isComm : (watch.view.handle, Kind.comm) ∈ watch.view.comms

/-- The monitor thread is alive, and the port open. -/
structure Watch.Firm (number : Nat) (watch : Watch) : Prop where
  alive : number ∈ watch.monitors
  opened : watch.Opened

/-- The other threads neither end the monitor thread nor take the handle from it, and
start it on an open port. -/
structure Watch.Bears (number : Nat) (watch now : Watch) : Prop where
  alive : number ∈ watch.monitors → number ∈ now.monitors
  handle : number ∈ watch.monitors → now.view.handle = watch.view.handle
  opened : number ∈ watch.monitors → watch.Opened → now.Opened
  started : number ∉ watch.monitors → number ∈ now.monitors → now.Opened

/-- What an effect of a monitor thread may answer and do. -/
def Effect.lookMonitor : (effect : Effect) → Watch → effect.Reply → Watch → Prop
  | .load .handle, watch, reply, after => reply = watch.view.handle ∧ after.view = watch.view ∧
      after.monitors = watch.monitors
  | .threadExit, watch, _, after => after.view = watch.view
  | _, watch, _, after => after.view = watch.view ∧ after.monitors = watch.monitors

/-- The handle of the port that an effect of a monitor thread uses. -/
def Effect.commHandle? : Effect → Option Handle
  | .resetEvent handle | .waitCommEvent handle | .getEventResult handle _
  | .clearCommError handle _ | .readFile handle .. | .getOverlappedResult handle _ => some handle
  | _ => none

/-- The thread is alive, and the handle that it uses is the open one of the port. -/
structure Footed (number : Nat) (effect : Effect) (watch : Watch) : Prop where
  firm : watch.Firm number
  uses : ∀ handle, effect.commHandle? = some handle → handle = watch.view.handle

/-- An end leaves the port open. -/
def Watch.Sound (number : Nat) (watch : Watch) : Prop := number ∈ watch.monitors → watch.Opened

section Programs

variable {number : Nat} {watch now : Watch} {α : Type}

/-- The program of a monitor thread, followed on what it stands on. -/
abbrev MonitorAmid (number : Nat) (program : Code α) (post : α → Watch → Prop) (watch : Watch) :
    Prop :=
  program.Amid (Watch.Bears number) Effect.lookMonitor (Footed number) post watch

theorem bears_refl (watch : Watch) : watch.Bears number watch :=
  ⟨id, fun _ => rfl, fun _ => id, fun dead alive => absurd alive dead⟩

theorem Watch.Bears.trans {later : Watch} (early : watch.Bears number now)
    (late : now.Bears number later) : watch.Bears number later where
  alive := late.alive ∘ early.alive
  handle alive := (late.handle (early.alive alive)).trans (early.handle alive)
  opened alive opened := late.opened (early.alive alive) (early.opened alive opened)
  started dead alive := by
    by_cases between : number ∈ now.monitors
    · exact late.opened between (early.started dead between)
    · exact late.started between alive

theorem Watch.Firm.bears (firm : watch.Firm number) (bears : watch.Bears number now) :
    now.Firm number :=
  ⟨bears.alive firm.alive, bears.opened firm.alive firm.opened⟩

theorem Watch.Sound.bears (sound : watch.Sound number) (bears : watch.Bears number now) :
    now.Sound number := by
  intro alive
  by_cases before : number ∈ watch.monitors
  · exact bears.opened before (sound before)
  · exact bears.started before alive

theorem firm_of_same (view : now.view = watch.view) (monitors : now.monitors = watch.monitors)
    (firm : watch.Firm number) : now.Firm number where
  alive := monitors ▸ firm.alive
  opened := ⟨view ▸ firm.opened.valid, view ▸ firm.opened.isComm⟩

variable {post : α → Watch → Prop} (firm : watch.Firm number)
include firm

theorem monitor_ret {value : α} (ends : ∀ now : Watch, now.Firm number → post value now) :
    MonitorAmid number (.ret value) post watch :=
  fun now bears => ends now (firm.bears bears)

theorem monitor_act {effect : Effect} {next : effect.Reply → Code α}
    (stays : effect ≠ .threadExit)
    (uses : ∀ handle, effect.commHandle? = some handle → handle = watch.view.handle)
    (continued : ∀ reply now, now.Firm number → MonitorAmid number (next reply) post now) :
    MonitorAmid number (.act effect next) post watch := by
  intro now bears
  have firmNow := firm.bears bears
  refine ⟨⟨firmNow, fun handle used => ?_⟩, fun reply after looked => continued reply after ?_⟩
  · rw [bears.handle firm.alive]
    exact uses handle used
  · cases effect with
    | load field =>
        cases field with
        | handle => exact firm_of_same looked.2.1 looked.2.2 firmNow
        | _ => exact firm_of_same looked.1 looked.2 firmNow
    | threadExit => exact absurd rfl stays
    | _ => exact firm_of_same looked.1 looked.2 firmNow

/-- An effect on the handle of the port, which was read just before. -/
theorem monitor_use {use : Handle → Effect} {next : (handle : Handle) → (use handle).Reply → Code α}
    (uses : ∀ handle, (use handle).commHandle? = some handle)
    (stays : ∀ handle, use handle ≠ .threadExit)
    (continued : ∀ handle reply now, now.Firm number →
      MonitorAmid number (next handle reply) post now) :
    MonitorAmid number (.act (.load .handle) fun handle => .act (use handle) (next handle)) post
      watch := by
  intro now bears
  have firmNow := firm.bears bears
  refine ⟨⟨firmNow, nofun⟩, fun handle after looked => ?_⟩
  obtain ⟨rfl, view, monitors⟩ := looked
  refine monitor_act (firm_of_same view monitors firmNow) (stays _) ?_ (continued _)
  intro handle used
  rw [view]
  exact Option.some.inj (used.symm.trans (uses _))

theorem monitor_exit {value : α} :
    MonitorAmid number (.act .threadExit fun _ => .ret value) (fun _ now => now.Sound number)
      watch := by
  intro now bears
  have firmNow := firm.bears bears
  refine ⟨⟨firmNow, nofun⟩, fun _ after looked later further => ?_⟩
  have view : after.view = now.view := looked
  have opened : after.Opened := ⟨view ▸ firmNow.opened.valid, view ▸ firmNow.opened.isComm⟩
  have sound : after.Sound number := fun _ => opened
  exact sound.bears further

theorem getRecvThreadIsRunning_footed :
    MonitorAmid number getRecvThreadIsRunning (fun _ now => now.Firm number) watch := by
  refine monitor_act firm nofun nofun fun _ now firm => monitor_act firm nofun nofun fun _ now firm => ?_
  refine monitor_act firm nofun nofun fun _ now firm => monitor_act firm nofun nofun fun _ now firm => ?_
  exact monitor_ret firm fun _ firm => firm

/-- `read_data` sends the monitor thread of an open port away. -/
theorem readData_footed {notify unread : Nat} {outcome : ReadOutcome} :
    MonitorAmid number (readData (pure ()) notify unread outcome)
      (fun _ now => now.Firm number) watch := by
  obtain ⟨next, program, returns⟩ := readData_sent_away (pure ()) notify unread outcome
  rw [program]
  intro now bears
  have firmNow := firm.bears bears
  refine ⟨⟨firmNow, nofun⟩, fun handle after looked => ?_⟩
  obtain ⟨rfl, view, monitors⟩ := looked
  have valid : INVALID_HANDLE_VALUE ≠ now.view.handle :=
    (ne_invalid_of_nonneg (Int.le_of_lt firmNow.opened.valid)).symm
  rw [returns now.view.handle valid]
  refine monitor_act (firm_of_same view monitors firmNow) nofun nofun fun _ now firm => ?_
  exact monitor_ret firm fun _ firm => firm

theorem handleEvent_footed {eventMask : BitVec 32} {outcome : MonitorOutcome} :
    MonitorAmid number (handleEvent (pure ()) eventMask outcome)
      (fun _ now => now.Firm number) watch := by
  refine Prog.Amid.ite (fun _ => ?_) fun _ => monitor_ret firm fun _ firm => firm
  refine @monitor_use _ _ _ _ firm (.clearCommError · outcome.unread) _ (fun _ => rfl) nofun
    fun _ cbInQue now firm => ?_
  refine monitor_act firm nofun nofun fun notify now firm => Prog.Amid.ite (fun _ => ?_) fun _ => ?_
  · refine Prog.Amid.bind bears_refl (readData_footed firm) fun _ now firm => ?_
    exact monitor_ret firm fun _ firm => firm
  · exact monitor_ret firm fun _ firm => firm

theorem enterMonitor_footed :
    MonitorAmid number enterMonitor (fun _ now => now.Sound number) watch := by
  refine monitor_act firm nofun nofun fun handle now firm => ?_
  refine Prog.Amid.ite (fun _ => monitor_exit firm) fun _ => ?_
  refine @monitor_use _ _ _ _ firm .resetEvent _ (fun _ => rfl) nofun fun _ _ now firm => ?_
  exact monitor_ret firm fun _ firm _ => firm.opened

theorem threadRecvDataMonitor_footed {eventMask : BitVec 32} {outcome : MonitorOutcome} :
    MonitorAmid number (threadRecvDataMonitor (pure ()) eventMask outcome)
      (fun _ now => now.Sound number) watch := by
  have sound : ∀ now : Watch, now.Firm number → now.Sound number := fun _ firm _ => firm.opened
  refine Prog.Amid.bind bears_refl (getRecvThreadIsRunning_footed firm) fun running now firm => ?_
  refine Prog.Amid.ite (fun _ => monitor_exit firm) fun _ => ?_
  refine @monitor_use _ _ _ _ firm .waitCommEvent _ (fun _ => rfl) nofun
    fun _ _ now firm => ?_
  refine monitor_act firm nofun nofun fun event now firm => ?_
  refine monitor_act firm nofun nofun fun signalled now firm => ?_
  refine Prog.Amid.ite (fun _ => ?_) fun _ => monitor_ret firm sound
  refine @monitor_use _ _ _ _ firm (.getEventResult · outcome.confirmed) _ (fun _ => rfl) nofun
    fun _ confirmed now firm => ?_
  refine Prog.Amid.ite (fun _ => monitor_exit firm) fun _ => ?_
  refine Prog.Amid.bind bears_refl (handleEvent_footed firm) fun _ now firm => ?_
  refine Prog.Amid.ite (fun _ => ?_) fun _ => monitor_ret firm sound
  refine @monitor_use _ _ _ _ firm (.getEventResult · outcome.confirmed) _ (fun _ => rfl) nofun
    fun _ _ now firm => ?_
  exact monitor_ret firm sound

end Programs

/-! ## The other threads -/

section Others

variable {prompt : Prop} {number : Nat} {watch after : Watch} {effect : Effect}
  {reply : effect.Reply}

theorem bears_of_nobody (nobody : watch.monitors = []) (monitors : after.monitors = watch.monitors) :
    watch.Bears number after := by
  have dead : number ∉ watch.monitors := by simp [nobody]
  exact ⟨fun alive => absurd alive dead, fun alive => absurd alive dead,
    fun alive => absurd alive dead, fun _ alive => absurd (monitors ▸ alive) dead⟩

theorem bears_of_same (handle : after.view.handle = watch.view.handle)
    (comms : ∀ entry, entry ∈ watch.view.comms → entry ∈ after.view.comms)
    (monitors : after.monitors = watch.monitors) : watch.Bears number after where
  alive alive := monitors ▸ alive
  handle _ := handle
  opened _ opened := ⟨handle ▸ opened.valid, handle ▸ comms _ opened.isComm⟩
  started dead alive := absurd (monitors ▸ alive) dead

/-- The client starts a monitor thread on an open port, and takes no handle from it. -/
theorem client_bears (steady : effect.Steady watch)
    (looked : effect.lookWatch prompt watch reply after) : watch.Bears number after := by
  obtain ⟨view, watched⟩ := looked
  cases effect with
  | createFile name overlapped outcome queued =>
      cases outcome with
      | error error =>
          obtain ⟨-, view⟩ := view
          exact bears_of_same (by rw [view]) (by simp [view]) watched.2
      | ok =>
          obtain ⟨_, -, view⟩ := view
          refine bears_of_same (by rw [view]) (fun entry member => ?_) watched.2.2
          rw [view]
          exact List.mem_cons_of_mem _ member
  | beginthreadex outcome =>
      obtain ⟨_, -, view⟩ := view
      have handle : after.view.handle = watch.view.handle := by rw [view]
      have comms : after.view.comms = watch.view.comms := by rw [view]
      cases outcome with
      | error error => exact bears_of_same handle (by simp [comms]) watched.2.2
      | ok =>
          have opened : watch.Opened → after.Opened :=
            fun opened => ⟨handle ▸ opened.valid, by rw [comms, handle]; exact opened.isComm⟩
          refine ⟨fun alive => ?_, fun _ => handle, fun _ => opened, fun _ _ => opened ?_⟩
          · rw [watched.2.2]
            exact List.mem_append_left _ alive
          · exact ⟨steady.1, steady.2⟩
  | closeHandle handle => exact bears_of_nobody steady watched.2
  | store field value =>
      cases field with
      | handle => exact bears_of_nobody steady watched.2
      | _ => exact bears_of_same (by rw [view]; rfl) (by rw [view]; exact fun _ => id) watched.2
  | _ =>
      obtain ⟨-, handle, -, comms⟩ := sparing_view true rfl view
      exact bears_of_same handle (by simp [comms]) (sparing_watched true rfl watched).2

/-- A thread only ends itself. -/
theorem alive_stays {thread : Tid} {effect : Effect} {s after : State} {reply : effect.Reply}
    (stays : effect = .threadExit → thread ≠ .worker number)
    (executed : exec thread effect s = some (reply, after)) (alive : number ∈ s.monitors) :
    number ∈ after.monitors := by
  cases effect with
  | beginthreadex outcome =>
      cases outcome with
      | error error =>
          cases executed
          exact alive
      | ok =>
          cases executed
          exact List.mem_append_left _ alive
  | threadExit =>
      cases thread with
      | client other => cases executed
      | worker other =>
          cases executed
          have apart : number ≠ other := fun same => stays rfl (congrArg Tid.worker same.symm)
          exact (List.mem_erase_of_ne apart).mpr alive
  | _ =>
      rw [(exec_beside executed).monitors rfl]
      exact alive

variable {condition : Condition Tid State Effect Job}

theorem monitor_shared (watches : Watches condition True) (number : Nat) :
    Shared system condition (.worker number) State.watch (Watch.Bears number)
      Effect.lookMonitor where
  refl := bears_refl
  trans early late := early.trans late
  mine {config call effect reply after} reachable calls standing _ executed := by
    have only : call.prog.Only fun effect => effect.monitors = true :=
      reachable.only (fun _ _ _ admitted => runJob_monitors admitted) calls
    have single := Single.reachable watches.single reachable
    have inv := windows_contract.inv_of_reachable single
    have pointed := windows_contract.point_of_reachable single calls standing
    obtain ⟨rest, program⟩ := standing
    rw [program] at only
    have executed : exec (.worker number) effect config.state = some (reply, after) := executed
    have view := monitor_view inv pointed only.1 executed
    cases effect with
    | load field =>
        cases executed
        cases field <;> first | exact ⟨rfl, rfl⟩ | exact ⟨rfl, rfl, rfl⟩
    | threadExit => exact view
    | beginthreadex => exact absurd only.1 Bool.false_ne_true
    | _ => exact ⟨view, (exec_beside executed).monitors rfl⟩
  others {config other call effect reply after} reachable different calls standing executed := by
    cases other with
    | client second =>
        cases second with
        | zero =>
            have inv := windows_contract.inv_of_reachable (Single.reachable watches.single reachable)
            obtain ⟨_, -, settled⟩ := established_of_reachable watches reachable calls standing
            refine @client_bears False _ _ _ _ _ (settled.steady trivial) ⟨exec_look executed, ?_⟩
            exact exec_watched inv (numbered_of_reachable reachable).positive False.elim executed
        | succ second => simpa [oneClient] using watches.single (reachable.begun calls)
    | worker second =>
        have notClient : Tid.worker second ≠ .client 0 := by simp
        have fades := (watch_shared watches).others reachable notClient calls standing executed
        have alive := @alive_stays number _ _ _ _ _ (fun _ => different) executed
        refine ⟨alive, fun _ => by rw [fades.view], fun _ opened => ?_, fun dead alive => ?_⟩
        · exact ⟨fades.view ▸ opened.valid, fades.view ▸ opened.isComm⟩
        · exact absurd (fades.monitors.subset alive) dead
  external {config event after} _ changed := by
    rw [external_watch changed]
    exact bears_refl config.state.watch

/-- What is established of a monitor thread. -/
def footing (number : Nat) : Account Watch Effect Job Result where
  ready := Watch.Sound number
  point _ _ := Footed number
  post _ _ _ := Watch.Sound number

theorem footing_endures (number : Nat) :
    (footing number).Endures system condition (.worker number) State.watch (Watch.Bears number)
      Effect.lookMonitor where
  start alive := absurd alive (by simp [system, State.start, State.zero, State.watch])
  drifted := Watch.Sound.bears
  returned sound := sound
  body {job last s} sound admitted _ := by
    have returning : ∀ program : Code Iteration,
        (s.watch.Firm number → MonitorAmid number program (fun _ now => now.Sound number) s.watch) →
        number ∈ s.monitors →
        MonitorAmid number (program >>= fun iteration => (.ret (.iteration iteration) : Code Result))
          (fun _ now => now.Sound number) s.watch := by
      intro program footed alive
      refine Prog.Amid.bind bears_refl (footed ⟨alive, sound alive⟩) fun _ now sound later bears => ?_
      exact sound.bears bears
    cases job with
    | operation operation => rcases last with _ | (value | (_ | _)) <;> cases admitted
    | enter =>
        rcases last with _ | (value | (_ | _))
        · have allowed : s.monitors.contains number = true := admitted
          exact returning _ enterMonitor_footed (List.contains_iff_mem.mp allowed)
        all_goals cases admitted
    | iteration eventMask outcome =>
        rcases last with _ | (value | (carried | _))
        · cases admitted
        · cases admitted
        · have allowed : (s.monitors.contains number && eventMask == carried) = true := admitted
          exact returning _ (fun firm => threadRecvDataMonitor_footed firm)
            (List.contains_iff_mem.mp (Bool.and_eq_true_iff.mp allowed).1)
        · cases admitted

theorem footed_of_reachable (watches : Watches condition True)
    {config : Config Tid State Effect Effect.Reply Job Result}
    (reachable : system.Reachable condition config) {number : Nat}
    {call : Call State Effect Effect.Reply Job Result} {effect : Effect}
    (calls : config.calls (.worker number) = some call) (standing : call.Next effect) :
    Footed number effect config.state.watch :=
  Account.endures_point (monitor_shared watches number) (footing_endures number) reachable calls
    standing

end Others

/-! ## Prompt ends -/

/-- No wait for a monitor thread ends before the thread. -/
def promptly : Condition Tid State Effect Job where
  begins _ _ _ := true
  acts _ _ effect s :=
    match effect with
    | .waitForThread handle _ => handle.toNat ∉ s.monitors
    | _ => true

theorem promptly_watches : Watches (oneClient.both promptly) True where
  single begins := (Condition.both_begins.mp begins).1
  awaits _ permitted := of_decide_eq_true (Condition.both_acts.mp permitted).2

/-- In every run with one client and no wait that ends before its thread: at most one
monitor thread is alive; only a thread alive takes a step, and what it uses is the open
handle of the port; when `close` has returned, no monitor thread is alive. -/
theorem close_stops_monitors (config : Config Tid State Effect Effect.Reply Job Result)
    (reachable : system.Reachable (oneClient.both promptly) config) :
    config.state.monitors.length ≤ 1 ∧
    (∀ number call effect, config.calls (.worker number) = some call → call.Next effect →
      number ∈ config.state.monitors ∧ ∀ handle, effect.commHandle? = some handle →
        handle = config.state.param.handle ∧ config.state.isComm handle = true) ∧
    (∀ call outcome value, config.calls (.client 0) = some call →
      call.job = .operation (.close outcome) → call.Returned (.value value) →
      config.state.monitors = []) := by
  have watches := promptly_watches
  refine ⟨monitors_of_reachable watches reachable trivial, ?_, ?_⟩
  · intro number call effect calls standing
    obtain ⟨firm, uses⟩ := footed_of_reachable watches reachable calls standing
    refine ⟨firm.alive, fun handle used => ?_⟩
    have same : handle = config.state.param.handle := uses handle used
    refine ⟨same, ?_⟩
    rw [same, ← isComm_view]
    exact decide_eq_true firm.opened.isComm
  · intro call outcome value calls job returned
    obtain ⟨ended, ⟨shut, -⟩, recorded⟩ :=
      seen_of_reachable watches.single reachable calls job returned
    have isClosed : config.state.view.handle = INVALID_HANDLE_VALUE := by
      rw [recorded]
      exact shut.isClosed
    have watched := watched_of_reachable watches reachable (Config.idle?_of_returned calls returned)
    exact watched.kept.monitors_closed isClosed trivial

/-- What an iteration meets that does not get past its wait. -/
def MonitorOutcome.quiet : MonitorOutcome where
  signalled := false
  mask := none
  confirmed := false
  unread := 0
  comstat := 0
  read := .now ()

/-- The monitor thread sees that it is to stop, and `close` finds it ended. -/
def stoppingRun : List (Label Tid Job Event) :=
  openingRun ++ Label.burst (.worker 3) .enter 3 ++
    Label.burst (.client 0) (.operation (.close ⟨false⟩)) 9 ++
    Label.burst (.worker 3) (.iteration 0 .quiet) 5 ++ List.replicate 16 (.act (.client 0))

theorem close_stops_monitors_stopping :
    ∃ config call, system.steps (oneClient.both promptly) system.initial stoppingRun =
        some config ∧
      config.calls (.client 0) = some call ∧ call.Returned (.value (.code 0)) ∧
      config.state.monitors = [] := by
  have ran : ∃ config call, system.steps (oneClient.both promptly) system.initial stoppingRun =
        some config ∧
      config.calls (.client 0) = some call ∧ call.job = .operation (.close ⟨false⟩) ∧
      call.Returned (.value (.code 0)) := ⟨_, _, rfl, rfl, rfl, rfl⟩
  obtain ⟨config, call, steps, calls, job, returned⟩ := ran
  have stops := close_stops_monitors config (.of_steps .start steps)
  exact ⟨config, call, steps, calls, returned, stops.2.2 call _ _ calls job returned⟩

/-- The monitor thread waits for an event, and `close` gives it up. -/
def abandoningRun : List (Label Tid Job Event) :=
  openingRun ++ Label.burst (.worker 3) .enter 3 ++
    Label.burst (.worker 3) (.iteration 0 .quiet) 7 ++
    Label.burst (.client 0) (.operation (.close ⟨true⟩)) 25

/-- A monitor thread outlives the `close`, and the port that is opened again has two. -/
theorem close_leaves_monitor :
    (∃ config call, system.Reachable oneClient config ∧ config.calls (.client 0) = some call ∧
      call.job = .operation (.close ⟨true⟩) ∧ call.Returned (.value (.code 0)) ∧
      config.state.monitors = [3]) ∧
    ∃ config, system.Reachable oneClient config ∧ config.state.monitors = [3, 5] := by
  have ran : ∃ config call, system.steps oneClient system.initial abandoningRun = some config ∧
      config.calls (.client 0) = some call ∧ call.job = .operation (.close ⟨true⟩) ∧
      call.Returned (.value (.code 0)) ∧ config.state.monitors = [3] ∧
      ∃ second, system.steps oneClient config
        (Label.burst (.client 0) (.operation (.init eightNone none)) 4 ++
          Label.burst (.client 0) (.operation (.open .fine)) 36) = some second ∧
        second.state.monitors = [3, 5] := ⟨_, _, rfl, rfl, rfl, rfl, rfl, _, rfl, rfl⟩
  obtain ⟨config, call, steps, calls, job, returned, left, second, more, both⟩ := ran
  have reachable : system.Reachable oneClient config := .of_steps .start steps
  exact ⟨⟨config, call, reachable, calls, job, returned, left⟩,
    second, reachable.of_steps more, both⟩

end LibSp.Windows
