import LibSp.Windows.Session
import LibSp.Concurrent.Amid

/-!
# The monitor threads of a Windows port

A monitor thread ends at a moment of its own, and outlives the port if the bounded
wait for it runs out. This part keeps the handles of the threads and the threads
alive, beside the view of the client.
-/

set_option autoImplicit false

namespace LibSp.Windows

open Concurrent

structure Watch where
  view : View
  threads : List (Handle × Kind)
  monitors : List Nat

def State.watch (s : State) : Watch where
  view := s.view
  threads := s.handles.filter fun entry => entry.2 = .thread
  monitors := s.monitors

/-- All that the monitor threads do to it is to end. -/
structure Watch.Fades (watch after : Watch) : Prop where
  view : after.view = watch.view
  threads : after.threads = watch.threads
  monitors : after.monitors.Sublist watch.monitors

/-! ## The effects -/

/-- A handle that nothing of the port has. -/
structure Watch.Fresh (watch : Watch) (handle : Handle) : Prop where
  positive : 0 < handle
  notComm : (handle, Kind.comm) ∉ watch.view.comms
  notThread : (handle, Kind.thread) ∉ watch.threads

/-- What an effect of client 0 does to the threads. Under `prompt` no wait for a
monitor thread ends before the thread. -/
def Effect.watched (prompt : Prop) : (effect : Effect) → Watch → effect.Reply → Watch → Prop
  | .createFile _ _ (.ok _) _, watch, reply, after => watch.Fresh reply ∧
      after.threads = watch.threads ∧ after.monitors = watch.monitors
  | .beginthreadex outcome, watch, reply, after =>
      match outcome with
      | .ok _ => watch.Fresh reply ∧ after.threads = (reply, .thread) :: watch.threads ∧
          after.monitors = watch.monitors ++ [reply.toNat]
      | .error _ => reply = 0 ∧ after.threads = watch.threads ∧ after.monitors = watch.monitors
  | .closeHandle handle, watch, _, after =>
      after.threads = (watch.threads.filter fun entry => entry.1 ≠ handle) ∧
        after.monitors = watch.monitors
  | .waitForThread handle _, watch, _, after => (prompt → handle.toNat ∉ watch.monitors) ∧
      after.threads = watch.threads ∧ after.monitors = watch.monitors
  | _, watch, _, after => after.threads = watch.threads ∧ after.monitors = watch.monitors

def Effect.lookWatch (prompt : Prop) (effect : Effect) (watch : Watch) (reply : effect.Reply)
    (after : Watch) : Prop :=
  effect.look watch.view reply after.view ∧ effect.watched prompt watch reply after

section

variable {prompt : Prop} {effect : Effect} {s after : State} {reply : effect.Reply}

theorem newHandle_watch_fresh (inv : s.members.Inv) (positive : 0 < s.nextHandle) :
    s.watch.Fresh (s.nextHandle : Handle) := by
  have unused : ∀ kind, ((s.nextHandle : Handle), kind) ∉ s.handles :=
    fun kind member => absurd (inv.numbered _ member) (Int.lt_irrefl _)
  constructor
  · exact Int.natCast_pos.mpr positive
  · exact fun member => unused _ (List.mem_filter.mp member).1
  · exact fun member => unused _ (List.mem_filter.mp member).1

/-- The threads after an effect that is no `beginthreadex`. -/
private theorem watched_beside (leaves : effect.threading = false)
    {threads : List (Handle × Kind)}
    (kept : ((effect.update (.client 0) s.members).handles.filter
      fun entry => entry.2 = .thread) = threads)
    (executed : exec (.client 0) effect s = some (reply, after)) :
    after.watch.threads = threads ∧ after.watch.monitors = s.watch.monitors := by
  have members := exec_members executed
  refine ⟨?_, (exec_beside executed).monitors leaves⟩
  rw [← kept, ← members]
  rfl

theorem exec_watched (inv : s.members.Inv) (positive : 0 < s.nextHandle)
    (awaits : prompt → ∀ handle timesOut, effect = .waitForThread handle timesOut →
      handle.toNat ∉ s.monitors)
    (executed : exec (.client 0) effect s = some (reply, after)) :
    effect.watched prompt s.watch reply after.watch := by
  cases effect with
  | createFile name overlapped outcome queued =>
      cases outcome with
      | error error => exact watched_beside rfl rfl executed
      | ok =>
          refine ⟨?_, watched_beside rfl rfl executed⟩
          cases executed
          exact newHandle_watch_fresh inv positive
  | beginthreadex outcome =>
      cases outcome with
      | error error =>
          cases executed
          exact ⟨rfl, rfl, rfl⟩
      | ok =>
          cases executed
          exact ⟨newHandle_watch_fresh inv positive, rfl, rfl⟩
  | closeHandle handle =>
      refine watched_beside rfl ?_ executed
      simp only [Effect.update, State.members, State.watch, List.filter_filter, Bool.and_comm]
  | waitForThread handle timesOut =>
      exact ⟨fun promptly => awaits promptly handle timesOut rfl, watched_beside rfl rfl executed⟩
  | threadExit => cases executed
  | _ => exact watched_beside rfl rfl executed

end

/-! ## The other threads -/

/-- A monitor thread leaves the view and the handles of the threads alone. -/
theorem monitor_fades {number : Nat} {effect : Effect} {s after : State} {reply : effect.Reply}
    (inv : s.members.Inv) (pointed : MonitorPoint s.members effect)
    (monitors : effect.monitors = true)
    (executed : exec (.worker number) effect s = some (reply, after)) :
    s.watch.Fades after.watch where
  view := monitor_view inv pointed monitors executed
  threads := by
    have members := congrArg Members.handles (exec_members executed)
    have same : ((effect.update (.worker number) s.members).handles.filter
        fun entry => entry.2 = .thread) = s.watch.threads := by
      cases effect with
      | closeHandle handle => exact filter_closed pointed.notThread
      | createFile | beginthreadex | returned => cases monitors
      | _ => rfl
    rw [← same, ← members]
    rfl
  monitors := by
    cases effect with
    | threadExit =>
        cases executed
        exact List.erase_sublist
    | beginthreadex outcome => cases monitors
    | _ =>
        have same : after.watch.monitors = s.watch.monitors := (exec_beside executed).monitors rfl
        exact same ▸ List.Sublist.refl _

theorem external_watch {event : Event} {s after : State}
    (changed : system.external event s = some after) : after.watch = s.watch := by
  have members := external_members changed
  have beside : after.device = s.device ∧ after.monitors = s.monitors := by
    cases event with
    | arrived bytes =>
        cases changed
        exact ⟨rfl, rfl⟩
    | completed block =>
        have transferred := completeBlock_transferred s changed
        exact ⟨transferred.device, transferred.monitors⟩
  have view : after.view = s.view := view_of_members members rfl rfl beside.1
  have handles : after.handles = s.handles := congrArg Members.handles members
  simp only [State.watch, view, handles, beside.2]

/-- A condition for one client, under which the waits are as `prompt` says. -/
structure Watches (condition : Condition Tid State Effect Job) (prompt : Prop) : Prop where
  single : Single condition
  awaits : ∀ {thread job handle timesOut s}, prompt →
    condition.acts thread job (.waitForThread handle timesOut) s = true →
    handle.toNat ∉ s.monitors

theorem oneClient_watches : Watches oneClient False where
  single begins := begins
  awaits prompt := prompt.elim

theorem watch_shared {condition : Condition Tid State Effect Job} {prompt : Prop}
    (watches : Watches condition prompt) :
    Shared system condition (.client 0) State.watch Watch.Fades (Effect.lookWatch prompt) where
  refl _ := ⟨rfl, rfl, List.Sublist.refl _⟩
  trans early late := {
    view := late.view.trans early.view
    threads := late.threads.trans early.threads
    monitors := late.monitors.trans early.monitors }
  mine {config call effect reply after} reachable _ _ permitted executed := by
    have inv := windows_contract.inv_of_reachable (Single.reachable watches.single reachable)
    refine ⟨exec_look executed, exec_watched inv (numbered_of_reachable reachable).positive ?_ executed⟩
    intro promptly handle timesOut same
    subst same
    exact watches.awaits promptly permitted
  others {config other call effect reply after} reachable different calls standing executed := by
    match other with
    | .client 0 => exact absurd rfl different
    | .client (number + 1) => simpa [oneClient] using watches.single (reachable.begun calls)
    | .worker number =>
        have only : call.prog.Only fun effect => effect.monitors = true :=
          reachable.only (fun _ _ _ admitted => runJob_monitors admitted) calls
        have inv := windows_contract.inv_of_reachable (Single.reachable watches.single reachable)
        have pointed := windows_contract.point_of_reachable (Single.reachable watches.single reachable)
          calls standing
        obtain ⟨rest, standing⟩ := standing
        rw [standing] at only
        exact monitor_fades inv pointed only.1 executed
  external {config event after} _ changed := by
    rw [external_watch changed]
    exact ⟨rfl, rfl, List.Sublist.refl _⟩

/-! ## The handles that the port holds -/

/-- The mode, the two handle members, the handles that are open, and who may be alive. -/
structure Holding where
  opMode : Int
  handle : Handle
  threadHandle : Handle
  comm : Option Handle
  thread : Option Handle
  monitors : List Nat

structure Watch.Holds (prompt : Prop) (watch : Watch) (holding : Holding) : Prop where
  opMode : watch.view.spp.opMode = holding.opMode
  handle : watch.view.handle = holding.handle
  threadHandle : watch.view.threadHandle = holding.threadHandle
  comms : watch.view.comms = holding.comm.toList.map fun handle => (handle, .comm)
  threads : watch.threads = holding.thread.toList.map fun handle => (handle, .thread)
  monitors : prompt → watch.monitors.Sublist holding.monitors
  few : holding.monitors.length ≤ 1

def Holding.closed (opMode : Int) : Holding where
  opMode := opMode
  handle := INVALID_HANDLE_VALUE
  threadHandle := INVALID_HANDLE_VALUE
  comm := none
  thread := none
  monitors := []

/-- The handle of a thread: neither the invalid one nor the 0 of a failure. -/
def live (threadHandle : Handle) : Option Handle :=
  if 0 < threadHandle then some threadHandle else none

def Holding.opened (opMode : Int) (handle threadHandle : Handle) : Holding where
  opMode := opMode
  handle := handle
  threadHandle := threadHandle
  comm := some handle
  thread := live threadHandle
  monitors := (live threadHandle).toList.map Int.toNat

def Holding.close (holding : Holding) (handle : Handle) : Holding :=
  { holding with
    comm := holding.comm.filter fun other => other ≠ handle
    thread := holding.thread.filter fun other => other ≠ handle }

/-- What the port holds between two operations. -/
inductive Watch.Kept (prompt : Prop) (watch : Watch) : Prop where
  | closed (opMode : Int) (holds : watch.Holds prompt (.closed opMode))
  | opened (opMode : Int) (handle threadHandle : Handle) (valid : 0 < handle)
      (apart : handle ≠ threadHandle)
      (holds : watch.Holds prompt (.opened opMode handle threadHandle))

section Effects

variable {prompt : Prop} {watch after : Watch} {holding : Holding} {α : Type}

theorem Watch.Holds.fades (holds : watch.Holds prompt holding) (fades : watch.Fades after) :
    after.Holds prompt holding where
  opMode := by rw [fades.view, holds.opMode]
  handle := by rw [fades.view, holds.handle]
  threadHandle := by rw [fades.view, holds.threadHandle]
  comms := by rw [fades.view, holds.comms]
  threads := by rw [fades.threads, holds.threads]
  monitors promptly := fades.monitors.trans (holds.monitors promptly)
  few := holds.few

theorem Watch.Holds.atMostOne (holds : watch.Holds prompt holding) (promptly : prompt) :
    watch.monitors.length ≤ 1 :=
  Nat.le_trans (holds.monitors promptly).length_le holds.few

theorem Watch.Holds.nobody (holds : watch.Holds prompt holding) (nobody : holding.monitors = [])
    (promptly : prompt) : watch.monitors = [] := by
  have alive := holds.monitors promptly
  rw [nobody] at alive
  exact List.sublist_nil.mp alive

theorem Watch.Holds.isComm (holds : watch.Holds prompt holding)
    (isComm : holding.comm = some holding.handle) :
    (watch.view.handle, Kind.comm) ∈ watch.view.comms := by
  rw [holds.comms, isComm, holds.handle]
  exact List.mem_singleton.mpr rfl

/-- What a monitor thread alive relies on when client 0 performs an effect. -/
def Effect.Steady (effect : Effect) (now : Watch) : Prop :=
  match effect with
  | .store .handle _ | .closeHandle _ => now.monitors = []
  | .beginthreadex _ => 0 < now.view.handle ∧ (now.view.handle, Kind.comm) ∈ now.view.comms
  | _ => True

/-- A handle that the client closes is its comm handle, one of a thread, or none. -/
def Effect.Closes (effect : Effect) (now : Watch) : Prop :=
  match effect with
  | .closeHandle handle => handle ≤ 0 ∨ (handle, Kind.comm) ∈ now.view.comms ∨
      (handle, Kind.thread) ∈ now.threads
  | _ => True

/-- What is established at every effect of client 0. Only a `send` creates events. -/
structure Established (prompt : Prop) (sending : Bool) (effect : Effect) (now : Watch) : Prop where
  few : prompt → now.monitors.length ≤ 1
  steady : prompt → effect.Steady now
  closes : effect.Closes now
  creates : effect = .createEvent → sending = true

/-- The program of client 0, followed on its watch. -/
abbrev WatchAmid (prompt : Prop) (sending : Bool) (program : Code α) (post : α → Watch → Prop)
    (watch : Watch) : Prop :=
  program.Amid Watch.Fades (Effect.lookWatch prompt) (Established prompt sending) post watch

variable {sending : Bool} {effect : Effect} {next : effect.Reply → Code α}
  {post : α → Watch → Prop}

theorem holds_act (holds : watch.Holds prompt holding)
    (settled : ∀ now : Watch, now.Holds prompt holding → Established prompt sending effect now)
    (continued : ∀ now, now.Holds prompt holding → ∀ reply after,
      effect.lookWatch prompt now reply after → WatchAmid prompt sending (next reply) post after) :
    WatchAmid prompt sending (.act effect next) post watch := by
  intro now fades
  have holdsNow := holds.fades fades
  exact ⟨settled now holdsNow, continued now holdsNow⟩

theorem holds_ret {value : α} (holds : watch.Holds prompt holding)
    (ends : ∀ now, now.Holds prompt holding → post value now) :
    WatchAmid prompt sending (.ret value) post watch :=
  fun now fades => ends now (holds.fades fades)

/-- The effects of a client that leave the handles of the port, the threads and the
mode alone. -/
def Effect.sparing (sending : Bool) : Effect → Bool
  | .store .spp _ | .store .handle _ | .store .threadHandle _ | .createFile .. | .beginthreadex _
  | .closeHandle _ => false
  | .createEvent => sending
  | _ => true

theorem sparing_established (sparing : effect.sparing sending = true)
    (holds : watch.Holds prompt holding) : Established prompt sending effect watch where
  few := holds.atMostOne
  steady _ := by
    cases effect with
    | createFile | beginthreadex | closeHandle => cases sparing
    | store field value => cases field <;> trivial
    | _ => trivial
  closes := by
    cases effect with
    | closeHandle => cases sparing
    | _ => trivial
  creates created := by
    subst created
    exact sparing

/-- What a sparing effect leaves of the view. -/
theorem sparing_view (sending : Bool) {view ended : View} {reply : effect.Reply}
    (sparing : effect.sparing sending = true) (looked : effect.look view reply ended) :
    ended.spp = view.spp ∧ ended.handle = view.handle ∧
      ended.threadHandle = view.threadHandle ∧ ended.comms = view.comms := by
  cases effect with
  | createFile | beginthreadex | closeHandle => cases sparing
  | store field value =>
      cases looked
      cases field <;> first | exact ⟨rfl, rfl, rfl, rfl⟩ | cases sparing
  | load | isOpened | getConfig =>
      obtain ⟨-, rfl⟩ := looked
      exact ⟨rfl, rfl, rfl, rfl⟩
  | setCommConfig | setCommMask =>
      obtain ⟨-, rfl⟩ := looked
      split <;> exact ⟨rfl, rfl, rfl, rfl⟩
  | setCommTimeouts =>
      cases looked
      split <;> exact ⟨rfl, rfl, rfl, rfl⟩
  | _ =>
      cases looked
      exact ⟨rfl, rfl, rfl, rfl⟩

theorem sparing_watched (sending : Bool) {reply : effect.Reply} (sparing : effect.sparing sending = true)
    (watched : effect.watched prompt watch reply after) :
    after.threads = watch.threads ∧ after.monitors = watch.monitors := by
  cases effect with
  | createFile | beginthreadex | closeHandle => cases sparing
  | waitForThread => exact watched.2
  | _ => exact watched

theorem sparing_holds (sending : Bool) {reply : effect.Reply} (sparing : effect.sparing sending = true)
    (looked : effect.lookWatch prompt watch reply after) (holds : watch.Holds prompt holding) :
    after.Holds prompt holding := by
  obtain ⟨spp, handle, threadHandle, comms⟩ := sparing_view sending sparing looked.1
  obtain ⟨threads, monitors⟩ := sparing_watched sending sparing looked.2
  exact {
    opMode := by rw [spp, holds.opMode]
    handle := by rw [handle, holds.handle]
    threadHandle := by rw [threadHandle, holds.threadHandle]
    comms := by rw [comms, holds.comms]
    threads := by rw [threads, holds.threads]
    monitors := by
      rw [monitors]
      exact holds.monitors
    few := holds.few }

theorem holds_skip (sparing : effect.sparing sending = true) (holds : watch.Holds prompt holding)
    (continued : ∀ reply after, after.Holds prompt holding →
      WatchAmid prompt sending (next reply) post after) :
    WatchAmid prompt sending (.act effect next) post watch :=
  holds_act holds (fun _ => sparing_established sparing) fun _ holds reply after looked =>
    continued reply after (sparing_holds sending sparing looked holds)

theorem holds_only {program : Code α} (only : program.Only fun effect => effect.sparing sending = true)
    (holds : watch.Holds prompt holding) :
    WatchAmid prompt sending program (fun _ after => after.Holds prompt holding) watch := by
  refine Prog.Amid.of_only (fun _ _ holds fades => holds.fades fades) ?_ ?_ only holds
  · exact fun _ _ sparing holds => sparing_established sparing holds
  · exact fun _ _ _ _ sparing holds looked => sparing_holds sending sparing looked holds

section Rules

variable (holds : watch.Holds prompt holding)
include holds

theorem holds_load {field : Field} {next : field.Val → Code α} {value : field.Val}
    (known : ∀ now : Watch, now.Holds prompt holding → now.view.get? field = some value)
    (continued : ∀ after, after.Holds prompt holding → WatchAmid prompt sending (next value) post after) :
    WatchAmid prompt sending (.act (.load field) next) post watch := by
  refine holds_act holds (fun _ => sparing_established rfl) fun now holds reply after looked => ?_
  have same := sparing_holds false rfl looked holds
  rw [looked.1.1 value (known now holds)]
  exact continued after same

theorem holds_load_spp {next : SpProp → Code α}
    (continued : ∀ spp : SpProp, spp.opMode = holding.opMode → ∀ after,
      after.Holds prompt holding → WatchAmid prompt sending (next spp) post after) :
    WatchAmid prompt sending (.act (.load .spp) next) post watch := by
  refine holds_act holds (fun _ => sparing_established rfl) fun now holds reply after looked => ?_
  have same := sparing_holds false rfl looked holds
  have read : reply = now.view.spp := looked.1.1 now.view.spp rfl
  exact continued reply (read ▸ holds.opMode) after same

theorem holds_isOpened {next : Bool → Code α}
    (continued : ∀ after, after.Holds prompt holding →
      WatchAmid prompt sending (next (decide (holding.handle ≠ INVALID_HANDLE_VALUE))) post after) :
    WatchAmid prompt sending (.act .isOpened next) post watch := by
  refine holds_act holds (fun _ => sparing_established rfl) fun now holds reply after looked => ?_
  have same := sparing_holds false rfl looked holds
  have tested : reply = decide (holding.handle ≠ INVALID_HANDLE_VALUE) :=
    holds.handle ▸ looked.1.1
  rw [tested]
  exact continued after same

/-- A store of the client, with what it makes of the holding. -/
theorem holds_store {field : Field} {value : field.Val} {next : Unit → Code α}
    (stored : Holding) (steady : ∀ now : Watch, now.Holds prompt holding → prompt →
      (Effect.store field value).Steady now)
    (stores : ∀ now : Watch, now.Holds prompt holding →
      Watch.Holds prompt { now with view := now.view.set field value } stored)
    (continued : ∀ after, after.Holds prompt stored → WatchAmid prompt sending (next ()) post after) :
    WatchAmid prompt sending (.act (.store field value) next) post watch := by
  refine holds_act holds (fun now holds => ⟨holds.atMostOne, steady now holds, trivial, nofun⟩)
    fun now holds _ after looked => ?_
  obtain ⟨view, threads, monitors⟩ := looked
  have same : after = { now with view := now.view.set field value } := by
    cases after
    cases view
    cases threads
    cases monitors
    rfl
  exact continued after (same ▸ stores now holds)

theorem holds_store_spp {spp : SpProp} {next : Unit → Code α}
    (continued : ∀ after, after.Holds prompt { holding with opMode := spp.opMode } →
      WatchAmid prompt sending (next ()) post after) :
    WatchAmid prompt sending (.act (.store .spp spp) next) post watch :=
  holds_store holds { holding with opMode := spp.opMode }
    (fun _ _ _ => trivial) (fun _ holds => { holds with opMode := rfl }) continued

theorem holds_store_handle {handle : Handle} {next : Unit → Code α}
    (nobody : holding.monitors = [])
    (continued : ∀ after, after.Holds prompt { holding with handle := handle } →
      WatchAmid prompt sending (next ()) post after) :
    WatchAmid prompt sending (.act (.store .handle handle) next) post watch :=
  holds_store holds { holding with handle := handle }
    (fun _ holds => holds.nobody nobody) (fun _ holds => { holds with handle := rfl }) continued

theorem holds_store_threadHandle {handle : Handle} {next : Unit → Code α}
    (continued : ∀ after, after.Holds prompt { holding with threadHandle := handle } →
      WatchAmid prompt sending (next ()) post after) :
    WatchAmid prompt sending (.act (.store .threadHandle handle) next) post watch :=
  holds_store holds { holding with threadHandle := handle }
    (fun _ _ _ => trivial) (fun _ holds => { holds with threadHandle := rfl }) continued

theorem holds_createFile {name : String} {overlapped : Bool}
    {outcome : Except SystemError Unit} {queued : List UInt8} {next : Handle → Code α}
    (none : holding.comm = none)
    (refused : ∀ after, after.Holds prompt holding →
      WatchAmid prompt sending (next INVALID_HANDLE_VALUE) post after)
    (granted : ∀ handle, 0 < handle → ∀ after,
      after.Holds prompt { holding with comm := some handle } →
      WatchAmid prompt sending (next handle) post after) :
    WatchAmid prompt sending (.act (.createFile name overlapped outcome queued) next) post watch := by
  refine holds_act holds (fun _ holds => ⟨holds.atMostOne, fun _ => trivial, trivial, nofun⟩)
    fun now holds reply after looked => ?_
  cases outcome with
  | error error =>
      obtain ⟨⟨rfl, view⟩, threads, monitors⟩ := looked
      refine refused after ?_
      have same : after = now := by
        cases after
        cases view
        cases threads
        cases monitors
        rfl
      exact same ▸ holds
  | ok =>
      obtain ⟨⟨number, rfl, view⟩, fresh, threads, monitors⟩ := looked
      refine granted number fresh.positive after ?_
      have comms := holds.comms
      rw [none] at comms
      constructor
      · rw [view, holds.opMode]
      · rw [view, holds.handle]
      · rw [view, holds.threadHandle]
      · rw [view, comms]
        rfl
      · rw [threads, holds.threads]
      · rw [monitors]
        exact holds.monitors
      · exact holds.few

theorem holds_beginthreadex {outcome : Except SystemError Unit} {next : Handle → Code α}
    (none : holding.thread = none) (nobody : holding.monitors = [])
    (valid : 0 < holding.handle) (isComm : holding.comm = some holding.handle)
    (refused : outcome.isOk = false → ∀ after, after.Holds prompt holding →
      WatchAmid prompt sending (next 0) post after)
    (started : outcome.isOk = true → ∀ handle, 0 < handle → holding.comm ≠ some handle →
      ∀ after, after.Holds prompt
        { holding with thread := some handle, monitors := [handle.toNat] } →
      WatchAmid prompt sending (next handle) post after) :
    WatchAmid prompt sending (.act (.beginthreadex outcome) next) post watch := by
  have steady : ∀ now : Watch, now.Holds prompt holding → (Effect.beginthreadex outcome).Steady now :=
    fun now holds => ⟨holds.handle.symm ▸ valid, holds.isComm isComm⟩
  refine holds_act holds
    (fun now holds => ⟨holds.atMostOne, fun _ => steady now holds, trivial, nofun⟩)
    fun now holds reply after looked => ?_
  cases outcome with
  | error error =>
      obtain ⟨⟨number, -, view⟩, rfl, threads, monitors⟩ := looked
      refine refused rfl after ?_
      constructor
      · rw [view, holds.opMode]
      · rw [view, holds.handle]
      · rw [view, holds.threadHandle]
      · rw [view, holds.comms]
      · rw [threads, holds.threads]
      · rw [monitors]
        exact holds.monitors
      · exact holds.few
  | ok =>
      obtain ⟨⟨number, -, view⟩, fresh, threads, monitors⟩ := looked
      refine started rfl reply fresh.positive ?_ after ?_
      · intro taken
        apply fresh.notComm
        rw [holds.comms, taken]
        exact List.mem_singleton.mpr rfl
      · constructor
        · rw [view, holds.opMode]
        · rw [view, holds.handle]
        · rw [view, holds.threadHandle]
        · rw [view, holds.comms]
        · rw [threads, holds.threads, none]
          rfl
        · intro promptly
          rw [monitors, holds.nobody nobody promptly]
          exact List.Sublist.refl _
        · exact Nat.le_refl 1

theorem holds_waitForThread {handle : Handle} {timesOut : Bool} {next : Unit → Code α}
    (waited : holding.monitors.Sublist [handle.toNat])
    (continued : ∀ after, after.Holds prompt { holding with monitors := [] } →
      WatchAmid prompt sending (next ()) post after) :
    WatchAmid prompt sending (.act (.waitForThread handle timesOut) next) post watch := by
  refine holds_act holds (fun _ => sparing_established rfl) fun now holds _ after looked =>
    continued after ?_
  obtain ⟨view, ended, threads, monitors⟩ := looked
  have same := sparing_holds false rfl ⟨view, ended, threads, monitors⟩ holds
  refine { same with monitors := fun promptly => ?_, few := Nat.zero_le 1 }
  -- Whoever could be alive is the thread waited for.
  have alive := (holds.monitors promptly).trans waited
  rw [monitors]
  cases alone : now.monitors with
  | nil => exact List.Sublist.refl _
  | cons number rest =>
      rw [alone] at alive
      have same : number = handle.toNat := List.mem_singleton.mp (alive.subset (by simp))
      exact absurd (by simp [alone, same]) (ended promptly)

theorem holds_closeHandle {handle : Handle} {next : Unit → Code α}
    (nobody : holding.monitors = [])
    (owned : handle ≤ 0 ∨ holding.comm = some handle ∨ holding.thread = some handle)
    (continued : ∀ after, after.Holds prompt (holding.close handle) →
      WatchAmid prompt sending (next ()) post after) :
    WatchAmid prompt sending (.act (.closeHandle handle) next) post watch := by
  have closes : ∀ now : Watch, now.Holds prompt holding → (Effect.closeHandle handle).Closes now := by
    intro now holds
    refine owned.imp_right (Or.imp (fun comm => ?_) fun thread => ?_)
    · rw [holds.comms, comm]
      exact List.mem_singleton.mpr rfl
    · rw [holds.threads, thread]
      exact List.mem_singleton.mpr rfl
  refine holds_act holds
    (fun now holds => ⟨holds.atMostOne, holds.nobody nobody, closes now holds, nofun⟩)
    fun now holds _ after looked => continued after ?_
  obtain ⟨view, threads, monitors⟩ := looked
  have closed : ∀ (owned : Option Handle) (kind : Kind),
      (owned.toList.map fun other => (other, kind)).filter (fun entry => entry.1 ≠ handle) =
        (owned.filter fun other => other ≠ handle).toList.map fun other => (other, kind) := by
    intro owned kind
    cases owned with
    | none => rfl
    | some other => by_cases same : other = handle <;> simp [Option.filter, same]
  constructor
  · rw [view, holds.opMode, Holding.close]
  · rw [view, holds.handle, Holding.close]
  · rw [view, holds.threadHandle, Holding.close]
  · rw [view, Holding.close, ← closed, ← holds.comms]
  · rw [threads, Holding.close, ← closed, ← holds.threads]
  · rw [monitors]
    exact holds.monitors
  · exact holds.few

end Rules

end Effects

end LibSp.Windows
