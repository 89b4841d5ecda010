import LibSp.Windows.Members
import LibSp.Concurrent.Owner

/-!
# One client and the monitor threads

A single client owns the members of the object, except the events that the monitor
threads create for their reads. What `open` does, and which names it passes on,
can then be followed as if the client ran alone.
-/

set_option autoImplicit false

namespace LibSp.Windows

open Concurrent

/-! ## Handles -/

/-- The handle exists no more, or is one of an event. -/
structure Members.Harmless (members : Members) (handle : Handle) : Prop where
  given : handle < members.nextHandle
  notComm : (handle, Kind.comm) ∉ members.handles
  notThread : (handle, Kind.thread) ∉ members.handles

/-- What holds at every moment of a run: handles are numbered in their order, and
the monitor threads close only events. -/
structure Members.Inv (members : Members) : Prop where
  numbered : ∀ entry ∈ members.handles, entry.1 < members.nextHandle
  readEvent : members.Harmless members.param.readEvent

theorem members_start : State.start.members.Inv where
  numbered := by simp [State.members, State.start]
  readEvent := by constructor <;> decide

section Update

variable {thread : Tid} {members : Members} {handle : Handle} {effect : Effect}

private theorem nextHandle_lt (kind : Kind) :
    (members.nextHandle : Int) < (members.newHandle kind).nextHandle :=
  Int.ofNat_lt.mpr (Nat.lt_succ_self _)

private theorem not_mem_newHandle (given : handle < members.nextHandle) {kind other : Kind}
    (missing : (handle, other) ∉ members.handles) :
    (handle, other) ∉ (members.newHandle kind).handles := by
  intro member
  rcases List.mem_cons.mp member with same | before
  · cases same
    exact absurd given (Int.lt_irrefl _)
  · exact missing before

private theorem newHandle_harmless (harmless : members.Harmless handle) (kind : Kind) :
    (members.newHandle kind).Harmless handle where
  given := Int.lt_trans harmless.given (nextHandle_lt kind)
  notComm := not_mem_newHandle harmless.given harmless.notComm
  notThread := not_mem_newHandle harmless.given harmless.notThread

theorem update_harmless (harmless : members.Harmless handle) :
    (effect.update thread members).Harmless handle := by
  unfold Effect.update
  split
  · exact { harmless with }
  · exact { harmless with }
  · exact { harmless with }
  · exact newHandle_harmless harmless .comm
  · exact newHandle_harmless harmless .event
  · exact { newHandle_harmless harmless .thread with }
  · exact { harmless with
      notComm := fun member => harmless.notComm (List.mem_filter.mp member).1
      notThread := fun member => harmless.notThread (List.mem_filter.mp member).1 }
  · exact { harmless with }
  · exact harmless

theorem newHandle_fresh (inv : members.Inv) :
    (members.newHandle .event).Harmless members.nextHandle := by
  have other : ∀ kind, kind ≠ .event →
      ((members.nextHandle : Handle), kind) ∉ (members.newHandle .event).handles := by
    intro kind different member
    rcases List.mem_cons.mp member with same | before
    · cases same
      exact different rfl
    · exact absurd (inv.numbered _ before) (Int.lt_irrefl _)
  exact ⟨nextHandle_lt .event, other .comm (by decide), other .thread (by decide)⟩

private theorem newHandle_numbered (inv : members.Inv) (kind : Kind) :
    ∀ entry ∈ (members.newHandle kind).handles,
      entry.1 < (members.newHandle kind).nextHandle := by
  intro entry member
  rcases List.mem_cons.mp member with rfl | before
  · exact nextHandle_lt kind
  · exact Int.lt_trans (inv.numbered entry before) (nextHandle_lt kind)

theorem update_inv (inv : members.Inv)
    (stores : ∀ value, effect = .store .readEvent value → members.Harmless value) :
    (effect.update thread members).Inv := by
  have harmless := fun handle => @update_harmless thread members handle effect
  unfold Effect.update at harmless ⊢
  split
  · next field value =>
      cases field with
      | readEvent => exact ⟨inv.numbered, { stores value rfl with }⟩
      | _ => exact ⟨inv.numbered, { inv.readEvent with }⟩
  · exact ⟨inv.numbered, harmless _ inv.readEvent⟩
  · exact ⟨inv.numbered, harmless _ inv.readEvent⟩
  · exact ⟨newHandle_numbered inv .comm, harmless _ inv.readEvent⟩
  · exact ⟨newHandle_numbered inv .event, harmless _ inv.readEvent⟩
  · exact ⟨newHandle_numbered inv .thread, harmless _ inv.readEvent⟩
  · exact ⟨fun entry member => inv.numbered entry (List.mem_filter.mp member).1,
      harmless _ inv.readEvent⟩
  · exact ⟨inv.numbered, harmless _ inv.readEvent⟩
  · exact inv

end Update

/-! ## What the client owns -/

/-- The settings of the port, with the operations that have returned. -/
structure Settings where
  spp : SpProp
  isInit : Bool
  history : List (Operation × Value)

/-- What only the client changes, and what `open` speaks of. -/
structure Owned extends Settings where
  handle : Handle
  threadHandle : Handle
  isRunning : Bool
  created : Nat
  comms : List (Handle × Kind)

def Members.owned (members : Members) : Owned where
  spp := members.param.spp
  isInit := members.param.isInit
  history := members.history
  handle := members.param.handle
  threadHandle := members.param.threadHandle
  isRunning := members.param.isRunning
  created := members.created
  comms := members.handles.filter fun entry => entry.2 = .comm

def State.owned (s : State) : Owned := s.members.owned

/-- The effects of a monitor thread, each with what it has established. -/
def MonitorPoint (members : Members) : Effect → Prop
  | .store .readEvent event => members.Harmless event
  | .closeHandle handle => members.Harmless handle
  | .store .. | .createFile .. | .beginthreadex _ | .returned .. => False
  | _ => True

/-- Closing a handle of another kind. -/
theorem filter_closed {handles : List (Handle × Kind)} {handle : Handle} {kind : Kind}
    (missing : (handle, kind) ∉ handles) :
    ((handles.filter fun entry => entry.1 ≠ handle).filter fun entry => entry.2 = kind) =
      handles.filter fun entry => entry.2 = kind := by
  rw [List.filter_filter]
  refine List.filter_congr fun entry member => ?_
  obtain ⟨other, ofKind⟩ := entry
  by_cases same : ofKind = kind
  · subst same
    have different : other ≠ handle := fun equal => missing (equal ▸ member)
    simp [different]
  · simp [same]

/-- A monitor thread keeps the invariant and everything that the client owns. -/
theorem monitor_keeps {thread : Tid} {members : Members} {effect : Effect} (inv : members.Inv)
    (pointed : MonitorPoint members effect) :
    (effect.update thread members).Inv ∧ (effect.update thread members).owned = members.owned := by
  refine ⟨update_inv inv ?_, ?_⟩
  · intro event same
    subst same
    exact pointed
  · cases effect with
    | store field value =>
        cases field with
        | readEvent => rfl
        | _ => exact pointed.elim
    | createFile name overlapped outcome queued => exact pointed.elim
    | beginthreadex outcome => exact pointed.elim
    | returned operation value => exact pointed.elim
    | createEvent => simp [Effect.update, Members.owned, Members.newHandle]
    | closeHandle handle =>
        simp only [Effect.update, Members.owned]
        rw [filter_closed pointed.notComm]
    | _ => rfl

/-! ## Names -/

/-- The settings of the latest successful `init`, and the number of `open` calls since. -/
def lastInit : List (Operation × Value) → Option (SpProp × Nat)
  | [] => none
  | (.init spp _, value) :: earlier =>
      if value = .code 0 then some (spp, 0) else lastInit earlier
  | (.open _, _) :: earlier => (lastInit earlier).map fun found => (found.1, found.2 + 1)
  | _ :: earlier => lastInit earlier

def prefixed : Nat → String → String
  | 0, name => name
  | count + 1, name => devicePrefix ++ prefixed count name

theorem length_prefixed (count : Nat) (name : String) :
    (prefixed count name).length = 4 * count + name.length := by
  induction count with
  | zero => simp [prefixed]
  | succ count countIH =>
      have four : devicePrefix.length = 4 := rfl
      rw [prefixed, String.length_append, countIH, four]
      omega

/-- The stored name between two operations. -/
def Named (settings : Settings) : Prop :=
  match lastInit settings.history with
  | none => settings.isInit = false
  | some (spp, opens) =>
      settings.isInit = true ∧ settings.spp = { spp with name := prefixed opens spp.name }

def Settings.renamed (settings : Settings) : Settings :=
  { settings with spp := { settings.spp with name := devicePrefix ++ settings.spp.name } }

/-- The settings that an operation leaves behind when it returns this value. -/
def Settings.after (settings : Settings) (operation : Operation) (value : Value) : Settings :=
  match operation with
  | .init spp _ =>
      if value = .code 0 then { settings with spp := spp, isInit := true } else settings
  | .open _ => if settings.isInit then settings.renamed else settings
  | _ => settings

def Settings.record (settings : Settings) (operation : Operation) (value : Value) : Settings :=
  { settings with history := (operation, value) :: settings.history }

theorem Named.after {settings : Settings} (named : Named settings) (operation : Operation)
    (value : Value) : Named ((settings.after operation value).record operation value) := by
  cases operation with
  | init spp precvData =>
      by_cases succeeded : value = .code 0
      · simp [Named, Settings.after, Settings.record, lastInit, succeeded, prefixed]
      · simpa [Named, Settings.after, Settings.record, lastInit, succeeded] using named
  | «open» outcome =>
      cases found : lastInit settings.history with
      | none =>
          have isInit : settings.isInit = false := by simpa [Named, found] using named
          simp [Named, Settings.after, Settings.record, lastInit, found, isInit]
      | some latest =>
          have stored := named
          simp only [Named, found] at stored
          simp [Named, Settings.after, Settings.record, Settings.renamed, lastInit, found,
            stored, prefixed]
  | _ => exact named

def NamedAfter (history : List (Operation × Value)) (name : String) : Prop :=
  ∃ spp opens, lastInit history = some (spp, opens) ∧ name = prefixed (opens + 1) spp.name

theorem Named.namedAfter {settings : Settings} (named : Named settings)
    (isInit : settings.isInit = true) :
    NamedAfter settings.history (devicePrefix ++ settings.spp.name) := by
  cases found : lastInit settings.history with
  | none => simp [Named, found, isInit] at named
  | some latest =>
      simp only [Named, found] at named
      exact ⟨latest.1, latest.2, found, by rw [named.2, prefixed]⟩

def ClientPoint (history : List (Operation × Value)) : Effect → Prop
  | .store .readEvent _ => False
  | .createFile name .. => NamedAfter history name
  | _ => True

/-! ## The rules -/

/-- `open` finds a closed port, and the calls whose failure it notices succeed. -/
structure Opens (outcome : OpenOutcome) (owned : Owned) : Prop where
  isClosed : owned.handle = INVALID_HANDLE_VALUE
  createFile : outcome.createFile.isOk = true
  setCommConfig : outcome.setCommConfig.isOk = true
  setCommMask : owned.spp.opMode = modeAsync → outcome.setCommMask.isOk = true

def startedThreads (outcome : OpenOutcome) (opMode : Int) : Nat :=
  if opMode = modeAsync ∧ outcome.beginthreadex.isOk = true then 1 else 0

/-- What an `open` that returned this value did to the owned part. -/
inductive OpenDone (outcome : OpenOutcome) (before : Owned) (value : Int) (after : Owned) :
    Prop where
  | refused (isInit : before.isInit = false) (negative : value = -1) (same : after = before)
  | failed (isInit : before.isInit = true) (fails : ¬ Opens outcome before) (nonzero : value ≠ 0)
      (renamed : after.toSettings = before.toSettings.renamed)
  | opened (isInit : before.isInit = true) (opens : Opens outcome before) (zero : value = 0)
      (renamed : after.toSettings = before.toSettings.renamed)
      (isOpened : after.handle ≠ INVALID_HANDLE_VALUE)
      (created : after.created = before.created + startedThreads outcome before.spp.opMode)

def Done (before after : Owned) : Operation → Value → Prop
  | .open outcome, .code value => OpenDone outcome before value after
  | operation, value => after.toSettings = before.toSettings.after operation value

def Owned.record (owned : Owned) (operation : Operation) (value : Value) : Owned :=
  { owned with history := (operation, value) :: owned.history }

def Rely : Tid → State → State → Prop
  | .client 0, s, after => after.owned = s.owned
  | .client _, _, _ => True
  | .worker _, s, after => ∀ handle, s.members.Harmless handle → after.members.Harmless handle

def rules : Rules Tid State Effect Job Result where
  inv s := s.members.Inv
  rely := Rely
  point thread _ effect s :=
    match thread with
    | .client _ => ClientPoint s.history effect
    | .worker _ => MonitorPoint s.members effect
  post thread job entry result s :=
    match thread, job, result with
    | .client _, .operation operation, .value value =>
        Named s.owned.toSettings ∧
          ∃ ended, Done entry.owned ended operation value ∧ s.owned = ended.record operation value
    | .client _, _, _ => False
    | .worker _, _, _ => True
  ready thread _ s :=
    match thread with
    | .client 0 => Named s.owned.toSettings
    | _ => True

theorem rely_refl (thread : Tid) (s : State) : Rely thread s s := by
  match thread with
  | .client 0 => exact rfl
  | .client (_ + 1) => trivial
  | .worker _ => exact fun _ harmless => harmless

theorem rely_trans (thread : Tid) {first second third : State} (early : Rely thread first second)
    (late : Rely thread second third) : Rely thread first third := by
  match thread with
  | .client 0 => exact Eq.trans late early
  | .client (_ + 1) => trivial
  | .worker _ => exact fun handle harmless => late handle (early handle harmless)

theorem worker_relies {thread : Tid} {effect : Effect} {s after : State} {reply : effect.Reply}
    (executed : exec thread effect s = some (reply, after)) (number : Nat) :
    Rely (.worker number) s after := by
  intro handle harmless
  rw [exec_members executed]
  exact update_harmless harmless

end LibSp.Windows
