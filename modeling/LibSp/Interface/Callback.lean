import LibSp.Linux.Send
import LibSp.Linux.OpenClose
import LibSp.Windows.Send
import LibSp.Windows.Receive

/-!
# Callbacks that use the port

`on_recv_data` is called inside the critical section of a read. What its body may call
on the same object without waiting for the thread that it runs in.
-/

set_option autoImplicit false

namespace LibSp

open Concurrent

/-- A call that the body of `on_recv_data` makes on its object, with what the system
answers there. -/
inductive PortUse (Write Close : Type) where
  | send (pdata : Option (List UInt8)) (outcome : Write)
  | isOpened
  | setReadNotify (len : Nat)
  | close (outcome : Close)

section

variable {Write Close : Type}

/-- Neither a `close` nor a `send` of data. -/
def PortUse.harmless : PortUse Write Close → Bool
  | .send pdata _ => (pdata.getD []).length = 0
  | .isOpened | .setReadNotify _ => true
  | .close _ => false

variable {Tid State Effect : Type} {Reply : Effect → Type} {Job Result External : Type}
  {use : PortUse Write Close → Prog Effect Reply Unit} {uses : List (PortUse Write Close)}

/-- The body of a callback: one call after the other. -/
def onRecvData (use : PortUse Write Close → Prog Effect Reply Unit) :
    List (PortUse Write Close) → Prog Effect Reply Unit
  | [] => return ()
  | first :: rest => do
      use first
      onRecvData use rest

theorem onRecvData_only {allowed : Effect → Prop}
    (harmless : ∀ use ∈ uses, PortUse.harmless use = true)
    (each : ∀ first, first.harmless = true → (use first).Only allowed) :
    (onRecvData use uses).Only allowed := by
  induction uses with
  | nil => trivial
  | cons first rest ih =>
      refine (each first (harmless first List.mem_cons_self)).bind fun _ => ?_
      exact ih fun use member => harmless use (List.mem_cons_of_mem first member)

/-- If a harmless use runs through from wherever `inside` holds, and any other one comes
to a bad end, a callback with such a use does. -/
theorem onRecvData_stops [DecidableEq Tid] {condition : Condition Tid State Effect Job}
    {machine : Machine Tid State Effect Reply Job Result External} {thread : Tid} {job : Job}
    {inside : State → Prop} {bad : Prop}
    (passes : ∀ {first : PortUse Write Close} {rest : Unit → Prog Effect Reply Result} {s},
      first.harmless = true → inside s →
      machine.Stands condition thread job (use first >>= rest) s →
      ∃ after, inside after ∧ machine.Stands condition thread job (rest ()) after)
    (stops : ∀ {first : PortUse Write Close} {rest : Unit → Prog Effect Reply Result} {s},
      first.harmless = false → inside s →
      machine.Stands condition thread job (use first >>= rest) s → bad)
    {rest : Unit → Prog Effect Reply Result} {s : State} (entered : inside s)
    (stands : machine.Stands condition thread job (onRecvData use uses >>= rest) s)
    (harmful : ∃ use ∈ uses, PortUse.harmless use = false) : bad := by
  induction uses generalizing s with
  | nil => simp at harmful
  | cons first later ih =>
      change machine.Stands condition thread job
        ((use first >>= fun _ => onRecvData use later) >>= rest) s at stands
      rw [Prog.bind_assoc] at stands
      cases harmless : first.harmless with
      | false => exact stops harmless entered stands
      | true =>
          obtain ⟨after, still, stands⟩ := passes harmless entered stands
          exact ih still stands (by simpa [harmless] using harmful)

end

end LibSp

/-! ## Linux -/

namespace LibSp.Linux

open Concurrent

abbrev Use := PortUse (Except Errno Nat) Unit

def use : Use → Code Unit
  | .send pdata outcome => do
      let _ ← send pdata outcome
      return ()
  | .isOpened => do
      let _ ← perform .isOpened
      return ()
  | .setReadNotify len => setReadNotify len
  | .close _ => do
      let _ ← close
      return ()

/-- The system in which every delivery makes these calls. -/
def receiving (libc : SpeedSetters) (uses : List Use) :
    Machine Tid State Effect Effect.Reply Job Result (List UInt8) :=
  { system libc with
    body := fun
      | .operation operation => runJob libc (.operation operation)
      | .iteration hasReadBytes outcome => do
          return .iteration (← threadRecvDataMonitor (onRecvData use uses) hasReadBytes outcome) }

/-- A receive thread is about to lock the mutex that it owns, or to wait for its own end. -/
def Blocks (config : Config Tid State Effect Effect.Reply Job Result) (number : Nat) : Prop :=
  ∃ call, config.calls (.worker number) = some call ∧
    (call.Next .lock ∧ config.state.mutexRecv = some (.worker number) ∨
      ∃ identifier, call.Next (.pthreadJoin identifier) ∧
        config.state.port.unjoined? identifier = some number)

section Harmless

variable {libc : SpeedSetters} {uses : List Use}

theorem use_only {allowed : Effect → Prop} (tests : allowed .isOpened)
    (stores : ∀ len, allowed (.store .minByteReadNotify len)) {first : Use}
    (harmless : first.harmless = true) : (use first).Only allowed := by
  cases first with
  | isOpened => exact ⟨tests, fun _ => trivial⟩
  | setReadNotify len =>
      exact Prog.Only.ite (fun _ => ⟨stores _, fun _ => trivial⟩)
        fun _ => ⟨stores _, fun _ => trivial⟩
  | close => cases harmless
  | send pdata outcome =>
      cases pdata with
      | none => trivial
      | some data =>
          have empty : data.length = 0 := of_decide_eq_true harmless
          refine Prog.Only.bind ?_ fun _ => trivial
          exact Prog.Only.ite (fun _ => trivial) fun some => absurd empty some

def Effect.joins : Effect → Bool
  | .pthreadJoin _ => true
  | _ => false

theorem receiving_mutex (libc : SpeedSetters) (uses : List Use) :
    Mutex (receiving libc uses) State.mutexRecv lockUse :=
  (mutexRecv_mutex libc).transfer rfl rfl rfl

variable (harmless : ∀ use ∈ uses, use.harmless = true)
include harmless

theorem receiving_balanced (hasReadBytes : Int) (outcome : RecvOutcome) :
    Balanced (lockUse (.iteration hasReadBytes outcome)) (fun _ _ => True)
      ((receiving libc uses).body (.iteration hasReadBytes outcome)) false := by
  have free : (onRecvData use uses).Only fun effect =>
      lockUse (.iteration hasReadBytes outcome) effect = .free :=
    onRecvData_only harmless fun _ => use_only (by rfl) fun _ => by rfl
  exact (threadRecvDataMonitor_balanced free).bind fun _ => rfl

theorem receiving_orderly (job : Job) (held : Bool) (_ : True) :
    ((receiving libc uses).body job).Orderly (lockUse job) (fun _ => True) held := by
  cases job with
  | operation operation => exact @runJob_orderly libc (.operation operation) held trivial
  | iteration hasReadBytes outcome =>
      have orderly : ((receiving libc uses).body (.iteration hasReadBytes outcome)).Orderly
          (lockUse (.iteration hasReadBytes outcome)) (fun _ => True) false :=
        (receiving_balanced harmless hasReadBytes outcome).orderly.mono fun _ _ => trivial
      cases held with
      | false => exact orderly
      | true => exact orderly.holding

/-- A callback without a `close` and a `send` of data does not block its thread. -/
theorem not_blocks_of_harmless {config : Config Tid State Effect Effect.Reply Job Result}
    (reachable : (receiving libc uses).Reachable .always config) (number : Nat) :
    ¬ Blocks config number := by
  intro blocks
  obtain ⟨call, calls, blocked⟩ := blocks
  have worker : ∀ {last job s}, (receiving libc uses).admits (.worker number) last s job = true →
      ∃ hasReadBytes outcome, job = .iteration hasReadBytes outcome := by
    intro last job s admitted
    cases job with
    | operation operation => rcases last with _ | (_ | (_ | _)) <;> cases admitted
    | iteration hasReadBytes outcome => exact ⟨_, _, rfl⟩
  rcases blocked with ⟨standing, owns⟩ | ⟨identifier, standing, -⟩
  · have balanced := (receiving_mutex libc uses).balanced_thread trivial
      (receiving_orderly harmless) reachable fun admitted => by
        obtain ⟨hasReadBytes, outcome, rfl⟩ := worker admitted
        exact receiving_balanced harmless hasReadBytes outcome
    obtain ⟨next, standing⟩ := standing
    simp only [calls, standing, Concurrent.Balanced, owns, decide_true] at balanced
    split at balanced
    · cases balanced.1
    · next used => simp only [lockUse] at used; split at used <;> cases used
    · cases balanced.1
    · next used => simp only [lockUse] at used; split at used <;> cases used
    · exact balanced
  · have only : call.prog.Only fun effect => effect.joins = false := by
      refine reachable.only (fun last job s admitted => ?_) calls
      obtain ⟨hasReadBytes, outcome, rfl⟩ := worker admitted
      refine (threadRecvDataMonitor_only (fun effect receives => ?_) ?_).bind fun _ => trivial
      · cases effect with
        | pthreadJoin => cases receives
        | _ => rfl
      · exact onRecvData_only harmless fun _ => use_only (by rfl) fun _ => by rfl
    obtain ⟨next, standing⟩ := standing
    rw [standing] at only
    cases only.1

end Harmless

section Harmful

variable {libc : SpeedSetters} {uses : List Use} {number : Nat} {job : Job} {s : State}

/-- The receive thread that is stored in the port is in its critical section. -/
structure Inside (number : Nat) (s : State) : Prop where
  opened : s.port.param.isOpened = true
  owns : s.mutexRecv = some (.worker number)
  stored : s.port.unjoined? s.port.param.threadRecv = some number

theorem blocks_of_stands {effect : Effect} {next : effect.Reply → Code Result}
    (stands : (receiving libc uses).Stands .always (.worker number) job (.act effect next) s)
    (blocked : effect = .lock ∧ s.mutexRecv = some (.worker number) ∨
      ∃ identifier, effect = .pthreadJoin identifier ∧
        s.port.unjoined? identifier = some number) :
    ∃ config, (receiving libc uses).Reachable .always config ∧ Blocks config number := by
  obtain ⟨config, entry, past, reachable, calls, rfl⟩ := stands
  refine ⟨config, reachable, _, calls, ?_⟩
  rcases blocked with ⟨rfl, owns⟩ | ⟨identifier, rfl, itself⟩
  · exact .inl ⟨⟨next, rfl⟩, owns⟩
  · exact .inr ⟨identifier, ⟨next, rfl⟩, itself⟩

theorem use_passes {first : Use} {rest : Unit → Code Result} (harmless : first.harmless = true)
    (inside : Inside number s)
    (stands : (receiving libc uses).Stands .always (.worker number) job (use first >>= rest) s) :
    ∃ after, Inside number after ∧
      (receiving libc uses).Stands .always (.worker number) job (rest ()) after := by
  cases first with
  | isOpened => exact ⟨s, inside, stands.act rfl rfl⟩
  | close => cases harmless
  | setReadNotify len =>
      simp only [use, setReadNotify] at stands
      split at stands
      · refine ⟨_, ?_, stands.act rfl rfl⟩
        exact ⟨inside.opened, inside.owns, inside.stored⟩
      · refine ⟨_, ?_, stands.act rfl rfl⟩
        exact ⟨inside.opened, inside.owns, inside.stored⟩
  | send pdata outcome =>
      cases pdata with
      | none => exact ⟨s, inside, stands⟩
      | some data =>
          have empty : data.length = 0 := of_decide_eq_true harmless
          simp only [use, send, empty, if_true] at stands
          exact ⟨s, inside, stands⟩

theorem use_blocks {first : Use} {rest : Unit → Code Result} (harmful : first.harmless = false)
    (inside : Inside number s)
    (stands : (receiving libc uses).Stands .always (.worker number) job (use first >>= rest) s) :
    ∃ config, (receiving libc uses).Reachable .always config ∧ Blocks config number := by
  cases first with
  | isOpened | setReadNotify => cases harmful
  | close =>
      have opened := stands.act rfl rfl
      rw [inside.opened] at opened
      exact blocks_of_stands ((opened.act rfl rfl).act rfl rfl) (.inr ⟨_, rfl, inside.stored⟩)
  | send pdata outcome =>
      cases pdata with
      | none => cases harmful
      | some data =>
          have some : ¬ data.length = 0 := of_decide_eq_false harmful
          simp only [use, send, some, if_false] at stands
          exact blocks_of_stands stands (.inl ⟨rfl, inside.owns⟩)

/-- The receive thread passes on a byte that has arrived. -/
theorem receiving_enters (libc : SpeedSetters) (uses : List Use) : ∃ s rest, Inside 0 s ∧
    (receiving libc uses).Stands .always (.worker 0) (.iteration 0 ⟨true, true⟩)
      (onRecvData use uses >>= rest) s := by
  have fresh : (receiving libc uses).Reachable .always (receiving libc uses).initial := .start
  obtain ⟨config, past, reachable, client, stands, others⟩ := fresh.burst (.client 0)
    (.operation (.init eightNone (some 7))) 3 rfl rfl rfl rfl
  have worker : config.calls (.worker 0) = none := others (.worker 0) (by simp)
  obtain ⟨config, past, reachable, client, opened, others⟩ := reachable.burst (.client 0)
    (.operation (.open (.fine 3))) 18 (Config.idle?_of_returned client (by rfl)) stands rfl rfl
  replace worker := (others (.worker 0) (by simp)).trans worker
  obtain ⟨config, reachable, worker, stands⟩ : ∃ next, (receiving libc uses).Reachable .always
      next ∧ next.calls (.worker 0) = none ∧ next.state =
        { config.state with pending := config.state.queued [0x41] } :=
    ⟨_, .step reachable rfl (rfl : (receiving libc uses).step _ (.external [0x41]) = _), worker, rfl⟩
  rw [opened] at stands
  obtain ⟨config, past, reachable, worker, stands, -⟩ := reachable.burst (.worker 0)
    (.iteration 0 ⟨true, true⟩) 10 (by rw [Config.idle?, worker]) stands rfl rfl
  have bound : ∀ {α β : Type} (program : Code α) (rest : α → Code β),
      program.bind rest = program >>= rest := fun _ _ => rfl
  simp only [bound, Prog.ret_bind, Prog.bind_assoc] at worker
  refine ⟨config.state, _, ?_, config, _, _, reachable, worker, rfl⟩
  rw [stands]
  exact ⟨rfl, rfl, rfl⟩

end Harmful

/-- A receive thread never blocks itself exactly when no callback closes the port or sends
data on it. -/
theorem receiving_unblocked_iff (libc : SpeedSetters) (uses : List Use) :
    (∀ config number, (receiving libc uses).Reachable .always config → ¬ Blocks config number) ↔
      ∀ use ∈ uses, use.harmless = true := by
  constructor
  · intro unblocked use member
    cases harmless : use.harmless with
    | true => rfl
    | false =>
        obtain ⟨s, rest, inside, stands⟩ := receiving_enters libc uses
        obtain ⟨config, reachable, blocks⟩ :=
          onRecvData_stops use_passes use_blocks inside stands ⟨_, member, harmless⟩
        exact absurd blocks (unblocked config 0 reachable)
  · exact fun harmless config number reachable => not_blocks_of_harmless harmless reachable number

end LibSp.Linux

/-! ## Windows -/

namespace LibSp.Windows

open Concurrent

abbrev Use := PortUse WriteOutcome CloseOutcome

def use : Use → Code Unit
  | .send pdata outcome => do
      let _ ← send pdata outcome
      return ()
  | .isOpened => do
      let _ ← perform .isOpened
      return ()
  | .setReadNotify len => setReadNotify len
  | .close outcome => do
      let _ ← close outcome
      return ()

/-- The system in which every delivery makes these calls. -/
def receiving (uses : List Use) :
    Machine Tid State Effect Effect.Reply Job Result Event :=
  { system with
    body := fun
      | .iteration eventMask outcome => do
          return .iteration (← threadRecvDataMonitor (onRecvData use uses) eventMask outcome)
      | job => runJob job }

/-- A monitor thread is about to lock the mutex that it owns, or to wait for its own end. -/
def Blocks (config : Config Tid State Effect Effect.Reply Job Result) (number : Nat) : Prop :=
  ∃ call, config.calls (.worker number) = some call ∧
    (call.Next .lock ∧ config.state.mutexRecv = some (.worker number) ∨
      ∃ handle timesOut, call.Next (.waitForThread handle timesOut) ∧
        (handle, Kind.thread) ∈ config.state.handles ∧ handle.toNat = number)

section Harmless

variable {uses : List Use}

theorem use_only {allowed : Effect → Prop} (tests : allowed .isOpened)
    (stores : ∀ len, allowed (.store .minBytesReadNotify len)) (leaves : allowed (.leave .send))
    {first : Use} (harmless : first.harmless = true) : (use first).Only allowed := by
  cases first with
  | isOpened => exact ⟨tests, fun _ => trivial⟩
  | setReadNotify len => exact ⟨stores _, fun _ => trivial⟩
  | close outcome => cases harmless
  | send pdata outcome =>
      cases pdata with
      | none => exact ⟨leaves, fun _ => trivial⟩
      | some data =>
          have empty : data.length = 0 := of_decide_eq_true harmless
          simp only [use, send, empty, if_true]
          exact ⟨leaves, fun _ => trivial⟩

/-- A function that is called back returns to the critical section of the read. -/
def callbackUse (_ : Job) : Effect → LockUse
  | .lock => .acquires
  | .unlock => .releases
  | _ => .free

theorem callbackUse_loosens (job : Job) : Loosens (lockUse job) (callbackUse job) := by
  intro effect
  cases effect with
  | leave | returned | threadExit => exact .inr ⟨rfl, rfl⟩
  | _ => exact .inl rfl

theorem receiving_mutex (uses : List Use) :
    Mutex (receiving uses) State.mutexRecv callbackUse where
  start := rfl
  acquires := by
    intro thread job effect s reply after used executed
    cases effect with
    | lock => exact @(mutexRecv_mutex).acquires thread job .lock s reply after rfl executed
    | _ => cases used
  releases := by
    intro thread job effect s reply after used executed
    cases effect with
    | unlock => exact @(mutexRecv_mutex).releases thread job .unlock s reply after rfl executed
    | _ => cases used
  keeps := by
    intro thread job effect s reply after used executed
    refine exec_mutexRecv executed ?_ ?_
    · intro same
      subst same
      rcases used with used | used <;> cases used
    · intro same
      subst same
      rcases used with used | used <;> cases used
  external := mutexRecv_mutex.external

def Effect.waits : Effect → Bool
  | .waitForThread .. => true
  | _ => false

theorem monitors_waitless (effect : Effect) (monitors : effect.monitors = true) :
    effect.waits = false := by
  cases effect <;> first | rfl | cases monitors

variable (harmless : ∀ use ∈ uses, use.harmless = true)
include harmless

theorem receiving_balanced (eventMask : BitVec 32) (outcome : MonitorOutcome) :
    Balanced (callbackUse (.iteration eventMask outcome)) (fun _ _ => True)
      ((receiving uses).body (.iteration eventMask outcome)) false := by
  have free : (onRecvData use uses).Only fun effect =>
      callbackUse (.iteration eventMask outcome) effect = .free :=
    onRecvData_only harmless fun _ => use_only (by rfl) (fun _ => by rfl) (by rfl)
  exact (threadRecvDataMonitor_balanced (callbackUse_loosens _) free).bind fun _ => rfl

theorem monitor_balanced {number : Nat} {last : Option Result} {job : Job} {s : State}
    (admitted : admits (.worker number) last s job = true) :
    Balanced (callbackUse job) (fun _ _ => True) ((receiving uses).body job) false := by
  cases job with
  | operation operation => rcases last with _ | (_ | (_ | _)) <;> cases admitted
  | iteration eventMask outcome => exact receiving_balanced harmless eventMask outcome
  | enter =>
      have entering : Balanced (lockUse .enter) (fun _ _ => True) (runJob .enter) false :=
        enterMonitor_balanced.bind fun _ => rfl
      exact entering.loosen (callbackUse_loosens .enter)

theorem receiving_orderly (job : Job) (held : Bool) (outside : held = false) :
    ((receiving uses).body job).Orderly (callbackUse job) (fun held => held = false) held := by
  cases job with
  | iteration eventMask outcome =>
      subst outside
      exact (receiving_balanced harmless eventMask outcome).orderly
  | operation operation =>
      exact (runJob_orderly (.operation operation) held outside).loosen (callbackUse_loosens _)
  | enter => exact (runJob_orderly .enter held outside).loosen (callbackUse_loosens _)

/-- A callback without a `close` and a `send` of data does not block its thread. -/
theorem not_blocks_of_harmless {config : Config Tid State Effect Effect.Reply Job Result}
    (reachable : (receiving uses).Reachable .always config) (number : Nat) :
    ¬ Blocks config number := by
  intro blocks
  obtain ⟨call, calls, blocked⟩ := blocks
  rcases blocked with ⟨standing, owns⟩ | ⟨handle, timesOut, standing, -⟩
  · have kept := fun {last job s} => @monitor_balanced uses harmless number last job s
    have balanced := (receiving_mutex uses).balanced_thread (by rfl)
      (receiving_orderly harmless) reachable fun admitted => kept admitted
    obtain ⟨next, standing⟩ := standing
    simp only [calls, standing, Concurrent.Balanced, callbackUse, owns, decide_true] at balanced
    cases balanced.1
  · have only : call.prog.Only fun effect => effect.waits = false := by
      refine reachable.only (fun last job s admitted => ?_) calls
      cases job with
      | operation operation => rcases last with _ | (_ | (_ | _)) <;> cases admitted
      | enter => exact (enterMonitor_only monitors_waitless).bind fun _ => trivial
      | iteration eventMask outcome =>
          refine (threadRecvDataMonitor_only monitors_waitless ?_).bind fun _ => trivial
          exact onRecvData_only harmless fun _ => use_only (by rfl) (fun _ => by rfl) (by rfl)
    obtain ⟨next, standing⟩ := standing
    rw [standing] at only
    cases only.1

end Harmless

section Harmful

variable {uses : List Use} {number : Nat} {job : Job} {s : State}

/-- The monitor thread is in the critical section of a read, and the port is open. -/
structure Inside (number : Nat) (s : State) : Prop where
  opened : s.param.isOpened = true
  owns : s.mutexRecv = some (.worker number)

theorem blocks_of_stands {next : Unit → Code Result}
    (stands : (receiving uses).Stands .always (.worker number) job (.act .lock next) s)
    (owns : s.mutexRecv = some (.worker number)) :
    ∃ config, (receiving uses).Reachable .always config ∧ Blocks config number := by
  obtain ⟨config, entry, past, reachable, calls, rfl⟩ := stands
  exact ⟨config, reachable, _, calls, .inl ⟨⟨next, rfl⟩, owns⟩⟩

theorem use_passes {first : Use} {rest : Unit → Code Result} (harmless : first.harmless = true)
    (inside : Inside number s)
    (stands : (receiving uses).Stands .always (.worker number) job (use first >>= rest) s) :
    ∃ after, Inside number after ∧
      (receiving uses).Stands .always (.worker number) job (rest ()) after := by
  cases first with
  | isOpened => exact ⟨s, inside, stands.act rfl rfl⟩
  | close outcome => cases harmless
  | setReadNotify len =>
      refine ⟨_, ?_, stands.act rfl rfl⟩
      exact ⟨inside.opened, inside.owns⟩
  | send pdata outcome =>
      cases pdata with
      | none => exact ⟨s, inside, stands.act rfl rfl⟩
      | some data =>
          have empty : data.length = 0 := of_decide_eq_true harmless
          simp only [use, send, empty, if_true] at stands
          exact ⟨s, inside, stands.act rfl rfl⟩

/-- The overlapped and the plain `send` lock the mutex, and so does `close` to clear the
running flag. -/
theorem use_blocks {first : Use} {rest : Unit → Code Result} (harmful : first.harmless = false)
    (inside : Inside number s)
    (stands : (receiving uses).Stands .always (.worker number) job (use first >>= rest) s) :
    ∃ config, (receiving uses).Reachable .always config ∧ Blocks config number := by
  cases first with
  | isOpened | setReadNotify => cases harmful
  | close outcome =>
      have opened := stands.act rfl rfl
      simp only [inside.opened] at opened
      obtain ⟨reply, after, masked⟩ : ∃ reply after, exec (.worker number)
          (.setCommMask s.param.threadHandle 0 (.ok ())) s = some (reply, after) := by
        simp only [exec]
        split <;> exact ⟨_, _, rfl⟩
      refine blocks_of_stands ((opened.act rfl rfl).act rfl masked) ?_
      exact (exec_mutexRecv masked (by simp) (by simp)).trans inside.owns
  | send pdata outcome =>
      cases pdata with
      | none => cases harmful
      | some data =>
          have some : ¬ data.length = 0 := of_decide_eq_false harmful
          simp only [use, send, some, if_false] at stands
          have opened := stands.act rfl rfl
          simp only [inside.opened] at opened
          have chosen := opened.act rfl rfl
          dsimp only [Prog.bind] at chosen
          split at chosen
          · exact blocks_of_stands (((chosen.act rfl rfl).act rfl rfl).act rfl rfl) inside.owns
          · exact blocks_of_stands chosen inside.owns

/-- The port as the first `open` leaves it, with one monitor thread. -/
def State.attended (cfg : Dcb) (device : Option Device) : State :=
  { State.start with
    param := { State.start.param with
      spp := { eightNone with name := devicePrefix ++ eightNone.name }
      precvData := some 7
      isRunning := true
      threadHandle := 3
      cfg := cfg
      handle := 2
      isInit := true }
    handles := [(3, .thread), (2, .comm), (1, .event)]
    nextHandle := 4
    created := 1
    monitors := [3]
    device := device
    history := [(.open .fine, .code 0), (.init eightNone (some 7), .code 0)] }

/-- A `close` stops waiting for the monitor thread, which finds the port without a handle
and then reads from the port that is opened next. -/
theorem receiving_enters (uses : List Use) : ∃ s job rest, Inside 3 s ∧
    (receiving uses).Stands .always (.worker 3) job (onRecvData use uses >>= rest) s := by
  have fresh : (receiving uses).Reachable .always (receiving uses).initial := .start
  obtain ⟨config, past, reachable, client, stands, others⟩ :=
    fresh.burst (.client 0) (.operation (.init eightNone (some 7))) 5 rfl rfl rfl rfl
  have monitor : config.calls (.worker 3) = none := others (.worker 3) (by simp)
  obtain ⟨config, past, reachable, client, stands, others⟩ := reachable.burst (.client 0)
    (.operation (.open .fine)) 36 (Config.idle?_of_returned client (by rfl)) stands rfl rfl
  replace monitor := (others (.worker 3) (by simp)).trans monitor
  obtain ⟨cfg, device, stands⟩ : ∃ cfg device, config.state = .attended cfg device :=
    ⟨_, _, stands⟩
  obtain ⟨config, past, reachable, monitor, stands, others⟩ := reachable.burst (.worker 3)
    .enter 3 (by rw [Config.idle?, monitor]) stands rfl rfl
  replace client := (others (.client 0) (by simp)).trans client
  -- The iteration stops before it asks for the number of unread bytes.
  obtain ⟨config, past, reachable, monitor, stands, others⟩ := reachable.burst (.worker 3)
    (.iteration 0 { MonitorOutcome.rxchar (.now ()) with unread := 1 }) 9
    (Config.idle?_of_returned monitor (by rfl)) stands rfl rfl
  replace client := (others (.client 0) (by simp)).trans client
  obtain ⟨config, past, reachable, client, stands, others⟩ := reachable.burst (.client 0)
    (.operation (.close ⟨true⟩)) 25 (Config.idle?_of_returned client (by rfl)) stands rfl rfl
  replace monitor := (others (.worker 3) (by simp)).trans monitor
  obtain ⟨config, past, reachable, monitor, stands, others⟩ :=
    reachable.advances 5 monitor stands rfl
  replace client := (others (.client 0) (by simp)).trans client
  obtain ⟨config, past, reachable, client, stands, others⟩ := reachable.burst (.client 0)
    (.operation (.open { OpenOutcome.fine with queued := [0x41] })) 8
    (Config.idle?_of_returned client (by rfl)) stands rfl rfl
  replace monitor := (others (.worker 3) (by simp)).trans monitor
  obtain ⟨device, lastError, history, stands⟩ : ∃ device lastError history, config.state =
      { State.attended cfg device with
        param := { (State.attended cfg device).param with
          spp := { eightNone with name := devicePrefix ++ (devicePrefix ++ eightNone.name) }
          isRunning := false
          threadHandle := INVALID_HANDLE_VALUE
          handle := 4 }
        lastError := lastError
        handles := [(4, .comm), (1, .event)]
        nextHandle := 5
        queue := [0x41]
        history := history } := ⟨_, _, _, stands⟩
  obtain ⟨config, past, reachable, monitor, stands, -⟩ :=
    reachable.advances 12 monitor stands rfl
  have bound : ∀ {α β : Type} (program : Code α) (rest : α → Code β),
      program.bind rest = program >>= rest := fun _ _ => rfl
  simp only [bound, Prog.ret_bind, Prog.bind_assoc] at monitor
  refine ⟨config.state, _, _, ?_, config, _, _, reachable, monitor, rfl⟩
  rw [stands]
  exact ⟨rfl, rfl⟩

end Harmful

/-- A monitor thread never blocks itself exactly when no callback closes the port or sends
data on it. -/
theorem receiving_unblocked_iff (uses : List Use) :
    (∀ config number, (receiving uses).Reachable .always config → ¬ Blocks config number) ↔
      ∀ use ∈ uses, use.harmless = true := by
  constructor
  · intro unblocked use member
    cases harmless : use.harmless with
    | true => rfl
    | false =>
        obtain ⟨s, job, rest, inside, stands⟩ := receiving_enters uses
        obtain ⟨config, reachable, blocks⟩ :=
          onRecvData_stops use_passes use_blocks inside stands ⟨_, member, harmless⟩
        exact absurd blocks (unblocked config 3 reachable)
  · exact fun harmless config number reachable => not_blocks_of_harmless harmless reachable number

end LibSp.Windows

namespace LibSp

/-- What the interface allows a callback: on both platforms the receive thread neither locks
the mutex that it owns nor waits for its own end exactly when no callback closes the port
or sends data on it. -/
theorem callbacks_safe_iff (libc : Linux.SpeedSetters) :
    (∀ uses : List Linux.Use,
      (∀ config number, (Linux.receiving libc uses).Reachable .always config →
        ¬ Linux.Blocks config number) ↔ ∀ use ∈ uses, use.harmless = true) ∧
    (∀ uses : List Windows.Use,
      (∀ config number, (Windows.receiving uses).Reachable .always config →
        ¬ Windows.Blocks config number) ↔ ∀ use ∈ uses, use.harmless = true) :=
  ⟨Linux.receiving_unblocked_iff libc, Windows.receiving_unblocked_iff⟩

/-- A callback that answers with one byte, or closes the port, blocks its thread. -/
theorem callbacks_block :
    (∃ config, (Linux.receiving Linux.glibc [.send (some [0x55]) (.ok 1)]).Reachable .always
      config ∧ Linux.Blocks config 0) ∧
    (∃ config, (Linux.receiving Linux.glibc [.close ()]).Reachable .always config ∧
      Linux.Blocks config 0) ∧
    (∃ config, (Windows.receiving [.send (some [0x55]) (.now 1)]).Reachable .always config ∧
      Windows.Blocks config 3) ∧
    (∃ config, (Windows.receiving [.close ⟨false⟩]).Reachable .always config ∧
      Windows.Blocks config 3) := by
  have linux : ∀ use : Linux.Use, use.harmless = false → ∃ config,
      (Linux.receiving Linux.glibc [use]).Reachable .always config ∧ Linux.Blocks config 0 := by
    intro use harmful
    obtain ⟨s, rest, inside, stands⟩ := Linux.receiving_enters Linux.glibc [use]
    exact onRecvData_stops Linux.use_passes Linux.use_blocks inside stands
      ⟨use, List.mem_singleton_self use, harmful⟩
  have windows : ∀ use : Windows.Use, use.harmless = false → ∃ config,
      (Windows.receiving [use]).Reachable .always config ∧ Windows.Blocks config 3 := by
    intro use harmful
    obtain ⟨s, job, rest, inside, stands⟩ := Windows.receiving_enters [use]
    exact onRecvData_stops Windows.use_passes Windows.use_blocks inside stands
      ⟨use, List.mem_singleton_self use, harmful⟩
  exact ⟨linux _ rfl, linux _ rfl, windows _ rfl, windows _ rfl⟩

end LibSp
