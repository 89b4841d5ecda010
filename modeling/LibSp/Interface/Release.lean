import LibSp.Linux.OpenClose
import LibSp.Windows.Threads

/-!
# Creation and release of a port

`sp_create` makes an object of the class for the platform, and `sp_release` deletes
it through a pointer to `iserial_port`. Which destructors run is up to what the
class of the pointer declares.
-/

set_option autoImplicit false

namespace LibSp

open Concurrent

/-! ## The classes -/

inductive SpClass where
  | iserialPort
  | serialPortLinuxBase
  | serialPortWinBase
  deriving DecidableEq

namespace SpClass

/-- A class and its bases, the most derived first. -/
def lineage : SpClass → List SpClass
  | .iserialPort => [.iserialPort]
  | .serialPortLinuxBase => [.serialPortLinuxBase, .iserialPort]
  | .serialPortWinBase => [.serialPortWinBase, .iserialPort]

/-- Whether the destructor that a class declares is virtual, `none` for a class that
declares none. -/
def declaredDestructor : SpClass → Option Bool
  | .iserialPort => none
  | .serialPortLinuxBase => some true
  | .serialPortWinBase => some true

/-- A destructor is virtual if the class or a base of it declares it so. -/
def hasVirtualDestructor (cls : SpClass) : Bool :=
  cls.lineage.any fun ancestor => ancestor.declaredDestructor = some true

/-- The destructors that a `delete` through a pointer to this class runs for an object
of the class `dynamic`, in their order. -/
def deletes (cls dynamic : SpClass) : List SpClass :=
  if cls.hasVirtualDestructor then dynamic.lineage else cls.lineage

theorem deletes_iserialPort (dynamic : SpClass) : iserialPort.deletes dynamic = [iserialPort] :=
  if_neg (by decide)

end SpClass

/-- The allocation may fail. -/
def spCreate (platform : Platform) (allocated : Bool) : Option SpClass :=
  if allocated then
    match platform with
    | .windows => some .serialPortWinBase
    | .linux => some .serialPortLinuxBase
  else none

end LibSp

/-! ## Linux -/

namespace LibSp.Linux

open Concurrent

/-- The implicit destructor of `iserial_port` does nothing. -/
def destructor : SpClass → Code Unit
  | .serialPortLinuxBase => destroy
  | .serialPortWinBase | .iserialPort => return ()

def spRelease (psp : Option SpClass) : Code Unit :=
  match psp with
  | some dynamic => (SpClass.iserialPort.deletes dynamic).forM destructor
  | none => return ()

theorem spRelease_eq (psp : Option SpClass) : spRelease psp = .ret () := by
  cases psp with
  | none => rfl
  | some dynamic =>
      rw [spRelease, SpClass.deletes_iserialPort]
      rfl

/-- Client 0 begins `sp_release` with its object. -/
def releasing (config : Config Tid State Effect Effect.Reply Job Result) :
    Config Tid State Effect Effect.Reply Job Result :=
  config.calling (.client 0) (.operation .destroy) do
    spRelease (spCreate .linux true)
    return .value .void

/-- No descriptor of the object is open, and no receive thread of it is alive. -/
def State.ShutDown (s : State) : Prop := s.port.fds = [] ∧ s.receivers = []

theorem shutDown_iff {exact strict : Prop} {s : State} (inv : Inv exact strict s)
    (idle : Idle s.port) : s.ShutDown ↔ s.port.param.isOpened = false := by
  constructor
  · intro shut
    obtain ⟨none, -⟩ := shut
    refine Bool.eq_false_iff.mpr fun isOpened => ?_
    have some := (idle.opened isOpened).1
    rw [none] at some
    cases some
  · intro isClosed
    obtain ⟨-, fds, quiet⟩ := idle.closed isClosed
    exact ⟨fds, inv.receivers_nil quiet⟩

end LibSp.Linux

/-! ## Windows -/

namespace LibSp.Windows

open Concurrent

def destructor (outcome : CloseOutcome) : SpClass → Code Unit
  | .serialPortWinBase => destroy outcome
  | .serialPortLinuxBase | .iserialPort => return ()

def spRelease (psp : Option SpClass) (outcome : CloseOutcome) : Code Unit :=
  match psp with
  | some dynamic => (SpClass.iserialPort.deletes dynamic).forM (destructor outcome)
  | none => return ()

theorem spRelease_eq (psp : Option SpClass) (outcome : CloseOutcome) :
    spRelease psp outcome = .ret () := by
  cases psp with
  | none => rfl
  | some dynamic =>
      rw [spRelease, SpClass.deletes_iserialPort]
      rfl

def releasing (config : Config Tid State Effect Effect.Reply Job Result)
    (outcome : CloseOutcome) : Config Tid State Effect Effect.Reply Job Result :=
  config.calling (.client 0) (.operation (.destroy outcome)) do
    spRelease (spCreate .windows true) outcome
    return .value .void

/-- No handle of a port is open, and no monitor thread of the object is alive. -/
def State.ShutDown (s : State) : Prop :=
  (∀ handle, (handle, Kind.comm) ∉ s.handles) ∧ s.monitors = []

theorem shutDown_iff {prompt : Prop} {s : State} (kept : s.watch.Kept prompt) :
    s.ShutDown ↔ s.param.isOpened = false ∧ s.monitors = [] := by
  refine and_congr_left fun _ => ?_
  have comms := comms_of_kept kept
  have isComm : ∀ handle, (handle, Kind.comm) ∈ s.handles ↔
      (handle, Kind.comm) ∈ s.handles.filter fun entry => entry.2 = .comm :=
    fun handle => by simp
  constructor
  · intro none
    refine Bool.eq_false_iff.mpr fun isOpened => none s.param.handle ?_
    rw [isComm, comms, if_pos isOpened]
    exact List.mem_singleton.mpr rfl
  · intro isClosed handle
    rw [isComm, comms, if_neg (by simp [isClosed])]
    exact List.not_mem_nil

end LibSp.Windows

/-! ## Both platforms -/

namespace LibSp

open Concurrent

/-- From every run with one client, between two of its operations: `sp_release` shuts the
object down exactly when its port is closed and, on Windows, no monitor thread is left. -/
theorem release_shuts_iff (libc : Linux.SpeedSetters) :
    (∀ config last value after,
      (Linux.system libc).Reachable Linux.oneClient config →
      config.idle? (.client 0) = some last →
      (Linux.system libc).Returns Linux.oneClient (.client 0) (Linux.releasing config) value after →
      (after.state.ShutDown ↔ config.state.port.param.isOpened = false)) ∧
    ∀ config last outcome value after,
      Windows.system.Reachable Windows.oneClient config →
      config.idle? (.client 0) = some last →
      Windows.system.Returns Windows.oneClient (.client 0) (Windows.releasing config outcome)
        value after →
      (after.state.ShutDown ↔
        config.state.param.isOpened = false ∧ config.state.monitors = []) := by
  constructor
  · intro config last value after reachable idle returns
    have contract := Linux.linux_contract libc Linux.oneClient_assumes
    have inv : Linux.Inv False False config.state := contract.inv_of_reachable reachable
    have idlePort : Linux.Idle config.state.port := contract.ready_of_reachable reachable idle
    rw [Linux.releasing, Linux.spRelease_eq] at returns
    obtain ⟨-, rfl⟩ := Machine.returns_calling_ret.mp returns
    exact Linux.shutDown_iff inv idlePort
  · intro config last outcome value after reachable idle returns
    have watched := Windows.watched_of_reachable Windows.oneClient_watches reachable idle
    rw [Windows.releasing, Windows.spRelease_eq] at returns
    obtain ⟨-, rfl⟩ := Machine.returns_calling_ret.mp returns
    exact Windows.shutDown_iff watched.kept

theorem Linux.releasing_returns (libc : Linux.SpeedSetters)
    (config : Config Tid Linux.State Linux.Effect Linux.Effect.Reply Linux.Job Linux.Result) :
    (Linux.system libc).Returns Linux.oneClient (.client 0) (Linux.releasing config)
      (.value .void) (Linux.releasing config) := by
  rw [Linux.releasing, Linux.spRelease_eq]
  exact Machine.returns_calling_ret.mpr ⟨rfl, rfl⟩

theorem Windows.releasing_returns (outcome : Windows.CloseOutcome)
    (config : Config Tid Windows.State Windows.Effect Windows.Effect.Reply Windows.Job
      Windows.Result) :
    Windows.system.Returns Windows.oneClient (.client 0) (Windows.releasing config outcome)
      (.value .void) (Windows.releasing config outcome) := by
  rw [Windows.releasing, Windows.spRelease_eq]
  exact Machine.returns_calling_ret.mpr ⟨rfl, rfl⟩

/-- The released objects were never opened. -/
theorem release_shuts_unopened :
    (∃ after, (Linux.system Linux.glibc).Returns Linux.oneClient (.client 0)
        (Linux.releasing (Linux.system Linux.glibc).initial) (.value .void) after ∧
      after.state.ShutDown) ∧
    ∃ after, Windows.system.Returns Windows.oneClient (.client 0)
        (Windows.releasing Windows.system.initial ⟨false⟩) (.value .void) after ∧
      after.state.ShutDown := by
  have linux := Linux.releasing_returns Linux.glibc (Linux.system Linux.glibc).initial
  have windows := Windows.releasing_returns ⟨false⟩ Windows.system.initial
  have shuts := release_shuts_iff Linux.glibc
  exact ⟨⟨_, linux, (shuts.1 _ none _ _ .start rfl linux).mpr rfl⟩,
    _, windows, (shuts.2 _ none _ _ _ .start rfl windows).mpr ⟨rfl, rfl⟩⟩

/-- An open port with a receive thread keeps its descriptor or handle and its thread. -/
theorem release_leaves_open :
    (∃ config last after, (Linux.system Linux.glibc).Reachable Linux.oneClient config ∧
      config.idle? (.client 0) = some last ∧
      (Linux.system Linux.glibc).Returns Linux.oneClient (.client 0) (Linux.releasing config)
        (.value .void) after ∧
      after.state.port.fds = [3] ∧ after.state.receivers = [0] ∧ ¬ after.state.ShutDown) ∧
    ∃ config last after, Windows.system.Reachable Windows.oneClient config ∧
      config.idle? (.client 0) = some last ∧
      Windows.system.Returns Windows.oneClient (.client 0) (Windows.releasing config ⟨false⟩)
        (.value .void) after ∧
      after.state.handles = [(3, .thread), (2, .comm), (1, .event)] ∧
      after.state.monitors = [3] ∧ ¬ after.state.ShutDown := by
  constructor
  · have ran : ∃ config last, (Linux.system Linux.glibc).steps Linux.oneClient
          (Linux.system Linux.glibc).initial (Linux.openingRun (.fine 3) 18) = some config ∧
        config.idle? (.client 0) = some last ∧ config.state.port.fds = [3] ∧
        config.state.receivers = [0] := ⟨_, _, rfl, rfl, rfl, rfl⟩
    obtain ⟨config, last, steps, idle, fds, receivers⟩ := ran
    refine ⟨config, last, _, .of_steps .start steps, idle,
      Linux.releasing_returns Linux.glibc config, fds, receivers, fun shutDown => ?_⟩
    have none : config.state.port.fds = [] := shutDown.1
    rw [fds] at none
    cases none
  · have ran : ∃ config last, Windows.system.steps Windows.oneClient Windows.system.initial
          Windows.openingRun = some config ∧ config.idle? (.client 0) = some last ∧
        config.state.handles = [(3, .thread), (2, .comm), (1, .event)] ∧
        config.state.monitors = [3] := ⟨_, _, rfl, rfl, rfl, rfl⟩
    obtain ⟨config, last, steps, idle, handles, monitors⟩ := ran
    refine ⟨config, last, _, .of_steps .start steps, idle,
      Windows.releasing_returns ⟨false⟩ config, handles, monitors, fun shutDown => ?_⟩
    have none : config.state.monitors = [] := shutDown.2
    rw [monitors] at none
    cases none

end LibSp
