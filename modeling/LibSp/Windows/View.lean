import LibSp.Windows.Open
import LibSp.Concurrent.Alone

/-!
# What one client does to a Windows port

The monitor threads leave the settings, the handle and the configuration of the
device to the single client, so its operations can be followed on these alone.
-/

set_option autoImplicit false

namespace LibSp.Windows

open Concurrent

/-! ## The effects of the client on its part -/

/-- What the client owns, with the configuration in the object and the device. -/
structure View extends Owned where
  cfg : Dcb
  device : Option Device

def State.view (s : State) : View := { s.owned with cfg := s.param.cfg, device := s.device }

namespace View

/-- The members that a view keeps. -/
def get? (view : View) : (field : Field) → Option field.Val
  | .spp => some view.spp
  | .isInit => some view.isInit
  | .isRunning => some view.isRunning
  | .threadHandle => some view.threadHandle
  | .handle => some view.handle
  | .cfg => some view.cfg
  | _ => none

def set (view : View) : (field : Field) → field.Val → View
  | .spp, value => { view with spp := value }
  | .isInit, value => { view with isInit := value }
  | .isRunning, value => { view with isRunning := value }
  | .threadHandle, value => { view with threadHandle := value }
  | .handle, value => { view with handle := value }
  | .cfg, value => { view with cfg := value }
  | _, _ => view

def isComm (view : View) (handle : Handle) : Bool := (handle, Kind.comm) ∈ view.comms

def setDevice (view : View) (change : Device → Device) : View :=
  { view with device := view.device.map change }

def record (view : View) (operation : Operation) (value : Value) : View :=
  { view with history := (operation, value) :: view.history }

end View

/-- What an effect of client 0 may answer and do to its view, whatever the monitor
threads are doing. -/
def Effect.look : (effect : Effect) → View → effect.Reply → View → Prop
  | .load field, view, reply, after => (∀ value, view.get? field = some value → reply = value) ∧
      after = view
  | .store field value, view, _, after => after = view.set field value
  | .isOpened, view, reply, after => reply = decide (view.handle ≠ INVALID_HANDLE_VALUE) ∧
      after = view
  | .createFile name overlapped outcome _, view, reply, after =>
      match outcome with
      | .error _ => reply = INVALID_HANDLE_VALUE ∧ after = view
      | .ok _ => ∃ number : Nat, reply = number ∧ after = { view with
          comms := ((number : Handle), .comm) :: view.comms
          device := some ⟨name, overlapped, Dcb.zero, ⟨0, 0, 0, 0, 0⟩, 0⟩ }
  | .getConfig handle configured, view, reply, after =>
      reply = (if view.isComm handle then some configured else none) ∧ after = view
  | .setCommConfig handle cfg outcome, view, reply, after =>
      reply = (view.isComm handle && outcome.isOk) ∧
        after = if view.isComm handle && outcome.isOk then
          view.setDevice fun device => { device with dcb := cfg } else view
  | .setCommTimeouts handle timeouts, view, _, after =>
      after = if view.isComm handle then
        view.setDevice fun device => { device with timeouts := timeouts } else view
  | .setCommMask handle mask outcome, view, reply, after =>
      reply = (view.isComm handle && outcome.isOk) ∧
        after = if view.isComm handle && outcome.isOk then
          view.setDevice fun device => { device with mask := mask } else view
  | .beginthreadex outcome, view, reply, after => ∃ number : Nat, reply = number ∧
      after = { view with created := view.created + if outcome.isOk then 1 else 0 }
  | .closeHandle handle, view, _, after =>
      after = { view with comms := view.comms.filter fun entry => entry.1 ≠ handle }
  | .returned operation value, view, _, after => after = view.record operation value
  | _, view, _, after => after = view

theorem isComm_view (s : State) (handle : Handle) : s.view.isComm handle = s.isComm handle := by
  simp [View.isComm, State.isComm, State.view, State.owned, Members.owned, State.members]

/-- What leaves the owned members, the configuration and the device alone leaves the
view alone. -/
theorem view_of_members {s after : State} {members : Members} (changed : after.members = members)
    (owned : members.owned = s.members.owned) (cfg : members.param.cfg = s.param.cfg)
    (device : after.device = s.device) : after.view = s.view := by
  have param : after.param.cfg = s.param.cfg := by
    rw [← cfg, ← changed]
    rfl
  rw [State.view, State.view, State.owned, changed, owned, param, device]
  rfl

theorem State.Transferred.device {s after : State} (transferred : s.Transferred after) :
    after.device = s.device := by
  obtain ⟨_, _, _, _, _, _, rfl⟩ := transferred
  rfl

theorem State.Transferred.monitors {s after : State} (transferred : s.Transferred after) :
    after.monitors = s.monitors := by
  obtain ⟨_, _, _, _, _, _, rfl⟩ := transferred
  rfl

/-- The effects that reach the device. -/
def Effect.configures : Effect → Bool
  | .createFile .. | .setCommConfig .. | .setCommTimeouts .. | .setCommMask .. => true
  | _ => false

/-- The effects that change the list of threads alive. -/
def Effect.threading : Effect → Bool
  | .beginthreadex _ | .threadExit => true
  | _ => false

/-- The effects that change the bytes sent, the transfers in flight or their blocks. -/
def Effect.wires : Effect → Bool
  | .writeFile .. | .readFile .. | .getOverlappedResult .. | .resetOverlapped _ => true
  | _ => false

/-- What an effect leaves beside the members. -/
structure State.Beside (effect : Effect) (s after : State) : Prop where
  device : effect.configures = false → after.device = s.device
  monitors : effect.threading = false → after.monitors = s.monitors
  wires : effect.wires = false →
    after.sent = s.sent ∧ after.inFlight = s.inFlight ∧ after.blocks = s.blocks

theorem exec_beside {thread : Tid} {effect : Effect} {s after : State} {reply : effect.Reply}
    (executed : exec thread effect s = some (reply, after)) : s.Beside effect after := by
  have changes : true ≠ false := by decide
  cases effect with
  | createFile name overlapped outcome queued =>
      refine ⟨(absurd · changes), fun _ => ?_, fun _ => ?_⟩ <;> cases outcome <;> cases executed
      · rfl
      · rfl
      · exact ⟨rfl, rfl, rfl⟩
      · exact ⟨rfl, rfl, rfl⟩
  | setCommConfig handle cfg outcome =>
      simp only [exec] at executed
      split at executed
      · refine ⟨(absurd · changes), fun _ => ?_, fun _ => ?_⟩ <;> cases outcome <;> cases executed
        · rfl
        · rfl
        · exact ⟨rfl, rfl, rfl⟩
        · exact ⟨rfl, rfl, rfl⟩
      · cases executed
        exact ⟨(absurd · changes), fun _ => rfl, fun _ => ⟨rfl, rfl, rfl⟩⟩
  | setCommMask handle mask outcome =>
      simp only [exec] at executed
      split at executed
      · refine ⟨(absurd · changes), fun _ => ?_, fun _ => ?_⟩ <;> cases outcome <;> cases executed
        · rfl
        · rfl
        · exact ⟨rfl, rfl, rfl⟩
        · exact ⟨rfl, rfl, rfl⟩
      · cases executed
        exact ⟨(absurd · changes), fun _ => rfl, fun _ => ⟨rfl, rfl, rfl⟩⟩
  | setCommTimeouts =>
      cases executed
      refine ⟨(absurd · changes), fun _ => ?_, fun _ => ?_⟩ <;> split
      · rfl
      · rfl
      · exact ⟨rfl, rfl, rfl⟩
      · exact ⟨rfl, rfl, rfl⟩
  | purgeComm handle =>
      cases executed
      refine ⟨fun _ => ?_, fun _ => ?_, fun _ => ?_⟩ <;> split
      · rfl
      · rfl
      · rfl
      · rfl
      · exact ⟨rfl, rfl, rfl⟩
      · exact ⟨rfl, rfl, rfl⟩
  | beginthreadex outcome =>
      refine ⟨fun _ => ?_, (absurd · changes), fun _ => ?_⟩ <;> cases outcome <;> cases executed
      · rfl
      · rfl
      · exact ⟨rfl, rfl, rfl⟩
      · exact ⟨rfl, rfl, rfl⟩
  | threadExit =>
      cases thread with
      | client number => cases executed
      | worker number =>
          cases executed
          exact ⟨fun _ => rfl, (absurd · changes), fun _ => ⟨rfl, rfl, rfl⟩⟩
  | writeFile | readFile | getOverlappedResult =>
      have transferred := exec_transferred rfl executed
      exact ⟨fun _ => transferred.device, fun _ => transferred.monitors, (absurd · changes)⟩
  | resetOverlapped =>
      cases executed
      exact ⟨fun _ => rfl, fun _ => rfl, (absurd · changes)⟩
  | lock | getConfig | waitForThread | rotatingLogger =>
      simp only [exec] at executed
      split at executed <;> cases executed <;>
        exact ⟨fun _ => rfl, fun _ => rfl, fun _ => ⟨rfl, rfl, rfl⟩⟩
  | nullCall => cases executed
  | _ =>
      cases executed
      exact ⟨fun _ => rfl, fun _ => rfl, fun _ => ⟨rfl, rfl, rfl⟩⟩

theorem exec_look {effect : Effect} {s after : State} {reply : effect.Reply}
    (executed : exec (.client 0) effect s = some (reply, after)) :
    effect.look s.view reply after.view := by
  have members := exec_members executed
  have device := (exec_beside executed).device
  cases effect with
  | load field =>
      cases executed
      refine ⟨?_, rfl⟩
      cases field <;> rintro _ ⟨⟩ <;> rfl
  | store field value =>
      cases executed
      cases field <;> rfl
  | isOpened =>
      cases executed
      exact ⟨rfl, rfl⟩
  | createFile name overlapped outcome queued =>
      cases outcome with
      | error error =>
          cases executed
          exact ⟨rfl, rfl⟩
      | ok granted =>
          cases executed
          exact ⟨s.nextHandle, rfl, rfl⟩
  | getConfig handle configured =>
      simp only [exec] at executed
      simp only [Effect.look, isComm_view]
      split at executed <;> cases executed <;> simp [*]
  | setCommConfig handle cfg outcome =>
      simp only [exec] at executed
      simp only [Effect.look, isComm_view]
      split at executed
      · cases outcome <;> cases executed <;> simp [*, Except.isOk, Except.toBool] <;> rfl
      · cases executed
        simp [*]
        rfl
  | setCommTimeouts handle timeouts =>
      cases executed
      simp only [Effect.look, isComm_view]
      split <;> rfl
  | setCommMask handle mask outcome =>
      simp only [exec] at executed
      simp only [Effect.look, isComm_view]
      split at executed
      · cases outcome <;> cases executed <;> simp [*, Except.isOk, Except.toBool] <;> rfl
      · cases executed
        simp [*]
        rfl
  | beginthreadex outcome =>
      cases outcome with
      | error error =>
          cases executed
          exact ⟨0, rfl, rfl⟩
      | ok done =>
          cases executed
          refine ⟨s.nextHandle, rfl, ?_⟩
          simp [State.view, State.owned, Members.owned, State.members, State.newHandle,
            Except.isOk, Except.toBool]
  | closeHandle handle =>
      cases executed
      simp [Effect.look, State.view, State.owned, Members.owned, State.members, List.filter_filter,
        Bool.and_comm]
  | createEvent =>
      cases executed
      simp [Effect.look, State.view, State.owned, Members.owned, State.members, State.newHandle]
  | returned operation value =>
      cases executed
      rfl
  | threadExit => cases executed
  | nullCall => cases executed
  | _ => exact view_of_members members rfl rfl (device rfl)

/-! ## The monitor threads -/

/-- A monitor thread leaves the view alone. -/
theorem monitor_view {number : Nat} {effect : Effect} {s after : State} {reply : effect.Reply}
    (inv : s.members.Inv) (pointed : MonitorPoint s.members effect)
    (monitors : effect.monitors = true)
    (executed : exec (.worker number) effect s = some (reply, after)) : after.view = s.view := by
  have members := exec_members executed
  have owned := (@monitor_keeps (.worker number) _ _ inv pointed).2
  refine view_of_members members owned ?_ ?_
  · cases effect with
    | store field value => cases field <;> first | rfl | exact absurd monitors Bool.false_ne_true
    | _ => first | rfl | exact absurd monitors Bool.false_ne_true
  · refine (exec_beside executed).device ?_
    cases effect <;> first | rfl | exact absurd monitors Bool.false_ne_true

/-- A condition for one client. -/
def Single (condition : Condition Tid State Effect Job) : Prop :=
  ∀ {thread job s}, condition.begins thread job s = true → oneClient.begins thread job s = true

variable {condition : Condition Tid State Effect Job}
  {config : Config Tid State Effect Effect.Reply Job Result}

theorem Single.reachable (single : Single condition) (reachable : system.Reachable condition config) :
    system.Reachable oneClient config :=
  reachable.mono single fun _ => rfl

theorem client_sole (single : Single condition) :
    Sole system condition (.client 0) State.view Effect.look where
  mine _ _ _ executed := exec_look executed
  others {config other call effect reply after} reachable different calls standing executed := by
    match other with
    | .client 0 => exact absurd rfl different
    | .client (number + 1) => simpa [oneClient] using single (reachable.begun calls)
    | .worker number =>
        have only : call.prog.Only fun effect => effect.monitors = true :=
          reachable.only (fun _ _ _ admitted => runJob_monitors admitted) calls
        have inv := windows_contract.inv_of_reachable (single.reachable reachable)
        have pointed := windows_contract.point_of_reachable (single.reachable reachable) calls
          standing
        obtain ⟨rest, standing⟩ := standing
        rw [standing] at only
        exact monitor_view inv pointed only.1 executed
  external {event s after} changed := by
    have members := external_members changed
    refine view_of_members members rfl rfl ?_
    cases event with
    | arrived bytes =>
        cases changed
        rfl
    | completed block => exact (completeBlock_transferred s changed).device

end LibSp.Windows
