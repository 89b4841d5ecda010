import LibSp.Windows.Stop
import LibSp.Concurrent.Budget

/-!
# A port that receives nothing

The monitor thread reads only if it finds no handle, and in the runs in which no wait for
it ends before it has ended it always finds one. So nothing that arrives is ever read.
-/

set_option autoImplicit false

namespace LibSp.Windows

open Concurrent

/-! ## The effects that receive -/

def Effect.takes : Effect → Bool
  | .readFile .. | .getOverlappedResult _ .read | .onRecvData .. => true
  | _ => false

/-- Who asks for the handle of the port gets one. -/
def HandleFound : (effect : Effect) → effect.Reply → Prop
  | .load .handle, handle => INVALID_HANDLE_VALUE ≠ handle
  | _, _ => True

section Jobs

theorem getRecvThreadIsRunning_takesNothing :
    getRecvThreadIsRunning.Only fun effect => effect.takes = false :=
  ⟨rfl, fun _ => ⟨rfl, fun _ => ⟨rfl, fun _ => ⟨rfl, fun _ => trivial⟩⟩⟩⟩

theorem readData_takesNothing {notify unread : Nat} {outcome : ReadOutcome} :
    (readData (pure ()) notify unread outcome).AtMost Effect.takes HandleFound 0 := by
  obtain ⟨next, program, returns⟩ := readData_sent_away (pure ()) notify unread outcome
  rw [program]
  refine .free rfl fun handle found => ?_
  rw [returns handle found]
  exact .free rfl fun _ _ => trivial

theorem handleEvent_takesNothing {eventMask : BitVec 32} {outcome : MonitorOutcome} :
    (handleEvent (pure ()) eventMask outcome).AtMost Effect.takes HandleFound 0 := by
  refine .ite (fun _ => ?_) fun _ => trivial
  refine .free rfl fun handle _ => .free rfl fun cbInQue _ => .free rfl fun notify _ => ?_
  exact .ite (fun _ => readData_takesNothing.bind fun _ => trivial) fun _ => trivial

theorem threadRecvDataMonitor_takesNothing {eventMask : BitVec 32} {outcome : MonitorOutcome} :
    (threadRecvDataMonitor (pure ()) eventMask outcome).AtMost Effect.takes HandleFound 0 := by
  refine Prog.AtMost.bind (.of_only getRecvThreadIsRunning_takesNothing) fun running => ?_
  refine .ite (fun _ => .free rfl fun _ _ => trivial) fun _ => ?_
  refine .free rfl fun handle _ => .free rfl fun _ _ => .free rfl fun event _ => ?_
  refine .free rfl fun signalled _ => .ite (fun _ => ?_) fun _ => trivial
  refine .free rfl fun handle _ => .free rfl fun confirmed _ => ?_
  refine .ite (fun _ => .free rfl fun _ _ => trivial) fun _ => ?_
  refine handleEvent_takesNothing.bind fun _ => .ite (fun _ => ?_) fun _ => trivial
  exact .free rfl fun handle _ => .free rfl fun _ _ => trivial

theorem enterMonitor_takesNothing : enterMonitor.AtMost Effect.takes HandleFound 0 := by
  refine .free rfl fun handle _ => .ite (fun _ => .free rfl fun _ _ => trivial) fun _ => ?_
  exact .free rfl fun _ _ => .free rfl fun _ _ => trivial

theorem operation_takesNothing (operation : Operation) :
    (runJob (.operation operation)).Only fun effect => effect.takes = false := by
  have opening : ∀ effect : Effect, effect.opens = true → effect.takes = false := by
    intro effect opens
    cases effect with
    | getOverlappedResult handle block => cases opens
    | _ => first | rfl | cases opens
  have closing : ∀ effect : Effect, effect.closes = true → effect.takes = false := by
    intro effect closes
    cases effect with
    | getOverlappedResult handle block => cases closes
    | _ => first | rfl | cases closes
  refine Prog.Only.bind ?_ fun _ => ⟨rfl, fun _ => trivial⟩
  cases operation with
  | init spp precvData =>
      refine Prog.Only.bind (init_only fun effect initial _ _ => ?_) fun _ => trivial
      cases effect with
      | getOverlappedResult handle block => cases initial
      | _ => first | rfl | cases initial
  | «open» outcome => exact (open_only opening).bind fun _ => trivial
  | close outcome => exact (close_only closing).bind fun _ => trivial
  | setReadNotify | isOpened => exact ⟨rfl, fun _ => trivial⟩
  | send pdata outcome =>
      refine Prog.Only.bind (send_only (fun effect transmits => ?_) fun _ _ _ => rfl) fun _ => trivial
      cases effect with
      | getOverlappedResult handle block => cases block <;> first | rfl | cases transmits
      | _ => first | rfl | cases transmits
  | getRecvThreadIsRunning =>
      exact getRecvThreadIsRunning_takesNothing.bind fun _ => trivial
  | setRecvThreadIsRunning value =>
      refine Prog.Only.bind (setRecvThreadIsRunning_only fun effect stops => ?_) fun _ => trivial
      exact closing effect (closes_of_stops stops)
  | destroy outcome => exact (destroy_only closing rfl).bind fun _ => trivial

theorem monitor_takesNothing {number : Nat} {last : Option Result} {job : Job} {s : State}
    (admitted : admits (.worker number) last s job = true) :
    (runJob job).AtMost Effect.takes HandleFound 0 := by
  cases job with
  | operation operation => rcases last with _ | (value | (_ | _)) <;> cases admitted
  | enter => exact enterMonitor_takesNothing.bind fun _ => trivial
  | iteration eventMask outcome => exact threadRecvDataMonitor_takesNothing.bind fun _ => trivial

end Jobs

/-! ## A state in which nothing has been received -/

structure Silent (s : State) : Prop where
  consumed : s.consumed = []
  delivered : s.delivered = []
  writes : ∀ transfer ∈ s.inFlight, transfer.block = .write

section Effects

variable {thread : Tid} {s after : State}

theorem Silent.congr (silent : Silent s) (consumed : after.consumed = s.consumed)
    (delivered : after.delivered = s.delivered) (inFlight : after.inFlight = s.inFlight) :
    Silent after where
  consumed := consumed.trans silent.consumed
  delivered := delivered.trans silent.delivered
  writes := by
    rw [inFlight]
    exact silent.writes

theorem Silent.completeBlock (silent : Silent s) {block : Block}
    (completed : s.completeBlock block = some after) : Silent after := by
  simp only [State.completeBlock] at completed
  split at completed
  · cases completed
  · next transfer found =>
      have isWrite := silent.writes transfer (List.mem_of_find?_eq_some found)
      have kept : Silent { s with inFlight := s.inFlight.eraseP fun transfer =>
          transfer.block = block } :=
        ⟨silent.consumed, silent.delivered, fun other member =>
          silent.writes other (List.mem_of_mem_eraseP member)⟩
      cases completed
      cases transfer with
      | read count completion => cases isWrite
      | write data completion => cases completion <;> exact kept.congr rfl rfl rfl

theorem execWriteFile_silent (silent : Silent s) (handle : Handle) (data : List UInt8)
    (overlapped : Bool) (outcome : WriteOutcome) :
    Silent (execWriteFile thread handle data overlapped outcome s).2 := by
  have submitted : ∀ completion, ∀ transfer ∈ s.inFlight ++ [.write data completion],
      transfer.block = .write := by
    intro completion transfer member
    rcases List.mem_append.mp member with earlier | now
    · exact silent.writes transfer earlier
    · rw [List.mem_singleton.mp now]
      rfl
  unfold execWriteFile
  split
  · cases outcome with
    | now count => cases overlapped <;> exact silent.congr rfl rfl rfl
    | pending completion =>
        cases overlapped with
        | true => exact ⟨silent.consumed, silent.delivered, submitted completion⟩
        | false => cases completion <;> exact silent.congr rfl rfl rfl
    | refused error notPending => cases overlapped <;> exact silent.congr rfl rfl rfl
  · exact silent.congr rfl rfl rfl

theorem exec_silent {effect : Effect} {reply : effect.Reply} (silent : Silent s)
    (takesNothing : effect.takes = false)
    (executed : exec thread effect s = some (reply, after)) : Silent after := by
  cases effect with
  | readFile | onRecvData => cases takesNothing
  | writeFile handle data overlapped outcome =>
      cases executed
      exact execWriteFile_silent silent handle data overlapped outcome
  | getOverlappedResult handle block =>
      cases block with
      | read => cases takesNothing
      | write =>
          have answered : ∀ s, Silent s → Silent (execOverlappedResult thread .write s).2 := by
            intro s silent
            unfold execOverlappedResult
            split <;> exact silent.congr rfl rfl rfl
          simp only [exec] at executed
          split at executed
          · split at executed
            · cases executed
            · next ended completed =>
                cases executed
                exact answered ended (silent.completeBlock completed)
          · cases executed
            exact answered s silent
  | createFile name overlapped outcome queued =>
      cases outcome <;> cases executed <;> exact silent.congr rfl rfl rfl
  | beginthreadex outcome => cases outcome <;> cases executed <;> exact silent.congr rfl rfl rfl
  | setCommConfig handle cfg outcome =>
      simp only [exec] at executed
      split at executed
      · cases outcome <;> cases executed <;> exact silent.congr rfl rfl rfl
      · cases executed
        exact silent.congr rfl rfl rfl
  | setCommMask handle mask outcome =>
      simp only [exec] at executed
      split at executed
      · cases outcome <;> cases executed <;> exact silent.congr rfl rfl rfl
      · cases executed
        exact silent.congr rfl rfl rfl
  | setCommTimeouts | purgeComm =>
      cases executed
      split <;> exact silent.congr rfl rfl rfl
  | threadExit =>
      cases thread with
      | client number => cases executed
      | worker number =>
          cases executed
          exact silent.congr rfl rfl rfl
  | lock | getConfig | waitForThread | rotatingLogger =>
      simp only [exec] at executed
      split at executed <;> cases executed <;> exact silent.congr rfl rfl rfl
  | nullCall => cases executed
  | _ =>
      cases executed
      exact silent.congr rfl rfl rfl

theorem external_silent {event : Event} (silent : Silent s)
    (changed : system.external event s = some after) : Silent after := by
  cases event with
  | arrived bytes =>
      cases changed
      exact silent.congr rfl rfl rfl
  | completed block => exact silent.completeBlock changed

end Effects

/-! ## The runs -/

/-- A monitor thread always finds the handle of its port. -/
theorem handle_found {number : Nat} {config : Config Tid State Effect Effect.Reply Job Result}
    {call : Call State Effect Effect.Reply Job Result} {effect : Effect} {reply : effect.Reply}
    {after : State} (reachable : system.Reachable (oneClient.both promptly) config)
    (calls : config.calls (.worker number) = some call)
    (standing : call.Next effect)
    (executed : exec (.worker number) effect config.state = some (reply, after)) :
    HandleFound effect reply := by
  obtain ⟨firm, -⟩ := footed_of_reachable promptly_watches reachable calls standing
  cases effect with
  | load field =>
      cases executed
      cases field with
      | handle => exact (ne_invalid_of_nonneg (Int.le_of_lt firm.opened.valid)).symm
      | _ => trivial
  | _ => trivial

theorem takes_nothing {config : Config Tid State Effect Effect.Reply Job Result}
    (reachable : system.Reachable (oneClient.both promptly) config) {thread : Tid}
    {call : Call State Effect Effect.Reply Job Result} {effect : Effect}
    (calls : config.calls thread = some call) (standing : call.Next effect) :
    effect.takes = false := by
  obtain ⟨rest, program⟩ := standing
  cases thread with
  | client number =>
      have only := reachable.only (fun last job s admitted => by
        cases job with
        | operation operation => exact operation_takesNothing operation
        | enter | iteration => cases admitted) calls
      rw [program] at only
      exact only.1
  | worker number =>
      have within : call.prog.AtMost Effect.takes HandleFound 0 :=
        reachable.atMost monitor_takesNothing handle_found calls
      rw [program] at within
      cases takes : effect.takes with
      | false => rfl
      | true => exact absurd (within.1 takes) (Nat.lt_irrefl 0)

theorem silent_of_reachable {config : Config Tid State Effect Effect.Reply Job Result}
    (reachable : system.Reachable (oneClient.both promptly) config) : Silent config.state := by
  induction reachable with
  | start => exact ⟨rfl, rfl, fun _ member => absurd member List.not_mem_nil⟩
  | step reachable _ stepped reachableIH =>
      rcases Machine.step_cases stepped with
        ⟨thread, job, last, -, -, -, rfl⟩ |
        ⟨thread, job, entry, past, effect, rest, reply, state, -, calls, executed, rfl⟩ |
        ⟨event, state, -, changed, rfl⟩
      · exact reachableIH
      · exact exec_silent reachableIH (takes_nothing reachable calls ⟨rest, rfl⟩) executed
      · exact external_silent reachableIH changed

/-- In every run with one client and no wait that ends before its thread, whatever arrives:
no thread ever comes to a read or a callback, and nothing has been read or delivered. -/
theorem receives_nothing (config : Config Tid State Effect Effect.Reply Job Result)
    (reachable : system.Reachable (oneClient.both promptly) config) :
    config.state.consumed = [] ∧ config.state.delivered = [] ∧
    ∀ thread call, config.calls thread = some call →
      (∀ handle count overlapped outcome, ¬ call.Next (.readFile handle count overlapped outcome)) ∧
      ∀ receiver chunk notify, ¬ call.Next (.onRecvData receiver chunk notify) := by
  have silent := silent_of_reachable reachable
  refine ⟨silent.consumed, silent.delivered, fun thread call calls => ⟨?_, ?_⟩⟩
  · intro handle count overlapped outcome standing
    cases takes_nothing reachable calls standing
  · intro receiver chunk notify standing
    cases takes_nothing reachable calls standing

/-- Three bytes arrive, and the monitor thread handles the event that tells so. -/
def unheardRun : List (Label Tid Job Event) :=
  arrivingRun ++ Label.burst (.worker 3) .enter 3 ++
    Label.burst (.worker 3) (.iteration 0 (.rxchar (.now ()))) 15

theorem receives_nothing_unheard :
    ∃ config call, system.steps (oneClient.both promptly) system.initial unheardRun =
        some config ∧
      config.calls (.worker 3) = some call ∧
      call.Returned (.iteration (.next EV_RXCHAR)) ∧ config.state.queue = [0x61, 0x62, 0x63] ∧
      config.state.consumed = [] ∧ config.state.delivered = [] := by
  have ran : ∃ config call, system.steps (oneClient.both promptly) system.initial unheardRun =
        some config ∧
      config.calls (.worker 3) = some call ∧
      call.Returned (.iteration (.next EV_RXCHAR)) ∧
      config.state.queue = [0x61, 0x62, 0x63] := ⟨_, _, rfl, rfl, rfl, rfl⟩
  obtain ⟨config, call, steps, calls, returned, queue⟩ := ran
  have nothing := receives_nothing config (.of_steps .start steps)
  exact ⟨config, call, steps, calls, returned, queue, nothing.1, nothing.2.1⟩

end LibSp.Windows
