import LibSp.Windows.Port

/-!
# What the monitor threads deliver

`read_data` reads only if the port has no handle: its entry test is the wrong way
round. On an open port no iteration of the monitor loop takes or passes on a byte.
-/

set_option autoImplicit false

namespace LibSp.Windows

open Concurrent

/-- What the monitor thread owes its receiver for one event: the first bytes of
the input queue, at most a buffer, are taken and passed on as they are, once. -/
def Delivers (receiver : IrecvData) (s after : State) : Prop :=
  after.queue = s.queue.drop lenBuf1024 ∧
    after.consumed = s.consumed ++ s.queue.take lenBuf1024 ∧
    ∃ notify, after.delivered = s.delivered ++ [⟨receiver, s.queue.take lenBuf1024, notify⟩]

theorem not_delivers_self {receiver : IrecvData} {s : State} : ¬ Delivers receiver s s := by
  intro delivers
  obtain ⟨-, -, notify, delivered⟩ := delivers
  simp at delivered

/-- The port is open in the asynchronous mode with a receiver, and the iteration
observes that input has arrived which reaches the threshold. -/
structure Observes (receiver : IrecvData) (eventMask : BitVec 32) (s : State) : Prop where
  isOpened : s.param.isOpened = true
  async : s.param.spp.opMode = modeAsync
  registered : s.param.precvData = some receiver
  rxchar : EV_RXCHAR &&& eventMask ≠ 0
  notified : s.param.minBytesReadNotify ≤ s.queue.length

section

variable {thread : Tid} {s : State} {callback : Code Unit}

/-- Once its entry test has seen a handle, `read_data` does nothing but return. -/
theorem readData_sent_away (callback : Code Unit) (notify unread : Nat) (outcome : ReadOutcome) :
    ∃ next, readData callback notify unread outcome = .act (.load .handle) next ∧
      ∀ handle, INVALID_HANDLE_VALUE ≠ handle →
        next handle = .act (.leave .readData) fun _ => .ret 0 := by
  refine ⟨_, rfl, fun handle valid => ?_⟩
  simp [Prog.bind, valid, perform, Prog.perform]

theorem readData_open {notify unread : Nat} {outcome : ReadOutcome}
    (isOpened : s.param.isOpened = true) :
    (readData callback notify unread outcome).run (exec thread) s = some (0, s) := by
  obtain ⟨next, program, returns⟩ := readData_sent_away callback notify unread outcome
  have valid : INVALID_HANDLE_VALUE ≠ s.param.handle := (of_decide_eq_true isOpened).symm
  rw [program, Prog.run_act rfl]
  exact congrArg (Prog.run (exec thread) · s) (returns s.param.handle valid)

theorem handleEvent_open {eventMask : BitVec 32} {outcome : MonitorOutcome}
    (isOpened : s.param.isOpened = true) :
    (handleEvent callback eventMask outcome).run (exec thread) s = some ((), s) := by
  unfold handleEvent
  split
  · simp only [notifyCallback, load, perform, Prog.perform_bind, Prog.run, exec]
    by_cases notified : s.param.get .minBytesReadNotify ≤
        if s.isComm (s.param.get .handle) then s.queue.length else outcome.unread
    · rw [if_pos notified, Prog.run_bind, readData_open isOpened]
      rfl
    · rw [if_neg notified]
      rfl
  · rfl

theorem threadRecvDataMonitor_open {eventMask : BitVec 32} {outcome : MonitorOutcome}
    (isOpened : s.param.isOpened = true) (running : s.param.isRunning = true)
    (free : s.mutexRecv = none) (signalled : outcome.signalled = true)
    (confirmed : outcome.confirmed = true) :
    (threadRecvDataMonitor callback eventMask outcome).run (exec thread) s =
      some (.next (outcome.mask.getD eventMask), s) := by
  have unchanged : { s with mutexRecv := none } = s := by rw [← free]
  simp [threadRecvDataMonitor, getRecvThreadIsRunning, leaving, load, perform, Prog.run,
    Prog.run_bind, exec, SpParamWin.get, free, running, signalled, confirmed, unchanged,
    handleEvent_open isOpened]
  split <;> rfl

/-- Observed input is never delivered: not by the rest of the iteration from any
state of an open port, nor by the iteration as a whole, when no other thread takes a
step meanwhile. -/
theorem monitor_never_delivers (thread : Tid) (s : State) (callback : Code Unit)
    (receiver : IrecvData) (eventMask : BitVec 32) (outcome : MonitorOutcome)
    (observes : Observes receiver (outcome.mask.getD eventMask) s) :
    (∃ after, (handleEvent callback (outcome.mask.getD eventMask) outcome).run (exec thread) s =
      some ((), after) ∧ ¬ Delivers receiver s after) ∧
    (s.param.isRunning = true → s.mutexRecv = none → outcome.signalled = true →
      outcome.confirmed = true → ∃ iteration after,
      (threadRecvDataMonitor callback eventMask outcome).run (exec thread) s =
        some (iteration, after) ∧ ¬ Delivers receiver s after) := by
  refine ⟨⟨s, handleEvent_open observes.isOpened, not_delivers_self⟩, ?_⟩
  intro running free signalled confirmed
  exact ⟨_, s, threadRecvDataMonitor_open observes.isOpened running free signalled confirmed,
    not_delivers_self⟩

end

/-- An event that announces input, and a transfer that ends like this. -/
def MonitorOutcome.rxchar (read : ReadOutcome) : MonitorOutcome where
  signalled := true
  mask := some EV_RXCHAR
  confirmed := true
  unread := 0
  comstat := 0
  read := read

def arrivingRun : List (Label Tid Job Event) :=
  Label.burst (.client 0) (.operation (.init eightNone (some 7))) 5 ++
    Label.burst (.client 0) (.operation (.open .fine)) 36 ++
    [.external (.arrived [0x61, 0x62, 0x63])]

theorem arrivingRun_observes :
    ∃ config, system.steps .always system.initial arrivingRun = some config ∧
      config.state.queue = [0x61, 0x62, 0x63] ∧ Observes 7 EV_RXCHAR config.state ∧
      config.state.param.isRunning = true ∧ config.state.mutexRecv = none :=
  ⟨_, rfl, rfl, {
    isOpened := rfl
    async := rfl
    registered := rfl
    rxchar := by decide
    notified := by decide }, rfl, rfl⟩

theorem monitor_never_delivers_abc :
    ∃ config, system.steps .always system.initial arrivingRun = some config ∧
      ∃ iteration after,
        (threadRecvDataMonitor (pure ()) 0 (.rxchar (.now ()))).run (exec (.worker 3))
          config.state = some (iteration, after) ∧ ¬ Delivers 7 config.state after := by
  obtain ⟨config, steps, -, observes, running, free⟩ := arrivingRun_observes
  exact ⟨config, steps, (monitor_never_delivers (.worker 3) config.state (pure ()) 7 0
    (.rxchar (.now ())) observes).2 running free rfl rfl⟩

/-- Whether the read would complete at once or later, the three bytes stay in the
queue and the receiver sees nothing. -/
theorem arrived_input_stays :
    ∃ config, system.Reachable .always config ∧
      config.state.queue = [0x61, 0x62, 0x63] ∧ Observes 7 EV_RXCHAR config.state ∧
      ∀ read : ReadOutcome,
        (threadRecvDataMonitor (pure ()) 0 (.rxchar read)).run (exec (.worker 3)) config.state =
          some (.next EV_RXCHAR, config.state) ∧ ¬ Delivers 7 config.state config.state := by
  obtain ⟨config, steps, queue, observes, running, free⟩ := arrivingRun_observes
  exact ⟨config, .of_steps .start steps, queue, observes, fun read =>
    ⟨threadRecvDataMonitor_open observes.isOpened running free rfl rfl, not_delivers_self⟩⟩

end LibSp.Windows
