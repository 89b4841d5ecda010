import LibSp.Linux.Runs
import LibSp.Linux.Notify
import LibSp.Concurrent.Moment

/-!
# What the receive threads deliver

The stream passed to `on_recv_data` in every run with one client, and the one
case in which an iteration of the receive loop refuses input that is due: more
bytes pending than the buffer holds.
-/

set_option autoImplicit false

namespace LibSp.Linux

open Concurrent

/-! ## The stream -/

def fionreadAnswers : Condition Tid State Effect Job where
  begins _ job _ :=
    match job with
    | .iteration _ outcome => outcome.fionread
    | .operation _ => true
  acts _ _ _ _ := true

theorem fionreadAnswers_assumes : Assumes (oneClient.both fionreadAnswers) True False where
  single begins := (Condition.both_begins.mp begins).1
  exactly begins _ := (Condition.both_begins.mp begins).2
  careful _ _ := careful_of_lax

/-- A receive thread after `read` has returned bytes and before its callback. -/
def BetweenReadAndCallback (call : Call State Effect Effect.Reply Job Result) : Prop :=
  call.Next (.load .precvData) ∨
    ∃ receiver chunk notify, call.Next (.onRecvData receiver chunk notify)

theorem passedOn_of_point {exact : Prop} {s : State} {effect : Effect}
    (pointed : WorkerPoint exact s effect) (notLoad : effect ≠ .load .precvData)
    (notCallback : ∀ receiver chunk notify, effect ≠ .onRecvData receiver chunk notify) :
    PassedOn s := by
  cases effect with
  | load field =>
      cases field with
      | precvData => exact absurd rfl notLoad
      | _ => exact pointed
  | onRecvData receiver chunk notify => exact absurd rfl (notCallback receiver chunk notify)
  | ioctl fd succeeds => exact pointed.1
  | read fd count succeeds => exact pointed.1
  | isOpened | lock | unlock | pthreadExit => exact pointed
  | _ => exact pointed.elim

section

variable {libc : SpeedSetters} {condition : Condition Tid State Effect Job} {exact strict : Prop}
  {config : Config Tid State Effect Effect.Reply Job Result}

theorem passedOn_of_reachable (assumes : Assumes condition exact strict)
    (reachable : (system libc).Reachable condition config)
    (outside : ∀ number call, config.calls (.worker number) = some call →
      ¬ BetweenReadAndCallback call) : PassedOn config.state := by
  have contract := linux_contract libc assumes
  cases receivers : config.state.receivers with
  | nil => exact (contract.inv_of_reachable reachable).passed_on receivers
  | cons number rest =>
      have alive : number ∈ config.state.receivers := by simp [receivers]
      cases calls : config.calls (.worker number) with
      | none =>
          have idle : config.idle? (.worker number) = some none := by
            simp [Config.idle?, calls]
          exact (contract.ready_of_reachable reachable idle).1 alive
      | some call =>
          cases prog : call.prog with
          | ret value =>
              have ended := contract.post_of_reachable reachable calls prog
              cases job : call.job <;> cases value <;> rw [job] at ended <;>
                first | exact ended.elim | exact ended.1 alive
          | act effect next =>
              have standing : call.Next effect := ⟨next, prog⟩
              have pointed := (contract.point_of_reachable reachable calls standing).2
              refine passedOn_of_point pointed ?_ ?_
              · intro same
                subst same
                exact outside number call calls (.inl standing)
              · intro receiver chunk notify same
                subst same
                exact outside number call calls (.inr ⟨receiver, chunk, notify, standing⟩)

end

/-! ## The threshold that an iteration has tested -/

/-- The threshold as an iteration loads it, and as its callback has it on record. -/
def threshold : Source State Effect Effect.Reply Nat where
  stored s := s.port.param.minByteReadNotify
  load := .load .minByteReadNotify
  answer reply := reply
  asks effect :=
    match effect with
    | .load .minByteReadNotify => true
    | _ => false
  uses effect :=
    match effect with
    | .onRecvData _ _ notify => some notify
    | _ => none

theorem iteration_draws {libc : SpeedSetters} {hasReadBytes : Int} {outcome : RecvOutcome} :
    threshold.Draws (runJob libc (.iteration hasReadBytes outcome)) := by
  have released : ∀ (notify : Nat) (hasReadBytes : Int), threshold.Bound notify
      (do perform .unlock; return .next hasReadBytes : Code Iteration) :=
    fun _ _ => ⟨nofun, fun _ => trivial⟩
  have draws : threshold.Draws (threadRecvDataMonitor (pure ()) hasReadBytes outcome) := by
    refine .act rfl rfl fun running => ?_
    refine Prog.Entering.ite (fun _ => .act rfl rfl fun _ => trivial) fun _ => ?_
    refine .act rfl rfl fun fd => .act rfl rfl fun asked => ?_
    refine Prog.Entering.ite (fun _ => trivial) fun _ =>
      .enter rfl ⟨_, rfl, fun (notify : Nat) => ?_⟩
    -- From here on the loaded threshold is the one in use.
    refine Prog.Only.ite (fun _ => ⟨nofun, fun _ => ⟨nofun, fun opened => ?_⟩⟩) fun _ => trivial
    refine Prog.Only.ite (fun _ => ⟨nofun, fun fd => ⟨nofun, fun taken => ?_⟩⟩)
      fun _ => released _ _
    cases taken with
    | none => exact released _ _
    | some bufRead =>
        refine Prog.Only.ite (fun _ => ⟨nofun, fun receiver => ?_⟩) fun _ => released _ _
        cases receiver with
        | none => exact released _ _
        | some receiver =>
            refine ⟨fun used same => ?_, fun _ => released _ _⟩
            cases same
            rfl
  exact draws.bind fun _ => trivial

theorem worker_draws {libc : SpeedSetters} {number : Nat} {last : Option Result} {s : State}
    {job : Job} (admitted : (system libc).admits (.worker number) last s job = true) :
    threshold.Draws ((system libc).body job) := by
  cases job with
  | iteration hasReadBytes outcome => exact @iteration_draws libc hasReadBytes outcome
  | operation operation => rcases last with _ | (value | (_ | _)) <;> cases admitted

theorem threshold_loaded {libc : SpeedSetters} {thread : Tid} {s after : State} {reply : Nat}
    (executed : (system libc).exec thread threshold.load s = some (reply, after)) :
    threshold.answer reply = threshold.stored s := by
  cases executed
  rfl

theorem threshold_apart {effect : Effect} {used : Nat} (uses : threshold.uses effect = some used) :
    threshold.asks effect = false := by
  cases effect with
  | onRecvData => rfl
  | _ => cases uses

/-- What an effect adds to the record of deliveries. -/
def Effect.delivery? : Effect → Option Delivery
  | .onRecvData receiver chunk notify => some ⟨receiver, chunk, notify⟩
  | _ => none

theorem exec_delivered {thread : Tid} {effect : Effect} {s after : State} {reply : effect.Reply}
    (executed : exec thread effect s = some (reply, after)) :
    after.delivered = s.delivered ++ effect.delivery?.toList := by
  have kept : ∀ {after : State}, after.delivered = s.delivered →
      after.delivered = s.delivered ++ (none : Option Delivery).toList :=
    fun same => same.trans (List.append_nil _).symm
  cases effect with
  | onRecvData receiver chunk notify =>
      cases executed
      rfl
  | lock | «open» | tcgetattr | write | pthreadCreate | pthreadJoin | pthreadExit | ioctl | read =>
      simp only [exec] at executed
      repeat' split at executed
      all_goals cases executed
      all_goals exact kept rfl
  | _ =>
      cases executed
      exact kept rfl

theorem deliveries_logged (libc : SpeedSetters) :
    Logs (system libc) State.delivered Effect.delivery? where
  start := rfl
  acts := exec_delivered
  external changed := by
    cases changed
    rfl

/-- Here this receive thread is about to pass these bytes on after the earlier ones, and
from here the run goes on to `later`. -/
structure Passing (libc : SpeedSetters) (number : Nat) (earlier : List Delivery)
    (delivery : Delivery)
    (config later : Config Tid State Effect Effect.Reply Job Result) : Prop where
  reachable : (system libc).Reachable (oneClient.both fionreadAnswers) config
  delivered : config.state.delivered = earlier
  standing : ∃ call, config.calls (.worker number) = some call ∧
    call.Next (.onRecvData delivery.receiver delivery.chunk delivery.notify)
  leads : (system libc).Leads (oneClient.both fionreadAnswers).rule config later

/-- These steps lead to the threshold test of the iteration in which the receive thread
is later. -/
structure Testing (libc : SpeedSetters) (number : Nat)
    (labels : List (Label Tid Job (List UInt8)))
    (config later : Config Tid State Effect Effect.Reply Job Result) : Prop where
  ran : (system libc).steps (oneClient.both fionreadAnswers) (system libc).initial labels =
    some config
  standing : ∃ call, config.calls (.worker number) = some call ∧
    call.Next (.load .minByteReadNotify)
  leads : (system libc).Leads ((oneClient.both fionreadAnswers).during (.worker number)) config later

section

variable {libc : SpeedSetters} {config : Config Tid State Effect Effect.Reply Job Result}

/-- Every delivery was made at some moment of the run. -/
theorem delivery_passing
    (reachable : (system libc).Reachable (oneClient.both fionreadAnswers) config)
    {earlier later : List Delivery} {delivery : Delivery}
    (delivered : config.state.delivered = earlier ++ delivery :: later) :
    ∃ number passing, Passing libc number earlier delivery passing config := by
  obtain ⟨passing, thread, call, effect, reached, before, calls, standing, written, leads⟩ :=
    (deliveries_logged libc).wrote reachable delivered
  have pointed := (linux_contract libc fionreadAnswers_assumes).point_of_reachable reached calls
    standing
  cases effect with
  | onRecvData receiver chunk notify =>
      cases written
      cases thread with
      | client number => exact pointed.elim
      | worker number =>
          exact ⟨number, passing, reached, before, ⟨call, calls, standing⟩, leads⟩
  | _ => cases written

/-- The iteration that passes bytes on has tested the threshold that it has on record. -/
theorem Passing.testing {number : Nat} {earlier : List Delivery} {delivery : Delivery}
    {later : Config Tid State Effect Effect.Reply Job Result}
    (passing : Passing libc number earlier delivery config later) :
    ∃ labels testing, Testing libc number labels testing config ∧
      testing.state.port.param.minByteReadNotify = delivery.notify := by
  obtain ⟨call, calls, standing⟩ := passing.standing
  have drawn : threshold.Drawn (system libc) (oneClient.both fionreadAnswers) (.worker number)
      delivery.notify config :=
    Source.drawn_of_reachable worker_draws threshold_loaded threshold_apart passing.reachable calls
      standing rfl
  obtain ⟨testing, tested, reached, testingCalls, loading, stored, leads⟩ := drawn
  obtain ⟨labels, ran⟩ := reached.ran
  exact ⟨labels, testing, ⟨ran, ⟨tested, testingCalls, loading⟩, leads⟩, stored⟩

end

/-- In every run of one client and the receive threads, with exact answers of `FIONREAD`:
a receive thread that passes a chunk on has tested, in the same iteration, the threshold
then in force, and the chunk is at least as long and fits the buffer; no read asks for
more than the buffer holds, and what was taken from the device is what was delivered, plus
the one chunk that a thread between its read and its callback holds. -/
theorem received_stream (libc : SpeedSetters)
    (config : Config Tid State Effect Effect.Reply Job Result)
    (reachable : (system libc).Reachable (oneClient.both fionreadAnswers) config) :
    (∀ earlier delivery later, config.state.delivered = earlier ++ delivery :: later →
      ∃ number passing labels testing, Passing libc number earlier delivery passing config ∧
        Testing libc number labels testing passing ∧
        testing.state.port.param.minByteReadNotify =
          min (lastNotify (readNotifyLens libc labels)) lenBuf1024 ∧
        max 1 testing.state.port.param.minByteReadNotify ≤ delivery.chunk.length ∧
        delivery.chunk.length ≤ lenBuf1024) ∧
    ((∀ number call, config.calls (.worker number) = some call → ¬ BetweenReadAndCallback call) →
      config.state.consumed = deliveredBytes config.state.delivered) ∧
    (∀ number call, config.calls (.worker number) = some call → BetweenReadAndCallback call →
      ∃ chunk, config.state.consumed = deliveredBytes config.state.delivered ++ chunk ∧
        ∀ receiver passed notify, call.Next (.onRecvData receiver passed notify) →
          passed = chunk) ∧
    (∀ number call fd count succeeds, config.calls (.worker number) = some call →
      call.Next (.read fd count succeeds) → count ≤ lenBuf1024) := by
  have contract := linux_contract libc fionreadAnswers_assumes
  refine ⟨fun earlier delivery later delivered => ?_,
    passedOn_of_reachable fionreadAnswers_assumes reachable,
    fun number call calls between => ?_, fun number call fd count succeeds calls standing => ?_⟩
  · have member : delivery ∈ config.state.delivered := by simp [delivered]
    obtain ⟨nonempty, fits, notified⟩ := (contract.inv_of_reachable reachable).chunks delivery member
    obtain ⟨number, passing, passed⟩ := delivery_passing reachable delivered
    obtain ⟨labels, testing, tested, inForce⟩ := passed.testing
    refine ⟨number, passing, labels, testing, passed, tested,
      minByteReadNotify_of_ran tested.ran, ?_, fits⟩
    rw [inForce]
    exact Nat.max_le.mpr ⟨nonempty, notified trivial⟩
  · rcases between with standing | ⟨receiver, chunk, notify, standing⟩
    · obtain ⟨chunk, holding⟩ := (contract.point_of_reachable reachable calls standing).2
      refine ⟨chunk, holding, fun receiver passed notify other => ?_⟩
      obtain ⟨next, prog⟩ := standing
      obtain ⟨rest, same⟩ := other
      rw [prog] at same
      cases same
    · have holding := (contract.point_of_reachable reachable calls standing).2.1
      refine ⟨chunk, holding, fun _ passed _ other => ?_⟩
      obtain ⟨next, prog⟩ := standing
      obtain ⟨rest, same⟩ := other
      rw [prog] at same
      cases same
      rfl
  · exact (contract.point_of_reachable reachable calls standing).2.2.2.2.1

/-- Three bytes arrive and are delivered at a threshold of 2. -/
def notifiedRun : List (Label Tid Job (List UInt8)) :=
  Label.burst (.client 0) (.operation (.init eightNone (some 7))) 3 ++
    Label.burst (.client 0) (.operation (.setReadNotify 2)) 2 ++
    Label.burst (.client 0) (.operation (.open (.fine 3))) 18 ++
    [.external [0x61, 0x62, 0x63]] ++
    Label.burst (.worker 0) (.iteration 0 ⟨true, true⟩) 10

theorem received_stream_delivering :
    ∃ config, (system glibc).steps (oneClient.both fionreadAnswers) (system glibc).initial
        notifiedRun = some config ∧
      config.state.delivered = [⟨7, [0x61, 0x62, 0x63], 2⟩] ∧
      ∃ number passing labels testing,
        Passing glibc number [] ⟨7, [0x61, 0x62, 0x63], 2⟩ passing config ∧
        Testing glibc number labels testing passing ∧
        testing.state.port.param.minByteReadNotify =
          min (lastNotify (readNotifyLens glibc labels)) lenBuf1024 ∧
        max 1 testing.state.port.param.minByteReadNotify ≤ 3 ∧ 3 ≤ lenBuf1024 := by
  have ran : ∃ config, (system glibc).steps (oneClient.both fionreadAnswers)
      (system glibc).initial notifiedRun = some config ∧
      config.state.delivered = [⟨7, [0x61, 0x62, 0x63], 2⟩] := ⟨_, rfl, rfl⟩
  obtain ⟨config, steps, delivered⟩ := ran
  exact ⟨config, steps, delivered,
    (received_stream glibc config (.of_steps .start steps)).1 [] _ [] delivered⟩

/-! ## One iteration on a port that has input -/

section

variable {thread : Tid} {s : State} {hasReadBytes : Int}

/-- More pending bytes than the buffer holds: the iteration leaves them where they are. -/
theorem threadRecvDataMonitor_overlong (running : s.port.param.threadRecvIsRunning = true)
    (descriptor : s.port.param.fd ∈ s.port.fds) (overlong : lenBuf1024 < s.pending.length) :
    (threadRecvDataMonitor (pure ()) hasReadBytes ⟨true, true⟩).run (exec thread) s =
      some (.next s.pending.length, s) := by
  have long : (lenBuf1024 : Int) < s.pending.length := by omega
  simp [threadRecvDataMonitor, load, perform, Prog.run, exec, SpParamLinux.get, running,
    descriptor, long]

/-- At most a buffer of pending bytes, as many as the threshold asks for: the
iteration delivers all of them. -/
theorem threadRecvDataMonitor_delivers {receiver : IrecvData}
    (isOpened : s.port.param.isOpened = true)
    (registered : s.port.param.precvData = some receiver)
    (running : s.port.param.threadRecvIsRunning = true) (free : s.mutexRecv = none)
    (descriptor : s.port.param.fd ∈ s.port.fds) (nonempty : 1 ≤ s.pending.length)
    (notified : s.port.param.minByteReadNotify ≤ s.pending.length)
    (small : s.pending.length ≤ lenBuf1024) :
    (threadRecvDataMonitor (pure ()) hasReadBytes ⟨true, true⟩).advance (exec thread) 11 s =
      some (.ret (.next s.pending.length),
        { s with
          pending := []
          consumed := s.consumed ++ s.pending
          delivered := s.delivered ++
            [⟨receiver, s.pending, s.port.param.minByteReadNotify⟩] }) := by
  have short : ¬ (lenBuf1024 : Int) < s.pending.length := by omega
  have some : s.pending ≠ [] := List.ne_nil_of_length_pos nonempty
  simp [threadRecvDataMonitor, notifyCallback, load, perform, Prog.advance, exec, SpParamLinux.get,
    running, descriptor, short, toUnsigned_natCast small, toSize_natCast small, notified, free,
    isOpened, some, registered, List.length_pos_iff.mpr some]

/-- An iteration whose query and read succeed, on a port with input that is due,
takes and delivers some of it exactly when the buffer can hold all of it. -/
theorem iteration_delivers_iff (thread : Tid) (s : State) (hasReadBytes : Int)
    (receiver : IrecvData) (isOpened : s.port.param.isOpened = true)
    (registered : s.port.param.precvData = some receiver)
    (running : s.port.param.threadRecvIsRunning = true) (free : s.mutexRecv = none)
    (descriptor : s.port.param.fd ∈ s.port.fds) (nonempty : 1 ≤ s.pending.length)
    (notified : s.port.param.minByteReadNotify ≤ s.pending.length) :
    ∃ iteration after,
      (threadRecvDataMonitor (pure ()) hasReadBytes ⟨true, true⟩).run (exec thread) s =
        some (iteration, after) ∧
      ((∃ chunk, chunk ≠ [] ∧ after.consumed = s.consumed ++ chunk ∧
        ∃ notify, after.delivered = s.delivered ++ [⟨receiver, chunk, notify⟩]) ↔
        s.pending.length ≤ lenBuf1024) := by
  by_cases small : s.pending.length ≤ lenBuf1024
  · refine ⟨_, _, Prog.run_of_advance (threadRecvDataMonitor_delivers isOpened registered running
      free descriptor nonempty notified small), fun _ => small, fun _ => ?_⟩
    exact ⟨s.pending, List.ne_nil_of_length_pos nonempty, rfl, _, rfl⟩
  · refine ⟨_, _, threadRecvDataMonitor_overlong running descriptor (by omega), ?_, ?_⟩
    · intro stuck
      obtain ⟨chunk, some, consumed, -⟩ := stuck
      exact absurd (List.self_eq_append_right.mp consumed) some
    · exact fun fits => absurd fits small

end

def arrivingRun (input : List UInt8) : List (Label Tid Job (List UInt8)) :=
  Label.burst (.client 0) (.operation (.init eightNone (some 7))) 3 ++
    Label.burst (.client 0) (.operation (.open (.fine 3))) 18 ++ [.external input]

theorem iteration_delivers_abc :
    ∃ config, (system glibc).steps .always (system glibc).initial
        (arrivingRun [0x61, 0x62, 0x63]) = some config ∧
      ∃ iteration after,
        (threadRecvDataMonitor (pure ()) 0 ⟨true, true⟩).run (exec (.worker 0)) config.state =
          some (iteration, after) ∧
        ((∃ chunk, chunk ≠ [] ∧ after.consumed = config.state.consumed ++ chunk ∧
          ∃ notify, after.delivered = config.state.delivered ++ [⟨7, chunk, notify⟩]) ↔
          config.state.pending.length ≤ lenBuf1024) := by
  refine ⟨_, rfl, ?_⟩
  exact iteration_delivers_iff (.worker 0) _ 0 7 rfl rfl rfl rfl (List.mem_singleton.mpr rfl)
    (by decide) (by decide)

/-- Iterations of the receive loop, before each of which some input arrives. -/
def receiveAll (thread : Tid) : List (List UInt8) → Int → State → Option State
  | [], _, s => some s
  | arrived :: rest, hasReadBytes, s =>
      match (threadRecvDataMonitor (pure ()) hasReadBytes ⟨true, true⟩).run (exec thread)
        { s with pending := s.pending ++ arrived } with
      | some (.next carried, after) => receiveAll thread rest carried after
      | _ => none

/-- Once more is pending than the buffer holds, no iteration delivers anything. -/
theorem receiveAll_overlong {thread : Tid} {s : State} {hasReadBytes : Int}
    (arrivals : List (List UInt8)) (running : s.port.param.threadRecvIsRunning = true)
    (descriptor : s.port.param.fd ∈ s.port.fds) (overlong : lenBuf1024 < s.pending.length) :
    receiveAll thread arrivals hasReadBytes s =
      some { s with pending := s.pending ++ arrivals.flatten } := by
  induction arrivals generalizing s hasReadBytes with
  | nil => simp [receiveAll]
  | cons arrived rest restIH =>
      have longer : lenBuf1024 < (s.pending ++ arrived).length := by
        rw [List.length_append]
        omega
      have stays := @threadRecvDataMonitor_overlong thread { s with pending := s.pending ++ arrived }
        hasReadBytes running descriptor longer
      simp only [receiveAll, stays]
      rw [@restIH { s with pending := s.pending ++ arrived } _ running descriptor longer]
      simp [List.append_assoc]

/-- An open port with 1025 pending bytes, whatever else arrives: nothing is ever delivered. -/
theorem overlong_input_wedges :
    ∃ config, (system glibc).Reachable .always config ∧
      config.state.port.param.isOpened = true ∧ config.state.port.param.precvData = some 7 ∧
      config.state.port.param.threadRecvIsRunning = true ∧ config.state.mutexRecv = none ∧
      config.state.pending.length = 1025 ∧
      config.state.port.param.minByteReadNotify ≤ config.state.pending.length ∧
      ∀ arrivals hasReadBytes, ∃ after,
        receiveAll (.worker 0) arrivals hasReadBytes config.state = some after ∧
        after.consumed = config.state.consumed ∧ after.delivered = config.state.delivered := by
  have ran : ∃ config, (system glibc).steps .always (system glibc).initial
      (arrivingRun (List.replicate 1025 0)) = some config ∧
      config.state.port.param.isOpened = true ∧ config.state.port.param.precvData = some 7 ∧
      config.state.port.param.threadRecvIsRunning = true ∧ config.state.mutexRecv = none ∧
      config.state.port.param.fd ∈ config.state.port.fds ∧
      config.state.pending = List.replicate 1025 0 ∧
      config.state.port.param.minByteReadNotify = 1 :=
    ⟨_, rfl, rfl, rfl, rfl, rfl, List.mem_singleton.mpr rfl, rfl, rfl⟩
  obtain ⟨config, steps, isOpened, registered, running, free, descriptor, pending, notify⟩ := ran
  have length : config.state.pending.length = 1025 := by rw [pending, List.length_replicate]
  refine ⟨config, .of_steps .start steps, isOpened, registered, running, free, length, by omega, ?_⟩
  intro arrivals hasReadBytes
  have overlong : lenBuf1024 < config.state.pending.length := by
    rw [length]
    decide
  exact ⟨_, receiveAll_overlong arrivals running descriptor overlong, rfl, rfl⟩

end LibSp.Linux
