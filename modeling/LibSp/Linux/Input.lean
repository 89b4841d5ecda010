import LibSp.Linux.CrowdStream
import LibSp.Linux.OpenClose
import LibSp.Concurrent.Leads

/-!
# What becomes of the input

A byte that arrives on an open port waits in the input queue until a receive thread
takes and delivers it. Only three calls throw bytes away, whatever any number of clients
do: `::open`, the `tcflush` of `set_port_params` and the last `::close` of the device.
-/

set_option autoImplicit false

namespace LibSp.Linux

open Concurrent

/-- The effect throws away what is in the input queue. -/
def Effect.flushes (s : State) : Effect → Bool
  | .open _ outcome => outcome.descriptor.isOk
  | .tcflush _ => true
  | .close fd => s.port.fds.erase fd = []
  | _ => false

/-- No step of the run throws input away. -/
def unflushed : Condition Tid State Effect Job where
  begins _ _ _ := true
  acts _ _ effect s := !effect.flushes s

/-- What has been taken off the device and what waits there. -/
def State.input (s : State) : List UInt8 := s.consumed ++ s.pending

/-- The bytes that arrive in a run. -/
def arrivals : List (Label Tid Job (List UInt8)) → List UInt8
  | [] => []
  | .external arrived :: rest => arrived ++ arrivals rest
  | _ :: rest => arrivals rest

/-- Every other effect keeps the input, and at most takes from the front of the queue. -/
theorem exec_input {thread : Tid} {effect : Effect} {s after : State} {reply : effect.Reply}
    (keeps : effect.flushes s = false) (executed : exec thread effect s = some (reply, after)) :
    after.input = s.input ∧ after.pending <:+ s.pending := by
  have same : s.input = s.input ∧ s.pending <:+ s.pending := ⟨rfl, List.suffix_rfl⟩
  cases effect with
  | read fd count succeeds =>
      simp only [exec] at executed
      split at executed
      · split at executed <;> cases executed
        simp only [State.input, List.append_assoc, List.take_append_drop, List.drop_suffix,
          and_self]
      · cases executed
        exact same
  | lock =>
      simp only [exec] at executed
      split at executed <;> cases executed
      exact same
  | «open» name outcome =>
      simp only [exec] at executed
      split at executed
      · cases executed
        exact same
      · next granted =>
          simp [Effect.flushes, granted, Except.isOk, Except.toBool] at keeps
  | close fd =>
      have left : s.port.fds.erase fd ≠ [] := of_decide_eq_false keeps
      cases executed
      simp only [State.input, if_neg left, List.suffix_rfl, and_self]
  | tcgetattr fd outcome => cases outcome <;> cases executed <;> exact same
  | write fd data outcome =>
      simp only [exec] at executed
      split at executed
      · cases outcome <;> cases executed <;> exact same
      · cases executed
        exact same
  | pthreadCreate outcome => cases outcome <;> cases executed <;> exact same
  | pthreadJoin identifier =>
      simp only [exec] at executed
      split at executed
      · split at executed <;> cases executed
        exact same
      · cases executed
        exact same
  | pthreadExit =>
      cases thread with
      | client number => cases executed
      | worker number =>
          cases executed
          exact same
  | ioctl fd succeeds =>
      simp only [exec] at executed
      split at executed <;> cases executed <;> exact same
  | tcflush fd => cases keeps
  | _ =>
      cases executed
      exact same

/-- The device stays open. -/
theorem exec_opened {thread : Tid} {effect : Effect} {s after : State} {reply : effect.Reply}
    (keeps : effect.flushes s = false) (opened : s.port.fds ≠ [])
    (executed : exec thread effect s = some (reply, after)) : after.port.fds ≠ [] := by
  have updated : after.port.fds = (effect.update thread s.members).fds :=
    congrArg Members.fds (exec_members executed)
  rw [updated]
  cases effect with
  | close fd => exact of_decide_eq_false keeps
  | «open» name outcome =>
      simp only [Effect.update]
      split
      · exact List.cons_ne_nil _ _
      · exact opened
  | pthreadCreate outcome => cases outcome <;> exact opened
  | _ => exact opened

section Runs

variable {libc : SpeedSetters} {config next : Config Tid State Effect Effect.Reply Job Result}

theorem input_step {label : Label Tid Job (List UInt8)} (opened : config.state.port.fds ≠ [])
    (allowed : unflushed.allows config label = true)
    (stepped : (system libc).step config label = some next) :
    next.state.input = config.state.input ++ arrivals [label] ∧ next.state.port.fds ≠ [] := by
  rcases Machine.step_cases stepped with
    ⟨thread, job, last, rfl, -, -, rfl⟩ |
    ⟨thread, job, entry, past, effect, continued, reply, state, rfl, calls, executed, rfl⟩ |
    ⟨event, state, rfl, changed, rfl⟩
  · exact ⟨(List.append_nil _).symm, opened⟩
  · simp only [Condition.allows, calls, unflushed, Bool.not_eq_true'] at allowed
    have kept : state.input = config.state.input := (exec_input allowed executed).1
    refine ⟨?_, exec_opened allowed opened executed⟩
    rw [Config.put_state, kept]
    exact (List.append_nil _).symm
  · cases changed
    refine ⟨?_, opened⟩
    simp only [State.input, State.queued, if_neg opened, arrivals, List.append_nil,
      List.append_assoc]

theorem arrivals_cons (label : Label Tid Job (List UInt8))
    (rest : List (Label Tid Job (List UInt8))) :
    arrivals (label :: rest) = arrivals [label] ++ arrivals rest := by
  cases label with
  | external arrived => simp only [arrivals, List.append_nil]
  | begin | act => rfl

theorem input_kept {labels : List (Label Tid Job (List UInt8))}
    (opened : config.state.port.fds ≠ [])
    (ran : (system libc).steps unflushed config labels = some next) :
    next.state.input = config.state.input ++ arrivals labels := by
  induction labels generalizing config with
  | nil =>
      cases ran
      exact (List.append_nil _).symm
  | cons label rest restIH =>
      simp only [Machine.steps] at ran
      split at ran
      · next allowed =>
          cases stepped : (system libc).step config label with
          | none => simp [stepped] at ran
          | some middle =>
              simp only [stepped] at ran
              obtain ⟨input, still⟩ := input_step opened allowed stepped
              rw [restIH still ran, input, List.append_assoc, ← arrivals_cons]
      · cases ran

end Runs

/-- From any moment on at which the device is open, and as long as no step throws input
away: what arrives is delivered, in order and once, or in the hand of the receive thread
that holds the mutex, or waits in the queue; whatever any number of clients do. -/
theorem received_from_line (libc : SpeedSetters)
    (origin config : Config Tid State Effect Effect.Reply Job Result)
    (labels : List (Label Tid Job (List UInt8)))
    (reachable : (system libc).Reachable .always origin) (opened : origin.state.port.fds ≠ [])
    (ran : (system libc).steps unflushed origin labels = some config) :
    ∃ inHand, deliveredBytes config.state.delivered ++ inHand ++ config.state.pending =
        origin.state.consumed ++ origin.state.pending ++ arrivals labels ∧
      (inHand = [] ∨ inHand.length ≤ lenBuf1024 ∧ ∃ number call,
        config.state.mutexRecv = some (.worker number) ∧
        config.calls (.worker number) = some call ∧ BetweenReadAndCallback call) := by
  have kept : config.state.consumed ++ config.state.pending =
      origin.state.consumed ++ origin.state.pending ++ arrivals labels := input_kept opened ran
  have reachableNow : (system libc).Reachable .always config :=
    reachable.of_steps_within (fun _ _ _ => Condition.always_allows) ran
  rcases (received_stream_crowd libc config reachableNow).2 with passed |
    ⟨number, call, chunk, owns, calls, between, holding, -, fits⟩
  · refine ⟨[], ?_, .inl rfl⟩
    rw [List.append_nil, ← kept, passed]
  · refine ⟨chunk, ?_, .inr ⟨fits, number, call, owns, calls, between⟩⟩
    rw [← kept, holding]

/-- Two bytes arrive and are read, a third arrives. -/
def arrivingOnRun : List (Label Tid Job (List UInt8)) :=
  .external [0x61, 0x62] :: Label.burst (.worker 0) (.iteration 0 ⟨true, true⟩) 8 ++
    [.external [0x63]]

theorem received_from_line_arriving :
    ∃ origin config, (system glibc).steps .always (system glibc).initial
        (openingRun (.fine 3) 18) = some origin ∧
      (system glibc).steps unflushed origin arrivingOnRun = some config ∧
      arrivals arrivingOnRun = [0x61, 0x62, 0x63] ∧ config.state.delivered = [] ∧
      config.state.pending = [0x63] ∧
      ∃ inHand, deliveredBytes config.state.delivered ++ inHand ++ config.state.pending =
          origin.state.consumed ++ origin.state.pending ++ arrivals arrivingOnRun ∧
        (inHand = [] ∨ inHand.length ≤ lenBuf1024 ∧ ∃ number call,
          config.state.mutexRecv = some (.worker number) ∧
          config.calls (.worker number) = some call ∧ BetweenReadAndCallback call) := by
  have ran : ∃ origin config, (system glibc).steps .always (system glibc).initial
        (openingRun (.fine 3) 18) = some origin ∧
      (system glibc).steps unflushed origin arrivingOnRun = some config ∧
      arrivals arrivingOnRun = [0x61, 0x62, 0x63] ∧ config.state.delivered = [] ∧
      config.state.pending = [0x63] ∧ origin.state.port.fds = [3] :=
    ⟨_, _, rfl, rfl, rfl, rfl, rfl, rfl⟩
  obtain ⟨origin, config, opening, steps, arrived, delivered, pending, fds⟩ := ran
  have opened : origin.state.port.fds ≠ [] := by simp [fds]
  exact ⟨origin, config, opening, steps, arrived, delivered, pending,
    received_from_line glibc origin config arrivingOnRun (.of_steps .start opening) opened steps⟩

end LibSp.Linux
