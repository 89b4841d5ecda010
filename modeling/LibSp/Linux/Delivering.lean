import LibSp.Linux.Progress

/-!
# What waits can be delivered

As long as at most a buffer of input waits, the receive thread of a running port can
deliver all that reaches the threshold, wherever it and its client stand.
-/

set_option autoImplicit false

namespace LibSp.Linux

open Concurrent

section Runs

variable {libc : SpeedSetters} {config : Config Tid State Effect Effect.Reply Job Result}
  {number : Nat}

/-! ## The client gives the mutex back -/

/-- What the job of a `send` performs. -/
def Effect.ofSend : Effect → Bool
  | .load _ | .isOpened | .lock | .unlock | .write .. | .returned .. => true
  | _ => false

/-- What concerns the receive threads is as it was. -/
structure Reception (origin now : State) : Prop where
  param : now.port.param = origin.port.param
  receivers : now.receivers = origin.receivers
  pending : now.pending = origin.pending
  consumed : now.consumed = origin.consumed

theorem Reception.trans {origin middle now : State} (early : Reception origin middle)
    (late : Reception middle now) : Reception origin now where
  param := late.param.trans early.param
  receivers := late.receivers.trans early.receivers
  pending := late.pending.trans early.pending
  consumed := late.consumed.trans early.consumed

/-- The mutex is free or the client's. -/
def FreeForClient (s : State) : Prop := s.mutexRecv = none ∨ s.mutexRecv = some (.client 0)

theorem send_executes {effect : Effect} {s : State} (ofSend : effect.ofSend = true)
    (free : FreeForClient s) (unowned : effect = .lock → s.mutexRecv ≠ some (.client 0)) :
    ∃ reply after, exec (.client 0) effect s = some (reply, after) ∧ Reception s after ∧
      FreeForClient after := by
  cases effect with
  | lock =>
      have none : s.mutexRecv = none := free.resolve_right (unowned rfl)
      simp only [exec, none]
      exact ⟨_, _, rfl, ⟨rfl, rfl, rfl, rfl⟩, .inr rfl⟩
  | unlock => exact ⟨_, _, rfl, ⟨rfl, rfl, rfl, rfl⟩, .inl rfl⟩
  | write fd data outcome =>
      simp only [exec]
      split
      · cases outcome <;> exact ⟨_, _, rfl, ⟨rfl, rfl, rfl, rfl⟩, free⟩
      · exact ⟨_, _, rfl, ⟨rfl, rfl, rfl, rfl⟩, free⟩
  | load | isOpened | returned => exact ⟨_, _, rfl, ⟨rfl, rfl, rfl, rfl⟩, free⟩
  | _ => cases ofSend

/-- The client has only the effects of a `send` left to do. -/
structure Finishes (origin config : Config Tid State Effect Effect.Reply Job Result) : Prop where
  only : ∀ call, config.calls (.client 0) = some call →
    call.prog.Only fun effect => effect.ofSend = true
  reception : Reception origin.state config.state
  free : FreeForClient config.state

theorem Finishes.advances {origin : Config Tid State Effect Effect.Reply Job Result}
    (finishes : Finishes origin config)
    (reachable : (system libc).Reachable (oneClient.both considerate) config)
    {call : Call State Effect Effect.Reply Job Result} {effect : Effect}
    (calls : config.calls (.client 0) = some call) (standing : call.Next effect) :
    (system libc).Advances (oneClient.both considerate) Helps (.client 0) (Finishes origin)
      config := by
  have unowned : effect = .lock → config.state.mutexRecv ≠ some (.client 0) := by
    intro same
    subst same
    exact unowned_at_lock reachable calls standing
  have only := finishes.only call calls
  obtain ⟨next, program⟩ := standing
  rw [program] at only
  obtain ⟨reply, after, executed, still, free⟩ := send_executes only.1 finishes.free unowned
  refine Machine.advances_now calls ⟨next, program⟩ rfl executed fun rest same => ?_
  refine ⟨fun later called => ?_, finishes.reception.trans still, free⟩
  rw [Config.put_calls_self] at called
  rw [program] at same
  cases called
  cases same
  exact only.2 reply

end Runs

end LibSp.Linux
