import LibSp.Linux.OpenClose
import LibSp.Linux.Session

/-!
# Stopping reception

A receive thread is created by the last system call of an `open`, and joined by
the `close` that follows. Until the client stands at the return of an `open`, a
port that is closed by its record has no receive thread.
-/

set_option autoImplicit false

namespace LibSp.Linux

open Concurrent

/-! ## What the operations do to a port without a thread -/

/-- The record stays, and no receive thread is created. -/
structure Port.Still (port after : Port) : Prop where
  history : after.history = port.history
  quiet : port.Quiet → after.Quiet

/-- The effects that neither create a thread nor return. -/
def Effect.still : Effect → Bool
  | .pthreadCreate _ | .returned .. => false
  | _ => true

section

variable {libc : SpeedSetters} {entry port after : Port} {α : Type}

theorem Port.Still.refl : port.Still port := ⟨rfl, id⟩

theorem Port.Still.trans (early : entry.Still port) (late : port.Still after) :
    entry.Still after :=
  ⟨late.history.trans early.history, fun quiet => late.quiet (early.quiet quiet)⟩

/-- The threads that were created and not joined tell whether a port is quiet. -/
private theorem still_of_fewer (history : after.history = port.history)
    (created : after.created = port.created) (joined : port.joined ⊆ after.joined) :
    port.Still after where
  history := history
  quiet quiet number unjoined := by
    obtain ⟨before, missing⟩ := unjoined
    exact quiet number ⟨created ▸ before, fun member => missing (joined member)⟩

private theorem still_of_answer (outcome : Except Errno Unit) (handed : Option Termios) :
    port.Still { (answer (.client 0) port outcome).2 with handed := handed } := by
  cases outcome <;> exact ⟨rfl, id⟩

theorem look_still {effect : Effect} {reply : effect.Reply} (still : effect.still = true)
    (looked : effect.look port reply after) : port.Still after := by
  cases effect with
  | pthreadCreate | returned => cases still
  | «open» name outcome =>
      unfold Effect.look at looked
      cases answered : outcome.descriptor with
      | error error =>
          simp only [answered] at looked
          obtain ⟨-, rfl⟩ := looked
          exact ⟨rfl, id⟩
      | ok fd =>
          simp only [answered] at looked
          obtain ⟨-, -, rfl⟩ := looked
          exact ⟨rfl, id⟩
  | fcntl fd outcome =>
      obtain ⟨-, rfl⟩ := looked
      cases outcome <;> exact ⟨rfl, id⟩
  | tcgetattr fd outcome =>
      cases outcome <;> obtain ⟨-, rfl⟩ := looked <;> exact ⟨rfl, id⟩
  | tcsetattr fd options outcome =>
      obtain ⟨-, rfl⟩ := looked
      exact still_of_answer outcome _
  | write =>
      obtain ⟨errno, sent, rfl⟩ := looked
      exact ⟨rfl, id⟩
  | pthreadJoin =>
      obtain ⟨joined, badJoins, more, rfl⟩ := looked
      exact still_of_fewer rfl rfl more
  | load | isOpened | errno =>
      obtain ⟨-, rfl⟩ := looked
      exact .refl
  | _ =>
      cases looked
      exact ⟨rfl, id⟩

/-- The program of client 0, followed from the entry of its operation. -/
abbrev StillAlone (entry : Port) (program : Code α) (post : α → Port → Prop) (port : Port) : Prop :=
  program.Alone Effect.look (fun _ now => entry.Still now) post port

theorem still_act {effect : Effect} {next : effect.Reply → Code α} {post : α → Port → Prop}
    (still : effect.still = true) (known : entry.Still port)
    (continued : ∀ reply after, entry.Still after → StillAlone entry (next reply) post after) :
    StillAlone entry (.act effect next) post port :=
  ⟨known, fun reply after looked =>
    continued reply after (known.trans (look_still still looked))⟩

theorem still_of_only {program : Code α} (only : program.Only fun effect => effect.still = true)
    (known : entry.Still port) :
    StillAlone entry program (fun _ after => entry.Still after) port :=
  Prog.Alone.of_only (fun _ _ _ still => still)
    (fun _ _ _ _ allowed still looked => still.trans (look_still allowed looked)) only known

theorem still_of_routine {effect : Effect} (routine : effect.routine = true) :
    effect.still = true := by
  cases effect <;> first | rfl | cases routine

theorem init_still {spp : SpProp} {precvData : Option IrecvData} :
    (init spp precvData).Only fun effect => effect.still = true :=
  init_only (fun _ => rfl) fun _ => rfl

theorem setPortParams_still {outcome : OpenOutcome} :
    (setPortParams libc outcome).Only fun effect => effect.still = true :=
  setPortParams_only fun effect tunes => by
    cases effect <;> first | rfl | cases tunes

theorem close_still : close.Only fun effect => effect.still = true :=
  close_routine.mono fun _ routine => still_of_routine routine

/-- What an operation leaves behind: no new thread, or an `open` that returns 0. -/
def Stays (entry : Port) (operation : Operation) (value : Value) (after : Port) : Prop :=
  entry.Still after ∨ after.history = entry.history ∧
    ∃ outcome, operation = .open outcome ∧ value = .code 0

/-- The clean-up of a failing `open`. -/
private theorem rollback_still {retVal : Int} (known : entry.Still port) :
    StillAlone entry (close >>= fun _ => (.ret retVal : Code Int))
      (fun value after => entry.Still after ∨ after.history = entry.history ∧ value = 0) port :=
  (still_of_only close_still known).bind fun _ _ known => .inl known

/-- The thread is created by the last effect of `open`, which then returns 0. -/
theorem startThreadRecv_still {outcome : CreateOutcome} (known : entry.Still port) :
    StillAlone entry (startThreadRecv outcome)
      (fun value after => entry.Still after ∨ after.history = entry.history ∧ value = true)
      port := by
  refine still_act rfl known fun _ now known => ⟨known, fun ret after looked => ?_⟩
  cases outcome with
  | created =>
      obtain ⟨rfl, rfl⟩ := looked
      exact .inr ⟨known.history, rfl⟩
  | failed error leftover =>
      obtain ⟨-, rfl⟩ := looked
      exact .inl (known.trans ⟨rfl, id⟩)

theorem open_still {outcome : OpenOutcome} (known : entry.Still port) :
    StillAlone entry («open» libc outcome)
      (fun value after => entry.Still after ∨ after.history = entry.history ∧ value = 0) port := by
  refine still_act rfl known fun _ _ known => ?_
  refine Prog.Alone.ite (fun _ => .inl known) fun _ => ?_
  refine still_act rfl known fun _ _ known => still_act rfl known fun fd _ known => ?_
  refine still_act rfl known fun _ _ known => still_act rfl known fun _ _ known => ?_
  refine Prog.Alone.ite (fun _ => ?_) fun _ => ?_
  · exact still_act rfl known fun _ _ known => .inl known
  refine still_act rfl known fun _ _ known => still_act rfl known fun _ _ known => ?_
  refine Prog.Alone.ite (fun _ => ?_) fun _ => ?_
  · exact still_act rfl known fun _ _ known => rollback_still known
  refine (still_of_only setPortParams_still known).bind fun _ _ known => ?_
  refine Prog.Alone.ite (fun _ => ?_) fun _ => ?_
  · exact still_act rfl known fun _ _ known => rollback_still known
  refine still_act rfl known fun precvData now known => ?_
  refine Prog.Alone.ite (fun _ => ?_) fun _ => .inl known
  refine (startThreadRecv_still known).bind fun started now stays => ?_
  cases started with
  | true => exact stays.imp_right fun created => ⟨created.1, rfl⟩
  | false =>
      have known : entry.Still now := stays.resolve_right fun created => by cases created.2
      exact still_act rfl known fun _ _ known => .inl known

theorem runOperation_stays (operation : Operation) :
    StillAlone entry (runOperation libc operation)
      (fun value after => Stays entry operation value after) entry := by
  have routine : operation.routine = true → StillAlone entry (runOperation libc operation)
      (fun value after => Stays entry operation value after) entry := by
    intro routine
    have only := (@runOperation_routine libc _ routine).mono fun _ => still_of_routine
    exact (still_of_only only .refl).mono fun _ _ known => .inl known
  cases operation with
  | init spp precvData =>
      exact (still_of_only init_still .refl).bind fun _ _ known => .inl known
  | «open» outcome =>
      refine (open_still .refl).bind fun value after stays => stays.imp_right ?_
      intro ⟨history, zero⟩
      exact ⟨history, outcome, rfl, congrArg Value.code zero⟩
  | close | setReadNotify | isOpened | send | destroy => exact routine rfl

end

/-! ## Runs -/

section

variable {libc : SpeedSetters} {condition : Condition Tid State Effect Job} {exact strict : Prop}
  {config : Config Tid State Effect Effect.Reply Job Result}

/-- At every effect of an operation the port is still, but for the return of an `open`
with 0. -/
def stilling : Account Port Effect Job Result where
  ready _ := True
  point _ entry effect now := entry.Still now ∨ now.history = entry.history ∧
    ∃ outcome, effect = .returned (.open outcome) (.code 0)
  post _ _ _ _ := True

theorem stilling_holds :
    stilling.Holds (system libc) condition (.client 0) State.port Effect.look where
  start := trivial
  body {job last s} _ admitted _ := by
    cases job with
    | iteration hasReadBytes outcome => cases admitted
    | operation operation =>
        refine Prog.Alone.bind ((runOperation_stays operation).pointed
          fun _ _ known => Or.inl known) fun value ended stays => ⟨?_, fun _ _ _ => trivial⟩
        refine stays.imp_right fun opened => ?_
        obtain ⟨history, outcome, rfl, rfl⟩ := opened
        exact ⟨history, outcome, rfl⟩
  returned _ := trivial

/-- The client stands at the return of an `open` with 0. -/
def OpenReturning (config : Config Tid State Effect Effect.Reply Job Result) : Prop :=
  ∃ call outcome, config.calls (.client 0) = some call ∧
    call.Next (.returned (.open outcome) (.code 0))

/-- While a receive thread lives, the port is open by its record or about to be. -/
theorem opened_of_alive (assumes : Assumes condition exact strict)
    (reachable : (system libc).Reachable condition config) {number : Nat}
    (alive : number ∈ config.state.receivers) :
    opened config.state.port.history = true ∨ OpenReturning config := by
  have contract := linux_contract libc assumes
  have sole := client_sole libc assumes
  have inv := contract.inv_of_reachable reachable
  -- Between two operations the record and the port agree.
  have quiet : ∀ {before : Config Tid State Effect Effect.Reply Job Result} {last : Option Result},
      (system libc).Reachable condition before → before.idle? (.client 0) = some last →
      opened before.state.port.history = false → before.state.port.Quiet := by
    intro before last earlier idle isClosed
    have recorded := recorded_of_reachable assumes earlier idle
    have idlePort : Idle before.state.port := contract.ready_of_reachable earlier idle
    exact (idlePort.closed (recorded.isOpened.trans isClosed)).2.2
  cases isOpened : opened config.state.port.history with
  | true => exact .inl rfl
  | false =>
      right
      rcases config.idle_or_next (.client 0) with ⟨last, idle⟩ | ⟨call, effect, calls, standing⟩
      · exact absurd alive (inv.not_alive (quiet reachable idle isOpened))
      · obtain ⟨before, last, earlier, idle, entry, -⟩ := reachable.entered calls
        rcases Account.point_of_reachable sole stilling_holds reachable calls standing with
          still | ⟨-, outcome, rfl⟩
        · have wasQuiet : call.entry.port.Quiet := by
            rw [← entry]
            refine quiet earlier idle ?_
            rw [entry, ← still.history]
            exact isOpened
          exact absurd alive (inv.not_alive (still.quiet wasQuiet))
        · exact ⟨call, outcome, calls, standing⟩

end

/-- In every run with one client: there is at most one receive thread, it queries and
reads only the open descriptor of the port, and it calls the receiver only after an
`open` has returned 0 and before the `close` that follows has returned, or when that
`open` is about to return 0. -/
theorem close_stops_reception (libc : SpeedSetters)
    (config : Config Tid State Effect Effect.Reply Job Result)
    (reachable : (system libc).Reachable oneClient config) :
    config.state.receivers.length ≤ 1 ∧
    (∀ number call, config.calls (.worker number) = some call →
      (∀ fd succeeds, call.Next (.ioctl fd succeeds) →
        fd = config.state.port.param.fd ∧ fd ∈ config.state.port.fds) ∧
      (∀ fd count succeeds, call.Next (.read fd count succeeds) →
        fd = config.state.port.param.fd ∧ fd ∈ config.state.port.fds) ∧
      (∀ receiver chunk notify, call.Next (.onRecvData receiver chunk notify) →
        opened config.state.port.history = true ∨ OpenReturning config)) := by
  have contract := linux_contract libc oneClient_assumes
  have inv := contract.inv_of_reachable reachable
  constructor
  · cases receivers : config.state.receivers with
    | nil => exact Nat.zero_le 1
    | cons number rest =>
        have alive : number ∈ config.state.receivers := by simp [receivers]
        have single := receivers_eq_singleton inv alive
        rw [← receivers, single]
        exact Nat.le_refl 1
  intro number call calls
  have pointed := fun {effect : Effect} (standing : call.Next effect) =>
    contract.point_of_reachable reachable calls standing
  refine ⟨fun fd succeeds standing => ?_, fun fd count succeeds standing => ?_,
    fun receiver chunk notify standing => ?_⟩
  · obtain ⟨-, -, current, descriptor⟩ := pointed standing
    exact ⟨current, descriptor⟩
  · obtain ⟨-, -, current, descriptor, -⟩ := pointed standing
    exact ⟨current, descriptor⟩
  · exact opened_of_alive oneClient_assumes reachable (pointed standing).1

/-- A byte arrives, and the receive thread is about to pass it on. -/
theorem close_stops_reception_delivering :
    ∃ config call, (system glibc).steps oneClient (system glibc).initial
        (openingRun (.fine 3) 18 ++ .external [65] ::
          Label.burst (.worker 0) (.iteration 0 ⟨true, true⟩) 9) = some config ∧
      config.calls (.worker 0) = some call ∧ call.Next (.onRecvData 7 [65] 1) ∧
      (opened config.state.port.history = true ∨ OpenReturning config) := by
  have ran : ∃ config call, (system glibc).steps oneClient (system glibc).initial
      (openingRun (.fine 3) 18 ++ .external [65] ::
        Label.burst (.worker 0) (.iteration 0 ⟨true, true⟩) 9) = some config ∧
      config.calls (.worker 0) = some call ∧ call.Next (.onRecvData 7 [65] 1) :=
    ⟨_, _, rfl, rfl, _, rfl⟩
  obtain ⟨config, call, steps, calls, standing⟩ := ran
  have stops := close_stops_reception glibc config (.of_steps .start steps)
  exact ⟨config, call, steps, calls, standing, (stops.2 0 call calls).2.2 7 [65] 1 standing⟩

end LibSp.Linux
