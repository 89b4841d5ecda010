import LibSp.Linux.Session
import LibSp.Linux.MutexRecv

/-!
# Sending on Linux

A `send` of the single client, from its call to its return or to a mutex that the
client itself has left locked, whatever the receive threads are doing.
-/

set_option autoImplicit false

namespace LibSp.Linux

open Concurrent

/-! ## The line: the port, and whether the client owns the mutex -/

structure Line where
  port : Port
  owns : Bool

def State.line (s : State) : Line := ⟨s.port, decide (s.mutexRecv = some (.client 0))⟩

/-- What an effect of client 0 may answer and do to the line. -/
def Effect.lookLine : (effect : Effect) → Line → effect.Reply → Line → Prop
  | .lock, line, _, after => line.owns = false ∧ after = { line with owns := true }
  | .unlock, line, _, after => after = { line with owns := false }
  | .write fd data outcome, line, reply, after =>
      fd ∈ line.port.fds → match outcome with
        | .ok count => reply = (min count data.length : Nat) ∧ after = { line with
            port := { line.port with sent := line.port.sent ++ data.take count } }
        | .error error => reply = -1 ∧ after = { line with
            port := line.port.setErrno (.client 0) error.value }
  | effect, line, reply, after => effect.look line.port reply after.port ∧ after.owns = line.owns

theorem exec_line {effect : Effect} {s after : State} {reply : effect.Reply}
    (executed : exec (.client 0) effect s = some (reply, after)) :
    effect.lookLine s.line reply after.line := by
  have keeps : lockUse (.operation (.send none (.ok 0))) effect = .outside ∨
      lockUse (.operation (.send none (.ok 0))) effect = .free → after.line.owns = s.line.owns := by
    intro used
    simp only [State.line, (mutexRecv_mutex glibc).keeps used executed]
  cases effect with
  | lock =>
      simp only [exec] at executed
      split at executed
      · next free =>
          cases executed
          simp [Effect.lookLine, State.line, free]
      · cases executed
  | unlock =>
      cases executed
      simp [Effect.lookLine, State.line]
  | write fd data outcome =>
      intro descriptor
      have open_ : fd ∈ s.port.fds := descriptor
      simp only [exec, open_, if_true] at executed
      cases outcome <;> cases executed <;> exact ⟨rfl, rfl⟩
  | pthreadExit | returned => exact ⟨exec_look executed, keeps (.inl rfl)⟩
  | _ => exact ⟨exec_look executed, keeps (.inr rfl)⟩

/-! ## The mutex -/

section

variable {libc : SpeedSetters}

theorem send_orderly {pdata : Option (List UInt8)} {outcome : Except Errno Nat} :
    (send pdata outcome).Orderly (lockUse (.operation (.send pdata outcome))) (fun _ => True)
      false := by
  cases pdata with
  | none => trivial
  | some data =>
      refine Prog.Orderly.ite (fun _ => trivial) fun _ => fun _ _ opened => ?_
      refine Prog.Orderly.ite (fun _ => trivial) fun _ => ?_
      exact fun fd retVal => ⟨rfl, fun _ => trivial⟩

theorem runOperation_orderly (operation : Operation) :
    (runOperation libc operation).Orderly (lockUse (.operation operation)) (fun _ => True)
      false := by
  have tidy : Balanced (lockUse (.operation operation)) (fun _ _ => True)
      (runOperation libc operation) false → (runOperation libc operation).Orderly
        (lockUse (.operation operation)) (fun _ => True) false :=
    fun balanced => balanced.orderly.mono fun _ _ => trivial
  cases operation with
  | init spp precvData => exact tidy (init_balanced.bind fun _ => rfl)
  | «open» outcome => exact tidy (open_balanced.bind fun _ => rfl)
  | close => exact tidy (close_balanced.bind fun _ => rfl)
  | setReadNotify len => exact tidy (setReadNotify_balanced.bind fun _ => rfl)
  | isOpened => exact tidy fun _ _ => rfl
  | send pdata outcome => exact send_orderly.bind fun _ _ _ => trivial
  | destroy => exact tidy (destroy_balanced.bind fun _ => rfl)

/-- A thread may rest with the mutex: a `send` on a closed port does not give it back. -/
theorem runJob_orderly (job : Job) (held : Bool) (_ : True) :
    ((system libc).body job).Orderly (lockUse job) (fun _ => True) held := by
  have free : ((system libc).body job).Orderly (lockUse job) (fun _ => True) false := by
    cases job with
    | operation operation =>
        exact (runOperation_orderly operation).bind fun _ _ _ _ => trivial
    | iteration hasReadBytes outcome =>
        have silent : (pure () : Code Unit).Only fun effect =>
          lockUse (.iteration hasReadBytes outcome) effect = .free := trivial
        exact (threadRecvDataMonitor_balanced silent).orderly.bind fun _ _ _ => trivial
  cases held with
  | false => exact free
  | true => exact free.holding

end

theorem line_sole (libc : SpeedSetters) {condition : Condition Tid State Effect Job}
    {exact strict : Prop} (assumes : Assumes condition exact strict) :
    Sole (system libc) condition (.client 0) State.line Effect.lookLine where
  mine _ _ _ executed := exec_line executed
  others {config other call effect reply after} reachable different calls standing executed := by
    have port : after.port = config.state.port :=
      (client_sole libc assumes).others reachable different calls standing executed
    have owned := (mutexRecv_mutex libc).owned_by_thread trivial runJob_orderly reachable
      (Ne.symm different).symm calls standing executed
    simp only [State.line, port, owned]
  external changed := by
    cases changed
    rfl

/-! ## One `send` -/

/-- On an open port `send` tells what was sent, if the client does not own the mutex. -/
theorem send_told {line : Line} {data : List UInt8} {outcome : Except Errno Nat}
    (some : 0 < data.length) (isOpened : line.port.param.isOpened = true)
    (descriptor : line.port.param.fd ∈ line.port.fds) :
    (send (.some data) outcome).Alone Effect.lookLine
      (fun effect now => effect = .lock → now.owns = line.owns)
      (fun value after => line.owns = false ∧
        Told (!outcome.isOk) data line.port.sent after.port.sent value) line := by
  refine Prog.Alone.ite (fun empty => absurd empty (Nat.ne_of_gt some)) fun _ => ?_
  refine ⟨fun _ => rfl, fun _ locked free => ?_⟩
  obtain ⟨free, rfl⟩ := free
  refine ⟨nofun, fun opened tested looked => ?_⟩
  obtain ⟨⟨rfl, same⟩, -⟩ := looked
  refine Prog.Alone.ite (fun closed => ?_) fun _ => ?_
  · rw [isOpened] at closed
    cases closed
  refine ⟨nofun, fun fd now loaded => ?_⟩
  obtain ⟨⟨rfl, port⟩, -⟩ := loaded
  rw [same] at port ⊢
  refine ⟨nofun, fun retVal written wrote => ?_⟩
  have answered := wrote (by rw [port]; exact descriptor)
  refine ⟨nofun, fun _ after unlocked => ?_⟩
  cases unlocked
  refine ⟨free, ?_⟩
  cases outcome with
  | ok count =>
      obtain ⟨rfl, rfl⟩ := answered
      rw [port]
      exact told_iff_count.mpr rfl
  | error error =>
      obtain ⟨rfl, rfl⟩ := answered
      have negative : (-1 : Int) < 0 := by decide
      exact told_iff_negative.mpr negative

/-- The `send` is over: it has returned, or waits for a mutex that its thread owns. -/
def Over (config : Config Tid State Effect Effect.Reply Job Result) (thread : Tid)
    (call : Call State Effect Effect.Reply Job Result) : Prop :=
  (∃ value, call.Returned value) ∨ call.Next .lock ∧ config.state.mutexRecv = some thread

/-- It has returned what `send` is documented to tell. -/
def Tells (config : Config Tid State Effect Effect.Reply Job Result) (data : List UInt8)
    (outcome : Except Errno Nat) (call : Call State Effect Effect.Reply Job Result) : Prop :=
  ∃ value, call.Returned (.value (.code value)) ∧
    Told (!outcome.isOk) data call.entry.port.sent config.state.port.sent value

/-- What is established of a `send` of the client. -/
def sending : Account Line Effect Job Result where
  ready _ := True
  point job entry effect now := ∀ data outcome, job = .operation (.send (some data) outcome) →
    0 < data.length → entry.port.param.isOpened = true → entry.port.param.fd ∈ entry.port.fds →
    effect = .lock → now.owns = entry.owns
  post job entry result after := ∀ data outcome, job = .operation (.send (some data) outcome) →
    0 < data.length → entry.port.param.isOpened = true → entry.port.param.fd ∈ entry.port.fds →
    entry.owns = false ∧ ∃ value, result = .value (.code value) ∧
      Told (!outcome.isOk) data entry.port.sent after.port.sent value

theorem sending_holds {libc : SpeedSetters} {condition : Condition Tid State Effect Job} :
    sending.Holds (system libc) condition (.client 0) State.line Effect.lookLine where
  start := trivial
  body {job last s} _ admitted _ := by
    by_cases sends : ∃ data outcome, job = .operation (.send (some data) outcome) ∧
        0 < data.length ∧ s.line.port.param.isOpened = true ∧
        s.line.port.param.fd ∈ s.line.port.fds
    · obtain ⟨data, outcome, rfl, some, isOpened, descriptor⟩ := sends
      have told : (runOperation libc (.send (.some data) outcome)).Alone Effect.lookLine
          (fun effect now => effect = .lock → now.owns = s.line.owns)
          (fun value after => s.line.owns = false ∧ ∃ code, value = .code code ∧
            Told (!outcome.isOk) data s.line.port.sent after.port.sent code) s.line :=
        (send_told some isOpened descriptor).bind fun value after done =>
          ⟨done.1, value, rfl, done.2⟩
      have pointed := told.pointed fun effect now pointed =>
        (fun _ _ _ _ _ _ => pointed :
          sending.point (.operation (.send (.some data) outcome)) s.line effect now)
      refine pointed.bind fun value ended done => ⟨fun _ _ _ _ _ _ => nofun, ?_⟩
      intro _ after returned
      obtain ⟨port, -⟩ := returned
      intro _ _ same _ _ _
      cases same
      obtain ⟨free, code, rfl, told⟩ := done
      have recorded : after.port = ended.port.record (.send (.some data) outcome) (.code code) :=
        port
      exact ⟨free, code, rfl, by rw [recorded]; exact told⟩
    · apply Prog.Alone.any
      · intro effect now data outcome same some isOpened descriptor
        exact absurd ⟨data, outcome, same, some, isOpened, descriptor⟩ sends
      · intro result after data outcome same some isOpened descriptor
        exact absurd ⟨data, outcome, same, some, isOpened, descriptor⟩ sends
  returned _ := trivial

/-- In every run with one client: a `send` of data on an open port that is over has
told what was sent exactly if the client did not own the mutex when it called. -/
theorem send_tells_iff (libc : SpeedSetters)
    (config : Config Tid State Effect Effect.Reply Job Result)
    (reachable : (system libc).Reachable oneClient config)
    (call : Call State Effect Effect.Reply Job Result) (data : List UInt8)
    (outcome : Except Errno Nat) (calls : config.calls (.client 0) = some call)
    (job : call.job = .operation (.send (some data) outcome)) (nonempty : 0 < data.length)
    (isOpened : call.entry.port.param.isOpened = true) (ended : Over config (.client 0) call) :
    Tells config data outcome call ↔ call.entry.mutexRecv ≠ some (.client 0) := by
  have contract := linux_contract libc oneClient_assumes
  have sole := line_sole libc oneClient_assumes
  obtain ⟨before, last, earlier, idle, entry, -⟩ := reachable.entered calls
  have idlePort : Idle before.state.port := contract.ready_of_reachable earlier idle
  rw [entry] at idlePort
  have descriptor : call.entry.port.param.fd ∈ call.entry.port.fds := by
    rw [(idlePort.opened isOpened).1]
    exact List.mem_singleton.mpr rfl
  have post : ∀ value, call.Returned value →
      call.entry.mutexRecv ≠ some (.client 0) ∧ ∃ code, value = .value (.code code) ∧
        Told (!outcome.isOk) data call.entry.port.sent config.state.port.sent code := by
    intro value returned
    obtain ⟨free, told⟩ := Account.post_of_reachable sole sending_holds reachable calls returned
      data outcome job nonempty isOpened descriptor
    exact ⟨of_decide_eq_false free, told⟩
  constructor
  · intro returns
    obtain ⟨value, returned, -⟩ := returns
    exact (post _ returned).1
  · intro free
    rcases ended with ⟨value, returned⟩ | ⟨standing, owns⟩
    · obtain ⟨-, code, rfl, told⟩ := post value returned
      exact ⟨code, returned, told⟩
    · have same : config.state.line.owns = call.entry.line.owns :=
        Account.point_of_reachable sole sending_holds reachable calls standing
          data outcome job nonempty isOpened descriptor rfl
      have owned : config.state.line.owns = true := decide_eq_true owns
      rw [owned] at same
      exact absurd (of_decide_eq_true same.symm) free

end LibSp.Linux
