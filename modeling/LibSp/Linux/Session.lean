import LibSp.Linux.Members
import LibSp.Linux.Runs
import LibSp.Concurrent.Alone

/-!
# What one client does to a Linux port

The receive threads leave the port to its single client, so its operations can be
followed on the port alone. Between two of them the record of the calls tells
whether the port is open and with which settings it was opened.
-/

set_option autoImplicit false

namespace LibSp.Linux

open Concurrent

/-! ## The effects of the client on the port -/

/-- What an effect of client 0 may answer and do to the port, whatever the receive
threads are doing. -/
def Effect.look : (effect : Effect) → Port → effect.Reply → Port → Prop
  | .load field, port, reply, after => reply = port.param.get field ∧ after = port
  | .store field value, port, _, after =>
      after = { port with param := port.param.set field value }
  | .isOpened, port, reply, after => reply = port.param.isOpened ∧ after = port
  | .errno, port, reply, after => reply = port.errno 0 ∧ after = port
  | .open _ outcome, port, reply, after =>
      match outcome.descriptor with
      | .error error => reply = -1 ∧ after = port.setErrno (.client 0) error.value
      | .ok fd => 0 ≤ fd ∧ reply = fd ∧ after = { port with fds := fd :: port.fds }
  | .fcntl _ outcome, port, reply, after =>
      reply = (answer (.client 0) port outcome).1 ∧ after = (answer (.client 0) port outcome).2
  | .tcgetattr _ outcome, port, reply, after =>
      match outcome with
      | .error error => reply = none ∧ after = port.setErrno (.client 0) error.value
      | .ok options => reply = some options ∧ after = port
  | .tcsetattr _ options outcome, port, reply, after =>
      reply = (answer (.client 0) port outcome).1 ∧
        after = { (answer (.client 0) port outcome).2 with handed := some options }
  | .close fd, port, _, after => after = { port with fds := port.fds.erase fd }
  | .write .., port, _, after =>
      ∃ errno sent, after = { port with errno := errno, sent := sent }
  | .pthreadCreate outcome, port, reply, after =>
      match outcome with
      | .created => reply = 0 ∧ after = { port with
          param := { port.param with threadRecv := port.created }
          created := port.created + 1 }
      | .failed error leftover => reply = error.value ∧ after = { port with
          param := { port.param with threadRecv := leftover } }
  | .pthreadJoin _, port, _, after => ∃ joined badJoins, port.joined ⊆ joined ∧
      after = { port with joined := joined, badJoins := badJoins }
  | .returned operation value, port, _, after =>
      after = { port with history := (operation, value) :: port.history }
  | _, port, _, after => after = port

theorem exec_look {effect : Effect} {s after : State} {reply : effect.Reply}
    (executed : exec (.client 0) effect s = some (reply, after)) :
    effect.look s.port reply after.port := by
  cases effect with
  | «open» name outcome =>
      simp only [exec] at executed
      cases answered : outcome.descriptor with
      | error error =>
          simp only [answered] at executed
          cases executed
          simp only [Effect.look, answered, and_self]
      | ok fd =>
          simp only [answered] at executed
          split at executed <;> cases executed
          next valid => simp only [Effect.look, answered, valid.1, and_self]
  | tcgetattr fd outcome => cases outcome <;> cases executed <;> exact ⟨rfl, rfl⟩
  | write fd data outcome =>
      simp only [exec] at executed
      split at executed
      · cases outcome <;> cases executed <;> exact ⟨_, _, rfl⟩
      · cases executed
        exact ⟨_, _, rfl⟩
  | pthreadCreate outcome => cases outcome <;> cases executed <;> exact ⟨rfl, rfl⟩
  | pthreadJoin identifier =>
      simp only [exec] at executed
      split at executed
      · split at executed <;> cases executed
        exact ⟨_, _, List.subset_cons_self _ _, rfl⟩
      · cases executed
        exact ⟨_, _, List.Subset.refl _, rfl⟩
  | lock =>
      simp only [exec] at executed
      split at executed <;> cases executed
      exact rfl
  | ioctl fd succeeds =>
      simp only [exec] at executed
      split at executed <;> cases executed <;> exact rfl
  | read fd count succeeds =>
      simp only [exec] at executed
      split at executed
      · split at executed <;> cases executed
        exact rfl
      · cases executed
        exact rfl
  | pthreadExit => cases executed
  | store | close | returned | unlock | tcflush | onRecvData =>
      cases executed
      exact rfl
  | load | isOpened | errno | fcntl | tcsetattr =>
      cases executed
      exact ⟨rfl, rfl⟩

/-- A receive thread leaves the port alone. -/
theorem worker_port {exact : Prop} {number : Nat} {effect : Effect} {s after : State}
    {reply : effect.Reply} (pointed : WorkerPoint exact s effect)
    (executed : exec (.worker number) effect s = some (reply, after)) : after.port = s.port := by
  cases effect with
  | lock =>
      simp only [exec] at executed
      split at executed <;> cases executed
      rfl
  | ioctl fd succeeds =>
      simp only [exec] at executed
      split at executed <;> cases executed <;> rfl
  | read fd count succeeds =>
      simp only [exec] at executed
      split at executed
      · split at executed <;> cases executed
        rfl
      · cases executed
        rfl
  | load | isOpened | unlock | pthreadExit | onRecvData =>
      cases executed
      rfl
  | _ => exact pointed.elim

theorem client_sole (libc : SpeedSetters) {condition : Condition Tid State Effect Job}
    {exact strict : Prop} (assumes : Assumes condition exact strict) :
    Sole (system libc) condition (.client 0) State.port Effect.look where
  mine _ _ _ executed := exec_look executed
  others {config other call effect reply after} reachable different calls standing executed := by
    match other with
    | .client 0 => exact absurd rfl different
    | .client (number + 1) => simpa [oneClient] using assumes.single (reachable.begun calls)
    | .worker number =>
        have pointed := (linux_contract libc assumes).point_of_reachable reachable calls standing
        exact worker_port pointed.2 executed
  external changed := by
    cases changed
    rfl

/-! ## The operations on the port -/

/-- The settings, the descriptor, what the device was handed and the record stay. -/
structure Port.Same (port after : Port) : Prop where
  spp : after.param.spp = port.param.spp
  fd : after.param.fd = port.param.fd
  handed : after.handed = port.handed
  history : after.history = port.history

/-- The port is closed, with its settings and its record. -/
structure Port.Shut (port after : Port) : Prop where
  isClosed : after.param.isOpened = false
  spp : after.param.spp = port.param.spp
  history : after.history = port.history

/-- What an `open` that returned this value did to the port. -/
inductive OpenSeen (libc : SpeedSetters) (outcome : OpenOutcome) (port : Port) (value : Int)
    (after : Port) : Prop where
  | already (isOpened : port.param.isOpened = true) (negative : value = -1) (same : port.Same after)
  | opened (opens : Opens outcome port) (zero : value = 0) (isOpened : after.param.isOpened = true)
      (spp : after.param.spp = port.param.spp) (history : after.history = port.history)
      (prior : Termios) (answered : outcome.tcgetattr = .ok prior)
      (handed : after.handed = some (portOptions libc port.param.spp prior))
  | failed (isClosed : port.param.isOpened = false) (fails : ¬ Opens outcome port)
      (nonzero : value ≠ 0) (shut : port.Shut after)

/-- What an operation that returned this value did to the port. -/
def Seen (libc : SpeedSetters) (port : Port) (value : Value) (after : Port) : Operation → Prop
  | .init spp _ => value = .code ((SpParamsCheck.getInstance .linux).isRight spp) ∧
      { port with param := { port.param with spp := after.param.spp } }.Same after ∧
      after.param.spp = if value = .code 0 then spp else port.param.spp
  | .open outcome => ∃ code, value = .code code ∧ OpenSeen libc outcome port code after
  | .close => port.Shut after ∧ value = .code (if port.param.isOpened then 0 else -1)
  | .isOpened => value = .flag port.param.isOpened ∧ port.Same after
  | .destroy => port.Shut after
  | .setReadNotify _ | .send .. => port.Same after

section Operations

variable {libc : SpeedSetters} {port : Port} {α : Type}

/-- The program of client 0, followed on the port. -/
abbrev PortAlone (program : Code α) (post : α → Port → Prop) (port : Port) : Prop :=
  program.Alone Effect.look (fun _ _ => True) post port

section Effects

variable {post : α → Port → Prop}

theorem seen_load {field : Field} {next : field.Val → Code α}
    (continued : PortAlone (next (port.param.get field)) post port) :
    PortAlone (.act (.load field) next) post port := by
  refine ⟨trivial, ?_⟩
  intro _ _ post
  obtain ⟨rfl, rfl⟩ := post
  exact continued

theorem seen_store {field : Field} {value : field.Val} {next : Unit → Code α}
    (continued : PortAlone (next ()) post { port with param := port.param.set field value }) :
    PortAlone (.act (.store field value) next) post port := by
  refine ⟨trivial, ?_⟩
  intro _ _ same
  subst same
  exact continued

theorem seen_isOpened {next : Bool → Code α}
    (continued : PortAlone (next port.param.isOpened) post port) :
    PortAlone (.act .isOpened next) post port := by
  refine ⟨trivial, ?_⟩
  intro _ _ post
  obtain ⟨rfl, rfl⟩ := post
  exact continued

theorem seen_errno {next : Int → Code α} (continued : PortAlone (next (port.errno 0)) post port) :
    PortAlone (.act .errno next) post port := by
  refine ⟨trivial, ?_⟩
  intro _ _ post
  obtain ⟨rfl, rfl⟩ := post
  exact continued

theorem seen_open {name : String} {outcome : OpenOutcome} {next : Int → Code α}
    (refused : ∀ error, outcome.descriptor = .error error →
      PortAlone (next (-1)) post (port.setErrno (.client 0) error.value))
    (granted : ∀ fd, outcome.descriptor = .ok fd → 0 ≤ fd →
      PortAlone (next fd) post { port with fds := fd :: port.fds }) :
    PortAlone (.act (.open name outcome) next) post port := by
  refine ⟨trivial, fun reply after looked => ?_⟩
  cases answered : outcome.descriptor with
  | error error =>
      simp only [Effect.look, answered] at looked
      obtain ⟨rfl, rfl⟩ := looked
      exact refused error answered
  | ok fd =>
      simp only [Effect.look, answered] at looked
      obtain ⟨valid, rfl, rfl⟩ := looked
      exact granted reply answered valid

theorem seen_fcntl {fd : Int} {outcome : Except Errno Unit} {next : Int → Code α}
    (continued : PortAlone (next (answer (.client 0) port outcome).1) post
      (answer (.client 0) port outcome).2) :
    PortAlone (.act (.fcntl fd outcome) next) post port := by
  refine ⟨trivial, ?_⟩
  intro _ _ post
  obtain ⟨rfl, rfl⟩ := post
  exact continued

theorem seen_tcgetattr {fd : Int} {outcome : Except Errno Termios}
    {next : Option Termios → Code α}
    (refused : ∀ error, outcome = .error error →
      PortAlone (next none) post (port.setErrno (.client 0) error.value))
    (granted : ∀ options, outcome = .ok options → PortAlone (next (some options)) post port) :
    PortAlone (.act (.tcgetattr fd outcome) next) post port := by
  refine ⟨trivial, ?_⟩
  cases outcome with
  | error error =>
      intro _ _ post
      obtain ⟨rfl, rfl⟩ := post
      exact refused error rfl
  | ok options =>
      intro _ _ post
      obtain ⟨rfl, rfl⟩ := post
      exact granted options rfl

theorem seen_tcflush {fd : Int} {next : Unit → Code α}
    (continued : PortAlone (next ()) post port) :
    PortAlone (.act (.tcflush fd) next) post port := by
  refine ⟨trivial, ?_⟩
  intro _ _ same
  subst same
  exact continued

theorem seen_tcsetattr {fd : Int} {options : Termios} {outcome : Except Errno Unit}
    {next : Int → Code α}
    (continued : PortAlone (next (answer (.client 0) port outcome).1) post
      { (answer (.client 0) port outcome).2 with handed := some options }) :
    PortAlone (.act (.tcsetattr fd options outcome) next) post port := by
  refine ⟨trivial, ?_⟩
  intro _ _ post
  obtain ⟨rfl, rfl⟩ := post
  exact continued

end Effects

theorem close_seen :
    PortAlone close
      (fun value after => port.Shut after ∧ value = if port.param.isOpened then 0 else -1) port := by
  refine seen_isOpened (Prog.Alone.ite (fun notOpened => ?_) fun opened => ?_)
  · have isClosed : port.param.isOpened = false := by simpa using notOpened
    exact ⟨⟨isClosed, rfl, rfl⟩, by simp [isClosed]⟩
  · have isOpened : port.param.isOpened = true := by simpa using opened
    refine seen_store (seen_load ⟨trivial, ?_⟩)
    intro _ _ post
    obtain ⟨joined, badJoins, -, rfl⟩ := post
    refine seen_store (seen_load ⟨trivial, ?_⟩)
    intro _ _ same
    subst same
    exact seen_store ⟨⟨rfl, rfl, rfl⟩, by simp [isOpened]⟩

/-- What `set_port_params` that returned this value did to the port. -/
inductive Configured (libc : SpeedSetters) (outcome : OpenOutcome) (port : Port) (value : Int)
    (after : Port) : Prop where
  | done (prior : Termios) (answered : outcome.tcgetattr = .ok prior)
      (written : outcome.tcsetattr.isOk = true) (zero : value = 0)
      (param : after.param = port.param) (history : after.history = port.history)
      (handed : after.handed = some (portOptions libc port.param.spp prior))
  | failed (fails : ¬ (outcome.tcgetattr.isOk = true ∧ outcome.tcsetattr.isOk = true))
      (nonzero : value ≠ 0) (param : after.param = port.param)
      (history : after.history = port.history) (errno : after.errno 0 ≠ 0)

private theorem setErrno_ne_zero (port : Port) (error : Errno) :
    (port.setErrno (.client 0) error.value).errno 0 ≠ 0 := by
  have positive := error.positive
  simp only [Port.setErrno, ↓reduceIte]
  omega

private theorem answer_keeps (port : Port) (outcome : Except Errno Unit) :
    (answer (.client 0) port outcome).2.param = port.param ∧
      (answer (.client 0) port outcome).2.history = port.history := by
  cases outcome <;> exact ⟨rfl, rfl⟩

theorem setPortParams_seen {outcome : OpenOutcome} :
    PortAlone (setPortParams libc outcome)
      (fun value after => Configured libc outcome port value after) port := by
  refine seen_load (seen_tcgetattr (fun error refused => ?_) fun prior answered => ?_)
  · exact .failed (by simp [refused, Except.isOk, Except.toBool]) (by decide) rfl rfl
      (setErrno_ne_zero port error)
  · refine seen_load (seen_load (seen_tcflush (seen_load (seen_tcsetattr ?_))))
    cases written : outcome.tcsetattr with
    | error error =>
        have nonzero : (-2 : Int) ≠ 0 := by decide
        exact .failed (by simp [written, Except.isOk, Except.toBool]) nonzero rfl rfl
          (setErrno_ne_zero port error)
    | ok done =>
        exact .done prior answered (by simp [written, Except.isOk, Except.toBool]) rfl rfl rfl rfl

theorem startThreadRecv_seen {outcome : CreateOutcome} :
    PortAlone (startThreadRecv outcome) (fun value after => value = true ∧ port.Same after)
      port := by
  refine seen_store ⟨trivial, ?_⟩
  cases outcome with
  | created =>
      intro _ _ post
      obtain ⟨rfl, rfl⟩ := post
      exact ⟨rfl, rfl, rfl, rfl, rfl⟩
  | failed error leftover =>
      intro _ _ post
      obtain ⟨rfl, rfl⟩ := post
      have positive := error.positive
      have notNegative : ¬ 0 > error.value := by omega
      exact ⟨if_neg notNegative, rfl, rfl, rfl, rfl⟩

/-- The clean-up of a failing `open`. -/
private theorem rollback_seen {outcome : OpenOutcome} {before : Port} {retVal : Int}
    (isClosed : before.param.isOpened = false) (fails : ¬ Opens outcome before)
    (nonzero : retVal ≠ 0) (spp : port.param.spp = before.param.spp)
    (history : port.history = before.history) :
    PortAlone (close >>= fun _ => (.ret retVal : Code Int))
      (fun value after => OpenSeen libc outcome before value after) port := by
  refine close_seen.bind ?_
  intro value after post
  obtain ⟨shut, -⟩ := post
  exact .failed isClosed fails nonzero
    ⟨shut.isClosed, shut.spp.trans spp, shut.history.trans history⟩

/-- `open` from the moment that its descriptor is ready. -/
private theorem ready_seen {outcome : OpenOutcome} {before : Port}
    (isClosed : before.param.isOpened = false) (grants : outcome.descriptor.isOk = true)
    (unblocked : outcome.fcntl.isOk = true) (spp : port.param.spp = before.param.spp)
    (history : port.history = before.history) (isOpened : port.param.isOpened = true) :
    PortAlone (do
        if 0 ≠ (← setPortParams libc outcome) then
          let retVal ← perform .errno
          let _ ← close
          return retVal
        if (← load .precvData).isSome then
          if !(← startThreadRecv outcome.pthreadCreate) then
            return ← perform .errno
        return 0)
      (fun value after => OpenSeen libc outcome before value after) port := by
  refine setPortParams_seen.bind ?_
  rintro value after (⟨prior, answered, written, rfl, param, recorded, handed⟩ |
    ⟨fails, nonzero, param, recorded, errno⟩)
  · have opens : Opens outcome before := by
      refine ⟨isClosed, grants, unblocked, ?_, written⟩
      simp [answered, Except.isOk, Except.toBool]
    rw [spp] at handed
    refine Prog.Alone.ite (fun nonzero => absurd rfl nonzero) fun _ => ?_
    refine seen_load (Prog.Alone.ite (fun _ => ?_) fun _ => ?_)
    · refine startThreadRecv_seen.bind ?_
      intro _ started post
      obtain ⟨rfl, same⟩ := post
      refine .opened opens rfl ?_ ?_ ?_ prior answered (same.handed.trans handed)
      · rw [SpParamLinux.isOpened, same.fd, param]
        exact isOpened
      · rw [same.spp, param, spp]
      · rw [same.history, recorded, history]
    · refine .opened opens rfl ?_ ?_ (recorded.trans history) prior answered handed
      · rw [param]
        exact isOpened
      · rw [param, spp]
  · refine Prog.Alone.ite (fun _ => ?_) fun zero => absurd (Ne.symm nonzero) zero
    refine seen_errno (rollback_seen isClosed (fun opens => fails opens.2.2.2) errno ?_
      (recorded.trans history))
    rw [param, spp]

theorem open_seen {outcome : OpenOutcome} :
    PortAlone («open» libc outcome) (fun value after => OpenSeen libc outcome port value after)
      port := by
  refine seen_isOpened (Prog.Alone.ite (fun isOpened => ?_) fun notOpened => ?_)
  · exact .already isOpened rfl ⟨rfl, rfl, rfl, rfl⟩
  have isClosed : port.param.isOpened = false := by simpa using notOpened
  refine seen_load (seen_open (fun error refused => ?_) fun fd granted valid => ?_)
  · refine seen_store (seen_load (seen_errno ?_))
    refine .failed isClosed (fun opens => ?_) (setErrno_ne_zero port error) ⟨rfl, rfl, rfl⟩
    have granted := opens.2.1
    simp [refused, Except.isOk, Except.toBool] at granted
  · have grants : outcome.descriptor.isOk = true := by
      simp [granted, Except.isOk, Except.toBool]
    refine seen_store (seen_load (Prog.Alone.ite (fun invalid => ?_) fun _ => ?_))
    · have same : fd = -1 := invalid
      omega
    obtain ⟨param, recorded⟩ := answer_keeps { port with
      fds := fd :: port.fds, param := port.param.set .fd fd } outcome.fcntl
    refine seen_load (seen_fcntl (Prog.Alone.ite (fun failed => ?_) fun succeeded => ?_))
    · have refused := (answer_negative_iff _ _).mp failed
      refine seen_errno (rollback_seen isClosed (fun opens => refused opens.2.2.1)
        (answer_errno _ refused) ?_ recorded)
      rw [param]
      rfl
    · have unblocked : outcome.fcntl.isOk = true :=
        Decidable.not_not.mp fun refused => succeeded ((answer_negative_iff _ _).mpr refused)
      refine ready_seen isClosed grants unblocked ?_ recorded ?_
      · rw [param]
        rfl
      · rw [param]
        exact isOpened_of_nonneg valid

theorem init_seen {spp : SpProp} {precvData : Option IrecvData} :
    PortAlone (init spp precvData) (fun value after =>
      value = (SpParamsCheck.getInstance .linux).isRight spp ∧
        { port with param := { port.param with spp := after.param.spp } }.Same after ∧
        after.param.spp = if value = 0 then spp else port.param.spp) port := by
  refine Prog.Alone.ite (fun refused => ?_) fun accepted => ?_
  · exact ⟨rfl, ⟨rfl, rfl, rfl, rfl⟩, (if_neg refused).symm⟩
  have zero : (SpParamsCheck.getInstance .linux).isRight spp = 0 := Decidable.not_not.mp accepted
  refine seen_store (Prog.Alone.ite (fun _ => seen_store ?_) fun _ => ?_)
  · exact ⟨rfl, ⟨rfl, rfl, rfl, rfl⟩, (if_pos zero).symm⟩
  · exact ⟨rfl, ⟨rfl, rfl, rfl, rfl⟩, (if_pos zero).symm⟩

theorem send_seen {pdata : Option (List UInt8)} {outcome : Except Errno Nat} :
    PortAlone (send pdata outcome) (fun _ after => port.Same after) port := by
  have same : port.Same port := ⟨rfl, rfl, rfl, rfl⟩
  cases pdata with
  | none => exact same
  | some data =>
      refine Prog.Alone.ite (fun _ => same) fun _ => ⟨trivial, ?_⟩
      intro _ _ same
      subst same
      refine seen_isOpened (Prog.Alone.ite (fun _ => same) fun _ => seen_load ⟨trivial, ?_⟩)
      intro _ _ post
      obtain ⟨errno, sent, rfl⟩ := post
      refine ⟨trivial, ?_⟩
      intro _ _ same
      subst same
      exact ⟨rfl, rfl, rfl, rfl⟩

theorem destroy_seen :
    PortAlone destroy (fun _ after => port.Shut after) port := by
  refine seen_isOpened (Prog.Alone.ite (fun _ => ?_) fun notOpened => ?_)
  · exact close_seen.bind fun _ _ closed => closed.1
  · exact ⟨by simpa using notOpened, rfl, rfl⟩

theorem runOperation_seen (operation : Operation) :
    PortAlone (runOperation libc operation) (fun value after => Seen libc port value after operation)
      port := by
  cases operation with
  | init spp precvData =>
      refine init_seen.bind ?_
      intro value after post
      obtain ⟨rfl, same, stored⟩ := post
      exact ⟨rfl, same, by simpa using stored⟩
  | «open» outcome => exact open_seen.bind fun value after seen => ⟨value, rfl, seen⟩
  | close =>
      refine close_seen.bind ?_
      intro value after post
      obtain ⟨shut, rfl⟩ := post
      exact ⟨shut, rfl⟩
  | setReadNotify len =>
      have kept : PortAlone (setReadNotify len) (fun _ after => port.Same after) port :=
        Prog.Alone.ite (fun _ => seen_store ⟨rfl, rfl, rfl, rfl⟩) fun _ =>
          seen_store ⟨rfl, rfl, rfl, rfl⟩
      exact kept.bind fun _ _ same => same
  | isOpened => exact seen_isOpened ⟨rfl, rfl, rfl, rfl, rfl⟩
  | send pdata outcome => exact send_seen.bind fun _ _ same => same
  | destroy => exact destroy_seen.bind fun _ _ destroyed => destroyed

end Operations

/-! ## The record of the calls -/

/-- The settings that the latest successful `init` stored. -/
def lastSettings : List (Operation × Value) → SpProp
  | [] => SpProp.zero
  | (.init spp _, value) :: earlier => if value = .code 0 then spp else lastSettings earlier
  | _ :: earlier => lastSettings earlier

/-- By its record the port is open: an `open` returned 0 and no `close` since. -/
def opened : List (Operation × Value) → Bool
  | [] => false
  | (.open _, value) :: earlier => if value = .code 0 then true else opened earlier
  | (.close, _) :: _ | (.destroy, _) :: _ => false
  | _ :: earlier => opened earlier

/-- The settings stored when the latest successful `open` was called. -/
def openedWith : List (Operation × Value) → SpProp
  | [] => SpProp.zero
  | (.open _, value) :: earlier =>
      if value = .code 0 then lastSettings earlier else openedWith earlier
  | _ :: earlier => openedWith earlier

/-- The termios that the latest successful `open` found. -/
def openedOn : List (Operation × Value) → Option Termios
  | [] => none
  | (.open outcome, value) :: earlier =>
      if value = .code 0 then outcome.tcgetattr.toOption else openedOn earlier
  | _ :: earlier => openedOn earlier

/-- Between two operations the port is what the record of its calls says. -/
structure Recorded (libc : SpeedSetters) (port : Port) : Prop where
  spp : port.param.spp = lastSettings port.history
  isOpened : port.param.isOpened = opened port.history
  handed : opened port.history = true → ∃ prior, openedOn port.history = some prior ∧
    port.handed = some (portOptions libc (openedWith port.history) prior)

theorem recorded_start (libc : SpeedSetters) : Recorded libc Port.start where
  spp := rfl
  isOpened := rfl
  handed isOpened := by cases isOpened

/-- The record with the operation that has just returned. -/
def Port.record (port : Port) (operation : Operation) (value : Value) : Port :=
  { port with history := (operation, value) :: port.history }

theorem Seen.history {libc : SpeedSetters} {port after : Port} {operation : Operation}
    {value : Value} (seen : Seen libc port value after operation) :
    after.history = port.history := by
  cases operation with
  | init spp precvData => exact seen.2.1.history
  | «open» outcome =>
      obtain ⟨code, -, seen⟩ := seen
      cases seen with
      | already isOpened negative same => exact same.history
      | opened opens zero isOpened spp history => exact history
      | failed isClosed fails nonzero shut => exact shut.history
  | close => exact seen.1.history
  | isOpened => exact seen.2.history
  | destroy => exact Port.Shut.history seen
  | setReadNotify | send => exact Port.Same.history seen

namespace Recorded

variable {libc : SpeedSetters} {port ended : Port} {operation : Operation} {value : Value}

/-- An operation that leaves the device alone. -/
private theorem of_same (recorded : Recorded libc port) (fd : ended.param.fd = port.param.fd)
    (handed : ended.handed = port.handed) (history : ended.history = port.history)
    (spp : ended.param.spp = lastSettings ((operation, value) :: port.history))
    (openedSame : opened ((operation, value) :: port.history) = opened port.history)
    (openedWithSame :
      openedWith ((operation, value) :: port.history) = openedWith port.history)
    (openedOnSame : openedOn ((operation, value) :: port.history) = openedOn port.history) :
    Recorded libc (ended.record operation value) where
  spp := by
    rw [Port.record, history]
    exact spp
  isOpened := by
    rw [Port.record, history, openedSame, ← recorded.isOpened, SpParamLinux.isOpened, fd,
      SpParamLinux.isOpened]
  handed := by
    rw [Port.record, history, openedSame, openedWithSame, openedOnSame, handed]
    exact recorded.handed

/-- An operation that leaves the port closed. -/
private theorem of_shut (recorded : Recorded libc port) (shut : port.Shut ended)
    (lastSettingsSame : lastSettings ((operation, value) :: port.history) = lastSettings port.history)
    (isClosed : opened ((operation, value) :: port.history) = false) :
    Recorded libc (ended.record operation value) where
  spp := by
    rw [Port.record, shut.history, lastSettingsSame, ← recorded.spp]
    exact shut.spp
  isOpened := by
    rw [Port.record, shut.history, isClosed]
    exact shut.isClosed
  handed isOpened := by
    rw [Port.record, shut.history, isClosed] at isOpened
    cases isOpened

theorem record (recorded : Recorded libc port) (seen : Seen libc port value ended operation) :
    Recorded libc (ended.record operation value) := by
  cases operation with
  | init spp precvData =>
      obtain ⟨-, same, stored⟩ := seen
      refine recorded.of_same same.fd same.handed same.history ?_ rfl rfl rfl
      rw [stored, lastSettings, recorded.spp]
  | «open» outcome =>
      obtain ⟨code, rfl, seen⟩ := seen
      cases seen with
      | already isOpened negative same =>
          subst negative
          exact recorded.of_same same.fd same.handed same.history (same.spp.trans recorded.spp)
            (by simp [opened]) (by simp [openedWith]) (by simp [openedOn])
      | opened opens zero isOpened spp history prior answered handed =>
          subst zero
          refine ⟨?_, ?_, fun _ => ⟨prior, ?_, ?_⟩⟩
          · simp [Port.record, spp, history, lastSettings, recorded.spp]
          · simp [Port.record, isOpened, opened]
          · simp [Port.record, history, openedOn, answered, Except.toOption]
          · simp [Port.record, handed, history, openedWith, recorded.spp]
      | failed isClosed fails nonzero shut =>
          refine recorded.of_shut shut rfl ?_
          simp [opened, nonzero, ← recorded.isOpened, isClosed]
  | close => exact recorded.of_shut seen.1 rfl rfl
  | destroy => exact recorded.of_shut seen rfl rfl
  | isOpened =>
      obtain ⟨-, same⟩ := seen
      exact recorded.of_same same.fd same.handed same.history (same.spp.trans recorded.spp) rfl rfl
        rfl
  | setReadNotify | send =>
      have same : port.Same ended := seen
      exact recorded.of_same same.fd same.handed same.history (same.spp.trans recorded.spp) rfl rfl
        rfl

end Recorded

/-! ## Runs -/

section Runs

variable {libc : SpeedSetters} {condition : Condition Tid State Effect Job} {exact strict : Prop}

/-- What is established of the client: its record, and what its last call did. -/
def session (libc : SpeedSetters) : Account Port Effect Job Result where
  ready := Recorded libc
  point _ _ _ _ := True
  post job port result after := Recorded libc port ∧ ∃ operation value ended,
    job = .operation operation ∧ result = .value value ∧
      Seen libc port value ended operation ∧ after = ended.record operation value

theorem session_holds :
    (session libc).Holds (system libc) condition (.client 0) State.port Effect.look where
  start := recorded_start libc
  body {job last s} recorded admitted _ := by
    cases job with
    | iteration hasReadBytes outcome => cases admitted
    | operation operation =>
        refine (runOperation_seen operation).bind fun value ended seen => ⟨trivial, ?_⟩
        intro _ _ same
        subst same
        exact ⟨recorded, operation, value, ended, rfl, rfl, seen, rfl⟩
  returned := by
    intro job port result after post
    obtain ⟨recorded, operation, value, ended, rfl, rfl, seen, rfl⟩ := post
    exact recorded.record seen

variable {config : Config Tid State Effect Effect.Reply Job Result}

theorem recorded_of_reachable (assumes : Assumes condition exact strict)
    (reachable : (system libc).Reachable condition config) {last : Option Result}
    (idle : config.idle? (.client 0) = some last) : Recorded libc config.state.port :=
  Account.ready_of_reachable (client_sole libc assumes) session_holds reachable idle

theorem seen_of_reachable (assumes : Assumes condition exact strict)
    (reachable : (system libc).Reachable condition config)
    {call : Call State Effect Effect.Reply Job Result} {operation : Operation} {value : Value}
    (calls : config.calls (.client 0) = some call) (job : call.job = .operation operation)
    (returned : call.Returned (.value value)) :
    ∃ ended, Seen libc call.entry.port value ended operation ∧
      config.state.port = ended.record operation value := by
  obtain ⟨-, _, _, ended, same, result, seen, after⟩ := Account.post_of_reachable
    (client_sole libc assumes) session_holds reachable calls returned
  rw [job] at same
  cases same
  cases result
  exact ⟨ended, seen, after⟩

end Runs

end LibSp.Linux
