import LibSp.Windows.Process
import LibSp.Windows.Send
import LibSp.Concurrent.Turns

/-!
# The loggers of a Windows process

All objects of a process log under one name. `spdlog` registers a name once, until some
object's destructor shuts the library down.
-/

set_option autoImplicit false

namespace LibSp.Windows

open Concurrent

/-! ## What the process knows of loggers -/

/-- The settings are taken and ask for a logger. -/
def asksForLogger (spp : SpProp) : Bool :=
  (SpParamsCheck.getInstance .windows).isRight spp = 0 && spp.isToLog

/-- Whether the name is registered; which objects have stored settings that ask for a
logger, and which have one. -/
structure Logging where
  registered : Bool
  logs : Nat → Bool
  plogs : Nat → Bool

def logging (fleet : ProcessState) : Logging where
  registered := fleet.shared.registered
  logs object := (fleet.objects object).param.spp.isToLog
  plogs object := (fleet.objects object).param.plog

/-- What an effect of the object does to the loggers. -/
def Logging.after (part : Logging) (object : Nat) : Effect → Logging
  | .store .spp value => { part with logs := assign part.logs object value.isToLog }
  | .store .plog value => { part with plogs := assign part.plogs object value }
  | .rotatingLogger => { part with registered := true }
  | .spdlogShutdown => { part with registered := false }
  | _ => part

/-- An `init` that asks for a logger is called only while the name is free. -/
def unregistered : Condition Tid ProcessState ProcessAct ProcessJob where
  begins _ _ _ := true
  acts _ _ act fleet :=
    match act with
    | .mark (.calls _ (.init spp _)) => !(asksForLogger spp && fleet.shared.registered)
    | _ => true

def lookLogging : (act : ProcessAct) → Logging → act.Answer → Logging → Prop
  | .on object (.load .spp), part, reply, after => after = part ∧ reply.isToLog = part.logs object
  | .on object effect, part, _, after => after = part.after object effect
  | .mark (.calls _ (.init spp _)), part, _, after =>
      after = part ∧ (asksForLogger spp = true → part.registered = false)
  | .mark _, part, _, after => after = part

/-- The name is registered only while it is free, and an `init` that has asked for a logger
returns with one. -/
def pointLogging : ProcessAct → Logging → Prop
  | .on _ .rotatingLogger, part => part.registered = false
  | .on object (.returned (.init spp _) value), part =>
      value = .code 0 → spp.isToLog = true → part.plogs object = true
  | _, _ => True

theorem logging_put (fleet : ProcessState) (object : Nat) (s : State) :
    logging (fleet.put sharing object s) = ⟨s.registered,
      assign (logging fleet).logs object s.param.spp.isToLog,
      assign (logging fleet).plogs object s.param.plog⟩ := by
  simp only [logging, Fleet.put, sharing]
  rw [assign_map fleet.objects object s fun s => s.param.spp.isToLog,
    assign_map fleet.objects object s fun s => s.param.plog]

/-- What an object neither stores nor registers stays as it is. -/
theorem logging_same (fleet : ProcessState) (object : Nat) (registered : Bool) :
    (⟨registered, assign (logging fleet).logs object ((logging fleet).logs object),
      assign (logging fleet).plogs object ((logging fleet).plogs object)⟩ : Logging) =
        { logging fleet with registered := registered } := by
  rw [assign_same, assign_same]

theorem exec_after {thread : Tid} {object : Nat} {effect : Effect} {fleet : ProcessState}
    {s : State} {reply : effect.Reply}
    (executed : exec thread effect (fleet.view sharing object) = some (reply, s)) :
    logging (fleet.put sharing object s) = (logging fleet).after object effect := by
  have param : s.param = (effect.update thread (fleet.view sharing object).members).param :=
    congrArg Members.param (exec_members executed)
  rw [logging_put, (exec_updates executed).2, param]
  have keepsLogs : assign (logging fleet).logs object ((logging fleet).logs object) =
      (logging fleet).logs := assign_same ..
  have keepsPlogs : assign (logging fleet).plogs object ((logging fleet).plogs object) =
      (logging fleet).plogs := assign_same ..
  have same := logging_same fleet object
  cases effect with
  | store field value =>
      cases field with
      | spp => exact congrArg (Logging.mk _ _) keepsPlogs
      | plog => exact congrArg (Logging.mk _ · _) keepsLogs
      | _ => exact same _
  | createFile name overlapped outcome queued => cases outcome <;> exact same _
  | beginthreadex outcome => cases outcome <;> exact same _
  | _ => exact same _

theorem exec_logging {thread : Tid} {job : ProcessJob} {act : ProcessAct}
    {fleet after : ProcessState} {reply : act.Answer}
    (permitted : unregistered.acts thread job act fleet = true)
    (executed : process.exec thread act fleet = some (reply, after)) :
    lookLogging act (logging fleet) reply (logging after) := by
  cases act with
  | mark mark =>
      cases executed
      cases mark with
      | constructs | constructed => rfl
      | calls object operation =>
          cases operation with
          | init spp precvData =>
              refine ⟨rfl, fun asks => ?_⟩
              have free : (!(asksForLogger spp && fleet.shared.registered)) = true := permitted
              simpa [asks, logging] using free
          | _ => rfl
  | on object effect =>
      obtain ⟨s, ran, rfl⟩ := Fleet.exec_on executed
      have changed := exec_after ran
      cases effect with
      | load field =>
          cases field with
          | spp =>
              cases ran
              exact ⟨changed, rfl⟩
          | _ => exact changed
      | _ => exact changed

/-! ## What the jobs do about loggers -/

/-- What all operations but `init` keep to. -/
def Effect.plain : Effect → Bool
  | .rotatingLogger | .store .plog _ | .returned (.init ..) _ => false
  | _ => true

/-- What neither touches the loggers of the process nor tells of an `init`. -/
def ProcessAct.apart : ProcessAct → Bool
  | .on _ (.store .spp _) | .on _ (.store .plog _) | .on _ .rotatingLogger
  | .on _ .spdlogShutdown | .on _ (.returned (.init ..) _) => false
  | _ => true

theorem pointLogging_plain {object : Nat} {effect : Effect} {part : Logging}
    (plain : effect.plain = true) : pointLogging (.on object effect) part := by
  cases effect with
  | rotatingLogger => cases plain
  | returned operation value =>
      cases operation with
      | init => cases plain
      | _ => trivial
  | _ => trivial

theorem runOperation_plain {operation : Operation}
    (other : ∀ spp precvData, operation ≠ .init spp precvData) :
    (runOperation operation).Only fun effect => effect.plain = true := by
  cases routine : operation.routine with
  | true =>
      refine (runOperation_routine routine).mono fun effect routine => ?_
      cases effect with
      | store field value => cases field <;> first | rfl | cases routine
      | rotatingLogger | returned => cases routine
      | _ => rfl
  | false =>
      cases operation with
      | init spp precvData => exact absurd rfl (other spp precvData)
      | «open» outcome =>
          have ordinary : Ordinary (runOperation (.open outcome)) :=
            (open_only fun _ => ordinary_of_opens).bind fun _ => trivial
          refine ordinary.mono fun effect ordinary => ?_
          cases effect with
          | store field value => cases field <;> first | rfl | cases ordinary
          | rotatingLogger | returned => cases ordinary
          | _ => rfl
      | _ => cases routine

/-- All operations but `init`. -/
theorem runJob_plain {operation : Operation}
    (other : ∀ spp precvData, operation ≠ .init spp precvData) :
    (runJob (.operation operation)).Only fun effect => effect.plain = true := by
  refine (runOperation_plain other).bind fun value => ⟨?_, fun _ => trivial⟩
  cases operation with
  | init spp precvData => exact absurd rfl (other spp precvData)
  | _ => rfl

abbrev LogsAlone {α : Type} (program : ProcessCode α) (post : α → Logging → Prop)
    (part : Logging) : Prop :=
  program.Alone lookLogging pointLogging post part

/-- A program that keeps to plain effects meets every point. -/
theorem logsAlone_of_plain {α : Type} {object : Nat} {program : Code α}
    (plain : program.Only fun effect => effect.plain = true) {post : α → Logging → Prop}
    (ends : ∀ value part, post value part) {part : Logging} :
    LogsAlone (program.on Mark object) post part := by
  have walked : (program.on Mark object).Alone lookLogging pointLogging (fun _ _ => True) part :=
    Prog.Alone.on (Prog.Alone.of_only (fun _ _ plain _ => pointLogging_plain plain)
      (fun _ _ _ _ _ _ _ => trivial) plain trivial)
  exact walked.mono fun value after _ => ends value after

/-- The value of an `init` is a code. -/
def Coded (job : ProcessJob) (result : Result) : Prop :=
  ∀ object spp precvData, job = .on object (.operation (.init spp precvData)) →
    ∃ code, result = .value (.code code)

section Init

variable {object : Nat} {spp : SpProp} {precvData : Option IrecvData} {part : Logging}
  (free : asksForLogger spp = true → part.registered = false)
include free

/-- An `init` that finds the name free, if it asks for a logger, has one in the end. -/
theorem init_logs :
    (init spp precvData).Alone (fun effect => lookLogging (.on object effect))
      (fun effect => pointLogging (.on object effect))
      (fun code after => code = 0 → spp.isToLog = true → after.plogs object = true) part := by
  refine Prog.Alone.ite (fun refused zero => absurd zero refused) fun taken => ?_
  have accepted := Decidable.not_not.mp taken
  have logs : ∀ code : Int, Prog.Alone (fun effect => lookLogging (.on object effect))
      (fun effect => pointLogging (.on object effect))
      (do
        store .isInit true
        if (← load .spp).isToLog then
          perform .rotatingLogger
          store .plog true
        return code : Code Int)
      (fun code after => code = 0 → spp.isToLog = true → after.plogs object = true)
      (part.after object (.store .spp spp)) := by
    intro code
    refine ⟨trivial, fun _ _ kept => ⟨trivial, fun loaded _ read => ?_⟩⟩
    cases kept
    obtain ⟨rfl, loads⟩ := read
    have asked : loaded.isToLog = spp.isToLog := loads.trans (assign_self ..)
    refine Prog.Alone.ite (fun asks => ?_) fun quiet _ log => absurd (asked.trans log) quiet
    have known : asksForLogger spp = true := by simp [asksForLogger, accepted, asked.symm.trans asks]
    refine ⟨free known, fun _ _ registers => ⟨trivial, fun _ _ gets => ?_⟩⟩
    cases registers
    cases gets
    exact fun _ _ => assign_self ..
  refine ⟨trivial, fun _ _ put => ?_⟩
  cases put
  refine Prog.Alone.ite (fun _ => ⟨trivial, fun _ _ kept => ?_⟩) fun _ => logs _
  cases kept
  exact logs _

theorem runInit_logs :
    LogsAlone ((runJob (.operation (.init spp precvData))).on Mark object)
      (fun result _ => ∃ code, result = .value (.code code)) part := by
  have coded : (runOperation (.init spp precvData)).Alone
      (fun effect => lookLogging (.on object effect))
      (fun effect => pointLogging (.on object effect))
      (fun value after => (∃ code, value = .code code) ∧
        (value = .code 0 → spp.isToLog = true → after.plogs object = true)) part :=
    (init_logs free).bind fun code after logs =>
      ⟨⟨code, rfl⟩, fun zero => logs (Value.code.inj zero)⟩
  refine Prog.Alone.on (coded.bind fun value after done => ⟨done.2, fun _ _ _ => ?_⟩)
  obtain ⟨code, rfl⟩ := done.1
  exact ⟨code, rfl⟩

end Init

/-! ## Sequences of calls -/

/-- The calls of the clients follow one another. -/
def callTurns : Turns ProcessJob ProcessAct where
  enters _ act :=
    match act with
    | .mark (.constructs _) | .mark (.calls ..) => true
    | _ => false
  alone _ := true

/-- The thread of a program on the loggers, while the others leave them alone. -/
theorem logsAmid_of_alone {α : Type} {program : ProcessCode α} {post : α → Prop}
    (alone : ∀ part, LogsAlone program (fun value _ => post value) part) (part : Logging)
    (_ : True) :
    program.Amid (fun part now => now = part) lookLogging pointLogging
      (fun value _ => post value ∧ True) part := by
  have amid := Prog.Amid.of_alone id (fun _ _ same => same) (fun _ _ _ _ looked => looked)
    (alone part)
  exact amid.mono fun _ _ holds => ⟨holds, trivial⟩

/-- A client's job begins with its mark. -/
theorem client_entering {job : ProcessJob}
    (client : ∀ object job', job = .on object job' → ∃ operation, job' = .operation operation) :
    (runProcessJob job).Entering (callTurns.enters job) ProcessAct.apart fun program =>
      ∀ part, True → program.Amid (fun part now => now = part) lookLogging pointLogging
        (fun result _ => Coded job result ∧ True) part := by
  cases job with
  | create object =>
      refine .enter rfl (logsAmid_of_alone fun part => ⟨trivial, fun _ begun _ => ?_⟩)
      have plain : construct.Only fun effect => effect.plain = true :=
        ⟨rfl, fun _ => ⟨rfl, fun _ => ⟨rfl, fun _ => trivial⟩⟩⟩
      have constructs : LogsAlone (construct.on Mark object) (fun _ _ => True) begun :=
        logsAlone_of_plain plain fun _ _ => trivial
      exact constructs.bind fun _ _ _ => ⟨trivial, fun _ _ _ => nofun⟩
  | on object job =>
      obtain ⟨operation, rfl⟩ := client object job rfl
      refine .enter rfl (logsAmid_of_alone fun part => ⟨trivial, fun _ begun called => ?_⟩)
      by_cases inits : ∃ spp precvData, operation = .init spp precvData
      · obtain ⟨spp, precvData, rfl⟩ := inits
        obtain ⟨rfl, free⟩ := called
        exact (runInit_logs free).mono fun result after coded _ _ _ _ => coded
      · have other : ∀ spp precvData, operation ≠ .init spp precvData :=
          fun spp precvData same => inits ⟨spp, precvData, same⟩
        refine logsAlone_of_plain (runJob_plain other) fun result after object' spp precvData same => ?_
        cases same
        exact absurd rfl (other spp precvData)

theorem apart_of_monitors {object : Nat} {effect : Effect} (monitors : effect.monitors = true) :
    ProcessAct.apart (.on object effect) = true := by
  cases effect with
  | store field value => cases field <;> first | rfl | cases monitors
  | rotatingLogger | spdlogShutdown | returned => cases monitors
  | _ => rfl

theorem after_of_apart {object : Nat} {effect : Effect} {part : Logging}
    (apart : ProcessAct.apart (.on object effect) = true) : part.after object effect = part := by
  cases effect with
  | store field value => cases field <;> first | rfl | cases apart
  | rotatingLogger | spdlogShutdown => cases apart
  | _ => rfl

/-- What keeps apart from the loggers leaves them alone. -/
theorem exec_apart_logging {thread : Tid} {act : ProcessAct} {fleet after : ProcessState}
    {reply : act.Answer} (apart : act.apart = true)
    (executed : process.exec thread act fleet = some (reply, after)) :
    logging after = logging fleet := by
  cases act with
  | mark mark =>
      cases executed
      rfl
  | on object effect =>
      obtain ⟨s, ran, rfl⟩ := Fleet.exec_on executed
      exact (exec_after ran).trans (after_of_apart apart)

theorem external_logging {event : Nat × Event} {fleet after : ProcessState}
    (changed : process.external event fleet = some after) : logging after = logging fleet := by
  obtain ⟨object, event⟩ := event
  obtain ⟨s, arrived, rfl⟩ := Option.map_eq_some_iff.mp changed
  replace arrived : system.external event (fleet.view sharing object) = some s := arrived
  have registered : s.registered = fleet.shared.registered := by
    cases event with
    | arrived bytes =>
        cases arrived
        rfl
    | completed block => exact (completeBlock_transferred _ arrived).registered
  have param : s.param = (fleet.objects object).param :=
    congrArg Members.param (external_members arrived)
  rw [logging_put, registered, param]
  exact logging_same fleet object _

theorem call_fair : callTurns.Fair process unregistered (fun act => !act.apart) ProcessAct.apart
    (fun _ => logging) (fun _ => True) (fun _ part now => now = part) lookLogging
    (fun _ => pointLogging) Coded where
  harmless apart := by simp [apart]
  refl _ _ := rfl
  trans early late := late.trans early
  begins _ := trivial
  agree _ := trivial
  mine permitted executed := exec_logging permitted executed
  apart unaltered _ _ executed := exec_apart_logging (by simpa using unaltered) executed
  keeps _ _ _ := trivial
  external changed := external_logging changed
  rests _ _ := trivial
  body {thread last fleet job} admitted := by
    cases thread with
    | client number =>
        have client : ∀ object job', job = .on object job' →
            ∃ operation, job' = .operation operation := by
          intro object job' same
          subst same
          have calls := (Bool.and_eq_true_iff.mp admitted).2
          cases job' with
          | operation operation => exact ⟨operation, rfl⟩
          | enter | iteration => cases calls
        exact client_entering client
    | worker number =>
        cases job with
        | create object => cases admitted
        | on object job =>
            have works := (Bool.and_eq_true_iff.mp admitted).2
            have monitors := runJob_monitors works
            have outside : (runJob job).Only fun effect =>
                callTurns.enters (.on object job) (.on object effect) = false ∧
                  ProcessAct.apart (.on object effect) = true :=
              monitors.mono fun effect monitors => ⟨rfl, apart_of_monitors monitors⟩
            cases job with
            | enter | iteration => exact .of_only (Prog.Only.on outside)
            | operation operation =>
                rcases last with _ | (value | (_ | _)) <;> cases works
  shared _ shares := by cases shares

section Runs

variable {config : Config Tid ProcessState ProcessAct ProcessAct.Answer ProcessJob Result}

/-- Every call stands at its point. -/
theorem pointLogging_of_next
    (leads : process.Leads (callTurns.within unregistered) process.initial config) {thread : Tid}
    {call : Call ProcessState ProcessAct ProcessAct.Answer ProcessJob Result} {act : ProcessAct}
    (calls : config.calls thread = some call) (standing : call.Next act) :
    pointLogging act (logging config.state) := by
  by_cases entered : call.Entered callTurns
  · exact Turns.point_of_inTurn call_fair leads calls entered standing
  · cases act with
    | mark mark => trivial
    | on object effect =>
        have apart := Turns.outside_of_waiting call_fair leads calls entered standing rfl
        cases effect with
        | rotatingLogger => cases apart
        | returned operation value =>
            cases operation with
            | init => cases apart
            | _ => trivial
        | _ => trivial

theorem keepsLogger_of_plain {program : Code Result}
    (plain : program.Only fun effect => effect.plain = true) :
    program.Only fun effect => effect ≠ .store .plog false := by
  refine plain.mono fun effect plain same => ?_
  subst same
  cases plain

/-- No job takes a logger away. -/
theorem runProcessJob_keepsLogger {thread : Tid} {last : Option Result} {fleet : ProcessState}
    {job : ProcessJob} (admitted : admitsProcess thread last fleet job = true) :
    (runProcessJob job).Only fun act => ∀ object, act ≠ .on object (.store .plog false) := by
  have lifted : ∀ (object : Nat) {program : Code Result},
      (program.Only fun effect => effect ≠ .store .plog false) →
      (program.on Mark object).Only fun act => ∀ other, act ≠ .on other (.store .plog false) := by
    intro object program only
    refine Prog.Only.on (only.mono fun effect keeps other same => keeps ?_)
    cases same
    rfl
  cases job with
  | create object => exact ⟨nofun, fun _ => ⟨nofun, fun _ => ⟨nofun, fun _ => ⟨nofun, fun _ =>
      ⟨nofun, fun _ => trivial⟩⟩⟩⟩⟩
  | on object job =>
      cases job with
      | operation operation =>
          refine ⟨nofun, fun _ => lifted object ?_⟩
          by_cases inits : ∃ spp precvData, operation = .init spp precvData
          · obtain ⟨spp, precvData, rfl⟩ := inits
            have coded : (runOperation (.init spp precvData)).Only fun effect =>
                effect ≠ .store .plog false :=
              Prog.Only.bind (init_only fun _ _ keeps _ => keeps) fun _ => trivial
            exact coded.bind fun _ => ⟨nofun, fun _ => trivial⟩
          · exact keepsLogger_of_plain
              (runJob_plain fun spp precvData same => inits ⟨spp, precvData, same⟩)
      | enter | iteration =>
          have works := (Bool.and_eq_true_iff.mp admitted).2
          cases thread with
          | client number => cases works
          | worker number =>
              refine lifted object ((runJob_monitors works).mono fun effect monitors same => ?_)
              subst same
              cases monitors

/-- What has returned from an `init` that asked for a logger has one. -/
def Logged (fleet : ProcessState) : Prop :=
  ∀ object spp precvData,
    (Operation.init spp precvData, Value.code 0) ∈ (fleet.objects object).history →
    spp.isToLog = true → (fleet.objects object).param.plog = true

theorem logged_put {thread : Tid} {object : Nat} {effect : Effect} {fleet : ProcessState}
    {s : State} {reply : effect.Reply} (logged : Logged fleet)
    (ran : exec thread effect (fleet.view sharing object) = some (reply, s))
    (keeps : effect ≠ .store .plog false)
    (pointed : pointLogging (.on object effect) (logging fleet)) :
    Logged (fleet.put sharing object s) := by
  intro other spp precvData member log
  have members := exec_members ran
  have param : s.param = (effect.update thread (fleet.view sharing object).members).param :=
    congrArg Members.param members
  have history : s.history = (effect.update thread (fleet.view sharing object).members).history :=
    congrArg Members.history members
  by_cases same : other = object
  · subst same
    simp only [Fleet.put, assign_self] at member ⊢
    rw [history] at member
    rw [param]
    have before : (Operation.init spp precvData, Value.code 0) ∈ (fleet.objects other).history →
        (fleet.objects other).param.plog = true := fun member =>
      logged other spp precvData member log
    cases effect with
    | store field value =>
        cases field with
        | plog =>
            cases value with
            | true => rfl
            | false => exact absurd rfl keeps
        | _ => exact before member
    | returned operation value =>
        rcases List.mem_cons.mp member with latest | earlier
        · cases latest
          exact pointed rfl log
        · exact before earlier
    | createFile name overlapped outcome queued => cases outcome <;> exact before member
    | beginthreadex outcome => cases outcome <;> exact before member
    | _ => exact before member
  · simp only [Fleet.put, assign_other _ _ _ same] at member ⊢
    exact logged other spp precvData member log

theorem logged_event {object : Nat} {fleet : ProcessState} {s : State} (logged : Logged fleet)
    (members : s.members = (fleet.view sharing object).members) :
    Logged (fleet.put sharing object s) := by
  intro other spp precvData member log
  by_cases same : other = object
  · subst same
    have param : s.param = (fleet.objects other).param := congrArg Members.param members
    have history : s.history = (fleet.objects other).history := congrArg Members.history members
    simp only [Fleet.put, assign_self] at member ⊢
    rw [history] at member
    rw [param]
    exact logged other spp precvData member log
  · simp only [Fleet.put, assign_other _ _ _ same] at member ⊢
    exact logged other spp precvData member log

theorem logged_of_leads
    (leads : process.Leads (callTurns.within unregistered) process.initial config) :
    Logged config.state := by
  induction leads with
  | here => exact fun _ _ _ member => nomatch member
  | @step config next label earlier ruled stepped ih =>
      rcases Machine.step_cases stepped with
        ⟨actor, job, last, rfl, idle, admitted, rfl⟩ |
        ⟨actor, job, entry, past, act, rest, reply, state, rfl, calls, executed, rfl⟩ |
        ⟨event, state, rfl, changed, rfl⟩
      · exact ih
      · have reachable : process.Reachable unregistered config :=
          earlier.reachable (fun _ _ ruled => ruled.1) .start
        have keeps := (reachable.only (fun _ _ _ admitted => runProcessJob_keepsLogger admitted)
          calls).1
        have pointed := pointLogging_of_next earlier calls ⟨rest, rfl⟩
        cases act with
        | mark mark =>
            cases executed
            exact ih
        | on object effect =>
            obtain ⟨s, ran, rfl⟩ := Fleet.exec_on executed
            refine logged_put ih ran (fun same => ?_) pointed
            subst same
            exact keeps object rfl
      · obtain ⟨object, event⟩ := event
        obtain ⟨s, arrived, rfl⟩ := Option.map_eq_some_iff.mp changed
        exact logged_event ih (external_members arrived)

/-! ## The return of `init` -/

theorem init_initial {spp : SpProp} {precvData : Option IrecvData} :
    (runJob (.operation (.init spp precvData))).Only fun effect => effect.initial = true := by
  have coded : (runOperation (.init spp precvData)).Only fun effect => effect.initial = true :=
    Prog.Only.bind (init_only fun _ initial _ _ => initial) fun _ => trivial
  exact coded.bind fun _ => ⟨rfl, fun _ => trivial⟩

/-- Only a registration can fail. -/
theorem exec_initial {thread : Tid} {effect : Effect} {s : State} (initial : effect.initial = true)
    (free : effect = .rotatingLogger → s.registered = false) :
    ∃ reply after, exec thread effect s = some (reply, after) := by
  cases effect with
  | load | store | returned => exact ⟨_, _, rfl⟩
  | rotatingLogger => exact ⟨(), { s with registered := true }, by simp [exec, free rfl]⟩
  | _ => cases initial

variable {thread : Tid} {object : Nat} {spp : SpProp} {precvData : Option IrecvData}

/-- An `init` that has been called goes on with its own effects. -/
theorem initial_of_entered
    (leads : process.Leads (callTurns.within unregistered) process.initial config)
    {call : Call ProcessState ProcessAct ProcessAct.Answer ProcessJob Result}
    (calls : config.calls thread = some call)
    (job : call.job = .on object (.operation (.init spp precvData)))
    (entered : call.Entered callTurns) :
    call.prog.Only fun act => ∃ effect : Effect, act = .on object effect ∧ effect.initial = true := by
  have reachable : process.Reachable unregistered config :=
    leads.reachable (fun _ _ ruled => ruled.1) .start
  have lifted : ((runJob (.operation (.init spp precvData))).on Mark object).Only fun act =>
      ∃ effect : Effect, act = .on object effect ∧ effect.initial = true :=
    Prog.Only.on (init_initial.mono fun effect initial => ⟨effect, rfl, initial⟩)
  have kept := reachable.of_call (fun call => call.job = .on object (.operation (.init spp precvData)) →
      call.past = [] ∧ call.prog = runProcessJob call.job ∨
      call.prog.Only fun act => ∃ effect : Effect, act = .on object effect ∧ effect.initial = true)
    (fun _ _ _ _ _ _ => .inl ⟨rfl, rfl⟩)
    (fun job entry past act rest reply kept same => by
      rcases kept same with ⟨-, program⟩ | only
      · cases same
        cases program
        exact .inr lifted
      · exact .inr (only.2 reply)) calls job
  rcases kept with ⟨nothing, -⟩ | only
  · obtain ⟨performed, member, -⟩ := entered
    rw [nothing] at member
    cases member
  · exact only

/-- An `init` that has been called returns a code when its thread goes on. -/
theorem init_returns
    (leads : process.Leads (callTurns.within unregistered) process.initial config)
    {call : Call ProcessState ProcessAct ProcessAct.Answer ProcessJob Result}
    (calls : config.calls thread = some call)
    (job : call.job = .on object (.operation (.init spp precvData)))
    (entered : call.Entered callTurns) :
    ∃ count later ended code,
      process.steps .always config (List.replicate count (.act thread)) = some later ∧
      later.calls thread = some ended ∧ ended.Returned (.value (.code code)) := by
  obtain ⟨request, entry, past, program⟩ := call
  induction program generalizing config past with
  | ret value =>
      have coded : Coded request value :=
        Turns.verdict_of_returned call_fair leads calls entered rfl
      obtain ⟨code, rfl⟩ := coded object spp precvData job
      exact ⟨0, config, _, code, rfl, calls, rfl⟩
  | act act rest ih =>
      have only := initial_of_entered leads calls job entered
      obtain ⟨effect, rfl, initial⟩ := only.1
      have free : effect = .rotatingLogger → config.state.shared.registered = false := by
        intro registers
        subst registers
        exact pointLogging_of_next leads calls ⟨rest, rfl⟩
      obtain ⟨reply, s, ran⟩ := @exec_initial thread effect (config.state.view sharing object)
        initial free
      have executed : process.exec thread (.on object effect) config.state =
          some (reply, config.state.put sharing object s) := by
        simp only [process, Fleet.exec, ran]
      have stepped : process.step config (.act thread) = some (config.put thread
          ⟨request, entry, .on object effect :: past, rest reply⟩
          (config.state.put sharing object s)) := by
        simp only [Machine.step, calls, executed]
      have ruled : callTurns.within unregistered config
          (.act thread : Label Tid ProcessJob (Nat × Event)) := by
        refine ⟨by simp only [Condition.allows, calls]; rfl, ?_⟩
        intro actor other act same otherCalls standing enters
        cases same
        rw [calls] at otherCalls
        cases otherCalls
        obtain ⟨_, program⟩ := standing
        cases program
        cases enters
      have enteredNext : Call.Entered callTurns (⟨request, entry, .on object effect :: past,
          rest reply⟩ : Call ProcessState ProcessAct ProcessAct.Answer ProcessJob Result) := by
        obtain ⟨performed, member, enters⟩ := entered
        exact ⟨performed, List.mem_cons_of_mem _ member, enters⟩
      obtain ⟨count, later, ended, code, steps, endedCalls, returned⟩ :=
        ih reply (.step leads ruled stepped) _ (Config.put_calls_self _ _ _ _) job enteredNext
      refine ⟨count + 1, later, ended, code, ?_, endedCalls, returned⟩
      have allowed : Condition.always.allows config
          (.act thread : Label Tid ProcessJob (Nat × Event)) = true := by
        simp only [Condition.allows, calls]
        rfl
      simp only [List.replicate_succ, Machine.steps, allowed, stepped, if_true]
      exact steps

end Runs

/-- In every run of the threads of a process in which the calls of the clients follow one
another, and an accepted `init` that asks for a logger is called only while none is
registered: every `init` that is called returns a code, and what has been initialized with a
logger has it. -/
theorem init_survives
    (config : Config Tid ProcessState ProcessAct ProcessAct.Answer ProcessJob Result)
    (leads : process.Leads (callTurns.within unregistered) process.initial config) :
    (∀ thread call object spp precvData, config.calls thread = some call →
      call.job = .on object (.operation (.init spp precvData)) → call.Entered callTurns →
      ∃ count later ended code,
        process.steps .always config (List.replicate count (.act thread)) = some later ∧
        later.calls thread = some ended ∧ ended.Returned (.value (.code code))) ∧
    ∀ object spp precvData,
      (Operation.init spp precvData, Value.code 0) ∈ (config.state.objects object).history →
      spp.isToLog = true → (config.state.objects object).param.plog = true := by
  constructor
  · intro thread call object spp precvData calls job entered
    exact init_returns leads calls job entered
  · exact logged_of_leads leads

/-- `eightNonePlain` with a log. -/
def loggedPlain : SpProp := { eightNonePlain with isToLog := true }

/-- The object is created and initialized with a log. -/
def loggingRun (object effects : Nat) : List (Label Tid ProcessJob (Nat × Event)) :=
  Label.burst (.client 0) (.create object) 5 ++
    Label.burst (.client 0) (.on object (.operation (.init loggedPlain none))) effects

def destroyingRun (object effects : Nat) : List (Label Tid ProcessJob (Nat × Event)) :=
  Label.burst (.client 0) (.on object (.operation (.destroy ⟨false⟩))) effects

set_option maxRecDepth 1000 in
/-- The first object is destroyed while its port is open, before the second is initialized. -/
theorem init_survives_second :
    ∃ config count later ended code,
      process.steps .always config (List.replicate count (.act (.client 0))) = some later ∧
      later.calls (.client 0) = some ended ∧ ended.Returned (.value (.code code)) ∧
      (config.state.objects 0).param.plog = true := by
  have ran : ∃ config call, process.steps unregistered process.initial (loggingRun 0 7 ++
        Label.burst (.client 0) (.on 0 (.operation (.open .fine))) 31 ++ destroyingRun 0 25 ++
        loggingRun 1 2) = some config ∧
      config.calls (.client 0) = some call ∧
      call.job = .on 1 (.operation (.init loggedPlain none)) ∧ call.Entered callTurns ∧
      (Operation.init loggedPlain none, Value.code 0) ∈ (config.state.objects 0).history :=
    ⟨_, _, rfl, rfl, rfl, ⟨_, List.mem_cons_of_mem _ List.mem_cons_self, rfl⟩,
      List.mem_cons_of_mem _ (List.mem_cons_of_mem _ List.mem_cons_self)⟩
  obtain ⟨config, call, steps, calls, job, entered, member⟩ := ran
  have quiet : process.initial.Quiet (.client 0) := fun _ _ _ => nofun
  have leads : process.Leads (callTurns.within unregistered) process.initial config :=
    Turns.leads_of_steps .here quiet.unclaimed rfl steps
  obtain ⟨returns, logged⟩ := init_survives config leads
  obtain ⟨count, later, ended, code, went, endedCalls, returned⟩ :=
    returns (.client 0) call 1 loggedPlain none calls job entered
  exact ⟨config, count, later, ended, code, went, endedCalls, returned,
    logged 0 loggedPlain none member rfl⟩

/-- An `init` of this object stands where the name is registered already. -/
def Terminates (run : List (Label Tid ProcessJob (Nat × Event))) (object : Nat) : Prop :=
  ∃ config call, process.steps .always process.initial run = some config ∧
    config.calls (.client 0) = some call ∧
    call.job = .on object (.operation (.init loggedPlain none)) ∧
    call.Next (.on object .rotatingLogger) ∧
    process.exec (.client 0) (.on object .rotatingLogger) config.state = none

/-- A second object with a log, a second `init` of one object, and an object created after
the first has been destroyed with its port closed. -/
theorem init_terminates :
    Terminates (loggingRun 0 7 ++ loggingRun 1 4) 1 ∧
    Terminates (loggingRun 0 7 ++
      Label.burst (.client 0) (.on 0 (.operation (.init loggedPlain none))) 4) 0 ∧
    Terminates (loggingRun 0 7 ++ destroyingRun 0 3 ++ loggingRun 1 4) 1 :=
  ⟨⟨_, _, rfl, rfl, rfl, ⟨_, rfl⟩, rfl⟩, ⟨_, _, rfl, rfl, rfl, ⟨_, rfl⟩, rfl⟩,
    ⟨_, _, rfl, rfl, rfl, ⟨_, rfl⟩, rfl⟩⟩

end LibSp.Windows
