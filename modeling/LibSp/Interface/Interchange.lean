import LibSp.Linux.Session
import LibSp.Windows.Session

/-!
# The documented interface

The codes that `iserial_port` documents for `open`, `close` and `is_opened`, as a
machine of its own, and the runs in which both implementations answer as it does.
-/

set_option autoImplicit false

namespace LibSp

open Concurrent

/-! ## The documentation -/

/-- How the system answers an `open`, as far as the documentation tells it apart. -/
inductive SystemAnswer where
  | success
  | missing
  | denied
  | other
  | rejected
  deriving DecidableEq

inductive InterfaceCall where
  | init (spp : SpProp) (precvData : Option IrecvData)
  | «open» (answer : SystemAnswer)
  | close
  | isOpened

/-- What the documentation speaks of: whether the port has ever been initialized
successfully, and whether it is open. -/
structure Documented where
  isInit : Bool
  isOpened : Bool

namespace Documented

def openCode (status : Documented) (answer : SystemAnswer) : Int :=
  if !status.isInit then -1
  else if status.isOpened then -5
  else match answer with
    | .success => 0
    | .missing => -2
    | .denied => -3
    | .other => -4
    | .rejected => -6

/-- The result of a call. That of `init` is the check of its settings. -/
def answer (status : Documented) : InterfaceCall → Value
  | .init spp _ => .code ((SpParamsCheck.getInstance .linux).isRight spp)
  | .open answer => .code (status.openCode answer)
  | .close => .code (if status.isOpened then 0 else -1)
  | .isOpened => .flag status.isOpened

def after (status : Documented) : InterfaceCall → Documented
  | .init spp _ => { status with
      isInit := decide ((SpParamsCheck.getInstance .linux).isRight spp = 0) || status.isInit }
  | .open answer => { status with
      isOpened := decide (status.openCode answer = 0) || status.isOpened }
  | .close => { status with isOpened := false }
  | .isOpened => status

end Documented

/-- The status after these calls, the latest first. -/
def documented : List InterfaceCall → Documented
  | [] => ⟨false, false⟩
  | call :: earlier => (documented earlier).after call

def documentedAnswers : List InterfaceCall → List Value
  | [] => []
  | call :: earlier => (documented earlier).answer call :: documentedAnswers earlier

theorem openCode_success {status : Documented} (isInit : status.isInit = true)
    (isClosed : status.isOpened = false) : status.openCode .success = 0 := by
  simp [Documented.openCode, isInit, isClosed]

/-- Only the parity differs between the checks of the two platforms. -/
theorem isRight_linux_eq {spp : SpProp} (notMark : spp.parity ≠ parityMark) :
    (SpParamsCheck.getInstance .linux).isRight spp =
      (SpParamsCheck.getInstance .windows).isRight spp := by
  have differs : ((parityMark, 3) : Int × Int).1 ≠ spp.parity := Ne.symm notMark
  have parity : SpParamsCheck.mapFind (SpParamsCheck.getInstance .linux).mapParity spp.parity =
      SpParamsCheck.mapFind (SpParamsCheck.getInstance .windows).mapParity spp.parity := by
    have windows : (SpParamsCheck.getInstance .windows).mapParity =
        [(parityNone, 0), (parityOdd, 1), (parityEven, 2), (parityMark, 3), (paritySpace, 4)] := rfl
    have linux : (SpParamsCheck.getInstance .linux).mapParity =
        [(parityNone, 0), (parityOdd, 1), (parityEven, 2), (paritySpace, 4)] := rfl
    rw [windows, linux]
    simp only [SpParamsCheck.mapFind, List.find?_cons, beq_eq_false_iff_ne.mpr differs]
  unfold SpParamsCheck.isRight
  rw [parity]
  rfl

end LibSp

/-! ## Linux -/

namespace LibSp.Linux

open Concurrent

def ENOENT : Int := 2
def EACCES : Int := 13

def OpenOutcome.answer (outcome : OpenOutcome) (registered : Bool) : SystemAnswer :=
  match outcome.descriptor with
  | .error error =>
      if error.value = ENOENT then .missing else if error.value = EACCES then .denied else .other
  | .ok _ =>
      if !outcome.fcntl.isOk then .other
      else if !(outcome.tcgetattr.isOk && outcome.tcsetattr.isOk) then .rejected
      else match outcome.pthreadCreate with
        | .created => .success
        | .failed .. => if registered then .other else .success

/-- By its record the object has a receiver. -/
def registered : List (Operation × Value) → Bool
  | [] => false
  | (.init _ precvData, value) :: earlier =>
      decide (value = .code 0) && precvData.isSome || registered earlier
  | _ :: earlier => registered earlier

/-- By its record the port has been initialized. -/
def initialized : List (Operation × Value) → Bool
  | [] => false
  | (.init .., value) :: earlier => decide (value = .code 0) || initialized earlier
  | _ :: earlier => initialized earlier

def calls : List (Operation × Value) → List InterfaceCall
  | [] => []
  | (.init spp precvData, _) :: earlier => .init spp precvData :: calls earlier
  | (.open outcome, _) :: earlier => .open (outcome.answer (registered earlier)) :: calls earlier
  | (.close, _) :: earlier => .close :: calls earlier
  | (.isOpened, _) :: earlier => .isOpened :: calls earlier
  | _ :: earlier => calls earlier

def answers (history : List (Operation × Value)) : List Value := history.map (·.2)

/-- Only the four calls, `init` without the parity that one platform lacks, and
`open` on a closed port that has been initialized, answered with success. -/
def expected : Condition Tid State Effect Job where
  begins _ job s :=
    match job with
    | .operation (.init spp _) => spp.parity ≠ parityMark
    | .operation (.open outcome) => initialized s.port.history && !s.port.param.isOpened &&
        outcome.answer (registered s.port.history) = .success
    | .operation .close | .operation .isOpened => true
    | .operation _ => false
    | .iteration .. => true
  acts _ _ _ _ := true

/-- The record of the calls is the documented one. -/
structure Answered (history : List (Operation × Value)) : Prop where
  answers : answers history = documentedAnswers (calls history)
  status : documented (calls history) = ⟨initialized history, opened history⟩

section

variable {libc : SpeedSetters} {port ended : Port} {operation : Operation} {value : Value}

theorem opens_of_answer {outcome : OpenOutcome} {registered : Bool}
    (isClosed : port.param.isOpened = false) (success : outcome.answer registered = .success) :
    Opens outcome port := by
  unfold OpenOutcome.answer at success
  cases granted : outcome.descriptor with
  | error error =>
      simp only [granted] at success
      split at success
      · cases success
      · split at success <;> cases success
  | ok fd =>
      simp only [granted] at success
      split at success
      · cases success
      split at success
      · cases success
      next unblocked configured =>
        refine ⟨isClosed, by simp [granted, Except.isOk, Except.toBool], ?_, ?_⟩
        · simpa using unblocked
        · simpa using configured

theorem answered_start : Answered [] := ⟨rfl, rfl⟩

theorem Answered.record {s : State} (answered : Answered s.port.history)
    (recorded : Recorded libc s.port)
    (allowed : expected.begins (.client 0) (.operation operation) s = true)
    (seen : Seen libc s.port value ended operation) :
    Answered ((operation, value) :: s.port.history) := by
  obtain ⟨same, status⟩ := answered
  have isOpened := recorded.isOpened
  cases operation with
  | init spp precvData =>
      obtain ⟨rfl, -⟩ := seen
      constructor
      · simp only [Linux.answers, List.map_cons, calls, documentedAnswers, Documented.answer, ← same]
      · simp [calls, documented, Documented.after, status, initialized, opened]
  | «open» outcome =>
      obtain ⟨code, rfl, seen⟩ := seen
      simp only [expected, Bool.and_eq_true, Bool.not_eq_true', decide_eq_true_eq] at allowed
      obtain ⟨⟨isInit, isClosed⟩, success⟩ := allowed
      have wasClosed : opened s.port.history = false := isOpened.symm.trans isClosed
      have zero : code = 0 := by
        cases seen with
        | already isOpened => exact absurd (isClosed.symm.trans isOpened) Bool.false_ne_true
        | opened opens zero => exact zero
        | failed isClosed fails => exact absurd (opens_of_answer isClosed success) fails
      have answer : (documented (calls s.port.history)).openCode
          (outcome.answer (registered s.port.history)) = 0 := by
        rw [success, status]
        exact openCode_success isInit wasClosed
      constructor
      · simp only [Linux.answers, List.map_cons, calls, documentedAnswers, Documented.answer,
          answer, zero, ← same]
      · simp only [calls, documented, Documented.after, answer, zero]
        simp [status, initialized, opened]
  | close =>
      obtain ⟨-, rfl⟩ := seen
      constructor
      · simp only [Linux.answers, List.map_cons, calls, documentedAnswers, Documented.answer,
          status, isOpened, ← same]
      · simp [calls, documented, Documented.after, status, initialized, opened]
  | isOpened =>
      obtain ⟨rfl, -⟩ := seen
      constructor
      · simp only [Linux.answers, List.map_cons, calls, documentedAnswers, Documented.answer,
          status, isOpened, ← same]
      · simp [calls, documented, Documented.after, status, initialized, opened]
  | setReadNotify | send | destroy => cases allowed

/-- The client between its operations. -/
def answering (libc : SpeedSetters) : Account Port Effect Job Result where
  ready port := Recorded libc port ∧ Answered port.history
  point _ _ _ _ := True
  post _ _ _ port := Recorded libc port ∧ Answered port.history

theorem answering_holds :
    (answering libc).Holds (system libc) (oneClient.both expected) (.client 0) State.port
      Effect.look where
  start := ⟨recorded_start libc, answered_start⟩
  body {job last s} ready admitted begins := by
    obtain ⟨recorded, answered⟩ := ready
    cases job with
    | iteration hasReadBytes outcome => cases admitted
    | operation operation =>
        have allowed := (Condition.both_begins.mp begins).2
        refine (runOperation_seen operation).bind fun value ended seen => ⟨trivial, ?_⟩
        intro _ after looked
        cases looked
        refine ⟨recorded.record seen, ?_⟩
        change Answered ((operation, value) :: ended.history)
        rw [seen.history]
        exact answered.record recorded allowed seen
  returned post := post

theorem answered_of_reachable {config : Config Tid State Effect Effect.Reply Job Result}
    (reachable : (system libc).Reachable (oneClient.both expected) config)
    {last : Option Result} (idle : config.idle? (.client 0) = some last) :
    Recorded libc config.state.port ∧ Answered config.state.port.history :=
  Account.ready_of_reachable (client_sole libc (oneClient_assumes.both expected)) answering_holds
    reachable idle

end

end LibSp.Linux

/-! ## Windows -/

namespace LibSp.Windows

open Concurrent

def OpenOutcome.answer (outcome : OpenOutcome) (opMode : Int) : SystemAnswer :=
  match outcome.createFile with
  | .error error =>
      if error.code = ERROR_FILE_NOT_FOUND then .missing
      else if error.code = ERROR_ACCESS_DENIED then .denied
      else .other
  | .ok _ =>
      if !outcome.setCommConfig.isOk then .rejected
      else if opMode ≠ modeAsync then .success
      else if !outcome.setCommMask.isOk then .rejected
      else if !outcome.beginthreadex.isOk then .other
      else .success

def calls : List (Operation × Value) → List InterfaceCall
  | [] => []
  | (.init spp precvData, _) :: earlier => .init spp precvData :: calls earlier
  | (.open outcome, _) :: earlier => .open (outcome.answer (lastMode earlier)) :: calls earlier
  | (.close _, _) :: earlier => .close :: calls earlier
  | (.isOpened, _) :: earlier => .isOpened :: calls earlier
  | _ :: earlier => calls earlier

def answers (history : List (Operation × Value)) : List Value := history.map (·.2)

/-- Only the four calls, `init` without the parity that one platform lacks and
without a second logger of the same name, and `open` on a closed port that has been
initialized, answered with success. -/
def expected : Condition Tid State Effect Job where
  begins _ job s :=
    match job with
    | .operation (.init spp _) => spp.parity ≠ parityMark && !(spp.isToLog && s.registered)
    | .operation (.open outcome) => initialized s.history && !s.param.isOpened &&
        outcome.answer (lastMode s.history) = .success
    | .operation (.close _) | .operation .isOpened => true
    | .operation _ => false
    | .enter | .iteration .. => true
  acts _ _ _ _ := true

/-- The record of the calls is the documented one. -/
structure Answered (history : List (Operation × Value)) : Prop where
  answers : answers history = documentedAnswers (calls history)
  status : documented (calls history) = ⟨initialized history, opened history⟩

section

variable {view ended : View} {operation : Operation} {value : Value}

theorem opens_of_answer {outcome : OpenOutcome} (isClosed : view.handle = INVALID_HANDLE_VALUE)
    (success : outcome.answer view.spp.opMode = .success) : Opens outcome view.toOwned := by
  unfold OpenOutcome.answer at success
  cases granted : outcome.createFile with
  | error error =>
      simp only [granted] at success
      split at success
      · cases success
      · split at success <;> cases success
  | ok done =>
      simp only [granted] at success
      split at success
      · cases success
      next configured =>
      have accepted : outcome.setCommConfig.isOk = true := by simpa using configured
      refine ⟨isClosed, by simp [granted, Except.isOk, Except.toBool], accepted, fun async => ?_⟩
      rw [if_neg (not_not_intro async)] at success
      split at success
      · cases success
      next masked => simpa using masked

theorem answered_start : Answered [] := ⟨rfl, rfl⟩

theorem initialized_init {spp : SpProp} {precvData : Option IrecvData}
    {history : List (Operation × Value)} :
    initialized ((.init spp precvData, value) :: history) =
      (decide (value = .code 0) || initialized history) := by
  unfold initialized
  rw [lastInit]
  split <;> simp [*]

theorem initialized_open {outcome : OpenOutcome} {history : List (Operation × Value)} :
    initialized ((.open outcome, value) :: history) = initialized history := by
  simp [initialized, lastInit]

theorem Answered.record {s : State} (answered : Answered s.history)
    (recorded : Recorded s.view)
    (allowed : expected.begins (.client 0) (.operation operation) s = true)
    (seen : Seen s.view value ended operation) :
    Answered ((operation, value) :: s.history) := by
  obtain ⟨same, status⟩ := answered
  have isOpened : decide (s.view.handle ≠ INVALID_HANDLE_VALUE) = opened s.history :=
    recorded.isOpened
  cases operation with
  | init spp precvData =>
      obtain ⟨rfl, -⟩ := seen
      have parity : spp.parity ≠ parityMark :=
        of_decide_eq_true (Bool.and_eq_true_iff.mp allowed).1
      have check := isRight_linux_eq parity
      constructor
      · simp only [Windows.answers, List.map_cons, calls, documentedAnswers, Documented.answer,
          check, ← same]
      · simp [calls, documented, Documented.after, status, initialized_init, opened, check]
  | «open» outcome =>
      obtain ⟨code, rfl, seen⟩ := seen
      simp only [expected, Bool.and_eq_true, Bool.not_eq_true', decide_eq_true_eq] at allowed
      obtain ⟨⟨isInit, isClosed⟩, success⟩ := allowed
      have wasClosed : s.view.handle = INVALID_HANDLE_VALUE :=
        Decidable.not_not.mp (of_decide_eq_false isClosed)
      have ready : s.view.isInit = true := recorded.initialized_eq.symm.trans isInit
      have opens : Opens outcome s.view.toOwned := by
        refine opens_of_answer wasClosed ?_
        rw [← recorded.lastMode_eq ready]
        exact success
      have zero : code = 0 := by
        cases seen with
        | refused notInit => exact absurd (notInit.symm.trans ready) Bool.false_ne_true
        | already _ isOpened => exact absurd wasClosed isOpened
        | opened _ _ zero => exact zero
        | failed _ _ fails => exact absurd opens fails
      have answer : (documented (calls s.history)).openCode
          (outcome.answer (lastMode s.history)) = 0 := by
        rw [success, status]
        exact openCode_success isInit (isOpened.symm.trans isClosed)
      constructor
      · simp only [Windows.answers, List.map_cons, calls, documentedAnswers, Documented.answer,
          answer, zero, ← same]
      · simp only [calls, documented, Documented.after, answer, zero]
        simp [status, initialized_open, opened]
  | close outcome =>
      obtain ⟨-, rfl⟩ := seen
      have code : (if s.view.handle = INVALID_HANDLE_VALUE then (-1 : Int) else 0) =
          if opened s.history then 0 else -1 := by
        rw [← isOpened]
        simp
      constructor
      · simp only [Windows.answers, List.map_cons, calls, documentedAnswers, Documented.answer,
          status, code, ← same]
      · simp [calls, documented, Documented.after, status, initialized, lastInit, opened]
  | isOpened =>
      obtain ⟨rfl, -⟩ := seen
      constructor
      · simp only [Windows.answers, List.map_cons, calls, documentedAnswers, Documented.answer,
          status, isOpened, ← same]
      · simp [calls, documented, Documented.after, status, initialized, lastInit, opened]
  | setReadNotify | send | getRecvThreadIsRunning | setRecvThreadIsRunning | destroy => cases allowed

/-- The client between its operations. -/
def answering : Account View Effect Job Result where
  ready view := Recorded view ∧ Answered view.history
  point _ _ _ _ := True
  post _ _ _ view := Recorded view ∧ Answered view.history

theorem answering_holds :
    answering.Holds system (oneClient.both expected) (.client 0) State.view Effect.look where
  start := ⟨recorded_start, answered_start⟩
  body {job last s} ready admitted begins := by
    obtain ⟨recorded, answered⟩ := ready
    cases job with
    | enter => cases admitted
    | iteration eventMask outcome => cases admitted
    | operation operation =>
        have allowed := (Condition.both_begins.mp begins).2
        refine (runOperation_seen operation).bind fun value ended seen => ⟨trivial, ?_⟩
        intro _ after looked
        cases looked
        have kept := recorded.record seen
        refine ⟨kept, ?_⟩
        change Answered ((operation, value) :: ended.history)
        rw [seen.history]
        exact answered.record recorded allowed seen
  returned post := post

theorem answered_of_reachable {config : Config Tid State Effect Effect.Reply Job Result}
    (reachable : system.Reachable (oneClient.both expected) config)
    {last : Option Result} (idle : config.idle? (.client 0) = some last) :
    Recorded config.state.view ∧ Answered config.state.history :=
  Account.ready_of_reachable
    (client_sole fun begins => (Condition.both_begins.mp begins).1) answering_holds reachable idle

end

end LibSp.Windows

namespace LibSp

open Concurrent

/-- In any two runs, one of each implementation, with one client that makes the same
calls, both answer what is documented, and agree whether the port is open. -/
theorem interchangeable (libc : Linux.SpeedSetters)
    (linux : Config Tid Linux.State Linux.Effect Linux.Effect.Reply Linux.Job Linux.Result)
    (windows : Config Tid Windows.State Windows.Effect Windows.Effect.Reply Windows.Job
      Windows.Result)
    (linuxReachable : (Linux.system libc).Reachable (Linux.oneClient.both Linux.expected) linux)
    (windowsReachable : Windows.system.Reachable (Windows.oneClient.both Windows.expected) windows)
    (linuxLast : Option Linux.Result) (linuxIdle : linux.idle? (.client 0) = some linuxLast)
    (windowsLast : Option Windows.Result)
    (windowsIdle : windows.idle? (.client 0) = some windowsLast)
    (same : Linux.calls linux.state.port.history = Windows.calls windows.state.history) :
    Linux.answers linux.state.port.history =
        documentedAnswers (Linux.calls linux.state.port.history) ∧
      Windows.answers windows.state.history =
        Linux.answers linux.state.port.history ∧
      windows.state.param.isOpened = linux.state.port.param.isOpened := by
  obtain ⟨linuxRecorded, linuxAnswered⟩ := Linux.answered_of_reachable linuxReachable linuxIdle
  obtain ⟨windowsRecorded, windowsAnswered⟩ :=
    Windows.answered_of_reachable windowsReachable windowsIdle
  refine ⟨linuxAnswered.answers, ?_, ?_⟩
  · rw [windowsAnswered.answers, ← same, linuxAnswered.answers]
  · have status := linuxAnswered.status.symm.trans (same ▸ windowsAnswered.status)
    calc windows.state.param.isOpened
        = Windows.opened windows.state.history := windowsRecorded.isOpened
      _ = Linux.opened linux.state.port.history := (congrArg Documented.isOpened status).symm
      _ = linux.state.port.param.isOpened := linuxRecorded.isOpened.symm

/-! ### Runs -/

def Linux.exchangeRun : List (Label Tid Linux.Job (List UInt8)) :=
  Label.burst (.client 0) (.operation .close) 2 ++
    Label.burst (.client 0) (.operation (.init Windows.eightNonePlain none)) 2 ++
    Label.burst (.client 0) (.operation (.open (.fine 3))) 16 ++
    Label.burst (.client 0) (.operation .isOpened) 2 ++
    Label.burst (.client 0) (.operation .close) 9

def Windows.exchangeRun : List (Label Tid Windows.Job Windows.Event) :=
  Label.burst (.client 0) (.operation (.close ⟨false⟩)) 3 ++
    Label.burst (.client 0) (.operation (.init Windows.eightNonePlain none)) 4 ++
    Label.burst (.client 0) (.operation (.open .fine)) 30 ++
    Label.burst (.client 0) (.operation .isOpened) 2 ++
    Label.burst (.client 0) (.operation (.close ⟨false⟩)) 20

theorem interchangeable_session :
    ∃ linux windows, (Linux.system Linux.glibc).steps (Linux.oneClient.both Linux.expected)
        (Linux.system Linux.glibc).initial Linux.exchangeRun = some linux ∧
      Windows.system.steps (Windows.oneClient.both Windows.expected) Windows.system.initial
        Windows.exchangeRun = some windows ∧
      Linux.answers linux.state.port.history =
        [.code 0, .flag true, .code 0, .code 0, .code (-1)] ∧
      Windows.answers windows.state.history = Linux.answers linux.state.port.history := by
  have linuxRan : ∃ config last, (Linux.system Linux.glibc).steps
        (Linux.oneClient.both Linux.expected) (Linux.system Linux.glibc).initial
        Linux.exchangeRun = some config ∧ config.idle? (.client 0) = some last ∧
      Linux.calls config.state.port.history = [.close, .isOpened, .open .success,
        .init Windows.eightNonePlain none, .close] :=
    ⟨_, _, rfl, rfl, rfl⟩
  have windowsRan : ∃ config last, Windows.system.steps
        (Windows.oneClient.both Windows.expected) Windows.system.initial
        Windows.exchangeRun = some config ∧ config.idle? (.client 0) = some last ∧
      Windows.calls config.state.history = [.close, .isOpened, .open .success,
        .init Windows.eightNonePlain none, .close] :=
    ⟨_, _, rfl, rfl, rfl⟩
  obtain ⟨linux, last, steps, idle, calls⟩ := linuxRan
  obtain ⟨windows, lastToo, stepsToo, idleToo, callsToo⟩ := windowsRan
  obtain ⟨answers, same, -⟩ := interchangeable Linux.glibc linux windows (.of_steps .start steps)
    (.of_steps .start stepsToo) last idle lastToo idleToo (calls.trans callsToo.symm)
  rw [calls] at answers
  exact ⟨linux, windows, steps, stepsToo, answers, same⟩

def Linux.missing : Linux.OpenOutcome :=
  { Linux.OpenOutcome.fine 3 with descriptor := .error ⟨Linux.ENOENT, by decide⟩ }

def Windows.missing : Windows.OpenOutcome :=
  { Windows.OpenOutcome.fine with
    createFile := .error ⟨Windows.ERROR_FILE_NOT_FOUND, by decide⟩ }

/-- The device is missing at first. Once it is open, `open` is called again. -/
def Linux.codesRun : List (Label Tid Linux.Job (List UInt8)) :=
  Label.burst (.client 0) (.operation (.init Windows.eightNonePlain none)) 2 ++
    Label.burst (.client 0) (.operation (.open Linux.missing)) 7 ++
    Label.burst (.client 0) (.operation (.init Windows.eightNonePlain none)) 2 ++
    Label.burst (.client 0) (.operation (.open (.fine 3))) 16 ++
    Label.burst (.client 0) (.operation (.open (.fine 4))) 2 ++
    Label.burst (.client 0) (.operation .isOpened) 2

def Windows.codesRun : List (Label Tid Windows.Job Windows.Event) :=
  Label.burst (.client 0) (.operation (.init Windows.eightNonePlain none)) 4 ++
    Label.burst (.client 0) (.operation (.open Windows.missing)) 13 ++
    Label.burst (.client 0) (.operation (.init Windows.eightNonePlain none)) 4 ++
    Label.burst (.client 0) (.operation (.open .fine)) 30 ++
    Label.burst (.client 0) (.operation (.open .fine)) 26 ++
    Label.burst (.client 0) (.operation .isOpened) 2

/-- Linux answers `errno` for a missing device and -1 for an open port, and Windows
closes the port that it finds open. -/
theorem open_codes_differ :
    ∃ linux windows, (Linux.system Linux.glibc).Reachable Linux.oneClient linux ∧
      Windows.system.Reachable Windows.oneClient windows ∧
      Linux.calls linux.state.port.history = Windows.calls windows.state.history ∧
      documentedAnswers (Linux.calls linux.state.port.history) =
        [.flag true, .code (-5), .code 0, .code 0, .code (-2), .code 0] ∧
      Linux.answers linux.state.port.history =
        [.flag true, .code (-1), .code 0, .code 0, .code 2, .code 0] ∧
      Windows.answers windows.state.history =
        [.flag false, .code (-5), .code 0, .code 0, .code (-2), .code 0] := by
  have linuxRan : ∃ config, (Linux.system Linux.glibc).steps Linux.oneClient
        (Linux.system Linux.glibc).initial Linux.codesRun = some config ∧
      Linux.calls config.state.port.history = [.isOpened, .open .success, .open .success,
        .init Windows.eightNonePlain none, .open .missing, .init Windows.eightNonePlain none] ∧
      Linux.answers config.state.port.history =
        [.flag true, .code (-1), .code 0, .code 0, .code 2, .code 0] :=
    ⟨_, rfl, rfl, rfl⟩
  have windowsRan : ∃ config, Windows.system.steps Windows.oneClient Windows.system.initial
        Windows.codesRun = some config ∧
      Windows.calls config.state.history = [.isOpened, .open .success, .open .success,
        .init Windows.eightNonePlain none, .open .missing, .init Windows.eightNonePlain none] ∧
      Windows.answers config.state.history =
        [.flag false, .code (-5), .code 0, .code 0, .code (-2), .code 0] :=
    ⟨_, rfl, rfl, rfl⟩
  obtain ⟨linux, steps, calls, answers⟩ := linuxRan
  obtain ⟨windows, stepsToo, callsToo, answersToo⟩ := windowsRan
  refine ⟨linux, windows, .of_steps .start steps, .of_steps .start stepsToo,
    calls.trans callsToo.symm, ?_, answers, answersToo⟩
  rw [calls]
  rfl

end LibSp
