import LibSp.Windows.Rules

/-!
# The operations of the client

Every operation of a single client, followed on the part of the state that it
owns. All but `init` and `open` leave the settings alone.
-/

set_option autoImplicit false

namespace LibSp.Windows

open Concurrent

section

variable {condition : Condition Tid State Effect Job} {job : Job} {α : Type}

/-- The program of client 0 is safe from this owned part and ends in the postcondition. -/
abbrev ClientSafe (condition : Condition Tid State Effect Job) (job : Job) (program : Code α)
    (post : α → Owned → Prop) (owned : Owned) : Prop :=
  OwnerSafe system condition rules State.owned (.client 0) job program post owned

theorem client_owner (s after : State) (relied : rules.rely (.client 0) s after) :
    after.owned = s.owned := relied

theorem client_keeps {effect : Effect} {s after : State} {reply : effect.Reply}
    (inv : s.members.Inv) (pointed : ClientPoint s.history effect)
    (executed : exec (.client 0) effect s = some (reply, after)) :
    after.members.Inv ∧ ∀ other, other ≠ .client 0 → Rely other s after := by
  refine ⟨?_, fun other different => ?_⟩
  · rw [exec_members executed]
    apply update_inv inv
    intro event same
    subst same
    exact pointed.elim
  · match other with
    | .client 0 => exact absurd rfl different
    | .client (_ + 1) => trivial
    | .worker number => exact worker_relies executed number

variable {effect : Effect} {next : effect.Reply → Code α} {post : α → Owned → Prop}
  {owned : Owned}

/-- One effect of the client, with what it changes of the owned part. -/
theorem client_act (change : Owned → Owned)
    (changes : ∀ members, (effect.update (.client 0) members).owned = change members.owned)
    (pointed : ClientPoint owned.history effect)
    (continued : ∀ s reply after, s.owned = owned →
      exec (.client 0) effect s = some (reply, after) →
      ClientSafe condition job (next reply) post (change owned)) :
    ClientSafe condition job (.act effect next) post owned := by
  refine OwnerSafe.act client_owner fun now inv owns => ?_
  subst owns
  refine ⟨pointed, fun reply after _ executed => ?_⟩
  obtain ⟨invAfter, relied⟩ := client_keeps inv pointed executed
  refine ⟨invAfter, relied, ?_⟩
  have owned : after.owned = change now.owned := by
    rw [State.owned, exec_members executed]
    exact changes now.members
  rw [owned]
  exact continued now reply after rfl executed

theorem client_plain (changes : ∀ members, (effect.update (.client 0) members).owned = members.owned)
    (pointed : ClientPoint owned.history effect)
    (continued : ∀ reply, ClientSafe condition job (next reply) post owned) :
    ClientSafe condition job (.act effect next) post owned :=
  client_act id changes pointed fun _ reply _ _ _ => continued reply

end

section Effects

variable {condition : Condition Tid State Effect Job} {job : Job} {α : Type}
  {post : α → Owned → Prop} {owned : Owned}

theorem client_load {field : Field} {next : field.Val → Code α} (read : Owned → field.Val)
    (reads : ∀ s, SpParamWin.get (State.param s) field = read s.owned)
    (continued : ClientSafe condition job (next (read owned)) post owned) :
    ClientSafe condition job (.act (.load field) next) post owned := by
  refine client_act id (fun _ => rfl) trivial fun s reply after owns executed => ?_
  cases executed
  rw [reads, owns]
  exact continued

theorem client_isOpened {next : Bool → Code α}
    (continued : ClientSafe condition job (next (owned.handle ≠ INVALID_HANDLE_VALUE)) post
      owned) :
    ClientSafe condition job (.act .isOpened next) post owned := by
  refine client_act id (fun _ => rfl) trivial fun s reply after owns executed => ?_
  cases executed
  cases owns
  exact continued

theorem client_createFile {name : String} {overlapped : Bool}
    {outcome : Except SystemError Unit} {queued : List UInt8} {next : Handle → Code α}
    (named : NamedAfter owned.history name)
    (refused : outcome.isOk = false →
      ClientSafe condition job (next INVALID_HANDLE_VALUE) post owned)
    (granted : outcome.isOk = true → ∀ number : Nat,
      ClientSafe condition job (next number) post
        { owned with comms := ((number : Handle), .comm) :: owned.comms }) :
    ClientSafe condition job (.act (.createFile name overlapped outcome queued) next) post
      owned := by
  cases outcome with
  | error error =>
      refine client_act id (fun _ => rfl) named fun s reply after _ executed => ?_
      cases executed
      exact refused rfl
  | ok granting =>
      refine OwnerSafe.act client_owner fun now inv owns => ?_
      subst owns
      have pointed : ClientPoint now.history (.createFile name overlapped (.ok granting) queued) :=
        named
      refine ⟨pointed, fun reply after _ executed => ?_⟩
      obtain ⟨invAfter, relied⟩ := client_keeps inv pointed executed
      cases executed
      exact ⟨invAfter, relied, granted rfl now.nextHandle⟩

theorem client_setCommConfig {handle : Handle} {cfg : Dcb} {outcome : Except SystemError Unit}
    {next : Bool → Code α} (comm : (handle, Kind.comm) ∈ owned.comms)
    (continued : ClientSafe condition job (next outcome.isOk) post owned) :
    ClientSafe condition job (.act (.setCommConfig handle cfg outcome) next) post owned := by
  refine client_act id (fun _ => rfl) trivial fun s reply after owns executed => ?_
  subst owns
  have present : s.isComm handle = true := decide_eq_true (List.mem_filter.mp comm).1
  simp only [exec, present, if_true] at executed
  cases outcome <;> cases executed <;> exact continued

theorem client_setCommMask {handle : Handle} {mask : BitVec 32} {outcome : Except SystemError Unit}
    {next : Bool → Code α} (comm : (handle, Kind.comm) ∈ owned.comms)
    (continued : ClientSafe condition job (next outcome.isOk) post owned) :
    ClientSafe condition job (.act (.setCommMask handle mask outcome) next) post owned := by
  refine client_act id (fun _ => rfl) trivial fun s reply after owns executed => ?_
  subst owns
  have present : s.isComm handle = true := decide_eq_true (List.mem_filter.mp comm).1
  simp only [exec, present, if_true] at executed
  cases outcome <;> cases executed <;> exact continued

/-- Neither the handle of a new thread nor the 0 of a failure is the invalid handle. -/
theorem client_beginthreadex {outcome : Except SystemError Unit} {next : Handle → Code α}
    (continued : ∀ number : Nat, ClientSafe condition job (next number) post
      { owned with created := owned.created + if outcome.isOk then 1 else 0 }) :
    ClientSafe condition job (.act (.beginthreadex outcome) next) post owned := by
  cases outcome with
  | error error =>
      refine client_act id (fun _ => rfl) trivial fun s reply after _ executed => ?_
      cases executed
      exact continued 0
  | ok =>
      refine client_act (fun owned => { owned with created := owned.created + 1 }) ?_ trivial ?_
      · intro members
        simp [Effect.update, Members.owned, Members.newHandle]
      · intro s reply after _ executed
        cases executed
        exact continued s.nextHandle

end Effects

/-! ## Operations that leave the settings alone -/

/-- The effects of a client that change no settings. -/
def Effect.keepsSettings : Effect → Bool
  | .store .spp _ | .store .isInit _ | .store .readEvent _ | .createFile .. | .returned .. => false
  | _ => true

section Settings

theorem keepsSettings_update {effect : Effect} (keeps : effect.keepsSettings = true)
    (members : Members) :
    (effect.update (.client 0) members).owned.toSettings = members.owned.toSettings := by
  cases effect with
  | store field value => cases field <;> first | rfl | cases keeps
  | createFile name overlapped outcome queued => cases keeps
  | returned operation value => cases keeps
  | beginthreadex outcome => cases outcome <;> rfl
  | _ => rfl

theorem keepsSettings_point {effect : Effect} (keeps : effect.keepsSettings = true)
    (history : List (Operation × Value)) : ClientPoint history effect := by
  cases effect with
  | store field value => cases field <;> trivial
  | createFile name overlapped outcome queued => cases keeps
  | _ => trivial

theorem client_only {condition : Condition Tid State Effect Job} {job : Job} {α : Type}
    {program : Code α} {owned : Owned}
    (only : program.Only fun effect => effect.keepsSettings = true) :
    ClientSafe condition job program (fun _ after => after.toSettings = owned.toSettings)
      owned := by
  have owner : ∀ s after, rules.rely (.client 0) s after →
      after.owned.toSettings = s.owned.toSettings :=
    fun s after relied => congrArg Owned.toSettings relied
  refine OwnerSafe.of_part (OwnerSafe.of_only owner ?_ only)
  intro effect keeps now inv owns
  have pointed : ClientPoint now.history effect := keepsSettings_point keeps now.history
  refine ⟨pointed, fun reply after executed => ?_⟩
  obtain ⟨invAfter, relied⟩ := client_keeps inv pointed executed
  refine ⟨invAfter, relied, ?_⟩
  rw [State.owned, exec_members executed, keepsSettings_update keeps]
  exact owns

/-! ### What the routine operations perform -/

/-- What the operations other than `init` and `open` perform; only a `closing` one
gives up the handle. -/
def Effect.routine (closing : Bool) : Effect → Bool
  | .store .handle value => closing && value = INVALID_HANDLE_VALUE
  | .load _ | .store .isRunning _ | .store .threadHandle _ | .store .writeEvent _
  | .store .minBytesReadNotify _ | .isOpened | .lock | .unlock | .getLastError | .setCommMask ..
  | .purgeComm _ | .waitForThread .. | .closeHandle _ | .createEvent | .resetEvent _
  | .resetOverlapped .write | .writeFile .. | .getOverlappedResult _ .write | .spdlogShutdown
  | .leave _ => true
  | _ => false

/-- A program of a routine operation. -/
abbrev Routine {α : Type} (closing : Bool) (program : Code α) : Prop :=
  program.Only fun effect => effect.routine closing = true

theorem keepsSettings_of_routine {closing : Bool} {effect : Effect}
    (routine : effect.routine closing = true) : effect.keepsSettings = true := by
  cases effect with
  | store field value => cases field <;> first | rfl | exact absurd routine Bool.false_ne_true
  | _ => first | rfl | exact absurd routine Bool.false_ne_true

variable {closing : Bool} {outcome : CloseOutcome}

theorem routine_of_stops {effect : Effect} (stops : effect.stops = true) :
    effect.routine closing = true := by
  cases effect with
  | store field value => cases field <;> first | rfl | cases stops
  | _ => first | rfl | cases stops

theorem routine_of_closes {effect : Effect} (closes : effect.closes = true) :
    effect.routine true = true := by
  cases effect with
  | store field value => cases field <;> first | rfl | exact closes
  | _ => first | rfl | cases closes

theorem routine_of_transmits {effect : Effect} (transmits : effect.transmits = true) :
    effect.routine closing = true := by
  cases effect with
  | store field value => cases field <;> first | rfl | cases transmits
  | resetOverlapped block | getOverlappedResult handle block =>
      cases block <;> first | rfl | cases transmits
  | _ => first | rfl | cases transmits

theorem getRecvThreadIsRunning_routine : Routine closing getRecvThreadIsRunning :=
  ⟨rfl, fun _ => ⟨rfl, fun _ => ⟨rfl, fun _ => ⟨rfl, fun _ => trivial⟩⟩⟩⟩

theorem setRecvThreadIsRunning_routine {value : Bool} :
    Routine closing (setRecvThreadIsRunning value) :=
  setRecvThreadIsRunning_only fun _ => routine_of_stops

theorem setReadNotify_routine {len : Nat} : Routine closing (setReadNotify len) :=
  ⟨rfl, fun _ => trivial⟩

theorem stopThreadMonitor_routine : Routine closing (stopThreadMonitor outcome) :=
  stopThreadMonitor_only fun _ => routine_of_stops

theorem close_routine : Routine true (close outcome) :=
  close_only fun _ => routine_of_closes

theorem send_routine {pdata : Option (List UInt8)} {outcome : WriteOutcome} :
    Routine closing (send pdata outcome) :=
  send_only (fun _ => routine_of_transmits) fun _ _ _ => rfl

theorem destroy_routine : Routine true (destroy outcome) :=
  destroy_only (fun _ => routine_of_closes) rfl

/-- The operations other than `init` and `open`. -/
def Operation.routine : Operation → Bool
  | .init .. | .open _ => false
  | _ => true

def Operation.closes : Operation → Bool
  | .close _ | .destroy _ => true
  | _ => false

theorem runOperation_routine {operation : Operation} (routine : operation.routine = true) :
    Routine operation.closes (runOperation operation) := by
  cases operation with
  | init | «open» => cases routine
  | close outcome => exact close_routine.bind fun _ => trivial
  | setReadNotify len => exact setReadNotify_routine.bind fun _ => trivial
  | isOpened => exact ⟨rfl, fun _ => trivial⟩
  | send pdata outcome => exact send_routine.bind fun _ => trivial
  | getRecvThreadIsRunning => exact getRecvThreadIsRunning_routine.bind fun _ => trivial
  | setRecvThreadIsRunning value => exact setRecvThreadIsRunning_routine.bind fun _ => trivial
  | destroy outcome => exact destroy_routine.bind fun _ => trivial

theorem client_routine (closing : Bool) {condition : Condition Tid State Effect Job} {job : Job} {α : Type}
    {program : Code α} {owned : Owned} (routine : Routine closing program) :
    ClientSafe condition job program (fun _ after => after.toSettings = owned.toSettings) owned :=
  client_only (routine.mono fun _ => keepsSettings_of_routine)

end Settings

/-! ## `init` and `open` -/

section Open

variable {condition : Condition Tid State Effect Job} {job : Job} {owned : Owned}

theorem init_safe {spp : SpProp} {precvData : Option IrecvData} :
    ClientSafe condition job (init spp precvData)
      (fun value after => after.toSettings =
        owned.toSettings.after (.init spp precvData) (.code value)) owned := by
  refine OwnerSafe.ite (fun refused => ?_) fun accepted => ?_
  · apply OwnerSafe.ret client_owner
    simp [Settings.after, refused]
  · have zero : (SpParamsCheck.getInstance .windows).isRight spp = 0 :=
      Decidable.not_not.mp accepted
    refine client_act (fun owned => { owned with spp := spp }) (fun _ => rfl) trivial ?_
    intro _ _ _ _ _
    have stored : ∀ change : Owned, change.toSettings = { owned.toSettings with spp := spp } →
        ClientSafe condition job (do
          store .isInit true
          if (← load .spp).isToLog then
            perform .rotatingLogger
            store .plog true
          return (SpParamsCheck.getInstance .windows).isRight spp)
        (fun value after => after.toSettings =
          owned.toSettings.after (.init spp precvData) (.code value)) change := by
      intro change settings
      refine client_act (fun owned => { owned with isInit := true }) (fun _ => rfl) trivial ?_
      intro _ _ _ _ _
      have ended : ({ change with isInit := true } : Owned).toSettings =
          owned.toSettings.after (.init spp precvData) (.code 0) := by
        simp [Settings.after, settings]
      rw [zero]
      refine client_plain (fun _ => rfl) trivial fun logged => ?_
      refine OwnerSafe.ite (fun _ => ?_) fun _ => OwnerSafe.ret client_owner ended
      refine client_plain (fun _ => rfl) trivial fun _ => client_plain (fun _ => rfl) trivial ?_
      exact fun _ => OwnerSafe.ret client_owner ended
    refine OwnerSafe.ite (fun _ => ?_) fun _ => stored _ rfl
    exact client_plain (fun _ => rfl) trivial fun _ => stored _ rfl

theorem setFlowCtl_safe {flowCtl : Int} {outcome : Except SystemError Unit} :
    ClientSafe condition job (setFlowCtl flowCtl outcome) (fun _ after => after = owned)
      owned := by
  have applied : ∀ cfg, ClientSafe condition job (do
      store .cfg cfg
      let _ ← perform (.setCommConfig (← load .handle) (← load .cfg) outcome))
      (fun _ after => after = owned) owned := by
    intro cfg
    refine client_plain (fun _ => rfl) trivial fun _ => client_plain (fun _ => rfl) trivial ?_
    refine fun _ => client_plain (fun _ => rfl) trivial fun _ => ?_
    exact client_plain (fun _ => rfl) trivial fun _ => OwnerSafe.ret client_owner rfl
  refine client_plain (fun _ => rfl) trivial fun isOpened => ?_
  refine OwnerSafe.ite (fun _ => ?_) fun _ => OwnerSafe.ret client_owner rfl
  refine client_plain (fun _ => rfl) trivial fun dcb => ?_
  refine OwnerSafe.ite (fun _ => applied _) fun _ => ?_
  refine OwnerSafe.ite (fun _ => applied _) fun _ => ?_
  exact OwnerSafe.ite (fun _ => applied _) fun _ => OwnerSafe.ret client_owner rfl

theorem natCast_ne_invalid (number : Nat) : INVALID_HANDLE_VALUE ≠ (number : Handle) :=
  (ne_invalid_of_nonneg (Int.natCast_nonneg number)).symm

theorem startThreadMonitor_safe {outcome : Except SystemError Unit} :
    ClientSafe condition job (startThreadMonitor outcome)
      (fun started after => started = true ∧ after.toSettings = owned.toSettings ∧
        after.handle = owned.handle ∧
        after.created = owned.created + if outcome.isOk then 1 else 0) owned := by
  refine client_beginthreadex fun number => ?_
  refine client_act (fun owned => { owned with threadHandle := (number : Handle) })
    (fun _ => rfl) trivial fun _ _ _ _ _ => ?_
  refine client_load Owned.threadHandle (fun _ => rfl) (OwnerSafe.ret client_owner ?_)
  exact ⟨if_neg (natCast_ne_invalid number), rfl, rfl, rfl⟩

/-- What `open` does once it has the device, in the mode of the settings. -/
inductive Configured (outcome : OpenOutcome) (before : Owned) (value : Int) (after : Owned) :
    Prop where
  | accepted (setCommConfig : outcome.setCommConfig.isOk = true)
      (setCommMask : before.spp.opMode = modeAsync → outcome.setCommMask.isOk = true)
      (zero : value = 0) (same : after.toSettings = before.toSettings)
      (handle : after.handle = before.handle)
      (created : after.created = before.created + startedThreads outcome before.spp.opMode)
  | refused (fails : ¬ (outcome.setCommConfig.isOk = true ∧
        (before.spp.opMode = modeAsync → outcome.setCommMask.isOk = true)))
      (nonzero : value ≠ 0) (same : after.toSettings = before.toSettings)

theorem configure_safe {outcome : OpenOutcome} (comm : (owned.handle, Kind.comm) ∈ owned.comms) :
    ClientSafe condition job (configure outcome) (Configured outcome owned) owned := by
  refine client_plain (fun _ => rfl) trivial fun _ => client_plain (fun _ => rfl) trivial ?_
  refine fun read => client_plain (fun _ => rfl) trivial fun _ => ?_
  refine client_plain (fun _ => rfl) trivial fun _ => client_plain (fun _ => rfl) trivial ?_
  refine fun _ => client_plain (fun _ => rfl) trivial fun spp => ?_
  change ClientSafe condition job (setFlowCtl _ outcome.setFlowCtl >>= _) _ owned
  apply OwnerSafe.bind (rely_refl (.client 0)) setFlowCtl_safe
  intro _ _ same
  subst same
  refine client_load Owned.handle (fun _ => rfl) (client_plain (fun _ => rfl) trivial fun cfg => ?_)
  refine client_setCommConfig comm (OwnerSafe.ite (fun accepted => ?_) fun refused => ?_)
  · refine client_plain (fun _ => rfl) trivial fun _ => client_plain (fun _ => rfl) trivial ?_
    refine fun _ => client_load (fun owned => owned.spp) (fun _ => rfl) ?_
    refine OwnerSafe.ite (fun async => ?_) fun plain => ?_
    · refine client_plain (fun _ => rfl) trivial fun _ => client_plain (fun _ => rfl) trivial ?_
      refine fun _ => client_load Owned.handle (fun _ => rfl) (client_setCommMask comm ?_)
      refine OwnerSafe.ite (fun masked => ?_) fun unmasked => OwnerSafe.ret client_owner ?_
      · refine client_act (fun owned => { owned with isRunning := true }) (fun _ => rfl) trivial ?_
        intro _ _ _ _ _
        change ClientSafe condition job (startThreadMonitor outcome.beginthreadex >>= _) _ _
        apply OwnerSafe.bind (rely_refl (.client 0)) startThreadMonitor_safe
        intro _ after post
        obtain ⟨rfl, same, handle, created⟩ := post
        refine OwnerSafe.ret client_owner
          (.accepted accepted (fun _ => masked) rfl same handle (created.trans ?_))
        simp [startedThreads, async]
      · refine .refused (fun accepts => unmasked (accepts.2 async.symm)) (by decide) rfl
    · refine client_plain (fun _ => rfl) trivial fun _ => client_plain (fun _ => rfl) trivial ?_
      refine fun _ => OwnerSafe.ret client_owner ?_
      refine .accepted accepted (fun async => absurd async.symm plain) rfl rfl rfl ?_
      simp [startedThreads, Ne.symm plain]
  · exact OwnerSafe.ret client_owner (.refused (fun accepts => refused accepts.1) (by decide) rfl)

theorem createFileError_ne_zero (error : Int) : createFileError error ≠ 0 := by
  unfold createFileError
  split
  · decide
  · split <;> decide

/-- What `open` has achieved before it cleans up. -/
def Tried (outcome : OpenOutcome) (before : Owned) (value : Int) (after : Owned) : Prop :=
  if value = 0 then
    Opens outcome before ∧ after.handle ≠ INVALID_HANDLE_VALUE ∧
      after.created = before.created + startedThreads outcome before.spp.opMode
  else ¬ Opens outcome before

theorem openClosed_safe {name : String} {overlapped : Bool} {outcome : OpenOutcome}
    (named : NamedAfter owned.history name) (isClosed : owned.handle = INVALID_HANDLE_VALUE) :
    ClientSafe condition job (openClosed name overlapped outcome)
      (fun value after => after.toSettings = owned.toSettings ∧ Tried outcome owned value after)
      owned := by
  refine client_createFile named (fun refused => ?_) fun granted number => ?_
  · refine client_act (fun owned => { owned with handle := INVALID_HANDLE_VALUE })
      (fun _ => rfl) trivial fun _ _ _ _ _ => ?_
    refine client_load Owned.handle (fun _ => rfl) (client_plain (fun _ => rfl) trivial ?_)
    refine fun error => OwnerSafe.ret client_owner ⟨rfl, ?_⟩
    rw [Tried, if_neg (createFileError_ne_zero error)]
    intro opens
    rw [opens.createFile] at refused
    cases refused
  · refine client_act (fun owned => { owned with handle := (number : Handle) })
      (fun _ => rfl) trivial fun _ _ _ _ _ => ?_
    refine client_load Owned.handle (fun _ => rfl) ?_
    -- The test is decided: a new handle is a natural number.
    refine OwnerSafe.mono ?_ (configure_safe (by simp))
    intro value after configured
    cases configured with
    | accepted setCommConfig setCommMask zero same handle created =>
        refine ⟨same, ?_⟩
        rw [Tried, if_pos zero, handle]
        exact ⟨⟨isClosed, granted, setCommConfig, setCommMask⟩,
          (natCast_ne_invalid number).symm, created⟩
    | refused fails nonzero same =>
        refine ⟨same, ?_⟩
        rw [Tried, if_neg nonzero]
        exact fun opens => fails ⟨opens.setCommConfig, opens.setCommMask⟩

def Owned.renamed (owned : Owned) : Owned :=
  { owned with toSettings := owned.toSettings.renamed }

theorem tried_of_renamed {outcome : OpenOutcome} {value : Int} {after : Owned}
    (tried : Tried outcome owned.renamed value after) : Tried outcome owned value after := by
  have same : Opens outcome owned.renamed ↔ Opens outcome owned :=
    ⟨fun opens => { opens with }, fun opens => { opens with }⟩
  rw [Tried, same] at tried
  exact tried

theorem openNamed_safe {outcome : OpenOutcome} (named : Named owned.toSettings)
    (isInit : owned.isInit = true) :
    ClientSafe condition job (openNamed outcome)
      (fun value after => after.toSettings = owned.toSettings.renamed ∧
        Tried outcome owned value after) owned := by
  refine client_plain (fun _ => rfl) trivial fun _ => ?_
  apply client_load (fun owned => owned.spp) (fun _ => rfl)
  refine client_act (fun before => { before with spp := owned.renamed.spp })
    (fun _ => rfl) trivial fun _ _ _ _ _ => ?_
  refine client_load (fun owned => owned.spp) (fun _ => rfl) (client_isOpened ?_)
  refine OwnerSafe.ite (fun isClosed => ?_) fun isOpened => OwnerSafe.ret client_owner ⟨rfl, ?_⟩
  · have closed : owned.handle = INVALID_HANDLE_VALUE := by simpa using isClosed
    refine OwnerSafe.mono ?_
      (@openClosed_safe condition job owned.renamed _ _ outcome (named.namedAfter isInit) closed)
    exact fun value after done => ⟨done.1, tried_of_renamed done.2⟩
  · rw [Tried, if_neg (by decide)]
    intro opens
    simp [opens.isClosed] at isOpened

theorem open_safe {outcome : OpenOutcome} (named : Named owned.toSettings) :
    ClientSafe condition job («open» outcome) (OpenDone outcome owned) owned := by
  apply client_load (fun owned => owned.isInit) (fun _ => rfl)
  refine OwnerSafe.ite (fun refused => ?_) fun accepted => ?_
  · exact OwnerSafe.ret client_owner (.refused (by simpa using refused) rfl rfl)
  · have isInit : owned.isInit = true := by simpa using accepted
    change ClientSafe condition job (openNamed outcome >>= _) _ _
    apply OwnerSafe.bind (rely_refl (.client 0)) (openNamed_safe named isInit)
    intro value after post
    obtain ⟨renamed, tried⟩ := post
    refine OwnerSafe.ite (fun nonzero => ?_) fun zero => ?_
    · rw [Tried, if_neg nonzero] at tried
      refine OwnerSafe.bind (rely_refl (.client 0)) (client_routine true close_routine) fun _ ended same => ?_
      exact OwnerSafe.ret client_owner (.failed isInit tried nonzero (same.trans renamed))
    · have succeeded : value = 0 := Decidable.not_not.mp zero
      rw [Tried, if_pos succeeded] at tried
      exact OwnerSafe.ret client_owner
        (.opened isInit tried.1 succeeded renamed tried.2.1 tried.2.2)

end Open

/-! ## The jobs of the client -/

section Jobs

variable {condition : Condition Tid State Effect Job} {job : Job} {owned : Owned}

theorem runOperation_safe {operation : Operation} (named : Named owned.toSettings) :
    ClientSafe condition job (runOperation operation)
      (fun value after => Done owned after operation value) owned := by
  have refl := rely_refl (.client 0)
  cases operation with
  | init spp precvData =>
      exact OwnerSafe.bind refl init_safe fun _ _ settings => OwnerSafe.ret client_owner settings
  | «open» outcome =>
      exact OwnerSafe.bind refl (open_safe named) fun _ _ done => OwnerSafe.ret client_owner done
  | close outcome =>
      exact OwnerSafe.bind refl (client_routine true close_routine) fun _ _ same =>
        OwnerSafe.ret client_owner same
  | setReadNotify len =>
      exact client_plain (fun _ => rfl) trivial fun _ => OwnerSafe.ret client_owner rfl
  | isOpened => exact client_plain (fun _ => rfl) trivial fun _ => OwnerSafe.ret client_owner rfl
  | send pdata outcome =>
      exact OwnerSafe.bind refl (client_routine false send_routine) fun _ _ same =>
        OwnerSafe.ret client_owner same
  | getRecvThreadIsRunning =>
      exact OwnerSafe.bind refl (client_routine false getRecvThreadIsRunning_routine)
        fun _ _ same => OwnerSafe.ret client_owner same
  | setRecvThreadIsRunning value =>
      exact OwnerSafe.bind refl (client_routine false setRecvThreadIsRunning_routine)
        fun _ _ same => OwnerSafe.ret client_owner same
  | destroy outcome =>
      exact OwnerSafe.bind refl (client_routine true destroy_routine) fun _ _ same =>
        OwnerSafe.ret client_owner same

/-- Whatever `open` returns, the settings are those that the abstract account predicts. -/
theorem Done.settings {before after : Owned} {operation : Operation} {value : Value}
    (done : Done before after operation value) :
    after.toSettings = before.toSettings.after operation value := by
  cases operation with
  | «open» outcome =>
      cases value with
      | code value =>
          cases done with
          | refused isInit negative same => simp [Settings.after, same, isInit]
          | failed isInit fails nonzero renamed => simp [Settings.after, renamed, isInit]
          | opened isInit opens zero renamed => simp [Settings.after, renamed, isInit]
      | flag | void => exact done
  | _ => exact done

theorem operation_safe {operation : Operation} {s : State} (inv : s.members.Inv)
    (named : Named s.owned.toSettings) :
    Safe system condition rules (.client 0) (.operation operation)
      (runJob (.operation operation)) (rules.post (.client 0) (.operation operation) s) s := by
  have program : ClientSafe condition (.operation operation) (runJob (.operation operation))
      (fun result after => ∃ value ended, result = .value value ∧
        Done s.owned ended operation value ∧ after = ended.record operation value) s.owned := by
    apply OwnerSafe.bind (rely_refl (.client 0)) (runOperation_safe named)
    intro value ended done
    refine client_act (fun owned => owned.record operation value) (fun _ => rfl) trivial ?_
    exact fun _ _ _ _ _ => OwnerSafe.ret client_owner ⟨value, ended, rfl, done, rfl⟩
  refine (program s inv rfl).mono ?_
  rintro _ now - ⟨value, ended, rfl, done, recorded⟩
  refine ⟨?_, ended, done, recorded⟩
  rw [recorded]
  have renamed := named.after operation value
  rw [← done.settings] at renamed
  exact renamed

end Jobs

end LibSp.Windows
