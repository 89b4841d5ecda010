import LibSp.Windows.Watch

/-!
# What the operations hold

A client's operation, followed on the handles that it opens and closes. Between two
operations the port holds a comm handle while it is open, and a thread handle while
it has a monitor thread.
-/

set_option autoImplicit false

namespace LibSp.Windows

open Concurrent

/-! ## Programs that spare the handles -/

abbrev Sparing {α : Type} (sending : Bool) (program : Code α) : Prop :=
  program.Only fun effect => effect.sparing sending = true

section Sparing

variable {sending : Bool}

theorem getRecvThreadIsRunning_sparing : Sparing sending getRecvThreadIsRunning :=
  ⟨rfl, fun _ => ⟨rfl, fun _ => ⟨rfl, fun _ => ⟨rfl, fun _ => trivial⟩⟩⟩⟩

theorem setRecvThreadIsRunning_sparing {value : Bool} : Sparing sending (setRecvThreadIsRunning value) :=
  ⟨rfl, fun _ => ⟨rfl, fun _ => ⟨rfl, fun _ => ⟨rfl, fun _ => trivial⟩⟩⟩⟩

theorem setFlowCtl_sparing {flowCtl : Int} {outcome : Except SystemError Unit} :
    Sparing sending (setFlowCtl flowCtl outcome) :=
  setFlowCtl_only rfl (fun _ => rfl) (fun _ => rfl) fun _ _ => rfl

theorem send_sparing {pdata : Option (List UInt8)} {outcome : WriteOutcome} :
    Sparing true (send pdata outcome) := by
  refine send_only (fun effect transmits => ?_) fun _ _ _ => rfl
  cases effect with
  | store field value => cases field <;> first | rfl | cases transmits
  | _ => first | rfl | cases transmits

def Operation.sends : Operation → Bool
  | .send .. => true
  | _ => false

/-- The operations that neither initialize, open nor close the port. -/
def Operation.spares : Operation → Bool
  | .setReadNotify _ | .isOpened | .send .. | .getRecvThreadIsRunning
  | .setRecvThreadIsRunning _ => true
  | _ => false

theorem runOperation_sparing {operation : Operation} (spares : operation.spares = true) :
    Sparing operation.sends (runOperation operation) := by
  cases operation with
  | setReadNotify len => exact ⟨rfl, fun _ => trivial⟩
  | isOpened => exact ⟨rfl, fun _ => trivial⟩
  | send pdata outcome => exact send_sparing.bind fun _ => trivial
  | getRecvThreadIsRunning => exact getRecvThreadIsRunning_sparing.bind fun _ => trivial
  | setRecvThreadIsRunning value => exact setRecvThreadIsRunning_sparing.bind fun _ => trivial
  | init | «open» | close | destroy => cases spares

end Sparing

/-! ## Closing -/

section Closing

variable {prompt : Prop} {sending : Bool} {watch : Watch} {opMode : Int} {handle threadHandle : Handle}
  {outcome : CloseOutcome}

theorem watch_refl (watch : Watch) : watch.Fades watch := ⟨rfl, rfl, List.Sublist.refl _⟩

/-- The members of the port, as the client reads them. -/
private theorem known_handle {holding : Holding} (now : Watch) (holds : now.Holds prompt holding) :
    now.view.get? .handle = some holding.handle := congrArg some holds.handle

private theorem known_threadHandle {holding : Holding} (now : Watch)
    (holds : now.Holds prompt holding) :
    now.view.get? .threadHandle = some holding.threadHandle := congrArg some holds.threadHandle

/-- The thread handle is closed and forgotten. -/
private theorem reaped (apart : handle ≠ threadHandle) :
    let ended := { Holding.opened opMode handle threadHandle with monitors := [] }
    { ended.close threadHandle with threadHandle := INVALID_HANDLE_VALUE } =
      Holding.opened opMode handle INVALID_HANDLE_VALUE := by
  have dead : live INVALID_HANDLE_VALUE = none := rfl
  simp only [Holding.opened, Holding.close, dead]
  unfold live
  split <;> simp [Option.filter, apart]

private theorem shut :
    { (Holding.opened opMode handle INVALID_HANDLE_VALUE).close handle with
        handle := INVALID_HANDLE_VALUE } = Holding.closed opMode := by
  have dead : live INVALID_HANDLE_VALUE = none := rfl
  simp [Holding.opened, Holding.close, Holding.closed, dead, Option.filter]

theorem stopThreadMonitor_held (apart : handle ≠ threadHandle)
    (holds : watch.Holds prompt (.opened opMode handle threadHandle)) :
    WatchAmid prompt sending (stopThreadMonitor outcome)
      (fun _ after => after.Holds prompt (.opened opMode handle INVALID_HANDLE_VALUE)) watch := by
  refine holds_load holds known_threadHandle fun now holds => ?_
  refine holds_skip rfl holds fun _ now holds => ?_
  change WatchAmid prompt sending (setRecvThreadIsRunning false >>= _) _ _
  refine Prog.Amid.bind watch_refl (holds_only setRecvThreadIsRunning_sparing holds) ?_
  intro _ now holds
  refine holds_load holds known_threadHandle fun now holds => ?_
  refine Prog.Amid.ite (fun started => ?_) fun never => ?_
  · refine holds_load holds known_threadHandle fun now holds => ?_
    refine holds_waitForThread holds ?_ fun now holds => ?_
    · unfold Holding.opened live
      split
      · exact List.Sublist.refl _
      · exact List.nil_sublist _
    refine holds_load holds known_threadHandle fun now holds => ?_
    refine holds_closeHandle holds rfl ?_ fun now holds => ?_
    · unfold Holding.opened live
      by_cases positive : 0 < threadHandle
      · exact .inr (.inr (if_pos positive))
      · exact .inl (Int.not_lt.mp positive)
    refine holds_store_threadHandle holds fun now holds => holds_ret holds fun now holds => ?_
    exact (congrArg (now.Holds prompt) (reaped apart)).mp holds
  · refine holds_ret holds fun now holds => ?_
    have same : INVALID_HANDLE_VALUE = threadHandle := Decidable.not_not.mp never
    exact same ▸ holds

theorem close_held (kept : watch.Kept prompt) :
    WatchAmid prompt sending (close outcome)
      (fun _ after => ∃ opMode, after.Holds prompt (.closed opMode)) watch := by
  have left : ∀ (value : Int) (now : Watch),
      (∃ opMode, now.Holds prompt (.closed opMode)) →
      WatchAmid prompt sending (do perform (.leave .close); return value)
        (fun _ after => ∃ opMode, after.Holds prompt (.closed opMode)) now := by
    intro value now post
    obtain ⟨opMode, holds⟩ := post
    refine holds_skip rfl holds fun _ now holds => holds_ret holds fun now holds => ⟨opMode, holds⟩
  refine Prog.Amid.bind watch_refl ?_ left
  cases kept with
  | closed opMode holds =>
      refine holds_isOpened holds fun now holds => ?_
      exact holds_ret holds fun now holds => ⟨opMode, holds⟩
  | opened opMode handle threadHandle valid apart holds =>
      have isOpened : handle ≠ INVALID_HANDLE_VALUE := ne_invalid_of_nonneg (Int.le_of_lt valid)
      refine holds_isOpened holds fun now holds => Prog.Amid.ite (fun _ => ?_) fun closed => ?_
      · change WatchAmid prompt sending (stopThreadMonitor outcome >>= _) _ _
        refine Prog.Amid.bind watch_refl (stopThreadMonitor_held apart holds) ?_
        intro _ now holds
        refine holds_load holds known_handle fun now holds => ?_
        refine Prog.Amid.ite (fun _ => ?_) fun same => absurd (Decidable.not_not.mp same).symm isOpened
        refine holds_load holds known_handle fun now holds => holds_skip rfl holds fun _ now holds => ?_
        refine holds_load holds known_handle fun now holds => holds_skip rfl holds fun _ now holds => ?_
        refine holds_load holds known_handle fun now holds => holds_closeHandle holds rfl (.inr (.inl rfl)) fun now holds => ?_
        refine holds_store_handle holds rfl fun now holds => holds_skip rfl holds fun _ now holds => ?_
        refine holds_skip rfl holds fun _ now holds => holds_ret holds fun now holds => ⟨opMode, ?_⟩
        exact (congrArg (now.Holds prompt) shut).mp holds
      · exact absurd (decide_eq_true isOpened) closed

end Closing

/-! ## Opening -/

/-- What `open` leaves when it returns this value. -/
structure Watch.Opening (prompt : Prop) (outcome : OpenOutcome) (opMode value : Int)
    (after : Watch) : Prop where
  kept : after.Kept prompt
  started : value = 0 → (0 < after.view.threadHandle ↔
    opMode = modeAsync ∧ outcome.beginthreadex.isOk = true)

theorem Watch.Kept.fades {prompt : Prop} {watch after : Watch} (kept : watch.Kept prompt)
    (fades : watch.Fades after) : after.Kept prompt := by
  cases kept with
  | closed opMode holds => exact .closed opMode (holds.fades fades)
  | opened opMode handle threadHandle valid apart holds =>
      exact .opened opMode handle threadHandle valid apart (holds.fades fades)

/-- The mode is no part of what is kept. -/
theorem Watch.Kept.holds {prompt : Prop} {watch : Watch} (kept : watch.Kept prompt) :
    ∃ holding, watch.Holds prompt holding ∧ ∀ (now : Watch) opMode,
      now.Holds prompt { holding with opMode := opMode } → now.Kept prompt := by
  cases kept with
  | closed opMode holds => exact ⟨_, holds, fun _ opMode holds => .closed opMode holds⟩
  | opened opMode handle threadHandle valid apart holds =>
      exact ⟨_, holds, fun _ opMode holds =>
        .opened opMode handle threadHandle valid apart holds⟩

theorem Watch.Opening.fades {prompt : Prop} {outcome : OpenOutcome} {opMode value : Int}
    {watch after : Watch} (opening : watch.Opening prompt outcome opMode value)
    (fades : watch.Fades after) : after.Opening prompt outcome opMode value where
  kept := opening.kept.fades fades
  started := by
    rw [fades.view]
    exact opening.started

section Opening

variable {prompt : Prop} {sending : Bool} {watch : Watch} {opMode : Int} {handle : Handle}

theorem startThreadMonitor_held {outcome : Except SystemError Unit}
    (holds : watch.Holds prompt (.opened opMode handle INVALID_HANDLE_VALUE)) (valid : 0 < handle) :
    WatchAmid prompt sending (startThreadMonitor outcome) (fun started after => started = true ∧
      ∃ threadHandle, handle ≠ threadHandle ∧ (0 < threadHandle ↔ outcome.isOk = true) ∧
        after.Holds prompt (.opened opMode handle threadHandle)) watch := by
  refine holds_beginthreadex holds rfl rfl valid rfl (fun refused now holds => ?_) ?_
  · refine holds_store_threadHandle holds fun now holds => ?_
    refine holds_load holds known_threadHandle fun now holds => holds_ret holds fun now holds => ?_
    refine ⟨rfl, 0, Int.ne_of_gt valid, ?_, holds⟩
    simp [refused]
  · intro started threadHandle positive apart now holds
    refine holds_store_threadHandle holds fun now holds => ?_
    refine holds_load holds known_threadHandle fun now holds => holds_ret holds fun now holds => ?_
    have notInvalid : INVALID_HANDLE_VALUE ≠ threadHandle :=
      (ne_invalid_of_nonneg (Int.le_of_lt positive)).symm
    refine ⟨if_neg notInvalid, threadHandle, ?_, iff_of_true positive started, ?_⟩
    · exact fun same => apart (congrArg some same)
    · have shape : Holding.opened opMode handle threadHandle =
          { Holding.opened opMode handle INVALID_HANDLE_VALUE with
            threadHandle := threadHandle
            thread := some threadHandle
            monitors := [threadHandle.toNat] } := by
        simp [Holding.opened, live, positive]
      exact (congrArg (now.Holds prompt) shape).mpr holds

theorem configure_held {outcome : OpenOutcome}
    (holds : watch.Holds prompt (.opened opMode handle INVALID_HANDLE_VALUE)) (valid : 0 < handle) :
    WatchAmid prompt sending (configure outcome)
      (fun value after => after.Opening prompt outcome opMode value) watch := by
  have apart : handle ≠ INVALID_HANDLE_VALUE := ne_invalid_of_nonneg (Int.le_of_lt valid)
  have failed : ∀ {value now}, value ≠ 0 →
      Watch.Holds prompt now (.opened opMode handle INVALID_HANDLE_VALUE) →
      now.Opening prompt outcome opMode value :=
    fun nonzero holds => ⟨.opened opMode handle _ valid apart holds, fun zero => absurd zero nonzero⟩
  refine holds_skip rfl holds fun _ now holds => holds_skip rfl holds fun read now holds => ?_
  refine holds_skip rfl holds fun _ now holds => holds_skip rfl holds fun _ now holds => ?_
  refine holds_skip rfl holds fun _ now holds => holds_skip rfl holds fun spp now holds => ?_
  change WatchAmid prompt sending (setFlowCtl _ outcome.setFlowCtl >>= _) _ _
  refine Prog.Amid.bind watch_refl (holds_only setFlowCtl_sparing holds) fun _ now holds => ?_
  refine holds_skip rfl holds fun _ now holds => holds_skip rfl holds fun _ now holds => ?_
  refine holds_skip rfl holds fun accepted now holds => Prog.Amid.ite (fun _ => ?_) fun _ => ?_
  · refine holds_skip rfl holds fun _ now holds => holds_skip rfl holds fun _ now holds => ?_
    refine holds_load_spp holds fun spp mode now holds => ?_
    refine Prog.Amid.ite (fun async => ?_) fun plain => ?_
    · refine holds_skip rfl holds fun _ now holds => holds_skip rfl holds fun _ now holds => ?_
      refine holds_skip rfl holds fun _ now holds => holds_skip rfl holds fun masked now holds => ?_
      refine Prog.Amid.ite (fun _ => ?_) fun _ => ?_
      · refine holds_skip rfl holds fun _ now holds => ?_
        change WatchAmid prompt sending (startThreadMonitor outcome.beginthreadex >>= _) _ _
        refine Prog.Amid.bind watch_refl (startThreadMonitor_held holds valid) ?_
        intro _ now post
        obtain ⟨rfl, threadHandle, apart, started, holds⟩ := post
        refine holds_ret holds fun now holds => ?_
        refine ⟨.opened opMode handle threadHandle valid apart holds, fun _ => ?_⟩
        rw [holds.threadHandle]
        exact started.trans (iff_and_self.mpr fun _ => (async.trans mode).symm)
      · exact holds_ret holds fun now holds => failed (by decide) holds
    · refine holds_skip rfl holds fun _ now holds => holds_skip rfl holds fun _ now holds => ?_
      refine holds_ret holds fun now holds => ?_
      refine ⟨.opened opMode handle _ valid apart holds, fun _ => ?_⟩
      rw [holds.threadHandle]
      have dead : ¬ 0 < INVALID_HANDLE_VALUE := by decide
      refine iff_of_false dead fun started => ?_
      exact plain (started.1.symm.trans mode.symm)
  · exact holds_ret holds fun now holds => failed (by decide) holds

theorem openClosed_held {name : String} {overlapped : Bool} {outcome : OpenOutcome}
    (holds : watch.Holds prompt (.closed opMode)) :
    WatchAmid prompt sending (openClosed name overlapped outcome)
      (fun value after => after.Opening prompt outcome opMode value) watch := by
  refine holds_createFile holds rfl (fun now holds => ?_) fun handle valid now holds => ?_
  · refine holds_store_handle holds rfl fun now holds => ?_
    refine holds_load holds known_handle fun now holds => holds_skip rfl holds fun error now holds => ?_
    refine holds_ret holds fun now holds => ⟨.closed opMode holds, fun zero => ?_⟩
    exact absurd zero (createFileError_ne_zero error)
  · refine holds_store_handle holds rfl fun now holds => ?_
    refine holds_load holds known_handle fun now holds => ?_
    have notInvalid : INVALID_HANDLE_VALUE ≠ handle :=
      (ne_invalid_of_nonneg (Int.le_of_lt valid)).symm
    exact Prog.Amid.ite (fun _ => configure_held holds valid) fun same => absurd notInvalid same

theorem openNamed_held {outcome : OpenOutcome} (kept : watch.Kept prompt)
    (mode : watch.view.spp.opMode = opMode) :
    WatchAmid prompt sending (openNamed outcome)
      (fun value after => after.Opening prompt outcome opMode value) watch := by
  cases kept with
  | closed stored holds =>
      obtain rfl : stored = opMode := holds.opMode.symm.trans mode
      refine holds_skip rfl holds fun _ now holds => holds_load_spp holds fun spp same now holds => ?_
      refine holds_store_spp holds fun now holds => holds_skip rfl holds fun _ now holds => ?_
      refine holds_isOpened holds fun now holds => ?_
      exact openClosed_held ((congrArg (fun mode => now.Holds prompt (.closed mode)) same).mp holds)
  | opened stored handle threadHandle valid apart holds =>
      obtain rfl : stored = opMode := holds.opMode.symm.trans mode
      have isOpened : handle ≠ INVALID_HANDLE_VALUE := ne_invalid_of_nonneg (Int.le_of_lt valid)
      refine holds_skip rfl holds fun _ now holds => holds_load_spp holds fun spp same now holds => ?_
      refine holds_store_spp holds fun now holds => holds_skip rfl holds fun _ now holds => ?_
      refine holds_isOpened holds fun now holds => Prog.Amid.ite (fun closed => ?_) fun _ => ?_
      · simp [Holding.opened, isOpened] at closed
      · refine holds_ret holds fun now holds => ⟨?_, fun zero => absurd zero (by decide)⟩
        exact .opened spp.opMode handle threadHandle valid apart holds

theorem open_held {outcome : OpenOutcome} (kept : watch.Kept prompt)
    (mode : watch.view.spp.opMode = opMode) :
    WatchAmid prompt sending («open» outcome)
      (fun value after => after.Opening prompt outcome opMode value) watch := by
  obtain ⟨holding, holds, keeps⟩ := kept.holds
  have stored : holding.opMode = opMode := holds.opMode.symm.trans mode
  refine holds_skip rfl holds fun _ now holds => Prog.Amid.ite (fun _ => ?_) fun _ => ?_
  · refine holds_ret holds fun now holds => ⟨keeps now _ holds, fun zero => ?_⟩
    exact absurd zero (by decide)
  change WatchAmid prompt sending (openNamed outcome >>= _) _ _
  refine Prog.Amid.bind watch_refl (openNamed_held (keeps now _ holds) (holds.opMode.trans stored)) ?_
  intro value now opening
  refine Prog.Amid.ite (fun nonzero => ?_) fun _ after fades => opening.fades fades
  refine Prog.Amid.bind watch_refl (close_held opening.kept) ?_
  intro _ now post
  obtain ⟨mode, holds⟩ := post
  exact holds_ret holds fun now holds => ⟨.closed mode holds, fun zero => absurd zero nonzero⟩

end Opening

/-! ## The operations -/

/-- What an operation that returned this value has done to the handle of the thread. -/
def Threaded (watch : Watch) (value : Value) (after : Watch) : Operation → Prop
  | .open outcome => value = .code 0 → (0 < after.view.threadHandle ↔
      watch.view.spp.opMode = modeAsync ∧ outcome.beginthreadex.isOk = true)
  | .close _ | .destroy _ => after.view.threadHandle = INVALID_HANDLE_VALUE
  | _ => after.view.threadHandle = watch.view.threadHandle

section Operations

variable {prompt : Prop} {sending : Bool} {watch : Watch}

theorem init_held {spp : SpProp} {precvData : Option IrecvData} (kept : watch.Kept prompt) :
    WatchAmid prompt sending (init spp precvData) (fun _ after => after.Kept prompt ∧
      after.view.threadHandle = watch.view.threadHandle) watch := by
  obtain ⟨holding, holds, keeps⟩ := kept.holds
  have ended : ∀ {now : Watch} {opMode : Int},
      now.Holds prompt { holding with opMode := opMode } →
      now.Kept prompt ∧ now.view.threadHandle = watch.view.threadHandle :=
    fun holdsNow => ⟨keeps _ _ holdsNow, holdsNow.threadHandle.trans holds.threadHandle.symm⟩
  refine Prog.Amid.ite (fun _ => holds_ret holds fun now holds => ended holds) fun _ => ?_
  have stored : ∀ {now : Watch}, now.Holds prompt { holding with opMode := spp.opMode } →
      WatchAmid prompt sending (do
        store .isInit true
        if (← load .spp).isToLog then
          perform .rotatingLogger
          store .plog true
        return (SpParamsCheck.getInstance .windows).isRight spp)
      (fun _ after => after.Kept prompt ∧ after.view.threadHandle = watch.view.threadHandle)
      now := by
    intro now holds
    refine holds_skip rfl holds fun _ now holds => holds_skip rfl holds fun spp now holds => ?_
    refine Prog.Amid.ite (fun _ => ?_) fun _ => holds_ret holds fun now holds => ended holds
    refine holds_skip rfl holds fun _ now holds => holds_skip rfl holds fun _ now holds => ?_
    exact holds_ret holds fun now holds => ended holds
  refine holds_store_spp holds fun now holds => Prog.Amid.ite (fun _ => ?_) fun _ => stored holds
  exact holds_skip rfl holds fun _ now holds => stored holds

theorem destroy_held {outcome : CloseOutcome} (kept : watch.Kept prompt) :
    WatchAmid prompt sending (destroy outcome)
      (fun _ after => ∃ opMode, after.Holds prompt (.closed opMode)) watch := by
  cases kept with
  | closed opMode holds =>
      refine holds_isOpened holds fun now holds => ?_
      exact holds_ret holds fun now holds => ⟨opMode, holds⟩
  | opened opMode handle threadHandle valid apart holds =>
      have isOpened : handle ≠ INVALID_HANDLE_VALUE := ne_invalid_of_nonneg (Int.le_of_lt valid)
      refine holds_isOpened holds fun now holds => Prog.Amid.ite (fun _ => ?_) fun closed => ?_
      · have kept : now.Kept prompt := .opened opMode handle threadHandle valid apart holds
        change WatchAmid prompt sending (close outcome >>= _) _ _
        refine Prog.Amid.bind watch_refl (close_held kept) ?_
        intro _ now post
        obtain ⟨mode, holds⟩ := post
        refine holds_skip rfl holds fun spp now holds => ?_
        refine Prog.Amid.ite (fun _ => ?_) fun _ => holds_ret holds fun now holds => ⟨mode, holds⟩
        refine holds_skip rfl holds fun plog now holds => ?_
        refine Prog.Amid.ite (fun _ => ?_) fun _ => holds_ret holds fun now holds => ⟨mode, holds⟩
        exact holds_skip rfl holds fun _ now holds => holds_ret holds fun now holds => ⟨mode, holds⟩
      · exact absurd (decide_eq_true isOpened) closed

theorem runOperation_held (operation : Operation) (kept : watch.Kept prompt) :
    WatchAmid prompt operation.sends (runOperation operation)
      (fun value after => after.Kept prompt ∧ Threaded watch value after operation) watch := by
  have returns : ∀ {now : Watch} {value : Value},
      now.Kept prompt ∧ Threaded watch value now operation →
      WatchAmid prompt operation.sends (.ret value : Code Value)
        (fun value after => after.Kept prompt ∧ Threaded watch value after operation) now := by
    rintro now value ⟨kept, threaded⟩ after fades
    refine ⟨kept.fades fades, ?_⟩
    unfold Threaded at threaded ⊢
    rw [fades.view]
    exact threaded
  have shut : ∀ {now : Watch} {opMode : Int}, now.Holds prompt (.closed opMode) →
      now.Kept prompt ∧ now.view.threadHandle = INVALID_HANDLE_VALUE :=
    fun holds => ⟨.closed _ holds, holds.threadHandle⟩
  have spared : operation.spares = true → WatchAmid prompt operation.sends (runOperation operation)
      (fun value after => after.Kept prompt ∧
        after.view.threadHandle = watch.view.threadHandle) watch := by
    intro spares
    obtain ⟨holding, holds, keeps⟩ := kept.holds
    refine (holds_only (runOperation_sparing spares) holds).mono fun _ now holdsNow => ?_
    exact ⟨keeps now _ holdsNow, holdsNow.threadHandle.trans holds.threadHandle.symm⟩
  cases operation with
  | init spp precvData => exact Prog.Amid.bind watch_refl (init_held kept) fun _ _ done => returns done
  | «open» outcome =>
      refine Prog.Amid.bind watch_refl (open_held kept rfl) fun value now opening => returns ?_
      exact ⟨opening.kept, fun zero => opening.started (Value.code.inj zero)⟩
  | close outcome =>
      refine Prog.Amid.bind watch_refl (close_held kept) fun _ now closed => ?_
      obtain ⟨opMode, holds⟩ := closed
      exact returns (shut holds)
  | destroy outcome =>
      refine Prog.Amid.bind watch_refl (destroy_held kept) fun _ now closed => ?_
      obtain ⟨opMode, holds⟩ := closed
      exact returns (shut holds)
  | setReadNotify | isOpened | send | getRecvThreadIsRunning | setRecvThreadIsRunning =>
      exact spared rfl

end Operations

/-! ## Runs -/

/-- By its record the open port has a monitor thread that was started for it. -/
def monitored : List (Operation × Value) → Bool
  | [] => false
  | (.open outcome, value) :: earlier => decide (value = .code 0) &&
      decide (lastMode earlier = modeAsync) && outcome.beginthreadex.isOk
  | (.close _, _) :: _ | (.destroy _, _) :: _ => false
  | _ :: earlier => monitored earlier

/-- Between two operations the handles and the threads are what the record says. -/
structure Watched (prompt : Prop) (watch : Watch) : Prop where
  recorded : Recorded watch.view
  kept : watch.Kept prompt
  started : 0 < watch.view.threadHandle ↔ monitored watch.view.history = true

def Watch.record (watch : Watch) (operation : Operation) (value : Value) : Watch :=
  { watch with view := watch.view.record operation value }

section Runs

variable {prompt : Prop} {watch ended : Watch} {operation : Operation} {value : Value}

theorem Watched.fades {after : Watch} (watched : Watched prompt watch)
    (fades : watch.Fades after) : Watched prompt after where
  recorded := fades.view ▸ watched.recorded
  kept := watched.kept.fades fades
  started := fades.view ▸ watched.started

/-- A port that is closed has no thread handle. -/
theorem Watch.Kept.threadHandle_closed (kept : watch.Kept prompt)
    (isClosed : watch.view.handle = INVALID_HANDLE_VALUE) :
    watch.view.threadHandle = INVALID_HANDLE_VALUE := by
  cases kept with
  | closed opMode holds => exact holds.threadHandle
  | opened opMode handle threadHandle valid apart holds =>
      have same : handle = INVALID_HANDLE_VALUE := holds.handle.symm.trans isClosed
      exact absurd same (ne_invalid_of_nonneg (Int.le_of_lt valid))

theorem Watch.Kept.monitors_closed (kept : watch.Kept prompt)
    (isClosed : watch.view.handle = INVALID_HANDLE_VALUE) (promptly : prompt) :
    watch.monitors = [] := by
  cases kept with
  | closed opMode holds => exact List.sublist_nil.mp (holds.monitors promptly)
  | opened opMode handle threadHandle valid apart holds =>
      have same : handle = INVALID_HANDLE_VALUE := holds.handle.symm.trans isClosed
      exact absurd same (ne_invalid_of_nonneg (Int.le_of_lt valid))

theorem Watch.Kept.comms (kept : watch.Kept prompt) : watch.view.comms =
    if watch.view.handle ≠ INVALID_HANDLE_VALUE then [(watch.view.handle, .comm)] else [] := by
  cases kept with
  | closed opMode holds =>
      rw [holds.comms, holds.handle]
      rfl
  | opened opMode handle threadHandle valid apart holds =>
      have isOpened : handle ≠ INVALID_HANDLE_VALUE := ne_invalid_of_nonneg (Int.le_of_lt valid)
      rw [holds.comms, holds.handle]
      exact (if_pos isOpened).symm

theorem comms_of_kept {s : State} (kept : s.watch.Kept prompt) :
    (s.handles.filter fun entry => entry.2 = .comm) =
      if s.param.isOpened then [(s.param.handle, .comm)] else [] := by
  refine kept.comms.trans ?_
  simp only [SpParamWin.isOpened, decide_eq_true_eq]
  rfl

theorem Watch.Kept.record (kept : ended.Kept prompt) (operation : Operation) (value : Value) :
    (ended.record operation value).Kept prompt := by
  cases kept with
  | closed opMode holds => exact .closed opMode { holds with }
  | opened opMode handle threadHandle valid apart holds =>
      exact .opened opMode handle threadHandle valid apart { holds with }

theorem Watched.record (watched : Watched prompt watch)
    (seen : Seen watch.view value ended.view operation) (kept : ended.Kept prompt)
    (threaded : Threaded watch value ended operation) :
    Watched prompt (ended.record operation value) := by
  refine ⟨watched.recorded.record seen, kept.record operation value, ?_⟩
  have history : (ended.record operation value).view.history =
      (operation, value) :: watch.view.history :=
    congrArg ((operation, value) :: ·) seen.history
  rw [history]
  have shut : ended.view.threadHandle = INVALID_HANDLE_VALUE →
      ¬ 0 < (ended.record operation value).view.threadHandle := by
    intro closed
    have same : (ended.record operation value).view.threadHandle = INVALID_HANDLE_VALUE := closed
    rw [same]
    decide
  have same : ended.view.threadHandle = watch.view.threadHandle →
      (0 < (ended.record operation value).view.threadHandle ↔
        monitored watch.view.history = true) := by
    intro same
    rw [← watched.started, ← same]
    rfl
  cases operation with
  | «open» outcome =>
      have failed : value ≠ .code 0 → ended.view.handle = INVALID_HANDLE_VALUE →
          (0 < (ended.record (.open outcome) value).view.threadHandle ↔
            monitored ((.open outcome, value) :: watch.view.history) = true) := by
        intro nonzero isClosed
        refine iff_of_false (shut (kept.threadHandle_closed isClosed)) ?_
        simp [monitored, nonzero]
      obtain ⟨code, rfl, opened⟩ := seen
      cases opened with
      | refused isInit negative unchanged =>
          refine failed (by simp [negative]) ?_
          rw [unchanged]
          refine Decidable.not_not.mp fun isOpened => ?_
          rw [watched.recorded.initFirst isOpened] at isInit
          cases isInit
      | already isInit isOpened negative isClosed renamed =>
          exact failed (by simp [negative]) isClosed
      | failed isInit wasClosed fails nonzero isClosed renamed =>
          exact failed (fun zero => nonzero (Value.code.inj zero)) isClosed
      | opened isInit opens zero isOpened renamed device =>
          refine (threaded (congrArg Value.code zero)).trans ?_
          simp [monitored, zero, watched.recorded.lastMode_eq isInit]
  | close | destroy =>
      exact iff_of_false (shut threaded) (by simp [monitored])
  | init | setReadNotify | isOpened | send | getRecvThreadIsRunning | setRecvThreadIsRunning =>
      exact same threaded

/-- What is established of the client and the monitor threads. -/
def watching (prompt : Prop) : Account Watch Effect Job Result where
  ready := Watched prompt
  point job _ effect now := ∃ operation, job = .operation operation ∧
    Established prompt operation.sends effect now
  post _ _ _ := Watched prompt

variable {condition : Condition Tid State Effect Job}

theorem lookWatch_view (prompt : Prop) (effect : Effect) (watch : Watch) (reply : effect.Reply)
    (after : Watch) (looked : effect.lookWatch prompt watch reply after) :
    effect.look watch.view reply after.view := looked.1

theorem watching_endures : (watching prompt).Endures system condition (.client 0) State.watch
    Watch.Fades (Effect.lookWatch prompt) where
  start := by
    refine ⟨recorded_start, .closed SpProp.zero.opMode ?_, by decide⟩
    exact ⟨rfl, rfl, rfl, rfl, rfl, fun _ => List.Sublist.refl _, Nat.zero_le 1⟩
  drifted := Watched.fades
  body {job last s} watched admitted _ := by
    cases job with
    | enter => cases admitted
    | iteration eventMask outcome => cases admitted
    | operation operation =>
        have seen : (runOperation operation).Amid Watch.Fades (Effect.lookWatch prompt)
            (fun _ _ => True) (fun value after => Seen s.watch.view value after.view operation)
            s.watch :=
          Prog.Amid.of_alone Watch.view (fun _ _ => Watch.Fades.view) (lookWatch_view prompt)
            (runOperation_seen operation)
        have both := (seen.and (runOperation_held operation watched.kept)).pointed
          fun effect now pointed => (⟨operation, rfl, pointed.2⟩ :
            (watching prompt).point (.operation operation) s.watch effect now)
        refine Prog.Amid.bind watch_refl both fun value ended done => ?_
        obtain ⟨seen, kept, threaded⟩ := done
        obtain ⟨holding, holds, -⟩ := kept.holds
        intro now fades
        refine ⟨⟨operation, rfl, sparing_established rfl (holds.fades fades)⟩, fun _ after looked => ?_⟩
        have recorded : after = now.record operation value := by
          obtain ⟨view, threads, monitors⟩ := looked
          cases after
          cases view
          cases threads
          cases monitors
          rfl
        have threadedNow : Threaded s.watch value now operation := by
          unfold Threaded at threaded ⊢
          rw [fades.view]
          exact threaded
        have seenNow : Seen s.view value now.view operation := fades.view ▸ seen
        intro later fadesLater
        rw [recorded] at fadesLater
        exact (watched.record seenNow (kept.fades fades) threadedNow).fades fadesLater
  returned post := post

/-- Between two operations of the client. -/
theorem watched_of_reachable (watches : Watches condition prompt)
    {config : Config Tid State Effect Effect.Reply Job Result}
    (reachable : system.Reachable condition config) {last : Option Result}
    (idle : config.idle? (.client 0) = some last) : Watched prompt config.state.watch :=
  Account.endures_ready (watch_shared watches) watching_endures reachable idle

theorem established_of_reachable (watches : Watches condition prompt)
    {config : Config Tid State Effect Effect.Reply Job Result}
    (reachable : system.Reachable condition config)
    {call : Call State Effect Effect.Reply Job Result} {effect : Effect}
    (calls : config.calls (.client 0) = some call) (standing : call.Next effect) :
    ∃ operation, call.job = .operation operation ∧
      Established prompt operation.sends effect config.state.watch :=
  Account.endures_point (watch_shared watches) watching_endures reachable calls standing

theorem monitors_of_reachable (watches : Watches condition prompt)
    {config : Config Tid State Effect Effect.Reply Job Result}
    (reachable : system.Reachable condition config) (promptly : prompt) :
    config.state.monitors.length ≤ 1 := by
  rcases config.idle_or_next (.client 0) with ⟨last, idle⟩ | ⟨call, effect, calls, standing⟩
  · obtain ⟨holding, holds, -⟩ := (watched_of_reachable watches reachable idle).kept.holds
    exact holds.atMostOne promptly
  · obtain ⟨_, -, settled⟩ := established_of_reachable watches reachable calls standing
    exact settled.few promptly

end Runs

end LibSp.Windows
