import LibSp.Windows.Send
import LibSp.Concurrent.Turns

/-!
# The OVERLAPPED block under several sends

All sends in the asynchronous mode share one OVERLAPPED block: a `send` resets it
before it locks the mutex and waits on it after the unlock. As long as a send whose
write the driver completes later shares that stretch with no other, the block is
only used while no earlier write is in flight, and every send reports its own write.
-/

set_option autoImplicit false

namespace LibSp.Windows

open Concurrent

/-! ## Turns -/

def WriteOutcome.later : WriteOutcome → Bool
  | .pending _ => true
  | .now _ | .refused .. => false

/-- A `send` has its turn from its reset of the block on; sends whose writes end at
once share it. -/
def sendTurns : Turns Job Effect where
  enters job effect :=
    match job, effect with
    | .operation (.send ..), .resetOverlapped .write => true
    | _, _ => false
  alone job :=
    match job with
    | .operation (.send _ outcome) => outcome.later
    | _ => false

/-- The port is open: every write finds its handle open. -/
def openPort : Condition Tid State Effect Job where
  begins _ _ _ := true
  acts _ _ effect s :=
    match effect with
    | .writeFile handle .. => s.isComm handle
    | _ => true

/-- Neither resets the block of the writes nor starts or awaits an overlapped write. -/
def Effect.leavesBlock : Effect → Bool
  | .resetOverlapped .write | .writeFile _ _ true _ | .getOverlappedResult _ .write => false
  | _ => true

/-- An overlapped write that the driver completes later. -/
def Effect.submits : Effect → Bool
  | .writeFile _ _ true outcome => outcome.later
  | _ => false

theorem submits_of_leaves {effect : Effect} (leaves : effect.leavesBlock = true) :
    effect.submits = false := by
  cases effect with
  | writeFile handle data overlapped outcome =>
      cases overlapped with
      | false => rfl
      | true => cases leaves
  | _ => rfl

/-! ## The writes in flight and their block -/

/-- The writes that the driver has accepted and not completed, their block, and the
last error of one thread. -/
@[ext]
structure Flight where
  writing : List (List UInt8 × Completion)
  block : Overlapped
  lastError : Int

def State.flight (s : State) (thread : Tid) : Flight where
  writing := s.inFlight.filterMap Submitted.write?
  block := s.blocks .write
  lastError := s.lastError thread

namespace Flight

/-- The driver completes a write and fills the block. -/
def land (part : Flight) (completion : Completion) (rest : List (List UInt8 × Completion)) :
    Flight :=
  { part with writing := rest, block := ⟨false, completion⟩ }

/-- `WriteFile` on an open handle. -/
def writeFile (part : Flight) (data : List UInt8) (overlapped : Bool) (outcome : WriteOutcome) :
    Bool × Flight :=
  match outcome, overlapped with
  | .now count, true => (true, { part with block := ⟨false, .ok count⟩ })
  | .now _, false => (true, part)
  | .pending completion, true => (false, {
      writing := part.writing ++ [(data, completion)]
      block := ⟨true, .ok 0⟩
      lastError := ERROR_IO_PENDING })
  | .pending (.ok _), false => (true, part)
  | .pending (.error error), false => (false, { part with lastError := error.code })
  | .refused error _, _ => (false, { part with lastError := error.code })

/-- The driver completes writes, the oldest first. -/
inductive Lands : Flight → Flight → Prop where
  | still (part : Flight) : Lands part part
  | lands {part after : Flight} {data : List UInt8} {completion : Completion}
      {rest : List (List UInt8 × Completion)} :
      part.writing = (data, completion) :: rest →
      Lands (part.land completion rest) after → Lands part after

/-- What may happen to the writes beside a call in its turn: one that has its turn alone
only sees writes completed, one that shares it also finds the block changed. -/
structure Drifts (alone : Bool) (part now : Flight) : Prop where
  lastError : now.lastError = part.lastError
  writing : part.writing = [] → now.writing = []
  lands : alone = true → part.Lands now

theorem Lands.trans {first second third : Flight} (early : first.Lands second)
    (late : second.Lands third) : first.Lands third := by
  induction early with
  | still => exact late
  | lands writing _ ih => exact .lands writing (ih late)

theorem Lands.lastError {part now : Flight} (lands : part.Lands now) :
    now.lastError = part.lastError := by
  induction lands with
  | still => rfl
  | lands _ _ ih => exact ih

theorem Lands.eq_of_idle {part now : Flight} (lands : part.Lands now)
    (idle : part.writing = []) : now = part := by
  cases lands with
  | still => rfl
  | lands writing => simp [idle] at writing

theorem Lands.drifts {part now : Flight} {alone : Bool} (lands : part.Lands now) :
    part.Drifts alone now where
  lastError := lands.lastError
  writing idle := by
    rw [lands.eq_of_idle idle]
    exact idle
  lands _ := lands

theorem Drifts.trans {alone : Bool} {first second third : Flight}
    (early : first.Drifts alone second) (late : second.Drifts alone third) :
    first.Drifts alone third where
  lastError := late.lastError.trans early.lastError
  writing idle := late.writing (early.writing idle)
  lands single := (early.lands single).trans (late.lands single)

/-- The write of a call is in flight, or has landed in the block. -/
def Awaits (part : Flight) (data : List UInt8) (completion : Completion) : Prop :=
  part.writing = [(data, completion)] ∧ part.block.pending = true ∨
    part.writing = [] ∧ part.block = ⟨false, completion⟩

theorem Awaits.lands {part now : Flight} {data : List UInt8} {completion : Completion}
    (awaits : part.Awaits data completion) (lands : part.Lands now) :
    now.Awaits data completion := by
  rcases awaits with ⟨single, pending⟩ | ⟨idle, landed⟩
  · cases lands with
    | still => exact .inl ⟨single, pending⟩
    | lands writing later =>
        rw [single] at writing
        cases writing
        rw [later.eq_of_idle rfl]
        exact .inr ⟨rfl, rfl⟩
  · rw [lands.eq_of_idle idle]
    exact .inr ⟨idle, landed⟩

end Flight

/-- What an effect answers and does to the writes of its thread. -/
def Effect.lookFlight : (effect : Effect) → Flight → effect.Reply → Flight → Prop
  | .getLastError, part, reply, after => reply = part.lastError ∧ after = part
  | .unlock, part, _, after => after = part
  | .load _, part, _, after => after = part
  | .resetOverlapped .write, part, _, after => after = { part with block := Overlapped.zero }
  | .writeFile _ data overlapped outcome, part, reply, after =>
      (reply, after) = part.writeFile data overlapped outcome
  | .getOverlappedResult _ .write, part, reply, after => ∃ ended : Flight,
      (part.block.pending = false ∧ ended = part ∨
        part.block.pending = true ∧ ∃ data completion rest,
          part.writing = (data, completion) :: rest ∧ ended = part.land completion rest) ∧
      match ended.block.completion with
        | .ok _ => reply = true ∧ after = ended
        | .error error => reply = false ∧ after = { ended with lastError := error.code }
  | _, part, _, after => after.writing = part.writing ∧ after.block = part.block

section Exec

variable {thread other : Tid} {s after : State}

theorem completeBlock_lastError {block : Block} (completed : s.completeBlock block = some after) :
    after.lastError = s.lastError := by
  simp only [State.completeBlock] at completed
  split at completed <;> cases completed
  next transfer _ =>
    cases transfer with
    | write data completion => cases completion <;> rfl
    | read count completion => cases completion <;> rfl

/-- The oldest write lands. -/
theorem completeBlock_flight (completed : s.completeBlock .write = some after) :
    ∃ data completion rest, (s.flight thread).writing = (data, completion) :: rest ∧
      after.flight thread = (s.flight thread).land completion rest := by
  obtain ⟨data, completion, rest, writing, landed⟩ := completeBlock_write completed
  refine ⟨data, completion, rest, writing, ?_⟩
  have rests : (after.flight thread).writing = rest := congrArg Wire.writing landed
  have block : (after.flight thread).block = ⟨false, completion⟩ := congrArg Wire.block landed
  have lastError : (after.flight thread).lastError = (s.flight thread).lastError :=
    congrFun (completeBlock_lastError completed) thread
  simp only [Flight.land, Flight.ext_iff, rests, block, lastError, and_self]

/-- A transfer leaves the writes and their block alone if the wire says so. -/
theorem flight_of_otherBlock (same : OtherBlock thread s after) :
    (after.flight other).writing = (s.flight other).writing ∧
      (after.flight other).block = (s.flight other).block := by
  obtain ⟨code, wire, -⟩ := same
  exact ⟨congrArg Wire.writing wire, congrArg Wire.block wire⟩

theorem execWriteFile_flight {handle : Handle} (isComm : s.isComm handle = true)
    (data : List UInt8) (overlapped : Bool) (outcome : WriteOutcome) :
    ((execWriteFile thread handle data overlapped outcome s).1,
      (execWriteFile thread handle data overlapped outcome s).2.flight thread) =
        (s.flight thread).writeFile data overlapped outcome := by
  unfold execWriteFile Flight.writeFile
  rw [if_pos isComm]
  have lastError : ∀ code, (s.setLastError thread code).lastError thread = code :=
    fun _ => if_pos rfl
  cases outcome with
  | now count => cases overlapped <;> rfl
  | refused error notPending =>
      cases overlapped <;> exact congrArg (Prod.mk false) (Flight.ext rfl rfl (lastError _))
  | pending completion =>
      cases overlapped with
      | false =>
          cases completion with
          | ok count => rfl
          | error error => exact congrArg (Prod.mk false) (Flight.ext rfl rfl (lastError _))
      | true =>
          exact congrArg (Prod.mk false) (Flight.ext List.filterMap_append rfl (lastError _))

/-- `GetOverlappedResult` of a write, which may have to wait for it. -/
theorem execOverlappedResult_flight {handle : Handle} {reply : Bool}
    (executed : exec thread (.getOverlappedResult handle .write) s = some (reply, after)) :
    (Effect.getOverlappedResult handle .write).lookFlight (s.flight thread) reply
      (after.flight thread) := by
  obtain ⟨ended, fate, result⟩ := exec_getOverlappedResult executed
  refine ⟨ended.flight thread, ?_, ?_⟩
  · rcases fate with ⟨done, rfl⟩ | ⟨pending, completed⟩
    · exact .inl ⟨done, rfl⟩
    · exact .inr ⟨pending, completeBlock_flight completed⟩
  · have block : (ended.flight thread).block = ended.blocks .write := rfl
    rw [block]
    cases completion : (ended.blocks .write).completion with
    | ok count =>
        simp only [completion] at result ⊢
        exact ⟨result.1, congrArg (State.flight · thread) result.2⟩
    | error error =>
        simp only [completion] at result ⊢
        refine ⟨result.1, ?_⟩
        rw [result.2]
        exact Flight.ext rfl rfl (if_pos rfl)

theorem exec_flight {effect : Effect} {reply : effect.Reply}
    (opened : ∀ handle data overlapped outcome,
      effect = .writeFile handle data overlapped outcome → s.isComm handle = true)
    (executed : exec thread effect s = some (reply, after)) :
    effect.lookFlight (s.flight thread) reply (after.flight thread) := by
  have rests : effect.wires = false → (after.flight thread).writing = (s.flight thread).writing ∧
      (after.flight thread).block = (s.flight thread).block := by
    intro leaves
    obtain ⟨-, inFlight, blocks⟩ := (exec_beside executed).wires leaves
    simp only [State.flight, inFlight, blocks, and_self]
  cases effect with
  | getLastError | load =>
      cases executed
      first | exact ⟨rfl, rfl⟩ | rfl
  | unlock =>
      cases executed
      rfl
  | writeFile handle data overlapped outcome =>
      cases executed
      exact execWriteFile_flight (opened _ _ _ _ rfl) data overlapped outcome
  | resetOverlapped block =>
      cases executed
      cases block with
      | write => rfl
      | read => exact ⟨rfl, rfl⟩
  | readFile => exact flight_of_otherBlock (exec_readBlock rfl executed)
  | getOverlappedResult handle block =>
      cases block with
      | read => exact flight_of_otherBlock (exec_readBlock rfl executed)
      | write => exact execOverlappedResult_flight executed
  | _ => exact rests rfl

/-- Each thread has a last error of its own. -/
theorem exec_lastError {effect : Effect} {reply : effect.Reply} (different : other ≠ thread)
    (executed : exec thread effect s = some (reply, after)) :
    after.lastError other = s.lastError other := by
  have failed : ∀ (state : State) (code : Int),
      (state.setLastError thread code).lastError other = state.lastError other :=
    fun _ _ => if_neg different
  have resulted : ∀ (state : State) (block : Block),
      (execOverlappedResult thread block state).2.lastError other = state.lastError other := by
    intro state block
    unfold execOverlappedResult
    split
    · rfl
    · exact failed _ _
  cases effect with
  | writeFile handle data overlapped outcome =>
      cases executed
      unfold execWriteFile
      split
      · cases outcome with
        | now count => cases overlapped <;> rfl
        | refused error notPending => cases overlapped <;> exact failed _ _
        | pending completion =>
            cases overlapped with
            | true => exact failed _ _
            | false => cases completion <;> first | rfl | exact failed _ _
      · exact failed _ _
  | readFile handle count overlapped outcome =>
      cases executed
      unfold execReadFile
      split
      · cases outcome with
        | now done => cases overlapped <;> rfl
        | refused error notPending => cases overlapped <;> exact failed _ _
        | pending completion =>
            cases overlapped with
            | true => exact failed _ _
            | false => cases completion <;> first | rfl | exact failed _ _
      · exact failed _ _
  | getOverlappedResult handle block =>
      simp only [exec] at executed
      split at executed
      · split at executed <;> cases executed
        next ended completed =>
          rw [resulted, completeBlock_lastError completed]
      · cases executed
        exact resulted _ _
  | createFile name overlapped outcome queued =>
      cases outcome <;> cases executed <;> first | rfl | exact failed _ _
  | beginthreadex outcome => cases outcome <;> cases executed <;> first | rfl | exact failed _ _
  | setCommConfig handle cfg outcome =>
      simp only [exec] at executed
      split at executed
      · cases outcome <;> cases executed <;> first | rfl | exact failed _ _
      · cases executed
        exact failed _ _
  | setCommMask handle mask outcome =>
      simp only [exec] at executed
      split at executed
      · cases outcome <;> cases executed <;> first | rfl | exact failed _ _
      · cases executed
        exact failed _ _
  | setCommTimeouts =>
      cases executed
      split <;> rfl
  | purgeComm =>
      cases executed
      split <;> rfl
  | threadExit =>
      cases thread <;> cases executed
      rfl
  | lock | getConfig | waitForThread | rotatingLogger =>
      simp only [exec] at executed
      split at executed <;> cases executed <;> rfl
  | nullCall => cases executed
  | _ =>
      cases executed
      rfl

/-- A call that needs no turn leaves the writes and their block alone. -/
theorem exec_leaves {effect : Effect} {reply : effect.Reply} (leaves : effect.leavesBlock = true)
    (executed : exec thread effect s = some (reply, after)) :
    (after.flight other).writing = (s.flight other).writing ∧
      (after.flight other).block = (s.flight other).block := by
  have rests : effect.wires = false → (after.flight other).writing = (s.flight other).writing ∧
      (after.flight other).block = (s.flight other).block := by
    intro leaves
    obtain ⟨-, inFlight, blocks⟩ := (exec_beside executed).wires leaves
    simp only [State.flight, inFlight, blocks, and_self]
  cases effect with
  | resetOverlapped block =>
      cases block with
      | write => cases leaves
      | read =>
          cases executed
          exact ⟨rfl, rfl⟩
  | readFile => exact flight_of_otherBlock (exec_readBlock rfl executed)
  | writeFile handle data overlapped outcome =>
      cases overlapped with
      | true => cases leaves
      | false =>
          cases executed
          unfold execWriteFile
          split
          · cases outcome with
            | now | refused => exact ⟨rfl, rfl⟩
            | pending completion => cases completion <;> exact ⟨rfl, rfl⟩
          · exact ⟨rfl, rfl⟩
  | getOverlappedResult handle block =>
      cases block with
      | read => exact flight_of_otherBlock (exec_readBlock rfl executed)
      | write => cases leaves
  | _ => exact rests rfl

/-- Only a write that ends later is added to those in flight. -/
theorem exec_keeps {effect : Effect} {reply : effect.Reply} (keeps : effect.submits = false)
    (executed : exec thread effect s = some (reply, after))
    (idle : (s.flight other).writing = []) : (after.flight other).writing = [] := by
  by_cases leaves : effect.leavesBlock = true
  · exact (exec_leaves leaves executed).1.trans idle
  · cases effect with
    | resetOverlapped block =>
        cases executed
        exact idle
    | writeFile handle data overlapped outcome =>
        cases executed
        unfold execWriteFile
        split
        · cases overlapped with
          | false => exact absurd rfl leaves
          | true =>
              cases outcome with
              | now | refused => exact idle
              | pending completion => cases keeps
        · exact idle
    | getOverlappedResult handle block =>
        cases block with
        | read => exact absurd rfl leaves
        | write =>
            obtain ⟨ended, fate, result⟩ := execOverlappedResult_flight executed
            have nothing : ended.writing = [] := by
              rcases fate with ⟨-, rfl⟩ | ⟨-, data, completion, rest, writing, rfl⟩
              · exact idle
              · have none : (s.flight thread).writing = [] := idle
                simp [none] at writing
            show (after.flight thread).writing = []
            cases completion : ended.block.completion with
            | ok count =>
                simp only [completion] at result
                rw [result.2]
                exact nothing
            | error error =>
                simp only [completion] at result
                rw [result.2]
                exact nothing
    | _ => exact absurd rfl leaves

theorem exec_apart {alone : Bool} {effect : Effect} {reply : effect.Reply}
    (keeps : effect.submits = false) (unshared : alone = true → effect.leavesBlock = true)
    (different : other ≠ thread) (executed : exec thread effect s = some (reply, after)) :
    (s.flight other).Drifts alone (after.flight other) := by
  cases alone with
  | true =>
      have same : (after.flight other).writing = (s.flight other).writing ∧
          (after.flight other).block = (s.flight other).block :=
        exec_leaves (unshared rfl) executed
      have kept : after.flight other = s.flight other :=
        Flight.ext same.1 same.2 (exec_lastError different executed)
      rw [kept]
      exact (Flight.Lands.still _).drifts
  | false => exact ⟨exec_lastError different executed, exec_keeps keeps executed, nofun⟩

theorem external_flight {event : Event} (changed : system.external event s = some after) :
    (s.flight thread).Lands (after.flight thread) := by
  cases event with
  | arrived bytes =>
      cases changed
      exact .still _
  | completed block =>
      cases block with
      | read =>
          have wire := completeBlock_read changed
          have same : after.flight thread = s.flight thread :=
            Flight.ext (congrArg Wire.writing wire) (congrArg Wire.block wire)
              (congrFun (completeBlock_lastError changed) thread)
          rw [same]
          exact .still _
      | write =>
          obtain ⟨data, completion, rest, writing, landed⟩ := completeBlock_flight changed
          rw [landed]
          exact .lands writing (.still _)

end Exec

/-! ## A `send` in its turn -/

/-- What `send` returns for its write. -/
def WriteOutcome.report (data : List UInt8) : WriteOutcome → Int
  | .now _ => 0
  | .pending (.ok _) => ofUnsigned data.length
  | .pending (.error error) | .refused error _ => error.code

/-- The block is reset and submitted while no write is in flight, and a call that waits
finds its own write there. -/
def FlightPoint (job : Job) (effect : Effect) (part : Flight) : Prop :=
  match effect with
  | .resetOverlapped .write | .writeFile _ _ true _ => part.writing = []
  | .getOverlappedResult _ .write => ∃ data completion,
      job = .operation (.send (some data) (.pending completion)) ∧ part.Awaits data completion
  | _ => True

/-- A `send` has reported its own write. -/
def Reported (job : Job) (result : Result) : Prop :=
  ∀ data outcome, job = .operation (.send (some data) outcome) →
    result = .value (.code (outcome.report data))

section Send

variable {job : Job} {part : Flight} {α : Type} {post : α → Flight → Prop} {data : List UInt8}
  {outcome : WriteOutcome}

abbrev FlightAmid (job : Job) (program : Code α) (post : α → Flight → Prop) (part : Flight) : Prop :=
  program.Amid (Flight.Drifts (sendTurns.alone job)) Effect.lookFlight (FlightPoint job) post part

/-- An effect while no write is in flight. -/
theorem quiet_act {effect : Effect} {next : effect.Reply → Code α} (idle : part.writing = [])
    (pointed : ∀ now : Flight, now.writing = [] → FlightPoint job effect now)
    (continued : ∀ now reply after, now.writing = [] → now.lastError = part.lastError →
      effect.lookFlight now reply after → FlightAmid job (next reply) post after) :
    FlightAmid job (.act effect next) post part := by
  intro now drifts
  have idleNow := drifts.writing idle
  exact ⟨pointed now idleNow,
    fun reply after looked => continued now reply after idleNow drifts.lastError looked⟩

theorem quiet_ret {value : α} (ends : ∀ now : Flight, now.writing = [] → post value now)
    (idle : part.writing = []) : FlightAmid job (.ret value) post part :=
  fun now drifts => ends now (drifts.writing idle)

/-- The end of a `send` that has its code. -/
abbrev Reports (job : Job) (data : List UInt8) (outcome : WriteOutcome) (program : Code Int)
    (part : Flight) : Prop :=
  FlightAmid job program (fun code after => code = outcome.report data ∧ after.writing = []) part

theorem reports_code {code : Int} (idle : part.writing = []) (same : code = outcome.report data) :
    Reports job data outcome (.ret code) part :=
  quiet_ret (fun _ idleNow => ⟨same, idleNow⟩) idle

/-- The last error is the code of the write. -/
theorem reports_lastError (idle : part.writing = []) (same : part.lastError = outcome.report data) :
    Reports job data outcome (do return ← perform .getLastError) part := by
  refine quiet_act idle (fun _ _ => trivial) fun now code after idleNow kept looked => ?_
  obtain ⟨rfl, rfl⟩ := looked
  exact reports_code idleNow (kept.trans same)

theorem finishWrite_now {count : Nat} (idle : part.writing = []) :
    Reports job data (.now count) (finishWrite data true) part := by
  refine quiet_act idle (fun _ _ => trivial) fun now _ after idleNow _ looked => ?_
  cases looked
  exact reports_code idleNow rfl

theorem finishWrite_refused {error : SystemError} (notPending : error.code ≠ ERROR_IO_PENDING)
    (idle : part.writing = []) (failed : part.lastError = error.code) :
    Reports job data (.refused error notPending) (finishWrite data false) part := by
  refine quiet_act idle (fun _ _ => trivial) fun now errorId after idleNow kept looked => ?_
  obtain ⟨rfl, rfl⟩ := looked
  refine quiet_act idleNow (fun _ _ => trivial) fun later _ after idleLater keptToo looked => ?_
  cases looked
  have code : after.lastError = error.code := kept.trans failed
  rw [code] at keptToo ⊢
  have unequal : (!false && decide (error.code = ERROR_IO_PENDING)) = false :=
    decide_eq_false notPending
  change FlightAmid job (awaitWrite false error.code >>= _) _ _
  rw [awaitWrite, unequal]
  exact reports_lastError idleLater keptToo

/-- A call alone in its turn stands with its write in flight. -/
theorem awaiting_act {completion : Completion} {effect : Effect} {next : effect.Reply → Code α}
    (alone : sendTurns.alone job = true) (awaits : part.Awaits data completion)
    (pointed : ∀ now : Flight, now.Awaits data completion → FlightPoint job effect now)
    (continued : ∀ now reply after, now.Awaits data completion → now.lastError = part.lastError →
      effect.lookFlight now reply after → FlightAmid job (next reply) post after) :
    FlightAmid job (.act effect next) post part := by
  intro now drifts
  have awaitsNow := awaits.lands (drifts.lands alone)
  exact ⟨pointed now awaitsNow,
    fun reply after looked => continued now reply after awaitsNow drifts.lastError looked⟩

/-- The end of a `send` that waits for its write. -/
theorem finishWrite_later {completion : Completion}
    (own : job = .operation (.send (some data) (.pending completion)))
    (awaits : part.Awaits data completion) (pending : part.lastError = ERROR_IO_PENDING) :
    Reports job data (.pending completion) (finishWrite data false) part := by
  have alone : sendTurns.alone job = true := by
    rw [own]
    rfl
  refine awaiting_act alone awaits (fun _ _ => trivial) fun now errorId _ awaits kept looked => ?_
  obtain ⟨rfl, rfl⟩ := looked
  rw [pending] at kept
  rw [kept]
  refine awaiting_act alone awaits (fun _ _ => trivial) fun now _ _ awaits _ looked => ?_
  cases looked
  refine awaiting_act alone awaits (fun _ _ => trivial) fun now handle _ awaits _ looked => ?_
  cases looked
  refine awaiting_act alone awaits (fun _ awaits => ⟨data, completion, own, awaits⟩)
    fun now ended after awaits _ looked => ?_
  obtain ⟨landed, fate, result⟩ := looked
  have known : landed.writing = [] ∧ landed.block.completion = completion := by
    rcases awaits with ⟨single, pending⟩ | ⟨idle, block⟩
    · rcases fate with ⟨done, -⟩ | ⟨-, _, _, rest, writing, rfl⟩
      · rw [pending] at done
        cases done
      · rw [single] at writing
        cases writing
        exact ⟨rfl, rfl⟩
    · rcases fate with ⟨-, rfl⟩ | ⟨pending, -⟩
      · exact ⟨idle, by rw [block]⟩
      · rw [block] at pending
        cases pending
  obtain ⟨idle, completed⟩ := known
  rw [completed] at result
  cases completion with
  | ok count =>
      obtain ⟨rfl, rfl⟩ := result
      exact reports_code idle rfl
  | error error =>
      obtain ⟨rfl, rfl⟩ := result
      exact reports_lastError idle rfl

/-- `send` from its reset of the block on. -/
theorem sendOverlapped_reports (own : job = .operation (.send (some data) outcome))
    (idle : part.writing = []) : Reports job data outcome (sendOverlapped data outcome) part := by
  have alone : sendTurns.alone job = outcome.later := by
    rw [own]
    rfl
  refine quiet_act idle (fun _ idle => idle) fun now _ after idle _ looked => ?_
  cases looked
  refine quiet_act idle (fun _ _ => trivial) fun now event after idle _ looked => ?_
  replace idle : after.writing = [] := looked.1.trans idle
  refine quiet_act idle (fun _ _ => trivial) fun now _ after idle _ looked => ?_
  replace idle : after.writing = [] := looked.1.trans idle
  refine quiet_act idle (fun _ _ => trivial) fun now _ after idle _ looked => ?_
  replace idle : after.writing = [] := looked.1.trans idle
  refine quiet_act idle (fun _ _ => trivial) fun now handle _ idle _ looked => ?_
  cases looked
  refine quiet_act idle (fun _ idle => idle) fun now written after idle _ looked => ?_
  obtain ⟨rfl, rfl⟩ := Prod.mk.inj looked
  cases outcome with
  | now count => exact finishWrite_now idle
  | refused error notPending => exact finishWrite_refused notPending idle rfl
  | pending completion =>
      refine finishWrite_later own (.inl ⟨?_, rfl⟩) rfl
      show now.writing ++ [(data, completion)] = [(data, completion)]
      rw [idle]
      rfl

theorem drifts_refl (part : Flight) : part.Drifts (sendTurns.alone job) part :=
  (Flight.Lands.still part).drifts

/-- An effect of the record after the code is known. -/
theorem reports_leave {program : Code Int} (reports : Reports job data outcome program part) :
    Reports job data outcome (leaving .send program) part := by
  refine Prog.Amid.bind drifts_refl reports fun code after known => ?_
  obtain ⟨same, idle⟩ := known
  refine quiet_act idle (fun _ _ => trivial) fun now _ after idle _ looked => ?_
  have idleAfter : after.writing = [] := looked.1.trans idle
  exact reports_code idleAfter same

theorem reports_value {program : Code Int} (reports : Reports job data outcome program part) :
    FlightAmid job (do return .code (← program) : Code Value)
      (fun value after => value = .code (outcome.report data) ∧ after.writing = []) part := by
  refine Prog.Amid.bind drifts_refl reports fun code after known => ?_
  obtain ⟨same, idle⟩ := known
  exact quiet_ret (fun _ idle => ⟨congrArg Value.code same, idle⟩) idle

theorem reports_return {program : Code Value} {operation : Operation}
    (own : job = .operation (.send (some data) outcome))
    (reports : FlightAmid job program
      (fun value after => value = .code (outcome.report data) ∧ after.writing = []) part) :
    FlightAmid job (do
      let value ← program
      perform (.returned operation value)
      return .value value : Code Result)
      (fun result after => Reported job result ∧ after.writing = []) part := by
  refine Prog.Amid.bind drifts_refl reports fun value after known => ?_
  obtain ⟨rfl, idle⟩ := known
  refine quiet_act idle (fun _ _ => trivial) fun now _ after idle _ looked => ?_
  have idleAfter : after.writing = [] := looked.1.trans idle
  refine quiet_ret (fun _ idle => ⟨fun _ _ other => ?_, idle⟩) idleAfter
  rw [own] at other
  cases other
  rfl

end Send

/-! ## The calls in their turns -/

section Turns

abbrev InSendTurn (job : Job) (program : Code Result) : Prop :=
  ∀ now : Flight, now.writing = [] → FlightAmid job program
    (fun result after => Reported job result ∧ after.writing = []) now

/-- Programs that need no turn. -/
abbrev Turnless (job : Job) {α : Type} (program : Code α) : Prop :=
  program.Only fun effect => sendTurns.enters job effect = false ∧ effect.leavesBlock = true

theorem enters_of_ne {job : Job} {effect : Effect} (other : effect ≠ .resetOverlapped .write) :
    sendTurns.enters job effect = false := by
  simp only [sendTurns]
  split
  · exact absurd rfl other
  · rfl

theorem turnless_of_sendless {job : Job} {α : Type} {program : Code α}
    (sendless : Sendless program) : Turnless job program := by
  refine sendless.mono fun effect sends => ⟨enters_of_ne ?_, ?_⟩
  · intro same
    subst same
    cases sends
  · cases effect with
    | resetOverlapped block | getOverlappedResult handle block =>
        cases block <;> first | rfl | cases sends
    | writeFile => cases sends
    | _ => rfl

theorem sendless_of_monitors {program : Code Result}
    (only : program.Only fun effect => effect.monitors = true) : Sendless program := by
  refine only.mono fun effect monitors => ?_
  cases effect with
  | resetOverlapped block | getOverlappedResult handle block =>
      cases block <;> first | rfl | cases monitors
  | writeFile => cases monitors
  | _ => rfl

/-- All jobs but a `send` with a buffer. -/
theorem runJob_sendless {thread : Tid} {last : Option Result} {s : State} {job : Job}
    (admitted : admits thread last s job = true)
    (silent : ∀ data outcome, job ≠ .operation (.send (some data) outcome)) :
    Sendless (runJob job) := by
  cases thread with
  | worker number => exact sendless_of_monitors (runJob_monitors admitted)
  | client number =>
      cases job with
      | operation operation =>
          have silent : ∀ data outcome, operation ≠ .send (some data) outcome :=
            fun data outcome same => silent data outcome (congrArg Job.operation same)
          exact (runOperation_sendless silent).bind fun _ => ⟨rfl, fun _ => trivial⟩
      | enter | iteration => cases admitted

/-- `send` in the synchronous mode starts no overlapped write. -/
theorem sendPlain_turnless {job : Job} {data : List UInt8} {outcome : WriteOutcome} :
    Turnless job (sendPlain data outcome) := by
  have leaves : (sendPlain data outcome).Only fun effect =>
      effect ≠ .resetOverlapped .write ∧ effect.leavesBlock = true :=
    sendPlain_only ⟨nofun, rfl⟩ ⟨nofun, rfl⟩ (fun _ => ⟨nofun, rfl⟩) ⟨nofun, rfl⟩
  exact leaves.mono fun _ kept => ⟨enters_of_ne kept.1, kept.2⟩

theorem send_takesTurn {data : List UInt8} {outcome : WriteOutcome} :
    (runJob (.operation (.send (some data) outcome))).Entering
      (sendTurns.enters (.operation (.send (some data) outcome))) Effect.leavesBlock
      (InSendTurn (.operation (.send (some data) outcome))) := by
  have body : (send (some data) outcome).Entering
      (sendTurns.enters (.operation (.send (some data) outcome))) Effect.leavesBlock
      fun program => ∀ part : Flight, part.writing = [] →
        Reports (.operation (.send (some data) outcome)) data outcome program part := by
    refine Prog.Entering.bind (fun _ reports part idle => reports_leave (reports part idle))
      (?_ : Prog.Entering _ _ (fun program => ∀ part : Flight, part.writing = [] →
        Reports (.operation (.send (some data) outcome)) data outcome program part) _) fun _ => ?_
    · refine Prog.Entering.ite (fun _ => trivial) fun _ => .act (by rfl) (by rfl) fun opened => ?_
      refine Prog.Entering.ite (fun _ => .act (by rfl) (by rfl) fun spp => ?_) fun _ => trivial
      refine Prog.Entering.ite (fun _ => ?_) fun _ => .of_only sendPlain_turnless
      exact .enter (by rfl) fun part idle => sendOverlapped_reports rfl idle
    · exact .act (by rfl) (by rfl) fun _ => trivial
  have coded : (runOperation (.send (some data) outcome)).Entering
      (sendTurns.enters (.operation (.send (some data) outcome))) Effect.leavesBlock
      fun program => ∀ part : Flight, part.writing = [] →
        FlightAmid (.operation (.send (some data) outcome)) program
          (fun value after => value = .code (outcome.report data) ∧ after.writing = []) part := by
    refine body.bind (fun _ reports part idle => ?_) fun _ => trivial
    exact reports_value (reports part idle)
  refine coded.bind (fun _ reports part idle => reports_return rfl (reports part idle)) fun _ => ?_
  exact .act (by rfl) (by rfl) fun _ => trivial

/-- A `send` whose write ends at once submits nothing. -/
theorem send_submitsNothing {data : List UInt8} {outcome : WriteOutcome}
    (atOnce : outcome.later = false) :
    (runJob (.operation (.send (some data) outcome))).Only fun effect =>
      effect.submits = false := by
  have sent : (send (some data) outcome).Only fun effect => effect.submits = false := by
    refine send_only (fun effect transmits => ?_) fun _ _ overlapped => ?_
    · cases effect <;> first | rfl | cases transmits
    · cases overlapped <;> first | rfl | exact atOnce
  have coded : (runOperation (.send (some data) outcome)).Only fun effect =>
      effect.submits = false := sent.bind fun _ => trivial
  exact coded.bind fun _ => ⟨rfl, fun _ => trivial⟩

theorem send_fair : sendTurns.Fair system openPort Effect.submits Effect.leavesBlock
    (fun thread s => s.flight thread) (fun part => part.writing = [])
    (fun job => Flight.Drifts (sendTurns.alone job)) Effect.lookFlight FlightPoint Reported where
  harmless leaves := submits_of_leaves leaves
  refl _ part := drifts_refl part
  trans early late := early.trans late
  begins _ := rfl
  agree settled := settled
  mine {thread job effect s reply after} opened executed := by
    refine exec_flight (fun handle data overlapped outcome same => ?_) executed
    subst same
    exact opened
  apart keeps unshared different executed := exec_apart keeps unshared different executed
  keeps keeps idle executed := exec_keeps keeps executed idle
  external changed := (external_flight changed).drifts
  rests {thread event s after} idle changed := by
    have lands : (s.flight thread).Lands (after.flight thread) := external_flight changed
    rw [lands.eq_of_idle idle]
    exact idle
  body {thread last s job} admitted := by
    by_cases sends : ∃ data outcome, job = .operation (.send (some data) outcome)
    · obtain ⟨data, outcome, rfl⟩ := sends
      exact send_takesTurn
    · have silent : ∀ data outcome, job ≠ .operation (.send (some data) outcome) :=
        fun data outcome same => sends ⟨data, outcome, same⟩
      exact .of_only (turnless_of_sendless (runJob_sendless admitted silent))
  shared {thread last s job} admitted shares := by
    by_cases sends : ∃ data outcome, job = .operation (.send (some data) outcome)
    · obtain ⟨data, outcome, rfl⟩ := sends
      exact send_submitsNothing shares
    · have silent : ∀ data outcome, job ≠ .operation (.send (some data) outcome) :=
        fun data outcome same => sends ⟨data, outcome, same⟩
      refine (runJob_sendless admitted silent).mono fun effect sends => ?_
      cases effect with
      | writeFile => cases sends
      | _ => rfl

end Turns

/-- The writes that the driver has accepted and not completed. -/
def State.writing (s : State) : List (List UInt8 × Completion) :=
  s.inFlight.filterMap Submitted.write?

/-- In every run of any number of clients on an open port in which a `send` whose write
the driver completes later, from its reset of the block to its return, overlaps no other
`send` there: the block is only reset and submitted while no write is in flight, a `send`
that waits finds its own write in flight or landed, and every `send` reports its own. -/
theorem sends_undisturbed (config : Config Tid State Effect Effect.Reply Job Result)
    (leads : system.Leads (sendTurns.within openPort) system.initial config)
    (thread : Tid) (call : Call State Effect Effect.Reply Job Result)
    (calls : config.calls thread = some call) :
    (call.Next (.resetOverlapped .write) →
      sendTurns.rule config (.act thread : Label Tid Job Event) → config.state.writing = []) ∧
    (∀ handle data outcome, call.Next (.writeFile handle data true outcome) →
      config.state.writing = []) ∧
    (∀ handle, call.Next (.getOverlappedResult handle .write) → ∃ data completion,
      call.job = .operation (.send (some data) (.pending completion)) ∧
        (config.state.writing = [(data, completion)] ∧
            (config.state.blocks .write).pending = true ∨
          config.state.writing = [] ∧ config.state.blocks .write = ⟨false, completion⟩)) ∧
    ∀ data outcome value, call.job = .operation (.send (some data) outcome) →
      call.Entered sendTurns → call.Returned value →
      value = .value (.code (outcome.report data)) := by
  have standing : ∀ effect, effect ≠ .resetOverlapped .write → effect.leavesBlock = false →
      call.Next effect → FlightPoint call.job effect (config.state.flight thread) := by
    intro effect other uses next
    by_cases entered : call.Entered sendTurns
    · exact Turns.point_of_inTurn send_fair leads calls entered next
    · have leaves := Turns.outside_of_waiting send_fair leads calls entered next (enters_of_ne other)
      rw [uses] at leaves
      cases leaves
  refine ⟨fun next ruled => ?_, fun handle data outcome next => ?_, fun handle next => ?_,
    fun data outcome value job entered returned => ?_⟩
  · by_cases entered : call.Entered sendTurns
    · exact Turns.point_of_inTurn send_fair leads calls entered next
    · cases entering : sendTurns.enters call.job (.resetOverlapped .write) with
      | true => exact Turns.point_of_entering send_fair leads calls next entering ruled
      | false =>
          have leaves := Turns.outside_of_waiting send_fair leads calls entered next entering
          cases leaves
  · exact standing (.writeFile handle data true outcome) nofun rfl next
  · exact standing (.getOverlappedResult handle .write) nofun rfl next
  · exact Turns.verdict_of_returned send_fair leads calls entered returned data outcome job

/-- A port open in the asynchronous mode, with a `send` that waits for its write. -/
def waitingRun (completion : Completion) : List (Label Tid Job Event) :=
  Label.burst (.client 0) (.operation (.init eightNone none)) 4 ++
    Label.burst (.client 0) (.operation (.open .fine)) 36 ++
    Label.burst (.client 0) (.operation (.send (some [0x55]) (.pending completion))) 11

/-- One client waits for its write, and another, whose `send` has found the port open, is
about to reset the block. -/
theorem sends_undisturbed_waiting :
    ∃ config other call, system.Leads (sendTurns.within openPort) system.initial config ∧
      config.calls (.client 1) = some other ∧ other.Next (.resetOverlapped .write) ∧
      config.calls (.client 0) = some call ∧ ∃ data completion,
        call.job = .operation (.send (some data) (.pending completion)) ∧
        (config.state.writing = [(data, completion)] ∧
            (config.state.blocks .write).pending = true ∨
          config.state.writing = [] ∧ config.state.blocks .write = ⟨false, completion⟩) := by
  have ran : ∃ opened done sends other config call,
      system.steps openPort system.initial (
        Label.burst (.client 0) (.operation (.init eightNone none)) 4 ++
        Label.burst (.client 0) (.operation (.open .fine)) 36) = some opened ∧
      opened.calls (.client 0) = some done ∧ done.Returned (.value (.code 0)) ∧
      system.steps openPort opened
        (Label.burst (.client 1) (.operation (.send (some [0x66]) (.pending (.ok 1)))) 2) =
          some sends ∧
      sends.calls (.client 1) = some other ∧ other.past.any (sendTurns.enters other.job) = false ∧
      other.Next (.resetOverlapped .write) ∧
      system.steps openPort sends
        (Label.burst (.client 0) (.operation (.send (some [0x55]) (.pending (.ok 1)))) 11) =
          some config ∧
      config.calls (.client 1) = some other ∧
      config.calls (.client 0) = some call ∧ call.Next (.getOverlappedResult 2 .write) :=
    ⟨_, _, _, _, _, _, rfl, rfl, rfl, rfl, rfl, rfl, ⟨_, rfl⟩, rfl, rfl, rfl, _, rfl⟩
  obtain ⟨opened, done, sends, other, config, call, opens, doneCalls, returned, begun, otherCalls,
    past, resets, waits, still, calls, standing⟩ := ran
  have before : ¬ other.InTurn sendTurns := by
    rintro ⟨⟨effect, member, entering⟩, -⟩
    simp [List.any_eq_false.mp past effect member] at entering
  have leads := Turns.leads_of_overtaking opens doneCalls returned begun otherCalls before waits rfl
    rfl rfl
  have undisturbed := sends_undisturbed config leads (.client 0) call calls
  exact ⟨config, other, call, leads, still, resets, calls, undisturbed.2.2.1 2 standing⟩

/-- `ERROR_OPERATION_ABORTED` -/
def aborted : SystemError := ⟨995, by decide⟩

/-- While the write of client 0 is in flight, client 1 resets its block, submits another
write with it, and by the reset lets client 0 report an end that the write has not. -/
theorem sends_disturbed :
    (∃ config call, system.steps openPort system.initial (waitingRun (.error aborted) ++
        Label.burst (.client 1) (.operation (.send (some [0x66]) (.pending (.ok 1)))) 2) =
          some config ∧
      config.calls (.client 1) = some call ∧ call.Next (.resetOverlapped .write) ∧
      config.state.writing = [([0x55], .error aborted)]) ∧
    (∃ config call, system.steps openPort system.initial (waitingRun (.error aborted) ++
        Label.burst (.client 1) (.operation (.send (some [0x66]) (.pending (.ok 1)))) 7) =
          some config ∧
      config.calls (.client 1) = some call ∧
      call.Next (.writeFile 2 [0x66] true (.pending (.ok 1))) ∧
      config.state.writing = [([0x55], .error aborted)]) ∧
    ∃ config call, system.steps openPort system.initial (waitingRun (.error aborted) ++
        Label.burst (.client 1) (.operation (.send (some [0x66]) (.pending (.ok 1)))) 3 ++
        List.replicate 3 (.act (.client 0))) = some config ∧
      config.calls (.client 0) = some call ∧ call.Returned (.value (.code 1)) ∧
      config.state.writing = [([0x55], .error aborted)] :=
  ⟨⟨_, _, rfl, rfl, ⟨_, rfl⟩, rfl⟩, ⟨_, _, rfl, rfl, ⟨_, rfl⟩, rfl⟩, ⟨_, _, rfl, rfl, rfl, rfl⟩⟩

end LibSp.Windows
