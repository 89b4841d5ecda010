import LibSp.Windows.Threads
import LibSp.Windows.MutexRecv

/-!
# Sending on Windows

A `send` of the single client, from its call to its return or to a mutex that it has
already locked, while the driver completes its write whenever it likes.
-/

set_option autoImplicit false

namespace LibSp.Windows

open Concurrent

/-! ## The wire: the view, the writes of the client, and whether it owns the mutex -/

structure Wire where
  view : View
  owns : Bool
  sent : List UInt8
  /-- The writes that the driver has accepted and not completed. -/
  writing : List (List UInt8 × Completion)
  block : Overlapped
  lastError : Int

def Submitted.write? : Submitted → Option (List UInt8 × Completion)
  | .write data completion => some (data, completion)
  | .read .. => none

def State.wire (s : State) : Wire where
  view := s.view
  owns := decide (s.mutexRecv = some (.client 0))
  sent := s.sent
  writing := s.inFlight.filterMap Submitted.write?
  block := s.blocks .write
  lastError := s.lastError (.client 0)

namespace Wire

/-- The driver completes the write and fills its block. -/
def land (wire : Wire) (data : List UInt8) (completion : Completion)
    (rest : List (List UInt8 × Completion)) : Wire :=
  { wire with
    sent := match completion with
      | .ok count => wire.sent ++ data.take count
      | .error _ => wire.sent
    writing := rest
    block := ⟨false, completion⟩ }

/-- `WriteFile` by the client. -/
def writeFile (wire : Wire) (handle : Handle) (data : List UInt8) (overlapped : Bool)
    (outcome : WriteOutcome) : Bool × Wire :=
  if wire.view.isComm handle then
    match outcome, overlapped with
    | .now count, true =>
        (true, { wire with sent := wire.sent ++ data.take count, block := ⟨false, .ok count⟩ })
    | .now count, false => (true, { wire with sent := wire.sent ++ data.take count })
    | .pending completion, true => (false, { wire with
        writing := wire.writing ++ [(data, completion)]
        block := ⟨true, .ok 0⟩
        lastError := ERROR_IO_PENDING })
    | .pending (.ok count), false => (true, { wire with sent := wire.sent ++ data.take count })
    | .pending (.error error), false => (false, { wire with lastError := error.code })
    | .refused error _, _ => (false, { wire with lastError := error.code })
  else (false, { wire with lastError := ERROR_INVALID_HANDLE })

/-- The driver completes writes, the oldest first. -/
inductive Drifts : Wire → Wire → Prop where
  | still (wire : Wire) : Drifts wire wire
  | lands {wire after : Wire} {data : List UInt8} {completion : Completion}
      {rest : List (List UInt8 × Completion)} :
      wire.writing = (data, completion) :: rest →
      Drifts (wire.land data completion rest) after → Drifts wire after

theorem Drifts.trans {first second third : Wire} (early : first.Drifts second)
    (late : second.Drifts third) : first.Drifts third := by
  induction early with
  | still => exact late
  | lands writing _ ih => exact .lands writing (ih late)

theorem Drifts.eq_of_idle {wire after : Wire} (drifts : wire.Drifts after)
    (idle : wire.writing = []) : after = wire := by
  cases drifts with
  | still => rfl
  | lands writing => simp [idle] at writing

/-- One write in flight is still there or has landed. -/
theorem Drifts.cases_of_single {wire after : Wire} {data : List UInt8} {completion : Completion}
    (drifts : wire.Drifts after) (single : wire.writing = [(data, completion)]) :
    after = wire ∨ after = wire.land data completion [] := by
  cases drifts with
  | still => exact .inl rfl
  | lands writing later =>
      rw [single] at writing
      cases writing
      exact .inr (later.eq_of_idle rfl)

end Wire

/-- What an effect of client 0 answers and does to the wire. -/
def Effect.lookWire : (effect : Effect) → Wire → effect.Reply → Wire → Prop
  | .lock, wire, _, after => wire.owns = false ∧ after = { wire with owns := true }
  | .unlock, wire, _, after => after = { wire with owns := false }
  | .load field, wire, reply, after =>
      (∀ value, wire.view.get? field = some value → reply = value) ∧ after = wire
  | .isOpened, wire, reply, after =>
      reply = decide (wire.view.handle ≠ INVALID_HANDLE_VALUE) ∧ after = wire
  | .getLastError, wire, reply, after => reply = wire.lastError ∧ after = wire
  | .resetOverlapped .write, wire, _, after => after = { wire with block := Overlapped.zero }
  | .writeFile handle data overlapped outcome, wire, reply, after =>
      (reply, after) = wire.writeFile handle data overlapped outcome
  | .getOverlappedResult _ .write, wire, reply, after => ∃ ended : Wire,
      (wire.block.pending = false ∧ ended = wire ∨
        wire.block.pending = true ∧ ∃ data completion rest,
          wire.writing = (data, completion) :: rest ∧ ended = wire.land data completion rest) ∧
      match ended.block.completion with
        | .ok _ => reply = true ∧ after = ended
        | .error error => reply = false ∧ after = { ended with lastError := error.code }
  | effect, wire, reply, after => effect.look wire.view reply after.view ∧
      after.owns = wire.owns ∧ after.sent = wire.sent ∧ after.writing = wire.writing

/-! ### Transfers -/

section Transfers

variable {s after : State}

theorem filterMap_eraseP_write {inFlight : List Submitted} {transfer : Submitted}
    (found : inFlight.find? (fun transfer => transfer.block = .write) = some transfer) :
    ∃ data completion, transfer = .write data completion ∧
      inFlight.filterMap Submitted.write? = (data, completion) ::
        (inFlight.eraseP fun transfer => transfer.block = .write).filterMap Submitted.write? := by
  induction inFlight with
  | nil => cases found
  | cons first rest ih =>
      cases first with
      | write data completion =>
          cases found
          exact ⟨data, completion, rfl, rfl⟩
      | read count completion => exact ih found

theorem filterMap_eraseP_read (inFlight : List Submitted) :
    (inFlight.eraseP fun transfer => transfer.block = .read).filterMap Submitted.write? =
      inFlight.filterMap Submitted.write? := by
  induction inFlight with
  | nil => rfl
  | cons first rest ih =>
      cases first with
      | write data completion => exact congrArg ((data, completion) :: ·) ih
      | read count completion => rfl

theorem wire_of_transferred (transferred : s.Transferred after) :
    after.view = s.view ∧ after.wire.owns = s.wire.owns := by
  have members := transferred.members
  refine ⟨view_of_members members rfl rfl transferred.device, ?_⟩
  have mutexRecv : after.mutexRecv = s.mutexRecv := congrArg Members.mutexRecv members
  simp only [State.wire, mutexRecv]

/-- A completed write lands, the others stay in flight. -/
theorem completeBlock_write (completed : s.completeBlock .write = some after) :
    ∃ data completion rest, s.wire.writing = (data, completion) :: rest ∧
      after.wire = s.wire.land data completion rest := by
  obtain ⟨view, owns⟩ := wire_of_transferred (completeBlock_transferred s completed)
  simp only [State.completeBlock] at completed
  split at completed
  · cases completed
  · next transfer found =>
      obtain ⟨data, completion, rfl, writing⟩ := filterMap_eraseP_write found
      refine ⟨data, completion, _, writing, ?_⟩
      cases completed
      cases completion <;> simp only [State.wire, Wire.land, view, Wire.mk.injEq] at owns ⊢ <;>
        exact ⟨trivial, owns, rfl, rfl, rfl, rfl⟩

theorem completeBlock_read (completed : s.completeBlock .read = some after) :
    after.wire = s.wire := by
  obtain ⟨view, owns⟩ := wire_of_transferred (completeBlock_transferred s completed)
  simp only [State.completeBlock] at completed
  split at completed
  · cases completed
  · next transfer found =>
      have isRead : transfer.block = .read := by simpa using List.find?_some found
      cases transfer with
      | write data completion => cases isRead
      | read count completion =>
          have writing := filterMap_eraseP_read s.inFlight
          cases completed
          cases completion <;> simp only [State.wire, view, Wire.mk.injEq] at owns ⊢ <;>
            exact ⟨trivial, owns, rfl, writing, rfl, rfl⟩

/-- The driver completes a transfer. -/
theorem external_wire {event : Event} (changed : system.external event s = some after) :
    s.wire.Drifts after.wire := by
  cases event with
  | arrived bytes =>
      cases changed
      exact .still _
  | completed block =>
      cases block with
      | read =>
          rw [completeBlock_read changed]
          exact .still _
      | write =>
          obtain ⟨data, completion, rest, writing, landed⟩ := completeBlock_write changed
          rw [landed]
          exact .lands writing (.still _)

theorem execWriteFile_wire (handle : Handle) (data : List UInt8) (overlapped : Bool)
    (outcome : WriteOutcome) :
    ((execWriteFile (.client 0) handle data overlapped outcome s).1,
      (execWriteFile (.client 0) handle data overlapped outcome s).2.wire) =
        s.wire.writeFile handle data overlapped outcome := by
  have isComm : s.wire.view.isComm handle = s.isComm handle := isComm_view s handle
  unfold execWriteFile Wire.writeFile
  rw [isComm]
  split
  · cases outcome with
    | now count => cases overlapped <;> rfl
    | refused error notPending => cases overlapped <;> rfl
    | pending completion =>
        cases overlapped with
        | false => cases completion <;> rfl
        | true =>
            have writing : (s.inFlight ++ [Submitted.write data completion]).filterMap Submitted.write? =
                s.wire.writing ++ [(data, completion)] := List.filterMap_append
            simp only [State.wire, State.submit, State.setBlock, State.setLastError, writing]
            rfl
  · rfl

/-- All that a transfer of another block can do to the wire. -/
def OtherBlock (thread : Tid) (s after : State) : Prop :=
  ∃ code, after.wire = { s.wire with lastError := code } ∧
    (thread ≠ .client 0 → code = s.wire.lastError)

theorem OtherBlock.of_eq {thread : Tid} (same : after.wire = s.wire) : OtherBlock thread s after :=
  ⟨s.wire.lastError, same, fun _ => rfl⟩

theorem setLastError_wire (thread : Tid) (s : State) (code : Int) :
    OtherBlock thread s (s.setLastError thread code) := by
  refine ⟨(s.setLastError thread code).lastError (.client 0), rfl, fun different => ?_⟩
  exact if_neg (Ne.symm different)

theorem OtherBlock.trans {thread : Tid} {first second third : State}
    (early : OtherBlock thread first second) (late : OtherBlock thread second third) :
    OtherBlock thread first third := by
  obtain ⟨earlier, early, earlyKept⟩ := early
  obtain ⟨later, late, lateKept⟩ := late
  refine ⟨later, by rw [late, early], fun different => ?_⟩
  rw [lateKept different, early]
  exact earlyKept different

theorem submit_read_wire (s : State) (count : Nat) (completion : Except SystemError Unit) :
    (s.submit (.read count completion)).wire = s.wire := by
  have writing : (s.inFlight ++ [Submitted.read count completion]).filterMap Submitted.write? =
      s.wire.writing := List.filterMap_append.trans (List.append_nil _)
  simp only [State.wire, State.submit, State.setBlock, writing]
  rfl

theorem execReadFile_wire (thread : Tid) (s : State) (handle : Handle) (count : Nat)
    (overlapped : Bool) (outcome : ReadOutcome) :
    OtherBlock thread s (execReadFile thread handle count overlapped outcome s).2 := by
  unfold execReadFile
  split
  · cases outcome with
    | now done => cases overlapped <;> exact .of_eq rfl
    | refused error notPending => cases overlapped <;> exact setLastError_wire thread s _
    | pending completion =>
        cases overlapped with
        | false =>
            cases completion with
            | ok done => exact .of_eq rfl
            | error error => exact setLastError_wire thread s _
        | true =>
            have submitted := submit_read_wire s count completion
            exact (OtherBlock.of_eq submitted).trans (setLastError_wire thread _ _)
  · exact setLastError_wire thread s _

/-- `GetOverlappedResult` of any thread, which may have to wait for the transfer, answers
what the block holds by then. -/
theorem exec_getOverlappedResult {thread : Tid} {handle : Handle} {block : Block} {reply : Bool}
    (executed : exec thread (.getOverlappedResult handle block) s = some (reply, after)) :
    ∃ ended : State,
      ((s.blocks block).pending = false ∧ ended = s ∨
        (s.blocks block).pending = true ∧ s.completeBlock block = some ended) ∧
      match (ended.blocks block).completion with
        | .ok _ => reply = true ∧ after = ended
        | .error error => reply = false ∧ after = ended.setLastError thread error.code := by
  have result : ∀ ended : State,
      (reply, after) = execOverlappedResult thread block ended →
      match (ended.blocks block).completion with
        | .ok _ => reply = true ∧ after = ended
        | .error error => reply = false ∧ after = ended.setLastError thread error.code := by
    intro ended answered
    unfold execOverlappedResult at answered
    cases completion : (ended.blocks block).completion <;>
      (simp only [completion] at answered; exact Prod.mk.inj answered)
  simp only [exec] at executed
  split at executed
  · next pending =>
      split at executed <;> cases executed
      next ended completed => exact ⟨ended, .inr ⟨pending, completed⟩, result ended rfl⟩
  · next done =>
      cases executed
      exact ⟨s, .inl ⟨Bool.eq_false_iff.mpr done, rfl⟩, result s rfl⟩

/-- `GetOverlappedResult` of the client's write. -/
theorem execOverlappedResult_write {handle : Handle} {reply : Bool}
    (executed : exec (.client 0) (.getOverlappedResult handle .write) s = some (reply, after)) :
    (Effect.getOverlappedResult handle .write).lookWire s.wire reply after.wire := by
  obtain ⟨ended, fate, result⟩ := exec_getOverlappedResult executed
  refine ⟨ended.wire, ?_, ?_⟩
  · rcases fate with ⟨done, rfl⟩ | ⟨pending, completed⟩
    · exact .inl ⟨done, rfl⟩
    · exact .inr ⟨pending, completeBlock_write completed⟩
  · have block : ended.wire.block = ended.blocks .write := rfl
    rw [block]
    cases completion : (ended.blocks .write).completion with
    | ok count =>
        simp only [completion] at result ⊢
        exact ⟨result.1, congrArg State.wire result.2⟩
    | error error =>
        simp only [completion] at result ⊢
        exact ⟨result.1, congrArg State.wire result.2⟩

/-- The transfers of the read block. -/
def Effect.reads : Effect → Bool
  | .readFile .. | .getOverlappedResult _ .read => true
  | _ => false

theorem exec_readBlock {thread : Tid} {effect : Effect} {reply : effect.Reply}
    (reads : effect.reads = true)
    (executed : exec thread effect s = some (reply, after)) : OtherBlock thread s after := by
  cases effect with
  | readFile handle count overlapped outcome =>
      cases executed
      exact execReadFile_wire thread s handle count overlapped outcome
  | getOverlappedResult handle block =>
      cases block with
      | write => cases reads
      | read =>
          obtain ⟨ended, fate, result⟩ := exec_getOverlappedResult executed
          have same : ended.wire = s.wire := by
            rcases fate with ⟨-, rfl⟩ | ⟨-, completed⟩
            · rfl
            · exact completeBlock_read completed
          refine (OtherBlock.of_eq same).trans ?_
          split at result <;> obtain ⟨-, rfl⟩ := result
          · exact .of_eq rfl
          · exact setLastError_wire thread ended _
  | _ => cases reads

end Transfers

theorem exec_wire {effect : Effect} {s after : State} {reply : effect.Reply}
    (executed : exec (.client 0) effect s = some (reply, after)) :
    effect.lookWire s.wire reply after.wire := by
  have beside := exec_beside executed
  have looked := exec_look executed
  -- What the other effects leave alone.
  have rests : effect ≠ .lock → effect ≠ .unlock → effect.wires = false →
      after.wire.owns = s.wire.owns ∧ after.wire.sent = s.wire.sent ∧
        after.wire.writing = s.wire.writing := by
    intro notLock notUnlock leaves
    obtain ⟨sent, inFlight, -⟩ := beside.wires leaves
    simp only [State.wire, exec_mutexRecv executed notLock notUnlock, sent, inFlight, and_self]
  cases effect with
  | lock =>
      simp only [exec] at executed
      split at executed
      · next free =>
          cases executed
          refine ⟨by simp [State.wire, free], ?_⟩
          simp only [State.wire, decide_true]
          rfl
      · cases executed
  | unlock =>
      cases executed
      simp only [Effect.lookWire, State.wire]
      rfl
  | load field =>
      cases executed
      exact ⟨looked.1, rfl⟩
  | isOpened =>
      cases executed
      exact ⟨rfl, rfl⟩
  | getLastError =>
      cases executed
      exact ⟨rfl, rfl⟩
  | writeFile handle data overlapped outcome =>
      cases executed
      exact execWriteFile_wire handle data overlapped outcome
  | resetOverlapped block =>
      cases executed
      cases block with
      | write => rfl
      | read => exact ⟨looked, rfl, rfl, rfl⟩
  | readFile handle count overlapped outcome =>
      obtain ⟨code, same, -⟩ := exec_readBlock rfl executed
      refine ⟨looked, ?_⟩
      rw [same]
      exact ⟨rfl, rfl, rfl⟩
  | getOverlappedResult handle block =>
      cases block with
      | read =>
          obtain ⟨code, same, -⟩ := exec_readBlock rfl executed
          refine ⟨looked, ?_⟩
          rw [same]
          exact ⟨rfl, rfl, rfl⟩
      | write => exact execOverlappedResult_write executed
  | _ => exact ⟨looked, rests (by simp) (by simp) rfl⟩

theorem wire_congr {s after : State} (view : after.view = s.view)
    (owns : after.wire.owns = s.wire.owns) (sent : after.sent = s.sent)
    (inFlight : after.inFlight = s.inFlight) (block : after.blocks .write = s.blocks .write)
    (lastError : after.lastError (.client 0) = s.lastError (.client 0)) : after.wire = s.wire := by
  simp only [State.wire] at owns ⊢
  rw [view, owns, sent, inFlight, block, lastError]

/-- A monitor thread leaves the wire alone. -/
theorem monitor_wire {number : Nat} {effect : Effect} {s after : State} {reply : effect.Reply}
    (view : after.view = s.view)
    (owner : after.mutexRecv = some (.client 0) ↔ s.mutexRecv = some (.client 0))
    (monitors : effect.monitors = true)
    (executed : exec (.worker number) effect s = some (reply, after)) : after.wire = s.wire := by
  have owns : after.wire.owns = s.wire.owns := decide_eq_decide.mpr owner
  have readBlock : effect.reads = true → after.wire = s.wire := by
    intro reads
    obtain ⟨code, same, kept⟩ := exec_readBlock reads executed
    rw [same, kept nofun]
  cases effect with
  | readFile => exact readBlock rfl
  | getOverlappedResult handle block =>
      cases block with
      | write => cases monitors
      | read => exact readBlock rfl
  | lock =>
      simp only [exec] at executed
      split at executed <;> cases executed
      exact wire_congr view owns rfl rfl rfl rfl
  | resetOverlapped block =>
      cases block with
      | write => cases monitors
      | read =>
          cases executed
          exact wire_congr view owns rfl rfl rfl rfl
  | nullCall => cases executed
  | _ =>
      first
      | cases executed
        exact wire_congr view owns rfl rfl rfl rfl
      | cases monitors

section Client

variable {condition : Condition Tid State Effect Job}

theorem wire_shared (single : Single condition) :
    Shared system condition (.client 0) State.wire Wire.Drifts Effect.lookWire where
  refl := .still
  trans := .trans
  mine _ _ _ _ executed := exec_wire executed
  others {config other call effect reply after} reachable different calls standing executed := by
    match other with
    | .client 0 => exact absurd rfl different
    | .client (number + 1) => simpa [oneClient] using single (reachable.begun calls)
    | .worker number =>
        have view := (client_sole single).others reachable different calls standing executed
        have owner := @Mutex.owned_by_thread _ _ _ _ _ _ _ _ _ _ (· = false) _ _ mutexRecv_mutex
          rfl runJob_orderly _ reachable (.client 0) _ _ _ _ _ different calls standing executed
        have only : call.prog.Only fun effect => effect.monitors = true :=
          reachable.only (fun _ _ _ admitted => runJob_monitors admitted) calls
        obtain ⟨rest, standing⟩ := standing
        rw [standing] at only
        rw [monitor_wire view owner only.1 executed]
        exact .still _
  external _ changed := external_wire changed

/-- Between two operations the client does not own the mutex. -/
theorem not_owner_of_idle {config : Config Tid State Effect Effect.Reply Job Result}
    (reachable : system.Reachable condition config) {last : Option Result}
    (idle : config.idle? (.client 0) = some last) :
    config.state.mutexRecv ≠ some (.client 0) := by
  have rests := @Mutex.rests _ _ _ _ _ _ _ _ _ _ (· = false) _ _ mutexRecv_mutex rfl
    runJob_orderly _ reachable (.client 0)
  refine of_decide_eq_false ?_
  rcases Config.idle?_cases idle with ⟨calls, -⟩ | ⟨call, value, calls, returned, -⟩
  · rw [calls] at rests
    exact rests
  · rw [calls, Rests, returned] at rests
    exact rests

end Client

/-! ## Programs that write nothing -/

def Effect.writes : Effect → Bool
  | .writeFile .. => true
  | _ => false

abbrev Writeless {α : Type} (program : Code α) : Prop :=
  program.Only fun effect => effect.writes = false

/-- The effects of `send` on the writes and their block. -/
def Effect.sends : Effect → Bool
  | .writeFile .. | .resetOverlapped .write | .getOverlappedResult _ .write => true
  | _ => false

abbrev Sendless {α : Type} (program : Code α) : Prop :=
  program.Only fun effect => effect.sends = false

/-- Besides, neither a receiver nor a logger is stored or registered, and nothing is passed
on or recorded. -/
def Effect.ordinary : Effect → Bool
  | .store .precvData _ | .store .plog _ | .rotatingLogger | .onRecvData .. | .returned .. => false
  | effect => !effect.sends

abbrev Ordinary {α : Type} (program : Code α) : Prop :=
  program.Only fun effect => effect.ordinary = true

theorem Ordinary.sendless {α : Type} {program : Code α} (ordinary : Ordinary program) :
    Sendless program := by
  refine ordinary.mono fun effect ordinary => ?_
  cases effect with
  | writeFile => cases ordinary
  | resetOverlapped block | getOverlappedResult handle block =>
      cases block <;> first | rfl | cases ordinary
  | _ => rfl

theorem Sendless.writeless {α : Type} {program : Code α} (sendless : Sendless program) :
    Writeless program := by
  refine sendless.mono fun effect sends => ?_
  cases effect with
  | writeFile => cases sends
  | _ => rfl

theorem look_writeless {effect : Effect} {wire after : Wire} {reply : effect.Reply}
    (writeless : effect.writes = false) (idle : wire.writing = [])
    (looked : effect.lookWire wire reply after) : after.writing = [] := by
  cases effect with
  | writeFile => cases writeless
  | lock =>
      rw [looked.2]
      exact idle
  | load | isOpened | getLastError =>
      rw [looked.2]
      exact idle
  | unlock =>
      rw [looked]
      exact idle
  | resetOverlapped block =>
      cases block with
      | write =>
          rw [looked]
          exact idle
      | read => exact looked.2.2.2.trans idle
  | getOverlappedResult handle block =>
      cases block with
      | read => exact looked.2.2.2.trans idle
      | write =>
          obtain ⟨ended, landed, result⟩ := looked
          have nothing : ended.writing = [] := by
            rcases landed with ⟨-, rfl⟩ | ⟨-, data, completion, rest, writing, -⟩
            · exact idle
            · simp [idle] at writing
          cases completion : ended.block.completion with
          | ok count =>
              simp only [completion] at result
              rw [result.2]
              exact nothing
          | error error =>
              simp only [completion] at result
              rw [result.2]
              exact nothing
  | _ => exact looked.2.2.2.trans idle

section Ordinary

theorem init_sendless {spp : SpProp} {precvData : Option IrecvData} :
    Sendless (init spp precvData) :=
  init_only fun effect initial _ _ => by
    cases effect <;> first | rfl | cases initial

theorem ordinary_of_closes {effect : Effect} (closes : effect.closes = true) :
    effect.ordinary = true := by
  cases effect with
  | store field value => cases field <;> first | rfl | cases closes
  | _ => first | rfl | cases closes

theorem ordinary_of_opens {effect : Effect} (opens : effect.opens = true) :
    effect.ordinary = true := by
  cases effect with
  | store field value => cases field <;> first | rfl | cases opens
  | _ => first | rfl | cases opens

/-- The operations other than `init` and a `send` with a buffer. -/
theorem runOperation_ordinary {operation : Operation}
    (other : ∀ spp precvData, operation ≠ .init spp precvData)
    (silent : ∀ data outcome, operation ≠ .send (some data) outcome) :
    Ordinary (runOperation operation) := by
  cases operation with
  | init spp precvData => exact absurd rfl (other spp precvData)
  | «open» outcome => exact (open_only fun _ => ordinary_of_opens).bind fun _ => trivial
  | close outcome => exact (close_only fun _ => ordinary_of_closes).bind fun _ => trivial
  | destroy outcome =>
      exact (destroy_only (fun _ => ordinary_of_closes) rfl).bind fun _ => trivial
  | setReadNotify len => exact ⟨rfl, fun _ => trivial⟩
  | isOpened => exact ⟨rfl, fun _ => trivial⟩
  | getRecvThreadIsRunning =>
      exact ⟨rfl, fun _ => ⟨rfl, fun _ => ⟨rfl, fun _ => ⟨rfl, fun _ => trivial⟩⟩⟩⟩
  | setRecvThreadIsRunning value =>
      exact ⟨rfl, fun _ => ⟨rfl, fun _ => ⟨rfl, fun _ => ⟨rfl, fun _ => trivial⟩⟩⟩⟩
  | send pdata outcome =>
      cases pdata with
      | none => exact ⟨rfl, fun _ => trivial⟩
      | some data => exact absurd rfl (silent data outcome)

/-- Only a `send` with a buffer starts a write. -/
theorem runOperation_sendless {operation : Operation}
    (silent : ∀ data outcome, operation ≠ .send (some data) outcome) :
    Sendless (runOperation operation) := by
  by_cases inits : ∃ spp precvData, operation = .init spp precvData
  · obtain ⟨spp, precvData, rfl⟩ := inits
    exact init_sendless.bind fun _ => trivial
  · have other : ∀ spp precvData, operation ≠ .init spp precvData :=
      fun spp precvData same => inits ⟨spp, precvData, same⟩
    exact (runOperation_ordinary other silent).sendless

end Ordinary

/-! ## One `send` -/

/-- What a `send` returns for its write, and what the device has taken by then. -/
def Sent (data : List UInt8) (outcome : WriteOutcome) (sent : List UInt8) (value : Int)
    (after : List UInt8) : Prop :=
  match outcome with
  | .now count => value = 0 ∧ after = sent ++ data.take count
  | .pending (.ok count) => value = ofUnsigned data.length ∧ after = sent ++ data.take count
  | .pending (.error error) => value = error.code ∧ after = sent
  | .refused error _ => value = error.code ∧ after = sent

/-- In the asynchronous mode the client that is about to lock the mutex does not own it. -/
def Wire.Locks (entry : Wire) (effect : Effect) (now : Wire) : Prop :=
  entry.view.spp.opMode = modeAsync → effect = .lock → now.owns = entry.owns

section Send

variable {entry wire : Wire} {α : Type} {post : α → Wire → Prop} {data : List UInt8}
  {outcome : WriteOutcome}

abbrev WireAmid (entry : Wire) (program : Code α) (post : α → Wire → Prop) (wire : Wire) : Prop :=
  program.Amid Wire.Drifts Effect.lookWire entry.Locks post wire

/-- An effect while no write is in flight. -/
theorem idle_act {effect : Effect} {next : effect.Reply → Code α} (idle : wire.writing = [])
    (locks : entry.Locks effect wire)
    (continued : ∀ reply after, effect.lookWire wire reply after →
      WireAmid entry (next reply) post after) : WireAmid entry (.act effect next) post wire := by
  intro now drifts
  rw [drifts.eq_of_idle idle]
  exact ⟨locks, continued⟩

theorem idle_ret {value : α} (idle : wire.writing = []) (ends : post value wire) :
    WireAmid entry (.ret value) post wire := by
  intro now drifts
  rw [drifts.eq_of_idle idle]
  exact ends

/-- `send` after its overlapped `WriteFile`. -/
def finishWrite (data : List UInt8) (written : Bool) : Code Int := do
  let errorId ← errorUnless written
  perform .unlock
  if !(← awaitWrite written errorId) then
    return ← perform .getLastError
  return if !written && errorId = ERROR_IO_PENDING then ofUnsigned data.length else 0

theorem finishWrite_done (idle : wire.writing = []) :
    WireAmid entry (finishWrite data true)
      (fun value after => value = 0 ∧ after.writing = [] ∧ after.sent = wire.sent) wire := by
  refine idle_act idle (fun _ => nofun) fun _ after looked => ?_
  cases looked
  exact idle_ret idle ⟨rfl, idle, rfl⟩

theorem finishWrite_failed (idle : wire.writing = [])
    (notPending : wire.lastError ≠ ERROR_IO_PENDING) :
    WireAmid entry (finishWrite data false) (fun value after =>
      value = wire.lastError ∧ after.writing = [] ∧ after.sent = wire.sent) wire := by
  refine idle_act idle (fun _ => nofun) fun errorId after looked => ?_
  obtain ⟨rfl, rfl⟩ := looked
  refine idle_act idle (fun _ => nofun) fun _ after looked => ?_
  cases looked
  change WireAmid entry (awaitWrite false after.lastError >>= _) _ _
  refine Prog.Amid.bind .still (?_ : WireAmid entry (awaitWrite false after.lastError)
    (fun ended now => ended = false ∧ now = { after with owns := false }) _) ?_
  · refine Prog.Amid.ite (fun pending => ?_) fun _ => idle_ret idle ⟨rfl, rfl⟩
    exact absurd (by simpa using pending) notPending
  · intro _ _ post
    obtain ⟨rfl, rfl⟩ := post
    refine idle_act idle (fun _ => nofun) fun value ended looked => ?_
    obtain ⟨rfl, rfl⟩ := looked
    exact idle_ret idle ⟨rfl, idle, rfl⟩

/-- The write of this client is in flight, or has landed. -/
structure Wire.Writing (entry wire : Wire) (data : List UInt8) (completion : Completion) : Prop where
  lastError : wire.lastError = ERROR_IO_PENDING
  block : wire.writing = [(data, completion)] ∧ wire.block.pending = true ∧ wire.sent = entry.sent ∨
    wire.writing = [] ∧ wire.block = ⟨false, completion⟩ ∧
      wire.sent = (entry.land data completion []).sent

theorem Wire.Writing.drifts {completion : Completion} {now : Wire}
    (writing : entry.Writing wire data completion) (drifts : wire.Drifts now) :
    entry.Writing now data completion := by
  rcases writing.block with ⟨single, pending, sent⟩ | ⟨idle, landed⟩
  · rcases drifts.cases_of_single single with rfl | rfl
    · exact writing
    · refine ⟨writing.lastError, .inr ⟨rfl, rfl, ?_⟩⟩
      simp only [Wire.land, sent]
  · rw [drifts.eq_of_idle idle]
    exact writing

/-- The client stands with its write in flight. -/
theorem writing_act {completion : Completion} {effect : Effect} {next : effect.Reply → Code α}
    (writing : entry.Writing wire data completion) (notLock : effect ≠ .lock)
    (continued : ∀ now reply after, entry.Writing now data completion →
      effect.lookWire now reply after → WireAmid entry (next reply) post after) :
    WireAmid entry (.act effect next) post wire := by
  intro now drifts
  exact ⟨fun _ same => absurd same notLock,
    fun reply after => continued now reply after (writing.drifts drifts)⟩

theorem finishWrite_pending {completion : Completion}
    (writing : entry.Writing wire data completion) :
    WireAmid entry (finishWrite data false) (fun value after => after.writing = [] ∧
      Sent data (.pending completion) entry.sent value after.sent) wire := by
  refine writing_act writing nofun fun _ errorId after writing looked => ?_
  obtain ⟨rfl, rfl⟩ := looked
  have pending := writing.lastError
  refine writing_act writing nofun fun now _ _ writing looked => ?_
  cases looked
  have writing : entry.Writing { now with owns := false } data completion := { writing with }
  change WireAmid entry (awaitWrite false _ >>= _) _ _
  rw [pending]
  refine Prog.Amid.bind .still (?_ : WireAmid entry (awaitWrite false ERROR_IO_PENDING)
    (fun ended now => now.writing = [] ∧ now.sent = (entry.land data completion []).sent ∧
      match completion with
        | .ok _ => ended = true
        | .error error => ended = false ∧ now.lastError = error.code) _) ?_
  · refine writing_act writing nofun fun _ handle _ writing looked => ?_
    obtain ⟨-, rfl⟩ := looked
    refine writing_act writing nofun fun _ ended after writing looked => ?_
    obtain ⟨landed, fate, result⟩ := looked
    have known : landed.writing = [] ∧ landed.block.completion = completion ∧
        landed.sent = (entry.land data completion []).sent := by
      rcases writing.block with ⟨single, pending, sent⟩ | ⟨idle, block, sent⟩
      · rcases fate with ⟨done, -⟩ | ⟨-, _, _, rest, writing, rfl⟩
        · rw [pending] at done
          cases done
        · rw [single] at writing
          cases writing
          exact ⟨rfl, rfl, by simp only [Wire.land, sent]⟩
      · rcases fate with ⟨-, rfl⟩ | ⟨pending, -⟩
        · exact ⟨idle, by rw [block], sent⟩
        · rw [block] at pending
          cases pending
    obtain ⟨idle, completed, sent⟩ := known
    rw [completed] at result
    cases completion with
    | ok count =>
        obtain ⟨rfl, rfl⟩ := result
        exact idle_ret idle ⟨idle, sent, rfl⟩
    | error error =>
        obtain ⟨rfl, rfl⟩ := result
        exact idle_ret idle ⟨idle, sent, rfl, rfl⟩
  · intro ended now post
    obtain ⟨idle, sent, result⟩ := post
    cases completion with
    | ok count =>
        cases result
        exact idle_ret idle ⟨idle, rfl, sent⟩
    | error error =>
        obtain ⟨rfl, code⟩ := result
        refine idle_act idle (fun _ => nofun) fun value after looked => ?_
        obtain ⟨rfl, rfl⟩ := looked
        exact idle_ret idle ⟨idle, code, sent⟩

/-- After the `WriteFile`: done at once, in flight, or refused. -/
theorem finishWrite_sent (idle : wire.writing = []) (sent : wire.sent = entry.sent)
    (handle : Handle) :
    WireAmid entry (finishWrite data (wire.writeFile handle data true outcome).1)
      (fun value after => after.writing = [] ∧ (wire.view.isComm handle = true →
        Sent data outcome entry.sent value after.sent))
      (wire.writeFile handle data true outcome).2 := by
  unfold Wire.writeFile
  by_cases isComm : wire.view.isComm handle = true
  · rw [if_pos isComm]
    cases outcome with
    | now count =>
        have finished := @finishWrite_done entry
          { wire with sent := wire.sent ++ data.take count, block := ⟨false, .ok count⟩ } data idle
        refine finished.mono fun value after done => ?_
        obtain ⟨zero, idleAfter, same⟩ := done
        exact ⟨idleAfter, fun _ => ⟨zero, by rw [same, sent]⟩⟩
    | pending completion =>
        refine (finishWrite_pending ?_).mono fun value after done => ⟨done.1, fun _ => done.2⟩
        exact ⟨rfl, .inl ⟨by rw [idle]; rfl, rfl, sent⟩⟩
    | refused error notPending =>
        have finished := @finishWrite_failed entry { wire with lastError := error.code } data idle
          notPending
        refine finished.mono fun value after done => ?_
        obtain ⟨code, idleAfter, same⟩ := done
        exact ⟨idleAfter, fun _ => ⟨code, same.trans sent⟩⟩
  · rw [if_neg isComm]
    have notPending : ERROR_INVALID_HANDLE ≠ ERROR_IO_PENDING := by decide
    have finished := @finishWrite_failed entry { wire with lastError := ERROR_INVALID_HANDLE } data
      idle notPending
    refine finished.mono fun value after done => ?_
    exact ⟨done.2.1, fun valid => absurd valid isComm⟩

theorem Wire.writeFile_idle (idle : wire.writing = []) (handle : Handle) (overlapped : Bool)
    (sync : overlapped = false) :
    (wire.writeFile handle data overlapped outcome).2.writing = [] ∧
      (wire.writeFile handle data overlapped outcome).2.owns = wire.owns := by
  subst sync
  unfold Wire.writeFile
  split
  · cases outcome with
    | pending completion => cases completion <;> exact ⟨idle, rfl⟩
    | now | refused => exact ⟨idle, rfl⟩
  · exact ⟨idle, rfl⟩

/-- `send` in the asynchronous mode. -/
theorem sendOverlapped_sent (idle : wire.writing = []) (same : wire.view = entry.view)
    (owns : wire.owns = entry.owns) (sent : wire.sent = entry.sent) :
    WireAmid entry (sendOverlapped data outcome) (fun value after => after.writing = [] ∧
      (entry.view.isComm entry.view.handle = true →
        Sent data outcome entry.sent value after.sent)) wire := by
  refine idle_act idle (fun _ => nofun) fun _ _ looked => ?_
  cases looked
  refine idle_act idle (fun _ => nofun) fun event now looked => ?_
  obtain ⟨view, ownsNow, sentNow, idleNow⟩ := looked
  rw [same] at view
  rw [owns] at ownsNow
  rw [sent] at sentNow
  rw [idle] at idleNow
  refine idle_act idleNow (fun _ => nofun) fun _ after looked => ?_
  obtain ⟨viewAfter, ownsAfter, sentAfter, idleAfter⟩ := looked
  have known : after.view = now.view := viewAfter
  rw [view] at known
  rw [ownsNow] at ownsAfter
  rw [sentNow] at sentAfter
  rw [idleNow] at idleAfter
  refine idle_act idleAfter (fun _ _ => ownsAfter) fun _ _ looked => ?_
  obtain ⟨-, rfl⟩ := looked
  refine idle_act idleAfter (fun _ => nofun) fun handle _ looked => ?_
  obtain ⟨loaded, rfl⟩ := looked
  have handed : handle = entry.view.handle := (loaded _ rfl).trans (congrArg (fun view : View => view.handle) known)
  refine idle_act idleAfter (fun _ => nofun) fun written ended looked => ?_
  obtain ⟨rfl, rfl⟩ := Prod.mk.inj looked
  have finished := @finishWrite_sent entry { after with owns := true } data outcome idleAfter
    sentAfter handle
  refine finished.mono fun value ended done => ⟨done.1, fun isComm => done.2 ?_⟩
  rw [handed]
  exact (congrArg (View.isComm · entry.view.handle) known).trans isComm

/-- The second lock of the synchronous mode waits for the client itself. -/
theorem sendPlain_stuck (idle : wire.writing = []) (sync : entry.view.spp.opMode ≠ modeAsync) :
    WireAmid entry (sendPlain data outcome) (fun _ _ => False) wire := by
  have locks : ∀ {effect : Effect} {now : Wire}, entry.Locks effect now :=
    fun async => absurd async sync
  refine idle_act idle locks fun _ _ looked => ?_
  obtain ⟨-, rfl⟩ := looked
  refine idle_act idle locks fun handle _ looked => ?_
  obtain ⟨-, rfl⟩ := looked
  refine idle_act idle locks fun written after looked => ?_
  obtain ⟨-, rfl⟩ := Prod.mk.inj looked
  obtain ⟨idle, owns⟩ := @Wire.writeFile_idle { wire with owns := true } data outcome idle handle
    false rfl
  change WireAmid entry (errorUnless _ >>= _) _ _
  refine Prog.Amid.bind .still (?_ : WireAmid entry (errorUnless _)
    (fun _ now => now.writing = [] ∧ now.owns = true) _) ?_
  · refine Prog.Amid.ite (fun _ => idle_ret idle ⟨idle, owns⟩) fun _ => ?_
    refine idle_act idle locks fun errorId _ looked => ?_
    obtain ⟨-, rfl⟩ := looked
    exact idle_ret idle ⟨idle, owns⟩
  · intro retVal now post
    obtain ⟨idle, owns⟩ := post
    refine idle_act idle locks fun _ _ looked => ?_
    have free : now.owns = false := looked.1
    rw [owns] at free
    cases free

/-- A `send` with a buffer writes it on an open port in the asynchronous mode. -/
theorem send_sent {outcome : WriteOutcome} (idle : entry.writing = []) :
    WireAmid entry (runOperation (.send (some data) outcome)) (fun value after =>
      after.writing = [] ∧ (0 < data.length → entry.view.handle ≠ INVALID_HANDLE_VALUE →
        entry.view.isComm entry.view.handle = true → entry.view.spp.opMode = modeAsync ∧
          ∃ code, value = .code code ∧ Sent data outcome entry.sent code after.sent)) entry := by
  refine Prog.Amid.bind .still (?_ : WireAmid entry (send (some data) outcome) (fun code after =>
    after.writing = [] ∧ (0 < data.length → entry.view.handle ≠ INVALID_HANDLE_VALUE →
      entry.view.isComm entry.view.handle = true → entry.view.spp.opMode = modeAsync ∧
        Sent data outcome entry.sent code after.sent)) entry) ?_
  · refine Prog.Amid.bind .still (?_ : WireAmid entry _ (fun code after =>
      after.writing = [] ∧ (0 < data.length → entry.view.handle ≠ INVALID_HANDLE_VALUE →
        entry.view.isComm entry.view.handle = true → entry.view.spp.opMode = modeAsync ∧
          Sent data outcome entry.sent code after.sent)) entry) ?_
    · refine Prog.Amid.ite (fun empty => ?_) fun _ => ?_
      · exact idle_ret idle ⟨idle, fun some => absurd empty (Nat.ne_of_gt some)⟩
      refine idle_act idle (fun _ => nofun) fun opened now looked => ?_
      obtain ⟨rfl, same⟩ := looked
      rw [same]
      refine Prog.Amid.ite (fun _ => ?_) fun isClosed => ?_
      · refine idle_act idle (fun _ => nofun) fun spp now looked => ?_
        obtain ⟨loaded, same⟩ := looked
        rw [same, loaded _ rfl]
        refine Prog.Amid.ite (fun async => ?_) fun sync => ?_
        · refine (sendOverlapped_sent idle rfl rfl rfl).mono fun code after done => ?_
          exact ⟨done.1, fun _ _ isComm => ⟨async.symm, done.2 isComm⟩⟩
        · exact (sendPlain_stuck idle fun async => sync async.symm).mono fun _ _ => False.elim
      · refine idle_ret idle ⟨idle, fun _ isOpened => ?_⟩
        exact absurd (decide_eq_true isOpened) isClosed
    · intro code now post
      obtain ⟨idleNow, done⟩ := post
      refine idle_act idleNow (fun _ => nofun) fun _ after looked => ?_
      obtain ⟨-, -, sent, writing⟩ := looked
      have idleAfter : after.writing = [] := writing.trans idleNow
      exact idle_ret idleAfter ⟨idleAfter, by rw [sent]; exact done⟩
  · intro code now post
    obtain ⟨idleNow, done⟩ := post
    refine idle_ret idleNow ⟨idleNow, fun some isOpened isComm => ?_⟩
    exact ⟨(done some isOpened isComm).1, code, rfl, (done some isOpened isComm).2⟩

end Send

/-! ## Runs -/

/-- What is established of the client's sends. -/
def sending : Account Wire Effect Job Result where
  ready wire := wire.writing = []
  point job entry effect now := (∃ data outcome, job = .operation (.send (some data) outcome)) →
    entry.Locks effect now
  post job entry result after := after.writing = [] ∧ ∀ data outcome,
    job = .operation (.send (some data) outcome) → 0 < data.length →
    entry.view.handle ≠ INVALID_HANDLE_VALUE → entry.view.isComm entry.view.handle = true →
    entry.view.spp.opMode = modeAsync ∧ ∃ code, result = .value (.code code) ∧
      Sent data outcome entry.sent code after.sent

theorem sending_endures {condition : Condition Tid State Effect Job} :
    sending.Endures system condition (.client 0) State.wire Wire.Drifts Effect.lookWire where
  start := rfl
  drifted idle drifts := by
    rw [drifts.eq_of_idle idle]
    exact idle
  returned post := post.1
  body {job last s} idle admitted _ := by
    cases job with
    | enter => cases admitted
    | iteration eventMask outcome => cases admitted
    | operation operation =>
        by_cases sends : ∃ data outcome, operation = .send (some data) outcome
        · obtain ⟨data, outcome, rfl⟩ := sends
          have sent := (@send_sent s.wire data outcome idle).pointed fun effect now locks =>
            (fun _ => locks : sending.point (.operation (.send (some data) outcome)) s.wire effect now)
          refine sent.bind .still fun value ended done => ?_
          obtain ⟨idleEnded, told⟩ := done
          intro now drifts
          rw [drifts.eq_of_idle idleEnded]
          refine ⟨fun _ _ => nofun, fun _ after looked => ?_⟩
          obtain ⟨-, -, sent, writing⟩ := looked
          intro later drifts
          have idleAfter : after.writing = [] := writing.trans idleEnded
          rw [drifts.eq_of_idle idleAfter]
          refine ⟨idleAfter, ?_⟩
          rintro _ _ ⟨⟩ some isOpened isComm
          obtain ⟨async, code, same, tells⟩ := told some isOpened isComm
          exact ⟨async, code, congrArg Result.value same, by rw [sent]; exact tells⟩
        · have silent : ∀ data outcome, operation ≠ .send (some data) outcome :=
            fun data outcome same => sends ⟨data, outcome, same⟩
          have writeless : Writeless (system.body (.operation operation)) :=
            (runOperation_sendless silent).writeless.bind fun _ => ⟨rfl, fun _ => trivial⟩
          refine (Prog.Amid.of_only ?_ ?_ ?_ writeless idle).mono fun result after idleAfter => ?_
          · intro wire now idle drifts
            rw [drifts.eq_of_idle idle]
            exact idle
          · rintro effect now - - ⟨data, outcome, same⟩
            exact absurd (Job.operation.inj same) (silent data outcome)
          · exact fun effect wire reply after writeless idle looked =>
              look_writeless writeless idle looked
          · refine ⟨idleAfter, fun data outcome same => ?_⟩
            exact absurd (Job.operation.inj same) (silent data outcome)

def WriteOutcome.failed : WriteOutcome → Bool
  | .now _ => false
  | .pending completion => !completion.isOk
  | .refused .. => true

/-- The write that `send` counts right: at once and of nothing, or later and complete. -/
def WriteOutcome.Counts (data : List UInt8) : WriteOutcome → Prop
  | .now count => min count data.length = 0
  | .pending (.ok count) => data.length ≤ count
  | .pending (.error _) | .refused .. => False

/-- An error of the system has a positive code. -/
theorem told_code {data sent after : List UInt8} (error : SystemError) :
    ¬ Told true data sent after error.code :=
  fun told => Int.not_lt.mpr (Int.le_of_lt error.positive) (told_iff_negative.mp told)

theorem told_iff_counts {data sent after : List UInt8} {outcome : WriteOutcome} {value : Int}
    (short : data.length < 2147483648) (done : Sent data outcome sent value after) :
    Told outcome.failed data sent after value ↔ outcome.Counts data := by
  cases outcome with
  | now count =>
      obtain ⟨rfl, rfl⟩ := done
      refine told_iff_count.trans ?_
      simp only [WriteOutcome.Counts]
      omega
  | refused error notPending =>
      obtain ⟨rfl, rfl⟩ := done
      exact iff_of_false (told_code error) id
  | pending completion =>
      cases completion with
      | ok count =>
          obtain ⟨rfl, rfl⟩ := done
          refine told_iff_count.trans ?_
          simp only [WriteOutcome.Counts, ofUnsigned, short, if_true]
          omega
      | error error =>
          obtain ⟨rfl, rfl⟩ := done
          exact iff_of_false (told_code error) id

/-- The `send` is over: it has returned, or waits for a mutex that its thread owns. -/
def Over (config : Config Tid State Effect Effect.Reply Job Result) (thread : Tid)
    (call : Call State Effect Effect.Reply Job Result) : Prop :=
  (∃ value, call.Returned value) ∨ call.Next .lock ∧ config.state.mutexRecv = some thread

/-- It has returned what `send` is documented to tell. -/
def Tells (config : Config Tid State Effect Effect.Reply Job Result) (data : List UInt8)
    (outcome : WriteOutcome) (call : Call State Effect Effect.Reply Job Result) : Prop :=
  ∃ value, call.Returned (.value (.code value)) ∧
    Told outcome.failed data call.entry.sent config.state.sent value

/-- In every run with one client: a `send` of data on an open port that is over has told
what was sent exactly if the mode is asynchronous and its write is counted right. -/
theorem send_tells_iff {config : Config Tid State Effect Effect.Reply Job Result}
    (reachable : system.Reachable oneClient config)
    {call : Call State Effect Effect.Reply Job Result} {data : List UInt8}
    {outcome : WriteOutcome} (calls : config.calls (.client 0) = some call)
    (job : call.job = .operation (.send (some data) outcome)) (nonempty : 0 < data.length)
    (short : data.length < 2147483648) (isOpened : call.entry.param.isOpened = true)
    (ended : Over config (.client 0) call) :
    Tells config data outcome call ↔
      call.entry.param.spp.opMode = modeAsync ∧ outcome.Counts data := by
  have shared := wire_shared oneClient_watches.single
  obtain ⟨before, last, earlier, idle, entry, -⟩ := reachable.entered calls
  have free : call.entry.mutexRecv ≠ some (.client 0) := entry ▸ not_owner_of_idle earlier idle
  have kept := (watched_of_reachable oneClient_watches earlier idle).kept
  rw [entry] at kept
  have valid : call.entry.view.handle ≠ INVALID_HANDLE_VALUE := of_decide_eq_true isOpened
  have isComm : call.entry.view.isComm call.entry.view.handle = true := by
    have comms : call.entry.view.comms = [(call.entry.view.handle, .comm)] :=
      kept.comms.trans (if_pos valid)
    refine decide_eq_true ?_
    rw [comms]
    exact List.mem_singleton.mpr rfl
  have post : ∀ value, call.Returned value → call.entry.param.spp.opMode = modeAsync ∧
      ∃ code, value = .value (.code code) ∧
        Sent data outcome call.entry.sent code config.state.sent := fun value returned =>
    (Account.endures_post shared sending_endures reachable calls returned).2 data outcome job
      nonempty valid isComm
  constructor
  · intro tells
    obtain ⟨value, returned, told⟩ := tells
    obtain ⟨async, code, same, done⟩ := post _ returned
    cases same
    exact ⟨async, (told_iff_counts short done).mp told⟩
  · intro condition
    obtain ⟨async, counts⟩ := condition
    rcases ended with ⟨value, returned⟩ | ⟨standing, owns⟩
    · obtain ⟨-, code, rfl, done⟩ := post value returned
      exact ⟨code, returned, (told_iff_counts short done).mpr counts⟩
    · have pointed := Account.endures_point shared sending_endures reachable calls standing
      have same : config.state.wire.owns = call.entry.wire.owns :=
        pointed ⟨data, outcome, job⟩ async rfl
      have owned : config.state.wire.owns = true := decide_eq_true owns
      rw [owned] at same
      exact absurd (of_decide_eq_true same.symm) free

end LibSp.Windows
