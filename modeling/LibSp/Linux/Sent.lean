import LibSp.Linux.OpenClose
import LibSp.Linux.Members
import LibSp.Concurrent.Ledger

/-!
# What the sends of all clients have written

Each `send` that has returned a count has written that many bytes of its data, in one
piece, and nothing else is ever written: the device has the pieces of the returned sends
and of those that are about to return, in the order of the writes.
-/

set_option autoImplicit false

namespace LibSp.Linux

open Concurrent

/-! ## The ledger of the writes -/

/-- What the device took of one buffer, and the number that says so. -/
structure Chunk where
  bytes : List UInt8
  code : Int

def accepted (data : List UInt8) (code : Int) : Option Chunk :=
  if 0 ≤ code then some ⟨data.take code.toNat, code⟩ else none

theorem accepted_count (data : List UInt8) (count : Nat) :
    accepted data (min count data.length : Nat) =
      some ⟨data.take count, (min count data.length : Nat)⟩ := by
  have taken : data.take (min count data.length) = data.take count := List.take_eq_take_min.symm
  simp only [accepted, Int.natCast_nonneg, if_true, Int.toNat_natCast, taken]

/-- What the return of the operation tells. -/
def Operation.told : Operation → Value → Option Chunk
  | .send (some data) _, .code code => accepted data code
  | _, _ => none

/-- What the operations that have returned told, in the order of their returns. -/
def Port.told (port : Port) : List Chunk :=
  port.history.reverse.filterMap fun entry => entry.1.told entry.2

/-- A `write` makes a chunk, and the return of the operation settles it. -/
def sendLedger : Ledger State Effect Effect.Reply Chunk where
  shows made s := s.port.sent = (made.map Chunk.bytes).flatten ∧
    ∀ chunk ∈ made, chunk.code = chunk.bytes.length
  books s := s.port.told
  makes
    | .write _ data _, code => accepted data code
    | _, _ => none
  settles
    | .returned .. => true
    | _ => false
  due
    | .returned operation value => operation.told value
    | _ => none

/-- Neither a `write` nor the return of an operation. -/
def Effect.offLedger : Effect → Bool
  | .write .. | .returned .. => false
  | _ => true

theorem passes_of_offLedger {effect : Effect} (off : effect.offLedger = true) :
    sendLedger.Passes effect := by
  refine ⟨?_, fun reply => ?_⟩ <;> cases effect <;> first | rfl | cases off

/-! ## The operations -/

section Operations

variable {libc : SpeedSetters}

theorem runOperation_offLedger {operation : Operation}
    (sendless : ∀ pdata outcome, operation ≠ .send pdata outcome) :
    (runOperation libc operation).Only fun effect => effect.offLedger = true := by
  have closing : ∀ effect : Effect, effect.closes = true → effect.offLedger = true := by
    intro effect closes
    cases effect <;> first | rfl | cases closes
  cases operation with
  | init spp precvData => exact (init_only (fun _ => rfl) fun _ => rfl).bind fun _ => trivial
  | «open» outcome =>
      refine (open_only fun effect opens => ?_).bind fun _ => trivial
      cases effect <;> first | rfl | cases opens
  | close => exact (close_only closing).bind fun _ => trivial
  | setReadNotify len =>
      refine Prog.Only.bind (?_ : (setReadNotify len).Only _) fun _ => trivial
      exact Prog.Only.ite (fun _ => ⟨rfl, fun _ => trivial⟩) fun _ => ⟨rfl, fun _ => trivial⟩
  | isOpened => exact ⟨rfl, fun _ => trivial⟩
  | send pdata outcome => exact absurd rfl (sendless pdata outcome)
  | destroy => exact (destroy_only closing).bind fun _ => trivial

theorem iteration_offLedger (hasReadBytes : Int) (outcome : RecvOutcome) :
    (runJob libc (.iteration hasReadBytes outcome)).Only fun effect => effect.offLedger = true := by
  refine Prog.Only.bind (threadRecvDataMonitor_only (fun effect receives => ?_) ?_) fun _ => trivial
  · cases effect <;> first | rfl | cases receives
  · trivial

/-- What it keeps on return is what its return tells. -/
theorem send_settles (pdata : Option (List UInt8)) (outcome : Except Errno Nat) :
    (send pdata outcome).Settles sendLedger
      (fun code kept => (Operation.send pdata outcome).told (.code code) = kept) none := by
  cases pdata with
  | none => exact rfl
  | some data =>
      refine .ite (fun _ => rfl) fun _ => .pass (passes_of_offLedger rfl) fun _ => ?_
      refine .pass (passes_of_offLedger rfl) fun opened => .ite (fun _ => rfl) fun _ => ?_
      refine .pass (passes_of_offLedger rfl) fun fd => ⟨fun settles => (by cases settles), ?_⟩
      intro _ code
      have returns : ∀ kept, accepted data code = kept → (do
          perform .unlock
          return code : Code Int).Settles sendLedger
            (fun code kept => (Operation.send (some data) outcome).told (.code code) = kept) kept :=
        fun kept same => .pass (passes_of_offLedger rfl) fun _ => same
      exact ⟨fun chunk made => ⟨rfl, returns _ made⟩, returns none⟩

theorem runOperation_settles (operation : Operation) :
    (runOperation libc operation).Settles sendLedger
      (fun value kept => operation.told value = kept) none := by
  have quiet (sendless : ∀ pdata outcome, operation ≠ .send pdata outcome) :
      (runOperation libc operation).Settles sendLedger
        (fun value kept => operation.told value = kept) none := by
    refine .of_only ((runOperation_offLedger sendless).mono fun _ => passes_of_offLedger) ?_
    intro value
    cases operation <;> first | rfl | exact absurd rfl (sendless _ _)
  cases operation with
  | send pdata outcome => exact (send_settles pdata outcome).bind fun _ _ told => told
  | _ => exact quiet fun _ _ same => by cases same

theorem runJob_settles (job : Job) :
    (runJob libc job).Settles sendLedger (fun _ kept => kept = none) none := by
  cases job with
  | iteration hasReadBytes outcome =>
      exact .of_only ((iteration_offLedger hasReadBytes outcome).mono fun _ => passes_of_offLedger)
        fun _ => rfl
  | operation operation =>
      refine (runOperation_settles operation).bind fun value kept told => ?_
      exact ⟨fun _ => ⟨told, fun _ => rfl⟩, fun plain => by cases plain⟩

/-- Only a `send` writes, and what it was given. -/
def Effect.writesFor (job : Job) (effect : Effect) : Prop :=
  ∀ fd data outcome, effect = .write fd data outcome →
    job = .operation (.send (some data) outcome)

theorem runJob_writesFor (job : Job) : (runJob libc job).Only (Effect.writesFor job) := by
  have writeless {effect : Effect} (off : effect.offLedger = true) : effect.writesFor job := by
    intro fd data outcome same
    subst same
    cases off
  cases job with
  | iteration hasReadBytes outcome =>
      exact (iteration_offLedger hasReadBytes outcome).mono fun _ => writeless
  | operation operation =>
      refine Prog.Only.bind ?_ fun _ => ⟨fun _ _ _ same => (by cases same), fun _ => trivial⟩
      cases operation with
      | send pdata outcome =>
          refine Prog.Only.bind (?_ : (send pdata outcome).Only _) fun _ => trivial
          cases pdata with
          | none => trivial
          | some data =>
              refine Prog.Only.ite (fun _ => trivial) fun _ => ⟨writeless rfl, fun _ => ?_⟩
              refine ⟨writeless rfl, fun opened => Prog.Only.ite (fun _ => trivial) fun _ => ?_⟩
              refine ⟨writeless rfl, fun fd => ⟨fun _ _ _ same => ?_, fun code => ?_⟩⟩
              · cases same
                rfl
              · exact ⟨writeless rfl, fun _ => trivial⟩
      | _ =>
          refine (runOperation_offLedger fun _ _ same => ?_).mono fun _ => writeless
          cases same

end Operations

/-! ## The effects -/

section Effects

variable {thread : Tid} {effect : Effect} {s after : State} {reply : effect.Reply}

theorem told_record (port : Port) (operation : Operation) (value : Value) :
    Port.told { port with history := (operation, value) :: port.history } =
      port.told ++ (operation.told value).toList := by
  simp only [Port.told, List.reverse_cons, List.filterMap_append]
  cases told : operation.told value with
  | none => simp [told]
  | some chunk => simp [told]

theorem exec_told (executed : exec thread effect s = some (reply, after)) :
    after.port.told = s.port.told ++ (sendLedger.due effect).toList := by
  have updated : after.port.history = (effect.update thread s.members).history :=
    congrArg Members.history (exec_members executed)
  have told : after.port.told = Port.told { s.port with history := after.port.history } := rfl
  rw [told, updated]
  cases effect with
  | returned operation value => exact told_record s.port operation value
  | pthreadCreate outcome => cases outcome <;> exact (List.append_nil _).symm
  | _ => exact (List.append_nil _).symm

theorem setErrno_sent (port : Port) (thread : Tid) (value : Int) :
    (port.setErrno thread value).sent = port.sent := by
  cases thread <;> rfl

theorem answer_sent (port : Port) (thread : Tid) (outcome : Except Errno Unit) :
    (answer thread port outcome).2.sent = port.sent := by
  cases outcome with
  | ok done => rfl
  | error error => exact setErrno_sent port thread error.value

/-- Only a `write` sends, and its reply counts what it has sent. -/
theorem exec_sent (executed : exec thread effect s = some (reply, after)) :
    after.port.sent =
      s.port.sent ++ ((sendLedger.makes effect reply).toList.map Chunk.bytes).flatten ∧
    ∀ chunk, sendLedger.makes effect reply = some chunk → chunk.code = chunk.bytes.length := by
  have still (made : sendLedger.makes effect reply = none) (same : after.port.sent = s.port.sent) :
      after.port.sent =
        s.port.sent ++ ((sendLedger.makes effect reply).toList.map Chunk.bytes).flatten ∧
      ∀ chunk, sendLedger.makes effect reply = some chunk → chunk.code = chunk.bytes.length := by
    rw [made]
    exact ⟨same.trans (List.append_nil _).symm, fun _ some => by cases some⟩
  cases effect with
  | write fd data outcome =>
      simp only [exec] at executed
      split at executed
      · cases outcome with
        | ok count =>
            cases executed
            have made : sendLedger.makes (.write fd data (.ok count))
                (min count data.length : Nat) = _ := accepted_count data count
            rw [made]
            refine ⟨by simp, fun chunk same => ?_⟩
            cases same
            simp
        | error error =>
            cases executed
            exact still rfl (setErrno_sent _ _ _)
      · cases executed
        exact still rfl (setErrno_sent _ _ _)
  | lock =>
      simp only [exec] at executed
      split at executed <;> cases executed
      exact still rfl rfl
  | «open» name outcome =>
      simp only [exec] at executed
      split at executed
      · cases executed
        exact still rfl (setErrno_sent _ _ _)
      · split at executed <;> cases executed
        exact still rfl rfl
  | fcntl fd outcome =>
      cases executed
      exact still rfl (answer_sent _ _ _)
  | tcgetattr fd outcome =>
      cases outcome <;> cases executed
      · exact still rfl (setErrno_sent _ _ _)
      · exact still rfl rfl
  | tcsetattr fd options outcome =>
      cases executed
      exact still rfl (answer_sent _ _ _)
  | pthreadCreate outcome => cases outcome <;> cases executed <;> exact still rfl rfl
  | pthreadJoin identifier =>
      simp only [exec] at executed
      split at executed
      · split at executed <;> cases executed
        exact still rfl rfl
      · cases executed
        exact still rfl rfl
  | pthreadExit =>
      cases thread <;> cases executed
      exact still rfl rfl
  | ioctl fd succeeds =>
      simp only [exec] at executed
      split at executed <;> cases executed <;> exact still rfl rfl
  | read fd count succeeds =>
      simp only [exec] at executed
      split at executed
      · split at executed <;> cases executed
        exact still rfl rfl
      · cases executed
        exact still rfl rfl
  | _ =>
      cases executed
      exact still rfl rfl

end Effects

theorem sendLedger_lawful (libc : SpeedSetters) : sendLedger.Lawful (system libc) where
  start := ⟨⟨rfl, fun _ member => absurd member List.not_mem_nil⟩, rfl⟩
  body _ := runJob_settles _
  settled {thread effect s reply after made} settles executed shows := by
    refine ⟨?_, exec_told executed⟩
    cases effect with
    | returned operation value =>
        cases executed
        exact shows
    | _ => cases settles
  made {thread effect s reply after made} settles executed shows := by
    obtain ⟨sent, counted⟩ := exec_sent executed
    have told := exec_told executed
    refine ⟨⟨?_, fun chunk member => ?_⟩, ?_⟩
    · rw [sent, shows.1, List.map_append, List.flatten_append]
    · rcases List.mem_append.mp member with earlier | now
      · exact shows.2 chunk earlier
      · exact counted chunk (Option.mem_toList.mp now)
    · have due : sendLedger.due effect = none := by
        cases effect <;> first | rfl | cases settles
      rw [due] at told
      exact told.trans (List.append_nil _)
  external changed shows := by
    cases changed
    exact ⟨shows, rfl⟩

/-! ## The runs -/

section Runs

variable {libc : SpeedSetters} {config : Config Tid State Effect Effect.Reply Job Result}

/-- The thread is in a `send` whose write was accepted and has written the chunk, and which
has not returned. -/
def Sending (config : Config Tid State Effect Effect.Reply Job Result) (thread : Tid)
    (chunk : Chunk) : Prop :=
  ∃ call data count fd, config.calls thread = some call ∧
    call.job = .operation (.send (some data) (.ok count)) ∧ .write fd data (.ok count) ∈ call.past ∧
    chunk.bytes = data.take count ∧ ∀ value, ¬ call.Returned value

/-- What the rest of a call tells, once it has given the mutex back. -/
def tells : Code Result → Option Chunk
  | .act (.returned operation value) _ => operation.told value
  | .act .unlock next => tells (next ())
  | _ => none

/-- What the device has been sent is accounted for: by the sends that have returned and
by those that have written and not returned, one chunk each. -/
structure Accounted (chunks : List Chunk) (kept : List (Tid × Chunk))
    (config : Config Tid State Effect Effect.Reply Job Result) : Prop where
  sent : config.state.port.sent = (chunks.map Chunk.bytes).flatten
  counted : ∀ chunk ∈ chunks, chunk.code = chunk.bytes.length
  told : chunks.Perm (config.state.port.told ++ kept.map Prod.snd)
  single : (kept.map Prod.fst).Nodup
  sending : ∀ thread chunk, (thread, chunk) ∈ kept → Sending config thread chunk
  telling : ∀ thread call chunk, config.calls thread = some call → tells call.prog = some chunk →
    (thread, chunk) ∈ kept

/-- A program settles what it tells. -/
theorem kept_of_tells {post : Result → Option Chunk → Prop} {program : Code Result}
    {mine : Option Chunk} {chunk : Chunk} (settles : program.Settles sendLedger post mine)
    (telling : tells program = some chunk) : mine = some chunk := by
  induction program with
  | ret value => cases telling
  | act effect next nextIH =>
      obtain ⟨settling, going⟩ := settles
      cases effect with
      | returned operation value =>
          obtain ⟨due, -⟩ := settling rfl
          exact due.symm.trans telling
      | unlock => exact nextIH () ((going rfl ()).2 rfl) telling
      | _ => cases telling

/-- An accepted write has taken what it answers of its data. -/
theorem answers_write {libc : SpeedSetters} {fd : Int} {data : List UInt8}
    {outcome : Except Errno Nat} {code : Int} {chunk : Chunk}
    (answers : (system libc).Answers (.write fd data outcome) code)
    (made : accepted data code = some chunk) :
    ∃ count, outcome = .ok count ∧ chunk.bytes = data.take count := by
  obtain ⟨thread, s, after, executed⟩ := answers
  have refused : ∀ {chunk : Chunk}, accepted data (-1) ≠ some chunk := nofun
  have performed : exec thread (.write fd data outcome) s = some (code, after) := executed
  simp only [exec] at performed
  split at performed
  · cases outcome with
    | ok count =>
        cases performed
        rw [accepted_count] at made
        cases made
        exact ⟨count, rfl, rfl⟩
    | error error =>
        cases performed
        exact absurd made refused
  · cases performed
    exact absurd made refused

/-- Who writes is a `send` of that data. -/
theorem job_of_write (reachable : (system libc).Reachable .always config) {thread : Tid}
    {call : Call State Effect Effect.Reply Job Result} (calls : config.calls thread = some call)
    {fd : Int} {data : List UInt8} {outcome : Except Errno Nat}
    (wrote : .write fd data outcome ∈ call.past) :
    call.job = .operation (.send (some data) outcome) := by
  have kept := reachable.of_call
    (fun call => call.prog.Only (Effect.writesFor call.job) ∧
      ∀ effect ∈ call.past, effect.writesFor call.job)
    (fun _ job _ _ _ => ⟨runJob_writesFor job, fun _ member => absurd member List.not_mem_nil⟩)
    (fun _ _ _ effect _ reply kept =>
      ⟨kept.1.2 reply, List.forall_mem_cons.mpr ⟨kept.1.1, kept.2⟩⟩) calls
  exact kept.2 _ wrote fd data outcome rfl

theorem accounted_of_balances (reachable : (system libc).Reachable .always config)
    {chunks : List Chunk} {kept : List (Tid × Chunk)}
    (balances : sendLedger.Balances (system libc) chunks kept config) : Accounted chunks kept config where
  sent := balances.shows.1
  counted := balances.shows.2
  told := balances.perm
  single := balances.single
  sending thread chunk member := by
    obtain ⟨call, calls, settles, maker⟩ := balances.call_of_kept member
    obtain ⟨effect, reply, wrote, answers, made⟩ := maker chunk rfl
    cases effect with
    | write fd data outcome =>
        obtain ⟨count, rfl, bytes⟩ := answers_write answers made
        refine ⟨call, data, count, fd, calls, job_of_write reachable calls wrote, wrote, bytes, ?_⟩
        intro value returned
        rw [returned] at settles
        cases settles
    | _ => cases made
  telling thread call chunk calls telling := by
    obtain ⟨mine, keeps, -, owes⟩ := balances.calls thread
    have same := kept_of_tells (owes call calls).1 telling
    subst same
    exact keeps

end Runs

/-- No write of any client is lost, doubled, torn or told wrong, and what has been sent
keeps its place as the run goes on. -/
theorem sends_accounted (libc : SpeedSetters)
    (origin config : Config Tid State Effect Effect.Reply Job Result)
    (reachable : (system libc).Reachable .always origin)
    (leads : (system libc).Leads (fun _ _ => True) origin config) :
    ∃ early late keptEarly kept, Accounted early keptEarly origin ∧
      Accounted (early ++ late) kept config := by
  obtain ⟨early, keptEarly, balances⟩ :=
    Ledger.balances_of_reachable (sendLedger_lawful libc) reachable
  obtain ⟨late, kept, balancesNow⟩ := balances.leads (sendLedger_lawful libc) leads
  have reachableNow : (system libc).Reachable .always config :=
    leads.reachable (fun _ _ _ => Condition.always_allows) reachable
  exact ⟨early, late, keptEarly, kept, accounted_of_balances reachable balances,
    accounted_of_balances reachableNow balancesNow⟩

/-- One client has written half of its data and not returned; the `send` of another is
about to return. -/
def sendingTogetherRun : List (Label Tid Job (List UInt8)) :=
  openingRun (.fine 3) 18 ++
    Label.burst (.client 0) (.operation (.send (some [0x61, 0x62]) (.ok 1))) 5 ++
    Label.burst (.client 1) (.operation (.send (some [0x63]) (.ok 1))) 5

theorem sends_accounted_together :
    ∃ origin config, (system glibc).steps .always (system glibc).initial sendingTogetherRun =
        some origin ∧
      (system glibc).step origin (.act (.client 1)) = some config ∧
      origin.state.port.told.map Chunk.bytes = [] ∧
      config.state.port.told.map Chunk.bytes = [[0x63]] ∧
      config.state.port.sent = [0x61, 0x63] ∧
      ∃ early late keptEarly kept, Accounted early keptEarly origin ∧
        Accounted (early ++ late) kept config := by
  have ran : ∃ origin config, (system glibc).steps .always (system glibc).initial
        sendingTogetherRun = some origin ∧
      (system glibc).step origin (.act (.client 1)) = some config ∧
      origin.state.port.told.map Chunk.bytes = [] ∧
      config.state.port.told.map Chunk.bytes = [[0x63]] ∧
      config.state.port.sent = [0x61, 0x63] := ⟨_, _, rfl, rfl, rfl, rfl, rfl⟩
  obtain ⟨origin, config, steps, stepped, before, after, sent⟩ := ran
  exact ⟨origin, config, steps, stepped, before, after, sent,
    sends_accounted glibc origin config (.of_steps .start steps) (.step .here trivial stepped)⟩

end LibSp.Linux
