import LibSp.Linux.CrowdStream
import LibSp.Linux.OpenClose
import LibSp.Concurrent.Budget

/-!
# What is delivered after a stop

`stop_thread_recv` clears a flag that each receive thread tests once in an iteration.
An iteration that has passed the test still delivers, once at most.
-/

set_option autoImplicit false

namespace LibSp.Linux

open Concurrent

/-! ## Deliveries of the jobs -/

/-- The effects that the operations of a client perform. -/
def Effect.byClient : Effect → Bool
  | .pthreadExit | .ioctl .. | .read .. | .onRecvData .. => false
  | _ => true

def Effect.delivers : Effect → Bool
  | .onRecvData .. => true
  | _ => false

/-- The test that ends the loop finds the flag cleared. -/
def FlagCleared : (effect : Effect) → effect.Reply → Prop
  | .load .threadRecvIsRunning, reply => reply = false
  | _, _ => True

section Jobs

variable {libc : SpeedSetters}

theorem runOperation_byClient (operation : Operation) :
    (runOperation libc operation).Only fun effect => effect.byClient = true := by
  have routine : operation.routine = true →
      (runOperation libc operation).Only fun effect => effect.byClient = true := by
    intro routine
    refine (runOperation_routine routine).mono fun effect routine => ?_
    cases effect <;> first | rfl | cases routine
  cases operation with
  | init spp precvData => exact (init_only (fun _ => rfl) fun _ => rfl).bind fun _ => trivial
  | «open» outcome =>
      refine (open_only fun effect opens => ?_).bind fun _ => trivial
      cases effect <;> first | rfl | cases opens
  | close | setReadNotify | isOpened | send | destroy => exact routine rfl

theorem operation_byClient (operation : Operation) :
    (runJob libc (.operation operation)).Only fun effect => effect.byClient = true :=
  (runOperation_byClient operation).bind fun _ => ⟨rfl, fun _ => trivial⟩

theorem byClient_of_admits {number : Nat} {last : Option Result} {s : State} {job : Job}
    (admitted : admits (.client number) last s job = true) :
    (runJob libc job).Only fun effect => effect.byClient = true := by
  cases job with
  | operation operation => exact operation_byClient operation
  | iteration hasReadBytes outcome => cases admitted

theorem silent_of_byClient {effect : Effect} (byClient : effect.byClient = true) :
    effect.delivers = false := by
  cases effect <;> first | rfl | cases byClient

/-- An iteration delivers at most once. -/
theorem iteration_atMost {hasReadBytes : Int} {outcome : RecvOutcome}
    {permits : (effect : Effect) → effect.Reply → Prop} :
    (runJob libc (.iteration hasReadBytes outcome)).AtMost Effect.delivers permits 1 := by
  refine Prog.AtMost.bind (?_ : (threadRecvDataMonitor (pure ()) hasReadBytes outcome).AtMost
    Effect.delivers permits 1) fun _ => trivial
  have released : ∀ hasReadBytes : Int, (do
      perform .unlock
      return .next hasReadBytes : Code Iteration).AtMost Effect.delivers permits 1 :=
    fun _ => .free rfl fun _ _ => trivial
  refine .free rfl fun running _ => .ite (fun _ => .free rfl fun _ _ => trivial) fun _ => ?_
  refine .free rfl fun fd _ => .free rfl fun queried _ => ?_
  refine .ite (fun _ => trivial) fun _ => .free rfl fun notify _ => ?_
  refine .ite (fun _ => ?_) fun _ => trivial
  refine .free rfl fun _ _ => .free rfl fun opened _ => ?_
  refine .ite (fun _ => ?_) fun _ => released _
  refine .free rfl fun fd _ => .free rfl fun taken _ => ?_
  cases taken with
  | none => exact released _
  | some bufRead =>
      refine .ite (fun _ => .free rfl fun receiver _ => ?_) fun _ => released _
      cases receiver with
      | none => exact released _
      | some receiver =>
          exact ⟨fun _ => Nat.one_pos, fun _ _ => .free rfl fun _ _ => trivial⟩

/-- With the flag cleared an iteration delivers nothing, and a client never does. -/
theorem runJob_silent (job : Job) :
    (runJob libc job).AtMost Effect.delivers FlagCleared 0 := by
  cases job with
  | operation operation =>
      exact .of_only ((operation_byClient operation).mono fun _ => silent_of_byClient)
  | iteration hasReadBytes outcome =>
      refine Prog.AtMost.bind (?_ : (threadRecvDataMonitor (pure ()) hasReadBytes outcome).AtMost
        Effect.delivers FlagCleared 0) fun _ => trivial
      refine .free rfl fun running (cleared : running = false) => ?_
      subst cleared
      exact .free rfl fun _ _ => trivial

end Jobs

/-! ## Runs without a restart -/

/-- No step sets the flag. -/
def KeepsStopped (config : Config Tid State Effect Effect.Reply Job Result)
    (label : Label Tid Job (List UInt8)) : Prop :=
  ∀ thread call, label = .act thread → config.calls thread = some call →
    ¬ call.Next (.store .threadRecvIsRunning true)

def Stopped (config : Config Tid State Effect Effect.Reply Job Result) : Prop :=
  config.state.port.param.threadRecvIsRunning = false

/-- The receive threads that are in the middle of an iteration. -/
def iterating (config : Config Tid State Effect Effect.Reply Job Result) : List Nat :=
  config.state.receivers.filter fun number => (config.idle? (.worker number)).isNone

section Runs

variable {libc : SpeedSetters} {config next origin : Config Tid State Effect Effect.Reply Job Result}

theorem exec_threadRecvIsRunning {thread : Tid} {effect : Effect} {s after : State}
    {reply : effect.Reply} (keeps : effect ≠ .store .threadRecvIsRunning true)
    (cleared : s.port.param.threadRecvIsRunning = false)
    (executed : exec thread effect s = some (reply, after)) :
    after.port.param.threadRecvIsRunning = false := by
  have updated : after.port.param.threadRecvIsRunning =
      (effect.update thread s.members).param.threadRecvIsRunning :=
    congrArg (fun members : Members => members.param.threadRecvIsRunning) (exec_members executed)
  rw [updated]
  cases effect with
  | store field value =>
      cases field with
      | threadRecvIsRunning =>
          cases value with
          | false => rfl
          | true => exact absurd rfl keeps
      | _ => exact cleared
  | pthreadCreate outcome => cases outcome <;> exact cleared
  | _ => exact cleared

theorem delivered_counted {thread : Tid} {effect : Effect} {s after : State}
    {reply : effect.Reply} (executed : exec thread effect s = some (reply, after)) :
    after.delivered.length = s.delivered.length + effect.delivers.toNat := by
  cases effect with
  | onRecvData receiver chunk notify =>
      cases executed
      simp [Effect.delivers]
  | lock | ioctl =>
      simp only [exec] at executed
      split at executed <;> cases executed <;> rfl
  | read fd count succeeds =>
      simp only [exec] at executed
      split at executed
      · split at executed <;> cases executed
        rfl
      · cases executed
        rfl
  | «open» name outcome =>
      simp only [exec] at executed
      split at executed
      · cases executed
        rfl
      · split at executed <;> cases executed
        rfl
  | write fd data outcome =>
      simp only [exec] at executed
      split at executed
      · cases outcome <;> cases executed <;> rfl
      · cases executed
        rfl
  | tcgetattr fd outcome => cases outcome <;> cases executed <;> rfl
  | pthreadCreate outcome => cases outcome <;> cases executed <;> rfl
  | pthreadJoin identifier =>
      simp only [exec] at executed
      split at executed
      · split at executed <;> cases executed
        rfl
      · cases executed
        rfl
  | pthreadExit =>
      cases thread with
      | client number => cases executed
      | worker number =>
          cases executed
          rfl
  | _ =>
      cases executed
      rfl

theorem stopped_budget (libc : SpeedSetters) :
    Budget (system libc) KeepsStopped Stopped Effect.delivers FlagCleared
      (fun s => s.delivered.length) where
  kept {config label next} stopped keeps stepped := by
    rcases Machine.step_cases stepped with
      ⟨thread, job, last, -, -, -, rfl⟩ |
      ⟨thread, job, entry, past, effect, rest, reply, state, rfl, calls, executed, rfl⟩ |
      ⟨event, state, -, changed, rfl⟩
    · exact stopped
    · refine exec_threadRecvIsRunning (fun sets => ?_) stopped executed
      subst sets
      exact keeps thread _ rfl calls ⟨rest, rfl⟩
    · cases changed
      exact stopped
  permitted {config thread effect reply after} stopped executed := by
    cases effect with
    | load field =>
        cases field with
        | threadRecvIsRunning =>
            cases executed
            exact stopped
        | _ => trivial
    | _ => trivial
  counted executed := delivered_counted executed
  external changed := by
    cases changed
    rfl
  bodies _ := runJob_silent _

/-- A call that has begun delivers at most once. -/
theorem call_atMost (reachable : (system libc).Reachable .always config) {thread : Tid}
    {call : Call State Effect Effect.Reply Job Result} (calls : config.calls thread = some call) :
    call.prog.AtMost Effect.delivers FlagCleared 1 := by
  have once : call.prog.AtMost Effect.delivers (fun _ _ => True) 1 := by
    refine reachable.of_call
      (fun call => call.prog.AtMost Effect.delivers (fun _ _ => True) 1) ?_ ?_ calls
    · intro _ job _ _ _
      cases job with
      | operation operation =>
          exact .of_only ((operation_byClient operation).mono fun _ => silent_of_byClient)
      | iteration hasReadBytes outcome => exact @iteration_atMost libc hasReadBytes outcome _
    · intro _ _ _ effect _ reply atMost
      exact (atMost.2 reply trivial).mono (Nat.sub_le _ _)
  exact once.permitted fun _ _ _ => trivial

theorem iterating_of_standing (reachable : (system libc).Reachable .always config) {number : Nat}
    {call : Call State Effect Effect.Reply Job Result} {effect : Effect}
    (calls : config.calls (.worker number) = some call) (standing : call.Next effect) :
    number ∈ iterating config := by
  have pointed := (crowd_contract libc .always).point_of_reachable reachable calls standing
  have alive : number ∈ config.state.receivers := (pointed.2 number rfl).alive
  refine List.mem_filter.mpr ⟨alive, ?_⟩
  obtain ⟨next, at_effect⟩ := standing
  obtain ⟨job, entry, past, prog⟩ := call
  cases at_effect
  simp only [Config.idle?, calls]
  rfl

/-- The budget of a thread: one delivery in the middle of an iteration, else none. -/
theorem origin_budgeted (reachable : (system libc).Reachable .always origin) :
    Budgeted Effect.delivers FlagCleared ((iterating origin).map Tid.worker).toFinset
      (fun thread => if thread ∈ ((iterating origin).map Tid.worker).toFinset then 1 else 0)
      origin where
  calls thread call calls := by
    split
    · exact call_atMost reachable calls
    · next outside =>
        cases thread with
        | client number =>
            refine .of_only ((reachable.only (fun last job s admitted => ?_) calls).mono
              fun _ => silent_of_byClient)
            exact byClient_of_admits admitted
        | worker number =>
            cases program : call.prog with
            | ret value => trivial
            | act effect next =>
                have busy := iterating_of_standing reachable calls ⟨next, program⟩
                exact absurd (List.mem_toFinset.mpr (List.mem_map_of_mem busy)) outside
  outside thread missing := if_neg missing

end Runs

/-- Once the flag is cleared, and until it is set again, each receive thread in the middle
of an iteration delivers at most one chunk more, and the others deliver nothing; whatever
any number of clients do. -/
theorem stopped_deliveries (libc : SpeedSetters)
    (origin config : Config Tid State Effect Effect.Reply Job Result) (tally : Tid → Nat)
    (reachable : (system libc).Reachable .always origin)
    (stopped : origin.state.port.param.threadRecvIsRunning = false)
    (tallies : (system libc).Tallies KeepsStopped Effect.delivers origin config tally) :
    (∀ number, tally (.worker number) ≤ if number ∈ iterating origin then 1 else 0) ∧
    (∀ number, tally (.client number) = 0) ∧
    config.state.delivered.length = origin.state.delivered.length +
      ∑ number ∈ (iterating origin).toFinset, tally (.worker number) := by
  obtain ⟨within, -, total⟩ :=
    (stopped_budget libc).spent stopped (origin_budgeted reachable) tallies
  refine ⟨fun number => ?_, fun number => ?_, ?_⟩
  · simpa using within (.worker number)
  · simpa using within (.client number)
  · have workers : ((iterating origin).map Tid.worker).toFinset =
        (iterating origin).toFinset.image Tid.worker := by
      ext thread
      simp
    rw [total, workers, Finset.sum_image fun _ _ _ _ same => Tid.worker.inj same]

/-- A receive thread has read a byte, and `close` has cleared the flag. -/
def stoppingRun : List (Label Tid Job (List UInt8)) :=
  openingRun (.fine 3) 18 ++ .external [65] ::
    Label.burst (.worker 0) (.iteration 0 ⟨true, true⟩) 9 ++
    Label.burst (.client 0) (.operation .close) 2

/-- The byte is still delivered. -/
theorem stopped_deliveries_once :
    ∃ origin config tally,
      (system glibc).steps .always (system glibc).initial stoppingRun = some origin ∧
      (system glibc).Tallies KeepsStopped Effect.delivers origin config tally ∧
      tally (.worker 0) = 1 ∧
      (∀ number, tally (.worker number) ≤ if number ∈ iterating origin then 1 else 0) ∧
      (∀ number, tally (.client number) = 0) ∧
      config.state.delivered.length = origin.state.delivered.length +
        ∑ number ∈ (iterating origin).toFinset, tally (.worker number) := by
  have ran : ∃ origin config call,
      (system glibc).steps .always (system glibc).initial stoppingRun = some origin ∧
      origin.calls (.worker 0) = some call ∧ call.Next (.onRecvData 7 [65] 1) ∧
      origin.state.port.param.threadRecvIsRunning = false ∧
      (system glibc).step origin (.act (.worker 0)) = some config ∧
      origin.spends Effect.delivers (.act (.worker 0) : Label Tid Job (List UInt8)) (.worker 0) = 1 :=
    ⟨_, _, _, rfl, rfl, ⟨_, rfl⟩, rfl, rfl, rfl⟩
  obtain ⟨origin, config, call, steps, calls, standing, stopped, stepped, spends⟩ := ran
  have keeps : KeepsStopped origin (.act (.worker 0)) := by
    intro thread other same called sets
    cases same
    rw [calls] at called
    cases called
    obtain ⟨first, program⟩ := standing
    obtain ⟨second, sets⟩ := sets
    rw [program] at sets
    cases sets
  have tallies := Machine.Tallies.step (.here : (system glibc).Tallies KeepsStopped Effect.delivers
    origin origin _) keeps stepped
  refine ⟨origin, config, _, steps, tallies, ?_,
    stopped_deliveries glibc origin config _ (.of_steps .start steps) stopped tallies⟩
  rw [spends]

end LibSp.Linux
