import LibSp.Concurrent.Leads
import LibSp.Concurrent.Amid

/-!
# Calls that take turns

Some calls of a pool enter a turn at one of their effects and stay in it until they
return. A call that takes its turn alone keeps every other call out; calls that
share a turn only look at the resource. Outside a turn no call touches it. Nothing
in the machine enforces this: it is a rule that runs may follow. In such a run every
call in its turn can be followed as if the others stood still.
-/

set_option autoImplicit false

namespace LibSp.Concurrent

variable {Tid State Effect : Type} {Reply : Effect → Type} {Job Result External Part : Type}
  {α β : Type}

/-- At which effects a job enters its turn, and whether it takes it alone. -/
structure Turns (Job Effect : Type) where
  enters : Job → Effect → Bool
  alone : Job → Bool

namespace Prog

/-- Before its first entering effect the program performs only harmless effects; from
there on it is as `inTurn` says. -/
def Entering (enters harmless : Effect → Bool) (inTurn : Prog Effect Reply α → Prop) :
    Prog Effect Reply α → Prop
  | .ret _ => True
  | .act effect next =>
      (enters effect = true → inTurn (.act effect next)) ∧
      (enters effect = false → harmless effect = true ∧
        ∀ reply, (next reply).Entering enters harmless inTurn)

variable {enters harmless : Effect → Bool} {inTurn : Prog Effect Reply α → Prop}

theorem Entering.of_only {program : Prog Effect Reply α}
    (only : program.Only fun effect => enters effect = false ∧ harmless effect = true) :
    program.Entering enters harmless inTurn := by
  induction program with
  | ret value => trivial
  | act effect next nextIH =>
      obtain ⟨outside, harmless⟩ := only.1
      constructor
      · intro entering
        rw [outside] at entering
        cases entering
      · intro _
        exact ⟨harmless, fun reply => nextIH reply (only.2 reply)⟩

/-- An effect that is harmless and does not enter. -/
theorem Entering.act {effect : Effect} {next : Reply effect → Prog Effect Reply α}
    (outside : enters effect = false) (peaceful : harmless effect = true)
    (continued : ∀ reply, (next reply).Entering enters harmless inTurn) :
    (Prog.act effect next).Entering enters harmless inTurn := by
  constructor
  · intro entering
    rw [outside] at entering
    cases entering
  · exact fun _ => ⟨peaceful, continued⟩

theorem Entering.enter {effect : Effect} {next : Reply effect → Prog Effect Reply α}
    (entering : enters effect = true) (going : inTurn (.act effect next)) :
    (Prog.act effect next).Entering enters harmless inTurn := by
  constructor
  · exact fun _ => going
  · intro outside
    rw [outside] at entering
    cases entering

theorem Entering.bind {inTurnFirst : Prog Effect Reply α → Prop}
    {inTurn : Prog Effect Reply β → Prop} {program : Prog Effect Reply α}
    {rest : α → Prog Effect Reply β}
    (going : ∀ program, inTurnFirst program → inTurn (program >>= rest))
    (first : program.Entering enters harmless inTurnFirst)
    (second : ∀ value, (rest value).Entering enters harmless inTurn) :
    (program >>= rest).Entering enters harmless inTurn := by
  induction program with
  | ret value => exact second value
  | act effect next nextIH =>
      constructor
      · exact fun entering => going _ (first.1 entering)
      · intro outside
        obtain ⟨peaceful, continued⟩ := first.2 outside
        exact ⟨peaceful, fun reply => nextIH reply (continued reply)⟩

/-- What the program performs before its entering effect, and from there on. -/
theorem Entering.mono {stronger : Prog Effect Reply α → Prop} {program : Prog Effect Reply α}
    (implies : ∀ program, stronger program → inTurn program)
    (entering : program.Entering enters harmless stronger) :
    program.Entering enters harmless inTurn := by
  induction program with
  | ret value => trivial
  | act effect next nextIH =>
      constructor
      · exact fun enters => implies _ (entering.1 enters)
      · intro outside
        obtain ⟨peaceful, continued⟩ := entering.2 outside
        exact ⟨peaceful, fun reply => nextIH reply (continued reply)⟩

theorem Entering.ite {test : Prop} [Decidable test] {first second : Prog Effect Reply α}
    (positive : test → first.Entering enters harmless inTurn)
    (negative : ¬ test → second.Entering enters harmless inTurn) :
    (if test then first else second).Entering enters harmless inTurn := by
  split
  · next holds => exact positive holds
  · next fails => exact negative fails

end Prog

section

variable (turns : Turns Job Effect)

def Call.Entered (call : Call State Effect Reply Job Result) : Prop :=
  ∃ effect ∈ call.past, turns.enters call.job effect = true

/-- The call has entered its turn and not returned. -/
def Call.InTurn (call : Call State Effect Reply Job Result) : Prop :=
  call.Entered turns ∧ ∃ effect, call.Next effect

/-- A call enters its turn only together with calls that share it. -/
def Turns.rule : Rule Tid State Effect Reply Job Result External := fun config label =>
  ∀ thread call effect, label = .act thread → config.calls thread = some call →
    call.Next effect → turns.enters call.job effect = true →
    ∀ other second, other ≠ thread → config.calls other = some second → second.InTurn turns →
      turns.alone call.job = false ∧ turns.alone second.job = false

variable [DecidableEq Tid]

/-- The resource is `settled` while nobody has it alone. `alters` are the effects that
a call may perform only when it has it alone, `outside` those that need no turn;
`drifts` is what may happen to the part of a call in its turn without its doing. -/
structure Turns.Fair (machine : Machine Tid State Effect Reply Job Result External)
    (condition : Condition Tid State Effect Job) (alters outside : Effect → Bool)
    (part : Tid → State → Part) (settled : Part → Prop) (drifts : Job → Part → Part → Prop)
    (look : (effect : Effect) → Part → Reply effect → Part → Prop)
    (point : Job → Effect → Part → Prop) (verdict : Job → Result → Prop) : Prop where
  harmless : ∀ {effect}, outside effect = true → alters effect = false
  refl : ∀ job part, drifts job part part
  trans : ∀ {job first second third}, drifts job first second → drifts job second third →
    drifts job first third
  begins : ∀ thread, settled (part thread machine.start)
  agree : ∀ {first second state}, settled (part first state) → settled (part second state)
  mine : ∀ {thread job effect state reply after},
    condition.acts thread job effect state = true →
    machine.exec thread effect state = some (reply, after) →
    look effect (part thread state) reply (part thread after)
  apart : ∀ {thread other job effect state reply after}, alters effect = false →
    (turns.alone job = true → outside effect = true) → other ≠ thread →
    machine.exec thread effect state = some (reply, after) →
    drifts job (part other state) (part other after)
  keeps : ∀ {thread effect state reply after}, alters effect = false →
    settled (part thread state) → machine.exec thread effect state = some (reply, after) →
    settled (part thread after)
  external : ∀ {thread job event state after}, machine.external event state = some after →
    drifts job (part thread state) (part thread after)
  rests : ∀ {thread event state after}, settled (part thread state) →
    machine.external event state = some after → settled (part thread after)
  body : ∀ {thread last state job}, machine.admits thread last state job = true →
    (machine.body job).Entering (turns.enters job) outside fun program =>
      ∀ now, settled now → program.Amid (drifts job) look (point job)
        (fun result after => verdict job result ∧ settled after) now
  shared : ∀ {thread last state job}, machine.admits thread last state job = true →
    turns.alone job = false → (machine.body job).Only fun effect => alters effect = false

end

section Sound

variable [DecidableEq Tid] {machine : Machine Tid State Effect Reply Job Result External}
  {condition : Condition Tid State Effect Job} {alters outside : Effect → Bool}
  {part : Tid → State → Part} {settled : Part → Prop} {drifts : Job → Part → Part → Prop}
  {look : (effect : Effect) → Part → Reply effect → Part → Prop}
  {point : Job → Effect → Part → Prop} {verdict : Job → Result → Prop} {turns : Turns Job Effect}

/-- What holds of the calls of one configuration. -/
structure Turns.Kept (turns : Turns Job Effect) (outside : Effect → Bool)
    (part : Tid → State → Part) (settled : Part → Prop) (drifts : Job → Part → Part → Prop)
    (look : (effect : Effect) → Part → Reply effect → Part → Prop)
    (point : Job → Effect → Part → Prop) (verdict : Job → Result → Prop)
    (config : Config Tid State Effect Reply Job Result) : Prop where
  waiting : ∀ thread call, config.calls thread = some call → ¬ call.Entered turns →
    call.prog.Entering (turns.enters call.job) outside fun program =>
      ∀ now, settled now → program.Amid (drifts call.job) look (point call.job)
        (fun result after => verdict call.job result ∧ settled after) now
  going : ∀ thread call, config.calls thread = some call → call.InTurn turns →
    call.prog.Amid (drifts call.job) look (point call.job)
      (fun result after => verdict call.job result ∧ settled after) (part thread config.state)
  returned : ∀ thread call value, config.calls thread = some call → call.Entered turns →
    call.Returned value → verdict call.job value
  sole : ∀ thread call other second, config.calls thread = some call → call.InTurn turns →
    turns.alone call.job = true → other ≠ thread → config.calls other = some second →
    ¬ second.InTurn turns
  free : (∀ thread call, config.calls thread = some call → call.InTurn turns →
    turns.alone call.job = false) → ∀ thread, settled (part thread config.state)

variable (fair : turns.Fair machine condition alters outside part settled drifts look point verdict)
  {config : Config Tid State Effect Reply Job Result}
include fair

omit fair [DecidableEq Tid] in
theorem Call.not_entered_begun (job : Job) (entry : State) (prog : Prog Effect Reply Result) :
    ¬ Call.Entered turns ⟨job, entry, [], prog⟩ := by
  intro found
  obtain ⟨effect, member, -⟩ := found
  cases member

omit [DecidableEq Tid] in
theorem Turns.kept_start :
    turns.Kept outside part settled drifts look point verdict machine.initial where
  waiting _ _ calls := by cases calls
  going _ _ calls := by cases calls
  returned _ _ _ calls := by cases calls
  sole _ _ _ _ calls := by cases calls
  free _ := fair.begins

theorem Turns.kept_begin {thread : Tid} {job : Job} {last : Option Result}
    (kept : turns.Kept outside part settled drifts look point verdict config)
    (idle : config.idle? thread = some last)
    (admitted : machine.admits thread last config.state job = true) :
    turns.Kept outside part settled drifts look point verdict
      (config.put thread ⟨job, config.state, [], machine.body job⟩ config.state) := by
  have fresh := @Call.not_entered_begun State Effect Reply Job Result turns job config.state
    (machine.body job)
  have old : ∀ {other : Tid} {call : Call State Effect Reply Job Result}, call.Entered turns →
      (config.put thread ⟨job, config.state, [], machine.body job⟩ config.state).calls other =
        some call → config.calls other = some call ∧ other ≠ thread := by
    intro other call entered calls
    by_cases same : other = thread
    · subst same
      rw [Config.put_calls_self] at calls
      cases calls
      exact absurd entered fresh
    · rw [Config.put_calls_other _ _ _ _ same] at calls
      exact ⟨calls, same⟩
  constructor
  · intro other call calls notEntered
    by_cases same : other = thread
    · subst same
      rw [Config.put_calls_self] at calls
      cases calls
      exact fair.body admitted
    · rw [Config.put_calls_other _ _ _ _ same] at calls
      exact kept.waiting other call calls notEntered
  · intro other call calls inTurn
    exact kept.going other call (old inTurn.1 calls).1 inTurn
  · intro other call value calls entered returned
    exact kept.returned other call value (old entered calls).1 entered returned
  · intro first call other second calls inTurn alone different secondCalls secondInTurn
    exact kept.sole first call other second (old inTurn.1 calls).1 inTurn alone different
      (old secondInTurn.1 secondCalls).1 secondInTurn
  · intro shared
    refine kept.free fun other call calls inTurn => shared other call ?_ inTurn
    have different : other ≠ thread := by
      intro same
      subst same
      obtain ⟨-, effect, rest, program⟩ := inTurn
      simp only [Config.idle?, calls] at idle
      rcases call with ⟨callJob, entry, past, prog⟩
      cases program
      simp at idle
    rw [Config.put_calls_other _ _ _ _ different]
    exact calls

omit [DecidableEq Tid] in
theorem Turns.kept_external {event : External} {state : State}
    (kept : turns.Kept outside part settled drifts look point verdict config)
    (changed : machine.external event config.state = some state) :
    turns.Kept outside part settled drifts look point verdict { config with state := state } where
  waiting := kept.waiting
  going thread call calls inTurn :=
    Prog.Amid.drifted fair.trans (kept.going thread call calls inTurn) (fair.external changed)
  returned := kept.returned
  sole := kept.sole
  free shared thread := fair.rests (kept.free shared thread) changed

section Acts

variable {thread : Tid} {job : Job} {entry state : State} {past : List Effect} {effect : Effect}
  {rest : Reply effect → Prog Effect Reply Result} {reply : Reply effect}
  (kept : turns.Kept outside part settled drifts look point verdict config)
  (calls : config.calls thread = some ⟨job, entry, past, .act effect rest⟩)
  (executed : machine.exec thread effect config.state = some (reply, state))
include kept calls executed

/-- A step outside every turn. -/
theorem Turns.kept_wait (without : ¬ Call.Entered turns ⟨job, entry, past, .act effect rest⟩)
    (entersNot : turns.enters job effect = false) :
    turns.Kept outside part settled drifts look point verdict
      (config.put thread ⟨job, entry, effect :: past, rest reply⟩ state) := by
  have harmless := (kept.waiting thread _ calls without).2 entersNot
  have unaltered := fair.harmless harmless.1
  have stillOutside : ¬ Call.Entered turns
      (⟨job, entry, effect :: past, rest reply⟩ : Call State Effect Reply Job Result) := by
    intro entered
    obtain ⟨performed, member, entering⟩ := entered
    rcases List.mem_cons.mp member with rfl | before
    · rw [entersNot] at entering
      cases entering
    · exact without ⟨performed, before, entering⟩
  have old : ∀ {other : Tid} {call : Call State Effect Reply Job Result}, call.Entered turns →
      (config.put thread ⟨job, entry, effect :: past, rest reply⟩ state).calls other =
        some call → config.calls other = some call ∧ other ≠ thread := by
    intro other call entered otherCalls
    by_cases same : other = thread
    · subst same
      rw [Config.put_calls_self] at otherCalls
      cases otherCalls
      exact absurd entered stillOutside
    · rw [Config.put_calls_other _ _ _ _ same] at otherCalls
      exact ⟨otherCalls, same⟩
  constructor
  · intro other call otherCalls notEntered
    by_cases same : other = thread
    · subst same
      rw [Config.put_calls_self] at otherCalls
      cases otherCalls
      exact harmless.2 reply
    · rw [Config.put_calls_other _ _ _ _ same] at otherCalls
      exact kept.waiting other call otherCalls notEntered
  · intro other call otherCalls inTurn
    obtain ⟨before, different⟩ := old inTurn.1 otherCalls
    exact Prog.Amid.drifted fair.trans (kept.going other call before inTurn)
      (fair.apart unaltered (fun _ => harmless.1) different executed)
  · intro other call value otherCalls entered returned
    exact kept.returned other call value (old entered otherCalls).1 entered returned
  · intro first call other second firstCalls inTurn alone different secondCalls secondInTurn
    exact kept.sole first call other second (old inTurn.1 firstCalls).1 inTurn alone different
      (old secondInTurn.1 secondCalls).1 secondInTurn
  · intro shared other
    have before : ∀ thread, settled (part thread config.state) := by
      refine kept.free fun other call otherCalls inTurn => shared other call ?_ inTurn
      have different : other ≠ thread := by
        intro same
        subst same
        rw [calls] at otherCalls
        cases otherCalls
        exact without inTurn.1
      rw [Config.put_calls_other _ _ _ _ different]
      exact otherCalls
    exact fair.agree (fair.keeps unaltered (before thread) executed)

/-- A step within a turn, or the one that enters it. -/
theorem Turns.kept_go (permitted : condition.acts thread job effect config.state = true)
    (entered : Call.Entered turns ⟨job, entry, effect :: past, rest reply⟩)
    (amid : (Prog.act effect rest).Amid (drifts job) look (point job)
      (fun result after => verdict job result ∧ settled after) (part thread config.state))
    (together : ∀ other second, other ≠ thread → config.calls other = some second →
      second.InTurn turns → turns.alone job = false ∧ turns.alone second.job = false)
    (harmless : turns.alone job = false → alters effect = false)
    (whole : turns.alone job = false → settled (part thread config.state)) :
    turns.Kept outside part settled drifts look point verdict
      (config.put thread ⟨job, entry, effect :: past, rest reply⟩ state) := by
  have continued := (amid _ (fair.refl _ _)).2 reply (part thread state)
    (fair.mine permitted executed)
  constructor
  · intro other call otherCalls notEntered
    by_cases same : other = thread
    · subst same
      rw [Config.put_calls_self] at otherCalls
      cases otherCalls
      exact absurd entered notEntered
    · rw [Config.put_calls_other _ _ _ _ same] at otherCalls
      exact kept.waiting other call otherCalls notEntered
  · intro other call otherCalls inTurn
    by_cases same : other = thread
    · subst same
      rw [Config.put_calls_self] at otherCalls
      cases otherCalls
      exact continued
    · rw [Config.put_calls_other _ _ _ _ same] at otherCalls
      obtain ⟨shares, sharesToo⟩ := together other call same otherCalls inTurn
      have unshared : turns.alone call.job = true → outside effect = true := by
        intro alone
        rw [alone] at sharesToo
        cases sharesToo
      exact Prog.Amid.drifted fair.trans (kept.going other call otherCalls inTurn)
        (fair.apart (harmless shares) unshared same executed)
  · intro other call value otherCalls otherEntered returned
    by_cases same : other = thread
    · subst same
      rw [Config.put_calls_self] at otherCalls
      cases otherCalls
      have ended : rest reply = .ret value := returned
      rw [ended] at continued
      exact (continued _ (fair.refl _ _)).1
    · rw [Config.put_calls_other _ _ _ _ same] at otherCalls
      exact kept.returned other call value otherCalls otherEntered returned
  · intro first call other second firstCalls inTurn alone different secondCalls secondInTurn
    by_cases firstSame : first = thread
    · subst firstSame
      rw [Config.put_calls_self] at firstCalls
      cases firstCalls
      rw [Config.put_calls_other _ _ _ _ different] at secondCalls
      have shares := (together other second different secondCalls secondInTurn).1
      rw [alone] at shares
      cases shares
    · rw [Config.put_calls_other _ _ _ _ firstSame] at firstCalls
      by_cases otherSame : other = thread
      · have shares := (together first call firstSame firstCalls inTurn).2
        rw [alone] at shares
        cases shares
      · rw [Config.put_calls_other _ _ _ _ otherSame] at secondCalls
        exact kept.sole first call other second firstCalls inTurn alone different secondCalls
          secondInTurn
  · intro shared other
    have mine : settled (part thread state) := by
      cases alone : turns.alone job with
      | false => exact fair.keeps (harmless alone) (whole alone) executed
      | true =>
          cases ended : rest reply with
          | ret value =>
              rw [ended] at continued
              exact (continued _ (fair.refl _ _)).2
          | act effect next =>
              have shares := shared thread _ (Config.put_calls_self _ _ _ _)
                ⟨entered, effect, next, ended⟩
              rw [alone] at shares
              cases shares
    exact fair.agree mine

theorem Turns.kept_act (permitted : condition.acts thread job effect config.state = true)
    (reachable : machine.Reachable condition config)
    (ruled : turns.rule config (.act thread : Label Tid Job External)) :
    turns.Kept outside part settled drifts look point verdict
      (config.put thread ⟨job, entry, effect :: past, rest reply⟩ state) := by
  have shared : turns.alone job = false → alters effect = false := by
    intro shares
    have only : (⟨job, entry, past, .act effect rest⟩ : Call State Effect Reply Job Result).prog.Only
        fun effect => turns.alone job = false → alters effect = false :=
      reachable.of_call
        (fun call => call.prog.Only fun effect => turns.alone call.job = false →
          alters effect = false)
        (fun last job state admitted _ => by
          cases alone : turns.alone job with
          | false => exact (fair.shared admitted alone).mono fun _ unaltered _ => unaltered
          | true => exact Prog.Only.of_forall fun _ => nofun)
        (fun _ _ _ _ _ reply only => only.2 reply) calls
    exact only.1 shares
  by_cases entered : Call.Entered turns ⟨job, entry, past, .act effect rest⟩
  · have inTurn : Call.InTurn turns ⟨job, entry, past, .act effect rest⟩ :=
      ⟨entered, effect, rest, rfl⟩
    have together : ∀ other second, other ≠ thread → config.calls other = some second →
        second.InTurn turns → turns.alone job = false ∧ turns.alone second.job = false := by
      intro other second different secondCalls secondInTurn
      constructor
      · apply Bool.eq_false_iff.mpr
        intro alone
        exact kept.sole thread _ other second calls inTurn alone different secondCalls secondInTurn
      · apply Bool.eq_false_iff.mpr
        intro alone
        exact kept.sole other second thread _ secondCalls secondInTurn alone (Ne.symm different)
          calls inTurn
    refine Turns.kept_go fair kept calls executed permitted ?_ (kept.going thread _ calls inTurn)
      together shared fun shares => kept.free (fun other call otherCalls otherInTurn => ?_) thread
    · obtain ⟨performed, member, entering⟩ := entered
      exact ⟨performed, List.mem_cons_of_mem _ member, entering⟩
    · by_cases same : other = thread
      · subst same
        rw [calls] at otherCalls
        cases otherCalls
        exact shares
      · exact (together other call same otherCalls otherInTurn).2
  · cases entering : turns.enters job effect with
    | false => exact Turns.kept_wait fair kept calls executed entered entering
    | true =>
        have together := ruled thread _ effect rfl calls ⟨rest, rfl⟩ entering
        have whole : settled (part thread config.state) := by
          refine kept.free (fun other call otherCalls otherInTurn => ?_) thread
          have different : other ≠ thread := by
            intro same
            subst same
            rw [calls] at otherCalls
            cases otherCalls
            exact entered otherInTurn.1
          exact (together other call different otherCalls otherInTurn).2
        exact Turns.kept_go fair kept calls executed permitted
          ⟨effect, List.mem_cons_self, entering⟩
          ((kept.waiting thread _ calls entered).1 entering _ whole) together shared fun _ => whole

end Acts

/-- The runs that meet the condition and in which the calls take turns. -/
def Turns.within (turns : Turns Job Effect) (condition : Condition Tid State Effect Job) :
    Rule Tid State Effect Reply Job Result External :=
  fun config label => condition.allows config label = true ∧ turns.rule config label

theorem Turns.kept (leads : machine.Leads (turns.within condition) machine.initial config) :
    turns.Kept outside part settled drifts look point verdict config := by
  induction leads with
  | here => exact Turns.kept_start fair
  | @step config next label earlier ruled stepped kept =>
      have reachable : machine.Reachable condition config :=
        earlier.reachable (fun _ _ ruled => ruled.1) .start
      rcases Machine.step_cases stepped with
        ⟨thread, job, last, rfl, idle, admitted, rfl⟩ |
        ⟨thread, job, entry, past, effect, rest, reply, state, rfl, calls, executed, rfl⟩ |
        ⟨event, state, rfl, changed, rfl⟩
      · exact Turns.kept_begin fair kept idle admitted
      · have permitted : condition.acts thread job effect config.state = true := by
          have allowed := ruled.1
          simpa only [Condition.allows, calls] using allowed
        exact Turns.kept_act fair kept calls executed permitted reachable ruled.2
      · exact Turns.kept_external fair kept changed

/-- A call in its turn stands at its points. -/
theorem Turns.point_of_inTurn
    (leads : machine.Leads (turns.within condition) machine.initial config) {thread : Tid}
    {call : Call State Effect Reply Job Result} {effect : Effect}
    (calls : config.calls thread = some call) (entered : call.Entered turns)
    (standing : call.Next effect) : point call.job effect (part thread config.state) := by
  have amid := (Turns.kept fair leads).going thread call calls ⟨entered, effect, standing⟩
  obtain ⟨rest, program⟩ := standing
  rw [program] at amid
  exact (amid _ (fair.refl _ _)).1

/-- So does a call that enters its turn by its next step. -/
theorem Turns.point_of_entering
    (leads : machine.Leads (turns.within condition) machine.initial config) {thread : Tid}
    {call : Call State Effect Reply Job Result} {effect : Effect}
    (calls : config.calls thread = some call) (standing : call.Next effect)
    (entering : turns.enters call.job effect = true)
    (ruled : turns.rule config (.act thread : Label Tid Job External)) :
    point call.job effect (part thread config.state) := by
  have kept := Turns.kept fair leads
  by_cases entered : call.Entered turns
  · exact Turns.point_of_inTurn fair leads calls entered standing
  · have whole : settled (part thread config.state) := by
      refine kept.free (fun other second secondCalls secondInTurn => ?_) thread
      have different : other ≠ thread := by
        intro same
        subst same
        rw [calls] at secondCalls
        cases secondCalls
        exact entered secondInTurn.1
      exact (ruled thread call effect rfl calls standing entering other second different
        secondCalls secondInTurn).2
    have waiting := kept.waiting thread call calls entered
    obtain ⟨rest, program⟩ := standing
    rw [program] at waiting
    exact (waiting.1 entering _ whole _ (fair.refl _ _)).1

/-- A call without a turn performs only effects that need none. -/
theorem Turns.outside_of_waiting
    (leads : machine.Leads (turns.within condition) machine.initial config) {thread : Tid}
    {call : Call State Effect Reply Job Result} {effect : Effect}
    (calls : config.calls thread = some call) (waits : ¬ call.Entered turns)
    (standing : call.Next effect) (entersNot : turns.enters call.job effect = false) :
    outside effect = true := by
  have waiting := (Turns.kept fair leads).waiting thread call calls waits
  obtain ⟨rest, program⟩ := standing
  rw [program] at waiting
  exact (waiting.2 entersNot).1

/-- A call that had its turn and has returned meets its verdict. -/
theorem Turns.verdict_of_returned
    (leads : machine.Leads (turns.within condition) machine.initial config) {thread : Tid}
    {call : Call State Effect Reply Job Result} {value : Result}
    (calls : config.calls thread = some call) (entered : call.Entered turns)
    (returned : call.Returned value) : verdict call.job value :=
  (Turns.kept fair leads).returned thread call value calls entered returned

end Sound

/-! ## Runs in which one thread moves -/

section Quiet

variable {turns : Turns Job Effect} {thread : Tid}
  {config : Config Tid State Effect Reply Job Result}

/-- All threads but this one are idle. -/
def Config.Quiet (config : Config Tid State Effect Reply Job Result) (thread : Tid) : Prop :=
  ∀ other call, other ≠ thread → config.calls other = some call → ∃ value, call.Returned value

/-- An idle thread stands at no effect. -/
theorem Config.Quiet.not_next {other : Tid} {call : Call State Effect Reply Job Result}
    {effect : Effect} (quiet : config.Quiet thread) (different : other ≠ thread)
    (calls : config.calls other = some call) : ¬ call.Next effect := by
  intro standing
  obtain ⟨value, returned⟩ := quiet other call different calls
  obtain ⟨rest, program⟩ := standing
  unfold Call.Returned at returned
  rw [returned] at program
  cases program

theorem Config.Quiet.step [DecidableEq Tid]
    {machine : Machine Tid State Effect Reply Job Result External}
    {next : Config Tid State Effect Reply Job Result} {label : Label Tid Job External}
    (quiet : config.Quiet thread) (mine : label.isBy thread = true)
    (stepped : machine.step config label = some next) : next.Quiet thread := by
  intro other call different calls
  rw [Machine.step_calls_other stepped mine different] at calls
  exact quiet other call different calls

theorem Config.Quiet.steps [DecidableEq Tid]
    {machine : Machine Tid State Effect Reply Job Result External}
    {condition : Condition Tid State Effect Job}
    {next : Config Tid State Effect Reply Job Result} {labels : List (Label Tid Job External)}
    (quiet : config.Quiet thread) (mine : labels.all (Label.isBy thread) = true)
    (steps : machine.steps condition config labels = some next) : next.Quiet thread := by
  have kept : ∀ {config next : Config Tid State Effect Reply Job Result}
      {label : Label Tid Job External}, config.Quiet thread → label.isBy thread = true →
      condition.allows config label = true → machine.step config label = some next →
      True ∧ next.Quiet thread := by
    intro config next label quiet byThread _ stepped
    exact ⟨trivial, quiet.step byThread stepped⟩
  have leads : machine.Leads (fun _ _ => True) config config := .here
  exact (leads.of_steps kept quiet mine steps).2

/-- Once the thread has returned, all are idle. -/
theorem Config.Quiet.idle {call : Call State Effect Reply Job Result} {value : Result}
    (quiet : config.Quiet thread) (calls : config.calls thread = some call)
    (returned : call.Returned value) {other : Tid} {second : Call State Effect Reply Job Result}
    (secondCalls : config.calls other = some second) : ∃ value, second.Returned value := by
  by_cases same : other = thread
  · subst same
    rw [calls] at secondCalls
    cases secondCalls
    exact ⟨value, returned⟩
  · exact quiet other second same secondCalls

/-- A call that has returned is in no turn. -/
theorem Call.Returned.not_inTurn {call : Call State Effect Reply Job Result} {value : Result}
    (returned : call.Returned value) : ¬ call.InTurn turns := by
  intro inTurn
  obtain ⟨-, effect, rest, program⟩ := inTurn
  unfold Call.Returned at returned
  rw [returned] at program
  cases program

/-- No other thread is in its turn. -/
def Config.Unclaimed (turns : Turns Job Effect) (config : Config Tid State Effect Reply Job Result)
    (thread : Tid) : Prop :=
  ∀ other call, other ≠ thread → config.calls other = some call → ¬ call.InTurn turns

theorem Config.Quiet.unclaimed (quiet : config.Quiet thread) : config.Unclaimed turns thread := by
  intro other call different calls inTurn
  obtain ⟨value, returned⟩ := quiet other call different calls
  exact returned.not_inTurn inTurn

/-- The one thread that is not idle may be on its way to its turn. -/
theorem Config.Quiet.unclaimed_by {call : Call State Effect Reply Job Result}
    (quiet : config.Quiet thread) (calls : config.calls thread = some call)
    (waits : ¬ call.InTurn turns) (other : Tid) : config.Unclaimed turns other := by
  intro third second _ secondCalls
  by_cases same : third = thread
  · subst same
    cases calls.symm.trans secondCalls
    exact waits
  · exact quiet.unclaimed third second same secondCalls

theorem Config.Unclaimed.step [DecidableEq Tid]
    {machine : Machine Tid State Effect Reply Job Result External}
    {next : Config Tid State Effect Reply Job Result} {label : Label Tid Job External}
    (unclaimed : config.Unclaimed turns thread) (mine : label.isBy thread = true)
    (stepped : machine.step config label = some next) : next.Unclaimed turns thread := by
  intro other call different calls
  rw [Machine.step_calls_other stepped mine different] at calls
  exact unclaimed other call different calls

/-- While no other thread is in its turn, a thread may enter any turn. -/
theorem Turns.rule_of_unclaimed [DecidableEq Tid] {label : Label Tid Job External}
    (unclaimed : config.Unclaimed turns thread) (mine : label.isBy thread = true) :
    turns.rule config label := by
  intro actor call effect acts _ _ _ other second different secondCalls secondInTurn
  subst acts
  have same : actor = thread := of_decide_eq_true mine
  exact absurd secondInTurn (unclaimed other second (same ▸ different) secondCalls)

/-- A run in which only one thread moves, while no other is in its turn. -/
theorem Turns.leads_of_steps [DecidableEq Tid]
    {machine : Machine Tid State Effect Reply Job Result External}
    {condition : Condition Tid State Effect Job}
    {origin next : Config Tid State Effect Reply Job Result}
    {labels : List (Label Tid Job External)}
    (leads : machine.Leads (turns.within condition) origin config)
    (unclaimed : config.Unclaimed turns thread) (mine : labels.all (Label.isBy thread) = true)
    (steps : machine.steps condition config labels = some next) :
    machine.Leads (turns.within condition) origin next := by
  have kept : ∀ {config next : Config Tid State Effect Reply Job Result}
      {label : Label Tid Job External}, config.Unclaimed turns thread → label.isBy thread = true →
      condition.allows config label = true → machine.step config label = some next →
      turns.within condition config label ∧ next.Unclaimed turns thread := by
    intro config next label unclaimed byThread allowed stepped
    exact ⟨⟨allowed, Turns.rule_of_unclaimed unclaimed byThread⟩,
      unclaimed.step byThread stepped⟩
  exact (leads.of_steps kept unclaimed mine steps).1

/-- A run in which a thread returns from its calls, another one goes as far as it may without
its turn, and the first goes on. -/
theorem Turns.leads_of_overtaking [DecidableEq Tid]
    {machine : Machine Tid State Effect Reply Job Result External}
    {condition : Condition Tid State Effect Job}
    {rested waits next : Config Tid State Effect Reply Job Result}
    {early middle late : List (Label Tid Job External)} {other : Tid}
    {call waiting : Call State Effect Reply Job Result} {value : Result}
    (first : machine.steps condition machine.initial early = some rested)
    (calls : rested.calls thread = some call) (returned : call.Returned value)
    (second : machine.steps condition rested middle = some waits)
    (waitingCalls : waits.calls other = some waiting) (outside : ¬ waiting.InTurn turns)
    (third : machine.steps condition waits late = some next)
    (mine : early.all (Label.isBy thread) = true) (others : middle.all (Label.isBy other) = true)
    (again : late.all (Label.isBy thread) = true) :
    machine.Leads (turns.within condition) machine.initial next := by
  have quiet : machine.initial.Quiet thread := fun _ _ _ => nofun
  have passed : rested.Quiet other := fun _ _ _ otherCalls =>
    (quiet.steps mine first).idle calls returned otherCalls
  have unclaimed : waits.Unclaimed turns thread :=
    (passed.steps others second).unclaimed_by waitingCalls outside thread
  have leadsRested : machine.Leads (turns.within condition) machine.initial rested :=
    Turns.leads_of_steps .here quiet.unclaimed mine first
  have leadsWaits := Turns.leads_of_steps leadsRested passed.unclaimed others second
  exact Turns.leads_of_steps leadsWaits unclaimed again third

end Quiet

end LibSp.Concurrent
