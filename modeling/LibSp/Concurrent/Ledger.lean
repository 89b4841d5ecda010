import LibSp.Concurrent.Leads
import Mathlib.Data.List.Nodup

/-!
# Entries that calls make and settle

Some effects make an entry, as their reply shows. A call keeps the entry it has made
until it settles it by an effect that puts it on the books, and makes no other before.
Then the entries made in a run are those on the books and those that calls keep: none
is lost and none is counted twice, however the threads are interleaved.
-/

set_option autoImplicit false

namespace LibSp.Concurrent

variable {Tid State Effect Entry : Type} {Reply : Effect → Type} {Job Result External : Type}
  {α β : Type}

/-- `shows` says of a state which entries have been made, in their order. -/
structure Ledger (State Effect : Type) (Reply : Effect → Type) (Entry : Type) where
  shows : List Entry → State → Prop
  books : State → List Entry
  makes : (effect : Effect) → Reply effect → Option Entry
  settles : Effect → Bool
  due : Effect → Option Entry

/-! ## Programs -/

/-- The program begins with this entry in its keeping. It settles no other than the one it
keeps, makes none while it keeps one, and when it returns, `post` holds of what it keeps. -/
def Prog.Settles (ledger : Ledger State Effect Reply Entry) (post : α → Option Entry → Prop) :
    Prog Effect Reply α → Option Entry → Prop
  | .ret value, kept => post value kept
  | .act effect next, kept =>
      (ledger.settles effect = true → ledger.due effect = kept ∧
        ∀ reply, (next reply).Settles ledger post none) ∧
      (ledger.settles effect = false → ∀ reply,
        (∀ entry, ledger.makes effect reply = some entry →
          kept = none ∧ (next reply).Settles ledger post (some entry)) ∧
        (ledger.makes effect reply = none → (next reply).Settles ledger post kept))

section Programs

variable {ledger : Ledger State Effect Reply Entry} {post : α → Option Entry → Prop}
  {kept : Option Entry}

theorem Prog.Settles.bind {program : Prog Effect Reply α} {rest : α → Prog Effect Reply β}
    {final : β → Option Entry → Prop} (first : program.Settles ledger post kept)
    (second : ∀ value kept, post value kept → (rest value).Settles ledger final kept) :
    (program >>= rest).Settles ledger final kept := by
  induction program generalizing kept with
  | ret value => exact second value kept first
  | act effect next nextIH =>
      obtain ⟨settling, going⟩ := first
      refine ⟨fun settles => ?_, fun plain reply => ?_⟩
      · obtain ⟨due, continued⟩ := settling settles
        exact ⟨due, fun reply => nextIH reply (continued reply)⟩
      · obtain ⟨making, passing⟩ := going plain reply
        refine ⟨fun entry made => ?_, fun none => nextIH reply (passing none)⟩
        obtain ⟨free, continued⟩ := making entry made
        exact ⟨free, nextIH reply continued⟩

theorem Prog.Settles.ite {test : Prop} [Decidable test] {first second : Prog Effect Reply α}
    (positive : test → first.Settles ledger post kept)
    (negative : ¬ test → second.Settles ledger post kept) :
    (if test then first else second).Settles ledger post kept := by
  split
  · next holds => exact positive holds
  · next fails => exact negative fails

/-- The effect neither makes nor settles an entry. -/
def Ledger.Passes (ledger : Ledger State Effect Reply Entry) (effect : Effect) : Prop :=
  ledger.settles effect = false ∧ ∀ reply, ledger.makes effect reply = none

theorem Prog.Settles.pass {effect : Effect} {next : Reply effect → Prog Effect Reply α}
    (passes : ledger.Passes effect) (continued : ∀ reply, (next reply).Settles ledger post kept) :
    (Prog.act effect next).Settles ledger post kept := by
  refine ⟨fun settles => ?_, fun _ reply => ⟨fun entry made => ?_, fun _ => continued reply⟩⟩
  · rw [passes.1] at settles
    cases settles
  · rw [passes.2 reply] at made
    cases made

theorem Prog.Settles.of_only {program : Prog Effect Reply α}
    (only : program.Only ledger.Passes) (ends : ∀ value, post value kept) :
    program.Settles ledger post kept := by
  induction program with
  | ret value => exact ends value
  | act effect next nextIH => exact .pass only.1 fun reply => nextIH reply (only.2 reply)

end Programs

/-! ## What the threads keep -/

/-- What the thread keeps, one entry at most. -/
def Keeps (kept : List (Tid × Entry)) (thread : Tid) : Option Entry → Prop
  | some entry => (thread, entry) ∈ kept
  | none => thread ∉ kept.map Prod.fst

section Keeping

variable {kept : List (Tid × Entry)} {thread : Tid} {mine : Option Entry}

theorem Keeps.unique {other : Option Entry} (single : (kept.map Prod.fst).Nodup)
    (keeps : Keeps kept thread mine) (also : Keeps kept thread other) : mine = other := by
  cases mine with
  | none =>
      cases other with
      | none => rfl
      | some entry => exact absurd (List.mem_map_of_mem also) keeps
  | some entry =>
      cases other with
      | none => exact absurd (List.mem_map_of_mem keeps) also
      | some second =>
          have same : (thread, entry) = (thread, second) :=
            List.inj_on_of_nodup_map single keeps also rfl
          cases same
          rfl

/-- The thread gives away what it keeps. -/
theorem Keeps.given (single : (kept.map Prod.fst).Nodup) (keeps : Keeps kept thread mine) :
    ∃ rest : List (Tid × Entry), (kept.map Prod.snd).Perm (mine.toList ++ rest.map Prod.snd) ∧
      (rest.map Prod.fst).Nodup ∧ Keeps rest thread none ∧
      ∀ other theirs, other ≠ thread → Keeps kept other theirs → Keeps rest other theirs := by
  cases mine with
  | none => exact ⟨kept, .refl _, single, keeps, fun _ _ _ theirs => theirs⟩
  | some entry =>
      obtain ⟨before, after, rfl⟩ := List.append_of_mem keeps
      have spread : ((before ++ (thread, entry) :: after).map Prod.fst).Perm
          (thread :: (before ++ after).map Prod.fst) := List.perm_middle.map Prod.fst
      obtain ⟨away, singleRest⟩ := List.nodup_cons.mp (spread.nodup_iff.mp single)
      refine ⟨before ++ after, List.perm_middle.map Prod.snd, singleRest, away, ?_⟩
      intro other theirs different keepsOther
      cases theirs with
      | none =>
          intro member
          exact keepsOther (spread.mem_iff.mpr (List.mem_cons_of_mem _ member))
      | some second =>
          have inside : (other, second) ∈ before ++ (thread, entry) :: after := keepsOther
          have moved : (other, second) ∈ (thread, entry) :: (before ++ after) :=
            List.perm_middle.mem_iff.mp inside
          refine (List.mem_cons.mp moved).resolve_left fun same => ?_
          cases same
          exact different rfl

/-- The thread takes an entry into its keeping. -/
theorem Keeps.taken (entry : Entry) (single : (kept.map Prod.fst).Nodup)
    (keeps : Keeps kept thread none) :
    (((thread, entry) :: kept).map Prod.fst).Nodup ∧
      Keeps ((thread, entry) :: kept) thread (some entry) ∧
      ∀ other theirs, other ≠ thread → Keeps kept other theirs →
        Keeps ((thread, entry) :: kept) other theirs := by
  refine ⟨List.nodup_cons.mpr ⟨keeps, single⟩, List.mem_cons_self, ?_⟩
  intro other theirs different keepsOther
  cases theirs with
  | none =>
      intro member
      rcases List.mem_cons.mp member with same | inside
      · exact different same
      · exact keepsOther inside
  | some second => exact List.mem_cons_of_mem _ keepsOther

end Keeping

/-! ## Runs -/

variable [DecidableEq Tid]

/-- The machine does what the ledger says, and its jobs settle what they make. -/
structure Ledger.Lawful (ledger : Ledger State Effect Reply Entry)
    (machine : Machine Tid State Effect Reply Job Result External) : Prop where
  start : ledger.shows [] machine.start ∧ ledger.books machine.start = []
  body : ∀ {thread last job state}, machine.admits thread last state job = true →
    (machine.body job).Settles ledger (fun _ kept => kept = none) none
  settled : ∀ {thread effect state reply after made}, ledger.settles effect = true →
    machine.exec thread effect state = some (reply, after) → ledger.shows made state →
    ledger.shows made after ∧
      ledger.books after = ledger.books state ++ (ledger.due effect).toList
  made : ∀ {thread effect state reply after made}, ledger.settles effect = false →
    machine.exec thread effect state = some (reply, after) → ledger.shows made state →
    ledger.shows (made ++ (ledger.makes effect reply).toList) after ∧
      ledger.books after = ledger.books state
  external : ∀ {event state after made}, machine.external event state = some after →
    ledger.shows made state → ledger.shows made after ∧ ledger.books after = ledger.books state

/-- The effect may be answered so. -/
def Machine.Answers (machine : Machine Tid State Effect Reply Job Result External)
    (effect : Effect) (reply : Reply effect) : Prop :=
  ∃ thread state after, machine.exec thread effect state = some (reply, after)

/-- The call keeps this and will settle it: an entry that the answer to one of its effects
has made, or nothing. -/
def Ledger.Owes (ledger : Ledger State Effect Reply Entry)
    (machine : Machine Tid State Effect Reply Job Result External)
    (call : Call State Effect Reply Job Result) (mine : Option Entry) : Prop :=
  call.prog.Settles ledger (fun _ kept => kept = none) mine ∧ ∀ entry, mine = some entry →
    ∃ effect reply, effect ∈ call.past ∧ machine.Answers effect reply ∧
      ledger.makes effect reply = some entry

/-- What has been made is on the books or kept by calls that will settle it. -/
structure Ledger.Balances (ledger : Ledger State Effect Reply Entry)
    (machine : Machine Tid State Effect Reply Job Result External) (made : List Entry)
    (kept : List (Tid × Entry)) (config : Config Tid State Effect Reply Job Result) : Prop where
  shows : ledger.shows made config.state
  perm : made.Perm (ledger.books config.state ++ kept.map Prod.snd)
  single : (kept.map Prod.fst).Nodup
  calls : ∀ thread, ∃ mine, Keeps kept thread mine ∧
    (config.calls thread = none → mine = none) ∧
    ∀ call, config.calls thread = some call → ledger.Owes machine call mine

namespace Ledger

section Runs

variable {ledger : Ledger State Effect Reply Entry}
  {machine : Machine Tid State Effect Reply Job Result External} {made : List Entry}
  {kept : List (Tid × Entry)} {config next : Config Tid State Effect Reply Job Result}
  {thread : Tid} {entry : Entry}

omit [DecidableEq Tid] in
/-- Who keeps an entry is in a call. -/
theorem Balances.call_of_kept (balances : ledger.Balances machine made kept config)
    (member : (thread, entry) ∈ kept) :
    ∃ call, config.calls thread = some call ∧ ledger.Owes machine call (some entry) := by
  obtain ⟨mine, keeps, uncalled, owes⟩ := balances.calls thread
  have same : mine = some entry := keeps.unique balances.single member
  subst same
  cases calls : config.calls thread with
  | none => cases uncalled calls
  | some call => exact ⟨call, rfl, owes call calls⟩

omit [DecidableEq Tid] in
theorem Balances.free_of_idle (balances : ledger.Balances machine made kept config)
    {last : Option Result} (idle : config.idle? thread = some last) : Keeps kept thread none := by
  obtain ⟨mine, keeps, uncalled, owes⟩ := balances.calls thread
  have free : mine = none := by
    rcases Config.idle?_cases idle with ⟨none, -⟩ | ⟨call, value, calls, returned, -⟩
    · exact uncalled none
    · obtain ⟨ended, -⟩ := owes call calls
      rw [returned] at ended
      exact ended
  rw [free] at keeps
  exact keeps

omit [DecidableEq Tid] in
theorem balances_start (lawful : ledger.Lawful machine) :
    ledger.Balances machine [] [] machine.initial where
  shows := lawful.start.1
  perm := by
    have books : ledger.books machine.initial.state = [] := lawful.start.2
    rw [books]
    exact .refl _
  single := List.nodup_nil
  calls thread := ⟨none, List.not_mem_nil, fun _ => rfl, fun call calls => by cases calls⟩

/-- One thread stands in a call and keeps what the call will settle, the others are as
they were. -/
theorem Balances.put (balances : ledger.Balances machine made kept config)
    {call : Call State Effect Reply Job Result} {state : State} {more : List Entry}
    {now : List (Tid × Entry)} {mine : Option Entry} (shows : ledger.shows (made ++ more) state)
    (perm : (made ++ more).Perm (ledger.books state ++ now.map Prod.snd))
    (single : (now.map Prod.fst).Nodup) (keeps : Keeps now thread mine)
    (owes : ledger.Owes machine call mine)
    (others : ∀ other theirs, other ≠ thread → Keeps kept other theirs → Keeps now other theirs) :
    ledger.Balances machine (made ++ more) now (config.put thread call state) where
  shows := shows
  perm := perm
  single := single
  calls other := by
    by_cases same : other = thread
    · subst same
      refine ⟨mine, keeps, fun none => ?_, fun current calls => ?_⟩
      · rw [Config.put_calls_self] at none
        cases none
      · rw [Config.put_calls_self] at calls
        cases calls
        exact owes
    · rw [Config.put_calls_other _ _ _ _ same]
      obtain ⟨theirs, keepsOther, rest⟩ := balances.calls other
      exact ⟨theirs, others other theirs same keepsOther, rest⟩

theorem Balances.act (lawful : ledger.Lawful machine) (balances : ledger.Balances machine made kept config)
    {job : Job} {entered state : State} {past : List Effect} {effect : Effect}
    {rest : Reply effect → Prog Effect Reply Result} {reply : Reply effect}
    (calls : config.calls thread = some ⟨job, entered, past, .act effect rest⟩)
    (executed : machine.exec thread effect config.state = some (reply, state)) :
    ∃ more now, ledger.Balances machine (made ++ more) now
      (config.put thread ⟨job, entered, effect :: past, rest reply⟩ state) := by
  obtain ⟨mine, keeps, -, owes⟩ := balances.calls thread
  obtain ⟨⟨settling, going⟩, maker⟩ := owes _ calls
  cases settles : ledger.settles effect with
  | true =>
      obtain ⟨due, continued⟩ := settling settles
      obtain ⟨shows, books⟩ := lawful.settled settles executed balances.shows
      obtain ⟨now, given, single, keepsNow, others⟩ := keeps.given balances.single
      have owesNothing : ledger.Owes machine ⟨job, entered, effect :: past, rest reply⟩ none :=
        ⟨continued reply, fun entry some => by cases some⟩
      refine ⟨[], now, balances.put ?_ ?_ single keepsNow owesNothing others⟩
      · rw [List.append_nil]
        exact shows
      · rw [List.append_nil, books, due, List.append_assoc]
        exact balances.perm.trans (given.append_left _)
  | false =>
      obtain ⟨shows, books⟩ := lawful.made settles executed balances.shows
      obtain ⟨making, passing⟩ := going settles reply
      cases makes : ledger.makes effect reply with
      | none =>
          rw [makes] at shows
          have owesOn : ledger.Owes machine ⟨job, entered, effect :: past, rest reply⟩ mine := by
            refine ⟨passing makes, fun entry some => ?_⟩
            obtain ⟨earlier, answer, member, made⟩ := maker entry some
            exact ⟨earlier, answer, List.mem_cons_of_mem _ member, made⟩
          refine ⟨[], kept, balances.put shows ?_ balances.single keeps owesOn
            fun _ _ _ theirs => theirs⟩
          rw [List.append_nil, books]
          exact balances.perm
      | some entry =>
          rw [makes] at shows
          obtain ⟨free, continued⟩ := making entry makes
          subst free
          obtain ⟨single, keepsNow, others⟩ := keeps.taken entry balances.single
          have owesEntry : ledger.Owes machine ⟨job, entered, effect :: past, rest reply⟩ (some entry) := by
            refine ⟨continued, fun other same => ?_⟩
            cases same
            exact ⟨effect, reply, List.mem_cons_self, ⟨thread, _, _, executed⟩, makes⟩
          refine ⟨[entry], (thread, entry) :: kept,
            balances.put shows ?_ single keepsNow owesEntry others⟩
          rw [books, List.map_cons]
          exact (balances.perm.append_right [entry]).trans
            ((List.append_assoc _ _ _) ▸ (List.perm_append_singleton entry _).append_left _)

/-- One step keeps the balance. -/
theorem Balances.step (lawful : ledger.Lawful machine) (balances : ledger.Balances machine made kept config)
    {label : Label Tid Job External} (stepped : machine.step config label = some next) :
    ∃ more now, ledger.Balances machine (made ++ more) now next := by
  rcases Machine.step_cases stepped with
    ⟨thread, job, last, -, idle, admitted, rfl⟩ |
    ⟨thread, job, entered, past, effect, rest, reply, state, -, calls, executed, rfl⟩ |
    ⟨event, state, -, changed, rfl⟩
  · have owesNothing : ledger.Owes machine ⟨job, config.state, [], machine.body job⟩ none :=
      ⟨lawful.body admitted, fun entry some => by cases some⟩
    refine ⟨[], kept, balances.put ?_ ?_ balances.single (balances.free_of_idle idle) owesNothing
      fun _ _ _ theirs => theirs⟩
    · rw [List.append_nil]
      exact balances.shows
    · rw [List.append_nil]
      exact balances.perm
  · exact balances.act lawful calls executed
  · obtain ⟨shows, books⟩ := lawful.external changed balances.shows
    refine ⟨[], kept, ?_, ?_, balances.single, balances.calls⟩
    · rw [List.append_nil]
      exact shows
    · rw [List.append_nil, books]
      exact balances.perm

/-- A run goes on with what has been made before it. -/
theorem Balances.leads (lawful : ledger.Lawful machine)
    {rule : Rule Tid State Effect Reply Job Result External}
    (balances : ledger.Balances machine made kept config) (leads : machine.Leads rule config next) :
    ∃ more now, ledger.Balances machine (made ++ more) now next := by
  induction leads with
  | here =>
      refine ⟨[], kept, ?_⟩
      rw [List.append_nil]
      exact balances
  | step _ _ stepped leadsIH =>
      obtain ⟨early, _, balancesNow⟩ := leadsIH
      obtain ⟨late, now, balancesNext⟩ := balancesNow.step lawful stepped
      refine ⟨early ++ late, now, ?_⟩
      rw [← List.append_assoc]
      exact balancesNext

theorem balances_of_reachable (lawful : ledger.Lawful machine)
    {condition : Condition Tid State Effect Job} (reachable : machine.Reachable condition config) :
    ∃ made kept, ledger.Balances machine made kept config := by
  induction reachable with
  | start => exact ⟨[], [], balances_start lawful⟩
  | step _ _ stepped reachableIH =>
      obtain ⟨made, kept, balances⟩ := reachableIH
      obtain ⟨more, now, balancesNow⟩ := balances.step lawful stepped
      exact ⟨made ++ more, now, balancesNow⟩

end Runs

end Ledger

end LibSp.Concurrent
