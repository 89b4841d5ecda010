import LibSp.Linux.Worker

/-!
# Runs with one client

The operations of the client and the iterations of the receive threads fulfil
the rules together, so the rules hold in every run with one client.
-/

set_option autoImplicit false

namespace LibSp.Linux

open Concurrent

/-- What a condition on runs provides: one client, `exact` answers of `FIONREAD`,
and operations that are careful in the `strict` sense. -/
structure Assumes (condition : Condition Tid State Effect Job) (exact strict : Prop) : Prop where
  single : ∀ {thread job s}, condition.begins thread job s = true →
    oneClient.begins thread job s = true
  exactly : ∀ {thread hasReadBytes outcome s},
    condition.begins thread (.iteration hasReadBytes outcome) s = true → exact →
    outcome.fionread = true
  careful : ∀ {thread operation s}, Inv exact strict s →
    condition.begins thread (.operation operation) s = true → Careful strict s.port operation

section

variable {libc : SpeedSetters} {condition : Condition Tid State Effect Job} {exact strict : Prop}

theorem idle_start : Idle Port.start where
  closed _ := ⟨rfl, rfl, quiet_start⟩
  opened isOpened := by cases isOpened

theorem ready_stable (thread : Tid) (last : Option Result) {s after : State}
    (ready : (rules exact strict).ready thread last s)
    (relied : (rules exact strict).rely thread s after) :
    (rules exact strict).ready thread last after := by
  match thread with
  | .client 0 =>
      have idle : Idle s.port := ready
      have same : after.port = s.port := relied
      rw [← same] at idle
      exact idle
  | .client (_ + 1) => trivial
  | .worker number =>
      refine ⟨fun alive => ?_, ready.2⟩
      by_cases before : number ∈ s.receivers
      · exact (Waiting.stable ⟨before, ready.1 before⟩ relied).passed_on
      · exact WorkerRely.fresh relied before alive

theorem pending_unseen {s : State} (inv : Inv exact strict s) (arrived : List UInt8) :
    Inv exact strict { s with pending := s.queued arrived } ∧
      ∀ thread, Rely thread s { s with pending := s.queued arrived } := by
  refine ⟨{ inv with }, fun thread => ?_⟩
  match thread with
  | .client 0 => exact rfl
  | .client (_ + 1) => trivial
  | .worker number =>
      exact { WorkerRely.refl (s := s) with queue := fun _ => s.pending_prefix arrived }

theorem worker_call {number : Nat} {last : Option Result} {job : Job} {s : State}
    (assumes : Assumes condition exact strict) (inv : Inv exact strict s)
    (ready : (number ∈ s.receivers → PassedOn s) ∧ Carries last)
    (admitted : admits (.worker number) last s job = true)
    (begins : condition.begins (.worker number) job s = true) :
    Safe (system libc) condition (rules exact strict) (.worker number) job (runJob libc job)
      ((rules exact strict).post (.worker number) job s) s := by
  cases job with
  | operation operation =>
      rcases last with _ | (value | (_ | _)) <;> cases admitted
  | iteration hasReadBytes outcome =>
      have found : number ∈ s.receivers ∧ 0 ≤ hasReadBytes := by
        rcases last with _ | (value | (carried | _))
        · simp only [admits, Bool.and_eq_true, List.contains_iff_mem, beq_iff_eq] at admitted
          exact ⟨admitted.1, admitted.2 ▸ Int.le_refl 0⟩
        · cases admitted
        · simp only [admits, Bool.and_eq_true, List.contains_iff_mem, beq_iff_eq] at admitted
          exact ⟨admitted.1, admitted.2 ▸ ready.2 carried rfl⟩
        · cases admitted
      exact iteration_safe inv ⟨found.1, ready.1 found.1⟩ found.2 (assumes.exactly begins)

theorem client_call {thread : Nat} {last : Option Result} {job : Job} {s : State}
    (assumes : Assumes condition exact strict) (inv : Inv exact strict s)
    (ready : (rules exact strict).ready (.client thread) last s)
    (admitted : admits (.client thread) last s job = true)
    (begins : condition.begins (.client thread) job s = true) :
    Safe (system libc) condition (rules exact strict) (.client thread) job (runJob libc job)
      ((rules exact strict).post (.client thread) job s) s := by
  have first : thread = 0 := by simpa [oneClient] using assumes.single begins
  subst first
  cases job with
  | iteration hasReadBytes outcome => cases admitted
  | operation operation => exact operation_safe inv ready (assumes.careful inv begins)

theorem linux_contract (libc : SpeedSetters) (assumes : Assumes condition exact strict) :
    Contract (system libc) condition (rules exact strict) where
  rely_refl := rely_refl
  rely_trans thread := rely_trans thread
  inv_start := inv_start exact strict
  ready_start thread := by
    match thread with
    | .client 0 => exact idle_start
    | .client (_ + 1) => trivial
    | .worker number => exact ⟨fun _ => rfl, fun _ same => by cases same⟩
  ready_stable thread last _ _ ready relied _ := ready_stable thread last ready relied
  external event s after inv changed := by
    cases changed
    exact pending_unseen inv event
  post_ready thread job entry value s inv post := by
    match thread with
    | .client 0 =>
        cases job with
        | operation operation =>
            cases value with
            | value value => exact post.2.2.1
            | iteration iteration => cases post
        | iteration hasReadBytes outcome => cases post
    | .client (_ + 1) => trivial
    | .worker number =>
        cases job with
        | operation operation => cases post
        | iteration hasReadBytes outcome =>
            cases value with
            | value value => cases post
            | iteration iteration => exact post
  call thread last job s inv ready admitted begins := by
    cases thread with
    | client thread => exact client_call assumes inv ready admitted begins
    | worker number => exact worker_call assumes inv ready admitted begins

end

/-- Only runs without a bad join ask for care. -/
theorem careful_of_lax {port : Port} {operation : Operation} : Careful False port operation := by
  cases operation with
  | «open» outcome => exact nofun
  | close | destroy => exact nofun
  | _ => trivial

theorem oneClient_assumes : Assumes oneClient False False where
  single begins := begins
  exactly _ := nofun
  careful _ _ := careful_of_lax

/-- A further condition takes away nothing. -/
theorem Assumes.both {condition : Condition Tid State Effect Job} {exact strict : Prop}
    (assumes : Assumes condition exact strict) (further : Condition Tid State Effect Job) :
    Assumes (condition.both further) exact strict where
  single begins := assumes.single (Condition.both_begins.mp begins).1
  exactly begins := assumes.exactly (Condition.both_begins.mp begins).1
  careful inv begins := assumes.careful inv (Condition.both_begins.mp begins).1

end LibSp.Linux
