import LibSp.Linux.Receive
import LibSp.Linux.MutexRecv

/-!
# Any number of clients

What holds of a Linux port whatever its clients do at the same time. The stream
belongs to the owner of `_mutex_recv`: the receive thread that holds the mutex may
have read a chunk and not passed it on yet, and nobody else has.
-/

set_option autoImplicit false

namespace LibSp.Linux

open Concurrent

/-! ## The rules -/

/-- What holds at every moment of a run with any number of clients. -/
structure CrowdInv (s : State) : Prop where
  registered : 0 < s.port.created → s.port.param.precvData.isSome = true
  receivers_created : ∀ number ∈ s.receivers, number < s.port.created
  receivers_nodup : s.receivers.Nodup
  chunks : ∀ delivery ∈ s.delivered, Fits False delivery
  passed_on : (∀ number, s.mutexRecv ≠ some (.worker number)) → PassedOn s

/-- The receive thread has been created and has ended. -/
def Ended (number : Nat) (s : State) : Prop := number < s.port.created ∧ number ∉ s.receivers

/-- What a thread relies on: the others neither take the mutex from it nor give it to
it, leave the stream alone while it holds it, and neither end nor revive it. -/
structure CrowdRely (thread : Tid) (s after : State) : Prop where
  owner : after.mutexRecv = some thread ↔ s.mutexRecv = some thread
  stream : s.mutexRecv = some thread → after.consumed = s.consumed ∧ after.delivered = s.delivered
  registered : s.port.param.precvData.isSome = true → after.port.param.precvData.isSome = true
  alive : ∀ number, thread = .worker number → number ∈ s.receivers → number ∈ after.receivers
  ended : ∀ number, Ended number s → Ended number after

/-- The effects with what the invariant needs of them. -/
def CrowdPermitted (thread : Tid) (s : State) : Effect → Prop
  | .store .precvData precvData => precvData.isSome = true
  | .pthreadCreate _ => s.port.param.precvData.isSome = true
  | .unlock => s.mutexRecv = some thread ∧ PassedOn s
  | .read _ _ _ => s.mutexRecv = some thread ∧ ∃ number, thread = .worker number
  | .onRecvData receiver chunk notify =>
      s.mutexRecv = some thread ∧ Holding s chunk ∧ Fits False ⟨receiver, chunk, notify⟩
  | _ => True

/-- Where a receive thread stands: it is alive, and if it holds the mutex it has passed
on what it took, but for the chunk between a read and its callback. -/
structure CrowdStands (number : Nat) (effect : Effect) (s : State) : Prop where
  alive : number ∈ s.receivers
  stream : s.mutexRecv = some (.worker number) → PassedOn s ∨
    ∃ chunk, Holding s chunk ∧ 1 ≤ chunk.length ∧ chunk.length ≤ lenBuf1024 ∧
      (effect = .load .precvData ∨ ∃ receiver notify, effect = .onRecvData receiver chunk notify)

/-- A receive thread between two iterations, or after its end. -/
structure CrowdIdle (number : Nat) (last : Option Result) (s : State) : Prop where
  free : s.mutexRecv ≠ some (.worker number)
  carries : Carries last
  ended : last = some (.iteration .exited) → Ended number s

def crowdRules : Rules Tid State Effect Job Result where
  inv := CrowdInv
  rely := CrowdRely
  point thread _ effect s := CrowdPermitted thread s effect ∧
    ∀ number, thread = .worker number → CrowdStands number effect s
  post thread _ _ result s := ∀ number, thread = .worker number → CrowdIdle number (some result) s
  ready thread last s := ∀ number, thread = .worker number → CrowdIdle number last s

namespace CrowdRely

variable {thread : Tid} {first second third s : State}

theorem refl : CrowdRely thread s s where
  owner := Iff.rfl
  stream _ := ⟨rfl, rfl⟩
  registered some := some
  alive _ _ alive := alive
  ended _ ended := ended

theorem trans (early : CrowdRely thread first second) (late : CrowdRely thread second third) :
    CrowdRely thread first third where
  owner := late.owner.trans early.owner
  stream owns := by
    obtain ⟨consumed, delivered⟩ := early.stream owns
    obtain ⟨consumedLate, deliveredLate⟩ := late.stream (early.owner.mpr owns)
    exact ⟨consumedLate.trans consumed, deliveredLate.trans delivered⟩
  registered some := late.registered (early.registered some)
  alive number same alive := late.alive number same (early.alive number same alive)
  ended number ended := late.ended number (early.ended number ended)

end CrowdRely

theorem CrowdIdle.stable {number : Nat} {last : Option Result} {s after : State}
    (idle : CrowdIdle number last s) (relied : CrowdRely (.worker number) s after) :
    CrowdIdle number last after where
  free := mt relied.owner.mp idle.free
  carries := idle.carries
  ended exited := relied.ended number (idle.ended exited)

theorem crowdInv_start : CrowdInv State.start where
  registered none := absurd none (Nat.lt_irrefl 0)
  receivers_created := by simp [State.start]
  receivers_nodup := List.nodup_nil
  chunks := by simp [State.start]
  passed_on _ := rfl

/-! ## One effect of any thread -/

/-- The invariant holds again, and the other threads find what they rely on. -/
def CrowdKept (thread : Tid) (s after : State) : Prop :=
  CrowdInv after ∧ ∀ other, other ≠ thread → CrowdRely other s after

section Keeps

variable {thread : Tid} {s after : State}

private theorem crowd_of_unseen {port : Port} {pending : List UInt8} (inv : CrowdInv s)
    (precvData : port.param.precvData = s.port.param.precvData)
    (created : port.created = s.port.created) :
    CrowdKept thread s { s with port := port, pending := pending } := by
  refine ⟨{ inv with registered := ?_, receivers_created := ?_ },
    fun _ _ => { CrowdRely.refl (s := s) with registered := ?_, ended := ?_ }⟩
  · intro some
    rw [created] at some
    rw [precvData]
    exact inv.registered some
  · intro number alive
    rw [created]
    exact inv.receivers_created number alive
  · intro some
    rw [precvData]
    exact some
  · intro number ended
    exact ⟨created ▸ ended.1, ended.2⟩

private theorem crowd_store {field : Field} {value : field.Val} (inv : CrowdInv s)
    (permitted : CrowdPermitted thread s (.store field value)) :
    CrowdKept thread s { s with port := { s.port with param := s.port.param.set field value } } := by
  cases field with
  | precvData =>
      have some : value.isSome = true := permitted
      exact ⟨{ inv with registered := fun _ => some },
        fun _ _ => { CrowdRely.refl (s := s) with registered := fun _ => some }⟩
  | _ => exact crowd_of_unseen inv rfl rfl

private theorem crowd_setErrno (inv : CrowdInv s) (value : Int) :
    CrowdKept thread s { s with port := s.port.setErrno thread value } := by
  cases thread <;> exact crowd_of_unseen inv rfl rfl

private theorem crowd_answer (inv : CrowdInv s) (outcome : Except Errno Unit)
    (handed : Option Termios) :
    CrowdKept thread s
      { s with port := { (answer thread s.port outcome).2 with handed := handed } } := by
  cases outcome with
  | ok done => exact crowd_of_unseen inv rfl rfl
  | error error => cases thread <;> exact crowd_of_unseen inv rfl rfl

private theorem crowd_lock (inv : CrowdInv s) (executed : exec thread .lock s = some ((), after)) :
    CrowdKept thread s after := by
  simp only [exec] at executed
  split at executed
  · next free =>
      cases executed
      have whole : PassedOn s := inv.passed_on fun number => by simp [free]
      refine ⟨{ inv with passed_on := fun _ => whole },
        fun other different => { CrowdRely.refl (s := s) with owner := ?_ }⟩
      simp [free, Ne.symm different]
  · cases executed

private theorem crowd_unlock (inv : CrowdInv s) (permitted : CrowdPermitted thread s .unlock) :
    CrowdKept thread s { s with mutexRecv := none } := by
  obtain ⟨owns, whole⟩ := permitted
  refine ⟨{ inv with passed_on := fun _ => whole },
    fun other different => { CrowdRely.refl (s := s) with owner := ?_ }⟩
  simp [owns, Ne.symm different]

private theorem crowd_pthreadCreate {outcome : CreateOutcome} {reply : Int} (inv : CrowdInv s)
    (permitted : CrowdPermitted thread s (.pthreadCreate outcome))
    (executed : exec thread (.pthreadCreate outcome) s = some (reply, after)) :
    CrowdKept thread s after := by
  cases outcome with
  | failed error leftover =>
      cases executed
      exact crowd_of_unseen inv rfl rfl
  | created =>
      cases executed
      have fresh : s.port.created ∉ s.receivers :=
        fun alive => Nat.lt_irrefl _ (inv.receivers_created _ alive)
      refine ⟨{ inv with
        registered := fun _ => permitted, receivers_created := ?_, receivers_nodup := ?_ },
        fun _ _ => { CrowdRely.refl (s := s) with alive := ?_, ended := ?_ }⟩
      · intro number alive
        rcases List.mem_append.mp alive with before | last
        · exact Nat.lt_succ_of_lt (inv.receivers_created number before)
        · rw [List.mem_singleton.mp last]
          exact Nat.lt_succ_self _
      · rw [List.nodup_append]
        refine ⟨inv.receivers_nodup, by simp, fun number alive last member => ?_⟩
        rw [List.mem_singleton.mp member]
        intro same
        subst same
        exact fresh alive
      · exact fun number _ alive => List.mem_append_left _ alive
      · intro number ended
        obtain ⟨before, dead⟩ := ended
        refine ⟨Nat.lt_succ_of_lt before, fun alive => ?_⟩
        rcases List.mem_append.mp alive with running | last
        · exact dead running
        · rw [List.mem_singleton.mp last] at before
          exact Nat.lt_irrefl _ before

private theorem crowd_read {fd : Int} {count : Nat} {succeeds : Bool}
    {reply : Option (List UInt8)} (inv : CrowdInv s)
    (permitted : CrowdPermitted thread s (.read fd count succeeds))
    (executed : exec thread (.read fd count succeeds) s = some (reply, after)) :
    CrowdKept thread s after := by
  obtain ⟨owns, number, same⟩ := permitted
  simp only [exec] at executed
  split at executed
  · split at executed <;> cases executed
    refine ⟨{ inv with passed_on := fun nobody => ?_ },
      fun other different => { CrowdRely.refl (s := s) with stream := fun held => ?_ }⟩
    · subst same
      exact absurd owns (nobody number)
    · rw [owns, Option.some.injEq] at held
      exact absurd held.symm different
  · cases executed
    exact ⟨inv, fun _ _ => .refl⟩

private theorem crowd_onRecvData {receiver : IrecvData} {chunk : List UInt8} {notify : Nat}
    (inv : CrowdInv s) (permitted : CrowdPermitted thread s (.onRecvData receiver chunk notify)) :
    CrowdKept thread s { s with delivered := s.delivered ++ [⟨receiver, chunk, notify⟩] } := by
  obtain ⟨owns, holding, fits⟩ := permitted
  refine ⟨{ inv with chunks := fun delivery member => ?_, passed_on := fun _ => ?_ },
    fun other different => { CrowdRely.refl (s := s) with stream := fun held => ?_ }⟩
  · rcases List.mem_append.mp member with before | last
    · exact inv.chunks delivery before
    · rw [List.mem_singleton.mp last]
      exact fits
  · rw [PassedOn, deliveredBytes_append]
    exact holding
  · rw [owns, Option.some.injEq] at held
    exact absurd held.symm different

private theorem crowd_pthreadExit (inv : CrowdInv s)
    (executed : exec thread .pthreadExit s = some ((), after)) : CrowdKept thread s after := by
  cases thread with
  | client number => cases executed
  | worker ended =>
      cases executed
      refine ⟨{ inv with
        receivers_created := fun number alive =>
          inv.receivers_created number (List.mem_of_mem_erase alive)
        receivers_nodup := inv.receivers_nodup.erase ended },
        fun other different => { CrowdRely.refl (s := s) with alive := ?_, ended := ?_ }⟩
      · intro number same alive
        have apart : number ≠ ended := by
          intro equal
          subst equal
          exact different same
        exact (List.mem_erase_of_ne apart).mpr alive
      · intro number dead
        exact ⟨dead.1, fun alive => dead.2 (List.mem_of_mem_erase alive)⟩

/-- What every effect keeps, whichever thread performs it. -/
theorem crowd_keeps {effect : Effect} {reply : effect.Reply} (inv : CrowdInv s)
    (permitted : CrowdPermitted thread s effect)
    (executed : exec thread effect s = some (reply, after)) : CrowdKept thread s after := by
  cases effect with
  | store field value =>
      cases executed
      exact crowd_store inv permitted
  | lock => exact crowd_lock inv executed
  | unlock =>
      cases executed
      exact crowd_unlock inv permitted
  | «open» name outcome =>
      simp only [exec] at executed
      split at executed
      · cases executed
        exact crowd_setErrno inv _
      · split at executed <;> cases executed
        exact crowd_of_unseen inv rfl rfl
  | fcntl fd outcome =>
      cases executed
      exact crowd_answer inv outcome _
  | tcgetattr fd outcome =>
      cases outcome <;> cases executed
      · exact crowd_setErrno inv _
      · exact ⟨inv, fun _ _ => .refl⟩
  | tcsetattr fd options outcome =>
      cases executed
      exact crowd_answer inv outcome _
  | write fd data outcome =>
      simp only [exec] at executed
      split at executed
      · cases outcome <;> cases executed
        · exact crowd_setErrno inv _
        · exact crowd_of_unseen inv rfl rfl
      · cases executed
        exact crowd_setErrno inv _
  | pthreadCreate outcome => exact crowd_pthreadCreate inv permitted executed
  | pthreadJoin identifier =>
      simp only [exec] at executed
      split at executed
      · split at executed <;> cases executed
        exact crowd_of_unseen inv rfl rfl
      · cases executed
        exact crowd_of_unseen inv rfl rfl
  | pthreadExit => exact crowd_pthreadExit inv executed
  | ioctl fd succeeds =>
      simp only [exec] at executed
      split at executed <;> cases executed <;> exact ⟨inv, fun _ _ => .refl⟩
  | read fd count succeeds => exact crowd_read inv permitted executed
  | onRecvData receiver chunk notify =>
      cases executed
      exact crowd_onRecvData inv permitted
  | tcflush | close | returned =>
      cases executed
      exact crowd_of_unseen inv rfl rfl
  | load | isOpened | errno =>
      cases executed
      exact ⟨inv, fun _ _ => .refl⟩

end Keeps

/-! ## The operations of a client -/

section Clients

variable {libc : SpeedSetters} {condition : Condition Tid State Effect Job} {job : Job}
  {thread : Tid} {number : Nat} {α : Type} {post : α → State → Prop} {s : State}

abbrev CrowdSafe (libc : SpeedSetters) (condition : Condition Tid State Effect Job) (thread : Tid)
    (job : Job) (program : Code α) (post : α → State → Prop) (s : State) : Prop :=
  Safe (system libc) condition crowdRules thread job program post s

/-- One effect, from what the thread knows in a form that no other thread can invalidate. -/
theorem crowd_act {effect : Effect} {next : effect.Reply → Code α} {known : State → Prop}
    (stable : ∀ {s after}, known s → CrowdRely thread s after → known after) (knows : known s)
    (continued : ∀ now, known now → CrowdInv now → CrowdPermitted thread now effect ∧
      (∀ number, thread = .worker number → CrowdStands number effect now) ∧
      ∀ reply after, exec thread effect now = some (reply, after) → CrowdInv after →
        CrowdSafe libc condition thread job (next reply) post after) :
    CrowdSafe libc condition thread job (.act effect next) post s := by
  intro now relied inv
  obtain ⟨permitted, stands, executes⟩ := continued now (stable knows relied) inv
  refine ⟨⟨permitted, stands⟩, fun reply after _ executed => ?_⟩
  obtain ⟨invAfter, others⟩ := crowd_keeps inv permitted executed
  exact ⟨invAfter, others, executes reply after executed invAfter⟩

private theorem of_client {holds : Nat → Prop} (worker : Nat)
    (same : Tid.client number = .worker worker) : holds worker := by
  cases same

/-- The effects that ask nothing of a client. -/
def Effect.harmless : Effect → Bool
  | .store .precvData precvData => precvData.isSome
  | .unlock | .pthreadCreate _ | .read .. | .onRecvData .. => false
  | _ => true

theorem permitted_of_harmless {effect : Effect} (harmless : effect.harmless = true) :
    CrowdPermitted thread s effect := by
  cases effect with
  | store field value => cases field <;> first | exact harmless | trivial
  | unlock | pthreadCreate | read | onRecvData => cases harmless
  | _ => trivial

theorem crowd_client {effect : Effect} {next : effect.Reply → Code α}
    (harmless : effect.harmless = true)
    (continued : ∀ s reply after, exec (.client number) effect s = some (reply, after) →
      CrowdInv after → CrowdSafe libc condition (.client number) job (next reply) post after) :
    CrowdSafe libc condition (.client number) job (.act effect next) post s := by
  intro now _ inv
  have permitted : CrowdPermitted (.client number) now effect := permitted_of_harmless harmless
  refine ⟨⟨permitted, of_client⟩, fun reply after _ executed => ?_⟩
  obtain ⟨invAfter, others⟩ := crowd_keeps inv permitted executed
  exact ⟨invAfter, others, continued now reply after executed invAfter⟩

theorem crowd_of_only {program : Code α}
    (only : program.Only fun effect => effect.harmless = true) :
    CrowdSafe libc condition (.client number) job program (fun _ _ => True) s := by
  induction program generalizing s with
  | ret value => exact fun _ _ _ => trivial
  | act effect next nextIH =>
      exact crowd_client only.1 fun _ reply _ _ _ => nextIH reply (only.2 reply)

def Owns (thread : Tid) (s : State) : Prop := s.mutexRecv = some thread

theorem Owns.stable {after : State} (owns : Owns thread s) (relied : CrowdRely thread s after) :
    Owns thread after := relied.owner.mpr owns

theorem owns_of_lock {after : State} (executed : exec thread .lock s = some ((), after)) :
    Owns thread after := by
  simp only [exec] at executed
  split at executed <;> cases executed
  rfl

/-- A harmless effect of a client that holds the mutex. -/
theorem crowd_owner {effect : Effect} {next : effect.Reply → Code α}
    (owns : Owns (.client number) s) (harmless : effect.harmless = true)
    (free : lockUse job effect = .free)
    (continued : ∀ s reply after, exec (.client number) effect s = some (reply, after) →
      Owns (.client number) after →
      CrowdSafe libc condition (.client number) job (next reply) post after) :
    CrowdSafe libc condition (.client number) job (.act effect next) post s := by
  refine crowd_act Owns.stable owns fun now owns inv => ?_
  refine ⟨permitted_of_harmless harmless, of_client, fun reply after executed _ => ?_⟩
  have kept : after.mutexRecv = now.mutexRecv := (mutexRecv_mutex libc).keeps (.inr free) executed
  exact continued now reply after executed (kept.trans owns)

theorem crowd_ret {value : α} : CrowdSafe libc condition (.client number) job
    (.ret value : Code α) (fun _ _ => True) s := fun _ _ _ => trivial

/-- The mutex is given back by the thread that took it. -/
theorem send_crowd {pdata : Option (List UInt8)} {outcome : Except Errno Nat} :
    CrowdSafe libc condition (.client number) job (send pdata outcome) (fun _ _ => True) s := by
  cases pdata with
  | none => exact crowd_ret
  | some data =>
      refine Safe.ite (fun _ => crowd_ret) fun _ => ?_
      refine crowd_client rfl fun s _ after executed _ => ?_
      have owns : Owns (.client number) after := owns_of_lock executed
      refine crowd_owner owns rfl rfl fun s opened after _ owns => ?_
      refine Safe.ite (fun _ => crowd_ret) fun _ => ?_
      refine crowd_owner owns rfl rfl fun s fd after _ owns => ?_
      refine crowd_owner owns rfl rfl fun s written after _ owns => ?_
      refine crowd_act Owns.stable owns fun now owns inv => ?_
      have whole : PassedOn now := inv.passed_on fun worker worked => by
        rw [Owns, worked] at owns
        cases owns
      exact ⟨⟨owns, whole⟩, of_client, fun _ _ _ _ => crowd_ret⟩

theorem init_harmless {spp : SpProp} {precvData : Option IrecvData} :
    (init spp precvData).Only fun effect => effect.harmless = true := by
  refine Prog.Only.ite (fun _ => trivial) fun _ => ⟨rfl, fun _ => ?_⟩
  exact Prog.Only.ite (fun some => ⟨some, fun _ => trivial⟩) fun _ => trivial

theorem harmless_of_closes {effect : Effect} (closes : effect.closes = true) :
    effect.harmless = true := by
  cases effect with
  | store field value => cases field <;> first | rfl | cases closes
  | _ => first | rfl | cases closes

theorem setPortParams_harmless {outcome : OpenOutcome} :
    (setPortParams libc outcome).Only fun effect => effect.harmless = true :=
  setPortParams_only fun effect tunes => by
    cases effect <;> first | rfl | cases tunes

theorem close_harmless : close.Only fun effect => effect.harmless = true :=
  close_only fun _ => harmless_of_closes

/-- A port with a receiver never loses it. -/
def HasReceiver (s : State) : Prop := s.port.param.precvData.isSome = true

theorem startThreadRecv_crowd {outcome : CreateOutcome} (registered : HasReceiver s) :
    CrowdSafe libc condition (.client number) job (startThreadRecv outcome) (fun _ _ => True) s := by
  have stable : ∀ {s after}, HasReceiver s → CrowdRely (.client number) s after →
      HasReceiver after := fun registered relied => relied.registered registered
  refine crowd_act stable registered fun now registered _ => ⟨trivial, of_client, ?_⟩
  intro _ after executed _
  have still : HasReceiver after := by
    cases executed
    exact registered
  refine crowd_act stable still fun now registered _ => ⟨registered, of_client, ?_⟩
  intro ret after _ _
  exact crowd_ret

theorem crowd_bind {β : Type} {program : Code α} {rest : α → Code β} {post : β → State → Prop}
    (inv : CrowdInv s)
    (first : CrowdSafe libc condition thread job program (fun _ _ => True) s)
    (second : ∀ value s, CrowdInv s → CrowdSafe libc condition thread job (rest value) post s) :
    CrowdSafe libc condition thread job (program >>= rest) post s :=
  Safe.bind (fun _ => CrowdRely.refl) inv
    (first.mono fun value now inv _ => second value now inv)

/-- The clean-up of a failing `open`. -/
private theorem cleanUp_crowd : CrowdSafe libc condition (.client number) job (do
      let retVal ← perform .errno
      let _ ← close
      return retVal : Code Int) (fun _ _ => True) s :=
  crowd_of_only ⟨rfl, fun _ =>
    @Prog.Only.bind _ _ _ _ _ close _ close_harmless fun _ => trivial⟩

/-- A receive thread is created after a receiver has been found. -/
theorem open_crowd {outcome : OpenOutcome} :
    CrowdSafe libc condition (.client number) job («open» libc outcome) (fun _ _ => True) s := by
  refine crowd_client rfl fun _ opened _ _ _ => ?_
  refine Safe.ite (fun _ => crowd_ret) fun _ => ?_
  refine crowd_client rfl fun _ _ _ _ _ => crowd_client rfl fun _ _ _ _ _ => ?_
  refine crowd_client rfl fun _ _ _ _ _ => crowd_client rfl fun _ _ _ _ _ => ?_
  refine Safe.ite (fun _ => crowd_client rfl fun _ _ _ _ _ => crowd_ret) fun _ => ?_
  refine crowd_client rfl fun _ _ _ _ _ => crowd_client rfl fun _ _ _ _ inv => ?_
  refine Safe.ite (fun _ => cleanUp_crowd) fun _ => ?_
  refine crowd_bind inv (crowd_of_only setPortParams_harmless) fun _ _ _ => ?_
  refine Safe.ite (fun _ => cleanUp_crowd) fun _ => ?_
  refine crowd_client rfl fun s precvData after executed inv => ?_
  refine Safe.ite (fun found => ?_) fun _ => crowd_ret
  have registered : HasReceiver after := by
    cases executed
    exact found
  refine crowd_bind inv (startThreadRecv_crowd registered) fun _ _ _ => ?_
  exact Safe.ite (fun _ => crowd_client rfl fun _ _ _ _ _ => crowd_ret) fun _ => crowd_ret

theorem runOperation_crowd (inv : CrowdInv s) (operation : Operation) :
    CrowdSafe libc condition (.client number) job (runOperation libc operation)
      (fun _ _ => True) s := by
  cases operation with
  | init spp precvData => exact crowd_bind inv (crowd_of_only init_harmless) fun _ _ _ => crowd_ret
  | «open» outcome => exact crowd_bind inv open_crowd fun _ _ _ => crowd_ret
  | close => exact crowd_bind inv (crowd_of_only close_harmless) fun _ _ _ => crowd_ret
  | setReadNotify len =>
      refine crowd_bind inv (crowd_of_only (?_ : (setReadNotify len).Only _)) fun _ _ _ => crowd_ret
      exact Prog.Only.ite (fun _ => ⟨rfl, fun _ => trivial⟩) fun _ => ⟨rfl, fun _ => trivial⟩
  | isOpened => exact crowd_client rfl fun _ _ _ _ _ => crowd_ret
  | send pdata outcome => exact crowd_bind inv send_crowd fun _ _ _ => crowd_ret
  | destroy =>
      refine crowd_bind inv (crowd_of_only (?_ : destroy.Only _)) fun _ _ _ => crowd_ret
      exact destroy_only fun _ => harmless_of_closes

end Clients

end LibSp.Linux
