import LibSp.Concurrent.Register
import LibSp.Linux.Members

/-!
# The length that notifies the receiver of a Linux port

The receive loop reads once the last length of `set_read_notify` is pending. The length
is bounded from above, so that the loop never waits for more than its buffer holds.
-/

set_option autoImplicit false

namespace LibSp.Linux

open Concurrent

section

variable {callback : Code Unit} {hasReadBytes : Int} {outcome : RecvOutcome} {thread : Tid}
  {s : State}

end

/-- The stored length, which a call of `set_read_notify` bounds from above. -/
def readNotify : Register State Effect Job Nat Nat where
  part s := s.port.param.minByteReadNotify
  writes job effect :=
    match job, effect with
    | .operation (.setReadNotify len), .store .minByteReadNotify _ => some len
    | _, _ => none
  holds len := if lenBuf1024 < len then lenBuf1024 else len

theorem readNotify_holds {len : Nat} : readNotify.holds len = min len lenBuf1024 := by
  simp only [readNotify]
  split <;> omega

theorem readNotify_unwritten {job : Job} {effect : Effect} (keeps : effect.setsNotify = false) :
    readNotify.writes job effect = none := by
  simp only [readNotify]
  split
  · cases keeps
  · rfl

theorem readNotify_lawful (libc : SpeedSetters) : readNotify.Lawful (system libc) where
  body {thread last state job} _ := by
    have keeps : ∀ effect : Effect, effect.setsNotify = false →
        readNotify.Obeyed (system libc) job effect := fun effect keeps =>
      Register.obeyed_of_unwritten (readNotify_unwritten keeps)
        fun _ _ _ _ executed => exec_minByteReadNotify keeps executed
    by_cases sets : ∃ len, job = .operation (.setReadNotify len)
    · obtain ⟨len, rfl⟩ := sets
      have stores : ∀ value, value = readNotify.holds len →
          readNotify.Obeyed (system libc) (.operation (.setReadNotify len))
            (.store .minByteReadNotify value) := by
        intro value held
        refine Register.obeyed_of_written rfl fun actor before reply later executed => ?_
        cases executed
        exact held
      refine Prog.Only.bind (Prog.Only.bind ?_ fun _ => trivial) fun _ =>
        ⟨keeps _ rfl, fun _ => trivial⟩
      refine Prog.Only.ite (fun long => ?_) fun fits => ?_
      · exact ⟨stores _ (if_pos long).symm, fun _ => trivial⟩
      · exact ⟨stores _ (if_neg fits).symm, fun _ => trivial⟩
    · exact (runJob_keepsNotify fun len same => sets ⟨len, same⟩).mono keeps
  external changed := by
    cases changed
    rfl

/-- The lengths of a run, the earliest first. -/
def readNotifyLens (libc : SpeedSetters) (labels : List (Label Tid Job (List UInt8))) : List Nat :=
  readNotify.written (system libc) (system libc).initial labels

/-- The threshold in force after a run. -/
theorem minByteReadNotify_of_ran {libc : SpeedSetters}
    {condition : Condition Tid State Effect Job} {labels : List (Label Tid Job (List UInt8))}
    {config : Config Tid State Effect Effect.Reply Job Result}
    (ran : (system libc).steps condition (system libc).initial labels = some config) :
    config.state.port.param.minByteReadNotify =
      min (lastNotify (readNotifyLens libc labels)) lenBuf1024 := by
  have stored : config.state.port.param.minByteReadNotify =
      readNotify.holds (lastNotify (readNotifyLens libc labels)) :=
    ((readNotify_lawful libc).steps .start ran).trans (readNotify.after_of_held 1 _)
  rw [stored, readNotify_holds]

end LibSp.Linux
