import LibSp.Concurrent.Register
import LibSp.Windows.Members

/-!
# The length that notifies the receiver of a Windows port

The monitor loop calls `read_data` once the last length of `set_read_notify` is pending.
The length is bounded from below, so that the loop never reads from an empty queue.
-/

set_option autoImplicit false

namespace LibSp.Windows

open Concurrent

section

variable {callback : Code Unit} {outcome : MonitorOutcome} {cbInQue : Nat} {thread : Tid}
  {s : State}

end

/-- The stored length, which a call of `set_read_notify` bounds from below. -/
def readNotify : Register State Effect Job Nat Nat where
  part s := s.param.minBytesReadNotify
  writes job effect :=
    match job, effect with
    | .operation (.setReadNotify len), .store .minBytesReadNotify _ => some len
    | _, _ => none
  holds len := if 0 = len then 1 else len

theorem readNotify_holds {len : Nat} : readNotify.holds len = max 1 len := by
  simp only [readNotify]
  split <;> omega

theorem readNotify_unwritten {job : Job} {effect : Effect} (keeps : effect.setsNotify = false) :
    readNotify.writes job effect = none := by
  simp only [readNotify]
  split
  · cases keeps
  · rfl

theorem readNotify_lawful : readNotify.Lawful system where
  body {thread last state job} _ := by
    have keeps : ∀ effect : Effect, effect.setsNotify = false →
        readNotify.Obeyed system job effect := fun effect keeps =>
      Register.obeyed_of_unwritten (readNotify_unwritten keeps)
        fun _ _ _ _ executed => exec_minBytesReadNotify keeps executed
    by_cases sets : ∃ len, job = .operation (.setReadNotify len)
    · obtain ⟨len, rfl⟩ := sets
      refine Prog.Only.bind (Prog.Only.bind ⟨?_, fun _ => trivial⟩ fun _ => trivial) fun _ =>
        ⟨keeps _ rfl, fun _ => trivial⟩
      refine Register.obeyed_of_written rfl fun actor before reply later executed => ?_
      cases executed
      rfl
    · exact (runJob_keepsNotify fun len same => sets ⟨len, same⟩).mono keeps
  external changed := congrArg (fun members => members.param.minBytesReadNotify)
    (external_members changed)

/-- The lengths of a run, the earliest first. -/
def readNotifyLens (labels : List (Label Tid Job Event)) : List Nat :=
  readNotify.written system system.initial labels

end LibSp.Windows
