import LibSp.Windows.Port
import LibSp.Concurrent.Fleet

/-!
# The objects of a Windows process

The clients of a process create objects and call their operations; what the objects share
are the handles, the last errors of the threads and the loggers that are registered.
-/

set_option autoImplicit false

namespace LibSp.Windows

open Concurrent

/-- What the objects of a process share. -/
structure ProcessShared where
  lastError : Tid → Int
  handles : List (Handle × Kind)
  nextHandle : Nat
  registered : Bool

def sharing : Sharing State ProcessShared where
  share s := ⟨s.lastError, s.handles, s.nextHandle, s.registered⟩
  mount shared s := { s with
    lastError := shared.lastError
    handles := shared.handles
    nextHandle := shared.nextHandle
    registered := shared.registered }

/-- What is kept for the record: that a constructor or an operation has been called, and
that a constructor has returned. -/
inductive Mark where
  | constructs (object : Nat)
  | calls (object : Nat) (operation : Operation)
  | constructed (object : Nat)

def Mark.isConstructs (object : Nat) : Mark → Bool
  | .constructs other => other == object
  | _ => false

def Mark.isConstructed (object : Nat) : Mark → Bool
  | .constructed other => other == object
  | _ => false

abbrev ProcessState := Fleet Nat State ProcessShared Mark

abbrev ProcessAct := Fleet.Act Nat Effect Mark

abbrev ProcessAct.Answer : ProcessAct → Type := Fleet.Act.Answer Effect.Reply

abbrev ProcessCode := Prog ProcessAct ProcessAct.Answer

inductive ProcessJob where
  | create (object : Nat)
  | on (object : Nat) (job : Job)

def mark (mark : Mark) : ProcessCode Unit := Prog.perform (Fleet.Act.mark mark)

def ProcessState.start : ProcessState where
  shared := ⟨fun _ => 0, [], 1, false⟩
  objects _ := State.zero
  marks := []

def runProcessJob : ProcessJob → ProcessCode Result
  | .create object => do
      mark (.constructs object)
      construct.on Mark object
      mark (.constructed object)
      return .value .void
  | .on object (.operation operation) => do
      mark (.calls object operation)
      (runJob (.operation operation)).on Mark object
  | .on object job => (runJob job).on Mark object

/-- A client may create an object that there is not, and use those that there are. -/
def admitsProcess (thread : Tid) (last : Option Result) (fleet : ProcessState) :
    ProcessJob → Bool
  | .create object => thread matches .client _ && !fleet.marks.any (Mark.isConstructs object)
  | .on object job =>
      fleet.marks.any (Mark.isConstructed object) &&
        admits thread last (fleet.view sharing object) job

def process : Machine Tid ProcessState ProcessAct ProcessAct.Answer ProcessJob Result
    (Nat × Event) where
  start := ProcessState.start
  exec := Fleet.exec sharing exec
  body := runProcessJob
  admits := admitsProcess
  external event fleet :=
    (system.external event.2 (fleet.view sharing event.1)).map (fleet.put sharing event.1)

end LibSp.Windows
