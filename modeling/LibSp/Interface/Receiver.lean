import LibSp.Linux.Receiver
import LibSp.Windows.Receive
import LibSp.Windows.Receiver

/-!
# Who receives the data

The object that the latest successful `init` passed receives the data, on both platforms,
where registrations keep apart. An `init` without an object leaves the one before in place.
-/

set_option autoImplicit false

namespace LibSp

open Concurrent

/-- In every run of any number of clients in which registrations keep apart, an `init`
without an object goes on record only while none is stored, and none falls between the
reading and the loading of the object: data goes to the object that the latest successful
`init` passed before the data was read, and a receive thread starts only if it passed one. -/
theorem receives_latest (libc : Linux.SpeedSetters) :
    (∀ config thread call,
      (Linux.system libc).Leads Linux.relay.rule (Linux.system libc).initial config →
      config.calls thread = some call →
      (∀ receiver chunk notify, call.Next (.onRecvData receiver chunk notify) →
        Linux.relay.Took (Linux.system libc) thread (some receiver) config) ∧
      ∀ outcome, call.Next (.pthreadCreate outcome) →
        Linux.lastReceiver config.state.port.history ≠ none) ∧
    ∀ config thread call, Windows.system.Leads Windows.relay.rule Windows.system.initial config →
      config.calls thread = some call →
      ∀ receiver chunk notify, call.Next (.onRecvData receiver chunk notify) →
        Windows.relay.Took Windows.system thread (some receiver) config := by
  refine ⟨fun config thread call leads calls => ⟨?_, ?_⟩, ?_⟩
  · intro receiver chunk notify standing
    exact (Linux.relay_lawful libc).passes_latest leads calls standing rfl
  · intro outcome standing
    exact Linux.pthreadCreate_latest leads calls standing
  · intro config thread call leads calls receiver chunk notify standing
    exact Windows.relay_lawful.passes_latest leads calls standing rfl

namespace Linux

/-- An object is registered. -/
def registeringRun : List (Label Tid Job (List UInt8)) :=
  Label.burst (.client 0) (.operation (.init eightNone (some 7))) 3

/-- The port is opened, a byte arrives, and the receive thread goes some steps. -/
def bringingRun (effects : Nat) : List (Label Tid Job (List UInt8)) :=
  Label.burst (.client 0) (.operation (.open (.fine 3))) 18 ++ [.external [0x41]] ++
    Label.burst (.worker 0) (.iteration 0 ⟨true, true⟩) effects

end Linux

namespace Windows

/-- An object is registered. -/
def registeringRun : List (Label Tid Job Event) :=
  Label.burst (.client 0) (.operation (.init eightNone (some 7))) 5

/-- A `close`, something between, and an `open` overtake an iteration before it reads. -/
def overtakenRun (between : List (Label Tid Job Event)) (effects : Nat) :
    List (Label Tid Job Event) :=
  Label.burst (.client 0) (.operation (.open .fine)) 36 ++ Label.burst (.worker 3) .enter 3 ++
    Label.burst (.worker 3) (.iteration 0 { MonitorOutcome.rxchar (.now ()) with unread := 1 }) 9 ++
    Label.burst (.client 0) (.operation (.close ⟨true⟩)) 25 ++
    List.replicate 5 (.act (.worker 3)) ++ between ++
    Label.burst (.client 0) (.operation (.open { OpenOutcome.fine with queued := [0x41] })) 8 ++
    List.replicate effects (.act (.worker 3))

end Windows

set_option maxRecDepth 1000 in
/-- Both ports are opened with the object 7, which then gets the byte that arrives. -/
theorem receives_latest_byte :
    (∃ config, Linux.relay.Took (Linux.system Linux.glibc) (.worker 0) (some 7) config) ∧
    (∃ config call, (Linux.system Linux.glibc).Leads Linux.relay.rule
        (Linux.system Linux.glibc).initial config ∧
      config.calls (.client 0) = some call ∧ call.Next (.pthreadCreate .created) ∧
      Linux.lastReceiver config.state.port.history ≠ none) ∧
    ∃ config, Windows.relay.Took Windows.system (.worker 3) (some 7) config := by
  refine ⟨?_, ?_, ?_⟩
  · have ran : ∃ between config client call,
        (Linux.system Linux.glibc).steps Linux.relay.condition (Linux.system Linux.glibc).initial
          Linux.registeringRun = some between ∧
        between.calls (.client 0) = some client ∧ client.Returned (.value (.code 0)) ∧
        (Linux.system Linux.glibc).steps .always between (Linux.bringingRun 9) = some config ∧
        config.calls (.worker 0) = some call ∧ call.Next (.onRecvData 7 [0x41] 1) :=
      ⟨_, _, _, _, rfl, rfl, rfl, rfl, rfl, _, rfl⟩
    obtain ⟨between, config, client, call, began, clientCalls, returned, steps, calls, standing⟩ :=
      ran
    have leads := Relay.leads_of_begun Linux.Job.isPlain (fun _ => Linux.runJob_registerless)
      began rfl clientCalls returned steps rfl
    exact ⟨config, ((receives_latest Linux.glibc).1 config _ call leads calls).1 7 _ _ standing⟩
  · have ran : ∃ between config client call,
        (Linux.system Linux.glibc).steps Linux.relay.condition (Linux.system Linux.glibc).initial
          Linux.registeringRun = some between ∧
        between.calls (.client 0) = some client ∧ client.Returned (.value (.code 0)) ∧
        (Linux.system Linux.glibc).steps .always between
          (Label.burst (.client 0) (.operation (.open (.fine 3))) 16) = some config ∧
        config.calls (.client 0) = some call ∧ call.Next (.pthreadCreate .created) :=
      ⟨_, _, _, _, rfl, rfl, rfl, rfl, rfl, _, rfl⟩
    obtain ⟨between, config, client, call, began, clientCalls, returned, steps, calls, standing⟩ :=
      ran
    have leads := Relay.leads_of_begun Linux.Job.isPlain (fun _ => Linux.runJob_registerless)
      began rfl clientCalls returned steps rfl
    have recorded := ((receives_latest Linux.glibc).1 config _ call leads calls).2 _ standing
    exact ⟨config, call, leads, calls, standing, recorded⟩
  · have ran : ∃ between config client call,
        Windows.system.steps Windows.relay.condition Windows.system.initial
          Windows.registeringRun = some between ∧
        between.calls (.client 0) = some client ∧ client.Returned (.value (.code 0)) ∧
        Windows.system.steps .always between (Windows.overtakenRun [] 11) = some config ∧
        config.calls (.worker 3) = some call ∧ call.Next (.onRecvData 7 [0x41] 1) :=
      ⟨_, _, _, _, rfl, rfl, rfl, rfl, rfl, _, rfl⟩
    obtain ⟨between, config, client, call, began, clientCalls, returned, steps, calls, standing⟩ :=
      ran
    have leads := Relay.leads_of_begun Windows.Job.isPlain Windows.runJob_registerless
      began rfl clientCalls returned steps rfl
    exact ⟨config, (receives_latest Linux.glibc).2 config _ call leads calls 7 _ _ standing⟩

/-- After the first steps a call takes data while the one pointer is on record, and after
the next it passes data on to the other. -/
def Delivers {State Effect Job Result External Pointer : Type} {Reply : Effect → Type}
    (relay : Relay State Effect Reply Job Pointer)
    (machine : Machine Tid State Effect Reply Job Result External) (thread : Tid)
    (first second : List (Label Tid Job External)) (latest : Option Pointer) (receiver : Pointer) :
    Prop :=
  ∃ config later taker passer taking passing,
    machine.steps .always machine.initial first = some config ∧
    config.calls thread = some taker ∧ taker.Next taking ∧
    relay.relies taker.job taking = true ∧ relay.latest config.state = latest ∧
    machine.steps .always config second = some later ∧
    later.calls thread = some passer ∧ passer.Next passing ∧ relay.passes passing = some receiver

/-- An `init` without an object leaves the one before: on Linux `open` starts a receive
thread, and on both platforms the old object gets what is read later. The object of an
`init` between the reading and the loading gets what was read before. -/
theorem receives_stale :
    (∃ config call, (Linux.system Linux.glibc).steps .always (Linux.system Linux.glibc).initial
        (Linux.registeringRun ++
          Label.burst (.client 0) (.operation (.init Linux.eightNone none)) 2 ++
          Label.burst (.client 0) (.operation (.open (.fine 3))) 16) = some config ∧
      config.calls (.client 0) = some call ∧ call.Next (.pthreadCreate .created) ∧
      Linux.lastReceiver config.state.port.history = none) ∧
    Delivers Linux.relay (Linux.system Linux.glibc) (.worker 0)
      (Linux.registeringRun ++
        Label.burst (.client 0) (.operation (.init Linux.eightNone none)) 2 ++ Linux.bringingRun 7)
      (List.replicate 2 (.act (.worker 0))) none 7 ∧
    Delivers Windows.relay Windows.system (.worker 3)
      (Windows.registeringRun ++ Windows.overtakenRun
        (Label.burst (.client 0) (.operation (.init Windows.eightNone none)) 4) 9)
      (List.replicate 2 (.act (.worker 3))) none 7 ∧
    Delivers Linux.relay (Linux.system Linux.glibc) (.worker 0)
      (Linux.registeringRun ++ Linux.bringingRun 7)
      (.act (.worker 0) :: (Label.burst (.client 0) (.operation (.init Linux.eightNone (some 8))) 3 ++
        [.act (.worker 0)])) (some 7) 8 := by
  refine ⟨⟨_, _, rfl, rfl, ⟨_, rfl⟩, rfl⟩, ?_, ?_, ?_⟩
  · exact ⟨_, _, _, _, _, _, rfl, rfl, ⟨_, rfl⟩, rfl, rfl, rfl, rfl, ⟨_, rfl⟩, rfl⟩
  · exact ⟨_, _, _, _, _, _, rfl, rfl, ⟨_, rfl⟩, rfl, rfl, rfl, rfl, ⟨_, rfl⟩, rfl⟩
  · exact ⟨_, _, _, _, _, _, rfl, rfl, ⟨_, rfl⟩, rfl, rfl, rfl, rfl, ⟨_, rfl⟩, rfl⟩

end LibSp
