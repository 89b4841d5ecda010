import LibSp.Linux.Send
import LibSp.Linux.OpenClose
import LibSp.Windows.Send

/-!
# What `send` tells

`iserial_port` documents the result of `send` as the number of bytes written, or a
negative number for an error. When the two implementations keep to it.
-/

set_option autoImplicit false

namespace LibSp

open Concurrent

/-- In every run with one client, a `send` of data on an open port that is over has told
what was sent: on Linux if and only if the client did not own the mutex when it called,
on Windows if and only if the mode is asynchronous and its write is counted right. -/
theorem sends_tell_iff (libc : Linux.SpeedSetters) :
    (∀ (config : Config Tid Linux.State Linux.Effect Linux.Effect.Reply Linux.Job Linux.Result)
      call data outcome,
      (Linux.system libc).Reachable Linux.oneClient config →
      config.calls (.client 0) = some call →
      call.job = .operation (.send (some data) outcome) →
      0 < data.length → data.length < 2147483648 →
      call.entry.port.param.isOpened = true → Linux.Over config (.client 0) call →
      (Linux.Tells config data outcome call ↔ call.entry.mutexRecv ≠ some (.client 0))) ∧
    ∀ (config : Config Tid Windows.State Windows.Effect Windows.Effect.Reply Windows.Job
        Windows.Result) call data outcome,
      Windows.system.Reachable Windows.oneClient config →
      config.calls (.client 0) = some call →
      call.job = .operation (.send (some data) outcome) →
      0 < data.length → data.length < 2147483648 →
      call.entry.param.isOpened = true → Windows.Over config (.client 0) call →
      (Windows.Tells config data outcome call ↔
        call.entry.param.spp.opMode = modeAsync ∧ outcome.Counts data) := by
  constructor
  · intro config call data outcome reachable calls job nonempty _ isOpened ended
    exact Linux.send_tells_iff libc config reachable call data outcome calls job nonempty
      isOpened ended
  · intro config call data outcome reachable calls job nonempty short isOpened ended
    exact Windows.send_tells_iff reachable calls job nonempty short isOpened ended

/-- One byte, which Linux writes at once and Windows after a while. -/
theorem sends_tell_byte :
    (∃ config call, (Linux.system Linux.glibc).Reachable Linux.oneClient config ∧
      config.calls (.client 0) = some call ∧ Linux.Tells config [0x55] (.ok 1) call) ∧
    ∃ config call, Windows.system.Reachable Windows.oneClient config ∧
      config.calls (.client 0) = some call ∧
      Windows.Tells config [0x55] (.pending (.ok 1)) call := by
  constructor
  · have ran : ∃ config call, (Linux.system Linux.glibc).steps Linux.oneClient
          (Linux.system Linux.glibc).initial (Linux.openingRun (.fine 3) 18 ++
            Label.burst (.client 0) (.operation (.send (some [0x55]) (.ok 1))) 6) = some config ∧
        config.calls (.client 0) = some call ∧
        call.job = .operation (.send (some [0x55]) (.ok 1)) ∧
        call.entry.port.param.isOpened = true ∧ call.entry.mutexRecv = none ∧
        call.Returned (.value (.code 1)) := ⟨_, _, rfl, rfl, rfl, rfl, rfl, rfl⟩
    obtain ⟨config, call, steps, calls, job, isOpened, free, returned⟩ := ran
    have reachable : (Linux.system Linux.glibc).Reachable Linux.oneClient config :=
      .of_steps .start steps
    refine ⟨config, call, reachable, calls, ?_⟩
    refine ((sends_tell_iff Linux.glibc).1 config call [0x55] (.ok 1) reachable calls job
      (by decide) (by decide) isOpened (.inl ⟨_, returned⟩)).mpr ?_
    rw [free]
    nofun
  · have ran : ∃ config call, Windows.system.steps Windows.oneClient Windows.system.initial
          (Windows.openingRun ++ Label.burst (.client 0)
            (.operation (.send (some [0x55]) (.pending (.ok 1)))) 14) = some config ∧
        config.calls (.client 0) = some call ∧
        call.job = .operation (.send (some [0x55]) (.pending (.ok 1))) ∧
        call.entry.param.isOpened = true ∧ call.entry.param.spp.opMode = modeAsync ∧
        call.Returned (.value (.code 1)) := ⟨_, _, rfl, rfl, rfl, rfl, rfl, rfl⟩
    obtain ⟨config, call, steps, calls, job, isOpened, async, returned⟩ := ran
    have reachable : Windows.system.Reachable Windows.oneClient config := .of_steps .start steps
    refine ⟨config, call, reachable, calls, ?_⟩
    exact ((sends_tell_iff Linux.glibc).2 config call [0x55] _ reachable calls job (by decide)
      (by decide) isOpened (.inl ⟨_, returned⟩)).mpr ⟨async, Nat.le_refl 1⟩

/-- A byte that is written at once counts as 0, and the error 5 as five bytes. -/
theorem send_tells_wrong :
    (∃ config call, Windows.system.Reachable Windows.oneClient config ∧
      config.calls (.client 0) = some call ∧
      call.job = .operation (.send (some [0x55]) (.now 1)) ∧
      call.entry.param.isOpened = true ∧ call.Returned (.value (.code 0)) ∧
      config.state.sent = [0x55] ∧ ¬ Windows.Tells config [0x55] (.now 1) call) ∧
    ∃ error notPending config call, Windows.system.Reachable Windows.oneClient config ∧
      config.calls (.client 0) = some call ∧
      call.job = .operation (.send (some [0x55]) (.refused error notPending)) ∧
      call.entry.param.isOpened = true ∧ call.Returned (.value (.code 5)) ∧
      config.state.sent = [] ∧
      ¬ Windows.Tells config [0x55] (.refused error notPending) call := by
  constructor
  · have ran : ∃ config call, Windows.system.steps Windows.oneClient Windows.system.initial
          (Windows.openingRun ++ Label.burst (.client 0)
            (.operation (.send (some [0x55]) (.now 1))) 11) = some config ∧
        config.calls (.client 0) = some call ∧
        call.job = .operation (.send (some [0x55]) (.now 1)) ∧
        call.entry.param.isOpened = true ∧ call.Returned (.value (.code 0)) ∧
        config.state.sent = [0x55] ∧ call.entry.sent = [] :=
      ⟨_, _, rfl, rfl, rfl, rfl, rfl, rfl, rfl⟩
    obtain ⟨config, call, steps, calls, job, isOpened, returned, sent, before⟩ := ran
    refine ⟨config, call, .of_steps .start steps, calls, job, isOpened, returned, sent, ?_⟩
    intro tells
    obtain ⟨value, too, told⟩ := tells
    cases returned.symm.trans too
    rw [sent, before] at told
    exact absurd ((told.counts 0).mp rfl).2.2 (by decide)
  · have ran : ∃ config call, Windows.system.steps Windows.oneClient Windows.system.initial
          (Windows.openingRun ++ Label.burst (.client 0)
            (.operation (.send (some [0x55]) (.refused ⟨5, by decide⟩ (by decide)))) 13) =
          some config ∧
        config.calls (.client 0) = some call ∧
        call.job = .operation (.send (some [0x55]) (.refused ⟨5, by decide⟩ (by decide))) ∧
        call.entry.param.isOpened = true ∧ call.Returned (.value (.code 5)) ∧
        config.state.sent = [] := ⟨_, _, rfl, rfl, rfl, rfl, rfl, rfl⟩
    obtain ⟨config, call, steps, calls, job, isOpened, returned, sent⟩ := ran
    refine ⟨_, _, config, call, .of_steps .start steps, calls, job, isOpened, returned, sent, ?_⟩
    intro tells
    obtain ⟨value, too, told⟩ := tells
    cases returned.symm.trans too
    exact absurd (told.negative.mpr rfl) (by decide)

end LibSp
