import LibSp.Linux.Framing

/-!
# The speed of a Linux port

`set_port_params` passes the requested rate to the speed setters as a plain
number, which classic glibc takes for none of its codes. The port keeps the speed
that it had before.
-/

set_option autoImplicit false

namespace LibSp.Linux

open Flags Concurrent

/-! ## Codes -/

/-- The rates of Linux with their `B*` codes. -/
def speedCodes : List (Int × BitVec 32) :=
  [(50, 0o1), (75, 0o2), (110, 0o3), (134, 0o4), (150, 0o5), (200, 0o6), (300, 0o7),
    (600, 0o10), (1200, 0o11), (1800, 0o12), (2400, 0o13), (4800, 0o14), (9600, 0o15),
    (19200, 0o16), (38400, 0o17), (57600, 0o10001), (115200, 0o10002), (230400, 0o10003),
    (460800, 0o10004), (500000, 0o10005), (576000, 0o10006), (921600, 0o10007),
    (1000000, 0o10010), (1152000, 0o10011), (1500000, 0o10012), (2000000, 0o10013),
    (2500000, 0o10014), (3000000, 0o10015), (3500000, 0o10016), (4000000, 0o10017)]

def speedCode (rate : Int) : Option (BitVec 32) :=
  (speedCodes.find? fun entry => entry.1 = rate).map (·.2)

def glibcCfgetospeed (options : Termios) : BitVec 32 := options.cCflag &&& (CBAUD ||| CBAUDEX)

def glibcCfgetispeed (options : Termios) : BitVec 32 :=
  if options.cIflag &&& IBAUD0 ≠ 0 then 0 else options.cCflag &&& (CBAUD ||| CBAUDEX)

/-- Both speeds of the termios are the code of the requested rate. -/
def SpeedSet (spp : SpProp) (options : Termios) : Prop :=
  ∃ code, speedCode spp.baudRate = some code ∧ glibcCfgetospeed options = code ∧
    glibcCfgetispeed options = code

/-- The port has the requested speed already. Software flow control sets
`CBAUDEX`, whose bit in `c_cflag` is that of `IXOFF` in `c_iflag`. -/
def SpeedInherited (spp : SpProp) (prior : Termios) : Prop :=
  prior.cIflag &&& IBAUD0 = 0 ∧
    speedCode spp.baudRate = some
      (if spp.flowCtl = flowCtlSoftware then setBits (prior.cCflag &&& CBAUD) CBAUDEX
      else prior.cCflag &&& CBAUD)

theorem speedCode_refused {rate : Int} {code : BitVec 32} (listed : speedCode rate = some code) :
    glibcRefuses (BitVec.ofInt 32 rate) = true := by
  obtain ⟨entry, found, -⟩ := Option.map_eq_some_iff.mp listed
  have all : ∀ entry ∈ speedCodes, glibcRefuses (BitVec.ofInt 32 entry.1) = true := by decide
  have same : entry.1 = rate := by simpa using List.find?_some found
  rw [← same]
  exact all entry (List.mem_of_find?_eq_some found)

/-! ## The speed bits through `set_port_params` -/

section

variable {spp : SpProp} {options prior : Termios}

theorem setSpeed_refused (refused : glibcRefuses (BitVec.ofInt 32 spp.baudRate) = true) :
    setSpeed glibc spp options = options := by
  simp only [setSpeed, glibc, glibcCfsetispeed, glibcCfsetospeed, refused, ↓reduceIte]

theorem setFlowCtl_cbaud :
    (setFlowCtl spp options).cCflag &&& CBAUD =
      if spp.flowCtl = flowCtlSoftware then setBits (options.cCflag &&& CBAUD) CBAUDEX
      else options.cCflag &&& CBAUD := by
  have hardwareNotSoftware : flowCtlHardware ≠ flowCtlSoftware := by decide
  have noneNotSoftware : flowCtlNone ≠ flowCtlSoftware := by decide
  have extended : (IXON ||| IXOFF ||| IXANY) &&& CBAUD = CBAUDEX := by decide
  simp only [setFlowCtl]
  split
  · next requested =>
      rw [requested, if_neg noneNotSoftware]
      exact clearBits_and_of_disjoint (by decide)
  · split
    · next requested =>
        rw [requested, if_neg hardwareNotSoftware]
        exact setBits_and_of_disjoint (by decide)
    · split
      · rw [setBits_and, extended]
        rfl
      · rfl

theorem portOptions_cbaud (refused : glibcRefuses (BitVec.ofInt 32 spp.baudRate) = true) :
    (portOptions glibc spp prior).cCflag &&& CBAUD =
      if spp.flowCtl = flowCtlSoftware then setBits (prior.cCflag &&& CBAUD) CBAUDEX
      else prior.cCflag &&& CBAUD := by
  have kept : (setStopBits spp (setDataBits spp (setSpeed glibc spp prior))).cCflag &&& CBAUD =
      prior.cCflag &&& CBAUD := by
    rw [setStopBits_untouched (by decide), setDataBits_untouched (by decide),
      setSpeed_refused refused]
  rw [← kept, ← setFlowCtl_cbaud]
  exact setParity_untouched (by decide)

theorem portOptions_ibaud (refused : glibcRefuses (BitVec.ofInt 32 spp.baudRate) = true) :
    (portOptions glibc spp prior).cIflag &&& IBAUD0 = prior.cIflag &&& IBAUD0 := by
  have kept : (setParity spp (setFlowCtl spp (setStopBits spp (setDataBits spp
      (setSpeed glibc spp prior))))).cIflag = prior.cIflag := by
    rw [steps_cIflag, setSpeed_refused refused]
  rw [← kept]
  exact clearBits_and_of_disjoint (by decide)

end

theorem glibcCfgetospeed_portOptions {spp : SpProp} {prior : Termios} {code : BitVec 32}
    (listed : speedCode spp.baudRate = some code) :
    glibcCfgetospeed (portOptions glibc spp prior) =
      if spp.flowCtl = flowCtlSoftware then setBits (prior.cCflag &&& CBAUD) CBAUDEX
      else prior.cCflag &&& CBAUD :=
  portOptions_cbaud (speedCode_refused listed)

theorem glibcCfgetispeed_portOptions {spp : SpProp} {prior : Termios} {code : BitVec 32}
    (listed : speedCode spp.baudRate = some code) :
    glibcCfgetispeed (portOptions glibc spp prior) =
      if prior.cIflag &&& IBAUD0 ≠ 0 then 0
      else glibcCfgetospeed (portOptions glibc spp prior) := by
  rw [glibcCfgetispeed, portOptions_ibaud (speedCode_refused listed)]
  rfl

theorem speedCode_ne_zero {rate : Int} {code : BitVec 32} (listed : speedCode rate = some code) :
    code ≠ 0 := by
  obtain ⟨entry, found, rfl⟩ := Option.map_eq_some_iff.mp listed
  have all : ∀ entry ∈ speedCodes, entry.2 ≠ 0 := by decide
  exact all entry (List.mem_of_find?_eq_some found)

/-- The requested speed is what comes out only if it is what was there. -/
theorem speedSet_iff {spp : SpProp} {prior : Termios} :
    SpeedSet spp (portOptions glibc spp prior) ↔ SpeedInherited spp prior := by
  constructor
  · intro found
    obtain ⟨code, listed, output, input⟩ := found
    rw [glibcCfgetispeed_portOptions listed] at input
    have both : prior.cIflag &&& IBAUD0 = 0 := by
      refine Decidable.not_not.mp fun hangup => ?_
      rw [if_pos hangup] at input
      exact speedCode_ne_zero listed input.symm
    rw [glibcCfgetospeed_portOptions listed] at output
    exact ⟨both, output ▸ listed⟩
  · intro condition
    obtain ⟨both, listed⟩ := condition
    have output := @glibcCfgetospeed_portOptions spp prior _ listed
    refine ⟨_, listed, output, ?_⟩
    rw [glibcCfgetispeed_portOptions listed, if_neg (not_not_intro both), output]

private theorem setPortParams_refused {thread : Tid} {s : State} {outcome : OpenOutcome}
    {error : Errno} (refused : outcome.tcgetattr = .error error) :
    (setPortParams glibc outcome).run (exec thread) s =
      some (-1, { s with port := s.port.setErrno thread error.value }) := by
  obtain ⟨descriptor, queued, fcntl, tcgetattr, tcsetattr, pthreadCreate⟩ := outcome
  cases refused
  rfl

/-- `set_port_params` returns 0 only with the speed set as requested, or else the
speed was that before, or the settings could not be read or written. -/
theorem setPortParams_speed_iff (thread : Tid) (s : State) (outcome : OpenOutcome) :
    ∃ retVal after, (setPortParams glibc outcome).run (exec thread) s = some (retVal, after) ∧
      ((retVal = 0 → ∃ options, after.port.handed = some options ∧
          SpeedSet s.port.param.spp options) ↔
        ∀ prior, outcome.tcgetattr = .ok prior → outcome.tcsetattr.isOk = true →
          SpeedInherited s.port.param.spp prior) := by
  cases answered : outcome.tcgetattr with
  | error error =>
      refine ⟨_, _, setPortParams_refused answered, iff_of_true (fun zero => ?_) fun _ same => ?_⟩
      · cases zero
      · cases same
  | ok prior =>
      refine ⟨_, _, setPortParams_run answered, ?_⟩
      cases written : outcome.tcsetattr with
      | error error =>
          refine iff_of_true (fun zero => ?_) fun _ _ accepted => by cases accepted
          cases zero
      | ok done =>
          constructor
          · rintro set other same -
            cases same
            obtain ⟨options, handed, speed⟩ := set rfl
            cases handed
            exact speedSet_iff.mp speed
          · intro inherited _
            exact ⟨_, rfl, speedSet_iff.mpr (inherited prior rfl rfl)⟩

/-- A terminal left at 115200 by its previous user. -/
def Termios.fast : Termios := { Termios.zero with cCflag := 0o10002 }

/-- 9600 is requested and accepted, 0 is returned, and the speed stays 115200. -/
theorem speed_stays_115200 :
    (SpParamsCheck.getInstance .linux).isRight eightNone = 0 ∧ eightNone.baudRate = baudRate9600 ∧
      ∃ after options,
        (setPortParams glibc { OpenOutcome.fine 3 with tcgetattr := .ok Termios.fast }).run
          (exec (.client 0)) (.withSettings eightNone) = some (0, after) ∧
        after.port.handed = some options ∧ some (glibcCfgetospeed options) = speedCode 115200 ∧
        ¬ SpeedSet eightNone options := by
  refine ⟨by decide, rfl, _, _, setPortParams_run rfl, rfl, by decide, ?_⟩
  intro set
  obtain ⟨-, inherited⟩ := speedSet_iff.mp set
  exact absurd inherited (by decide)

end LibSp.Linux
