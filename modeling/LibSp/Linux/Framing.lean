import LibSp.Linux.Port

/-!
# Framing of a Linux port

Data bits, stop bits and parity of the termios that `set_port_params` hands to
`tcsetattr`. Each step of the function is described on the fields of `c_cflag`;
the parity step reaches into the field of the data bits.
-/

set_option autoImplicit false

namespace LibSp.Linux

open Flags Concurrent

/-- The framing bits of `c_cflag` are those requested. -/
structure Framed (spp : SpProp) (cflag : BitVec 32) : Prop where
  fiveBits : spp.dataBits = dataBits5 → cflag &&& CSIZE = CS5
  sixBits : spp.dataBits = dataBits6 → cflag &&& CSIZE = CS6
  sevenBits : spp.dataBits = dataBits7 → cflag &&& CSIZE = CS7
  eightBits : spp.dataBits = dataBits8 → cflag &&& CSIZE = CS8
  twoStops : spp.stopBits = stop2 → cflag &&& CSTOPB = CSTOPB
  oneStop : spp.stopBits = stop1 → cflag &&& CSTOPB = 0
  noParity : spp.parity = parityNone → cflag &&& PARENB = 0
  oddParity : spp.parity = parityOdd → cflag &&& PARENB = PARENB ∧ cflag &&& PARODD = PARODD
  evenParity : spp.parity = parityEven → cflag &&& PARENB = PARENB ∧ cflag &&& PARODD = 0

/-- The settings whose framing the later steps do not undo: not two stop bits,
6 or 8 data bits only with some parity, fewer than 8 only without odd or even. -/
def FramingKept (spp : SpProp) : Prop :=
  spp.stopBits ≠ stop2 ∧
  (spp.parity = parityNone → spp.dataBits ≠ dataBits6 ∧ spp.dataBits ≠ dataBits8) ∧
  (spp.parity = parityOdd ∨ spp.parity = parityEven →
    spp.dataBits ≠ dataBits5 ∧ spp.dataBits ≠ dataBits6 ∧ spp.dataBits ≠ dataBits7)

/-! ## Fields that a step leaves alone -/

section Untouched

variable {spp : SpProp} {options : Termios} {field : BitVec 32}

theorem setSpeed_untouched (libc : SpeedSetters)
    (outside : ~~~(CBAUD ||| CIBAUD) &&& field = field) :
    (setSpeed libc spp options).cCflag &&& field = options.cCflag &&& field := by
  have input := (libc.ispeedOnly options (BitVec.ofInt 32 spp.baudRate)).cflag
  have output := (libc.ospeedOnly (libc.cfsetispeed options (BitVec.ofInt 32 spp.baudRate)).1
    (BitVec.ofInt 32 spp.baudRate)).cflag
  exact and_eq_of_agree (output.trans input) outside

theorem setDataBits_untouched (outside : CSIZE &&& field = 0) :
    (setDataBits spp options).cCflag &&& field = options.cCflag &&& field := by
  have sizes : ∀ size, size &&& CSIZE = size →
      setBits (clearBits options.cCflag CSIZE) size &&& field = options.cCflag &&& field := by
    intro size inside
    have disjoint : size &&& field = 0 := by
      rw [← inside, BitVec.and_assoc, outside]
      simp
    rw [setBits_and_of_disjoint disjoint,
      clearBits_and_of_disjoint (not_and_of_disjoint outside)]
  simp only [setDataBits]
  split
  · exact sizes CS5 (by decide)
  · split
    · exact sizes CS6 (by decide)
    · split
      · exact sizes CS7 (by decide)
      · split
        · exact sizes CS8 (by decide)
        · rfl

theorem setStopBits_untouched (outside : ~~~CSTOPB &&& field = field) :
    (setStopBits spp options).cCflag &&& field = options.cCflag &&& field := by
  simp only [setStopBits]
  split
  · exact clearBits_and_of_disjoint outside
  · split
    · exact clearBits_and_of_disjoint outside
    · split
      · exact clearBits_and_of_disjoint outside
      · rfl

theorem setFlowCtl_untouched (hardware : ~~~CRTSCTS &&& field = field)
    (hardwareBits : CRTSCTS &&& field = 0) (software : (IXON ||| IXOFF ||| IXANY) &&& field = 0) :
    (setFlowCtl spp options).cCflag &&& field = options.cCflag &&& field := by
  simp only [setFlowCtl]
  split
  · exact clearBits_and_of_disjoint hardware
  · split
    · exact setBits_and_of_disjoint hardwareBits
    · split
      · exact setBits_and_of_disjoint software
      · rfl

theorem setParity_untouched
    (disjoint : (PARENB ||| PARODD ||| INPCK ||| ISTRIP ||| CSTOPB) &&& field = 0) :
    (setParity spp options).cCflag &&& field = options.cCflag &&& field := by
  simp only [BitVec.and_or_distrib_right, BitVec.ofNat_eq_ofNat, BitVec.or_eq_zero_iff] at disjoint
  obtain ⟨⟨⟨⟨parenb, parodd⟩, inpck⟩, istrip⟩, cstopb⟩ := disjoint
  simp only [setParity]
  split
  · rw [clearBits_and_of_disjoint (not_and_of_disjoint inpck),
      clearBits_and_of_disjoint (not_and_of_disjoint parenb)]
  · split
    · rw [setBits_and_of_disjoint istrip, setBits_and_of_disjoint inpck,
        setBits_and_of_disjoint parodd, setBits_and_of_disjoint parenb]
    · split
      · rw [setBits_and_of_disjoint istrip, setBits_and_of_disjoint inpck,
          clearBits_and_of_disjoint (not_and_of_disjoint parodd), setBits_and_of_disjoint parenb]
      · split
        · rw [clearBits_and_of_disjoint (not_and_of_disjoint cstopb),
            clearBits_and_of_disjoint (not_and_of_disjoint parenb)]
        · rfl

/-- Only the speed setters and the line mode reach anything but `c_cflag`. -/
theorem steps_cCflag (options : Termios) :
    ∃ cflag, setParity spp (setFlowCtl spp (setStopBits spp (setDataBits spp options))) =
      { options with cCflag := cflag } := by
  have dataBits : ∃ cflag, setDataBits spp options = { options with cCflag := cflag } := by
    unfold setDataBits
    repeat' split
    all_goals exact ⟨_, rfl⟩
  have stopBits : ∀ options, ∃ cflag, setStopBits spp options =
      { options with cCflag := cflag } := by
    intro options
    unfold setStopBits
    repeat' split
    all_goals exact ⟨_, rfl⟩
  have flowCtl : ∀ options, ∃ cflag, setFlowCtl spp options =
      { options with cCflag := cflag } := by
    intro options
    unfold setFlowCtl
    repeat' split
    all_goals exact ⟨_, rfl⟩
  have parity : ∀ options, ∃ cflag, setParity spp options =
      { options with cCflag := cflag } := by
    intro options
    unfold setParity
    repeat' split
    all_goals exact ⟨_, rfl⟩
  obtain ⟨sized, dataBits⟩ := dataBits
  obtain ⟨stopped, stopBits⟩ := stopBits { options with cCflag := sized }
  obtain ⟨flowing, flowCtl⟩ := flowCtl { options with cCflag := stopped }
  obtain ⟨checked, parity⟩ := parity { options with cCflag := flowing }
  exact ⟨checked, by rw [dataBits, stopBits, flowCtl, parity]⟩

theorem steps_cIflag :
    (setParity spp (setFlowCtl spp (setStopBits spp (setDataBits spp options)))).cIflag =
      options.cIflag := by
  obtain ⟨cflag, steps⟩ := @steps_cCflag spp options
  rw [steps]

end Untouched

/-! ## What the steps write -/

section Written

variable {spp : SpProp} {options : Termios}

def csizeOf (dataBits : Int) : BitVec 32 :=
  if dataBits = dataBits5 then CS5
  else if dataBits = dataBits6 then CS6
  else if dataBits = dataBits7 then CS7
  else CS8

theorem setDataBits_csize
    (listed : spp.dataBits = dataBits5 ∨ spp.dataBits = dataBits6 ∨ spp.dataBits = dataBits7 ∨
      spp.dataBits = dataBits8) :
    (setDataBits spp options).cCflag &&& CSIZE = csizeOf spp.dataBits := by
  rcases listed with bits | bits | bits | bits <;> simp only [setDataBits, csizeOf, bits]
  · exact @setBits_clearBits_and _ _ CSIZE CS5 (by decide)
  · exact @setBits_clearBits_and _ _ CSIZE CS6 (by decide)
  · exact @setBits_clearBits_and _ _ CSIZE CS7 (by decide)
  · exact @setBits_clearBits_and _ _ CSIZE CS8 (by decide)

theorem setStopBits_cstopb (listed : spp.stopBits = stop1 ∨ spp.stopBits = stop2) :
    (setStopBits spp options).cCflag &&& CSTOPB = 0 := by
  rcases listed with bits | bits
  · simp only [setStopBits, bits]
    exact clearBits_and_self _ CSTOPB
  · simp only [setStopBits, bits]
    exact clearBits_and_self _ CSTOPB

/-- What the parity step makes of the size field: `INPCK` is the bit of `CS6` and
`ISTRIP` the bit of `CS7`. -/
def parityOnCsize (parity : Int) (size : BitVec 32) : BitVec 32 :=
  if parity = parityNone then size &&& ~~~INPCK
  else if parity = parityOdd ∨ parity = parityEven then CS8
  else size

theorem setParity_csize :
    (setParity spp options).cCflag &&& CSIZE =
      parityOnCsize spp.parity (options.cCflag &&& CSIZE) := by
  have marked : ∀ word : BitVec 32, setBits (setBits word INPCK) ISTRIP &&& CSIZE = CS8 := by
    intro word
    have both : setBits (setBits word INPCK) ISTRIP = setBits word CSIZE := BitVec.or_assoc ..
    rw [both]
    exact setBits_and_self word CSIZE
  have oddNotNone : parityOdd ≠ parityNone := by decide
  have evenNotNone : parityEven ≠ parityNone := by decide
  have evenNotOdd : parityEven ≠ parityOdd := by decide
  by_cases none : spp.parity = parityNone
  · simp only [setParity, parityOnCsize, none, ↓reduceIte]
    have outside : ~~~PARENB &&& (~~~INPCK &&& CSIZE) = CSIZE &&& ~~~INPCK := by decide
    rw [clearBits_and, clearBits_and, ← BitVec.and_assoc, BitVec.and_assoc, outside]
    rw [BitVec.and_assoc]
  · by_cases odd : spp.parity = parityOdd
    · simp only [setParity, parityOnCsize, odd, oddNotNone, ↓reduceIte, true_or]
      exact marked _
    · by_cases even : spp.parity = parityEven
      · simp only [setParity, parityOnCsize, even, evenNotNone, evenNotOdd, ↓reduceIte, or_true]
        exact marked _
      · simp only [setParity, parityOnCsize, none, odd, even, ↓reduceIte, or_self]
        split
        · rw [clearBits_and_of_disjoint (by decide), clearBits_and_of_disjoint (by decide)]
        · rfl

theorem setParity_cstopb (cleared : options.cCflag &&& CSTOPB = 0) :
    (setParity spp options).cCflag &&& CSTOPB = 0 := by
  simp only [setParity]
  split
  · rw [clearBits_and_of_disjoint (by decide), clearBits_and_of_disjoint (by decide), cleared]
  · split
    · rw [setBits_and_of_disjoint (by decide), setBits_and_of_disjoint (by decide),
        setBits_and_of_disjoint (by decide), setBits_and_of_disjoint (by decide), cleared]
    · split
      · rw [setBits_and_of_disjoint (by decide), setBits_and_of_disjoint (by decide),
          clearBits_and_of_disjoint (by decide), setBits_and_of_disjoint (by decide), cleared]
      · split
        · exact clearBits_and_self _ CSTOPB
        · exact cleared

theorem setParity_parityNone (requested : spp.parity = parityNone) :
    (setParity spp options).cCflag &&& PARENB = 0 := by
  simp only [setParity, requested, ↓reduceIte]
  rw [clearBits_and_of_disjoint (by decide)]
  exact clearBits_and_self _ PARENB

theorem setParity_parityOdd (requested : spp.parity = parityOdd) :
    (setParity spp options).cCflag &&& PARENB = PARENB ∧
      (setParity spp options).cCflag &&& PARODD = PARODD := by
  have oddNotNone : parityOdd ≠ parityNone := by decide
  simp only [setParity, requested, oddNotNone, ↓reduceIte]
  constructor
  · rw [setBits_and_of_disjoint (by decide), setBits_and_of_disjoint (by decide),
      setBits_and_of_disjoint (by decide), setBits_and_self]
  · rw [setBits_and_of_disjoint (by decide), setBits_and_of_disjoint (by decide), setBits_and_self]

theorem setParity_parityEven (requested : spp.parity = parityEven) :
    (setParity spp options).cCflag &&& PARENB = PARENB ∧
      (setParity spp options).cCflag &&& PARODD = 0 := by
  have evenNotNone : parityEven ≠ parityNone := by decide
  have evenNotOdd : parityEven ≠ parityOdd := by decide
  simp only [setParity, requested, evenNotNone, evenNotOdd, ↓reduceIte]
  constructor
  · rw [setBits_and_of_disjoint (by decide), setBits_and_of_disjoint (by decide),
      clearBits_and_of_disjoint (by decide), setBits_and_self]
  · rw [setBits_and_of_disjoint (by decide), setBits_and_of_disjoint (by decide)]
    exact clearBits_and_self _ PARODD

end Written

/-! ## The whole of `portOptions` -/

section Whole

variable {libc : SpeedSetters} {spp : SpProp} {options : Termios}

theorem portOptions_csize
    (listed : spp.dataBits = dataBits5 ∨ spp.dataBits = dataBits6 ∨ spp.dataBits = dataBits7 ∨
      spp.dataBits = dataBits8) :
    (portOptions libc spp options).cCflag &&& CSIZE =
      parityOnCsize spp.parity (csizeOf spp.dataBits) := by
  have sized : (setFlowCtl spp (setStopBits spp (setDataBits spp
      (setSpeed libc spp options)))).cCflag &&& CSIZE = csizeOf spp.dataBits := by
    rw [setFlowCtl_untouched (by decide) (by decide) (by decide),
      setStopBits_untouched (by decide), setDataBits_csize listed]
  rw [← sized]
  exact setParity_csize

theorem portOptions_cstopb (listed : spp.stopBits = stop1 ∨ spp.stopBits = stop2) :
    (portOptions libc spp options).cCflag &&& CSTOPB = 0 := by
  apply setParity_cstopb
  rw [setFlowCtl_untouched (by decide) (by decide) (by decide)]
  exact setStopBits_cstopb listed

/-- The requested size survives the parity step only for these pairs. -/
theorem parityOnCsize_eq_iff
    (listed : spp.dataBits = dataBits5 ∨ spp.dataBits = dataBits6 ∨ spp.dataBits = dataBits7 ∨
      spp.dataBits = dataBits8) :
    parityOnCsize spp.parity (csizeOf spp.dataBits) = csizeOf spp.dataBits ↔
      (spp.parity = parityNone → spp.dataBits ≠ dataBits6 ∧ spp.dataBits ≠ dataBits8) ∧
      (spp.parity = parityOdd ∨ spp.parity = parityEven →
        spp.dataBits ≠ dataBits5 ∧ spp.dataBits ≠ dataBits6 ∧ spp.dataBits ≠ dataBits7) := by
  by_cases none : spp.parity = parityNone
  · rw [none]
    rcases listed with bits | bits | bits | bits <;> rw [bits] <;> decide
  · by_cases marked : spp.parity = parityOdd ∨ spp.parity = parityEven
    · have size : parityOnCsize spp.parity (csizeOf spp.dataBits) = CS8 := by
        simp only [parityOnCsize, none, marked, ↓reduceIte]
      rw [size]
      rcases listed with bits | bits | bits | bits <;> rw [bits] <;>
        simp only [none, marked, false_implies, true_implies, true_and] <;> decide
    · simp only [parityOnCsize, none, marked, ↓reduceIte, false_implies, and_self]

private theorem portOptions_parity :
    (spp.parity = parityNone → (portOptions libc spp options).cCflag &&& PARENB = 0) ∧
      (spp.parity = parityOdd → (portOptions libc spp options).cCflag &&& PARENB = PARENB ∧
        (portOptions libc spp options).cCflag &&& PARODD = PARODD) ∧
      (spp.parity = parityEven → (portOptions libc spp options).cCflag &&& PARENB = PARENB ∧
        (portOptions libc spp options).cCflag &&& PARODD = 0) :=
  ⟨setParity_parityNone, setParity_parityOdd, setParity_parityEven⟩

theorem portOptions_framed_iff :
    Framed spp (portOptions libc spp options).cCflag ↔ FramingKept spp := by
  constructor
  · intro framed
    refine ⟨fun two => ?_, ?_⟩
    · have set := framed.twoStops two
      rw [portOptions_cstopb (.inr two)] at set
      exact absurd set (by decide)
    · by_cases listed : spp.dataBits = dataBits5 ∨ spp.dataBits = dataBits6 ∨
        spp.dataBits = dataBits7 ∨ spp.dataBits = dataBits8
      · refine (parityOnCsize_eq_iff listed).mp ?_
        rw [← @portOptions_csize libc spp options listed]
        rcases listed with bits | bits | bits | bits
        · rw [framed.fiveBits bits, bits, csizeOf, if_pos rfl]
        · rw [framed.sixBits bits, bits]
          rfl
        · rw [framed.sevenBits bits, bits]
          rfl
        · rw [framed.eightBits bits, bits]
          rfl
      · simp only [not_or] at listed
        exact ⟨fun _ => ⟨listed.2.1, listed.2.2.2⟩,
          fun _ => ⟨listed.1, listed.2.1, listed.2.2.1⟩⟩
  · intro framable
    obtain ⟨notTwo, sizes⟩ := framable
    have size : ∀ bits, spp.dataBits = bits →
        (bits = dataBits5 ∨ bits = dataBits6 ∨ bits = dataBits7 ∨ bits = dataBits8) →
        (portOptions libc spp options).cCflag &&& CSIZE = csizeOf bits := by
      rintro _ rfl listed
      rw [portOptions_csize listed]
      exact (parityOnCsize_eq_iff listed).mpr sizes
    obtain ⟨none, odd, even⟩ := @portOptions_parity libc spp options
    exact {
      fiveBits := fun bits => size _ bits (by decide)
      sixBits := fun bits => size _ bits (by decide)
      sevenBits := fun bits => size _ bits (by decide)
      eightBits := fun bits => size _ bits (by decide)
      twoStops := fun two => absurd two notTwo
      oneStop := fun one => portOptions_cstopb (.inl one)
      noParity := none
      oddParity := odd
      evenParity := even }

end Whole

/-! ## What the system receives -/

/-- The whole run of `set_port_params` once `tcgetattr` has answered. -/
theorem setPortParams_run {libc : SpeedSetters} {thread : Tid} {s : State} {outcome : OpenOutcome}
    {prior : Termios} (answered : outcome.tcgetattr = .ok prior) :
    (setPortParams libc outcome).run (exec thread) s =
      some (if (answer thread s.port outcome.tcsetattr).1 < 0 then -2
        else (answer thread s.port outcome.tcsetattr).1,
        { s with
          pending := []
          port := { (answer thread s.port outcome.tcsetattr).2 with
            handed := some (portOptions libc s.port.param.spp prior) } }) := by
  obtain ⟨descriptor, queued, fcntl, tcgetattr, tcsetattr, pthreadCreate⟩ := outcome
  cases answered
  simp only [setPortParams, load, perform, Prog.perform_bind, Prog.run, exec, SpParamLinux.get]
  split <;> rfl

/-- Once `tcgetattr` has answered, the termios handed to `tcsetattr` is framed as
requested exactly for the settings that `FramingKept` names. -/
theorem setPortParams_framed_iff (libc : SpeedSetters) (thread : Tid) (s : State)
    (outcome : OpenOutcome) (prior : Termios) (answered : outcome.tcgetattr = .ok prior) :
    ∃ retVal after options, (setPortParams libc outcome).run (exec thread) s = some (retVal, after) ∧
      after.port.handed = some options ∧
      (Framed s.port.param.spp options.cCflag ↔ FramingKept s.port.param.spp) :=
  ⟨_, _, _, setPortParams_run answered, rfl, portOptions_framed_iff⟩

/-! ### A port that comes out with 7 data bits -/

def State.withSettings (spp : SpProp) : State :=
  { State.start with port := { Port.start with param := { SpParamLinux.zero with spp := spp } } }

theorem setPortParams_framed_eightNone :
    ∃ retVal after options,
      (setPortParams glibc (OpenOutcome.fine 3)).run (exec (.client 0)) (.withSettings eightNone) =
        some (retVal, after) ∧
      after.port.handed = some options ∧ (Framed eightNone options.cCflag ↔ FramingKept eightNone) :=
  setPortParams_framed_iff glibc (.client 0) (.withSettings eightNone) (OpenOutcome.fine 3)
    Termios.zero rfl

/-- Accepted settings with 8 data bits and no parity leave 7 data bits in `c_cflag`. -/
theorem eightNone_not_framed :
    (SpParamsCheck.getInstance .linux).isRight eightNone = 0 ∧
      ∃ retVal after options,
        (setPortParams glibc (OpenOutcome.fine 3)).run (exec (.client 0))
          (.withSettings eightNone) = some (retVal, after) ∧
        after.port.handed = some options ∧ options.cCflag &&& CSIZE = CS7 ∧
        ¬ Framed eightNone options.cCflag := by
  have size : (portOptions glibc eightNone Termios.zero).cCflag &&& CSIZE = CS7 := by decide
  refine ⟨by decide, _, _, _, setPortParams_run rfl, rfl, size, fun framed => ?_⟩
  have eight := framed.eightBits rfl
  rw [State.withSettings, size] at eight
  exact absurd eight (by decide)

end LibSp.Linux
