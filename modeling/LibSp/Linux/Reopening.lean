import LibSp.Overlay
import LibSp.Linux.Framing
import LibSp.Linux.Session
import LibSp.Interface.Accepting

/-!
# Reopening a device

The termios of a device outlives the session that set it, and the next session starts from
what it finds. Each step of `set_port_params` lays an overlay over it; a session is free of
those before it when its overlays reach every bit that theirs have reached.
-/

set_option autoImplicit false

namespace LibSp.Linux

open Flags Concurrent

/-- What sessions with these settings, the earliest first, leave of the termios of a device. -/
def sessions (libc : SpeedSetters) (settings : List SpProp) (prior : Termios) : Termios :=
  settings.foldl (fun options spp => portOptions libc spp options) prior

/-! ## The overlays of the steps -/

def dataBitsOverlay (dataBits : Int) : Overlay (Fin 32) Bool :=
  if dataBits = dataBits5 then (raising CS5).after (lowering CSIZE)
  else if dataBits = dataBits6 then (raising CS6).after (lowering CSIZE)
  else if dataBits = dataBits7 then (raising CS7).after (lowering CSIZE)
  else if dataBits = dataBits8 then (raising CS8).after (lowering CSIZE)
  else .nothing

def stopBitsOverlay (stopBits : Int) : Overlay (Fin 32) Bool :=
  if stopBits = stop1 then lowering CSTOPB
  else if stopBits = stop1_5 then lowering CSTOPB
  else if stopBits = stop2 then lowering CSTOPB
  else .nothing

def flowCtlOverlay (flowCtl : Int) : Overlay (Fin 32) Bool :=
  if flowCtl = flowCtlNone then lowering CRTSCTS
  else if flowCtl = flowCtlHardware then raising CRTSCTS
  else if flowCtl = flowCtlSoftware then raising (IXON ||| IXOFF ||| IXANY)
  else .nothing

def parityOverlay (parity : Int) : Overlay (Fin 32) Bool :=
  if parity = parityNone then (lowering INPCK).after (lowering PARENB)
  else if parity = parityOdd then
    (raising ISTRIP).after ((raising INPCK).after ((raising PARODD).after (raising PARENB)))
  else if parity = parityEven then
    (raising ISTRIP).after ((raising INPCK).after ((lowering PARODD).after (raising PARENB)))
  else if parity = paritySpace then (lowering CSTOPB).after (lowering PARENB)
  else .nothing

def cflagOverlay (spp : SpProp) : Overlay (Fin 32) Bool :=
  (parityOverlay spp.parity).after ((flowCtlOverlay spp.flowCtl).after
    ((stopBitsOverlay spp.stopBits).after (dataBitsOverlay spp.dataBits)))

def iflagOverlay : Overlay (Fin 32) Bool := lowering (BRKINT ||| ICRNL ||| INPCK ||| ISTRIP ||| IXON)

def oflagOverlay : Overlay (Fin 32) Bool := lowering OPOST

def lflagOverlay : Overlay (Fin 32) Bool := lowering (ICANON ||| ECHO ||| ECHOE ||| ISIG)

def ccOverlay : Overlay Nat UInt8 := fun index =>
  if index = VMIN then some 1 else if index = VTIME then some 0 else none

section Steps

variable {libc : SpeedSetters} {spp : SpProp} {options : Termios}

theorem setDataBits_bits :
    bits (setDataBits spp options).cCflag =
      (dataBitsOverlay spp.dataBits).on (bits options.cCflag) := by
  unfold setDataBits dataBitsOverlay
  repeat' split
  all_goals simp only [bits_setBits, bits_clearBits, Overlay.after_on, Overlay.nothing_on]

theorem setStopBits_bits :
    bits (setStopBits spp options).cCflag =
      (stopBitsOverlay spp.stopBits).on (bits options.cCflag) := by
  unfold setStopBits stopBitsOverlay
  repeat' split
  all_goals simp only [bits_clearBits, Overlay.nothing_on]

theorem setFlowCtl_bits :
    bits (setFlowCtl spp options).cCflag =
      (flowCtlOverlay spp.flowCtl).on (bits options.cCflag) := by
  unfold setFlowCtl flowCtlOverlay
  repeat' split
  all_goals simp only [bits_setBits, bits_clearBits, Overlay.nothing_on]

theorem setParity_bits :
    bits (setParity spp options).cCflag =
      (parityOverlay spp.parity).on (bits options.cCflag) := by
  unfold setParity parityOverlay
  repeat' split
  all_goals simp only [bits_setBits, bits_clearBits, Overlay.after_on, Overlay.nothing_on]

/-! ## The overlays of the whole function -/

theorem portOptions_cflag_bits {index : Fin 32}
    (outside : (~~~(CBAUD ||| CIBAUD))[index] = true) :
    bits (portOptions libc spp options).cCflag index =
      (cflagOverlay spp).on (bits options.cCflag) index := by
  have kept : bits (setSpeed libc spp options).cCflag index = bits options.cCflag index := by
    refine and_eq_and_iff.mp ?_ index outside
    have disjoint : ~~~(CBAUD ||| CIBAUD) &&& ~~~(CBAUD ||| CIBAUD) = ~~~(CBAUD ||| CIBAUD) :=
      BitVec.and_self
    exact setSpeed_untouched libc disjoint
  have steps : bits (portOptions libc spp options).cCflag =
      (cflagOverlay spp).on (bits (setSpeed libc spp options).cCflag) := by
    simp only [portOptions, setLineMode, setParity_bits, setFlowCtl_bits, setStopBits_bits,
      setDataBits_bits, cflagOverlay, Overlay.after_on]
  rw [steps]
  exact Overlay.on_congr kept

/-- The other members that the speed setters leave alone. -/
theorem setSpeed_rest :
    (setSpeed libc spp options).cIflag &&& ~~~IBAUD0 = options.cIflag &&& ~~~IBAUD0 ∧
      (setSpeed libc spp options).cOflag = options.cOflag ∧
      (setSpeed libc spp options).cLflag = options.cLflag ∧
      (setSpeed libc spp options).cCc = options.cCc := by
  have input := libc.ispeedOnly options (BitVec.ofInt 32 spp.baudRate)
  have output := libc.ospeedOnly (libc.cfsetispeed options (BitVec.ofInt 32 spp.baudRate)).1
    (BitVec.ofInt 32 spp.baudRate)
  exact ⟨output.iflag.trans input.iflag, output.oflag.trans input.oflag,
    output.lflag.trans input.lflag, output.cc.trans input.cc⟩

theorem portOptions_line :
    portOptions libc spp options = setLineMode
      { setSpeed libc spp options with cCflag := (portOptions libc spp options).cCflag } := by
  obtain ⟨cflag, steps⟩ := @steps_cCflag spp (setSpeed libc spp options)
  simp only [portOptions, steps, setLineMode]

theorem portOptions_iflag_bits {index : Fin 32} (outside : (~~~IBAUD0)[index] = true) :
    bits (portOptions libc spp options).cIflag index =
      iflagOverlay.on (bits options.cIflag) index := by
  have kept : bits (setSpeed libc spp options).cIflag index = bits options.cIflag index :=
    and_eq_and_iff.mp setSpeed_rest.1 index outside
  rw [portOptions_line, setLineMode, bits_clearBits]
  exact Overlay.on_congr kept

theorem portOptions_oflag_bits :
    bits (portOptions libc spp options).cOflag = oflagOverlay.on (bits options.cOflag) := by
  rw [portOptions_line, setLineMode, bits_clearBits, setSpeed_rest.2.1, oflagOverlay]

theorem portOptions_lflag_bits :
    bits (portOptions libc spp options).cLflag = lflagOverlay.on (bits options.cLflag) := by
  rw [portOptions_line, setLineMode, bits_clearBits, setSpeed_rest.2.2.1, lflagOverlay]

theorem portOptions_cc :
    (portOptions libc spp options).cCc = ccOverlay.on options.cCc := by
  have line : (portOptions libc spp options).cCc = fun index =>
      if index = VMIN then 1 else if index = VTIME then 0 else options.cCc index := by
    rw [portOptions_line, setLineMode, setSpeed_rest.2.2.2]
  rw [line]
  funext index
  unfold Overlay.on ccOverlay
  repeat' split
  all_goals rfl

end Steps

/-! ## Which bits a session reaches -/

def flowCtlMask (flowCtl : Int) : BitVec 32 :=
  if flowCtl = flowCtlSoftware then IXON ||| IXOFF ||| IXANY else CRTSCTS

def parityMask (parity : Int) : BitVec 32 :=
  if parity = parityNone then PARENB ||| INPCK
  else if parity = paritySpace then PARENB ||| CSTOPB
  else PARENB ||| PARODD ||| INPCK ||| ISTRIP

/-- The bits of `c_cflag` that a session with such settings writes. -/
def reached (flowCtl parity : Int) : BitVec 32 :=
  parityMask parity ||| (flowCtlMask flowCtl ||| (CSTOPB ||| CSIZE))

theorem cflagOverlay_eq_none {spp : SpProp} (valid : Valid .linux spp) {index : Fin 32} :
    cflagOverlay spp index = none ↔ (reached spp.flowCtl spp.parity)[index] = false := by
  have size : dataBitsOverlay spp.dataBits index = none ↔ CSIZE[index] = false := by
    have reaches : ∀ bits ∈ dataBitsValues, ∀ index : Fin 32,
        dataBitsOverlay bits index = none ↔ CSIZE[index] = false := by decide
    exact reaches _ valid.dataBits index
  have stop : stopBitsOverlay spp.stopBits index = none ↔ CSTOPB[index] = false := by
    have reaches : ∀ bits ∈ stopBitsValues, ∀ index : Fin 32,
        stopBitsOverlay bits index = none ↔ CSTOPB[index] = false := by decide
    exact reaches _ valid.stopBits index
  have flow : flowCtlOverlay spp.flowCtl index = none ↔
      (flowCtlMask spp.flowCtl)[index] = false := by
    have reaches : ∀ flow ∈ flowControls, ∀ index : Fin 32,
        flowCtlOverlay flow index = none ↔ (flowCtlMask flow)[index] = false := by decide
    exact reaches _ valid.flowCtl index
  have parity : parityOverlay spp.parity index = none ↔
      (parityMask spp.parity)[index] = false := by
    have reaches : ∀ parity ∈ parities .linux, ∀ index : Fin 32,
        parityOverlay parity index = none ↔ (parityMask parity)[index] = false := by decide
    exact reaches _ valid.parity index
  simp only [cflagOverlay, Overlay.after_eq_none, size, stop, flow, parity, reached,
    Fin.getElem_fin, BitVec.getElem_or, Bool.or_eq_false_iff]

/-- Odd or even. -/
def ChecksParity (spp : SpProp) : Prop := spp.parity = parityOdd ∨ spp.parity = parityEven

instance (spp : SpProp) : Decidable (ChecksParity spp) := inferInstanceAs (Decidable (_ ∨ _))

/-- Nothing of the former session stays: it has the same kind of flow control, and it wrote
`PARODD` only if this one does. -/
structure Hidden (former spp : SpProp) : Prop where
  flowCtl : former.flowCtl = flowCtlSoftware ↔ spp.flowCtl = flowCtlSoftware
  parity : ChecksParity former → ChecksParity spp

private theorem masks_hidden_iff :
    ∀ flow ∈ flowControls, ∀ parity ∈ parities .linux,
      ∀ formerFlow ∈ flowControls, ∀ formerParity ∈ parities .linux,
        ((∀ index : Fin 32, (~~~(CBAUD ||| CIBAUD))[index] = true →
          (reached flow parity)[index] = false →
          (reached formerFlow formerParity)[index] = false) ↔
        (formerFlow = flowCtlSoftware ↔ flow = flowCtlSoftware) ∧
          (formerParity = parityOdd ∨ formerParity = parityEven →
            parity = parityOdd ∨ parity = parityEven)) := by
  decide +kernel

theorem overlays_hidden_iff {former spp : SpProp} (validFormer : Valid .linux former)
    (valid : Valid .linux spp) :
    (∀ index : Fin 32, (~~~(CBAUD ||| CIBAUD))[index] = true →
      cflagOverlay spp index = none → cflagOverlay former index = none) ↔ Hidden former spp := by
  have masks := masks_hidden_iff _ valid.flowCtl _ valid.parity _ validFormer.flowCtl _
    validFormer.parity
  simp only [cflagOverlay_eq_none validFormer, cflagOverlay_eq_none valid]
  constructor
  · intro covered
    obtain ⟨flowCtl, parity⟩ := masks.mp covered
    exact ⟨flowCtl, parity⟩
  · intro hidden
    exact masks.mpr ⟨hidden.flowCtl, hidden.parity⟩

theorem cCflag_surjective : Function.Surjective fun options : Termios => bits options.cCflag := by
  intro valuation
  obtain ⟨word, rfl⟩ := bits_surjective valuation
  exact ⟨{ Termios.zero with cCflag := word }, rfl⟩

section Sessions

variable {libc : SpeedSetters} {former : List SpProp} {spp : SpProp} {prior : Termios}

/-- A part of the termios that every session writes alike. -/
theorem sessions_alike {Index Value : Type} (view : Termios → Index → Value)
    (same : Overlay Index Value) (seen : Index → Prop) {index : Index} (visible : seen index)
    (lays : ∀ (spp : SpProp) (options : Termios) (index : Index), seen index →
      view (portOptions libc spp options) index = same.on (view options) index) :
    view (portOptions libc spp (sessions libc former prior)) index =
      view (portOptions libc spp prior) index :=
  Overlay.forgets_of_alike lays former spp prior visible

theorem sessions_iflag :
    (portOptions libc spp (sessions libc former prior)).cIflag &&& ~~~IBAUD0 =
      (portOptions libc spp prior).cIflag &&& ~~~IBAUD0 := by
  apply and_eq_and_iff.mpr
  intro index outside
  exact sessions_alike (fun options => bits options.cIflag) iflagOverlay _ outside
    fun _ _ _ => portOptions_iflag_bits

theorem sessions_oflag :
    (portOptions libc spp (sessions libc former prior)).cOflag =
      (portOptions libc spp prior).cOflag := by
  apply bits_injective
  funext index
  exact sessions_alike (fun options => bits options.cOflag) oflagOverlay (fun _ => True) trivial
    fun _ _ index _ => congrFun portOptions_oflag_bits index

theorem sessions_lflag :
    (portOptions libc spp (sessions libc former prior)).cLflag =
      (portOptions libc spp prior).cLflag := by
  apply bits_injective
  funext index
  exact sessions_alike (fun options => bits options.cLflag) lflagOverlay (fun _ => True) trivial
    fun _ _ index _ => congrFun portOptions_lflag_bits index

theorem sessions_cc :
    (portOptions libc spp (sessions libc former prior)).cCc = (portOptions libc spp prior).cCc := by
  funext index
  exact sessions_alike (fun options => options.cCc) ccOverlay (fun _ => True) trivial
    fun _ _ index _ => congrFun portOptions_cc index

theorem sessions_cflag_iff (valid : ∀ settings ∈ spp :: former, Valid .linux settings) :
    (∀ prior (index : Fin 32), (~~~(CBAUD ||| CIBAUD))[index] = true →
      bits (portOptions libc spp (sessions libc former prior)).cCflag index =
        bits (portOptions libc spp prior).cCflag index) ↔
      ∀ settings ∈ former, Hidden settings spp := by
  have lays : ∀ (spp : SpProp) (options : Termios) (index : Fin 32),
      (~~~(CBAUD ||| CIBAUD))[index] = true →
      bits (portOptions libc spp options).cCflag index =
        (cflagOverlay spp).on (bits options.cCflag) index := fun _ _ _ => portOptions_cflag_bits
  refine (Overlay.forgets_iff cCflag_surjective lays former spp).trans ?_
  exact forall₂_congr fun settings member =>
    overlays_hidden_iff (valid settings (List.mem_cons_of_mem _ member))
      (valid spp List.mem_cons_self)

end Sessions

/-- A session finds nothing of those before it, whatever the device held at first, exactly
when each of them used the same kind of flow control, software or not, and one that checked
an odd or even parity is followed by one that does. The speeds are left out. -/
theorem sessions_forgotten_iff (libc : SpeedSetters) (former : List SpProp) (spp : SpProp)
    (valid : ∀ settings ∈ spp :: former, Valid .linux settings) :
    (∀ prior, SpeedOnly (portOptions libc spp prior)
      (portOptions libc spp (sessions libc former prior))) ↔
    ∀ settings ∈ former, Hidden settings spp := by
  rw [← @sessions_cflag_iff libc former spp valid]
  constructor
  · intro forgotten prior
    exact and_eq_and_iff.mp (forgotten prior).cflag
  · intro same prior
    exact {
      iflag := sessions_iflag
      oflag := sessions_oflag
      cflag := and_eq_and_iff.mpr (same prior)
      lflag := sessions_lflag
      cc := sessions_cc }

/-- The settings of `eightNone` with another flow control and parity. -/
def eightWith (flowCtl parity : Int) : SpProp := { eightNone with flowCtl, parity }

/-- Without parity and flow control a session hides one with hardware flow control, and not
one with software flow control before it. -/
theorem sessions_forgotten_software :
    (∀ prior, SpeedOnly (portOptions glibc eightNone prior) (portOptions glibc eightNone
      (sessions glibc [eightWith flowCtlHardware paritySpace] prior))) ∧
    ¬ ∀ prior, SpeedOnly (portOptions glibc eightNone prior) (portOptions glibc eightNone
      (sessions glibc [eightWith flowCtlSoftware parityNone, eightWith flowCtlHardware paritySpace]
        prior)) := by
  have plain : Valid .linux eightNone :=
    ⟨by decide, by decide, by decide, by decide, by decide, by decide⟩
  have hardware : Valid .linux (eightWith flowCtlHardware paritySpace) :=
    { plain with flowCtl := by decide, parity := by decide }
  have software : Valid .linux (eightWith flowCtlSoftware parityNone) :=
    { plain with flowCtl := by decide, parity := by decide }
  constructor
  · refine (sessions_forgotten_iff glibc _ eightNone ?_).mpr ?_
    · exact List.forall_mem_cons.mpr ⟨plain, List.forall_mem_singleton.mpr hardware⟩
    · exact List.forall_mem_singleton.mpr ⟨by decide, by decide⟩
  · intro forgotten
    have hidden := (sessions_forgotten_iff glibc _ eightNone (List.forall_mem_cons.mpr
      ⟨plain, List.forall_mem_cons.mpr ⟨software, List.forall_mem_singleton.mpr hardware⟩⟩)).mp
      forgotten
    exact absurd ((hidden _ List.mem_cons_self).flowCtl.mp rfl) (by decide)

/-! ## The sessions of a run -/

/-- By the record, the settings of the sessions before the latest one. -/
def formerSessions : List (Operation × Value) → List SpProp
  | [] => []
  | (.open _, value) :: earlier =>
      if value = .code 0 then
        match openedOn earlier with
        | some _ => formerSessions earlier ++ [openedWith earlier]
        | none => []
      else formerSessions earlier
  | _ :: earlier => formerSessions earlier

/-- By the record, what the latest session handed to a device that held `first` before. -/
def handedOver (libc : SpeedSetters) (first : Termios) (history : List (Operation × Value)) :
    Termios :=
  match openedOn history with
  | some prior => portOptions libc (openedWith history) prior
  | none => first

/-- Every session found what the one before it had handed over, the first one found `first`. -/
def Lasting (libc : SpeedSetters) (first : Termios) : List (Operation × Value) → Prop
  | [] => True
  | (.open outcome, value) :: earlier =>
      (value = .code 0 → outcome.tcgetattr = .ok (handedOver libc first earlier)) ∧
        Lasting libc first earlier
  | _ :: earlier => Lasting libc first earlier

section Lasting

variable {libc : SpeedSetters} {first prior : Termios} {history : List (Operation × Value)}

/-- The latest session found what `sessions` says of those before it. -/
theorem Lasting.openedOn_eq (lasting : Lasting libc first history)
    (some : openedOn history = some prior) :
    prior = sessions libc (formerSessions history) first := by
  induction history generalizing prior with
  | nil => cases some
  | cons entry earlier ih =>
      obtain ⟨operation, value⟩ := entry
      cases operation with
      | «open» outcome =>
          obtain ⟨found, lasting⟩ := lasting
          by_cases zero : value = .code 0
          · rw [openedOn, if_pos zero, found zero] at some
            cases some
            rw [formerSessions, if_pos zero, handedOver]
            cases before : openedOn earlier with
            | none => rfl
            | some earliest =>
                rw [ih lasting before]
                simp only [sessions, List.foldl_append, List.foldl_cons, List.foldl_nil]
          · rw [openedOn, if_neg zero] at some
            rw [formerSessions, if_neg zero]
            exact ih lasting some
      | _ => exact ih lasting some

end Lasting

/-- In a run with one client and a device that keeps its termios: an open port has handed over
what its settings make of what the sessions before it have left. -/
theorem handed_sessions (libc : SpeedSetters)
    (config : Config Tid State Effect Effect.Reply Job Result)
    (reachable : (system libc).Reachable oneClient config) (last : Option Result)
    (idle : config.idle? (.client 0) = some last)
    (isOpened : config.state.port.param.isOpened = true) (first : Termios)
    (lasting : Lasting libc first config.state.port.history) :
    config.state.port.handed = some (portOptions libc (openedWith config.state.port.history)
      (sessions libc (formerSessions config.state.port.history) first)) := by
  have recorded := recorded_of_reachable oneClient_assumes reachable idle
  obtain ⟨prior, found, handed⟩ := recorded.handed (recorded.isOpened.symm.trans isOpened)
  rw [handed, lasting.openedOn_eq found]

end LibSp.Linux
