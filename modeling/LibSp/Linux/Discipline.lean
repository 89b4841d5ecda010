import LibSp.Linux.Framing

/-!
# Line discipline of a Linux port

What the terminal driver does to the bytes of the line and of the program under a
termios: the bits of `c_iflag`, `c_oflag` and `c_lflag` that drop, map, mark, echo
or hold a byte. `set_port_params` clears some of them from the termios it found;
the port passes every byte exactly when the others were clear before.
-/

set_option autoImplicit false

namespace LibSp.Linux

open Flags

/-! ## Further bits of the Linux headers -/

def PARMRK : BitVec 32 := 0o10
def INLCR : BitVec 32 := 0o100
def IGNCR : BitVec 32 := 0o200
def IUCLC : BitVec 32 := 0o1000
def ECHONL : BitVec 32 := 0o100
def IEXTEN : BitVec 32 := 0o100000
def VINTR : Nat := 0
def VQUIT : Nat := 1
def VSTART : Nat := 8
def VSTOP : Nat := 9
def VSUSP : Nat := 10

def Termios.input (options : Termios) (flag : BitVec 32) : Bool :=
  options.cIflag &&& flag ≠ 0

def Termios.output (options : Termios) (flag : BitVec 32) : Bool :=
  options.cOflag &&& flag ≠ 0

def Termios.localMode (options : Termios) (flag : BitVec 32) : Bool :=
  options.cLflag &&& flag ≠ 0

/-! ## The discipline -/

/-- The modes whose detail is left open: line editing, the echo of a byte and the
processing of output. -/
structure LineModes where
  edited : Termios → List UInt8 → List UInt8
  echoed : Termios → UInt8 → List UInt8
  processed : Termios → List UInt8 → List UInt8

/-- A character of `c_cc`; 0 (`_POSIX_VDISABLE`) switches it off. -/
def controlCharacter (options : Termios) (index : Nat) : List UInt8 :=
  if options.cCc index = 0 then [] else [options.cCc index]

def stripped (options : Termios) (byte : UInt8) : UInt8 :=
  if options.input ISTRIP then byte &&& 0x7f else byte

/-- `tolower` of the driver, on Latin-1. -/
def lowerCase (byte : UInt8) : UInt8 :=
  if (65 ≤ byte ∧ byte ≤ 90) ∨ (192 ≤ byte ∧ byte ≤ 222 ∧ byte ≠ 215) then byte + 32 else byte

/-- `IUCLC` has an effect only under `IEXTEN`. -/
def lowered (options : Termios) (byte : UInt8) : UInt8 :=
  if options.input IUCLC && options.localMode IEXTEN then lowerCase byte else byte

def startsOrStops (options : Termios) (byte : UInt8) : Bool :=
  options.input IXON &&
    decide (byte ∈ controlCharacter options VSTART ++ controlCharacter options VSTOP)

def signals (options : Termios) (byte : UInt8) : Bool :=
  options.localMode ISIG &&
    decide (byte ∈ controlCharacter options VINTR ++ controlCharacter options VQUIT ++
      controlCharacter options VSUSP)

/-- Carriage return (13) and newline (10). -/
def newlines (options : Termios) (byte : UInt8) : Option UInt8 :=
  if byte = 13 then
    if options.input IGNCR then none
    else if options.input ICRNL then some 10
    else some byte
  else if byte = 10 ∧ options.input INLCR then some 13
  else some byte

/-- Under `PARMRK` a received 0xFF is doubled, to tell it from the mark of an error. -/
def marked (options : Termios) (byte : UInt8) : List UInt8 :=
  if byte = 0xff ∧ options.input PARMRK then [0xff, byte] else [byte]

/-- What a byte of the line, received without error, adds to the input queue. -/
def queued (options : Termios) (byte : UInt8) : List UInt8 :=
  let byte := lowered options (stripped options byte)
  if startsOrStops options byte then []
  else if signals options byte then []
  else
    match newlines options byte with
    | none => []
    | some byte => marked options byte

/-- What happens at a port, in order; under `IXOFF` the driver stops the peer before
its queue is full and restarts it after. -/
inductive LineEvent where
  | received (byte : UInt8)
  | written (data : List UInt8)
  | nearlyFull
  | drained

def LineEvent.queues (options : Termios) : LineEvent → List UInt8
  | .received byte => queued options byte
  | .written _ => []
  | .nearlyFull => []
  | .drained => []

def LineEvent.sends (modes : LineModes) (options : Termios) : LineEvent → List UInt8
  | .received byte =>
    if options.localMode ECHO || (options.localMode ICANON && options.localMode ECHONL) then
      modes.echoed options byte
    else []
  | .written data => if options.output OPOST then modes.processed options data else data
  | .nearlyFull => if options.input IXOFF then controlCharacter options VSTOP else []
  | .drained => if options.input IXOFF then controlCharacter options VSTART else []

/-- The bytes that `read` returns, in all. -/
def delivered (modes : LineModes) (options : Termios) (events : List LineEvent) : List UInt8 :=
  let queue := events.flatMap (LineEvent.queues options)
  if options.localMode ICANON then modes.edited options queue else queue

/-- The bytes sent on the line. -/
def transmitted (modes : LineModes) (options : Termios) (events : List LineEvent) : List UInt8 :=
  events.flatMap (LineEvent.sends modes options)

def LineEvent.bytesReceived : LineEvent → List UInt8
  | .received byte => [byte]
  | .written _ => []
  | .nearlyFull => []
  | .drained => []

def LineEvent.bytesWritten : LineEvent → List UInt8
  | .received _ => []
  | .written data => data
  | .nearlyFull => []
  | .drained => []

/-- Whatever happens, the program reads what the line carried and the line carries
what the program wrote. -/
def Transparent (modes : LineModes) (options : Termios) : Prop :=
  ∀ events, delivered modes options events = events.flatMap LineEvent.bytesReceived ∧
    transmitted modes options events = events.flatMap LineEvent.bytesWritten

/-! ## A discipline with the cleared bits clear -/

/-- The bits that `set_port_params` clears. -/
structure Raw (options : Termios) : Prop where
  istrip : options.input ISTRIP = false
  icrnl : options.input ICRNL = false
  ixon : options.input IXON = false
  opost : options.output OPOST = false
  icanon : options.localMode ICANON = false
  echo : options.localMode ECHO = false
  isig : options.localMode ISIG = false

/-- The bits that it leaves alone. -/
structure Untouching (options : Termios) : Prop where
  igncr : options.input IGNCR = false
  inlcr : options.input INLCR = false
  parmrk : options.input PARMRK = false
  iuclc : options.input IUCLC = true → options.localMode IEXTEN = false
  ixoff : options.input IXOFF = true → options.cCc VSTOP = 0 ∧ options.cCc VSTART = 0

section Raw

variable {modes : LineModes} {options : Termios}

theorem Raw.queued (raw : Raw options) (byte : UInt8) :
    queued options byte =
      match newlines options (lowered options byte) with
      | none => []
      | some byte => marked options byte := by
  simp only [Linux.queued, stripped, startsOrStops, signals, raw.istrip, raw.ixon, raw.isig,
    Bool.false_and, Bool.false_eq_true, ↓reduceIte]

theorem Untouching.lowered (untouching : Untouching options) (byte : UInt8) :
    lowered options byte = byte := by
  unfold Linux.lowered
  cases mapped : options.input IUCLC with
  | false => rfl
  | true => rw [untouching.iuclc mapped, Bool.and_false, if_neg Bool.false_ne_true]

theorem Untouching.newlines (raw : Raw options) (untouching : Untouching options) (byte : UInt8) :
    newlines options byte = some byte := by
  simp only [Linux.newlines, untouching.igncr, untouching.inlcr, raw.icrnl, Bool.false_eq_true,
    and_false, ↓reduceIte, ite_self]

theorem Untouching.queued (raw : Raw options) (untouching : Untouching options) (byte : UInt8) :
    queued options byte = [byte] := by
  rw [raw.queued, untouching.lowered, untouching.newlines raw]
  simp only [marked, untouching.parmrk, Bool.false_eq_true, and_false, ↓reduceIte]

theorem Untouching.queues (raw : Raw options) (untouching : Untouching options)
    (event : LineEvent) : event.queues options = event.bytesReceived := by
  cases event with
  | received byte => exact untouching.queued raw byte
  | written _ => rfl
  | nearlyFull => rfl
  | drained => rfl

theorem Untouching.sends (raw : Raw options) (untouching : Untouching options)
    (event : LineEvent) : event.sends modes options = event.bytesWritten := by
  have silent : ∀ index, (options.input IXOFF = true → options.cCc index = 0) →
      (if options.input IXOFF then controlCharacter options index else []) = [] := by
    intro index off
    cases flow : options.input IXOFF with
    | false => rfl
    | true => simp only [controlCharacter, off flow, ↓reduceIte]
  cases event with
  | received byte =>
    simp only [LineEvent.sends, raw.echo, raw.icanon, Bool.false_and, Bool.or_false,
      Bool.false_eq_true, ↓reduceIte]
    rfl
  | written data =>
    simp only [LineEvent.sends, raw.opost, Bool.false_eq_true, ↓reduceIte]
    rfl
  | nearlyFull => exact silent VSTOP fun flow => (untouching.ixoff flow).1
  | drained => exact silent VSTART fun flow => (untouching.ixoff flow).2

theorem Untouching.transparent (raw : Raw options) (untouching : Untouching options) :
    Transparent modes options := by
  intro events
  have queues : LineEvent.queues options = LineEvent.bytesReceived :=
    funext (untouching.queues raw)
  have sends : LineEvent.sends modes options = LineEvent.bytesWritten :=
    funext (untouching.sends raw)
  constructor
  · simp only [delivered, raw.icanon, queues, Bool.false_eq_true, ↓reduceIte]
  · rw [transmitted, sends]

theorem lowered_of_lowerCase {byte : UInt8} (same : lowerCase byte = byte) :
    lowered options byte = byte := by
  rw [Linux.lowered, same, ite_self]

/-- Each bit that is set shows on a byte of its own. -/
theorem Raw.untouching (raw : Raw options) (transparent : Transparent modes options) :
    Untouching options := by
  have passes : ∀ byte, Linux.queued options byte = [byte] := by
    intro byte
    have single := (transparent [.received byte]).1
    simpa [delivered, raw.icanon, LineEvent.queues, LineEvent.bytesReceived] using single
  have quiet : ∀ event : LineEvent, event.sends modes options = event.bytesWritten := by
    intro event
    have single := (transparent [event]).2
    simpa [transmitted] using single
  have silent : ∀ index, controlCharacter options index = [] → options.cCc index = 0 := by
    intro index empty
    apply Decidable.byContradiction
    intro char
    rw [controlCharacter, if_neg char] at empty
    exact List.cons_ne_nil _ _ empty
  have igncr : options.input IGNCR = false := by
    apply Bool.eq_false_iff.mpr
    intro drops
    have byte := passes 13
    rw [raw.queued, lowered_of_lowerCase (by decide), newlines, if_pos rfl, if_pos drops] at byte
    cases byte
  have inlcr : options.input INLCR = false := by
    apply Bool.eq_false_iff.mpr
    intro maps
    have byte := passes 10
    rw [raw.queued, lowered_of_lowerCase (by decide), newlines, if_neg (by decide),
      if_pos ⟨rfl, maps⟩] at byte
    simp [marked] at byte
  have parmrk : options.input PARMRK = false := by
    apply Bool.eq_false_iff.mpr
    intro marks
    have byte := passes 0xff
    rw [raw.queued, lowered_of_lowerCase (by decide), newlines, if_neg (by decide),
      if_neg (fun newline => absurd newline.1 (by decide))] at byte
    simp [marked, marks] at byte
  have iuclc : options.input IUCLC = true → options.localMode IEXTEN = false := by
    intro maps
    apply Bool.eq_false_iff.mpr
    intro extended
    have byte := passes 65
    have letter : lowered options 65 = 97 := by
      rw [Linux.lowered, maps, extended]
      rfl
    rw [raw.queued, letter, newlines, if_neg (by decide),
      if_neg (fun newline => absurd newline.1 (by decide))] at byte
    simp [marked] at byte
  have ixoff : options.input IXOFF = true →
      options.cCc VSTOP = 0 ∧ options.cCc VSTART = 0 := by
    intro flow
    have stop := quiet .nearlyFull
    have start := quiet .drained
    simp only [LineEvent.sends, flow, ↓reduceIte] at stop start
    exact ⟨silent VSTOP stop, silent VSTART start⟩
  exact { igncr, inlcr, parmrk, iuclc, ixoff }

theorem Raw.transparent_iff (raw : Raw options) :
    Transparent modes options ↔ Untouching options :=
  ⟨raw.untouching, fun untouching => untouching.transparent raw⟩

end Raw

/-! ## The termios that `set_port_params` hands over -/

section Handed

variable {libc : SpeedSetters} {spp : SpProp} {prior : Termios}

def clearedInput : BitVec 32 := BRKINT ||| ICRNL ||| INPCK ||| ISTRIP ||| IXON

def clearedLocal : BitVec 32 := ICANON ||| ECHO ||| ECHOE ||| ISIG

theorem portOptions_input_cleared {flag : BitVec 32} (inside : ~~~clearedInput &&& flag = 0) :
    (portOptions libc spp prior).input flag = false := by
  have cleared : (portOptions libc spp prior).cIflag &&& flag = 0 := by
    rw [portOptions, setLineMode, ← clearedInput, clearBits_and, inside]
    simp
  simp [Termios.input, cleared]

theorem portOptions_input_kept {flag : BitVec 32} (outside : ~~~clearedInput &&& flag = flag)
    (notSpeed : ~~~IBAUD0 &&& flag = flag) :
    (portOptions libc spp prior).input flag = prior.input flag := by
  have kept : (portOptions libc spp prior).cIflag &&& flag = prior.cIflag &&& flag := by
    have input := (libc.ispeedOnly prior (BitVec.ofInt 32 spp.baudRate)).iflag
    have output := (libc.ospeedOnly (libc.cfsetispeed prior (BitVec.ofInt 32 spp.baudRate)).1
      (BitVec.ofInt 32 spp.baudRate)).iflag
    rw [portOptions, setLineMode, ← clearedInput, steps_cIflag,
      clearBits_and_of_disjoint outside]
    exact and_eq_of_agree (output.trans input) notSpeed
  rw [Termios.input, kept, Termios.input]

theorem portOptions_localMode_cleared {flag : BitVec 32} (inside : ~~~clearedLocal &&& flag = 0) :
    (portOptions libc spp prior).localMode flag = false := by
  have cleared : (portOptions libc spp prior).cLflag &&& flag = 0 := by
    rw [portOptions, setLineMode, ← clearedLocal, clearBits_and, inside]
    simp
  simp [Termios.localMode, cleared]

/-- The steps before the line mode keep the local modes and the control characters. -/
theorem beforeLineMode_kept :
    (setParity spp (setFlowCtl spp (setStopBits spp (setDataBits spp
      (setSpeed libc spp prior))))).cLflag = prior.cLflag ∧
    (setParity spp (setFlowCtl spp (setStopBits spp (setDataBits spp
      (setSpeed libc spp prior))))).cCc = prior.cCc := by
  have input := libc.ispeedOnly prior (BitVec.ofInt 32 spp.baudRate)
  have output := libc.ospeedOnly (libc.cfsetispeed prior (BitVec.ofInt 32 spp.baudRate)).1
    (BitVec.ofInt 32 spp.baudRate)
  obtain ⟨cflag, steps⟩ := @steps_cCflag spp (setSpeed libc spp prior)
  rw [steps]
  exact ⟨output.lflag.trans input.lflag, output.cc.trans input.cc⟩

theorem portOptions_localMode_kept {flag : BitVec 32} (outside : ~~~clearedLocal &&& flag = flag) :
    (portOptions libc spp prior).localMode flag = prior.localMode flag := by
  have kept : (portOptions libc spp prior).cLflag &&& flag = prior.cLflag &&& flag := by
    rw [portOptions, setLineMode, ← clearedLocal, beforeLineMode_kept.1,
      clearBits_and_of_disjoint outside]
  rw [Termios.localMode, kept, Termios.localMode]

theorem portOptions_cCc_kept {index : Nat} (notMin : index ≠ VMIN) (notTime : index ≠ VTIME) :
    (portOptions libc spp prior).cCc index = prior.cCc index := by
  simp only [portOptions, setLineMode, beforeLineMode_kept.2, notMin, notTime, ↓reduceIte]

theorem portOptions_raw : Raw (portOptions libc spp prior) where
  istrip := portOptions_input_cleared (by decide)
  icrnl := portOptions_input_cleared (by decide)
  ixon := portOptions_input_cleared (by decide)
  opost := by
    have cleared : (portOptions libc spp prior).cOflag &&& OPOST = 0 := clearBits_and_self _ OPOST
    simp [Termios.output, cleared]
  icanon := portOptions_localMode_cleared (by decide)
  echo := portOptions_localMode_cleared (by decide)
  isig := portOptions_localMode_cleared (by decide)

theorem portOptions_untouching_iff :
    Untouching (portOptions libc spp prior) ↔ Untouching prior := by
  have igncr := @portOptions_input_kept libc spp prior IGNCR (by decide) (by decide)
  have inlcr := @portOptions_input_kept libc spp prior INLCR (by decide) (by decide)
  have parmrk := @portOptions_input_kept libc spp prior PARMRK (by decide) (by decide)
  have iuclc := @portOptions_input_kept libc spp prior IUCLC (by decide) (by decide)
  have ixoff := @portOptions_input_kept libc spp prior IXOFF (by decide) (by decide)
  have iexten := @portOptions_localMode_kept libc spp prior IEXTEN (by decide)
  have stop := @portOptions_cCc_kept libc spp prior VSTOP (by decide) (by decide)
  have start := @portOptions_cCc_kept libc spp prior VSTART (by decide) (by decide)
  constructor
  · intro untouching
    exact {
      igncr := igncr ▸ untouching.igncr
      inlcr := inlcr ▸ untouching.inlcr
      parmrk := parmrk ▸ untouching.parmrk
      iuclc := iuclc ▸ iexten ▸ untouching.iuclc
      ixoff := ixoff ▸ stop ▸ start ▸ untouching.ixoff }
  · intro untouching
    exact {
      igncr := igncr.trans untouching.igncr
      inlcr := inlcr.trans untouching.inlcr
      parmrk := parmrk.trans untouching.parmrk
      iuclc := fun maps => iexten.trans (untouching.iuclc (iuclc ▸ maps))
      ixoff := fun flow => by
        rw [stop, start]
        exact untouching.ixoff (ixoff ▸ flow) }

end Handed

/-- For all settings and whatever termios the port had, the one handed to `tcsetattr`
passes every byte exactly when the bits that are not cleared were clear before. `EXTPROC`,
under which the line discipline leaves its processing to the device, is taken to be clear. -/
theorem portOptions_transparent_iff (modes : LineModes) (libc : SpeedSetters) (spp : SpProp)
    (prior : Termios) :
    Transparent modes (portOptions libc spp prior) ↔ Untouching prior :=
  portOptions_raw.transparent_iff.trans portOptions_untouching_iff

/-- A port left with `IGNCR`: a received carriage return is never delivered. -/
theorem portOptions_drops_return :
    (SpParamsCheck.getInstance .linux).isRight eightNone = 0 ∧
      eightNone.flowCtl ≠ flowCtlSoftware ∧
      ∀ modes, delivered modes (portOptions glibc eightNone { Termios.zero with cIflag := IGNCR })
          [.received 13] = [] ∧
        ¬ Transparent modes (portOptions glibc eightNone { Termios.zero with cIflag := IGNCR }) := by
  have dropped : ∀ modes, delivered modes
      (portOptions glibc eightNone { Termios.zero with cIflag := IGNCR }) [.received 13] = [] := by
    intro modes
    rw [delivered, portOptions_raw.icanon, if_neg Bool.false_ne_true]
    decide
  refine ⟨by decide, by decide, fun modes => ⟨dropped modes, fun transparent => ?_⟩⟩
  have passed := (transparent [.received 13]).1
  rw [dropped modes] at passed
  exact absurd passed (by decide)

end LibSp.Linux
