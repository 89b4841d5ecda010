import LibSp.Interface
import LibSp.Flags

/-!
# Terminal settings of a Linux port

The part of `set_port_params` between `tcgetattr` and `tcsetattr`, on the termios
bits of Linux.
-/

set_option autoImplicit false

namespace LibSp.Linux

open Flags

/-! ## Bits of the Linux headers -/

def CSIZE : BitVec 32 := 0o60
def CS5 : BitVec 32 := 0o0
def CS6 : BitVec 32 := 0o20
def CS7 : BitVec 32 := 0o40
def CS8 : BitVec 32 := 0o60
def CSTOPB : BitVec 32 := 0o100
def PARENB : BitVec 32 := 0o400
def PARODD : BitVec 32 := 0o1000
def CBAUD : BitVec 32 := 0o10017
def CBAUDEX : BitVec 32 := 0o10000
def CIBAUD : BitVec 32 := 0o2003600000
def CRTSCTS : BitVec 32 := 0o20000000000
def BRKINT : BitVec 32 := 0o2
def INPCK : BitVec 32 := 0o20
def ISTRIP : BitVec 32 := 0o40
def ICRNL : BitVec 32 := 0o400
def IXON : BitVec 32 := 0o2000
def IXANY : BitVec 32 := 0o4000
def IXOFF : BitVec 32 := 0o10000
def IBAUD0 : BitVec 32 := 0o20000000000
def OPOST : BitVec 32 := 0o1
def ISIG : BitVec 32 := 0o1
def ICANON : BitVec 32 := 0o2
def ECHO : BitVec 32 := 0o10
def ECHOE : BitVec 32 := 0o20
def VTIME : Nat := 5
def VMIN : Nat := 6

structure Termios where
  cIflag : BitVec 32
  cOflag : BitVec 32
  cCflag : BitVec 32
  cLflag : BitVec 32
  cCc : Nat → UInt8
  cIspeed : BitVec 32
  cOspeed : BitVec 32

/-- The change of a speed setter: only the speed bits of the flag words and the
two speed members may differ. -/
structure SpeedOnly (before after : Termios) : Prop where
  iflag : after.cIflag &&& ~~~IBAUD0 = before.cIflag &&& ~~~IBAUD0
  oflag : after.cOflag = before.cOflag
  cflag : after.cCflag &&& ~~~(CBAUD ||| CIBAUD) = before.cCflag &&& ~~~(CBAUD ||| CIBAUD)
  lflag : after.cLflag = before.cLflag
  cc : after.cCc = before.cCc

/-- The libc calls `cfsetispeed` and `cfsetospeed`, with the return code. -/
structure SpeedSetters where
  cfsetispeed : Termios → BitVec 32 → Termios × Int
  cfsetospeed : Termios → BitVec 32 → Termios × Int
  ispeedOnly : ∀ options speed, SpeedOnly options (cfsetispeed options speed).1
  ospeedOnly : ∀ options speed, SpeedOnly options (cfsetospeed options speed).1

/-! ## The steps of `set_port_params` -/

def setSpeed (libc : SpeedSetters) (spp : SpProp) (options : Termios) : Termios :=
  let baud : BitVec 32 := BitVec.ofInt 32 spp.baudRate
  let options := (libc.cfsetispeed options baud).1
  (libc.cfsetospeed options baud).1

def setDataBits (spp : SpProp) (options : Termios) : Termios :=
  if spp.dataBits = dataBits5 then
    { options with cCflag := setBits (clearBits options.cCflag CSIZE) CS5 }
  else if spp.dataBits = dataBits6 then
    { options with cCflag := setBits (clearBits options.cCflag CSIZE) CS6 }
  else if spp.dataBits = dataBits7 then
    { options with cCflag := setBits (clearBits options.cCflag CSIZE) CS7 }
  else if spp.dataBits = dataBits8 then
    { options with cCflag := setBits (clearBits options.cCflag CSIZE) CS8 }
  else options

def setStopBits (spp : SpProp) (options : Termios) : Termios :=
  if spp.stopBits = stop1 then { options with cCflag := clearBits options.cCflag CSTOPB }
  else if spp.stopBits = stop1_5 then { options with cCflag := clearBits options.cCflag CSTOPB }
  else if spp.stopBits = stop2 then { options with cCflag := clearBits options.cCflag CSTOPB }
  else options

def setFlowCtl (spp : SpProp) (options : Termios) : Termios :=
  if spp.flowCtl = flowCtlNone then
    { options with cCflag := clearBits options.cCflag CRTSCTS }
  else if spp.flowCtl = flowCtlHardware then
    { options with cCflag := setBits options.cCflag CRTSCTS }
  else if spp.flowCtl = flowCtlSoftware then
    { options with cCflag := setBits options.cCflag (IXON ||| IXOFF ||| IXANY) }
  else options

/-- Input flags (`INPCK`, `ISTRIP`) are applied to `c_cflag` here, as the source does. -/
def setParity (spp : SpProp) (options : Termios) : Termios :=
  if spp.parity = parityNone then
    { options with cCflag := clearBits (clearBits options.cCflag PARENB) INPCK }
  else if spp.parity = parityOdd then
    { options with
      cCflag := setBits (setBits (setBits (setBits options.cCflag PARENB) PARODD) INPCK) ISTRIP }
  else if spp.parity = parityEven then
    { options with
      cCflag := setBits (setBits (clearBits (setBits options.cCflag PARENB) PARODD) INPCK) ISTRIP }
  else if spp.parity = paritySpace then
    { options with cCflag := clearBits (clearBits options.cCflag PARENB) CSTOPB }
  else options

def setLineMode (options : Termios) : Termios :=
  { options with
    cOflag := clearBits options.cOflag OPOST
    cLflag := clearBits options.cLflag (ICANON ||| ECHO ||| ECHOE ||| ISIG)
    cIflag := clearBits options.cIflag (BRKINT ||| ICRNL ||| INPCK ||| ISTRIP ||| IXON)
    cCc := fun index => if index = VMIN then 1 else if index = VTIME then 0 else options.cCc index }

/-- The termios that `set_port_params` hands to `tcsetattr`, from the one that
`tcgetattr` returned. -/
def portOptions (libc : SpeedSetters) (spp : SpProp) (options : Termios) : Termios :=
  setLineMode (setParity spp (setFlowCtl spp (setStopBits spp (setDataBits spp
    (setSpeed libc spp options)))))

/-- The speed setters of classic glibc: a speed that is no `B*` code is refused. -/
def glibcRefuses (speed : BitVec 32) : Bool :=
  speed &&& ~~~CBAUD ≠ 0 ∧ (speed.toNat < 0o10001 ∨ 0o10017 < speed.toNat)

def glibcCfsetospeed (options : Termios) (speed : BitVec 32) : Termios × Int :=
  if glibcRefuses speed then (options, -1)
  else
    ({ options with
      cOspeed := speed
      cCflag := setBits (clearBits options.cCflag (CBAUD ||| CBAUDEX)) speed }, 0)

def glibcCfsetispeed (options : Termios) (speed : BitVec 32) : Termios × Int :=
  if glibcRefuses speed then (options, -1)
  else if speed = 0 then
    ({ options with cIspeed := speed, cIflag := setBits options.cIflag IBAUD0 }, 0)
  else
    ({ options with
      cIspeed := speed
      cIflag := clearBits options.cIflag IBAUD0
      cCflag := setBits (clearBits options.cCflag (CBAUD ||| CBAUDEX)) speed }, 0)

private theorem accepted_speed_bits {speed : BitVec 32} (accepted : glibcRefuses speed = false) :
    speed &&& ~~~(CBAUD ||| CIBAUD) = 0 := by
  simp only [glibcRefuses, decide_eq_false_iff_not, not_and, not_or, Nat.not_lt] at accepted
  by_cases plain : speed &&& ~~~CBAUD = 0
  · rw [BitVec.not_or, ← BitVec.and_assoc, plain]
    simp
  · obtain ⟨low, high⟩ := accepted plain
    have codes : ∀ offset : Fin 15,
        BitVec.ofNat 32 (0o10001 + offset.val) &&& ~~~(CBAUD ||| CIBAUD) = 0 := by decide
    have code := codes ⟨speed.toNat - 0o10001, by omega⟩
    have same : 0o10001 + (speed.toNat - 0o10001) = speed.toNat := by omega
    rw [same, BitVec.ofNat_toNat, BitVec.setWidth_eq] at code
    exact code

private theorem speed_code_agrees {word speed : BitVec 32} (accepted : glibcRefuses speed = false) :
    setBits (clearBits word (CBAUD ||| CBAUDEX)) speed &&& ~~~(CBAUD ||| CIBAUD) =
      word &&& ~~~(CBAUD ||| CIBAUD) := by
  rw [setBits_and, accepted_speed_bits accepted, clearBits_and_of_disjoint (by decide)]
  simp

def glibc : SpeedSetters where
  cfsetispeed := glibcCfsetispeed
  cfsetospeed := glibcCfsetospeed
  ispeedOnly options speed := by
    simp only [glibcCfsetispeed]
    cases refused : glibcRefuses speed with
    | true => exact ⟨rfl, rfl, rfl, rfl, rfl⟩
    | false =>
        by_cases hangup : speed = 0
        · simp only [hangup, Bool.false_eq_true, ↓reduceIte]
          exact ⟨setBits_and_of_disjoint (by decide), rfl, rfl, rfl, rfl⟩
        · simp only [hangup, Bool.false_eq_true, ↓reduceIte]
          exact ⟨clearBits_and_of_disjoint (by decide), rfl, speed_code_agrees refused, rfl, rfl⟩
  ospeedOnly options speed := by
    simp only [glibcCfsetospeed]
    cases refused : glibcRefuses speed with
    | true => exact ⟨rfl, rfl, rfl, rfl, rfl⟩
    | false => exact ⟨rfl, rfl, speed_code_agrees refused, rfl, rfl⟩

end LibSp.Linux
