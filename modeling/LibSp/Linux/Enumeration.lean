import LibSp.Interface

/-!
# Port enumeration on Linux

`get_available_serial_port`: the scan of `/sys/class/tty/`, the probe of the serial8250
devices among its entries and the scan of `/dev/pts/`.
-/

set_option autoImplicit false

namespace LibSp.Linux

/-! ## The probe of the serial8250 devices -/

def PORT_UNKNOWN : Int := 0

/-- What the system answers about one device: the descriptor of `::open`, if it succeeds,
the result of `ioctl(TIOCGSERIAL)` and the type that it reports. -/
structure ProbeOutcome where
  descriptor : Option Nat
  ioctl : Int
  type : Int

/-- The result of `::open`. -/
def ProbeOutcome.fd (outcome : ProbeOutcome) : Int :=
  match outcome.descriptor with
  | none => -1
  | some descriptor => descriptor

/-- The list of ports, with the descriptors that `::open` returned and those that
`::close` was called on. -/
structure Probed where
  comList : List String
  opened : List Nat
  closed : List Int

/-- One turn of the loop of `probe_serial8250_comports`. -/
def probeDevice (outcome : ProbeOutcome) (device : String) (probed : Probed) : Probed :=
  let fd := outcome.fd
  let probed := { probed with opened := probed.opened ++ outcome.descriptor.toList }
  if 0 < fd then
    let probed :=
      if 0 = outcome.ioctl then
        if outcome.type ≠ PORT_UNKNOWN then
          { probed with comList := probed.comList ++ [device] }
        else probed
      else probed
    { probed with closed := probed.closed ++ [fd] }
  else probed

/-- The answers come in the order in which the devices are probed. -/
def probeSerial8250Comports : (outcomes : Nat → ProbeOutcome) → List String → Probed → Probed
  | _, [], probed => probed
  | outcomes, device :: rest, probed =>
      probeSerial8250Comports (fun turn => outcomes (turn + 1)) rest
        (probeDevice (outcomes 0) device probed)

/-- The probe finds a port of a known type. -/
def ProbeOutcome.known (outcome : ProbeOutcome) : Bool :=
  outcome.ioctl = 0 ∧ outcome.type ≠ PORT_UNKNOWN

/-- The devices whose answers satisfy a test, in their order. -/
def selected (test : ProbeOutcome → Bool) : (Nat → ProbeOutcome) → List String → List String
  | _, [] => []
  | outcomes, device :: rest =>
      (if test (outcomes 0) then [device] else []) ++
        selected test (fun turn => outcomes (turn + 1)) rest

/-- The descriptors obtained for a list of devices. -/
def obtained : (Nat → ProbeOutcome) → List String → List Nat
  | _, [] => []
  | outcomes, _ :: rest =>
      (outcomes 0).descriptor.toList ++ obtained (fun turn => outcomes (turn + 1)) rest

/-- What the code takes for a device that could be opened and is a port. -/
def ProbeOutcome.accepted (outcome : ProbeOutcome) : Bool := 0 < outcome.fd ∧ outcome.known

theorem probeDevice_eq (outcome : ProbeOutcome) (device : String) (probed : Probed) :
    probeDevice outcome device probed =
      { comList := probed.comList ++ if outcome.accepted then [device] else []
        opened := probed.opened ++ outcome.descriptor.toList
        closed := probed.closed ++ if 0 < outcome.fd then [outcome.fd] else [] } := by
  simp only [probeDevice, ProbeOutcome.accepted, ProbeOutcome.known]
  by_cases positive : 0 < outcome.fd
  · by_cases queried : 0 = outcome.ioctl
    · by_cases unknown : outcome.type = PORT_UNKNOWN <;> simp [positive, ← queried, unknown]
    · simp [positive, queried, Ne.symm queried]
  · simp [positive]

theorem closed_descriptor (outcome : ProbeOutcome) :
    (if 0 < outcome.fd then [outcome.fd] else []) =
      (outcome.descriptor.toList.filter fun descriptor => 0 < descriptor).map Int.ofNat := by
  obtain ⟨descriptor, ioctl, type⟩ := outcome
  cases descriptor with
  | none => rfl
  | some descriptor =>
      cases descriptor with
      | zero => rfl
      | succ descriptor =>
          have positive : (0 : Int) < (descriptor + 1 : Nat) := by omega
          simp [ProbeOutcome.fd]

/-- The loop accepts and closes what it takes for open. -/
theorem probeSerial8250Comports_eq (outcomes : Nat → ProbeOutcome) (devices : List String)
    (probed : Probed) :
    probeSerial8250Comports outcomes devices probed =
      { comList := probed.comList ++ selected ProbeOutcome.accepted outcomes devices
        opened := probed.opened ++ obtained outcomes devices
        closed := probed.closed ++
          ((obtained outcomes devices).filter fun descriptor => 0 < descriptor).map Int.ofNat } := by
  induction devices generalizing outcomes probed with
  | nil => simp [probeSerial8250Comports, selected, obtained]
  | cons device rest ih =>
      rw [probeSerial8250Comports, ih, probeDevice_eq, closed_descriptor]
      simp [selected, obtained]

/-- No device gets descriptor 0. -/
def NoneZero (outcomes : Nat → ProbeOutcome) (devices : List String) : Prop :=
  ∀ index, index < devices.length → (outcomes index).descriptor ≠ some 0

theorem noneZero_cons (outcomes : Nat → ProbeOutcome) (device : String) (rest : List String) :
    NoneZero outcomes (device :: rest) ↔
      (outcomes 0).descriptor ≠ some 0 ∧ NoneZero (fun turn => outcomes (turn + 1)) rest := by
  constructor
  · intro noneZero
    refine ⟨noneZero 0 (Nat.succ_pos _), fun index inside => ?_⟩
    exact noneZero (index + 1) (Nat.succ_lt_succ inside)
  · intro noneZero index inside
    cases index with
    | zero => exact noneZero.1
    | succ index => exact noneZero.2 index (Nat.lt_of_succ_lt_succ inside)

theorem noneZero_iff_obtained (outcomes : Nat → ProbeOutcome) (devices : List String) :
    NoneZero outcomes devices ↔ 0 ∉ obtained outcomes devices := by
  induction devices generalizing outcomes with
  | nil => simp [NoneZero, obtained]
  | cons device rest ih =>
      rw [noneZero_cons, ih, obtained, List.mem_append, not_or]
      cases (outcomes 0).descriptor with
      | none => simp
      | some descriptor => simp [eq_comm]

/-- The device could be opened and is a port. -/
def ProbeOutcome.valid (outcome : ProbeOutcome) : Bool := outcome.descriptor.isSome && outcome.known

theorem accepted_eq_valid {outcome : ProbeOutcome} (notZero : outcome.descriptor ≠ some 0) :
    outcome.accepted = outcome.valid := by
  obtain ⟨descriptor, ioctl, type⟩ := outcome
  cases descriptor with
  | none => simp [ProbeOutcome.accepted, ProbeOutcome.valid, ProbeOutcome.fd]
  | some descriptor =>
      cases descriptor with
      | zero => exact absurd rfl notZero
      | succ descriptor =>
          have positive : (0 : Int) < (descriptor + 1 : Nat) := by omega
          simp [ProbeOutcome.accepted, ProbeOutcome.valid, ProbeOutcome.fd]

theorem selected_of_noneZero {outcomes : Nat → ProbeOutcome} {devices : List String}
    (noneZero : NoneZero outcomes devices) :
    selected ProbeOutcome.accepted outcomes devices =
      selected ProbeOutcome.valid outcomes devices := by
  induction devices generalizing outcomes with
  | nil => rfl
  | cons device rest ih =>
      obtain ⟨first, later⟩ := (noneZero_cons outcomes device rest).mp noneZero
      rw [selected, selected, accepted_eq_valid first, ih later]

/-- The probe appends the devices that it could open and that are ports, in their order,
and closes each descriptor as often as it was obtained, exactly if none is descriptor 0. -/
theorem probe_releases_iff (outcomes : Nat → ProbeOutcome) (devices comList : List String) :
    (probeSerial8250Comports outcomes devices ⟨comList, [], []⟩).comList =
          comList ++ selected ProbeOutcome.valid outcomes devices ∧
        (∀ fd : Int,
          (probeSerial8250Comports outcomes devices ⟨comList, [], []⟩).closed.count fd =
            ((probeSerial8250Comports outcomes devices ⟨comList, [], []⟩).opened.map
              Int.ofNat).count fd) ↔
      NoneZero outcomes devices := by
  simp only [probeSerial8250Comports_eq, List.nil_append, List.append_cancel_left_eq]
  constructor
  · intro released
    rw [noneZero_iff_obtained]
    intro leaked
    have opened : (0 : Int) ∈ (obtained outcomes devices).map Int.ofNat :=
      List.mem_map.mpr ⟨0, leaked, rfl⟩
    rw [← List.count_pos_iff, ← released.2 0, List.count_pos_iff] at opened
    obtain ⟨descriptor, kept, same⟩ := List.mem_map.mp opened
    have positive : 0 < descriptor := of_decide_eq_true (List.mem_filter.mp kept).2
    have zero : descriptor = 0 := Int.ofNat.inj same
    omega
  · intro noneZero
    refine ⟨selected_of_noneZero noneZero, fun fd => ?_⟩
    have all : (obtained outcomes devices).filter (fun descriptor => 0 < descriptor) =
        obtained outcomes devices := by
      rw [List.filter_eq_self]
      intro descriptor member
      have notZero : descriptor ≠ 0 := by
        intro zero
        exact (noneZero_iff_obtained outcomes devices).mp noneZero (zero ▸ member)
      exact decide_eq_true (Nat.pos_of_ne_zero notZero)
    rw [all]

/-- A port that gets the descriptor of a closed standard input is neither listed nor closed. -/
theorem probe_leaks_zero :
    probeSerial8250Comports (fun _ => ⟨some 0, 0, 4⟩) ["/dev/ttyS0"] ⟨[], [], []⟩ =
      ⟨[], [0], []⟩ ∧
    selected ProbeOutcome.valid (fun _ => ⟨some 0, 0, 4⟩) ["/dev/ttyS0"] = ["/dev/ttyS0"] :=
  ⟨rfl, rfl⟩

/-! ## The scans -/

def strSysDir : String := "/sys/class/tty/"

def strPtsDir : String := "/dev/pts/"

/-- What the system answers: the entries of a directory unless `scandir` fails, whether a
path is a symbolic link, and where a link leads unless `readlink` fails. A character stands
for a byte. -/
structure FileSystem where
  scandir : String → Option (List String)
  isLink : String → Bool
  readlink : String → Option String
  /-- What stands behind the buffer for the link of a path, up to the next zero byte. -/
  behind : String → String
  slashless : ∀ {dir names name}, scandir dir = some names → name ∈ names → '/' ∉ name.toList

/-- The part after the last slash. -/
def basename (path : String) : String :=
  String.ofList (path.toList.reverse.takeWhile (· ≠ '/')).reverse

/-- The size of the buffer for a link. -/
def sizeofBuffer : Nat := 1024

/-- The text found in the buffer. `readlink` cuts the link to the size of the buffer, and
puts no zero byte behind it. -/
def FileSystem.buffer (system : FileSystem) (path link : String) : String :=
  if link.length < sizeofBuffer then link
  else String.ofList (link.toList.take sizeofBuffer) ++ system.behind path

def getDriver (system : FileSystem) (tty : String) : String :=
  let devicedir := tty ++ "/device"
  if system.isLink devicedir then
    let devicedir := devicedir ++ "/driver"
    match system.readlink devicedir with
    | none => ""
    | some link => if 0 < link.length then basename (system.buffer devicedir link) else ""
  else ""

/-- The lists of the other and of the serial8250 devices, with the device of an entry. -/
def registerComport (system : FileSystem) (lists : List String × List String) (dir : String) :
    List String × List String :=
  let driver := getDriver system dir
  if 0 < driver.length then
    let devfile := "/dev/" ++ basename dir
    if driver = "serial8250" then (lists.1, lists.2 ++ [devfile])
    else (lists.1 ++ [devfile], lists.2)
  else lists

/-- The entries `.` and `..` of a directory. -/
def isDefault (name : String) : Bool := name = ".." ∨ name = "."

def scanTty (system : FileSystem) : List String × List String :=
  match system.scandir strSysDir with
  | none => ([], [])
  | some nameList =>
      nameList.foldl (fun lists name =>
        if isDefault name then lists else registerComport system lists (strSysDir ++ name)) ([], [])

/-- The path of a terminal is put together with the directory of the first scan. -/
def scanPts (system : FileSystem) (comList : List String) : List String :=
  match system.scandir strPtsDir with
  | none => comList
  | some nameList =>
      nameList.foldl (fun comList name =>
        if isDefault name then comList else comList ++ [strSysDir ++ name]) comList

/-- The copy into the returned list; the item is cleared after each name. -/
def copyNames : SpNameDesc → List String → List SpNameDesc
  | _, [] => []
  | item, name :: rest => { item with name := name } :: copyNames .zero rest

/-- A directory has no entry twice, so each device is probed once: the answers are those of
the devices. -/
def turns (answers : String → ProbeOutcome) (devices : List String) (turn : Nat) : ProbeOutcome :=
  answers (devices.getD turn "")

def getAvailableSerialPort (system : FileSystem) (answers : String → ProbeOutcome) :
    List SpNameDesc :=
  let lists := scanTty system
  let comList :=
    (probeSerial8250Comports (turns answers lists.2) lists.2 ⟨lists.1, [], []⟩).comList
  copyNames .zero (scanPts system comList)

/-! ## The list that is to be returned -/

inductive DriverKind where
  | missing
  | serial8250
  | other
  deriving DecidableEq

def DriverKind.ofName (name : String) : DriverKind :=
  if name = "" then .missing else if name = "serial8250" then .serial8250 else .other

def lastComponent (path : String) : String :=
  String.ofList ((path.toList.splitOn '/').getLastD [])

def DriverKind.ofLink : Option String → DriverKind
  | none => .missing
  | some link => .ofName (lastComponent link)

/-- The entries of a directory, none if it cannot be read. -/
def FileSystem.entries (system : FileSystem) (dir : String) : List String :=
  ((system.scandir dir).getD []).filter fun name => !isDefault name

def driverPath (entry : String) : String := strSysDir ++ entry ++ "/device" ++ "/driver"

/-- Where the driver link of an entry leads, if its device is a link as well. -/
def FileSystem.driverLink (system : FileSystem) (entry : String) : Option String :=
  if system.isLink (strSysDir ++ entry ++ "/device") then system.readlink (driverPath entry)
  else none

def FileSystem.kind (system : FileSystem) (entry : String) : DriverKind :=
  .ofLink (system.driverLink entry)

/-- The kind of driver by what the buffer holds of the link. -/
def FileSystem.kindRead (system : FileSystem) (entry : String) : DriverKind :=
  .ofLink ((system.driverLink entry).map (system.buffer (driverPath entry)))

/-- The devices of the entries that are of this kind. -/
def devices (kind : String → DriverKind) (wanted : DriverKind) (entries : List String) :
    List String :=
  (entries.filter fun entry => kind entry = wanted).map fun entry => "/dev/" ++ entry

/-- The devices with another driver, and then the serial8250 devices that the probe accepts. -/
def ttyPorts (kind : String → DriverKind) (answers : String → ProbeOutcome)
    (entries : List String) : List String :=
  devices kind .other entries ++
    (devices kind .serial8250 entries).filter fun device => (answers device).accepted

def FileSystem.ports (system : FileSystem) (answers : String → ProbeOutcome) : List String :=
  ttyPorts system.kind answers (system.entries strSysDir) ++
    (system.entries strPtsDir).map fun entry => "/dev/pts/" ++ entry

/-! ## The last component of a path -/

theorem takeWhile_append_stop {α : Type} {test : α → Bool} {stop : α} (stops : test stop = false)
    (list rest : List α) :
    (list ++ stop :: rest).takeWhile test = list.takeWhile test := by
  induction list with
  | nil => simp [stops]
  | cons first list ih =>
      rw [List.cons_append, List.takeWhile_cons, List.takeWhile_cons, ih]

theorem takeWhile_of_notMem {list : List Char} (absent : '/' ∉ list) :
    list.takeWhile (· ≠ '/') = list := by
  induction list with
  | nil => rfl
  | cons letter list ih =>
      obtain ⟨different, absent⟩ := not_or.mp (mt List.mem_cons.mpr absent)
      rw [List.takeWhile_cons, if_pos (decide_eq_true (Ne.symm different)), ih absent]

theorem takeWhile_after_slash {before name : List Char} (absent : '/' ∉ name) :
    ((before ++ '/' :: name).reverse.takeWhile (· ≠ '/')).reverse = name := by
  have reversed : (before ++ '/' :: name).reverse = name.reverse ++ '/' :: before.reverse := by simp
  have absentReversed : '/' ∉ name.reverse := by simpa using absent
  rw [reversed, takeWhile_append_stop (by decide), takeWhile_of_notMem absentReversed,
    List.reverse_reverse]

/-- What the code takes from a path is its last component. -/
theorem basename_eq (path : String) : basename path = lastComponent path := by
  simp only [basename, lastComponent]
  congr 1
  generalize path.toList = letters
  by_cases inside : '/' ∈ letters.reverse
  · obtain ⟨name, before, reversed, absent⟩ := List.eq_append_cons_of_mem inside
    have absentReversed : '/' ∉ name.reverse := by simpa using absent
    have parts : letters = before.reverse ++ '/' :: name.reverse := by
      simpa using congrArg List.reverse reversed
    rw [parts, takeWhile_after_slash absentReversed, List.splitOn_append_cons_self,
      List.splitOn_eq_singleton absentReversed, List.getLastD_concat]
  · have absent : '/' ∉ letters := by simpa using inside
    rw [takeWhile_of_notMem inside, List.reverse_reverse, List.splitOn_eq_singleton absent]
    rfl

theorem lastComponent_ofList {before name : List Char} (absent : '/' ∉ name) :
    lastComponent (String.ofList (before ++ '/' :: name)) = String.ofList name := by
  rw [← basename_eq, basename, String.toList_ofList, takeWhile_after_slash absent]

theorem basename_sysDir {entry : String} (absent : '/' ∉ entry.toList) :
    basename (strSysDir ++ entry) = entry := by
  have letters : (strSysDir ++ entry).toList =
      "/sys/class/tty".toList ++ '/' :: entry.toList := by
    rw [String.toList_append]
    rfl
  rw [basename, letters, takeWhile_after_slash absent, String.ofList_toList]

/-! ## What the scans find -/

theorem ofName_getDriver (system : FileSystem) (entry : String) :
    DriverKind.ofName (getDriver system (strSysDir ++ entry)) = system.kindRead entry := by
  simp only [getDriver, FileSystem.kindRead, FileSystem.driverLink]
  by_cases linked : system.isLink (strSysDir ++ entry ++ "/device") = true
  · rw [if_pos linked, if_pos linked]
    change DriverKind.ofName (match system.readlink (driverPath entry) with
      | none => ""
      | some link => if 0 < link.length then basename (system.buffer (driverPath entry) link)
          else "") = _
    cases system.readlink (driverPath entry) with
    | none => rfl
    | some link =>
        simp only [Option.map_some, DriverKind.ofLink]
        split
        · rw [basename_eq]
        · next empty =>
            have nothing : link = "" := by
              rw [← String.length_eq_zero_iff]
              omega
            subst nothing
            rfl
  · rw [if_neg linked, if_neg linked]
    rfl

theorem devices_cons (kind : String → DriverKind) (wanted : DriverKind) (entry : String)
    (entries : List String) :
    devices kind wanted (entry :: entries) =
      devices kind wanted [entry] ++ devices kind wanted entries := by
  rw [← List.singleton_append, devices, List.filter_append, List.map_append]
  rfl

theorem devices_singleton (kind : String → DriverKind) (wanted : DriverKind) (entry : String) :
    devices kind wanted [entry] = if kind entry = wanted then ["/dev/" ++ entry] else [] := by
  by_cases same : kind entry = wanted <;> simp [devices, same]

theorem registerComport_eq (system : FileSystem) (lists : List String × List String)
    {entry : String} (absent : '/' ∉ entry.toList) :
    registerComport system lists (strSysDir ++ entry) =
      (lists.1 ++ devices system.kindRead .other [entry],
        lists.2 ++ devices system.kindRead .serial8250 [entry]) := by
  simp only [registerComport, devices_singleton, ← ofName_getDriver, basename_sysDir absent]
  generalize getDriver system (strSysDir ++ entry) = driver
  by_cases missing : driver = ""
  · simp [missing, DriverKind.ofName]
  · have long : 0 < driver.length := by
      rw [Nat.pos_iff_ne_zero]
      exact fun empty => missing (String.length_eq_zero_iff.mp empty)
    by_cases serial : driver = "serial8250"
    · simp [serial, DriverKind.ofName]
    · simp [long, missing, serial, DriverKind.ofName]

theorem scanTty_eq (system : FileSystem) :
    scanTty system = (devices system.kindRead .other (system.entries strSysDir),
      devices system.kindRead .serial8250 (system.entries strSysDir)) := by
  have folded : ∀ (nameList : List String) (lists : List String × List String),
      (∀ name ∈ nameList, '/' ∉ name.toList) →
      nameList.foldl (fun lists name =>
        if isDefault name then lists else registerComport system lists (strSysDir ++ name)) lists =
      (lists.1 ++ devices system.kindRead .other (nameList.filter fun name => !isDefault name),
        lists.2 ++
          devices system.kindRead .serial8250 (nameList.filter fun name => !isDefault name)) := by
    intro nameList
    induction nameList with
    | nil => simp [devices]
    | cons name rest ih =>
        intro lists slashless
        obtain ⟨absent, slashless⟩ := List.forall_mem_cons.mp slashless
        rw [List.foldl_cons, ih _ slashless, List.filter_cons]
        cases default : isDefault name with
        | true => simp
        | false =>
            have more := fun wanted => devices_cons system.kindRead wanted name
              (rest.filter fun name => !isDefault name)
            rw [if_neg Bool.false_ne_true, if_pos Bool.not_false, registerComport_eq _ _ absent, more,
              more, List.append_assoc, List.append_assoc]
  simp only [scanTty, FileSystem.entries]
  cases found : system.scandir strSysDir with
  | none => rfl
  | some nameList =>
      simpa using folded nameList ([], []) fun _ member => system.slashless found member

theorem scanPts_eq (system : FileSystem) (comList : List String) :
    scanPts system comList =
      comList ++ (system.entries strPtsDir).map fun entry => strSysDir ++ entry := by
  have folded : ∀ (nameList comList : List String),
      nameList.foldl (fun comList name =>
        if isDefault name then comList else comList ++ [strSysDir ++ name]) comList =
      comList ++ (nameList.filter fun name => !isDefault name).map
        fun entry => strSysDir ++ entry := by
    intro nameList
    induction nameList with
    | nil => simp
    | cons name rest ih =>
        intro comList
        rw [List.foldl_cons, ih, List.filter_cons]
        cases default : isDefault name <;> simp
  simp only [scanPts, FileSystem.entries]
  cases system.scandir strPtsDir with
  | none => simp
  | some nameList => exact folded nameList comList

theorem selected_turns (test : ProbeOutcome → Bool) (answers : String → ProbeOutcome)
    (devices : List String) :
    selected test (turns answers devices) devices = devices.filter fun device =>
      test (answers device) := by
  induction devices with
  | nil => rfl
  | cons device rest ih =>
      have later : (fun turn => turns answers (device :: rest) (turn + 1)) = turns answers rest := rfl
      rw [selected, later, ih, List.filter_cons]
      change (if test (answers device) = true then [device] else []) ++ _ = _
      split <;> rfl

theorem copyNames_names (item : SpNameDesc) (names : List String) :
    (copyNames item names).map SpNameDesc.name = names := by
  induction names generalizing item with
  | nil => rfl
  | cons name rest ih => rw [copyNames, List.map_cons, ih]

theorem getAvailableSerialPort_names (system : FileSystem) (answers : String → ProbeOutcome) :
    (getAvailableSerialPort system answers).map SpNameDesc.name =
      ttyPorts system.kindRead answers (system.entries strSysDir) ++
        (system.entries strPtsDir).map fun entry => strSysDir ++ entry := by
  rw [getAvailableSerialPort, copyNames_names, scanPts_eq, scanTty_eq,
    probeSerial8250Comports_eq, selected_turns]
  rfl

/-! ## The ports are listed -/

theorem filter_congr_iff {α : Type} {first second : α → Bool} {list : List α} :
    list.filter first = list.filter second ↔ ∀ item ∈ list, first item = second item := by
  constructor
  · intro same item member
    have both : item ∈ list.filter first ↔ item ∈ list.filter second := by rw [same]
    simp only [List.mem_filter, member, true_and] at both
    exact Bool.eq_iff_iff.mpr both
  · exact List.filter_congr

theorem devices_congr_iff {first second : String → DriverKind} {wanted : DriverKind}
    {entries : List String} :
    devices first wanted entries = devices second wanted entries ↔
      ∀ entry ∈ entries, (first entry = wanted ↔ second entry = wanted) := by
  have injective : ∀ entry other : String, "/dev/" ++ entry = "/dev/" ++ other → entry = other :=
    fun _ _ same => (String.append_right_inj "/dev/").mp same
  rw [devices, devices, List.map_inj_right injective, filter_congr_iff]
  exact forall₂_congr fun entry _ => decide_eq_decide

section

variable {kind first second : String → DriverKind} {answers : String → ProbeOutcome}
  {entries : List String}

theorem ttyPorts_of_refused (refused : ∀ device, (answers device).accepted = false) :
    ttyPorts kind answers entries = devices kind .other entries := by
  simp [ttyPorts, refused]

theorem ttyPorts_of_accepted (accepted : ∀ device, (answers device).accepted = true) :
    ttyPorts kind answers entries = devices kind .other entries ++ devices kind .serial8250 entries := by
  simp [ttyPorts, accepted]

/-- Whatever the probe answers, two kinds of drivers give the same ports only if they are the
same: one answer leaves the serial8250 devices out, and one lists them all. -/
theorem ttyPorts_congr_iff :
    (∀ answers, ttyPorts first answers entries = ttyPorts second answers entries) ↔
      ∀ entry ∈ entries, first entry = second entry := by
  constructor
  · intro same
    have refused := same fun _ => ⟨none, 0, 0⟩
    rw [ttyPorts_of_refused fun _ => rfl, ttyPorts_of_refused fun _ => rfl] at refused
    have accepted := same fun _ => ⟨some 1, 0, 4⟩
    rw [ttyPorts_of_accepted fun _ => rfl, ttyPorts_of_accepted fun _ => rfl, refused,
      List.append_cancel_left_eq] at accepted
    intro entry member
    have other := devices_congr_iff.mp refused entry member
    have serial := devices_congr_iff.mp accepted entry member
    revert other serial
    cases first entry <;> cases second entry <;> decide
  · intro same answers
    have alike : ∀ wanted, devices first wanted entries = devices second wanted entries :=
      fun wanted => devices_congr_iff.mpr fun entry member => by rw [same entry member]
    rw [ttyPorts, ttyPorts, alike, alike]

end

theorem sysDir_ne_ptsDir (entry : String) : strSysDir ++ entry ≠ "/dev/pts/" ++ entry := by
  intro same
  exact absurd ((String.append_left_inj entry).mp same) (by decide)

theorem ports_in_dev {system : FileSystem} {answers : String → ProbeOutcome} {name : String}
    (member : name ∈ system.ports answers) : ∃ node, name = "/dev/" ++ node := by
  have device : ∀ {kind : String → DriverKind} {wanted : DriverKind} {entries : List String},
      name ∈ devices kind wanted entries → ∃ node, name = "/dev/" ++ node := by
    intro kind wanted entries listed
    obtain ⟨entry, -, same⟩ := List.mem_map.mp listed
    exact ⟨entry, same.symm⟩
  rw [FileSystem.ports, ttyPorts, List.mem_append, List.mem_append] at member
  rcases member with (other | serial) | terminal
  · exact device other
  · exact device (List.mem_filter.mp serial).1
  · obtain ⟨entry, -, same⟩ := List.mem_map.mp terminal
    refine ⟨"pts/" ++ entry, ?_⟩
    rw [← same, ← String.append_assoc]
    rfl

/-- A link that fits the buffer is read as it is. -/
theorem kindRead_of_short {system : FileSystem} {entry : String}
    (short : ∀ link, system.driverLink entry = some link → link.length < sizeofBuffer) :
    system.kindRead entry = system.kind entry := by
  rw [FileSystem.kindRead, FileSystem.kind]
  cases found : system.driverLink entry with
  | none => rfl
  | some link => rw [Option.map_some, FileSystem.buffer, if_pos (short link found)]

/-- Whatever the probe answers, the names are the ports in their order, and paths of device
nodes, exactly if the second scan finds no terminal and no driver link is too long for the
buffer to tell the kind of the driver. -/
theorem getAvailableSerialPort_ports_iff (system : FileSystem) :
    (∀ answers,
        (getAvailableSerialPort system answers).map SpNameDesc.name = system.ports answers ∧
        ∀ port ∈ getAvailableSerialPort system answers, ∃ node, port.name = "/dev/" ++ node) ↔
      system.entries strPtsDir = [] ∧
        ∀ entry ∈ system.entries strSysDir, system.kindRead entry = system.kind entry := by
  rw [← ttyPorts_congr_iff]
  constructor
  · intro listed
    have none : system.entries strPtsDir = [] := by
      have same := (listed fun _ => ⟨none, 0, 0⟩).1
      rw [getAvailableSerialPort_names, FileSystem.ports] at same
      rcases List.eq_nil_or_concat (system.entries strPtsDir) with empty | ⟨front, last, concat⟩
      · exact empty
      · rw [concat] at same
        simp only [List.concat_eq_append, List.map_append, List.map_singleton,
          ← List.append_assoc] at same
        exact absurd (List.cons.inj (List.append_inj' same rfl).2).1 (sysDir_ne_ptsDir last)
    refine ⟨none, fun answers => ?_⟩
    have same := (listed answers).1
    rw [getAvailableSerialPort_names, FileSystem.ports, none] at same
    simpa using same
  · intro condition answers
    obtain ⟨none, alike⟩ := condition
    have same : (getAvailableSerialPort system answers).map SpNameDesc.name =
        system.ports answers := by
      rw [getAvailableSerialPort_names, FileSystem.ports, none, alike answers]
      rfl
    refine ⟨same, fun port member => ?_⟩
    have named := List.mem_map_of_mem (f := SpNameDesc.name) member
    rw [same] at named
    exact ports_in_dev named

/-- One terminal, and no device. -/
def oneTerminal : FileSystem where
  scandir dir := if dir = strPtsDir then some [".", "..", "0"] else some [".", ".."]
  isLink _ := false
  readlink _ := none
  behind _ := ""
  slashless {dir names name} found member := by
    have listed : name ∈ [".", "..", "0"] := by
      split at found <;> cases found
      · exact member
      · exact List.mem_append_left ["0"] member
    exact (by decide : ∀ name ∈ [".", "..", "0"], '/' ∉ name.toList) name listed

/-- A serial8250 device with this driver link in front of the name of the driver. -/
def longLink (stem : List Char) : FileSystem where
  scandir dir := if dir = strSysDir then some [".", "..", "ttyS0"] else none
  isLink _ := true
  readlink _ := some (String.ofList (stem ++ '/' :: "serial8250".toList))
  behind _ := ""
  slashless {dir names name} found member := by
    split at found <;> cases found
    exact (by decide : ∀ name ∈ [".", "..", "ttyS0"], '/' ∉ name.toList) name member

theorem longLink_kind (stem : List Char) (entry : String) :
    (longLink stem).kind entry = .serial8250 := by
  change DriverKind.ofName (lastComponent (String.ofList (stem ++ '/' :: _))) = _
  rw [lastComponent_ofList (by decide)]
  decide

/-- The buffer holds the first five letters of the driver. -/
theorem longLink_kindRead {stem : List Char} (long : stem.length = 1018) (entry : String) :
    (longLink stem).kindRead entry = .other := by
  have cut : (longLink stem).buffer (driverPath entry)
      (String.ofList (stem ++ '/' :: "serial8250".toList)) =
        String.ofList (stem ++ '/' :: "seria".toList) := by
    have tooLong : ¬ (String.ofList (stem ++ '/' :: "serial8250".toList)).length < sizeofBuffer := by
      rw [String.length_ofList, List.length_append, long]
      decide
    have kept : (stem ++ '/' :: "serial8250".toList).take sizeofBuffer =
        stem ++ '/' :: "seria".toList := by
      rw [List.take_append, long, List.take_of_length_le (by rw [long]; decide)]
      rfl
    rw [FileSystem.buffer, if_neg tooLong, String.toList_ofList, kept]
    exact String.append_empty
  have read : (longLink stem).kindRead entry = DriverKind.ofName (lastComponent
      ((longLink stem).buffer (driverPath entry)
        (String.ofList (stem ++ '/' :: "serial8250".toList)))) := rfl
  rw [read, cut, lastComponent_ofList (by decide)]
  decide

/-- The terminal `/dev/pts/0` is listed under a path that does not exist. And a serial8250
device that the probe refuses is listed if its driver link is longer than the buffer. -/
theorem getAvailableSerialPort_terminal :
    ((getAvailableSerialPort oneTerminal fun _ => ⟨none, 0, 0⟩).map SpNameDesc.name =
        ["/sys/class/tty/0"] ∧
      oneTerminal.ports (fun _ => ⟨none, 0, 0⟩) = ["/dev/pts/0"]) ∧
    ((getAvailableSerialPort (longLink (List.replicate 1018 'a')) fun _ => ⟨none, 0, 0⟩).map
        SpNameDesc.name = ["/dev/ttyS0"] ∧
      (longLink (List.replicate 1018 'a')).ports (fun _ => ⟨none, 0, 0⟩) = []) := by
  have devices : (longLink []).entries strSysDir = ["ttyS0"] := by decide
  have terminals : (longLink []).entries strPtsDir = [] := by decide
  have scanned : ∀ stem, (longLink stem).entries = (longLink []).entries := fun _ => rfl
  refine ⟨?_, ?_⟩
  · rw [getAvailableSerialPort_names]
    decide
  · generalize stem : List.replicate 1018 'a' = letters
    have long : letters.length = 1018 := by rw [← stem, List.length_replicate]
    rw [getAvailableSerialPort_names, FileSystem.ports, scanned, devices, terminals,
      ttyPorts_of_refused fun _ => rfl, ttyPorts_of_refused fun _ => rfl, devices_singleton,
      devices_singleton, longLink_kindRead long, longLink_kind]
    decide

end LibSp.Linux
