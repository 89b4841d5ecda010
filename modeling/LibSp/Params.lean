import LibSp.Interface

/-!
# Checking the settings

`sp_params_check`: five maps filled at construction and the chain of checks that
`init` runs on its argument.
-/

set_option autoImplicit false

namespace LibSp

inductive Platform where
  | linux
  | windows
  deriving DecidableEq

/-- `std::map<int, int>`, of which only the keys matter to the checks. -/
abbrev MapType := List (Int × Int)

/-- `std::map::insert`: a key that is present keeps its value. -/
def insertMap (map : MapType) (key value : Int) : MapType :=
  if map.any (fun entry => entry.1 == key) then map else map ++ [(key, value)]

def insertAll (entries : List (Int × Int)) : MapType :=
  entries.foldl (fun map entry => insertMap map entry.1 entry.2) []

structure SpParamsCheck where
  mapBaud : MapType
  mapDb : MapType
  mapSb : MapType
  mapFctrl : MapType
  mapParity : MapType

namespace SpParamsCheck

def initMap (platform : Platform) : SpParamsCheck where
  mapBaud := insertAll
    [(baudRate110, baudRate110), (baudRate300, baudRate300), (baudRate600, baudRate600),
      (baudRate1200, baudRate1200), (baudRate2400, baudRate2400), (baudRate4800, baudRate4800),
      (baudRate9600, baudRate9600), (baudRate14400, baudRate14400),
      (baudRate19200, baudRate19200), (baudRate38400, baudRate38400),
      (baudRate56000, baudRate56000), (baudRate57600, baudRate57600),
      (baudRate115200, baudRate115200), (baudRate921600, baudRate921600)]
  mapSb := insertAll [(stop1, stop1), (stop1_5, stop1_5), (stop2, stop2)]
  mapFctrl := insertAll [(flowCtlNone, 0), (flowCtlHardware, 1), (flowCtlSoftware, 2)]
  mapParity :=
    match platform with
    | .windows => insertAll
        [(parityNone, 0), (parityOdd, 1), (parityEven, 2), (parityMark, 3), (paritySpace, 4)]
    | .linux => insertAll [(parityNone, 0), (parityOdd, 1), (parityEven, 2), (paritySpace, 4)]
  mapDb := insertAll
    [(dataBits5, dataBits5), (dataBits6, dataBits6), (dataBits7, dataBits7),
      (dataBits8, dataBits8)]

def mapFind (map : MapType) (key : Int) : Int :=
  match map.find? fun entry => entry.1 == key with
  | none => -1
  | some _ => 0

def isRight (check : SpParamsCheck) (spp : SpProp) : Int :=
  let retVal := 0
  if spp.name.length = 0 then -1
  else if mapFind check.mapBaud spp.baudRate ≠ 0 then retVal -- no code of its own
  else if mapFind check.mapSb spp.stopBits ≠ 0 then -3
  else if mapFind check.mapDb spp.dataBits ≠ 0 then -4
  else if mapFind check.mapFctrl spp.flowCtl ≠ 0 then -5
  else if mapFind check.mapParity spp.parity ≠ 0 then -6
  else 0

def getInstance (platform : Platform) : SpParamsCheck := initMap platform

end SpParamsCheck

end LibSp
