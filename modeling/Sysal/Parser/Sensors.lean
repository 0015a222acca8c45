import Sysal.Foundation.OrderedContainers
import Sysal.Model.Sensors
import Sysal.Parser.ParseUtils

/-!
# The sensor parser

`sensors.cpp`: the attributes of the `hwmon` and thermal directories, grouped by directory, and a reading
for every channel of a directory.  A thermal directory has one channel, which is read under the names
`hwmon` has for it.
-/

namespace Sysal.SensorParser

open Sysal Std

/-- The attributes of a directory. -/
abbrev Attributes := TreeMap Bytes Bytes compare

/-- `value`: a missing attribute is empty. -/
def value (attributes : Attributes) (key : Bytes) : Bytes := trim (attributes.getD key [])

/-- `std::from_chars` into a signed 64-bit integer, of a text that is read completely. -/
def readSigned (text : Bytes) : Option Int64 :=
  match text with
  | 45 :: digits =>
      match fromChars 10 digits with
      | some (magnitude, []) =>
          if magnitude ≤ 2 ^ 63 then some (Int64.ofInt (-magnitude)) else none
      | _ => none
  | _ =>
      match fromChars 10 text with
      | some (magnitude, []) =>
          if magnitude < 2 ^ 63 then some (Int64.ofInt magnitude) else none
      | _ => none

/-- `std::from_chars` into an unsigned 64-bit integer, of a text that is read completely. -/
def readUnsigned (text : Bytes) : Option UInt64 :=
  match fromChars 10 text with
  | some (magnitude, []) => some (UInt64.ofNat magnitude)
  | _ => none

example : readSigned (utf8 "-1500") = some (-1500) := by decide +kernel

/-- The unit of a measurement: how its numbers are read, and whether it is `SensorTemperature`. -/
structure Quantity (U : Type) where
  read : Bytes → Option U
  isTemperature : Bool

def temperatureQuantity : Quantity SensorTemperature := ⟨readSigned, true⟩

def fanQuantity : Quantity FanSpeed := ⟨readUnsigned, false⟩

def powerQuantity : Quantity SensorPower := ⟨readUnsigned, false⟩

section Channel

variable {U : Type} (quantity : Quantity U) (attributes : Attributes) (path name : Bytes)

/-- `measurement`. -/
def measurement (key : Bytes) : Option U := quantity.read (value attributes key)

/-- `flag`. -/
def flag (key : Bytes) : Option Bool :=
  if value attributes key = utf8 "0" then some false
  else if value attributes key = utf8 "1" then some true
  else none

/-- Type 4 alone does not say whether the driver has converted the voltage of a thermistor; some drivers
are known to. -/
def unitSupported : Bool :=
  !quantity.isTemperature || value attributes (name ++ utf8 "_type") ≠ utf8 "4" ||
    value attributes (utf8 "driver") = utf8 "it87" ||
    value attributes (utf8 "driver") = utf8 "ntc-thermistor" ||
    value attributes (utf8 "driver") = utf8 "ntc_thermistor"

/-- A measurement of a channel whose unit is known. -/
def supportedMeasurement (suffix : Bytes) : Option U :=
  if unitSupported quantity attributes name then measurement quantity attributes (name ++ suffix)
  else none

/-- The attribute a channel is read from. -/
def originSuffix : Bytes :=
  if attributes.contains (name ++ utf8 "_input") then utf8 "_input"
  else if attributes.contains (name ++ utf8 "_average") then utf8 "_average"
  else utf8 "_input"

/-- An alarm attribute of a channel. -/
def isAlarm (key : Bytes) : Bool :=
  Bytes.startsWith key (name ++ utf8 "_") && Bytes.endsWith key (utf8 "_alarm")

/-- The alarms of a channel. -/
def alarms : List SensorAlarm :=
  (attributes.toList.filter (isAlarm name ·.1)).filterMap fun entry =>
    (flag attributes entry.1).map fun active => { attributeName := entry.1, active := active }

/-- `channel`. -/
def channel (source : RawSource) : SensorReading U :=
  { identity :=
      { id := path ++ 47 :: name
        origin := path ++ 47 :: name ++ originSuffix attributes name
        channel := name
        source := source
        chip := value attributes (utf8 "name")
        driver := value attributes (utf8 "driver")
        label := value attributes (name ++ utf8 "_label")
        devicePath := value attributes (utf8 "device_path")
        pciAddress := lastPciAddress (value attributes (utf8 "device_path")) }
    enabled := flag attributes (name ++ utf8 "_enable")
    fault := flag attributes (name ++ utf8 "_fault")
    unitSupported := unitSupported quantity attributes name
    input := supportedMeasurement quantity attributes name (utf8 "_input")
    average := supportedMeasurement quantity attributes name (utf8 "_average")
    minimum := supportedMeasurement quantity attributes name (utf8 "_min")
    maximum := supportedMeasurement quantity attributes name (utf8 "_max")
    critical := supportedMeasurement quantity attributes name (utf8 "_crit")
    alarms := alarms attributes name }

end Channel

/-! ### Groups -/

/-- `std::map` orders the sources as the enumeration does. -/
instance : Ord RawSource := ⟨fun a b => compare (CEnum.code a) (CEnum.code b)⟩

/-- One record of the grouping; a path without a slash has no directory. -/
def scanSensorRecord (groups : TreeMap (RawSource × Bytes) Attributes compare) (record : RawEvidence) :
    TreeMap (RawSource × Bytes) Attributes compare :=
  if (record.source = .sysfsHwmon ∨ record.source = .sysfsThermal) ∧ record.status = .success then
    match Bytes.rcut record.pathOrCommand 47 with
    | some (path, field) => upsert groups (record.source, path) (·.insert field record.payload)
    | none => groups
  else groups

/-- The length of the kind of a channel: `temp`, `fan` or `power`. -/
def channelStart (name : Bytes) : ℕ :=
  if name.startsWith (utf8 "temp") then 4
  else if name.startsWith (utf8 "fan") then 3
  else if name.startsWith (utf8 "power") then 5
  else 0

/-- The channel an attribute belongs to. -/
def channelName (field : Bytes) : Option Bytes :=
  match Bytes.cut field 95 with
  | some (name, _) =>
      let start := channelStart name
      if start ≠ 0 ∧ start < name.length ∧ (name.drop start).all isDigit then some name else none
  | none => none

/-- The channels of a directory. -/
def channels (attributes : Attributes) : List Bytes :=
  sortedSet (attributes.keys.filterMap channelName)

/-! ### Readings -/

/-- A reading with its unit. -/
inductive Reading where
  | temperature (reading : SensorReading SensorTemperature)
  | fan (reading : SensorReading FanSpeed)
  | power (reading : SensorReading SensorPower)
  deriving DecidableEq

/-- A critical trip point of a thermal zone lowers the critical temperature. -/
def tripPoint (attributes : Attributes) (critical : Option SensorTemperature) (entry : Bytes × Bytes) :
    Option SensorTemperature :=
  let (field, tripType) := entry
  if field.startsWith (utf8 "trip_point_") ∧ field.endsWith (utf8 "_type") ∧
      trim tripType = utf8 "critical" then
    match measurement temperatureQuantity attributes (field.take (field.length - 4) ++ utf8 "temp"),
        critical with
    | some limit, none => some limit
    | some limit, some lowest => if limit < lowest then some limit else some lowest
    | none, _ => critical
  else critical

/-- The temperature of a thermal directory. -/
def thermalReading (attributes : Attributes) (path : Bytes) : SensorReading SensorTemperature :=
  let translated := (attributes.insert (utf8 "temp1_input") (value attributes (utf8 "temp"))).insert
    (utf8 "temp1_label") (value attributes (utf8 "type"))
  let sensor := channel temperatureQuantity translated path (utf8 "temp1") .sysfsThermal
  { sensor with
    identity := { sensor.identity with
      origin := path ++ utf8 "/temp"
      chip := value attributes (utf8 "type") }
    critical := attributes.toList.foldl (tripPoint attributes) sensor.critical }

/-- The reading of a channel of an `hwmon` directory. -/
def channelReading (attributes : Attributes) (path : Bytes) (source : RawSource) (name : Bytes) : Reading :=
  if name.startsWith (utf8 "temp") then
    .temperature (channel temperatureQuantity attributes path name source)
  else if name.startsWith (utf8 "fan") then .fan (channel fanQuantity attributes path name source)
  else .power (channel powerQuantity attributes path name source)

/-- The readings of a directory. -/
def groupReadings (group : (RawSource × Bytes) × Attributes) : List Reading :=
  let ((source, path), attributes) := group
  if source = .sysfsThermal then
    if attributes.contains (utf8 "temp") then [.temperature (thermalReading attributes path)] else []
  else (channels attributes).map (channelReading attributes path source)

/-- One reading more. -/
def addReading (sensors : Sensors) : Reading → Sensors
  | .temperature reading => { sensors with temperatures := sensors.temperatures ++ [reading] }
  | .fan reading => { sensors with fans := sensors.fans ++ [reading] }
  | .power reading => { sensors with powers := sensors.powers ++ [reading] }

/-- `parse_sensors`. -/
def parseSensors (raw : EvidenceStore) : Sensors :=
  (raw.records.foldl scanSensorRecord ∅).toList.foldl
    (fun sensors group => (groupReadings group).foldl addReading sensors) {}

end Sysal.SensorParser
