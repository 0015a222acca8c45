import Sysal.Model.Enums
import Sysal.Model.Values

/-!
# Sensors

Readings of temperature, fan and power channels.  A temperature is a signed number of millidegrees
Celsius; the other units are unsigned.
-/

namespace Sysal

abbrev SensorTemperature := Int64
abbrev FanSpeed := UInt64
abbrev SensorPower := UInt64

structure SensorIdentity where
  id : Bytes := []
  chip : Bytes := []
  driver : Bytes := []
  channel : Bytes := []
  label : Bytes := []
  source : RawSource := .procCpuInfo
  origin : Bytes := []
  devicePath : Bytes := []
  pciAddress : Option PciAddress := none
  deriving DecidableEq, Inhabited

structure SensorAlarm where
  attributeName : Bytes := []
  active : Bool := false
  deriving DecidableEq, Inhabited

/-- Only values of the same physical unit share this representation. -/
structure SensorReading (Unit : Type) where
  identity : SensorIdentity := {}
  input : Option Unit := none
  average : Option Unit := none
  minimum : Option Unit := none
  maximum : Option Unit := none
  critical : Option Unit := none
  enabled : Option Bool := none
  fault : Option Bool := none
  alarms : List SensorAlarm := []
  unitSupported : Bool := true
  deriving DecidableEq, Inhabited

structure Sensors where
  temperatures : List (SensorReading SensorTemperature) := []
  fans : List (SensorReading FanSpeed) := []
  powers : List (SensorReading SensorPower) := []
  deriving DecidableEq, Inhabited

end Sysal
