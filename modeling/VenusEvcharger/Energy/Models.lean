import Mathlib.Algebra.Order.Ring.Rat

/-!
# Energy sources

What the configuration says about an energy source, and the snapshot of one, with the values of finite floats.
-/

namespace VenusEvcharger

/-- Describe one explicitly configured external energy source. -/
structure EnergySourceDefinition where
  sourceId : String
  role : String
  usableCapacityWh : Option ℚ
  capacityAutoEstimate : Bool
  capacityStartupRecheckSeconds : ℚ
  estimatedCapacityAh : Option ℚ
  physicalId : String
  physicalPriority : Int

/-- Runtime snapshot for one normalized energy source. -/
structure EnergySourceSnapshot where
  sourceId : String
  role : String
  soc : Option ℚ
  usableCapacityWh : Option ℚ
  netBatteryPowerW : Option ℚ
  chargeLimitPowerW : Option ℚ
  dischargeLimitPowerW : Option ℚ
  acPowerW : Option ℚ
  pvInputPowerW : Option ℚ
  gridInteractionW : Option ℚ
  acPowerScopeKey : String
  pvInputPowerScopeKey : String
  gridInteractionScopeKey : String
  online : Bool
  confidence : ℚ
  capturedAt : Option ℚ
  physicalId : String
  physicalPriority : Int
  deriving DecidableEq

namespace EnergySourceSnapshot

variable (source : EnergySourceSnapshot)

def chargePowerW : Option ℚ := source.netBatteryPowerW.map fun netBatteryPowerW => max 0 (-netBatteryPowerW)

def dischargePowerW : Option ℚ := source.netBatteryPowerW.map (max 0)

end EnergySourceSnapshot

end VenusEvcharger
