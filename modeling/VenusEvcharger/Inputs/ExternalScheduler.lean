import VenusEvcharger.Energy.SourcePollingRuns

/-!
# The external sources of the Python helper

Scope: the errors of a read are those of `_SOURCE_READ_ERRORS`; any other one ends the helper.
-/

namespace VenusEvcharger.Inputs

open SourcePolling

/-- A Python `int`. -/
def pythonCounter : FailureCounter where
  increment failures := failures + 1
  counts _ := rfl

/-- The scheduler of the Python helper, which holds the states by the ids of the sources. -/
def externalSourceScheduler (definitions : List EnergySourceDefinition) (policy : ExternalPollingPolicy) :
    PollingRun String :=
  .start (definitions.map fun definition => (definition.sourceId, definition)) policy pythonCounter

end VenusEvcharger.Inputs
