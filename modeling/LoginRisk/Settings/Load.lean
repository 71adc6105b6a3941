import LoginRisk.Settings.Json
import LoginRisk.Settings.Validate
import LoginRisk.Toml.Reader

/-!
Settings from the text of a configuration file.
-/

namespace LoginRisk

inductive LoadError where
  | document (error : Toml.DocumentError)
  | field (error : Json.DecodeError)
  | invalid (error : SettingsError)

def LoadError.message : LoadError → String
  | .document e => e.message
  | .field e => e.message
  | .invalid e => e.message

namespace Settings

def sectionSizes : List (String × Nat) := [
  ("service", ServiceSettings.fieldNames.length),
  ("cache", CacheSettings.fieldNames.length),
  ("scoring", ScoringSettings.fieldNames.length),
  ("embedding", EmbeddingSettings.fieldNames.length),
  ("anomaly", AnomalySettings.fieldNames.length),
  ("threat_intel", ThreatSettings.fieldNames.length),
  ("learning", LearningSettings.fieldNames.length),
  ("health", HealthSettings.fieldNames.length),
  ("metrics", MetricsSettings.fieldNames.length),
  ("storage", StorageSettings.fieldNames.length),
  ("alerting", AlertingSettings.fieldNames.length),
  ("logging", LoggingSettings.fieldNames.length)]

/-- Cuts a section that is given as an array of its values down to its fields. -/
def cutSection (m : String × Json) : String × Json :=
  match m.2, sectionSizes.lookup m.1 with
  | .array values, some size => (m.1, .array (values.take size))
  | _, _ => m

/-- The settings of a document. A section may be an array of its values in order, and those after the
last field are passed over. -/
def ofDocument : Json → Except Json.DecodeError Settings
  | .object sections => ofJson (.object (sections.map cutSection))
  | j => ofJson j

def load (text : String) : Except LoadError Settings := do
  let j ← (Toml.read text).mapError .document
  let s ← (ofDocument j).mapError .field
  s.validate.mapError .invalid
  return s

end Settings

end LoginRisk
