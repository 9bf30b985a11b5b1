import ConfigGate.Digest.Sha256
import ConfigGate.Json.Writer
import ConfigGate.Resolution

/-!
# Snapshots

A snapshot holds the values a run saw. Its text is compact JSON with the keys in ascending order,
so equal values have equal texts, and its digest identifies them.
-/

namespace ConfigGate

/-- The execution tag and the values of a run. -/
structure Snapshot where
  executionEnv : String
  values : SortedMap String
deriving DecidableEq

namespace Snapshot

/-- The name of the format. -/
def formatName : String := "cfgguard.snapshot.v1"

/-- The snapshot of a resolution. Keys that were not set leave no trace. -/
def ofResolution (resolution : Resolution) : Snapshot :=
  ⟨resolution.executionEnv, resolution.values⟩

/-- The JSON of a snapshot. -/
def toJson (snapshot : Snapshot) : Json :=
  .object [("schema", .text formatName), ("execution_env", .text snapshot.executionEnv),
    ("values", .object (snapshot.values.entries.map fun entry => (entry.1, .text entry.2)))]

/-- The one text of a snapshot. -/
def text (snapshot : Snapshot) : String := snapshot.toJson.compact

/-- The SHA-256 digest of the text. -/
def digest (snapshot : Snapshot) : String := Digest.sha256 snapshot.text

end Snapshot

end ConfigGate
