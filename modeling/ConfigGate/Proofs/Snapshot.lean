import ConfigGate.Proofs.Gate.Fingerprints
import ConfigGate.Proofs.Host.Checking
import ConfigGate.Proofs.Json.RoundTrip
import ConfigGate.Proofs.Report.Records

/-!
# What a snapshot tells

The text of a snapshot is read back, so it tells the execution tag and the values and, as the values
are in one order, nothing else. A key that is not set is left out, which no value can be taken for.
If the hash tells two such texts apart, so do the reports of runs.

Results:
1. `decode?_bytes`: a snapshot is read back from the bytes of its text;
2. `configSha256_eq_iff`: runs report the same digest exactly if they saw the same;
3. `tracks_resolution`: snapshots have the same bytes, and runs report the same digest, exactly if
   the execution tags and the values are the same.
-/

namespace ConfigGate

open Json World

/-! ## Reading snapshots -/

namespace Snapshot

/-- Reads a member that is a text. -/
def textPair? (member : String × Json) : Option (String × String) :=
  member.2.text?.map fun value => (member.1, value)

/-- Reads an object whose members are texts. -/
def values? (value : Json) : Option (SortedMap String) := do
  let members ← value.members?
  let entries ← members.mapM textPair?
  some (.ofList entries)

/-- Reads a snapshot and the name of its format. -/
def ofJson? (value : Json) : Option (String × Snapshot) := do
  let record ← record? ["schema", "execution_env", "values"] 3 value
  let format ← record.field "schema" text?
  let executionEnv ← record.field "execution_env" text?
  let values ← record.field "values" values?
  some (format, ⟨executionEnv, values⟩)

/-- The bytes of the text of a snapshot. -/
def bytes (snapshot : Snapshot) : ByteArray := snapshot.text.toUTF8

/-- Reads a snapshot and the name of its format from bytes. -/
def decode? (bytes : ByteArray) : Option (String × Snapshot) :=
  (String.fromUTF8? bytes).bind fun text => (Json.read text).bind ofJson?

theorem mapM_textPair (entries : List (String × String)) :
    (entries.map fun entry => (entry.1, Json.text entry.2)).mapM textPair? = some entries := by
  induction entries with
  | nil => rfl
  | cons entry rest ih =>
      rw [List.map_cons, List.mapM_cons, ih]
      rfl

/-- Texts by ascending names are read back as they are. -/
theorem readsAs_values (values : SortedMap String) :
    ReadsAs values? (.object (values.entries.map fun entry => (entry.1, .text entry.2)))
      values := by
  have inOrder : sorted (.object (values.entries.map fun entry => (entry.1, .text entry.2))) =
      .object (values.entries.map fun entry => (entry.1, .text entry.2)) := by
    have whole := SortedMap.ofList_entries (values.mapValues fun _ value => Json.text value)
    rw [sorted_object, List.map_map]
    simp only [Function.comp_def, sorted_text]
    exact congrArg (fun map => Json.object map.entries) whole
  refine ⟨?_, sorted_object_ne_null _⟩
  rw [inOrder]
  show ((values.entries.map fun entry => (entry.1, Json.text entry.2)).mapM textPair?).bind
    (fun entries => some (SortedMap.ofList entries)) = some values
  rw [mapM_textPair, Option.bind_some, SortedMap.ofList_entries]

theorem ofJson?_sorted (snapshot : Snapshot) :
    ofJson? snapshot.toJson.sorted = some (formatName, snapshot) := by
  rw [toJson, ofJson?, record?_sorted]
  refine bind_field (readsAs_text formatName) (by simp) ?_
  refine bind_field (readsAs_text snapshot.executionEnv) (by simp) ?_
  exact bind_field (readsAs_values snapshot.values) (by simp) rfl

theorem legible (snapshot : Snapshot) (depth : Nat) :
    snapshot.toJson.Legible (depth + 2) := by
  refine .object ?_
  simp only [List.forall_mem_cons]
  refine ⟨.text _, .text _, .object ?_, nofun⟩
  exact List.forall_mem_map.mpr fun entry _ => .text entry.2

theorem fromUTF8?_toUTF8 (text : String) : String.fromUTF8? text.toUTF8 = some text := by
  rw [String.fromUTF8?, String.toUTF8_eq_toByteArray, dif_pos text.isValidUTF8]
  rfl

/-- A snapshot is read back from the bytes of its text. -/
theorem decode?_bytes (snapshot : Snapshot) :
    decode? snapshot.bytes = some (formatName, snapshot) := by
  rw [decode?, bytes, fromUTF8?_toUTF8, Option.bind_some, text,
    read_compact (snapshot.legible 125), Option.bind_some, ofJson?_sorted]

theorem bytes_inj {left right : Snapshot} : left.bytes = right.bytes ↔ left = right := by
  refine ⟨fun same => ?_, congrArg bytes⟩
  have decoded := congrArg decode? same
  rw [decode?_bytes, decode?_bytes] at decoded
  exact congrArg Prod.snd (Option.some.inj decoded)

end Snapshot

/-- `left.Alike right`: the execution tags are the same, and so is what is found under every key,
be it a value, an empty one, or none. Which keys are noted as missing does not count. -/
structure Resolution.Alike (left right : Resolution) : Prop where
  executionEnv : left.executionEnv = right.executionEnv
  values : ∀ key, left.values.get? key = right.values.get? key

theorem Snapshot.ofResolution_eq_iff {left right : Resolution} :
    ofResolution left = ofResolution right ↔ left.Alike right := by
  rw [ofResolution, ofResolution, Snapshot.mk.injEq]
  refine ⟨fun ⟨tag, values⟩ => ⟨tag, fun key => by rw [values]⟩, fun alike => ?_⟩
  exact ⟨alike.executionEnv, SortedMap.ext_get? alike.values⟩

/-! ## Runs -/

/-- A run of the checks in a world, and what came of it. -/
structure CheckRun where
  world : World
  schemaPath : String
  settingsText : String
  overrides : Overrides
  outcome : RunOutcome
  ran : (attempt (World.host.check schemaPath settingsText overrides) world).1 = .ok outcome

namespace CheckRun

/-- `run.Against resolution`: the resolution is what the run reads of the variables, by its schema
and its settings, and what came of the run was concluded from it. -/
def Against (run : CheckRun) (resolution : Resolution) : Prop :=
  ∃ schema resolved,
    Run.resolveText run.world.wording run.settingsText run.overrides = .ok resolved ∧
    run.world.schemaAt run.schemaPath = .ok schema ∧
    resolution = Resolution.read schema run.world.vars resolved.naming ∧
    run.outcome =
      Run.conclude run.schemaPath schema resolved run.world.vars run.world.now run.world.now

theorem exists_against (run : CheckRun) : ∃ resolution, run.Against resolution := by
  obtain ⟨schema, resolved, settled, loaded, concluded⟩ := check_eq_ok_iff.mp run.ran
  exact ⟨_, schema, resolved, settled, loaded, rfl, concluded⟩

theorem Against.configSha256 {run : CheckRun} {resolution : Resolution}
    (against : run.Against resolution) :
    run.outcome.report.data.configSha256 = some (Snapshot.ofResolution resolution).digest := by
  obtain ⟨schema, resolved, -, -, rfl, outcome⟩ := against
  rw [outcome]
  rfl

/-- If the hash tells the two texts apart, the reports have the same digest exactly if the runs saw
the same. -/
theorem Against.configSha256_eq_iff {leftRun rightRun : CheckRun} {left right : Resolution}
    (leftAgainst : leftRun.Against left) (rightAgainst : rightRun.Against right)
    (separates : Digest.Separates
      [(Snapshot.ofResolution left).text, (Snapshot.ofResolution right).text]) :
    leftRun.outcome.report.data.configSha256 = rightRun.outcome.report.data.configSha256 ↔
      left.Alike right := by
  rw [leftAgainst.configSha256, rightAgainst.configSha256, Option.some.injEq,
    ← Snapshot.ofResolution_eq_iff]
  refine ⟨fun same => ?_, congrArg Snapshot.digest⟩
  have texts := separates _ List.mem_cons_self _ (List.mem_cons_of_mem _ List.mem_cons_self) same
  exact Snapshot.bytes_inj.mp (congrArg String.toUTF8 texts)

end CheckRun

/-- The bytes of two snapshots are the same exactly if the execution tags and the values are; they
are read back; and if the hash tells them apart, so do the digests that runs report. -/
theorem Snapshot.tracks_resolution :
    (∀ left right : Resolution,
      (ofResolution left).bytes = (ofResolution right).bytes ↔ left.Alike right) ∧
    (∀ resolution : Resolution,
      decode? (ofResolution resolution).bytes = some (formatName, ofResolution resolution)) ∧
    (∀ run : CheckRun, ∃ resolution, run.Against resolution) ∧
    ∀ (leftRun rightRun : CheckRun) (left right : Resolution),
      leftRun.Against left → rightRun.Against right →
      Digest.Separates [(ofResolution left).text, (ofResolution right).text] →
      (leftRun.outcome.report.data.configSha256 = rightRun.outcome.report.data.configSha256 ↔
        left.Alike right) := by
  refine ⟨fun left right => ?_, fun resolution => decode?_bytes _, CheckRun.exists_against, ?_⟩
  · rw [bytes_inj, ofResolution_eq_iff]
  · intro leftRun rightRun left right leftAgainst rightAgainst separates
    exact leftAgainst.configSha256_eq_iff rightAgainst separates

/-! ## Unset and empty -/

def looseText : String := "config: {a: {}, b: {}}"

def looseKeys : Schema :=
  { config := .ofList [("a", ⟨.string, false, []⟩), ("b", ⟨.string, false, []⟩)]
    invariants := []
    environments := .empty }

/-- The variable of one key may be set, and that of the other looks like a part of a snapshot. -/
def looseVars (value : Option String) : Variables := fun name =>
  if name = "A" then value else if name = "B" then some "\",\"a\":\"\n\u0001" else none

def looseWorld (value : Option String) (now : Timestamp) : World where
  files := ⟨[(["cfgguard.yaml"], .file looseText)]⟩
  directory := []
  vars := looseVars value
  now := now
  output := ""
  errorOutput := ""

/-- What a run in such a world reads. -/
def looseResolution (value : Option String) : Resolution :=
  Resolution.read looseKeys (looseVars value) .default

theorem exists_looseRun (value : Option String) (now : Timestamp) :
    ∃ run : CheckRun, run.world = looseWorld value now ∧ run.Against (looseResolution value) := by
  obtain ⟨resolved, settled, naming⟩ : ∃ resolved,
      Run.resolveText .plain "" .none = .ok resolved ∧ resolved.naming = .default := ⟨_, rfl, rfl⟩
  have read : Schema.read .plain looseText = .ok looseKeys := by decide +kernel
  have loaded : (looseWorld value now).schemaAt "cfgguard.yaml" = .ok looseKeys := read
  have seen : looseResolution value =
      Resolution.read looseKeys (looseWorld value now).vars resolved.naming := by
    rw [naming]
    rfl
  have ran := check_eq_ok_iff.mpr ⟨looseKeys, resolved, settled, loaded, rfl⟩
  exact ⟨⟨_, _, _, _, _, ran⟩, rfl, looseKeys, resolved, settled, loaded, seen, rfl⟩

/-- An empty value gives another digest than none, and another time the same. -/
theorem looseWorld_tracked :
    ∃ unset blank later : CheckRun, unset.world = looseWorld none .epoch ∧
      blank.world = looseWorld (some "") .epoch ∧
      later.world = looseWorld none ⟨⟨2024, 2, 29, 23, 59, 59, 120000000, -90⟩, by decide⟩ ∧
      unset.outcome.report.data.configSha256 ≠ blank.outcome.report.data.configSha256 ∧
      unset.outcome.report.data.configSha256 = later.outcome.report.data.configSha256 := by
  obtain ⟨unset, unsetWorld, unsetAgainst⟩ := exists_looseRun none .epoch
  obtain ⟨blank, blankWorld, blankAgainst⟩ := exists_looseRun (some "") .epoch
  obtain ⟨later, laterWorld, laterAgainst⟩ :=
    exists_looseRun none ⟨⟨2024, 2, 29, 23, 59, 59, 120000000, -90⟩, by decide⟩
  have separates : Digest.Separates [(Snapshot.ofResolution (looseResolution none)).text,
      (Snapshot.ofResolution (looseResolution (some ""))).text] :=
    Digest.separates_of_nodup (by decide +kernel)
  have once : Digest.Separates [(Snapshot.ofResolution (looseResolution none)).text,
      (Snapshot.ofResolution (looseResolution none)).text] :=
    separates.mono (List.forall_mem_cons.mpr
      ⟨List.mem_cons_self, List.forall_mem_singleton.mpr List.mem_cons_self⟩)
  obtain ⟨-, -, -, reported⟩ := Snapshot.tracks_resolution
  refine ⟨unset, blank, later, unsetWorld, blankWorld, laterWorld, fun same => ?_, ?_⟩
  · have alike := (reported unset blank _ _ unsetAgainst blankAgainst separates).mp same
    exact absurd (alike.values "a") (by decide +kernel)
  · exact (reported unset later _ _ unsetAgainst laterAgainst once).mpr ⟨rfl, fun _ => rfl⟩

end ConfigGate
