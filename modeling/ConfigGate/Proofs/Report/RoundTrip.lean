import ConfigGate.Proofs.Gate.Findings
import ConfigGate.Proofs.Gate.Verdict
import ConfigGate.Proofs.Json.RoundTrip
import ConfigGate.Proofs.Report.Nesting
import ConfigGate.Run

/-!
# Reports read back

A report that a run makes, or that tells of a run that did not work, or that was read, is read back
from its text as it is. The only part of it that is free is the data of its findings: these must be
in the form that the reader gives them, which is so of all these reports, and must not hold
floating-point numbers.

Results:
1. `read_text`: a report with such data is read back;
2. `storable_of_read`: a report that was read has data in that form;
3. `read_text_of_conclude`, `read_text_of_runtimeError`: the reports of runs are read back;
4. `read_text_of_produced`: every report that a program comes by is read back, and its text is the
   same again.
-/

namespace ConfigGate

open Json

/-! ## Plain data -/

/-- `value.Plain depth`: the value is stored at this depth and holds no floating-point number. -/
structure Json.Plain (depth : Nat) (value : Json) : Prop where
  stored : value.Stored depth
  free : value.FloatFree

namespace Json

variable (depth : Nat)

theorem plain_null : Plain depth .null := ⟨.null, .null⟩

theorem plain_text (value : String) : Plain depth (.text value) := ⟨.text value, .text value⟩

theorem plain_texts (values : List String) : Plain (depth + 1) (texts values) :=
  ⟨.array (List.forall_mem_map.mpr fun value _ => .text value),
    .array (List.forall_mem_map.mpr fun value _ => .text value)⟩

theorem plain_sortedObject {members : List (String × Json)}
    (plain : ∀ member ∈ members, member.2.Plain depth) :
    (sortedObject members).Plain (depth + 1) := by
  refine ⟨stored_sortedObject fun member inside => (plain member inside).stored, .object ?_⟩
  rintro ⟨name, value⟩ inside
  have found := SortedMap.mem_of_get?_ofList (SortedMap.get?_eq_some_iff.mpr inside)
  exact (plain (name, value) found).free

end Json

/-- The data of the findings that checks make are texts and lists of texts. -/
theorem Gate.Finds.plain {schema : Schema} {context : Context} {policy : Policy}
    {finding : Finding} (finds : Gate.Finds schema context policy finding) (depth : Nat) :
    finding.data.Plain (depth + 2) := by
  have text (value : String) : Plain (depth + 1) (.text value) := plain_text _ value
  cases finds with
  | missing _ _ _ _ =>
      refine plain_sortedObject _ ?_
      simp only [List.forall_mem_cons]
      exact ⟨text _, text _, nofun⟩
  | undeclared _ _ _ _ _ =>
      refine plain_sortedObject _ ?_
      simp only [List.forall_mem_cons]
      exact ⟨text _, text _, text _, plain_texts depth _, nofun⟩
  | broken _ _ _ =>
      refine plain_sortedObject _ ?_
      simp only [List.forall_mem_cons]
      exact ⟨text _, text _, text _, text _, nofun⟩
  | @violated _ _ _ violation _ _ _ _ _ =>
      refine plain_sortedObject _ ?_
      simp only [List.forall_mem_cons]
      refine ⟨text _, text _, text _, text _, plain_texts depth _, ?_, nofun⟩
      cases violation.pattern with
      | none => exact plain_null _
      | some pattern => exact text pattern

/-! ## Reports that are read back -/

namespace Report

/-- The levels of nesting that are left for the data of a finding. -/
def dataDepth : Nat := 124

/-- `report.Storable`: the report is of this format, and the data of its findings are such as are
read from reports. -/
structure Storable (report : Report) : Prop where
  format : report.formatName = currentFormat
  data : ∀ finding ∈ report.findings, finding.data.Stored dataDepth

/-- A report without floating-point numbers is read back from its text. -/
theorem read_text {report : Report} (storable : report.Storable)
    (free : ∀ finding ∈ report.findings, finding.data.FloatFree) :
    read report.text = .ok report := by
  have legible : report.toJson.Legible maxDepth := legible 122 fun finding member =>
    (storable.data finding member).legible (free finding member)
  have inOrder : ∀ finding ∈ report.findings, finding.data.sorted = finding.data :=
    fun finding member => (storable.data finding member).sorted_eq
  rw [read, text, read_pretty legible]
  simp only
  rw [ofJson, formatOf_sorted, if_pos storable.format, ofJson?_sorted inOrder]

/-- A report that was read can be stored. -/
theorem storable_of_read {text : String} {report : Report} (made : read text = .ok report) :
    report.Storable := by
  rw [read] at made
  split at made
  · exact absurd made nofun
  · rename_i value parsed
    rw [ofJson] at made
    split at made
    · rename_i named
      split at made
      · rename_i whole opened
        obtain rfl := Except.ok.inj made
        exact ⟨formatName_of_ofJson? named opened,
          stored_of_ofJson? (stored_of_read parsed) opened⟩
      · exact absurd made nofun
    · exact absurd made nofun

/-! ## Reports that were made -/

/-- Where the data of the findings are plain, nothing else stands against reading a report back. -/
theorem read_text_of_plain {report : Report} (format : report.formatName = currentFormat)
    (plain : ∀ finding ∈ report.findings, finding.data.Plain dataDepth) :
    read report.text = .ok report :=
  read_text ⟨format, fun finding member => (plain finding member).stored⟩
    fun finding member => (plain finding member).free

theorem plain_of_conclude (schemaPath : String) (schema : Schema) (resolved : Resolved)
    (vars : Variables) (startedAt finishedAt : Timestamp) :
    ∀ finding ∈ (Run.conclude schemaPath schema resolved vars startedAt finishedAt).report.findings,
      finding.data.Plain dataDepth := by
  intro finding member
  obtain ⟨shown, emitted, rfl⟩ := List.mem_map.mp member
  have found := Finding.mem_sort.mp (List.mem_of_mem_take emitted)
  exact (Gate.mem_allFindings_iff.mp found).plain 122

theorem plain_of_runtimeError (now : Timestamp) (message : String) :
    ∀ finding ∈ (ofRuntimeError now message).findings, finding.data.Plain dataDepth := by
  intro finding member
  obtain rfl := List.mem_singleton.mp member
  exact plain_null dataDepth

/-- The report of a run is read back from its text. -/
theorem read_text_of_conclude (schemaPath : String) (schema : Schema) (resolved : Resolved)
    (vars : Variables) (startedAt finishedAt : Timestamp) :
    read (Run.conclude schemaPath schema resolved vars startedAt finishedAt).report.text =
      .ok (Run.conclude schemaPath schema resolved vars startedAt finishedAt).report :=
  read_text_of_plain rfl (plain_of_conclude schemaPath schema resolved vars startedAt finishedAt)

/-- The report of a run that did not work is read back from its text. -/
theorem read_text_of_runtimeError (now : Timestamp) (message : String) :
    read (ofRuntimeError now message).text = .ok (ofRuntimeError now message) :=
  read_text_of_plain rfl (plain_of_runtimeError now message)

/-- The reports that a program comes by: of a run, of a run that did not work, or by reading. -/
inductive Produced : Report → Prop
  | run (schemaPath : String) (schema : Schema) (resolved : Resolved) (vars : Variables)
      (startedAt finishedAt : Timestamp) :
      Produced (Run.conclude schemaPath schema resolved vars startedAt finishedAt).report
  | failure (now : Timestamp) (message : String) : Produced (ofRuntimeError now message)
  | stored {text : String} {report : Report} : read text = .ok report → Produced report

/-- Unless its data hold floating-point numbers, a report is read back from its text with nothing
lost, and the text of what was read is the same again. -/
theorem read_text_of_produced {report : Report} (produced : report.Produced)
    (free : ∀ finding ∈ report.findings, finding.data.FloatFree) :
    ∃ again, read report.text = .ok again ∧ again = report ∧ again.text = report.text := by
  have back : read report.text = .ok report := by
    cases produced with
    | run schemaPath schema resolved vars startedAt finishedAt =>
        exact read_text_of_conclude schemaPath schema resolved vars startedAt finishedAt
    | failure now message => exact read_text_of_runtimeError now message
    | stored made => exact read_text (storable_of_read made) free
  exact ⟨report, back, rfl, rfl⟩

/-! ## A report with something under every name -/

/-- Free data of every kind. -/
def freeData : Json :=
  sortedObject [("range", .array [.int (-9223372036854775808), .int 18446744073709551615]),
    ("note", .text "\u0001 \"quoted\" \\ \n é"), ("nothing", .null), ("empty", .array []),
    ("more", sortedObject [("checked", .bool true)])]

/-- One finding shows everything and another nothing that may be left out. -/
def variedReport : Report :=
  { formatName := currentFormat
    tool := ⟨"cfgguard", "0.0.9"⟩
    startedAt := ⟨⟨2024, 2, 29, 23, 59, 59, 120000000, -90⟩, by decide⟩
    finishedAt := ⟨⟨2024, 3, 1, 0, 0, 0, 0, 0⟩, by decide⟩
    verdict := .warn
    findings := [
      ⟨.warning, "custom", "c", "m", some ⟨"a.yaml", some 3, none⟩, some "h", some "u", some "f",
        freeData⟩,
      ⟨.info, "", "", "", none, none, none, none, .null⟩]
    data := ⟨"warn", "", some "prod", 1, 0, 2, 4294967295, 2, some "cut", none⟩
    invariants := [⟨"tls", "a == b", false, "", "x", "no"⟩, ⟨"plain", "a", true, "1", "", ""⟩]
    contract := some ⟨"prod", false,
      [⟨"a", "1", .deny, ["*"], some "*"⟩, ⟨"b", "", .allow, [], none⟩]⟩ }

theorem plain_freeData : freeData.Plain dataDepth := by
  have inner : (sortedObject [("checked", .bool true)]).Plain 123 := by
    refine plain_sortedObject _ ?_
    rw [List.forall_mem_singleton]
    exact ⟨.bool true, .bool true⟩
  refine plain_sortedObject _ ?_
  simp only [List.forall_mem_cons]
  refine ⟨⟨.array ?_, .array ?_⟩, plain_text _ _, plain_null _, ⟨.array nofun, .array nofun⟩, inner,
    nofun⟩
  · simp only [List.forall_mem_cons]
    exact ⟨.int (by decide), .int (by decide), nofun⟩
  · simp only [List.forall_mem_cons]
    exact ⟨.int _, .int _, nofun⟩

/-- The report is one that is read, and it is read back as it is. -/
theorem variedReport_back :
    variedReport.Produced ∧ (∀ finding ∈ variedReport.findings, finding.data.FloatFree) ∧
      ∃ again, read variedReport.text = .ok again ∧ again = variedReport ∧
        again.text = variedReport.text := by
  have plain : ∀ finding ∈ variedReport.findings, finding.data.Plain dataDepth := by
    refine List.forall_mem_cons.mpr ⟨plain_freeData, ?_⟩
    exact List.forall_mem_singleton.mpr (plain_null dataDepth)
  have free : ∀ finding ∈ variedReport.findings, finding.data.FloatFree :=
    fun finding member => (plain finding member).free
  have produced : variedReport.Produced := .stored (read_text_of_plain rfl plain)
  exact ⟨produced, free, read_text_of_produced produced free⟩

end Report

end ConfigGate
