import ConfigGate.Proofs.Json.Soundness
import ConfigGate.Proofs.Report.Records

/-!
# How deep the parts of reports are nested

Every part of a report is legible at the depth at which it stands. The data of a finding stand three
levels deep, below the report, the list of its findings and the finding; and what was read at a
depth has parts that were read one level less deep.

Results:
1. `Report.legible`: a report is legible if the data of its findings are;
2. `Report.stored_of_ofJson?`: the data of the findings of a report that was read are stored.
-/

namespace ConfigGate

open Json

/-! ## Legible parts -/

theorem forall_mem_optionalMember {α : Type} {name : String} {encode : α → Json}
    {value : Option α} {holds : String × Json → Prop} (all : ∀ x, holds (name, encode x)) :
    ∀ member ∈ optionalMember name encode value, holds member := by
  cases value with
  | none => exact nofun
  | some x => exact List.forall_mem_singleton.mpr (all x)

section Legible

variable (depth : Nat)

theorem legible_count (count : UInt32) : (countJson count).Legible depth := by
  have fits : count.toNat < Decimal.twoTo 64 := Nat.lt_trans count.toNat_lt (by decide)
  exact .int ⟨by omega, by omega⟩

theorem legible_array {α : Type} {encode : α → Json} {values : List α}
    (legible : ∀ x ∈ values, (encode x).Legible depth) :
    (Json.array (values.map encode)).Legible (depth + 1) :=
  .array (List.forall_mem_map.mpr legible)

theorem Location.legible (location : Location) : location.toJson.Legible (depth + 1) := by
  refine .object ?_
  rw [List.forall_mem_append, List.forall_mem_append, List.forall_mem_singleton]
  exact ⟨⟨.text _, forall_mem_optionalMember fun count => legible_count depth count⟩,
    forall_mem_optionalMember fun count => legible_count depth count⟩

theorem Finding.legible {finding : Finding} (data : finding.data.Legible (depth + 1)) :
    finding.toJson.Legible (depth + 2) := by
  rw [toJson_eq]
  refine .object ?_
  simp only [List.forall_mem_append, List.forall_mem_cons]
  refine ⟨⟨⟨⟨⟨⟨.text _, .text _, .text _, .text _, List.forall_mem_nil _⟩,
    forall_mem_optionalMember fun location => location.legible depth⟩,
    forall_mem_optionalMember fun help => .text help⟩,
    forall_mem_optionalMember fun url => .text url⟩,
    forall_mem_optionalMember fun digest => .text digest⟩, ?_⟩
  rw [data?]
  split
  · exact List.forall_mem_nil _
  · exact List.forall_mem_singleton.mpr data

theorem InvariantResult.legible (result : InvariantResult) :
    result.toJson.Legible (depth + 1) := by
  refine .object ?_
  simp only [List.forall_mem_append, List.forall_mem_cons]
  refine ⟨⟨.text _, .text _, .bool _, .text _, .text _, nofun⟩, ?_⟩
  split
  · exact nofun
  · exact List.forall_mem_singleton.mpr (.text _)

theorem Violation.legible (violation : Violation) : violation.toJson.Legible (depth + 2) := by
  refine .object ?_
  simp only [List.forall_mem_append, List.forall_mem_cons]
  exact ⟨⟨.text _, .text _, .text _, legible_array depth fun value _ => .text value, nofun⟩,
    forall_mem_optionalMember fun pattern => .text pattern⟩

theorem ContractResult.legible (result : ContractResult) : result.toJson.Legible (depth + 4) := by
  refine .object ?_
  simp only [List.forall_mem_cons]
  exact ⟨.text _, .bool _, legible_array _ fun violation _ => violation.legible depth, nofun⟩

theorem ReportData.legible (data : ReportData) : data.toJson.Legible (depth + 1) := by
  have count (count : UInt32) : (countJson count).Legible depth := legible_count depth count
  refine .object ?_
  simp only [List.forall_mem_append, List.forall_mem_cons]
  exact ⟨⟨⟨⟨⟨.text _, .text _, nofun⟩, forall_mem_optionalMember fun contract => .text contract⟩,
    count _, count _, count _, count _, count _, nofun⟩,
    forall_mem_optionalMember fun reason => .text reason⟩,
    forall_mem_optionalMember fun digest => .text digest⟩

theorem Tool.legible (tool : Tool) : tool.toJson.Legible (depth + 1) := by
  refine .object ?_
  simp only [List.forall_mem_cons]
  exact ⟨.text _, .text _, nofun⟩

/-- The data of findings stand three levels deep in a report. -/
theorem Report.legible {report : Report}
    (data : ∀ finding ∈ report.findings, finding.data.Legible (depth + 2)) :
    report.toJson.Legible (depth + 5) := by
  refine .object ?_
  simp only [List.forall_mem_append, List.forall_mem_cons]
  exact ⟨⟨.text _, report.tool.legible _, .text _, .text _, .text _,
    legible_array _ fun finding member => Finding.legible (depth + 1) (data finding member),
    report.data.legible _, legible_array _ fun result _ => result.legible _, nofun⟩,
    forall_mem_optionalMember fun result => result.legible depth⟩

end Legible

/-! ## Reports that were read -/

theorem mem_of_itemAt {name : String} {names : List String} {items : List Json} {item : Json}
    (found : itemAt name names items = some item) : item ∈ items := by
  induction names generalizing items with
  | nil => exact absurd found nofun
  | cons known names ih =>
      cases items with
      | nil => exact absurd found nofun
      | cons first others =>
          rw [itemAt] at found
          split at found
          · rw [← Option.some.inj found]
            exact List.mem_cons_self
          · exact List.mem_cons_of_mem first (ih found)

/-- The members of a stored record are stored, one level less deep. -/
theorem stored_of_record {depth : Nat} {value part : Json} {names : List String} {required : Nat}
    {record : Record} {name : String} (stored : value.Stored (depth + 1))
    (opened : record? names required value = some record) (found : record name = some part) :
    part.Stored depth := by
  cases stored with
  | @object _ members stored =>
      obtain rfl := Option.some.inj opened
      exact stored (name, part) (SortedMap.get?_eq_some_iff.mp found)
  | @array _ items stored =>
      -- The reader also takes a list for a record, item by item.
      rw [record?] at opened
      split at opened
      · obtain rfl := Option.some.inj opened
        exact stored part (mem_of_itemAt found)
      · exact absurd opened (Option.some_ne_none record).symm
  | null | bool _ | int _ | float _ | text _ =>
      exact absurd opened (Option.some_ne_none record).symm

/-- What is read of some items comes from one of them. -/
theorem exists_item_of_mapM {α : Type} {read : Json → Option α} {items : List Json}
    {values : List α} (made : items.mapM read = some values) {x : α} (member : x ∈ values) :
    ∃ item ∈ items, read item = some x := by
  induction items generalizing values with
  | nil =>
      obtain rfl := Option.some.inj made
      exact absurd member List.not_mem_nil
  | cons item others ih =>
      rw [List.mapM_cons] at made
      obtain ⟨first, here, made⟩ := Option.bind_eq_some_iff.mp made
      obtain ⟨rest, further, made⟩ := Option.bind_eq_some_iff.mp made
      obtain rfl := Option.some.inj made
      rcases List.mem_cons.mp member with rfl | inRest
      · exact ⟨item, List.mem_cons_self, here⟩
      · obtain ⟨other, inside, back⟩ := ih further inRest
        exact ⟨other, List.mem_cons_of_mem item inside, back⟩

/-- What is read as a list comes from the items of an array. -/
theorem exists_item_of_list? {α : Type} {read : Json → Option α} {value : Json} {values : List α}
    (made : list? read value = some values) {x : α} (member : x ∈ values) :
    ∃ items item, value = .array items ∧ item ∈ items ∧ read item = some x := by
  obtain ⟨items, shape, mapped⟩ := Option.bind_eq_some_iff.mp made
  have isArray : value = .array items := by
    cases value with
    | array _ => exact congrArg Json.array (Option.some.inj shape)
    | _ => exact absurd shape nofun
  obtain ⟨item, inside, back⟩ := exists_item_of_mapM mapped member
  exact ⟨items, item, isArray, inside, back⟩

theorem Finding.stored_of_ofJson? {depth : Nat} {value : Json} {finding : Finding}
    (stored : value.Stored (depth + 1)) (made : ofJson? value = some finding) :
    finding.data.Stored depth := by
  simp only [ofJson?, Option.bind_eq_bind, Option.bind_eq_some_iff] at made
  obtain ⟨record, opened, severity, -, checkId, -, code, -, message, -, location, -, help, -, url,
    -, fingerprint, -, data, dataRead, equal⟩ := made
  obtain rfl := Option.some.inj equal
  show data.Stored depth
  rw [Record.fieldOr] at dataRead
  split at dataRead
  · rw [← Option.some.inj dataRead]
    exact .null
  · rename_i part found
    rw [← Option.some.inj dataRead]
    exact stored_of_record stored opened found

namespace Report

theorem stored_of_ofJson? {depth : Nat} {value : Json} {report : Report}
    (stored : value.Stored (depth + 3)) (made : ofJson? value = some report) :
    ∀ finding ∈ report.findings, finding.data.Stored depth := by
  simp only [ofJson?, Option.bind_eq_bind, Option.bind_eq_some_iff] at made
  obtain ⟨record, opened, formatName, -, tool, -, startedAt, -, finishedAt, -, verdict, -, findings,
    findingsRead, data, -, invariants, -, contract, -, equal⟩ := made
  obtain rfl := Option.some.inj equal
  intro finding member
  obtain ⟨part, found, listed⟩ := Option.bind_eq_some_iff.mp findingsRead
  obtain ⟨items, item, rfl, inside, back⟩ := exists_item_of_list? listed member
  cases stored_of_record stored opened found with
  | array itemsStored => exact Finding.stored_of_ofJson? (itemsStored item inside) back

/-- Only an object gives the name of its format. -/
theorem formatName_of_ofJson? {value : Json} {report : Report}
    (named : formatOf value = currentFormat) (made : ofJson? value = some report) :
    report.formatName = currentFormat := by
  simp only [ofJson?, Option.bind_eq_bind, Option.bind_eq_some_iff] at made
  obtain ⟨record, opened, formatName, nameRead, tool, -, startedAt, -, finishedAt, -, verdict, -,
    findings, -, data, -, invariants, -, contract, -, equal⟩ := made
  obtain rfl := Option.some.inj equal
  cases value with
  | object members =>
      obtain rfl := Option.some.inj opened
      have given : (lookupEntry "schema" members).bind text? = some formatName := nameRead
      show formatName = currentFormat
      rw [formatOf, member?, given] at named
      exact named
  | _ =>
      have unnamed : "" = currentFormat := named
      exact absurd unnamed (by decide)

end Report

end ConfigGate
