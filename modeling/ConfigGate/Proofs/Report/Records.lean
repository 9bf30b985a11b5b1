import ConfigGate.Proofs.Json.Values
import ConfigGate.Proofs.Time.RoundTrip
import ConfigGate.Report.Reader

/-!
# Records read back

Every record of a report is read back from its JSON, whatever members are left out of it, with the
members in the order in which the reader finds them. Free data are read back if they are in order.

Results: `Report.ofJson?_sorted`: a report is read back from its JSON.
-/

namespace ConfigGate

open Json

/-! ## Members -/

theorem SortedMap.get?_ofList_map {α β : Type} (f : α → β) (entries : List (String × α))
    (key : String) :
    (ofList (entries.map fun entry => (entry.1, f entry.2))).get? key =
      ((ofList entries).get? key).map f := by
  induction entries with
  | nil => rfl
  | cons entry rest ih =>
      rw [List.map_cons, get?_ofList_cons, get?_ofList_cons, ih, Option.map_or]
      split <;> rfl

@[simp] theorem get?_optionalMember {α : Type} (name : String) (encode : α → Json)
    (value : Option α) (key : String) :
    (SortedMap.ofList (optionalMember name encode value)).get? key =
      if name = key then value.map encode else none := by
  cases value with
  | none => simp [optionalMember]
  | some x => simp [optionalMember]

namespace Json

/-- The members of an object that was put in order. -/
def lookUp (members : List (String × Json)) : Record :=
  fun name => ((SortedMap.ofList members).get? name).map sorted

theorem record?_sorted (names : List String) (required : Nat) (members : List (String × Json)) :
    record? names required (sorted (.object members)) = some (lookUp members) := by
  rw [sorted_object, sortedObject, record?]
  congr 1
  funext name
  exact SortedMap.get?_ofList_map sorted members name

/-- `ReadsAs read json value`: put in order, the JSON is not null and is read as the value. -/
structure ReadsAs {α : Type} (read : Json → Option α) (json : Json) (value : α) : Prop where
  back : read json.sorted = some value
  notNull : json.sorted ≠ .null

section Fields

variable {α β : Type} {members : List (String × Json)} {name : String} {read : Json → Option α}
  {result : β}

/-- Reading goes on behind a member that is there. -/
theorem bind_field {next : α → Option β} {json : Json} {value : α}
    (readsAs : ReadsAs read json value)
    (found : (SortedMap.ofList members).get? name = some json)
    (goesOn : next value = some result) :
    ((lookUp members).field name read).bind next = some result := by
  rw [Record.field, lookUp, found, Option.map_some, Option.bind_some, readsAs.back,
    Option.bind_some, goesOn]

/-- Reading goes on behind a member that may be missing. -/
theorem bind_field? {next : Option α → Option β} {encode : α → Json} (value : Option α)
    (readsAs : ∀ x ∈ value, ReadsAs read (encode x) x)
    (found : (SortedMap.ofList members).get? name = value.map encode)
    (goesOn : next value = some result) :
    ((lookUp members).field? name read).bind next = some result := by
  have shown : lookUp members name = value.map fun x => (encode x).sorted := by
    rw [lookUp, found, Option.map_map]
    rfl
  have whole : (lookUp members).field? name read = some value := by
    rw [Record.field?, shown]
    cases value with
    | none => rfl
    | some x =>
        have here := readsAs x rfl
        rw [Option.map_some]
        split
        · contradiction
        · rename_i null
          exact absurd (Option.some.inj null) here.notNull
        · rename_i same
          rw [← Option.some.inj same, here.back]
          rfl
  rw [whole, Option.bind_some, goesOn]

/-- Reading goes on behind a member that is missing only if it has the value that is taken then. -/
theorem bind_fieldOr {next : α → Option β} {fallback value : α} {json : Json}
    (back : read json.sorted = some value)
    (found : (SortedMap.ofList members).get? name = some json ∨
      (SortedMap.ofList members).get? name = none ∧ fallback = value)
    (goesOn : next value = some result) :
    ((lookUp members).fieldOr name fallback read).bind next = some result := by
  have whole : (lookUp members).fieldOr name fallback read = some value := by
    rw [Record.fieldOr, lookUp]
    rcases found with there | ⟨missing, same⟩
    · rw [there]
      exact back
    · rw [missing, same]
      rfl
  rw [whole, Option.bind_some, goesOn]

end Fields

/-! ## Plain members -/

theorem readsAs_text (value : String) : ReadsAs text? (.text value) value := by
  constructor
  case back => rw [sorted_text]; rfl
  case notNull => rw [sorted_text]; exact nofun

theorem readsAs_bool (value : Bool) : ReadsAs bool? (.bool value) value := by
  constructor
  case back => rw [sorted_bool]; rfl
  case notNull => rw [sorted_bool]; exact nofun

theorem readsAs_count (count : UInt32) : ReadsAs count? (countJson count) count := by
  constructor
  case back =>
    have fits : count.toNat < Decimal.twoTo 32 := count.toNat_lt
    rw [countJson, sorted_int, count?, Decimal.count32?, if_pos (by simp [fits]),
      Int.toNat_natCast]
    exact congrArg some UInt32.ofNat_toNat
  case notNull => rw [countJson, sorted_int]; exact nofun

theorem readsAs_word {α : Type} {word : α → String} {ofWord? : String → Option α}
    (back : ∀ x, ofWord? (word x) = some x) (value : α) :
    ReadsAs (fun json => (word? json).bind ofWord?) (.text (word value)) value := by
  constructor
  case back => rw [sorted_text]; exact back value
  case notNull => rw [sorted_text]; exact nofun

theorem readsAs_list {α : Type} {read : Json → Option α} {encode : α → Json} {values : List α}
    (readsAs : ∀ x ∈ values, ReadsAs read (encode x) x) :
    ReadsAs (list? read) (.array (values.map encode)) values := by
  constructor
  case back =>
    rw [sorted_array]
    show ((values.map encode).map sorted).mapM read = some values
    induction values with
    | nil => rfl
    | cons x rest ih =>
        obtain ⟨here, others⟩ := List.forall_mem_cons.mp readsAs
        rw [List.map_cons, List.map_cons, List.mapM_cons, here.back, ih others]
        rfl
  case notNull => rw [sorted_array]; exact nofun

theorem sorted_object_ne_null (members : List (String × Json)) :
    sorted (.object members) ≠ .null := by
  rw [sorted_object]
  exact nofun

end Json

/-! ## Parts of reports -/

theorem Location.readsAs (location : Location) :
    ReadsAs Location.ofJson? location.toJson location := by
  refine ⟨?_, sorted_object_ne_null _⟩
  rw [toJson, ofJson?, record?_sorted]
  refine bind_field (readsAs_text location.path) (by simp) ?_
  refine bind_field? location.line (fun count _ => readsAs_count count) (by simp) ?_
  exact bind_field? location.column (fun count _ => readsAs_count count) (by simp) rfl

theorem Severity.ofWord?_word (severity : Severity) : ofWord? severity.word = some severity := by
  cases severity <;> rfl

/-- The data of a finding, unless there are none. -/
def Finding.data? (finding : Finding) : Option Json :=
  match finding.data with
  | .null => none
  | data => some data

theorem Finding.toJson_eq (finding : Finding) :
    finding.toJson = .object ([("severity", .text finding.severity.word),
        ("check_id", .text finding.checkId), ("code", .text finding.code),
        ("message", .text finding.message)] ++
      optionalMember "location" Location.toJson finding.location ++
      optionalMember "help" .text finding.help ++ optionalMember "url" .text finding.url ++
      optionalMember "fingerprint" .text finding.fingerprint ++
      optionalMember "data" id finding.data?) := by
  rw [toJson, data?]
  cases finding.data <;> rfl

theorem Finding.data?_getD (finding : Finding) : finding.data?.getD .null = finding.data := by
  rw [data?]
  split
  · rename_i null
    exact null.symm
  · rfl

/-- A finding is read back if its data are in order. -/
theorem Finding.readsAs {finding : Finding} (inOrder : finding.data.sorted = finding.data) :
    ReadsAs Finding.ofJson? finding.toJson finding := by
  rw [toJson_eq]
  refine ⟨?_, sorted_object_ne_null _⟩
  rw [ofJson?, record?_sorted]
  refine bind_field (readsAs_word Severity.ofWord?_word finding.severity) (by simp) ?_
  refine bind_field (readsAs_text finding.checkId) (by simp) ?_
  refine bind_field (readsAs_text finding.code) (by simp) ?_
  refine bind_field (readsAs_text finding.message) (by simp) ?_
  refine bind_field? finding.location (fun location _ => location.readsAs) (by simp) ?_
  refine bind_field? finding.help (fun help _ => readsAs_text help) (by simp) ?_
  refine bind_field? finding.url (fun url _ => readsAs_text url) (by simp) ?_
  refine bind_field? finding.fingerprint (fun digest _ => readsAs_text digest) (by simp) ?_
  refine bind_fieldOr (congrArg some inOrder) ?_ rfl
  have whole := finding.data?_getD
  cases shown : finding.data? with
  | none =>
      rw [shown] at whole
      exact .inr ⟨by simp, whole⟩
  | some data =>
      rw [shown] at whole
      exact .inl (by simp [← whole])

/-- A member that is left out if its text is empty. -/
@[simp] theorem get?_unlessEmpty (name text key : String) :
    (SortedMap.ofList (if text = "" then [] else [(name, Json.text text)])).get? key =
      if text = "" then none else if name = key then some (.text text) else none := by
  split <;> simp

theorem InvariantResult.readsAs (result : InvariantResult) :
    ReadsAs InvariantResult.ofJson? result.toJson result := by
  refine ⟨?_, sorted_object_ne_null _⟩
  rw [toJson, ofJson?, record?_sorted]
  refine bind_field (readsAs_text result.name) (by simp) ?_
  refine bind_field (readsAs_text result.rule) (by simp) ?_
  refine bind_field (readsAs_bool result.passed) (by simp) ?_
  refine bind_field (readsAs_text result.leftValue) (by simp) ?_
  refine bind_field (readsAs_text result.rightValue) (by simp) ?_
  refine bind_fieldOr (readsAs_text result.message).back ?_ rfl
  by_cases empty : result.message = ""
  · exact .inr ⟨by simp [empty], empty.symm⟩
  · exact .inl (by simp [empty])

theorem ClauseKind.ofWord?_word (clause : ClauseKind) : ofWord? clause.word = some clause := by
  cases clause <;> rfl

theorem readsAs_texts (values : List String) :
    ReadsAs (list? text?) (Json.texts values) values :=
  readsAs_list fun value _ => readsAs_text value

theorem Violation.readsAs (violation : Violation) :
    ReadsAs Violation.ofJson? violation.toJson violation := by
  refine ⟨?_, sorted_object_ne_null _⟩
  rw [toJson, ofJson?, record?_sorted]
  refine bind_field (readsAs_text violation.key) (by simp) ?_
  refine bind_field (readsAs_text violation.actualValue) (by simp) ?_
  refine bind_field (readsAs_word ClauseKind.ofWord?_word violation.clause) (by simp) ?_
  refine bind_field (readsAs_texts violation.expectedValues) (by simp) ?_
  exact bind_field? violation.pattern (fun pattern _ => readsAs_text pattern) (by simp) rfl

theorem ContractResult.readsAs (result : ContractResult) :
    ReadsAs ContractResult.ofJson? result.toJson result := by
  refine ⟨?_, sorted_object_ne_null _⟩
  rw [toJson, ofJson?, record?_sorted]
  refine bind_field (readsAs_text result.environment) (by simp) ?_
  refine bind_field (readsAs_bool result.passed) (by simp) ?_
  exact bind_field (readsAs_list fun violation _ => violation.readsAs) (by simp) rfl

theorem ReportData.readsAs (data : ReportData) :
    ReadsAs ReportData.ofJson? data.toJson data := by
  refine ⟨?_, sorted_object_ne_null _⟩
  rw [toJson, ofJson?, record?_sorted]
  refine bind_field (readsAs_text data.profile) (by simp) ?_
  refine bind_field (readsAs_text data.executionEnv) (by simp) ?_
  refine bind_field? data.contract (fun contract _ => readsAs_text contract) (by simp) ?_
  refine bind_field (readsAs_count data.keysDeclared) (by simp) ?_
  refine bind_field (readsAs_count data.keysResolved) (by simp) ?_
  refine bind_field (readsAs_count data.invariantsEvaluated) (by simp) ?_
  refine bind_field (readsAs_count data.findingsTotal) (by simp) ?_
  refine bind_field (readsAs_count data.findingsEmitted) (by simp) ?_
  refine bind_field? data.truncatedReason (fun reason _ => readsAs_text reason) (by simp) ?_
  exact bind_field? data.configSha256 (fun digest _ => readsAs_text digest) (by simp) rfl

theorem Tool.readsAs (tool : Tool) : ReadsAs Tool.ofJson? tool.toJson tool := by
  refine ⟨?_, sorted_object_ne_null _⟩
  rw [toJson, ofJson?, record?_sorted]
  refine bind_field (readsAs_text tool.name) (by simp) ?_
  exact bind_field (readsAs_text tool.version) (by simp) rfl

theorem Verdict.ofWord?_word (verdict : Verdict) : ofWord? verdict.word = some verdict := by
  cases verdict <;> rfl

/-! ## Reports -/

namespace Report

theorem readsAs_time (time : Timestamp) : ReadsAs time? (.text time.text) time := by
  constructor
  case back =>
    rw [sorted_text, time?, text?, Option.bind_some, Timestamp.read_text]
  case notNull => rw [sorted_text]; exact nofun

/-- A report is read back from its JSON if the data of its findings are in order. -/
theorem ofJson?_sorted {report : Report}
    (inOrder : ∀ finding ∈ report.findings, finding.data.sorted = finding.data) :
    ofJson? report.toJson.sorted = some report := by
  have invariants : ReadsAs (list? InvariantResult.ofJson?)
      (.array (report.invariants.map InvariantResult.toJson)) report.invariants :=
    readsAs_list fun result _ => result.readsAs
  rw [toJson, ofJson?, record?_sorted]
  refine bind_field (readsAs_text report.formatName) (by simp) ?_
  refine bind_field report.tool.readsAs (by simp) ?_
  refine bind_field (readsAs_time report.startedAt) (by simp) ?_
  refine bind_field (readsAs_time report.finishedAt) (by simp) ?_
  refine bind_field (readsAs_word Verdict.ofWord?_word report.verdict) (by simp) ?_
  refine bind_field (readsAs_list fun finding member => Finding.readsAs (inOrder finding member))
    (by simp) ?_
  refine bind_field report.data.readsAs (by simp) ?_
  refine bind_fieldOr invariants.back (.inl (by simp)) ?_
  exact bind_field? report.contract (fun result _ => result.readsAs) (by simp) rfl

/-- The name of the format is found in the JSON of a report. -/
theorem formatOf_sorted (report : Report) : formatOf report.toJson.sorted = report.formatName := by
  have found : report.toJson.sorted.member? "schema" = some (.text report.formatName) := by
    rw [toJson, sorted_object, sortedObject]
    show (SortedMap.ofList _).get? "schema" = _
    rw [SortedMap.get?_ofList_map]
    simp
  rw [formatOf, found]
  rfl

end Report

end ConfigGate
