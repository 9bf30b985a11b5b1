import ConfigGate.Proofs.Digits
import ConfigGate.Proofs.Report.Escapes
import ConfigGate.Text.Pieces

/-!
# What annotations tell

An annotation is read from the front. Its head, the level and the properties, goes up to the next
colon, as no property holds one. Commas divide the properties, for the same reason, and what is left
behind the head is the body, whatever it holds. So the texts of a finding cannot make its annotation
say something else, end it, or begin another.

Results:
1. `read?_ofFinding`: an annotation tells the severity, the place and the body;
2. `annotations_told`: each finding of a report has an annotation of one line, which tells this of
   it, and findings that differ in it have different annotations.
-/

namespace ConfigGate.Annotation

open Text

/-! ## Reading an annotation -/

/-- What an annotation tells of a finding. -/
structure Told where
  severity : Severity
  location : Option Location
  body : String
deriving DecidableEq

/-- What there is to tell of a finding. -/
def told (finding : FindingView) : Told :=
  { severity := finding.severity
    location := finding.location
    body := "[" ++ finding.checkId.getD "cfgguard" ++ ":" ++ finding.code ++ "] " ++
      finding.message }

/-- The severity that a level stands for. -/
def severity? : String → Option Severity
  | "error" => some .error
  | "warning" => some .warning
  | "notice" => some .info
  | _ => none

/-- The name of a property, and its value. -/
def property (cs : List Char) : String × List Char :=
  match pieces '=' cs with
  | [] => ("", [])
  | name :: value => (String.ofList name, joinPieces '=' value)

/-- The number that a property gives, which may not be there. -/
def number? (properties : List (String × List Char)) (name : String) : Option (Option UInt32) :=
  match lookupEntry name properties with
  | none => some none
  | some digits => (Decimal.digitsIn? 10 digits).map fun value => some (UInt32.ofNat value)

/-- The place that the properties give. -/
def location? (cs : List Char) : Option Location := do
  let properties := (pieces ',' cs).map property
  let path ← lookupEntry "file" properties
  let line ← number? properties "line"
  let column ← number? properties "col"
  some ⟨unescapeProperty path, line, column⟩

/-- The severity and the place that the head gives. -/
def head? (cs : List Char) : Option (Severity × Option Location) :=
  match pieces ' ' cs with
  | [] => none
  | [level] => (severity? (String.ofList level)).map fun severity => (severity, none)
  | level :: next :: others => do
      let severity ← severity? (String.ofList level)
      let location ← location? (joinPieces ' ' (next :: others))
      some (severity, some location)

/-- Reads an annotation. -/
def read? (text : String) : Option Told :=
  match pieces ':' text.toList with
  | [] :: [] :: head :: [] :: body =>
      (head? head).map fun (severity, location) =>
        ⟨severity, location, unescapeBody (joinPieces ':' body)⟩
  | _ => none

/-! ## The parts of an annotation -/

/-- The level and the properties. -/
def head (finding : FindingView) : List Char :=
  (level finding.severity).toList ++
    match finding.location with
    | none => []
    | some location => ' ' :: (properties location).toList

theorem toList_ofFinding (finding : FindingView) :
    (ofFinding finding).toList =
      ':' :: ':' :: (head finding ++ ':' :: ':' :: (escapeBody (body finding)).toList) := by
  cases location : finding.location with
  | none => simp [ofFinding, head, location]
  | some location => simp [ofFinding, head, location]

/-- A number as a property of this name, if there is one. -/
def numberPiece (name : String) : Option UInt32 → List (List Char)
  | none => []
  | some value => [name.toList ++ '=' :: Nat.toDigits 10 value.toNat]

theorem toList_properties (location : Location) :
    (properties location).toList =
      joinPieces ',' (("file".toList ++ '=' :: (escapeProperty location.path).toList) ::
        (numberPiece "line" location.line ++ numberPiece "col" location.column)) := by
  obtain ⟨path, line, column⟩ := location
  cases line <;> cases column <;>
    simp [properties, numberProperty, numberPiece, joinPieces]

/-! ## Characters that do not occur -/

/-- Line ends and colons are not part of the head, and commas only divide it. -/
def Inside (c : Char) : Prop := c ≠ '\r' ∧ c ≠ '\n' ∧ c ≠ ':' ∧ c ≠ ','

instance (c : Char) : Decidable (Inside c) := inferInstanceAs (Decidable (_ ∧ _))

theorem inside_of_all {cs : List Char} (all : cs.all (fun c => decide (Inside c)) = true) :
    ∀ c ∈ cs, Inside c :=
  fun c member => of_decide_eq_true (List.all_eq_true.mp all c member)

theorem inside_of_isDigit {c : Char} (digit : c.isDigit = true) : Inside c := by
  refine ⟨?_, ?_, ?_, ?_⟩
  all_goals
    rintro rfl
    exact absurd digit (by decide)

theorem inside_of_mem_numberPiece {name : String} (named : ∀ c ∈ name.toList, Inside c)
    {value : Option UInt32} {piece : List Char} (member : piece ∈ numberPiece name value) :
    ∀ c ∈ piece, Inside c := by
  cases value with
  | none => exact absurd member List.not_mem_nil
  | some value =>
      obtain rfl := List.mem_singleton.mp member
      refine List.forall_mem_append.mpr ⟨named, List.forall_mem_cons.mpr ⟨by decide, ?_⟩⟩
      exact fun c digit => inside_of_isDigit (Decimal.isDigit_of_mem_toDigits digit)

/-- The properties, divided by commas, hold none. -/
theorem inside_of_mem_pieces {location : Location} {piece : List Char}
    (member : piece ∈ ("file".toList ++ '=' :: (escapeProperty location.path).toList) ::
      (numberPiece "line" location.line ++ numberPiece "col" location.column)) :
    ∀ c ∈ piece, Inside c := by
  rcases List.mem_cons.mp member with rfl | member
  · exact List.forall_mem_append.mpr ⟨inside_of_all (by decide),
      List.forall_mem_cons.mpr ⟨by decide, fun c inPath => ne_of_mem_escapeProperty inPath⟩⟩
  · rcases List.mem_append.mp member with inLine | inColumn
    · exact inside_of_mem_numberPiece (inside_of_all (by decide)) inLine
    · exact inside_of_mem_numberPiece (inside_of_all (by decide)) inColumn

theorem inside_of_mem_joinPieces {pieces : List (List Char)}
    (inside : ∀ piece ∈ pieces, ∀ c ∈ piece, Inside c) :
    ∀ c ∈ joinPieces ',' pieces, c ≠ '\r' ∧ c ≠ '\n' ∧ c ≠ ':' := by
  induction pieces with
  | nil => exact nofun
  | cons first others ih =>
      obtain ⟨here, later⟩ := List.forall_mem_cons.mp inside
      have first : ∀ c ∈ first, c ≠ '\r' ∧ c ≠ '\n' ∧ c ≠ ':' := fun c member =>
        have ⟨carriageReturn, lineFeed, colon, _⟩ := here c member
        ⟨carriageReturn, lineFeed, colon⟩
      cases others with
      | nil => exact first
      | cons next more =>
          exact List.forall_mem_append.mpr ⟨first, List.forall_mem_cons.mpr ⟨by decide, ih later⟩⟩

/-- The head goes up to a colon and is on one line. -/
theorem ne_of_mem_head {finding : FindingView} {c : Char} (member : c ∈ head finding) :
    c ≠ '\r' ∧ c ≠ '\n' ∧ c ≠ ':' := by
  have levelFree : (level finding.severity).toList.all (fun c => decide (Inside c)) = true := by
    cases finding.severity <;> decide
  rcases List.mem_append.mp member with inLevel | inPlace
  · obtain ⟨carriageReturn, lineFeed, colon, -⟩ := inside_of_all levelFree c inLevel
    exact ⟨carriageReturn, lineFeed, colon⟩
  · split at inPlace
    · exact absurd inPlace List.not_mem_nil
    · rename_i location _
      rw [toList_properties] at inPlace
      rcases List.mem_cons.mp inPlace with rfl | inProperties
      · decide
      · exact inside_of_mem_joinPieces (fun piece => inside_of_mem_pieces) c inProperties

/-! ## Annotations read -/

theorem severity?_level (severity : Severity) :
    severity? (String.ofList (level severity).toList) = some severity := by
  rw [String.ofList_toList]
  cases severity <;> rfl

/-- A property is told from its name, whatever its value. -/
theorem property_named {name : String} (free : '=' ∉ name.toList) (value : List Char) :
    property (name.toList ++ '=' :: value) = (name, value) := by
  rw [property, pieces_append free]
  simp only [intercalate_pieces, String.ofList_toList]

theorem digitsIn?_toDigits (value : UInt32) :
    (Decimal.digitsIn? 10 (Nat.toDigits 10 value.toNat)).map UInt32.ofNat = some value := by
  obtain ⟨c, rest, digits, -, -⟩ := Decimal.toDigits_eq_cons value.toNat
  rw [Decimal.digitsIn?_of_digits (digits ▸ List.cons_ne_nil c rest)
    fun _ => Decimal.isDigit_of_mem_toDigits, Nat.ofDigitChars_ten_toDigits, Option.map_some,
    UInt32.ofNat_toNat]

/-- A number is read from its digits, and nothing is read if its name is not there. -/
theorem number?_of_lookupEntry {properties : List (String × List Char)} {name : String}
    {value : Option UInt32}
    (found : lookupEntry name properties = value.map fun value => Nat.toDigits 10 value.toNat) :
    number? properties name = some value := by
  rw [number?, found]
  cases value with
  | none => rfl
  | some value =>
      show Option.map (some ∘ UInt32.ofNat) _ = _
      rw [← Option.map_map, digitsIn?_toDigits, Option.map_some]

theorem map_property_numberPiece {name : String} (free : '=' ∉ name.toList)
    (value : Option UInt32) :
    (numberPiece name value).map property =
      (value.map fun value => (name, Nat.toDigits 10 value.toNat)).toList := by
  cases value with
  | none => rfl
  | some value => exact congrArg (fun pair => [pair]) (property_named free _)

/-- The properties of a place by name, the path still escaped. -/
def namedProperties (location : Location) : List (String × List Char) :=
  ("file", (escapeProperty location.path).toList) ::
    ((location.line.map fun value => ("line", Nat.toDigits 10 value.toNat)).toList ++
      (location.column.map fun value => ("col", Nat.toDigits 10 value.toNat)).toList)

theorem map_property_properties (location : Location) :
    (pieces ',' (properties location).toList).map property = namedProperties location := by
  have cut : pieces ',' (properties location).toList =
      ("file".toList ++ '=' :: (escapeProperty location.path).toList) ::
        (numberPiece "line" location.line ++ numberPiece "col" location.column) := by
    rw [toList_properties]
    refine pieces_joinPieces (List.cons_ne_nil _ _) fun piece member comma => ?_
    obtain ⟨-, -, -, other⟩ := inside_of_mem_pieces member ',' comma
    exact other rfl
  rw [cut, List.map_cons, List.map_append, property_named (by decide),
    map_property_numberPiece (by decide), map_property_numberPiece (by decide), namedProperties]

theorem location?_properties (location : Location) :
    location? (properties location).toList = some location := by
  have lineRead : number? (namedProperties location) "line" = some location.line := by
    obtain ⟨path, line, column⟩ := location
    refine number?_of_lookupEntry ?_
    cases line <;> cases column <;> rfl
  have columnRead : number? (namedProperties location) "col" = some location.column := by
    obtain ⟨path, line, column⟩ := location
    refine number?_of_lookupEntry ?_
    cases line <;> cases column <;> rfl
  have path : lookupEntry "file" (namedProperties location) =
      some (escapeProperty location.path).toList := rfl
  simp only [location?, map_property_properties, path, lineRead, columnRead,
    Option.bind_eq_bind, Option.bind_some, unescapeProperty_escapeProperty]

theorem head?_head (finding : FindingView) :
    head? (head finding) = some (finding.severity, finding.location) := by
  have free : ' ' ∉ (level finding.severity).toList := by cases finding.severity <;> decide
  cases place : finding.location with
  | none =>
      simp only [head, place, List.append_nil]
      rw [head?, pieces_of_not_mem free]
      simp only [severity?_level, Option.map_some]
  | some location =>
      have whole := intercalate_pieces ' ' (properties location).toList
      simp only [head, place]
      rw [head?, pieces_append free]
      cases cut : pieces ' ' (properties location).toList with
      | nil => exact absurd cut (pieces_ne_nil ' ' _)
      | cons next others =>
          rw [cut] at whole
          simp only [whole, severity?_level, location?_properties, Option.bind_eq_bind,
            Option.bind_some]

/-- The texts of a finding cannot change what its annotation tells. -/
theorem read?_ofFinding (finding : FindingView) :
    read? (ofFinding finding) = some (told finding) := by
  have free : ':' ∉ head finding := fun member => (ne_of_mem_head member).2.2 rfl
  have cut : pieces ':' (ofFinding finding).toList =
      [] :: [] :: head finding :: [] :: pieces ':' (escapeBody (body finding)).toList := by
    rw [toList_ofFinding]
    show [] :: [] :: pieces ':' (head finding ++ ':' :: ':' :: _) = _
    rw [pieces_append free]
    rfl
  rw [read?, cut]
  simp only [head?_head, Option.map_some, intercalate_pieces, unescapeBody_escapeBody]
  rfl

/-- An annotation is one line. -/
theorem ne_of_mem_ofFinding {finding : FindingView} {c : Char}
    (member : c ∈ (ofFinding finding).toList) : c ≠ '\r' ∧ c ≠ '\n' := by
  rw [toList_ofFinding] at member
  simp only [List.mem_cons, List.mem_append] at member
  rcases member with rfl | rfl | inHead | rfl | rfl | inBody
  · decide
  · decide
  · obtain ⟨carriageReturn, lineFeed, -⟩ := ne_of_mem_head inHead
    exact ⟨carriageReturn, lineFeed⟩
  · decide
  · decide
  · exact ne_of_mem_escapeBody inBody

/-- The annotations are those of the findings, each tells what is to tell of its finding and is one
line, and findings with the same annotation have the same severity, place and body. -/
theorem annotations_told (report : ReportView) :
    report.annotations.length = report.findings.length ∧
      (∀ (position : Nat) (finding : FindingView), report.findings[position]? = some finding →
        ∃ line, report.annotations[position]? = some line ∧
          '\r' ∉ line.toList ∧ '\n' ∉ line.toList ∧ read? line = some (told finding)) ∧
      ∀ left right : FindingView, ofFinding left = ofFinding right →
        left.severity = right.severity ∧ left.location = right.location ∧
          body left = body right := by
  refine ⟨List.length_map _, fun position finding found => ?_, fun left right same => ?_⟩
  · refine ⟨ofFinding finding, ?_, fun member => ?_, fun member => ?_, read?_ofFinding finding⟩
    · rw [ReportView.annotations, List.getElem?_map, found, Option.map_some]
    · exact (ne_of_mem_ofFinding member).1 rfl
    · exact (ne_of_mem_ofFinding member).2 rfl
  · have equal : told left = told right :=
      Option.some.inj ((read?_ofFinding left).symm.trans (same ▸ read?_ofFinding right))
    injection equal with severity location body
    exact ⟨severity, location, body⟩

/-- A finding whose texts look like parts of an annotation. -/
def forgedFinding : FindingView :=
  { severity := .error
    checkId := none
    code := "value_denied"
    message := "%0A%250A\n::notice file=b::fine"
    location := some ⟨"a,line=1::x%2C", some 3, none⟩
    help := none
    url := none }

def forgedReport : ReportView :=
  { verdict := .fail
    findings := [forgedFinding, { forgedFinding with checkId := some defaultCheckId }]
    invariants := []
    executionEnv := "prod"
    contract := none
    findingsEmitted := 2
    findingsTotal := 2
    truncatedReason := none }

theorem forgedReport_told :
    forgedReport.annotations.length = 2 ∧
      (∃ line, forgedReport.annotations[0]? = some line ∧
        '\r' ∉ line.toList ∧ '\n' ∉ line.toList ∧
        read? line = some ⟨.error, some ⟨"a,line=1::x%2C", some 3, none⟩,
          "[cfgguard:value_denied] %0A%250A\n::notice file=b::fine"⟩) ∧
      body forgedFinding = body { forgedFinding with checkId := some defaultCheckId } := by
  obtain ⟨length, told, only⟩ := annotations_told forgedReport
  have ⟨_, _, same⟩ := only forgedFinding { forgedFinding with checkId := some defaultCheckId } rfl
  exact ⟨length, told 0 forgedFinding rfl, same⟩

end ConfigGate.Annotation
