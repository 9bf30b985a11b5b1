import ConfigGate.Proofs.Gate.Arrangement
import ConfigGate.Proofs.Gate.Identity
import ConfigGate.Proofs.Schema.Loading

/-!
# What findings are about

A message opens with words that belong to its check, and names its subject in quotes: a key, or an
invariant. What follows may quote anything, for it shows values, patterns and rules. But the names
of a schema hold no quotes, so the first quote behind the opening words ends the subject. Check and
message therefore tell the fault that a finding is about.

Results:
1. `Shows.told`: every finding of a run names the subject of its fault;
2. `Shows.fault_eq_of_heading_eq`: findings with equal headings tell of one fault;
3. `allFindings_distinct`: no two findings of a run have the same heading.
-/

namespace ConfigGate

/-! ## Names -/

/-- Keys are dotted paths, invariants have plain and distinct names, and contracts name declared
keys only. -/
structure Schema.WellNamed (schema : Schema) : Prop where
  keys : ∀ key ∈ schema.config.keys, Text.isDottedPath key = true
  names : ∀ invariant ∈ schema.invariants, Text.isPlainName invariant.name = true
  distinct : (schema.invariants.map (·.name)).Nodup
  clauses : ∀ entry ∈ schema.environments.entries, ∀ key ∈ entry.2.keys,
    schema.declares key = true

/-- Whatever loads is well-named. -/
theorem Schema.LoadedFrom.wellNamed {schema : Schema} {document : Document}
    (loaded : schema.LoadedFrom document) : schema.WellNamed := by
  constructor
  case keys =>
    intro key member
    obtain ⟨entry, declared, rfl⟩ := List.mem_map.mp member
    exact (loaded.keys entry declared).path
  case names => exact fun invariant member => (loaded.rules invariant member).name
  case distinct => exact loaded.names
  case clauses => exact loaded.clauses

/-- The text holds nothing but points and characters of identifiers. -/
def IsName (text : String) : Prop := ∀ c ∈ text.toList, c = '.' ∨ Text.isIdentChar c = true

theorem isName_of_isDottedPath {text : String} (path : Text.isDottedPath text = true) :
    IsName text :=
  fun _ member => Text.mem_isDottedPath path member

theorem isName_of_isPlainName {text : String} (name : Text.isPlainName text = true) :
    IsName text :=
  fun _ member => .inr (Text.mem_isPlainName name member)

theorem IsName.not_mem {text : String} (name : IsName text) {c : Char} (point : c ≠ '.')
    (other : Text.isIdentChar c = false) : c ∉ text.toList := by
  intro member
  rcases name c member with equal | identChar
  · exact point equal
  · exact absurd (other.symm.trans identChar) nofun

/-- The text holds no quote. -/
def Unquoted (text : String) : Prop := '\'' ∉ text.toList

theorem IsName.unquoted {text : String} (name : IsName text) : Unquoted text :=
  name.not_mem (by decide) (by decide)

/-- The first quote of a text tells what stands before it. -/
theorem Unquoted.eq_of_append {left right leftRest rightRest : String} (leftFree : Unquoted left)
    (rightFree : Unquoted right) (same : left ++ "'" ++ leftRest = right ++ "'" ++ rightRest) :
    left = right := by
  -- Both texts have the same pieces between quotes, and `left` and `right` are the first of them.
  have characters := congrArg (fun text => Text.pieces '\'' text.toList) same
  simp only [String.toList_append, List.append_assoc] at characters
  have heads : left.toList :: Text.pieces '\'' leftRest.toList =
      right.toList :: Text.pieces '\'' rightRest.toList := by
    rw [← Text.pieces_append leftFree, ← Text.pieces_append rightFree]
    exact characters
  exact String.toList_inj.mp (List.cons.inj heads).1

namespace Schema.WellNamed

variable {schema : Schema}

theorem isName_of_declares (wellNamed : schema.WellNamed) {key : String}
    (declared : schema.declares key = true) : IsName key :=
  isName_of_isDottedPath (wellNamed.keys key (SortedMap.mem_keys_iff.mpr declared))

theorem isName_key (wellNamed : schema.WellNamed) {key : String} {decl : KeyDecl}
    (declared : schema.config.get? key = some decl) : IsName key :=
  wellNamed.isName_of_declares (SortedMap.contains_eq_true_iff.mpr ⟨decl, declared⟩)

theorem isName_name (wellNamed : schema.WellNamed) {invariant : Invariant}
    (member : invariant ∈ schema.invariants) : IsName invariant.name :=
  isName_of_isPlainName (wellNamed.names invariant member)

/-- What a contract finds at fault is a declared key. -/
theorem isName_of_violation (wellNamed : schema.WellNamed) {environment : String}
    {contract : Contract} {values : SortedMap String} {violation : Violation}
    (found : schema.contract? environment = some contract)
    (member : violation ∈ (contract.evaluate values).violations) : IsName violation.key := by
  obtain ⟨key, value, -, violated⟩ := Contract.mem_evaluate_violations_iff.mp member
  obtain rfl := Contract.key_eq_of_violation? violated
  exact wellNamed.isName_of_declares (wellNamed.clauses (environment, contract)
    (SortedMap.get?_eq_some_iff.mp found) violation.key (Contract.mem_keys_of_violation? violated))

end Schema.WellNamed

/-! ## Subjects -/

namespace Check

/-- What the messages of a check say before they name their subject. -/
def opening : Check → String
  | required => "required config key '"
  | enumValue => "config key '"
  | invariantRule => "invariant '"
  | contractAllow => "'"
  | contractDeny => "'"

/-- The stage of the faults that a check comes on. -/
def stage : Check → Nat
  | required => 0
  | enumValue => 1
  | invariantRule => 2
  | contractAllow => 3
  | contractDeny => 3

theorem id_inj {left right : Check} (same : left.id = right.id) : left = right := by
  cases left <;> cases right <;> first
    | rfl
    | exact absurd same (by decide)

end Check

/-- `finding.About check subject`: the check makes the finding, and its message names the
subject. -/
structure Finding.About (finding : Finding) (check : Check) (subject : String) : Prop where
  checkId : finding.checkId = check.id
  message : ∃ rest, finding.message = check.opening ++ subject ++ "'" ++ rest

/-- Check and message tell the subject, whatever the message quotes behind it. -/
theorem Finding.About.unique {left right : Finding} {leftCheck rightCheck : Check}
    {leftSubject rightSubject : String} (leftAbout : left.About leftCheck leftSubject)
    (rightAbout : right.About rightCheck rightSubject) (leftFree : Unquoted leftSubject)
    (rightFree : Unquoted rightSubject) (same : left.heading = right.heading) :
    leftCheck = rightCheck ∧ leftSubject = rightSubject := by
  simp only [heading, Prod.mk.injEq] at same
  obtain ⟨-, sameId, -, sameMessage⟩ := same
  rw [leftAbout.checkId, rightAbout.checkId] at sameId
  obtain rfl := Check.id_inj sameId
  obtain ⟨leftRest, leftMessage⟩ := leftAbout.message
  obtain ⟨rightRest, rightMessage⟩ := rightAbout.message
  rw [leftMessage, rightMessage] at sameMessage
  -- The check is the same, so the messages open with the same words.
  simp only [String.append_assoc, String.append_right_inj] at sameMessage
  simp only [← String.append_assoc] at sameMessage
  exact ⟨rfl, leftFree.eq_of_append rightFree sameMessage⟩

/-! ## The findings of the checks -/

section Findings

variable (severity : Severity) (key value environment : String) (decl : KeyDecl)

theorem missingFinding_about : (missingFinding severity key decl).About .required key := by
  refine ⟨rfl, " is not set", ?_⟩
  show "required config key '" ++ key ++ ("'" ++ " is not set") = _
  simp only [String.append_assoc]
  rfl

theorem undeclaredFinding_about :
    (undeclaredFinding severity key decl value).About .enumValue key := by
  refine ⟨rfl, " has value '" ++ value ++ "', expected one of: " ++ Text.commaList decl.values, ?_⟩
  show "config key '" ++ key ++ ("'" ++ " has value '") ++ value ++ _ ++ _ = _
  simp only [String.append_assoc]
  rfl

theorem brokenFinding_about (result : InvariantResult) :
    (brokenFinding severity result).About .invariantRule result.name := by
  refine ⟨rfl, " failed: " ++ result.message, ?_⟩
  show "invariant '" ++ result.name ++ ("'" ++ " failed: ") ++ _ = _
  simp only [String.append_assoc]
  rfl

theorem violationFinding_about (violation : Violation) :
    (violationFinding severity environment violation).About (Check.ofClause violation.clause)
      violation.key := by
  have opens (rest : String) :
      "'" ++ violation.key ++ "' = '" ++ violation.actualValue ++ "' is " ++ rest =
        "'" ++ violation.key ++ "'" ++ (" = '" ++ violation.actualValue ++ "' is " ++ rest) := by
    show "'" ++ violation.key ++ ("'" ++ " = '") ++ _ ++ _ ++ _ = _
    simp only [String.append_assoc]
  have opening : (Check.ofClause violation.clause).opening = "'" := by
    cases violation.clause <;> rfl
  refine ⟨rfl, ?_⟩
  rw [opening]
  show ∃ rest, violation.message environment = _
  unfold Violation.message
  split
  · simp only [String.append_assoc] at opens ⊢
    exact ⟨_, opens _⟩
  · simp only [String.append_assoc] at opens ⊢
    exact ⟨_, opens _⟩

end Findings

/-! ## Faults -/

namespace Gate

/-- What a fault is about: a key, or the name of an invariant. -/
def Fault.subject? (schema : Schema) : Fault → Option String
  | missing key => some key
  | undeclared key => some key
  | broken position => schema.invariants[position]?.map (·.name)
  | violated key => some key

variable {schema : Schema} {context : Context} {policy : Policy}

/-- Where the names of the invariants are distinct, a check comes on one fault of a subject. -/
theorem Fault.eq_of_subject (distinct : (schema.invariants.map (·.name)).Nodup)
    {left right : Fault} {subject : String} (sameStage : left.stage = right.stage)
    (leftSubject : left.subject? schema = some subject)
    (rightSubject : right.subject? schema = some subject) : left = right := by
  have sameSubject := leftSubject.trans rightSubject.symm
  cases left <;> cases right <;> simp [stage] at sameStage
  case broken.broken left right =>
    -- Only here are subjects names that stand at a place of a list.
    rw [subject?, subject?, ← List.getElem?_map, ← List.getElem?_map] at sameSubject
    rw [subject?, ← List.getElem?_map] at leftSubject
    obtain ⟨inRange, -⟩ := List.getElem?_eq_some_iff.mp leftSubject
    exact congrArg broken ((List.getElem?_inj inRange distinct).mp sameSubject)
  all_goals exact congrArg _ (Option.some.inj sameSubject)

/-- `fault.Told schema finding check subject pattern`: the finding of the check tells of the fault,
and names its subject and, if a value is denied, the pattern that it matches. -/
structure Fault.Told (schema : Schema) (fault : Fault) (finding : Finding) (check : Check)
    (subject : String) (pattern : Option String) : Prop where
  about : finding.About check subject
  identified : finding.Identified check subject pattern
  name : IsName subject
  stage : check.stage = fault.stage
  subject : fault.subject? schema = some subject
  denied : pattern.isSome = true ↔ check = .contractDeny

/-- Check and subject tell the fault. -/
theorem Fault.Told.eq_of_subject (distinct : (schema.invariants.map (·.name)).Nodup)
    {left right : Fault} {leftFinding rightFinding : Finding} {check : Check} {subject : String}
    {leftPattern rightPattern : Option String}
    (leftTold : left.Told schema leftFinding check subject leftPattern)
    (rightTold : right.Told schema rightFinding check subject rightPattern) : left = right :=
  Fault.eq_of_subject distinct (leftTold.stage.symm.trans rightTold.stage) leftTold.subject
    rightTold.subject

/-- The finding about a violation tells of its key. -/
theorem told_violated (wellNamed : schema.WellNamed) {contract : Contract} {violation : Violation}
    (severity : Severity)
    (selected : schema.contract? (contractName policy context) = some contract)
    (member : violation ∈ (contract.evaluate context.values).violations) :
    ∃ check subject pattern, Fault.Told schema (.violated violation.key)
      (violationFinding severity contract.name violation) check subject pattern := by
  obtain ⟨key, value, -, found⟩ := Contract.mem_evaluate_violations_iff.mp member
  refine ⟨_, violation.key, violation.pattern,
    violationFinding_about severity contract.name violation,
    violationFinding_identified severity contract.name violation,
    wellNamed.isName_of_violation selected member, ?_, rfl, ?_⟩
  · cases violation.clause <;> rfl
  · rw [Contract.pattern_isSome_of_violation? found]
    cases violation.clause <;> decide

/-- Every finding of a run tells of its fault. -/
theorem Shows.told (wellNamed : schema.WellNamed) {fault : Fault} {finding : Finding}
    (shows : Shows schema context policy fault finding) :
    ∃ check subject pattern, fault.Told schema finding check subject pattern := by
  cases shows with
  | @missing key decl severity _ declared _ _ =>
      exact ⟨.required, key, none, missingFinding_about severity key decl,
        missingFinding_identified severity key decl, wellNamed.isName_key declared, rfl, rfl,
        by decide⟩
  | @undeclared key value decl severity _ declared _ _ _ =>
      exact ⟨.enumValue, key, none, undeclaredFinding_about severity key value decl,
        undeclaredFinding_identified severity key value decl, wellNamed.isName_key declared, rfl,
        rfl, by decide⟩
  | @broken position invariant severity result _ placed evaluated _ =>
      subst evaluated
      exact ⟨.invariantRule, invariant.name, none,
        brokenFinding_about severity (invariant.evaluate context),
        brokenFinding_identified severity (invariant.evaluate context),
        wellNamed.isName_name (List.mem_of_getElem? placed), rfl,
        congrArg (Option.map _) placed, by decide⟩
  | @excluded contract key value allowed severity _ selected member =>
      exact told_violated wellNamed severity selected member
  | @denied contract key value pattern denied severity _ selected member =>
      exact told_violated wellNamed severity selected member

/-- If findings that have something in common tell of one fault, no two findings of a run have it in
common. -/
theorem allFindings_pairwise {same : Finding → Finding → Prop}
    (one : ∀ {left right leftFinding rightFinding},
      Shows schema context policy left leftFinding →
        Shows schema context policy right rightFinding →
          same leftFinding rightFinding → left = right) :
    (allFindings schema context policy).Pairwise fun left right => ¬same left right := by
  rw [← faults_map_snd, List.pairwise_map]
  refine faults_ascending.imp_of_mem fun {left right} leftMember rightMember before both => ?_
  rw [one (mem_faults_iff.mp leftMember) (mem_faults_iff.mp rightMember) both] at before
  exact Fault.not_before_self right.1 before

/-- Findings with equal headings tell of one fault. -/
theorem Shows.fault_eq_of_heading_eq (wellNamed : schema.WellNamed) {left right : Fault}
    {leftFinding rightFinding : Finding}
    (leftShows : Shows schema context policy left leftFinding)
    (rightShows : Shows schema context policy right rightFinding)
    (same : leftFinding.heading = rightFinding.heading) : left = right := by
  obtain ⟨leftCheck, leftSubject, leftPattern, leftTold⟩ := leftShows.told wellNamed
  obtain ⟨rightCheck, rightSubject, rightPattern, rightTold⟩ := rightShows.told wellNamed
  obtain ⟨rfl, rfl⟩ := leftTold.about.unique rightTold.about leftTold.name.unquoted
    rightTold.name.unquoted same
  exact leftTold.eq_of_subject wellNamed.distinct rightTold

/-- No two findings of a run have the same heading. -/
theorem allFindings_distinct (wellNamed : schema.WellNamed) :
    Finding.Distinct (allFindings schema context policy) :=
  allFindings_pairwise fun leftShows rightShows same =>
    leftShows.fault_eq_of_heading_eq wellNamed rightShows same

end Gate

end ConfigGate
