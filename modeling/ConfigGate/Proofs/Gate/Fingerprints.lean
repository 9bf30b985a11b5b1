import ConfigGate.Proofs.Gate.Subjects
import Mathlib.Data.List.Nodup

/-!
# What a fingerprint identifies

A fingerprint is the hash of names joined by bars: the check, the code, the subject and, if a value
is denied, the pattern that it matches. Neither checks nor subjects hold bars, so the text that is
hashed can be cut into these again, whatever the pattern holds. If the hash tells these texts apart,
it tells apart what the findings are about.

Results:
1. `fingerprintText_inj`: the text that is hashed tells the check, the subject and the pattern;
2. `Told.identity_eq_iff`: findings are hashed from one text exactly if they have these in common;
3. `emitted_fingerprint_eq_iff`: so it is with the fingerprints of findings that runs show, and the
   findings of one run have distinct fingerprints.
-/

namespace ConfigGate

/-- No two of the texts have the same hash. -/
def Digest.Separates (texts : List String) : Prop :=
  ∀ left ∈ texts, ∀ right ∈ texts, Digest.sha256 left = Digest.sha256 right → left = right

theorem Digest.separates_of_nodup {texts : List String}
    (digests : (texts.map Digest.sha256).Nodup) : Digest.Separates texts :=
  fun _ leftMember _ rightMember => List.inj_on_of_nodup_map digests leftMember rightMember

theorem Digest.Separates.mono {texts others : List String} (separates : Digest.Separates others)
    (among : ∀ text ∈ texts, text ∈ others) : Digest.Separates texts :=
  fun left leftMember right rightMember =>
    separates left (among left leftMember) right (among right rightMember)

/-- The text that the fingerprint of a finding is the hash of. -/
def Finding.identity (finding : Finding) : String :=
  fingerprintText finding.checkId finding.code (finding.subject?.getD "")
    (finding.dataText? "pattern")

/-- `left.Concurs right`: the findings are of one check and about one subject, and if they are about
denied values, these match one pattern. -/
structure Finding.Concurs (left right : Finding) : Prop where
  checkId : left.checkId = right.checkId
  subject : left.subject? = right.subject?
  pattern : left.checkId = Check.contractDeny.id →
    left.dataText? "pattern" = right.dataText? "pattern"

theorem Finding.Concurs.symm {left right : Finding} (concurs : left.Concurs right) :
    right.Concurs left := by
  constructor
  case checkId => exact concurs.checkId.symm
  case subject => exact concurs.subject.symm
  case pattern =>
    intro denied
    exact (concurs.pattern (concurs.checkId.trans denied)).symm

/-! ## The text that is hashed -/

/-- The parts of the text that is hashed, if only the pattern may hold bars. -/
theorem pieces_fingerprintText {checkId code subject : String} {pattern : Option String}
    (checkFree : '|' ∉ checkId.toList) (codeFree : '|' ∉ code.toList)
    (subjectFree : '|' ∉ subject.toList) :
    Text.pieces '|' (fingerprintText checkId code subject pattern).toList =
      checkId.toList :: code.toList :: subject.toList ::
        pattern.elim [] fun text => Text.pieces '|' text.toList := by
  cases pattern with
  | none =>
      have joined : (fingerprintText checkId code subject none).toList =
          checkId.toList ++ '|' :: (code.toList ++ '|' :: subject.toList) := by
        simp [fingerprintText, String.intercalate_cons_cons]
      rw [joined, Text.pieces_append checkFree, Text.pieces_append codeFree,
        Text.pieces_of_not_mem subjectFree]
      rfl
  | some text =>
      have joined : (fingerprintText checkId code subject (some text)).toList =
          checkId.toList ++
            '|' :: (code.toList ++ '|' :: (subject.toList ++ '|' :: text.toList)) := by
        simp [fingerprintText, String.intercalate_cons_cons]
      rw [joined, Text.pieces_append checkFree, Text.pieces_append codeFree,
        Text.pieces_append subjectFree]
      rfl

/-- The pieces of a pattern tell the pattern, and whether there is one. -/
theorem pattern_eq_of_pieces_eq {left right : Option String}
    (same : (left.elim [] fun text => Text.pieces '|' text.toList) =
      right.elim [] fun text => Text.pieces '|' text.toList) : left = right := by
  cases left with
  | none =>
      cases right with
      | none => rfl
      | some text => exact absurd same.symm (Text.pieces_ne_nil '|' text.toList)
  | some first =>
      cases right with
      | none => exact absurd same (Text.pieces_ne_nil '|' first.toList)
      | some second =>
          have joined := congrArg (Text.joinPieces '|') same
          simp only [Option.elim_some, Text.intercalate_pieces] at joined
          rw [String.toList_inj.mp joined]

theorem Check.free_of_bars (check : Check) : '|' ∉ check.id.toList ∧ '|' ∉ check.code.toList := by
  cases check <;> decide

/-- The text that is hashed tells the check, the subject and the pattern, whatever the pattern
holds. -/
theorem fingerprintText_inj {leftCheck rightCheck : Check} {leftSubject rightSubject : String}
    {leftPattern rightPattern : Option String} (leftName : IsName leftSubject)
    (rightName : IsName rightSubject)
    (same : fingerprintText leftCheck.id leftCheck.code leftSubject leftPattern =
      fingerprintText rightCheck.id rightCheck.code rightSubject rightPattern) :
    leftCheck = rightCheck ∧ leftSubject = rightSubject ∧ leftPattern = rightPattern := by
  have bar : Text.isIdentChar '|' = false := by decide
  have pieces := congrArg (fun text => Text.pieces '|' text.toList) same
  rw [pieces_fingerprintText leftCheck.free_of_bars.1 leftCheck.free_of_bars.2
      (leftName.not_mem (by decide) bar),
    pieces_fingerprintText rightCheck.free_of_bars.1 rightCheck.free_of_bars.2
      (rightName.not_mem (by decide) bar)] at pieces
  obtain ⟨sameId, pieces⟩ := List.cons.inj pieces
  obtain ⟨-, pieces⟩ := List.cons.inj pieces
  obtain ⟨sameSubject, samePattern⟩ := List.cons.inj pieces
  exact ⟨Check.id_inj (String.toList_inj.mp sameId), String.toList_inj.mp sameSubject,
    pattern_eq_of_pieces_eq samePattern⟩

theorem Finding.Identified.identity_eq {finding : Finding} {check : Check} {subject : String}
    {pattern : Option String} (identified : finding.Identified check subject pattern) :
    finding.identity = fingerprintText check.id check.code subject pattern := by
  rw [identity, identified.checkId, identified.code, identified.subject?_eq, identified.pattern]
  rfl

/-- The fingerprint is the hash of the text. -/
theorem Finding.Identified.fingerprint_eq {finding : Finding} {check : Check} {subject : String}
    {pattern : Option String} (identified : finding.Identified check subject pattern) :
    finding.fingerprint = some (Digest.sha256 finding.identity) := by
  rw [identified.fingerprint, identified.identity_eq]
  rfl

namespace Gate

variable {schema leftSchema rightSchema : Schema} {context leftContext rightContext : Context}
  {policy leftPolicy rightPolicy : Policy}

/-- Findings are hashed from one text exactly if they are of one check, about one subject and, for
denied values, about one pattern. -/
theorem Fault.Told.identity_eq_iff {left right : Fault} {leftFinding rightFinding : Finding}
    {leftCheck rightCheck : Check} {leftSubject rightSubject : String}
    {leftPattern rightPattern : Option String}
    (leftTold : left.Told leftSchema leftFinding leftCheck leftSubject leftPattern)
    (rightTold : right.Told rightSchema rightFinding rightCheck rightSubject rightPattern) :
    leftFinding.identity = rightFinding.identity ↔ leftFinding.Concurs rightFinding := by
  have leftIdentified := leftTold.identified
  have rightIdentified := rightTold.identified
  rw [leftIdentified.identity_eq, rightIdentified.identity_eq]
  constructor
  · intro same
    obtain ⟨rfl, rfl, rfl⟩ := fingerprintText_inj leftTold.name rightTold.name same
    constructor
    case checkId => rw [leftIdentified.checkId, rightIdentified.checkId]
    case subject => rw [leftIdentified.subject?_eq, rightIdentified.subject?_eq]
    case pattern =>
      intro _
      rw [leftIdentified.pattern, rightIdentified.pattern]
  · intro concurs
    have sameId := concurs.checkId
    rw [leftIdentified.checkId, rightIdentified.checkId] at sameId
    obtain rfl := Check.id_inj sameId
    have sameSubject := concurs.subject
    rw [leftIdentified.subject?_eq, rightIdentified.subject?_eq] at sameSubject
    obtain rfl := Option.some.inj sameSubject
    have samePattern : leftPattern = rightPattern := by
      by_cases denied : leftCheck = .contractDeny
      · have same := concurs.pattern (leftIdentified.checkId.trans (congrArg Check.id denied))
        rwa [leftIdentified.pattern, rightIdentified.pattern] at same
      · -- Only denied values match a pattern.
        have leftNone := mt leftTold.denied.mp denied
        have rightNone := mt rightTold.denied.mp denied
        rw [Option.not_isSome_iff_eq_none] at leftNone rightNone
        rw [leftNone, rightNone]
    rw [samePattern]

/-! ## Runs -/

/-- What a run shows tells of a fault. -/
theorem exists_told (wellNamed : schema.WellNamed) {finding : Finding}
    (member : finding ∈ (evaluate schema context policy).findings) :
    ∃ fault check subject pattern, Fault.Told schema fault finding check subject pattern := by
  have found : finding ∈ allFindings schema context policy :=
    Finding.mem_sort.mp (List.mem_of_mem_take member)
  rw [← faults_map_snd] at found
  obtain ⟨⟨fault, _⟩, inFaults, rfl⟩ := List.mem_map.mp found
  exact ⟨fault, (mem_faults_iff.mp inFaults).told wellNamed⟩

/-- No two findings that a run shows concur. -/
theorem emitted_pairwise_not_concurs (wellNamed : schema.WellNamed) :
    (evaluate schema context policy).findings.Pairwise
      fun left right => ¬left.Concurs right := by
  have all : (allFindings schema context policy).Pairwise
      fun left right => ¬left.Concurs right := by
    refine allFindings_pairwise fun leftShows rightShows concurs => ?_
    obtain ⟨leftCheck, leftSubject, leftPattern, leftTold⟩ := leftShows.told wellNamed
    obtain ⟨rightCheck, rightSubject, rightPattern, rightTold⟩ := rightShows.told wellNamed
    have same := (leftTold.identity_eq_iff rightTold).mpr concurs
    rw [leftTold.identified.identity_eq, rightTold.identified.identity_eq] at same
    obtain ⟨rfl, rfl, -⟩ := fingerprintText_inj leftTold.name rightTold.name same
    exact leftTold.eq_of_subject wellNamed.distinct rightTold
  have sorted : (Finding.sort (allFindings schema context policy)).Pairwise
      fun left right => ¬left.Concurs right :=
    ((List.mergeSort_perm _ Finding.atMost).symm.pairwise_iff
      fun apart concurs => apart concurs.symm).mp all
  exact sorted.sublist (List.take_sublist policy.maxFindings _)

/-- Where the hash tells the texts of two findings apart, so do the fingerprints. -/
theorem Fault.Told.fingerprint_eq_iff {left right : Fault} {leftFinding rightFinding : Finding}
    {leftCheck rightCheck : Check} {leftSubject rightSubject : String}
    {leftPattern rightPattern : Option String} {texts : List String}
    (leftTold : left.Told leftSchema leftFinding leftCheck leftSubject leftPattern)
    (rightTold : right.Told rightSchema rightFinding rightCheck rightSubject rightPattern)
    (separates : Digest.Separates texts) (leftMember : leftFinding.identity ∈ texts)
    (rightMember : rightFinding.identity ∈ texts) :
    leftFinding.fingerprint = rightFinding.fingerprint ↔ leftFinding.Concurs rightFinding := by
  rw [leftTold.identified.fingerprint_eq, rightTold.identified.fingerprint_eq, Option.some.injEq,
    ← leftTold.identity_eq_iff rightTold]
  exact ⟨separates _ leftMember _ rightMember, fun same => by rw [same]⟩

/-- The fingerprint of a finding that a run shows is the hash of its text. If no two of the texts
that two runs hash have the same hash, findings that the runs show have the same fingerprint exactly
if they are of one check, about one subject and, for denied values, about one pattern. In particular
the findings of one run have distinct fingerprints. -/
theorem emitted_fingerprint_eq_iff (leftContext rightContext : Context)
    (leftPolicy rightPolicy : Policy) (leftNamed : leftSchema.WellNamed)
    (rightNamed : rightSchema.WellNamed)
    (separates : Digest.Separates
      (((evaluate leftSchema leftContext leftPolicy).findings ++
        (evaluate rightSchema rightContext rightPolicy).findings).map Finding.identity)) :
    (∀ finding ∈ (evaluate leftSchema leftContext leftPolicy).findings,
      finding.fingerprint = some (Digest.sha256 finding.identity)) ∧
      (∀ left ∈ (evaluate leftSchema leftContext leftPolicy).findings,
        ∀ right ∈ (evaluate rightSchema rightContext rightPolicy).findings,
          left.fingerprint = right.fingerprint ↔ left.Concurs right) ∧
      ((evaluate leftSchema leftContext leftPolicy).findings.map (·.fingerprint)).Nodup := by
  refine ⟨fun finding member => ?_, fun left leftMember right rightMember => ?_, ?_⟩
  · obtain ⟨_, _, _, _, told⟩ := exists_told leftNamed member
    exact told.identified.fingerprint_eq
  · obtain ⟨_, _, _, _, leftTold⟩ := exists_told leftNamed leftMember
    obtain ⟨_, _, _, _, rightTold⟩ := exists_told rightNamed rightMember
    exact leftTold.fingerprint_eq_iff rightTold separates
      (List.mem_map_of_mem (List.mem_append_left _ leftMember))
      (List.mem_map_of_mem (List.mem_append_right _ rightMember))
  · rw [List.Nodup, List.pairwise_map]
    refine (emitted_pairwise_not_concurs leftNamed).imp_of_mem
      fun {left right} leftMember rightMember apart same => apart ?_
    obtain ⟨_, _, _, _, leftTold⟩ := exists_told leftNamed leftMember
    obtain ⟨_, _, _, _, rightTold⟩ := exists_told leftNamed rightMember
    exact (leftTold.fingerprint_eq_iff rightTold separates
      (List.mem_map_of_mem (List.mem_append_left _ leftMember))
      (List.mem_map_of_mem (List.mem_append_left _ rightMember))).mp same

/-! ## Patterns that hold bars -/

/-- One key must not hold a bar, and the other must not be empty. -/
def barredSchema : Schema :=
  let contract (name : String) : Contract :=
    ⟨name, .empty, .ofList [("db.flags", .deny ["*|*"]), ("db.user", .deny [""])]⟩
  { config := .ofList [("db.flags", ⟨.string, true, []⟩), ("db.user", ⟨.string, true, []⟩)]
    invariants := []
    environments := .ofList [("prod", contract "prod"), ("test", contract "test")] }

/-- Both values are denied. -/
def barredContext : Context := ⟨.ofList [("db.flags", "a|b"), ("db.user", "")], "prod"⟩

/-- Elsewhere another value of the first key is denied. -/
def elsewhereContext : Context := ⟨.ofList [("db.flags", "|"), ("db.user", "admin")], "test"⟩

/-- Denied values are found with this severity, and all of them are shown. -/
def denyPolicy (severity : Severity) : Policy :=
  { profile := "strict"
    failOn := .error
    maxFindings := 9
    environment := none
    checks := .ofList [(Check.contractDeny.id, ⟨true, severity⟩)] }

/-- The three findings have two fingerprints. -/
theorem barredSchema_fingerprints :
    barredSchema.WellNamed ∧
      (allFindings barredSchema barredContext (denyPolicy .error)).map Finding.identity =
        ["contract.deny|value_denied|db.flags|*|*", "contract.deny|value_denied|db.user|"] ∧
      (allFindings barredSchema elsewhereContext (denyPolicy .warning)).map Finding.identity =
        ["contract.deny|value_denied|db.flags|*|*"] ∧
      (∀ left ∈ (evaluate barredSchema barredContext (denyPolicy .error)).findings,
        ∀ right ∈ (evaluate barredSchema elsewhereContext (denyPolicy .warning)).findings,
          left.fingerprint = right.fingerprint ↔ left.Concurs right) ∧
      ((evaluate barredSchema barredContext (denyPolicy .error)).findings.map
        (·.fingerprint)).Nodup := by
  have named : barredSchema.WellNamed := ⟨by decide, by decide, by decide, by decide⟩
  have here : (allFindings barredSchema barredContext (denyPolicy .error)).map Finding.identity =
      ["contract.deny|value_denied|db.flags|*|*", "contract.deny|value_denied|db.user|"] := by
    decide +kernel
  have there :
      (allFindings barredSchema elsewhereContext (denyPolicy .warning)).map Finding.identity =
        ["contract.deny|value_denied|db.flags|*|*"] := by
    decide +kernel
  have apart : Digest.Separates
      ["contract.deny|value_denied|db.flags|*|*", "contract.deny|value_denied|db.user|"] :=
    Digest.separates_of_nodup (by decide +kernel)
  have separates : Digest.Separates
      (((evaluate barredSchema barredContext (denyPolicy .error)).findings ++
        (evaluate barredSchema elsewhereContext (denyPolicy .warning)).findings).map
          Finding.identity) := by
    refine apart.mono fun text member => ?_
    obtain ⟨finding, shown, rfl⟩ := List.mem_map.mp member
    rcases List.mem_append.mp shown with shownHere | shownThere
    · have found := Finding.mem_sort.mp (List.mem_of_mem_take shownHere)
      rw [← here]
      exact List.mem_map_of_mem found
    · have found := Finding.mem_sort.mp (List.mem_of_mem_take shownThere)
      have hashed := List.mem_map_of_mem (f := Finding.identity) found
      rw [there] at hashed
      rw [List.mem_singleton.mp hashed]
      exact List.mem_cons_self
  obtain ⟨-, same, distinct⟩ := emitted_fingerprint_eq_iff barredContext elsewhereContext
    (denyPolicy .error) (denyPolicy .warning) named named separates
  exact ⟨named, here, there, same, distinct⟩

end Gate

end ConfigGate
