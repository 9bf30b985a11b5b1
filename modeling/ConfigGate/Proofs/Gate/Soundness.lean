import ConfigGate.Proofs.Gate.Findings
import ConfigGate.Proofs.Gate.Verdict
import ConfigGate.Proofs.Resolution
import ConfigGate.Proofs.Rule.RoundTrip
import ConfigGate.Proofs.Rule.Truth
import ConfigGate.Proofs.Schema.Loading
import ConfigGate.Settings.Basic

/-!
# What a pass means

`Schema.Satisfied` says of the variables of a process, and of nothing else, what a schema asks of
them. A run in which every check at least warns passes exactly when it holds: `evaluate_pass_iff`.

The schema must be a loaded one. Rules of other schemas may refer to keys that are never read, and
their contracts may speak of such keys.
-/

namespace ConfigGate

/-- What a schema asks of the variables, where `resolved` says how keys are named and which contract
applies. A rule reads a key that is not set as the empty text. -/
structure Schema.Satisfied (schema : Schema) (vars : Variables) (resolved : Resolved) : Prop where
  required : ∀ key decl, schema.config.get? key = some decl → decl.required = true →
    ∃ value, vars (variableName resolved.naming.lead key) = some value
  declared : ∀ key decl value, schema.config.get? key = some decl → decl.kind = .enum →
    vars (variableName resolved.naming.lead key) = some value → value ∈ decl.values
  invariants : ∀ invariant ∈ schema.invariants,
    invariant.expr.truth (fun key => (vars (variableName resolved.naming.lead key)).getD "")
      ((vars resolved.naming.executionVariable).getD "") = true
  contract : ∀ contract,
    schema.contract? (resolved.policy.environment.getD
      ((vars resolved.naming.executionVariable).getD "")) = some contract →
    ∀ key value, vars (variableName resolved.naming.lead key) = some value →
      ¬contract.Denies key value ∧ ¬contract.Excludes key value

namespace Gate

/-- A run with room for a finding passes exactly when it finds nothing but information. -/
theorem evaluate_verdict_eq_pass_iff {schema : Schema} {context : Context} {policy : Policy}
    (room : 0 < policy.maxFindings) :
    (evaluate schema context policy).verdict = .pass ↔
      ∀ finding, Finds schema context policy finding → finding.severity = .info := by
  rw [evaluate_verdict room, verdict_eq_pass_iff]
  simp only [mem_allFindings_iff]

variable {document : Document} {schema : Schema} {vars : Variables} {resolved : Resolved}

/-- In a loaded schema evaluating an invariant gives its truth in terms of the variables. -/
theorem evaluate_invariant_passed (loaded : schema.LoadedFrom document) {invariant : Invariant}
    (member : invariant ∈ schema.invariants) (naming : Naming) :
    (invariant.evaluate (Resolution.read schema vars naming).context).passed =
      invariant.expr.truth (fun key => (vars (variableName naming.lead key)).getD "")
        ((vars naming.executionVariable).getD "") := by
  show (invariant.expr.eval _).holds = _
  rw [Rule.Expr.eval_holds]
  refine Rule.Expr.truth_congr fun path reference => ?_
  exact Resolution.read_value ((loaded.rules invariant member).refs path reference)

/-- What satisfies a schema gives no cause for any finding. -/
theorem not_finds_of_satisfied (loaded : schema.LoadedFrom document)
    (satisfied : schema.Satisfied vars resolved) (finding : Finding) :
    ¬Finds schema (Resolution.read schema vars resolved.naming).context resolved.policy
      finding := by
  intro finds
  cases finds with
  | @missing key decl _ _ found required unset =>
      obtain ⟨value, set⟩ := satisfied.required key decl found required
      have declared := SortedMap.contains_eq_true_iff.mpr ⟨decl, found⟩
      have read := Resolution.read_get?_eq_some_iff.mpr ⟨declared, set⟩
      exact absurd (unset.symm.trans read) (by simp)
  | @undeclared key value decl _ _ found enum set other =>
      obtain ⟨-, set⟩ := Resolution.read_get?_eq_some_iff.mp set
      exact other (satisfied.declared key decl value found enum set)
  | @broken invariant _ _ member failed =>
      rw [evaluate_invariant_passed loaded member, satisfied.invariants invariant member] at failed
      exact absurd failed (by simp)
  | @violated contract key value violation _ _ found set violated =>
      obtain ⟨-, set⟩ := Resolution.read_get?_eq_some_iff.mp set
      have permitted := satisfied.contract contract found key value set
      have built := (loaded.contract_built found).2
      exact absurd (((Contract.violation?_eq_none_iff built).mpr permitted).symm.trans violated)
        (by simp)

/-- Where each check at least warns and nothing worse than information is found, the schema is
satisfied. -/
theorem satisfied_of_finds (loaded : schema.LoadedFrom document)
    (watched : ∀ check : Check, ∃ severity,
      resolved.policy.severity? check.id = some severity ∧ severity ≠ .info)
    (clean : ∀ finding,
      Finds schema (Resolution.read schema vars resolved.naming).context resolved.policy finding →
        finding.severity = .info) :
    schema.Satisfied vars resolved := by
  constructor
  case required =>
    intro key decl found required
    have declared := SortedMap.contains_eq_true_iff.mpr ⟨decl, found⟩
    cases set : vars (variableName resolved.naming.lead key) with
    | some value => exact ⟨value, rfl⟩
    | none =>
        obtain ⟨severity, on, matters⟩ := watched .required
        have unset := (Resolution.read_get?_of_declared vars resolved.naming declared).trans set
        exact absurd (clean _ (.missing on found required unset)) matters
  case declared =>
    intro key decl value found enum set
    have declared := SortedMap.contains_eq_true_iff.mpr ⟨decl, found⟩
    have read := Resolution.read_get?_eq_some_iff.mpr ⟨declared, set⟩
    refine Classical.byContradiction fun other => ?_
    obtain ⟨severity, on, matters⟩ := watched .enumValue
    exact matters (clean _ (.undeclared on found enum read other))
  case invariants =>
    intro invariant member
    rw [← evaluate_invariant_passed loaded member]
    refine Bool.of_not_eq_false fun failed => ?_
    obtain ⟨severity, on, matters⟩ := watched .invariantRule
    exact matters (clean _ (.broken on member failed))
  case contract =>
    intro contract found key value set
    have built := (loaded.contract_built found).2
    refine Classical.byContradiction fun objected => ?_
    -- Only of a key with a clause is it known that it is declared, and so that it was read.
    have member : key ∈ contract.keys := Classical.byContradiction fun outside =>
      objected ⟨fun denied => outside denied.mem_keys, fun excluded => outside excluded.mem_keys⟩
    have declared := loaded.contract_declared found member
    have read := Resolution.read_get?_eq_some_iff.mpr ⟨declared, set⟩
    cases violated : contract.violation? key value with
    | none => exact objected ((Contract.violation?_eq_none_iff built).mp violated)
    | some violation =>
        obtain ⟨severity, on, matters⟩ := watched (.ofClause violation.clause)
        exact matters (clean _ (.violated on found read violated))

/-- A run of a loaded schema in which every check at least warns passes exactly when the variables
are as the schema asks. -/
theorem evaluate_pass_iff (vars : Variables) (loads : Schema.ofDocument document = .ok schema)
    (watched : ∀ check : Check, ∃ severity,
      resolved.policy.severity? check.id = some severity ∧ severity ≠ .info)
    (room : 1 ≤ resolved.policy.maxFindings) :
    (evaluate schema (Resolution.read schema vars resolved.naming).context
        resolved.policy).verdict = .pass ↔
      schema.Satisfied vars resolved := by
  have loaded := Schema.ofDocument_eq_ok_iff.mp loads
  rw [evaluate_verdict_eq_pass_iff room]
  constructor
  · exact satisfied_of_finds loaded watched
  · intro satisfied finding finds
    exact absurd finds (not_finds_of_satisfied loaded satisfied finding)

/-! ## A service in production -/

/-- In production the level of the log is `info`. -/
def quietRule : Rule.Expr :=
  .implication (.comparison .executionEnv .equal (.literal "prod"))
    (.comparison (.configRef "log.level") .equal (.literal "info"))

/-- A required key, a key of kind enum, an invariant, and a contract for production. -/
def serviceSchema : Schema :=
  { config := .ofList
      [("db.url", ⟨.string, true, []⟩), ("log.level", ⟨.enum, false, ["info", "debug"]⟩)]
    invariants := [⟨"quiet", quietRule.format, quietRule⟩]
    environments := .ofList
      [("prod", ⟨"prod", .ofList [("log.level", .allow ["info"])],
        .ofList [("db.url", .deny ["*localhost*"])]⟩)] }

/-- What settings that say nothing resolve to when variables begin with `app`. -/
def serviceResolved : Resolved :=
  { policy :=
      { profile := "strict"
        failOn := .error
        maxFindings := Settings.defaultMaxFindings
        environment := none
        checks := presetChecks .error }
    naming := ⟨some "app", "EXECUTION_ENV"⟩ }

/-- Variables as the schema asks. -/
def serviceVars : Variables
  | "APP_DB_URL" => some "postgres://db.internal"
  | "APP_LOG_LEVEL" => some "info"
  | "EXECUTION_ENV" => some "prod"
  | _ => none

theorem quietRule_wellFormed : quietRule.WellFormed := by
  refine ⟨⟨trivial, ?_⟩, ⟨⟨["log", "level"], by decide, by decide, rfl⟩, by decide⟩, ?_⟩
  · show '"' ∉ "prod".toList
    decide
  · show '"' ∉ "info".toList
    decide

theorem serviceSchema_loads : Schema.ofDocument serviceSchema.toDocument = .ok serviceSchema := by
  refine Schema.ofDocument_eq_ok_iff.mpr ⟨rfl, rfl, by decide, ?_, ?_, by decide, by decide⟩
  · simp only [← keyFault?_eq_none_iff]
    decide
  · intro invariant member
    obtain rfl := List.mem_singleton.mp member
    exact ⟨by decide, Rule.parse_format quietRule_wellFormed, by decide⟩

/-- The service runs as its schema asks. -/
theorem service_satisfied :
    Schema.ofDocument serviceSchema.toDocument = .ok serviceSchema ∧
      Settings.empty.resolve { Overrides.none with lead := some "app" } = .ok serviceResolved ∧
      serviceSchema.Satisfied serviceVars serviceResolved := by
  refine ⟨serviceSchema_loads, rfl, ?_⟩
  refine (evaluate_pass_iff serviceVars serviceSchema_loads ?_ (by decide)).mp ?_
  · intro check
    cases check <;> exact ⟨.error, by decide, by decide⟩
  · rw [evaluate_verdict (by decide)]
    decide +kernel

end Gate

end ConfigGate
