import ConfigGate.Proofs.Gate.Subjects

/-!
# Invariants in another order

The order in which a schema declares its invariants shows in the list of their results and nowhere
else in a run. What is found does not depend on it, and as no two findings have the same heading,
sorting them leaves no trace of the order in which they were made.

Results:
1. `allFindings_reordered_perm`: the checks make the same findings, in another order;
2. `sort_eq_of_perm`: findings with distinct headings have one order in a report;
3. `evaluate_reordered`: the runs agree but for the order of the results of the invariants.
-/

namespace ConfigGate

/-! ## Another order -/

/-- The entries at the given places, in the order of the places. -/
def reorder {α : Type} (places : List Nat) (entries : List α) : List α :=
  places.filterMap fun place => entries[place]?

section Reorder

variable {α β : Type} {places : List Nat} {entries : List α}

theorem map_reorder (f : α → β) :
    (reorder places entries).map f = reorder places (entries.map f) := by
  simp only [reorder, List.map_filterMap, List.getElem?_map]

theorem reorder_range (entries : List α) :
    reorder (List.range entries.length) entries = entries := by
  induction entries with
  | nil => rfl
  | cons first others ih =>
      rw [List.length_cons, List.range_succ_eq_map, reorder, List.filterMap_cons,
        List.filterMap_map]
      exact congrArg (first :: ·) ih

/-- Every place once: the entries are the same, in another order. -/
theorem reorder_perm (every : places.Perm (List.range entries.length)) :
    (reorder places entries).Perm entries := by
  have same := every.filterMap fun place => entries[place]?
  rwa [← reorder, ← reorder, reorder_range] at same

end Reorder

/-- The schema with its invariants in another order. -/
def Schema.reordered (schema : Schema) (places : List Nat) : Schema :=
  { schema with invariants := reorder places schema.invariants }

/-! ## Sorting distinct findings -/

namespace Finding

theorem sort_precedes {findings : List Finding} (distinct : Distinct findings) :
    (sort findings).Pairwise fun left right => left.heading.Precedes right.heading := by
  have sortedDistinct := distinct.perm (List.mergeSort_perm findings atMost).symm
  refine (sort_pairwise findings).imp₂ (fun {left right} before different => ?_) sortedDistinct
  exact (precedes_or_of_atMost before).resolve_right fun ⟨same, _⟩ => different same

/-- Distinct findings have one order in a report. -/
theorem sort_eq_of_perm {left right : List Finding} (perm : left.Perm right)
    (distinct : Distinct left) : sort left = sort right := by
  refine List.Perm.eq_of_pairwise (fun _ _ _ _ before back => absurd back before.asymm)
    (sort_precedes distinct) (sort_precedes (distinct.perm perm)) ?_
  exact (List.mergeSort_perm left atMost).trans
    (perm.trans (List.mergeSort_perm right atMost).symm)

end Finding

namespace Gate

variable {schema : Schema} {context : Context} {policy : Policy} {places : List Nat}

/-! ## Runs -/

theorem invariantResults_reordered :
    invariantResults (schema.reordered places) context =
      reorder places (invariantResults schema context) :=
  map_reorder (Invariant.evaluate context)

theorem invariantResults_reordered_perm
    (every : places.Perm (List.range schema.invariants.length)) :
    (invariantResults (schema.reordered places) context).Perm (invariantResults schema context) :=
  (reorder_perm every).map (Invariant.evaluate context)

theorem whenOn_perm {check : Check} {left right : Severity → List Finding}
    (perm : ∀ severity, (left severity).Perm (right severity)) :
    (whenOn policy check left).Perm (whenOn policy check right) := by
  unfold whenOn
  split
  · exact .refl []
  · exact perm _

/-- The checks make the same findings, in another order. -/
theorem allFindings_reordered_perm
    (every : places.Perm (List.range schema.invariants.length)) :
    (allFindings (schema.reordered places) context policy).Perm
      (allFindings schema context policy) := by
  have results : (invariantResults (schema.reordered places) context).Perm
      (invariantResults schema context) := invariantResults_reordered_perm every
  have broken : (whenOn policy .invariantRule fun severity =>
        invariantFindings severity (invariantResults (schema.reordered places) context)).Perm
      (whenOn policy .invariantRule fun severity =>
        invariantFindings severity (invariantResults schema context)) :=
    whenOn_perm fun severity => (results.filter _).map (brokenFinding severity)
  exact (broken.append_left _).append_right _

/-- No two findings that a run emits have the same heading, and with the invariants in another order
the run is the same but for the order of their results. -/
theorem evaluate_reordered (schema : Schema) (context : Context) (policy : Policy)
    (wellNamed : schema.WellNamed) :
    (evaluate schema context policy).findings.Pairwise
        (fun left right => left.heading ≠ right.heading) ∧
      ∀ places : List Nat, places.Perm (List.range schema.invariants.length) →
        evaluate (schema.reordered places) context policy =
          { evaluate schema context policy with
            invariants := reorder places (evaluate schema context policy).invariants } := by
  have distinct : Finding.Distinct (allFindings schema context policy) :=
    allFindings_distinct wellNamed
  constructor
  · have sorted := distinct.perm (List.mergeSort_perm _ Finding.atMost).symm
    exact sorted.sublist (List.take_sublist policy.maxFindings _)
  · intro places every
    have sorted : Finding.sort (allFindings (schema.reordered places) context policy) =
        Finding.sort (allFindings schema context policy) :=
      (Finding.sort_eq_of_perm (allFindings_reordered_perm every).symm distinct).symm
    -- Otherwise a run looks at the number of the results only, and at what is not reordered.
    have evaluated : (invariantResults (schema.reordered places) context).length =
        (invariantResults schema context).length :=
      (invariantResults_reordered_perm every).length_eq
    have contract : contractResult? (schema.reordered places) context policy =
        contractResult? schema context policy := rfl
    simp only [evaluate, sorted, evaluated, contract]
    rw [invariantResults_reordered]
    rfl

/-! ## Two invariants that do not hold -/

/-- Two invariants about one key, and a contract that denies values with quotes for it. -/
def quotedSchema : Schema :=
  let rule (value : String) : Rule.Expr := .comparison (.configRef "db.env") .equal (.literal value)
  { config := .ofList [("db.env", ⟨.enum, true, ["prod"]⟩)]
    invariants := [⟨"tls", (rule "a").format, rule "a"⟩, ⟨"audit", (rule "b").format, rule "b"⟩]
    environments := .ofList [("prod", ⟨"prod", .empty, .ofList [("db.env", .deny ["*'*"])]⟩)] }

/-- The value reads like the beginning of another message. -/
def quotedContext : Context := ⟨.ofList [("db.env", "invariant 'audit' failed: ")], "prod"⟩

/-- Every check runs, and there is room for three of the four findings. -/
def cutPolicy : Policy :=
  { profile := "strict"
    failOn := .error
    maxFindings := 3
    environment := none
    checks := .ofList (Check.all.map fun check => (check.id, ⟨true, .error⟩)) }

/-- With its invariants swapped the schema has the same findings cut off. -/
theorem quotedSchema_reordered :
    quotedSchema.WellNamed ∧ (allFindings quotedSchema quotedContext cutPolicy).length = 4 ∧
      (evaluate (quotedSchema.reordered [1, 0]) quotedContext cutPolicy).findings =
        (evaluate quotedSchema quotedContext cutPolicy).findings ∧
      (evaluate (quotedSchema.reordered [1, 0]) quotedContext cutPolicy).invariants.map (·.name) =
        ["audit", "tls"] := by
  have wellNamed : quotedSchema.WellNamed :=
    ⟨by decide, by decide, by decide, by decide⟩
  obtain ⟨-, reordered⟩ := evaluate_reordered quotedSchema quotedContext cutPolicy wellNamed
  have swapped := reordered [1, 0] (by decide)
  refine ⟨wellNamed, by decide +kernel, ?_, ?_⟩
  · rw [swapped]
  · rw [swapped]
    rfl

end Gate

end ConfigGate
