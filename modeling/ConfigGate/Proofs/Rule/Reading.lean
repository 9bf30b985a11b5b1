import ConfigGate.Proofs.Rule.Truth

/-!
# What rules read

A rule reads the keys that its expression refers to, and the execution tag if it occurs in it. Two
contexts that agree on these give the same result, message and shown texts included, whatever the
shape of the expression. A key that is not set reads as the empty text, so a rule cannot tell it
from a key that is set to nothing; the check of required keys can.

Results:
1. `Context.value_insert_empty`: setting an unset key to the empty text changes nothing read;
2. `Invariant.evaluate_eq_of_reads`: results depend on what is read only.
-/

namespace ConfigGate

open Rule

/-- The context with a key set. -/
def Context.insert (context : Context) (key value : String) : Context :=
  { context with values := context.values.insert key value }

theorem Context.value_insert (context : Context) (key value path : String) :
    (context.insert key value).value path = if key = path then value else context.value path := by
  rw [Context.value, insert, SortedMap.get?_insert]
  split <;> rfl

/-- Where an unset key is set to the empty text, every key reads as before. -/
theorem Context.value_insert_empty {context : Context} {key : String}
    (unset : context.values.get? key = none) (path : String) :
    (context.insert key "").value path = context.value path := by
  rw [value_insert]
  split
  · rename_i same
    rw [← same, Context.value, unset, Option.getD_none]
  · rfl

/-- The result of an invariant, with its message and the texts shown, is the same in contexts with
the same tag that show the same value of every key listed; where the execution tag does not occur
the tags may differ; and unset keys are as good as empty ones. The keys listed are those that occur
in the expression. -/
theorem Invariant.evaluate_eq_of_reads (invariant : Invariant) :
    (∀ left right : Context, left.executionEnv = right.executionEnv →
      (∀ path ∈ invariant.expr.refs, left.value path = right.value path) →
        invariant.evaluate left = invariant.evaluate right) ∧
    (Expr.executionEnv ∉ invariant.expr.parts → ∀ left right : Context,
      (∀ path ∈ invariant.expr.refs, left.value path = right.value path) →
        invariant.evaluate left = invariant.evaluate right) ∧
    (∀ (context : Context) (key : String), context.values.get? key = none →
      invariant.evaluate (context.insert key "") = invariant.evaluate context) ∧
    ∀ path, path ∈ invariant.expr.refs ↔ Expr.configRef path ∈ invariant.expr.parts := by
  refine ⟨fun left right tag agree => ?_, fun tagless left right agree => ?_,
    fun context key unset => ?_, fun path => Expr.mem_refs_iff⟩
  · exact evaluate_congr (fun _ => tag) agree
  · exact evaluate_congr (fun occurs => absurd occurs tagless) agree
  · exact evaluate_congr (fun _ => rfl) fun path _ => Context.value_insert_empty unset path

/-! ## A tag and two keys -/

/-- A comparison of comparisons: whether the two keys are the same is to be whether the second
implies the first. -/
def pairExpr : Expr :=
  .comparison (.comparison (.configRef "a") .equal (.configRef "b")) .equal
    (.implication (.configRef "b") (.configRef "a"))

/-- The comparison as a rule for all places. -/
def pairRule : Invariant := ⟨"pair", pairExpr.format, pairExpr⟩

/-- The comparison as a rule for one place. -/
def placedRule : Invariant :=
  let expr : Expr :=
    .implication (.comparison .executionEnv .equal (.literal "prod")) pairExpr
  ⟨"placed", expr.format, expr⟩

/-- The second key is not set. -/
def secondUnset : Context := ⟨.ofList [("a", "1"), ("c", "1")], "prod"⟩

/-- The second key is empty, and so is one that the rules do not refer to. -/
def secondEmpty (tag : String) : Context := ⟨.ofList [("a", "1"), ("b", ""), ("c", "")], tag⟩

/-- An unset key and an empty one fail the rules in the same way, and only the rule that reads the
tag notices another tag. A value of the second key is noticed by both. -/
theorem pairRule_read :
    (∀ path ∈ placedRule.expr.refs, secondUnset.value path = (secondEmpty "prod").value path) ∧
      secondUnset.values.get? "b" = none ∧
      Expr.executionEnv ∉ pairRule.expr.parts ∧
      placedRule.evaluate secondUnset = placedRule.evaluate (secondEmpty "prod") ∧
      placedRule.evaluate (secondUnset.insert "b" "") = placedRule.evaluate secondUnset ∧
      pairRule.evaluate secondUnset = pairRule.evaluate (secondEmpty "test") ∧
      placedRule.evaluate secondUnset ≠ placedRule.evaluate (secondEmpty "test") ∧
      placedRule.evaluate secondUnset ≠ placedRule.evaluate (secondUnset.insert "b" "1") ∧
      pairRule.evaluate secondUnset ≠ pairRule.evaluate (secondUnset.insert "b" "1") := by
  have listed : ∀ path ∈ placedRule.expr.refs,
      secondUnset.value path = (secondEmpty "prod").value path := by decide +kernel
  have tagless : Expr.executionEnv ∉ pairRule.expr.parts := by decide +kernel
  obtain ⟨placed, -, unset, -⟩ := placedRule.evaluate_eq_of_reads
  obtain ⟨-, everywhere, -, -⟩ := pairRule.evaluate_eq_of_reads
  refine ⟨listed, rfl, tagless, placed _ _ rfl listed, unset secondUnset "b" rfl, ?_,
    by decide +kernel, by decide +kernel, by decide +kernel⟩
  exact everywhere tagless _ _ (by decide +kernel)

end ConfigGate
