import ConfigGate.Invariant

/-!
# The truth of rules

What an expression says, for any shape of expression: `truth` is whether it holds and `text` is what
it stands for inside a comparison. Evaluation computes both (`eval_spec`), and neither depends on
more than the execution tag and the keys that the expression refers to (`truth_congr`). The same
goes for the whole outcome, where the tag counts only if it is read (`eval_congr`), and so for the
result of an invariant (`Invariant.evaluate_congr`).
-/

namespace ConfigGate

namespace Rule.Expr

mutual

/-- Whether an expression holds, where `values` gives the texts of the keys and `tag` is the
execution tag. -/
def truth (values : String → String) (tag : String) : Expr → Bool
  | literal _ => true
  | configRef path => values path != ""
  | executionEnv => tag != ""
  | comparison left .equal right => text values tag left == text values tag right
  | comparison left .notEqual right => text values tag left != text values tag right
  | implication antecedent consequent => !truth values tag antecedent || truth values tag consequent

/-- The text an expression stands for as an operand: a compound one stands for its truth. -/
def text (values : String → String) (tag : String) : Expr → String
  | literal text => text
  | configRef path => values path
  | executionEnv => tag
  | comparison left .equal right =>
      if text values tag left == text values tag right then "true" else "false"
  | comparison left .notEqual right =>
      if text values tag left != text values tag right then "true" else "false"
  | implication antecedent consequent =>
      if !truth values tag antecedent || truth values tag consequent then "true" else "false"

end

variable {context : Context} {values others : String → String} {tag : String}

theorem isEmpty_eq_beq (text : String) : text.isEmpty = (text == "") := by
  rw [Bool.eq_iff_iff, String.isEmpty_iff, beq_iff_eq]

/-- Evaluation gives the text and the truth of every expression. -/
theorem eval_spec (context : Context) (expr : Expr) :
    (expr.eval context).text = expr.text context.value context.executionEnv ∧
      (expr.eval context).holds = expr.truth context.value context.executionEnv := by
  induction expr with
  | literal text => exact ⟨rfl, rfl⟩
  | configRef path =>
      refine ⟨rfl, ?_⟩
      show (!(context.value path).isEmpty) = (context.value path != "")
      rw [isEmpty_eq_beq]
      rfl
  | executionEnv =>
      refine ⟨rfl, ?_⟩
      show (!context.executionEnv.isEmpty) = (context.executionEnv != "")
      rw [isEmpty_eq_beq]
      rfl
  | comparison left op right leftSpec rightSpec =>
      cases op <;>
        simp only [eval, text, truth, truthText, CompareOp.test, leftSpec.1, rightSpec.1, and_self]
  | implication antecedent consequent antecedentSpec consequentSpec =>
      simp only [eval, text, truth, truthText, antecedentSpec.2, consequentSpec.2, and_self]

theorem eval_holds (context : Context) (expr : Expr) :
    (expr.eval context).holds = expr.truth context.value context.executionEnv :=
  (eval_spec context expr).2

/-- Text and truth of an expression depend on the keys it refers to only. -/
theorem text_truth_congr {expr : Expr} (agree : ∀ path ∈ expr.refs, values path = others path) :
    expr.text values tag = expr.text others tag ∧
      expr.truth values tag = expr.truth others tag := by
  -- The two go together: the text of an implication inside a comparison is that of its truth.
  induction expr with
  | literal text => exact ⟨rfl, rfl⟩
  | configRef path =>
      have same := agree path (by simp [refs])
      simp only [text, truth, same, and_self]
  | executionEnv => exact ⟨rfl, rfl⟩
  | comparison left op right leftSame rightSame =>
      have leftSame := leftSame fun path member => agree path (by simp [refs, member])
      have rightSame := rightSame fun path member => agree path (by simp [refs, member])
      cases op <;> simp only [text, truth, leftSame.1, rightSame.1, and_self]
  | implication antecedent consequent antecedentSame consequentSame =>
      have antecedentSame := antecedentSame fun path member => agree path (by simp [refs, member])
      have consequentSame := consequentSame fun path member => agree path (by simp [refs, member])
      simp only [text, truth, antecedentSame.2, consequentSame.2, and_self]

theorem truth_congr {expr : Expr} (agree : ∀ path ∈ expr.refs, values path = others path) :
    expr.truth values tag = expr.truth others tag :=
  (text_truth_congr agree).2

/-! ## What is read -/

/-- An expression and the expressions inside it, each in front of what is inside it. -/
def parts : Expr → List Expr
  | implication antecedent consequent =>
      implication antecedent consequent :: (antecedent.parts ++ consequent.parts)
  | comparison left op right => comparison left op right :: (left.parts ++ right.parts)
  | configRef path => [configRef path]
  | executionEnv => [executionEnv]
  | literal text => [literal text]

/-- The references listed are those that occur in the expression. -/
theorem mem_refs_iff {expr : Expr} {path : String} :
    path ∈ expr.refs ↔ configRef path ∈ expr.parts := by
  induction expr with
  | literal text => simp [refs, parts]
  | configRef other => simp [refs, parts]
  | executionEnv => simp [refs, parts]
  | comparison left op right leftOccurs rightOccurs => simp [refs, parts, leftOccurs, rightOccurs]
  | implication antecedent consequent antecedentOccurs consequentOccurs =>
      simp [refs, parts, antecedentOccurs, consequentOccurs]

/-- The outcome of an expression depends on the keys it refers to only, and on the execution tag if
it reads that. -/
theorem eval_congr {expr : Expr} {left right : Context}
    (tag : executionEnv ∈ expr.parts → left.executionEnv = right.executionEnv)
    (agree : ∀ path ∈ expr.refs, left.value path = right.value path) :
    expr.eval left = expr.eval right := by
  induction expr with
  | literal text => rfl
  | configRef path => rw [eval, eval, agree path (by simp [refs])]
  | executionEnv => rw [eval, eval, tag (by simp [parts])]
  | comparison first op second firstSame secondSame =>
      have firstSame := firstSame (fun occurs => tag (by simp [parts, occurs]))
        fun path member => agree path (by simp [refs, member])
      have secondSame := secondSame (fun occurs => tag (by simp [parts, occurs]))
        fun path member => agree path (by simp [refs, member])
      rw [eval, eval, firstSame, secondSame]
  | implication antecedent consequent antecedentSame consequentSame =>
      have antecedentSame := antecedentSame (fun occurs => tag (by simp [parts, occurs]))
        fun path member => agree path (by simp [refs, member])
      have consequentSame := consequentSame (fun occurs => tag (by simp [parts, occurs]))
        fun path member => agree path (by simp [refs, member])
      rw [eval, eval, antecedentSame, consequentSame]

end Rule.Expr

/-- The result of an invariant depends on what its expression reads only. -/
theorem Invariant.evaluate_congr {invariant : Invariant} {left right : Context}
    (tag : Rule.Expr.executionEnv ∈ invariant.expr.parts → left.executionEnv = right.executionEnv)
    (agree : ∀ path ∈ invariant.expr.refs, left.value path = right.value path) :
    invariant.evaluate left = invariant.evaluate right := by
  rw [evaluate, evaluate, Rule.Expr.eval_congr tag agree]

end ConfigGate
