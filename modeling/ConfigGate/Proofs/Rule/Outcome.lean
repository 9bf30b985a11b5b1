import ConfigGate.Proofs.Rule.Truth

/-!
# What evaluating a rule shows

An implication is read down its consequents to the first expression that is not an implication, its
`conclusion`; the antecedents on the way are its `premises`. A rule fails when all premises hold and
the conclusion does not, and the two texts shown are those of the conclusion, so a failure always
shows why: texts that differ, texts that are the same, or no text.

Results:
1. `eval_sides`: the texts shown are the sides of the conclusion;
2. `truth_eq_false_iff`: how a rule fails;
3. `evaluate_agrees`: both for an invariant, with its message.
-/

namespace ConfigGate.Rule.Expr

/-! ## Definitions -/

/-- The first expression down the consequents that is not an implication. -/
def conclusion : Expr → Expr
  | implication _ consequent => consequent.conclusion
  | expr => expr

/-- The antecedents on the way to the conclusion. -/
def premises : Expr → List Expr
  | implication antecedent consequent => antecedent :: consequent.premises
  | _ => []

/-- The texts of the two sides of a comparison. Any other expression has a left side only. -/
def sides (values : String → String) (tag : String) : Expr → String × String
  | comparison left _ right => (left.text values tag, right.text values tag)
  | expr => (expr.text values tag, "")

/-- What the two texts are when an expression that is not an implication fails. -/
def FailsWith (left right : String) : Expr → Prop
  | implication .. => False
  | comparison _ .equal _ => left ≠ right
  | comparison _ .notEqual _ => left = right
  | _ => left = "" ∧ right = ""

/-! ## Premises and conclusions -/

variable {context : Context} {values : String → String} {tag : String}

/-- Evaluation shows the sides of the conclusion. -/
theorem eval_sides (context : Context) (expr : Expr) :
    ((expr.eval context).left, (expr.eval context).right) =
      expr.conclusion.sides context.value context.executionEnv := by
  induction expr with
  | literal text => rfl
  | configRef path => rfl
  | executionEnv => rfl
  | comparison left op right _ _ =>
      simp only [eval, conclusion, sides, (eval_spec context left).1, (eval_spec context right).1]
  | implication antecedent consequent _ consequentSides => exact consequentSides

/-- An expression fails exactly when all its premises hold and its conclusion does not. -/
theorem truth_eq_false_iff (values : String → String) (tag : String) (expr : Expr) :
    expr.truth values tag = false ↔
      (∀ premise ∈ expr.premises, premise.truth values tag = true) ∧
        expr.conclusion.truth values tag = false := by
  induction expr with
  | literal text => simp [premises, conclusion]
  | configRef path => simp [premises, conclusion]
  | executionEnv => simp [premises, conclusion]
  | comparison left op right _ _ => simp [premises, conclusion]
  | implication antecedent consequent _ consequentFails =>
      rw [truth, Bool.or_eq_false_iff, Bool.not_eq_false', consequentFails, premises, conclusion,
        List.forall_mem_cons, and_assoc]

theorem conclusion_ne_implication (expr antecedent consequent : Expr) :
    expr.conclusion ≠ implication antecedent consequent := by
  induction expr with
  | implication _ _ _ consequentOther => exact consequentOther
  | literal | configRef | executionEnv | comparison => exact nofun

/-- The sides of an expression that fails tell why, unless it is an implication. -/
theorem failsWith_of_truth {expr : Expr}
    (other : ∀ antecedent consequent, expr ≠ implication antecedent consequent)
    (fails : expr.truth values tag = false) :
    expr.FailsWith (expr.sides values tag).1 (expr.sides values tag).2 := by
  cases expr with
  | literal text => exact absurd fails (by simp [truth])
  | configRef path =>
      have empty : values path = "" := by simpa [truth] using fails
      exact ⟨empty, rfl⟩
  | executionEnv =>
      have empty : tag = "" := by simpa [truth] using fails
      exact ⟨empty, rfl⟩
  | comparison left op right =>
      cases op with
      | equal =>
          have different : left.text values tag ≠ right.text values tag := by
            simpa [truth] using fails
          exact different
      | notEqual =>
          have same : left.text values tag = right.text values tag := by
            simpa [truth] using fails
          exact same
  | implication antecedent consequent => exact absurd rfl (other antecedent consequent)

/-- A failure never has an empty message. -/
theorem failureMessage_ne_empty (outcome : Outcome) (expr : Expr) :
    expr.failureMessage outcome ≠ "" := by
  intro empty
  have size : (expr.failureMessage outcome).utf8ByteSize = 0 := by rw [empty]; rfl
  cases expr <;> simp [failureMessage] at size

end Rule.Expr

/-! ## Invariants -/

open Rule

/-- The text under a key, where a key that is not set reads as the empty text. -/
def textUnder (values : SortedMap String) (key : String) : String :=
  match values.get? key with
  | some text => text
  | none => ""

theorem Context.value_eq_textUnder (context : Context) :
    context.value = textUnder context.values := by
  funext key
  rw [value, textUnder]
  cases context.values.get? key <;> rfl

/-- A result tells of an expression whether it holds, and why it does not. -/
structure InvariantResult.Agrees (result : InvariantResult) (expr : Expr) (context : Context) :
    Prop where
  passed : result.passed = expr.truth (textUnder context.values) context.executionEnv
  message : result.message = "" ↔ result.passed = true
  shown : (result.leftValue, result.rightValue) =
    expr.conclusion.sides (textUnder context.values) context.executionEnv
  premises : result.passed = false →
    ∀ premise ∈ expr.premises,
      premise.truth (textUnder context.values) context.executionEnv = true
  conclusion : result.passed = false →
    expr.conclusion.truth (textUnder context.values) context.executionEnv = false
  reason : result.passed = false → expr.conclusion.FailsWith result.leftValue result.rightValue

/-- Evaluating an invariant of any shape agrees with the truth of its expression. -/
theorem Invariant.evaluate_agrees (context : Context) (invariant : Invariant) :
    (invariant.evaluate context).Agrees invariant.expr context := by
  have passed := Expr.eval_holds context invariant.expr
  have shown := Expr.eval_sides context invariant.expr
  rw [context.value_eq_textUnder] at passed shown
  -- Both parts of a failure come from the truth of the whole expression.
  have fails : (invariant.evaluate context).passed = false →
      (∀ premise ∈ invariant.expr.premises,
        premise.truth (textUnder context.values) context.executionEnv = true) ∧
        invariant.expr.conclusion.truth (textUnder context.values) context.executionEnv = false :=
    fun failed => (Expr.truth_eq_false_iff _ _ _).mp (passed.symm.trans failed)
  refine ⟨passed, ?_, shown, fun failed => (fails failed).1, fun failed => (fails failed).2, ?_⟩
  · show (if _ then "" else _) = "" ↔ (invariant.expr.eval context).holds = true
    split
    · rename_i holds
      exact ⟨fun _ => holds, fun _ => rfl⟩
    · rename_i fails
      exact ⟨fun empty => absurd empty (Expr.failureMessage_ne_empty _ _),
        fun holds => absurd holds fails⟩
  · intro failed
    have reason := Expr.failsWith_of_truth
      (invariant.expr.conclusion_ne_implication) (fails failed).2
    rw [← shown] at reason
    exact reason

end ConfigGate
