import ConfigGate.SortedMap
import ConfigGate.Rule.Expr

/-!
# Invariants

An invariant is a named rule. Evaluating it reads the resolved values and the execution tag, never
fails, and reports the two texts that were compared last.
-/

namespace ConfigGate

/-- The resolved values of one run, and the tag of the place it runs in. -/
structure Context where
  values : SortedMap String
  executionEnv : String
deriving DecidableEq

/-- The value of a key; a key that is not set reads as the empty text. -/
def Context.value (context : Context) (path : String) : String :=
  (context.values.get? path).getD ""

/-- A named rule: its text as declared, and the expression of that text. -/
structure Invariant where
  name : String
  rule : String
  expr : Rule.Expr
deriving DecidableEq

/-- What evaluating an invariant gave. The message is empty when the rule holds. -/
structure InvariantResult where
  name : String
  rule : String
  passed : Bool
  leftValue : String
  rightValue : String
  message : String
deriving DecidableEq, Repr

namespace Rule

/-- What an expression evaluates to: its text, whether it holds, and the two texts to show for
it. -/
structure Outcome where
  text : String
  holds : Bool
  left : String
  right : String
deriving DecidableEq, Repr

/-- The text of a truth value. -/
def truthText (holds : Bool) : String := if holds then "true" else "false"

/-- The outcome of a single text. -/
def Outcome.single (text : String) (holds : Bool) : Outcome := ⟨text, holds, text, ""⟩

/-- Whether two texts stand in the relation of the operator. -/
def CompareOp.test : CompareOp → String → String → Bool
  | equal, left, right => left == right
  | notEqual, left, right => left != right

namespace Expr

/-- The outcome of an expression. A literal always holds, a reference holds when its text is not
empty. Comparisons compare texts, and an expression inside a comparison stands for the text of its
truth value. An implication shows the texts of its consequent. -/
def eval (context : Context) : Expr → Outcome
  | literal text => .single text true
  | configRef path => .single (context.value path) (!(context.value path).isEmpty)
  | executionEnv => .single context.executionEnv (!context.executionEnv.isEmpty)
  | comparison left op right =>
      let l := (left.eval context).text
      let r := (right.eval context).text
      ⟨truthText (op.test l r), op.test l r, l, r⟩
  | implication antecedent consequent =>
      let c := consequent.eval context
      let holds := !(antecedent.eval context).holds || c.holds
      ⟨truthText holds, holds, c.left, c.right⟩

/-- Why an expression with this outcome does not hold. -/
def failureMessage (outcome : Outcome) : Expr → String
  | implication antecedent consequent =>
      "`" ++ antecedent.format ++ "` holds but `" ++ consequent.format ++ "` does not (left=\"" ++
        outcome.left ++ "\", right=\"" ++ outcome.right ++ "\")"
  | comparison left op right =>
      "`" ++ (comparison left op right).format ++ "` does not hold (left=\"" ++ outcome.left ++
        "\", right=\"" ++ outcome.right ++ "\")"
  | expr => "`" ++ expr.format ++ "` resolved to an empty value"

end Expr

end Rule

/-- Evaluates one invariant. -/
def Invariant.evaluate (context : Context) (invariant : Invariant) : InvariantResult :=
  let outcome := invariant.expr.eval context
  { name := invariant.name
    rule := invariant.rule
    passed := outcome.holds
    leftValue := outcome.left
    rightValue := outcome.right
    message := if outcome.holds then "" else invariant.expr.failureMessage outcome }

end ConfigGate
