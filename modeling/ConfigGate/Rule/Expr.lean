/-!
# Rule expressions

A rule relates configuration keys, the execution tag and fixed texts. `Expr.format` writes an
expression in its canonical form, `Expr.refs` lists the keys it reads.
-/

namespace ConfigGate.Rule

/-- The path that reads the execution tag instead of a configuration key. -/
def executionPath : String := "execution.env"

/-- How the two sides of a comparison are held against each other. -/
inductive CompareOp where
  | equal
  | notEqual
deriving DecidableEq, Repr

/-- The spelling of a comparison operator. -/
def CompareOp.symbol : CompareOp → String
  | .equal => "=="
  | .notEqual => "!="

/-- A rule expression. Rules that were read nest no deeper than an implication between two
comparisons; evaluation takes any shape. -/
inductive Expr where
  | implication (antecedent consequent : Expr)
  | comparison (left : Expr) (op : CompareOp) (right : Expr)
  | configRef (path : String)
  | executionEnv
  | literal (text : String)
deriving DecidableEq, Repr, Inhabited

namespace Expr

/-- The canonical text. A literal is quoted as it stands: the rule language has no escapes. -/
def format : Expr → String
  | implication antecedent consequent => antecedent.format ++ " => " ++ consequent.format
  | comparison left op right => left.format ++ " " ++ op.symbol ++ " " ++ right.format
  | configRef path => path
  | executionEnv => executionPath
  | literal text => "\"" ++ text ++ "\""

/-- The paths of all configuration references, from left to right, with repeats. -/
def refs : Expr → List String
  | implication antecedent consequent => antecedent.refs ++ consequent.refs
  | comparison left _ right => left.refs ++ right.refs
  | configRef path => [path]
  | executionEnv => []
  | literal _ => []

/-- The references that are not `known`, one entry per occurrence. -/
def undefinedRefs (known : String → Bool) (expr : Expr) : List String :=
  expr.refs.filter fun path => !known path

end Expr

end ConfigGate.Rule
