import ConfigGate.Rule.Expr
import ConfigGate.Rule.Token

/-!
# From rule text to expression

    Rule        := Comparison ( "=>" Comparison )?
    Comparison  := Operand ( ( "==" | "!=" ) Operand )?
    Operand     := Quoted | Ident ( "." Ident )*

One token decides each step, so the first token that cannot go on is the one an error names. The
chain `execution.env` reads the execution tag, every other chain a configuration key.
-/

namespace ConfigGate.Rule

/-- The byte offset of the next token, or of the end. -/
def nextPosition (finish : Nat) : List PlacedToken → Nat
  | [] => finish
  | next :: _ => next.position

/-- Reads `( "." Ident )*`. -/
def parseSegments (finish : Nat) :
    List PlacedToken → Except RuleError (List String × List PlacedToken)
  | ⟨.dot, _⟩ :: ⟨.ident name, _⟩ :: rest =>
      match parseSegments finish rest with
      | .error error => .error error
      | .ok (names, remaining) => .ok (name :: names, remaining)
  | ⟨.dot, _⟩ :: rest => .error (.expectedIdentAfterDot (nextPosition finish rest))
  | rest => .ok ([], rest)

/-- The expression of a chain of identifiers. -/
def referenceOf (segments : List String) : Expr :=
  let path := ".".intercalate segments
  if path = executionPath then .executionEnv else .configRef path

/-- Reads `Quoted | Ident ( "." Ident )*`. -/
def parseOperand (finish : Nat) :
    List PlacedToken → Except RuleError (Expr × List PlacedToken)
  | ⟨.quoted body, _⟩ :: rest => .ok (.literal body, rest)
  | ⟨.ident name, _⟩ :: rest =>
      match parseSegments finish rest with
      | .error error => .error error
      | .ok (names, remaining) => .ok (referenceOf (name :: names), remaining)
  | rest => .error (.expectedOperand (rest.head?.map (·.token)) (nextPosition finish rest))

/-- The comparison operator a token stands for. -/
def compareOp? : Token → Option CompareOp
  | .equal => some .equal
  | .notEqual => some .notEqual
  | _ => none

/-- Reads `Operand ( ( "==" | "!=" ) Operand )?`. -/
def parseComparison (finish : Nat) (placed : List PlacedToken) :
    Except RuleError (Expr × List PlacedToken) :=
  match parseOperand finish placed with
  | .error error => .error error
  | .ok (left, rest) =>
      match rest.head?.bind (compareOp? ·.token) with
      | none => .ok (left, rest)
      | some op =>
          match parseOperand finish rest.tail with
          | .error error => .error error
          | .ok (right, remaining) => .ok (.comparison left op right, remaining)

/-- Reads `Comparison ( "=>" Comparison )?`. -/
def parseImplication (finish : Nat) (placed : List PlacedToken) :
    Except RuleError (Expr × List PlacedToken) :=
  match parseComparison finish placed with
  | .error error => .error error
  | .ok (antecedent, ⟨.implies, _⟩ :: rest) =>
      match parseComparison finish rest with
      | .error error => .error error
      | .ok (consequent, remaining) => .ok (.implication antecedent consequent, remaining)
  | .ok (antecedent, rest) => .ok (antecedent, rest)

/-- Reads all tokens as one rule. -/
def parseTokens (finish : Nat) (placed : List PlacedToken) : Except RuleError Expr :=
  match parseImplication finish placed with
  | .error error => .error error
  | .ok (expr, []) => .ok expr
  | .ok (_, next :: _) => .error (.trailingToken next.token next.position)

/-- The expression of a rule text. -/
def parse (text : String) : Except RuleError Expr :=
  match tokens text with
  | .error error => .error error
  | .ok (placed, finish) => parseTokens finish placed

/-- Refuses an expression with unknown references, naming all of them. -/
def validateRefs (known : String → Bool) (expr : Expr) : Except RuleError Unit :=
  match expr.undefinedRefs known with
  | [] => .ok ()
  | key :: keys => .error (.undefinedKeys (key :: keys))

/-- The expression of a rule text that may refer to `known` keys only. -/
def parseKnown (known : String → Bool) (text : String) : Except RuleError Expr :=
  match parse text with
  | .error error => .error error
  | .ok expr =>
      match validateRefs known expr with
      | .error error => .error error
      | .ok () => .ok expr

/-- The canonical form of a rule text, whatever keys it refers to. -/
def canonical (text : String) : Except RuleError String :=
  match parse text with
  | .error error => .error error
  | .ok expr => .ok expr.format

end ConfigGate.Rule
