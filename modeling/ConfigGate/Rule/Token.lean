import ConfigGate.Text.Blank
import ConfigGate.Text.Identifier

/-!
# Tokens of the rule language

A rule text is a sequence of tokens with white space around them. Each token is held with the byte
offset, in UTF-8, at which its spelling starts, and the offset at which the text ends is found on the
way. There are no comments and no escapes: a literal runs from one double quote to the next.
-/

namespace ConfigGate.Rule

open Text

/-- A lexical unit of a rule. -/
inductive Token where
  | ident (name : String)
  | quoted (body : String)
  | dot
  | equal
  | notEqual
  | implies
deriving DecidableEq, Repr

/-- How an error message names a token. -/
def Token.describe : Token → String
  | ident name => "`" ++ name ++ "`"
  | quoted body => "\"" ++ body ++ "\""
  | dot => "`.`"
  | equal => "`==`"
  | notEqual => "`!=`"
  | implies => "`=>`"

/-- A token and the byte offset of its first character. -/
structure PlacedToken where
  token : Token
  position : Nat
deriving DecidableEq, Repr

/-- Why a text is not a rule. Positions are byte offsets; a `found` of `none` is the end of the
text. -/
inductive RuleError where
  | empty
  | unterminatedString (position : Nat)
  | unexpectedChar (found : Char) (position : Nat)
  | expectedIdentAfterDot (position : Nat)
  | expectedOperand (found : Option Token) (position : Nat)
  | trailingToken (found : Token) (position : Nat)
  | undefinedKeys (keys : List String)
deriving DecidableEq, Repr

/-- How an error message names what stands at a place. -/
def describeFound : Option Token → String
  | some token => token.describe
  | none => "end of input"

/-- The text shown for an error. -/
def RuleError.message : RuleError → String
  | empty => "rule is empty"
  | unterminatedString position => s!"unterminated string literal starting at {position}"
  | unexpectedChar found position => s!"unexpected character `{found}` at {position}"
  | expectedIdentAfterDot position => s!"expected identifier after `.` at {position}"
  | expectedOperand found position =>
      s!"expected string literal or config key at {position}, found " ++ describeFound found
  | trailingToken found position =>
      "unexpected token after expression: " ++ found.describe ++ s!" at {position}"
  | undefinedKeys keys => "undefined config keys: " ++ Text.commaList keys

/-- The token that starts with `c`, and how many characters of `rest` belong to its spelling. -/
def lexeme (position : Nat) (c : Char) (rest : List Char) : Except RuleError (Token × Nat) :=
  if c = '"' then
    let body := rest.takeWhile (· ≠ '"')
    if body.length = rest.length then .error (.unterminatedString position)
    else .ok (.quoted (String.ofList body), body.length + 1)
  else if c = '.' then .ok (.dot, 0)
  else if c = '⇒' then .ok (.implies, 0)
  else if isIdentStart c then
    let more := rest.takeWhile isIdentChar
    .ok (.ident (String.ofList (c :: more)), more.length)
  else
    match c, rest with
    | '=', '=' :: _ => .ok (.equal, 1)
    | '=', '>' :: _ => .ok (.implies, 1)
    | '!', '=' :: _ => .ok (.notEqual, 1)
    | _, _ => .error (.unexpectedChar c position)

/-- The tokens of a text whose first character stands at byte `position`, and the byte offset at
which the text ends. -/
def tokensFrom (position : Nat) : List Char → Except RuleError (List PlacedToken × Nat)
  | [] => .ok ([], position)
  | c :: rest =>
      if isBlank c then tokensFrom (position + c.utf8Size) rest
      else
        match lexeme position c rest with
        | .error error => .error error
        | .ok (token, extra) =>
            match tokensFrom (position + c.utf8Size + byteLength (rest.take extra))
                (rest.drop extra) with
            | .error error => .error error
            | .ok (placed, finish) => .ok (⟨token, position⟩ :: placed, finish)
termination_by cs => cs.length
decreasing_by all_goals simp_all; try omega

/-- The tokens of a rule text, of which there must be one at least, and where the text ends. -/
def tokens (text : String) : Except RuleError (List PlacedToken × Nat) :=
  match tokensFrom 0 text.toList with
  | .error error => .error error
  | .ok ([], _) => .error .empty
  | .ok (first :: others, finish) => .ok (first :: others, finish)

end ConfigGate.Rule
