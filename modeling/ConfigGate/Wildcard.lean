import ConfigGate.Text.Pieces

/-!
# Patterns with wildcards

In a pattern every `*` stands for some run of characters, possibly none; all else stands for itself.
Matching goes through the value once: the first piece must begin it, each piece between two
wildcards is found at its first occurrence behind the one before, and the last piece must end what
is left. Taking first occurrences leaves the most for the pieces to come, so no way to match is
lost.
-/

namespace ConfigGate.Wildcard

/-- What follows the first occurrence of `piece`. -/
def afterFirst? (piece : List Char) : List Char → Option (List Char)
  | [] => if piece.isEmpty then some [] else none
  | c :: rest =>
      if piece.isPrefixOf (c :: rest) then some ((c :: rest).drop piece.length)
      else afterFirst? piece rest

/-- Whether a value splits into the pieces behind a wildcard, with any runs in front of each. -/
def matchPieces : List (List Char) → List Char → Bool
  | [], _ => true
  | [last], value => last.isSuffixOf value
  | piece :: next :: others, value =>
      match afterFirst? piece value with
      | none => false
      | some rest => matchPieces (next :: others) rest

/-- Whether a pattern, as characters, matches a value. -/
def matchChars (pattern value : List Char) : Bool :=
  match Text.pieces '*' pattern with
  | [] => value.isEmpty
  | [only] => only == value
  | first :: next :: others =>
      first.isPrefixOf value && matchPieces (next :: others) (value.drop first.length)

/-- Whether the pattern matches the value. -/
def isMatch (pattern value : String) : Bool := matchChars pattern.toList value.toList

/-- Whether the text holds a wildcard. -/
def hasWildcard (text : String) : Bool := text.toList.contains '*'

end ConfigGate.Wildcard
