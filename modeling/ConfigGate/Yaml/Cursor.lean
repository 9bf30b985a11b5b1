/-!
# Places in a YAML text

A cursor is what remains of the text and where that stands: counted in characters, lines and columns
from zero. A carriage return followed by a line feed is one line break.
-/

namespace ConfigGate.Yaml

/-- Whether a character may stand in a YAML text at all. -/
def isPrintable (c : Char) : Bool :=
  c == '\t' || c == '\n' || c == '\r' || (' ' ≤ c && c ≤ '~') || c == '\u0085' ||
    ('\u00a0' ≤ c && c ≤ '\ud7ff') || ('\ue000' ≤ c && c ≤ '\ufffd') || 0x10000 ≤ c.toNat

/-- Whether a character breaks a line. -/
def isBreak (c : Char) : Bool :=
  c == '\n' || c == '\r' || c == '\u0085' || c == '\u2028' || c == '\u2029'

/-- Whether a character is a space or a tab. -/
def isGap (c : Char) : Bool := c == ' ' || c == '\t'

/-- Whether a text ends here or goes on with a space, a tab or a line break. -/
def atGapOrEnd : List Char → Bool
  | [] => true
  | c :: _ => isGap c || isBreak c

/-- Whether a text goes on with a line break or ends. -/
def atBreakOrEnd : List Char → Bool
  | [] => true
  | c :: _ => isBreak c

/-- Whether a line begins with a mark that ends a document. -/
def atDocumentMark : List Char → Bool
  | '-' :: '-' :: '-' :: rest => atGapOrEnd rest
  | '.' :: '.' :: '.' :: rest => atGapOrEnd rest
  | _ => false

/-- What a line break at the start of a text stands for: all but the two Unicode separators read as
a line feed. -/
def breakText : List Char → List Char
  | [] => []
  | c :: _ =>
      if c == '\u2028' || c == '\u2029' then [c] else if isBreak c then ['\n'] else []

/-- A place in a text. -/
structure Cursor where
  rest : List Char
  index : Nat
  line : Nat
  column : Nat

namespace Cursor

/-- The start of a text. -/
def start (text : List Char) : Cursor := ⟨text, 0, 0, 0⟩

/-- Behind `count` more characters, none of which breaks a line. -/
def advance (cursor : Cursor) (count : Nat) : Cursor :=
  { cursor with
    rest := cursor.rest.drop count
    index := cursor.index + count
    column := cursor.column + count }

/-- Behind a line break, if there is one. -/
def nextLine (cursor : Cursor) : Cursor :=
  match cursor.rest with
  | '\r' :: '\n' :: rest => ⟨rest, cursor.index + 2, cursor.line + 1, 0⟩
  | c :: rest => if isBreak c then ⟨rest, cursor.index + 1, cursor.line + 1, 0⟩ else cursor
  | [] => cursor

/-- Behind the spaces and tabs that follow. -/
def skipGaps (cursor : Cursor) : Cursor :=
  cursor.advance (cursor.rest.takeWhile isGap).length

/-- Behind a comment, if one starts here. -/
def skipComment (cursor : Cursor) : Cursor :=
  match cursor.rest with
  | '#' :: _ => cursor.advance (cursor.rest.takeWhile fun c => !isBreak c).length
  | _ => cursor

/-- Whether a document mark begins the line here. -/
def atMark (cursor : Cursor) : Bool := cursor.column == 0 && atDocumentMark cursor.rest

end Cursor

/-! ## White space inside scalars -/

/-- The white space between two words of a scalar: spaces, or one line break and more. -/
structure Gap where
  spaces : List Char
  firstBreak : List Char
  moreBreaks : List Char
  crossed : Bool

namespace Gap

/-- No white space. -/
def none : Gap := ⟨[], [], [], false⟩

/-- A line break that does not count. -/
def hiddenBreak : Gap := ⟨[], [], [], true⟩

/-- What the white space reads as: spaces as they stand, a single line break as a space, more line
breaks as all but the first of them. -/
def text (gap : Gap) : List Char :=
  if gap.crossed then
    if gap.firstBreak == ['\n'] then
      if gap.moreBreaks.isEmpty then [' '] else gap.moreBreaks
    else gap.firstBreak ++ gap.moreBreaks
  else gap.spaces

end Gap

/-- Goes on with white space. On a later line a tab may not stand left of column `indent`. -/
def scanGap (indent : Int) : Nat → Gap → Cursor → Option (Gap × Cursor)
  | 0, _, _ => Option.none
  | fuel + 1, gap, cursor =>
      match cursor.rest with
      | [] => some (gap, cursor)
      | c :: _ =>
          if isGap c then
            if gap.crossed && c == '\t' && decide ((cursor.column : Int) < indent) then Option.none
            else
              let wider := if gap.crossed then gap else { gap with spaces := gap.spaces ++ [c] }
              scanGap indent fuel wider (cursor.advance 1)
          else if isBreak c then
            let broken :=
              if gap.crossed then { gap with moreBreaks := gap.moreBreaks ++ breakText cursor.rest }
              else { gap with spaces := [], firstBreak := breakText cursor.rest, crossed := true }
            scanGap indent fuel broken cursor.nextLine
          else some (gap, cursor)

end ConfigGate.Yaml
