import ConfigGate.Decimal.Literal
import ConfigGate.Yaml.Cursor

/-!
# Scalars in a YAML text

How the text of a plain, quoted or block scalar is read. Each reader starts behind the character
that announces the scalar and gives the text and the place behind it; none is a fault in the text.
`fuel` bounds the number of steps by the length of the text.
-/

namespace ConfigGate.Yaml

open Decimal

/-- How a scalar is written. -/
inductive Style where
  | plain
  | quoted
  | literal
  | folded
deriving DecidableEq, Repr

/-! ## Plain scalars -/

/-- How many characters go on a word of a plain scalar. In a flow collection the brackets and the
comma end it, and a colon in front of one is a fault. -/
def plainLength (inFlow : Bool) : List Char → Option Nat
  | [] => some 0
  | c :: rest =>
      if isGap c || isBreak c then some 0
      else if inFlow && c == ':' && (rest.head?.any [',', '?', '[', ']', '\x7b', '\x7d'].contains)
      then none
      else if c == ':' && atGapOrEnd rest then some 0
      else if inFlow && [',', '[', ']', '\x7b', '\x7d'].contains c then some 0
      else (plainLength inFlow rest).map (· + 1)

/-- A scalar's text so far, the place behind it, and whether a line break was passed. -/
structure PlainScan where
  text : List Char
  cursor : Cursor
  crossed : Bool

/-- Reads the words of a plain scalar that is indented deeper than `indent`. -/
def scanPlain (inFlow : Bool) (indent : Int) : Nat → List Char → Gap → Cursor → Option PlainScan
  | 0, _, _, _ => none
  | fuel + 1, text, gap, cursor =>
      if cursor.atMark || cursor.rest.head? == some '#' then some ⟨text, cursor, gap.crossed⟩
      else
        match plainLength inFlow cursor.rest with
        | none => none
        | some count =>
            let longer := if count = 0 then text else text ++ gap.text ++ cursor.rest.take count
            let pending := if count = 0 then gap else Gap.none
            let after := cursor.advance count
            if after.rest.isEmpty || !atGapOrEnd after.rest then
              some ⟨longer, after, pending.crossed⟩
            else
              match scanGap (indent + 1) (after.rest.length + 1) pending after with
              | none => none
              | some (gap, next) =>
                  if !inFlow && decide ((next.column : Int) < indent + 1) then
                    some ⟨longer, next, gap.crossed⟩
                  else scanPlain inFlow indent fuel longer gap next

/-! ## Quoted scalars -/

/-- The character of an escape that is one letter long. -/
def letterEscape? (c : Char) : Option Char :=
  match c with
  | '0' => some '\x00'
  | 'a' => some '\x07'
  | 'b' => some '\x08'
  | 't' => some '\t'
  | '\t' => some '\t'
  | 'n' => some '\n'
  | 'v' => some '\x0b'
  | 'f' => some '\x0c'
  | 'r' => some '\r'
  | 'e' => some '\x1b'
  | ' ' => some ' '
  | '"' => some '"'
  | '/' => some '/'
  | '\\' => some '\\'
  | 'N' => some '\u0085'
  | '_' => some '\u00a0'
  | 'L' => some '\u2028'
  | 'P' => some '\u2029'
  | _ => none

/-- How many digits of base sixteen follow the letter of an escape. -/
def escapeWidth? (c : Char) : Option Nat :=
  match c with
  | 'x' => some 2
  | 'u' => some 4
  | 'U' => some 8
  | _ => none

/-- The character of the escape behind a backslash, and the length of the escape. -/
def escape? : List Char → Option (Char × Nat)
  | [] => none
  | c :: rest =>
      match escapeWidth? c with
      | some width =>
          let digits := rest.take width
          if digits.length < width then none
          else
            (hexNumber? 0 digits).bind fun value =>
              if (0xD800 ≤ value && value ≤ 0xDFFF) || 0x10FFFF < value then none
              else some (Char.ofNat value, width + 1)
      | none => (letterEscape? c).map fun value => (value, 1)

/-- A run of characters inside quotes: the text with it, the place behind it, and whether it ended
with an escaped line break. -/
structure QuotedRun where
  text : List Char
  cursor : Cursor
  escapedBreak : Bool

/-- Reads up to white space or the closing quote. -/
def scanQuotedRun (double : Bool) : Nat → List Char → Cursor → Option QuotedRun
  | 0, _, _ => none
  | fuel + 1, text, cursor =>
      match cursor.rest with
      | [] => some ⟨text, cursor, false⟩
      | c :: rest =>
          if isGap c || isBreak c then some ⟨text, cursor, false⟩
          else if !double && c == '\'' && rest.head? == some '\'' then
            scanQuotedRun double fuel (text ++ ['\'']) (cursor.advance 2)
          else if c == (if double then '"' else '\'') then some ⟨text, cursor, false⟩
          else if double && c == '\\' then
            if rest.head?.any isBreak then some ⟨text, (cursor.advance 1).nextLine, true⟩
            else
              match escape? rest with
              | none => none
              | some (value, length) =>
                  scanQuotedRun double fuel (text ++ [value]) (cursor.advance (length + 1))
          else scanQuotedRun double fuel (text ++ [c]) (cursor.advance 1)

/-- Reads the text of a quoted scalar behind its opening quote. -/
def scanQuoted (double : Bool) : Nat → List Char → Cursor → Option (List Char × Cursor)
  | 0, _, _ => none
  | fuel + 1, text, cursor =>
      if cursor.atMark || cursor.rest.isEmpty then none
      else
        match scanQuotedRun double (cursor.rest.length + 1) text cursor with
        | none => none
        | some run =>
            if run.cursor.rest.head? == some (if double then '"' else '\'') then
              some (run.text, run.cursor.advance 1)
            else
              let start := if run.escapedBreak then Gap.hiddenBreak else Gap.none
              match scanGap (-1) (run.cursor.rest.length + 1) start run.cursor with
              | none => none
              | some (gap, next) => scanQuoted double fuel (run.text ++ gap.text) next

/-! ## Block scalars -/

/-- What happens to the line breaks at the end of a block scalar. -/
inductive Chomp where
  | strip
  | clip
  | keep
deriving DecidableEq, Repr

/-- The indicators behind the mark of a block scalar: what to chomp, and the added indentation. -/
def blockHeader? : List Char → Option (Chomp × Option Nat × Nat)
  | [] => some (.clip, none, 0)
  | c :: rest =>
      let chomp? (c : Char) : Option Chomp :=
        if c == '+' then some .keep else if c == '-' then some .strip else none
      match chomp? c with
      | some chomp =>
          match rest with
          | d :: _ =>
              if d == '0' then none
              else if d.isDigit then some (chomp, some (d.toNat - 48), 2)
              else some (chomp, none, 1)
          | [] => some (chomp, none, 1)
      | none =>
          if c == '0' then none
          else if c.isDigit then
            match rest.head?.bind chomp? with
            | some chomp => some (chomp, some (c.toNat - 48), 2)
            | none => some (.clip, some (c.toNat - 48), 1)
          else some (.clip, none, 0)

/-- Empty lines in front of a line of a block scalar. -/
structure BlockGap where
  breaks : List Char
  widest : Nat
  cursor : Cursor

/-- Reads indentation and empty lines. With no known indentation all spaces are taken. -/
def scanBlockGap (indent : Option Nat) : Nat → List Char → Nat → Cursor → Option BlockGap
  | 0, _, _, _ => none
  | fuel + 1, breaks, widest, cursor =>
      let spaces := (cursor.rest.takeWhile (· == ' ')).length
      let taken :=
        match indent with
        | none => spaces
        | some indent => min spaces (indent - cursor.column)
      let next := cursor.advance taken
      let wider := max widest next.column
      let inside := indent.all fun indent => decide (next.column < indent)
      match next.rest with
      | [] => some ⟨breaks, wider, next⟩
      | c :: _ =>
          if inside && c == '\t' then none
          else if isBreak c then
            scanBlockGap indent fuel (breaks ++ breakText next.rest) wider next.nextLine
          else some ⟨breaks, wider, next⟩

/-- The state between two lines of a block scalar. -/
structure BlockLines where
  text : List Char
  lastBreak : List Char
  moreBreaks : List Char
  lastBlank : Bool
  cursor : Cursor

/-- Reads the lines of a block scalar at column `indent`. A line break is folded to a space when
neither of its lines begins with white space and no empty line follows. -/
def scanBlockLines (folded : Bool) (indent : Nat) : Nat → BlockLines → Option BlockLines
  | 0, _ => none
  | fuel + 1, lines =>
      let cursor := lines.cursor
      if cursor.column != indent || cursor.rest.isEmpty then some lines
      else
        let blank := cursor.rest.head?.any isGap
        let joint :=
          if folded && lines.lastBreak == ['\n'] && !lines.lastBlank && !blank then
            if lines.moreBreaks.isEmpty then [' '] else []
          else lines.lastBreak
        let line := cursor.rest.takeWhile fun c => !isBreak c
        let atEnd := cursor.advance line.length
        match scanBlockGap (some indent) (atEnd.rest.length + 2) [] 0 atEnd.nextLine with
        | none => none
        | some gap =>
            scanBlockLines folded indent fuel
              { text := lines.text ++ joint ++ lines.moreBreaks ++ line
                lastBreak := breakText atEnd.rest
                moreBreaks := gap.breaks
                lastBlank := blank
                cursor := gap.cursor }

/-- Reads a block scalar behind its mark, inside a block that is indented by `parent`. -/
def scanBlock (folded : Bool) (parent : Int) (cursor : Cursor) : Option (List Char × Cursor) := do
  let (chomp, increment, length) ← blockHeader? cursor.rest
  let header := (cursor.advance length).skipGaps.skipComment
  if !atBreakOrEnd header.rest then none
  else
    let body := header.nextLine
    let fuel := body.rest.length + 2
    let given : Option Nat := increment.map fun width =>
      if 0 ≤ parent then parent.toNat + width else width
    let gap ← scanBlockGap given fuel [] 0 body
    let indent := given.getD (max (max gap.widest (parent + 1).toNat) 1)
    let lines ← scanBlockLines folded indent fuel
      { text := [], lastBreak := [], moreBreaks := gap.breaks, lastBlank := false
        cursor := gap.cursor }
    let ending :=
      match chomp with
      | .strip => []
      | .clip => lines.lastBreak
      | .keep => lines.lastBreak ++ lines.moreBreaks
    some (lines.text ++ ending, lines.cursor)

end ConfigGate.Yaml
