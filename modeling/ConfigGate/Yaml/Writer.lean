import ConfigGate.Yaml.Core

/-!
# YAML text out

A tree of texts, truth values, lists and maps is written in block style, two columns of indentation
a level; lists below a key are not indented further. Lines are never folded. A key that is longer
than 128 bytes or has line breaks is announced by a question mark.

A text is written plain where that reads back as the same text, else in single quotes, as a literal
block if it has line breaks, or in double quotes with escapes where nothing else will do.
-/

namespace ConfigGate.Yaml

/-- What is written. -/
inductive Tree where
  | text (value : String)
  | bool (value : Bool)
  | list (items : List Tree)
  | map (entries : List (String × Tree))
deriving Inhabited

/-! ## Which styles a text admits -/

/-- Whether a character is written as itself. -/
def isShown (c : Char) : Bool :=
  c == '\n' || (' ' ≤ c && c ≤ '~') || ('\u00a0' ≤ c && c ≤ '\ud7ff') ||
    ('\ue000' ≤ c && c ≤ '\ufffd' && c != '\ufeff') || 0x10000 ≤ c.toNat

/-- Whether a text ends here or goes on with white space; a null character counts as the end. -/
def endsWord (cs : List Char) : Bool := atGapOrEnd cs || cs.head? == some '\x00'

/-- Whether the first character would not read as the start of a plain scalar. -/
def startsMarked : List Char → Bool
  | [] => false
  | c :: rest =>
      "#,[]\x7b\x7d&*!|>'\"%@`".toList.contains c ||
        ((c == '?' || c == ':' || c == '-') && endsWord rest)

/-- Whether a colon or a number sign further on would end a plain scalar. -/
def hasInnerMark : List Char → Bool
  | [] => false
  | [_] => false
  | before :: c :: rest =>
      (c == ':' && endsWord rest) || (c == '#' && endsWord [before]) || hasInnerMark (c :: rest)

/-- Whether a character of the first kind stands directly in front of one of the second. -/
def hasPair (first second : Char → Bool) : List Char → Bool
  | [] => false
  | [_] => false
  | c :: d :: rest => (first c && second d) || hasPair first second (d :: rest)

/-- What a text's characters allow. -/
structure Admitted where
  multiline : Bool
  plain : Bool
  single : Bool
  block : Bool

/-- The styles that a text can be written in. -/
def admitted (cs : List Char) : Admitted :=
  if cs.isEmpty then ⟨false, true, true, false⟩
  else
    let isSpace := (· == ' ')
    let multiline := cs.any isBreak
    let edge := cs.head?.any (fun c => isSpace c || isBreak c) ||
      cs.getLast?.any (fun c => isSpace c || isBreak c)
    let special := hasPair isSpace isBreak cs || cs.any fun c => !isShown c
    let breakSpace := hasPair isBreak isSpace cs
    let documentMark := "---".toList.isPrefixOf cs || "...".toList.isPrefixOf cs
    let marked := documentMark || startsMarked cs || hasInnerMark cs
    { multiline
      plain := !(edge || special || breakSpace || multiline || marked)
      single := !(special || breakSpace)
      block := !(special || cs.getLast? == some ' ') }

/-- How a scalar is written. -/
inductive Form where
  | plain
  | single
  | double
  | literal
deriving DecidableEq, Repr

/-- The form of a text: a literal block if it has line feeds, quotes if it would read as something
else than a text, plain otherwise; and what is possible in place of these. -/
def formOf (isKey : Bool) (text : String) : Form :=
  let cs := text.toList
  let can := admitted cs
  if cs.contains '\n' then if can.block && !isKey then .literal else .double
  else if coreValue text = .text && !hasLeadingZeros cs && can.plain then .plain
  else if can.single then .single
  else .double

/-! ## Layout -/

/-- What has been written: the text, the column, whether white space precedes, and whether only
indentation and indicators precede on the line. -/
structure Layout where
  out : String
  column : Nat
  spaced : Bool
  fresh : Bool

namespace Layout

/-- Nothing yet. -/
def start : Layout := ⟨"", 0, true, true⟩

/-- Writes a character that breaks no line. -/
def put (layout : Layout) (c : Char) : Layout :=
  { layout with out := layout.out.push c, column := layout.column + 1 }

/-- Writes characters that break no line. -/
def puts (layout : Layout) (cs : List Char) : Layout := cs.foldl put layout

/-- Writes a line break. -/
def newLine (layout : Layout) (c : Char) : Layout :=
  { layout with out := layout.out.push c, column := 0 }

/-- Writes spaces up to a column. -/
def pad (layout : Layout) (column : Nat) : Layout :=
  layout.puts (List.replicate (column - layout.column) ' ')

/-- Goes to the start of an indented line, unless that is where things stand. -/
def indentTo (layout : Layout) (indent : Nat) : Layout :=
  let stay := layout.fresh &&
    (layout.column < indent || (layout.column == indent && layout.spaced))
  let line := if stay then layout else layout.newLine '\n'
  { line.pad indent with spaced := true, fresh := true }

/-- Writes an indicator, behind a space if one is needed. -/
def indicator (layout : Layout) (text : String) (needsSpace keepsFresh : Bool) : Layout :=
  let ahead := if needsSpace && !layout.spaced then layout.put ' ' else layout
  { ahead.puts text.toList with spaced := false, fresh := layout.fresh && keepsFresh }

/-! ## Scalars -/

/-- Writes a plain scalar. -/
def plain (layout : Layout) (cs : List Char) : Layout :=
  let ahead := if layout.spaced || cs.isEmpty then layout else layout.put ' '
  { ahead.puts cs with spaced := false, fresh := false }

/-- Writes the inside of single quotes; `broken` says that a line break has just been written. -/
def singleBody (indent : Nat) : Bool → List Char → Layout → Layout
  | broken, [], layout => if broken then layout.indentTo indent else layout
  | broken, c :: rest, layout =>
      if c == ' ' then singleBody indent false rest (layout.put ' ')
      else if isBreak c then
        singleBody indent true rest { layout.newLine c with fresh := true }
      else
        let line := if broken then layout.indentTo indent else layout
        let quoted := if c == '\'' then line.put '\'' else line
        singleBody indent false rest { quoted.put c with fresh := false }

/-- Writes a scalar in single quotes. -/
def single (layout : Layout) (indent : Nat) (cs : List Char) : Layout :=
  let inside := singleBody indent false cs (layout.indicator "'" true false)
  { inside.indicator "'" false false with spaced := false, fresh := false }

/-- A digit of base sixteen, in upper case. -/
def upperHex (value : Nat) : Char :=
  if value < 10 then Char.ofNat (48 + value) else Char.ofNat (55 + value)

/-- The last `width` digits of a number in base sixteen. -/
def upperHexDigits (width value : Nat) : List Char :=
  (List.range width).reverse.map fun place => upperHex (value / Decimal.twoTo (4 * place) % 16)

/-- The letter of a short escape. -/
def escapeLetter? (c : Char) : Option Char :=
  match c.toNat with
  | 0x00 => some '0'
  | 0x07 => some 'a'
  | 0x08 => some 'b'
  | 0x09 => some 't'
  | 0x0a => some 'n'
  | 0x0b => some 'v'
  | 0x0c => some 'f'
  | 0x0d => some 'r'
  | 0x1b => some 'e'
  | 0x22 => some '"'
  | 0x5c => some '\\'
  | 0x85 => some 'N'
  | 0xa0 => some '_'
  | 0x2028 => some 'L'
  | 0x2029 => some 'P'
  | _ => none

/-- How a character stands in double quotes. -/
def doubleChar (c : Char) : List Char :=
  if isShown c && !isBreak c && c != '"' && c != '\\' then [c]
  else
    match escapeLetter? c with
    | some letter => ['\\', letter]
    | none =>
        let value := c.toNat
        if value ≤ 0xFF then '\\' :: 'x' :: upperHexDigits 2 value
        else if value ≤ 0xFFFF then '\\' :: 'u' :: upperHexDigits 4 value
        else '\\' :: 'U' :: upperHexDigits 8 value

/-- Writes a scalar in double quotes. -/
def double (layout : Layout) (cs : List Char) : Layout :=
  let opened := layout.indicator "\"" true false
  { (opened.puts (cs.flatMap doubleChar)).indicator "\"" false false with
    spaced := false, fresh := false }

/-- The indicators of a literal block: the indentation if the text begins with white space, and what
happens to the line breaks at its end. -/
def blockHints (cs : List Char) : String :=
  let indentation := if cs.head?.any fun c => c == ' ' || isBreak c then "2" else ""
  let chomping :=
    match cs.reverse with
    | [] => "-"
    | last :: before =>
        if !isBreak last then "-"
        else if before.isEmpty || before.head?.any isBreak then "+"
        else ""
  indentation ++ chomping

/-- Writes the lines of a literal block. -/
def literalBody (indent : Nat) : Bool → List Char → Layout → Layout
  | _, [], layout => layout
  | broken, c :: rest, layout =>
      if isBreak c then literalBody indent true rest { layout.newLine c with fresh := true }
      else
        let line := if broken then layout.indentTo indent else layout
        literalBody indent false rest { line.put c with fresh := false }

/-- Writes a literal block. -/
def literal (layout : Layout) (indent : Nat) (cs : List Char) : Layout :=
  let header := (layout.indicator "|" true false).indicator (blockHints cs) false false
  literalBody indent true cs { header.newLine '\n' with spaced := true, fresh := true }

/-- Writes a text inside a block whose lines stand at column `indent`. -/
def scalar (layout : Layout) (isKey : Bool) (indent : Nat) (text : String) : Layout :=
  let cs := text.toList
  match formOf isKey text with
  | .plain => layout.plain cs
  | .single => layout.single (indent + 2) cs
  | .double => layout.double cs
  | .literal => layout.literal (indent + 2) cs

/-! ## Collections -/

/-- Whether a key can stand in front of its colon without being announced. -/
def isShortKey (key : String) : Bool := !(key.toList.any isBreak) && key.utf8ByteSize ≤ 128

/-- Writes a key and its colon. -/
def key (layout : Layout) (indent : Nat) (key : String) : Layout :=
  let line := layout.indentTo indent
  if isShortKey key then (line.scalar true indent key).indicator ":" false false
  else
    (((line.indicator "?" true true).scalar false indent key).indentTo indent).indicator ":" true
      true

mutual

/-- Writes a tree whose parent's lines stand at column `indent`; `inner` is the column of a map
below it, `inMap` says that it is the value of a key. -/
def tree (inMap : Bool) (indent inner : Nat) : Tree → Layout → Layout
  | .text value, layout => layout.scalar false indent value
  | .bool value, layout => layout.plain (if value then "true" else "false").toList
  | .list [], layout => (layout.indicator "[" true false).indicator "]" false false
  | .list (item :: items), layout =>
      listItems (if inMap && !layout.fresh then indent else inner) (item :: items) layout
  | .map [], layout => (layout.indicator "\x7b" true false).indicator "\x7d" false false
  | .map (entry :: entries), layout => mapEntries inner (entry :: entries) layout

/-- Writes the items of a list at column `indent`. -/
def listItems (indent : Nat) : List Tree → Layout → Layout
  | [], layout => layout
  | item :: items, layout =>
      let dash := (layout.indentTo indent).indicator "-" true true
      listItems indent items (tree false indent (indent + 2) item dash)

/-- Writes the entries of a map at column `indent`. -/
def mapEntries (indent : Nat) : List (String × Tree) → Layout → Layout
  | [], layout => layout
  | (name, value) :: entries, layout =>
      mapEntries indent entries (tree true indent (indent + 2) value (layout.key indent name))

end

end Layout

/-- The YAML text of a tree. -/
def Tree.write (tree : Tree) : String :=
  ((Layout.tree false 0 0 tree .start).indentTo 0).out

end ConfigGate.Yaml
