import ConfigGate.Yaml.Scalar

/-!
# Tokens of a YAML text

The marks and scalars a text is made of, with the block structure that indentation gives made
explicit: `blockMapping` and `blockSequence` open a block that `blockEnd` closes.

A mapping key need not be announced: any scalar or collection may turn out to be a key when a colon
follows on the same line within 1024 characters. The scanner therefore remembers, for the block
level and for each open flow collection, the last place where such a key may have begun, and puts
the tokens in front of it when the colon comes.
-/

namespace ConfigGate.Yaml

open Decimal

/-- A mark or scalar of a YAML text. -/
inductive Token where
  | version (major minor : Nat)
  | tagHandle (handle leader : String)
  | documentStart
  | documentEnd
  | blockSequence
  | blockMapping
  | blockEnd
  | flowSequence
  | flowSequenceEnd
  | flowMapping
  | flowMappingEnd
  | entry
  | comma
  | key
  | value
  | alias (name : String)
  | anchor (name : String)
  | tag (handle suffix : String)
  | scalar (style : Style) (text : String)
deriving DecidableEq, Repr

/-! ## Names, tags and directives -/

/-- Whether a character may stand in an anchor, a tag handle or a directive's name. -/
def isNameChar (c : Char) : Bool := c.isAlphanum || c == '_' || c == '-'

/-- Whether a character may stand in a tag. -/
def isTagChar (verbatim : Bool) (c : Char) : Bool :=
  isNameChar c || ";/?:@&=+$.!~*'()".toList.contains c || (verbatim && ",[]".toList.contains c)

/-- Reads the name of an anchor or alias behind its mark. -/
def scanAnchor (cursor : Cursor) : Option (String × Cursor) :=
  let name := cursor.rest.takeWhile isNameChar
  let after := cursor.advance name.length
  let ended := atGapOrEnd after.rest ||
    after.rest.head?.any ("?:,]\x7d%@`".toList.contains ·)
  if name.isEmpty || !ended then none else some (String.ofList name, after)

/-- The bytes of a run of `%XX` escapes that encode one character, by the length its first byte
announces. -/
def escapedBytes? : Nat → List Char → Option (List UInt8)
  | 0, _ => some []
  | count + 1, '%' :: a :: b :: rest => do
      let high ← hexDigit? a
      let low ← hexDigit? b
      let bytes ← escapedBytes? count rest
      some ((high * 16 + low).toUInt8 :: bytes)
  | _, _ => none

/-- How many bytes a character has whose first byte this is. -/
def leadingWidth? (byte : UInt8) : Option Nat :=
  if byte < 0x80 then some 1
  else if byte &&& 0xE0 == 0xC0 then some 2
  else if byte &&& 0xF0 == 0xE0 then some 3
  else if byte &&& 0xF8 == 0xF0 then some 4
  else none

/-- The character of a run of escapes, and how many escapes it takes. Bytes that encode no character
read as the replacement character. -/
def escapedChar? (cs : List Char) : Option (Char × Nat) := do
  let first ← escapedBytes? 1 cs
  let width ← leadingWidth? (first.headD 0)
  let bytes ← escapedBytes? width cs
  if (bytes.drop 1).all fun byte => byte &&& 0xC0 == 0x80 then
    some (((String.fromUTF8? ⟨bytes.toArray⟩).bind fun text => text.toList.head?).getD '\ufffd',
      width)
  else none

/-- Reads the characters of a tag, with escapes. -/
def scanTagText (verbatim : Bool) : Nat → List Char → Cursor → Option (List Char × Cursor)
  | 0, _, _ => none
  | fuel + 1, text, cursor =>
      match cursor.rest with
      | [] => some (text, cursor)
      | c :: _ =>
          if c == '%' then
            match escapedChar? cursor.rest with
            | none => none
            | some (value, count) =>
                scanTagText verbatim fuel (text ++ [value]) (cursor.advance (3 * count))
          else if isTagChar verbatim c then
            scanTagText verbatim fuel (text ++ [c]) (cursor.advance 1)
          else some (text, cursor)

/-- Reads a tag's text; unless a handle came before it, it must not be empty. -/
def scanTagSuffix (verbatim : Bool) (head : List Char) (cursor : Cursor) :
    Option (String × Cursor) :=
  match scanTagText verbatim (cursor.rest.length + 1) [] cursor with
  | none => none
  | some (text, after) =>
      if head.isEmpty && text.isEmpty then none
      else some (String.ofList (head.drop 1 ++ text), after)

/-- Reads `!name!`, `!name` or `!`. -/
def scanTagHandle (cursor : Cursor) : Option (List Char × Cursor) :=
  match cursor.rest with
  | '!' :: rest =>
      let name := rest.takeWhile isNameChar
      let after := cursor.advance (name.length + 1)
      if after.rest.head? == some '!' then some ('!' :: name ++ ['!'], after.advance 1)
      else some ('!' :: name, after)
  | _ => none

/-- Reads a tag, as its handle and suffix. -/
def scanTag (inFlow : Bool) (cursor : Cursor) : Option (Token × Cursor) := do
  let (token, after) ←
    match cursor.rest with
    | '!' :: '<' :: _ => do
        let (suffix, after) ← scanTagSuffix true [] (cursor.advance 2)
        if after.rest.head? == some '>' then some (Token.tag "" suffix, after.advance 1) else none
    | _ => do
        let (handle, after) ← scanTagHandle cursor
        if 1 < handle.length && handle.getLast? == some '!' then do
          let (suffix, after) ← scanTagSuffix false [] after
          some (Token.tag (String.ofList handle) suffix, after)
        else do
          let (suffix, after) ← scanTagSuffix false handle after
          some (if suffix.isEmpty then (Token.tag "" "!", after) else (Token.tag "!" suffix, after))
  if atGapOrEnd after.rest || (inFlow && after.rest.head? == some ',') then some (token, after)
  else none

/-- Reads a number of at most nine digits. -/
def scanVersionNumber (cursor : Cursor) : Option (Nat × Cursor) :=
  let digits := cursor.rest.takeWhile Char.isDigit
  if digits.isEmpty || 9 < digits.length then none
  else
    some (digits.foldl (fun acc c => acc * 10 + (c.toNat - 48)) 0, cursor.advance digits.length)

/-- Reads the rest of a version directive. -/
def scanVersion (cursor : Cursor) : Option (Token × Cursor) := do
  let (major, after) ← scanVersionNumber cursor.skipGaps
  if after.rest.head? == some '.' then do
    let (minor, after) ← scanVersionNumber (after.advance 1)
    some (.version major minor, after)
  else none

/-- Reads the rest of a tag directive. -/
def scanTagDirective (cursor : Cursor) : Option (Token × Cursor) := do
  let (handle, after) ← scanTagHandle cursor.skipGaps
  if handle != ['!'] && handle.getLast? != some '!' then none
  else if !(after.rest.head?.any isGap) then none
  else do
    let (leader, after) ← scanTagSuffix true [] after.skipGaps
    if atGapOrEnd after.rest then some (.tagHandle (String.ofList handle) leader, after) else none

/-- Reads a directive behind its percent sign, to the end of its line. -/
def scanDirective (cursor : Cursor) : Option (Token × Cursor) := do
  let name := cursor.rest.takeWhile isNameChar
  let after := cursor.advance name.length
  if !atGapOrEnd after.rest then none
  else do
    let (token, after) ←
      match String.ofList name with
      | "YAML" => scanVersion after
      | "TAG" => scanTagDirective after
      | _ => none
    let finish := after.skipGaps.skipComment
    if atBreakOrEnd finish.rest then some (token, finish.nextLine) else none

/-! ## The scanner -/

/-- A place where a key may have begun, and the number of tokens in front of it. A required key is
one that the block's indentation asks for. -/
structure KeyPlace where
  required : Bool
  token : Nat
  index : Nat
  line : Nat
  column : Nat

/-- What has been read: the place in the text, the columns of the open blocks, the possible key of
each open flow collection and of the block level, and the tokens. -/
structure Scanner where
  cursor : Cursor
  indent : Int
  outer : List Int
  blockKey : Option KeyPlace
  flowKeys : List (Option KeyPlace)
  keyAllowed : Bool
  tokens : Array Token

namespace Scanner

/-- The start of a text. -/
def start (text : List Char) : Scanner := ⟨.start text, -1, [], none, [], true, #[]⟩

/-- Whether a flow collection is open. -/
def inFlow (scanner : Scanner) : Bool := !scanner.flowKeys.isEmpty

/-- Adds a token. -/
def push (scanner : Scanner) (token : Token) : Scanner :=
  { scanner with tokens := scanner.tokens.push token }

/-- Adds a token and goes to a place behind it. -/
def pushAt (scanner : Scanner) (token : Token) (cursor : Cursor) : Scanner :=
  { scanner with tokens := scanner.tokens.push token, cursor }

/-- The possible key of the innermost level. -/
def possibleKey (scanner : Scanner) : Option KeyPlace :=
  match scanner.flowKeys with
  | [] => scanner.blockKey
  | key :: _ => key

/-- Sets the possible key of the innermost level. -/
def withKey (scanner : Scanner) (key : Option KeyPlace) : Scanner :=
  match scanner.flowKeys with
  | [] => { scanner with blockKey := key }
  | _ :: outer => { scanner with flowKeys := key :: outer }

/-- Gives up the possible key of the innermost level, which must not be a required one. -/
def dropKey (scanner : Scanner) : Option Scanner :=
  if scanner.possibleKey.any (·.required) then none else some (scanner.withKey none)

/-- A key that can no longer be one: its line has ended, or it is too far back. A required key must
not be given up. -/
def expireKey (cursor : Cursor) : Option KeyPlace → Option (Option KeyPlace)
  | none => some none
  | some key =>
      if key.line < cursor.line || key.index + 1024 < cursor.index then
        if key.required then none else some none
      else some (some key)

/-- Gives up all keys that can no longer be one. -/
def expireKeys (scanner : Scanner) : Option Scanner := do
  let blockKey ← expireKey scanner.cursor scanner.blockKey
  let flowKeys ← scanner.flowKeys.mapM (expireKey scanner.cursor)
  some { scanner with blockKey, flowKeys }

/-- Notes that a key may begin here. -/
def noteKey (scanner : Scanner) : Option Scanner :=
  if scanner.keyAllowed then
    let cursor := scanner.cursor
    let key : KeyPlace :=
      { required := !scanner.inFlow && scanner.indent == cursor.column
        token := scanner.tokens.size
        index := cursor.index
        line := cursor.line
        column := cursor.column }
    scanner.dropKey.map fun scanner => scanner.withKey (some key)
  else some scanner

/-- Opens a block at a column right of the block that is open, with its token at place `at`. -/
def openBlock (scanner : Scanner) (column : Nat) (place : Nat) (token : Token) : Scanner :=
  if !scanner.inFlow && decide (scanner.indent < column) then
    { scanner with
      outer := scanner.indent :: scanner.outer
      indent := column
      tokens := scanner.tokens.insertIdxIfInBounds place token }
  else scanner

/-- Closes the blocks that are indented deeper than `column`. -/
def closeBlocks (column : Int) : List Int → Scanner → Scanner
  | [], scanner => scanner
  | indent :: outer, scanner =>
      if column < scanner.indent then
        closeBlocks column outer { scanner.push .blockEnd with indent, outer }
      else scanner

/-- Closes the blocks that are indented deeper than `column`, outside of flow collections. -/
def dedent (scanner : Scanner) (column : Int) : Scanner :=
  if scanner.inFlow then scanner else closeBlocks column scanner.outer scanner

/-- Skips white space, line breaks and comments in front of the next token. -/
def skipToToken : Nat → Scanner → Scanner
  | 0, scanner => scanner
  | fuel + 1, scanner =>
      let cursor := scanner.cursor
      let cursor :=
        if cursor.column == 0 && cursor.rest.head? == some '\ufeff' then cursor.advance 1
        else cursor
      let tabs := scanner.inFlow || !scanner.keyAllowed
      let gap := cursor.rest.takeWhile fun c => c == ' ' || (tabs && c == '\t')
      let cursor := (cursor.advance gap.length).skipComment
      if cursor.rest.head?.any isBreak then
        skipToToken fuel
          { scanner with
            cursor := cursor.nextLine
            keyAllowed := scanner.keyAllowed || !scanner.inFlow }
      else { scanner with cursor }

/-- Reads a document mark. -/
def documentMark (scanner : Scanner) (token : Token) : Option Scanner := do
  let scanner ← (scanner.dedent (-1)).dropKey
  some ({ scanner with keyAllowed := false }.pushAt token (scanner.cursor.advance 3))

/-- Opens a flow collection. -/
def openFlow (scanner : Scanner) (token : Token) : Option Scanner := do
  let scanner ← scanner.noteKey
  some ({ scanner with flowKeys := none :: scanner.flowKeys, keyAllowed := true }.pushAt token
    (scanner.cursor.advance 1))

/-- Closes a flow collection. -/
def closeFlow (scanner : Scanner) (token : Token) : Option Scanner := do
  let scanner ← scanner.dropKey
  some ({ scanner with flowKeys := scanner.flowKeys.drop 1, keyAllowed := false }.pushAt token
    (scanner.cursor.advance 1))

/-- Reads the comma between two items of a flow collection. -/
def flowComma (scanner : Scanner) : Option Scanner := do
  let scanner ← scanner.dropKey
  some ({ scanner with keyAllowed := true }.pushAt .comma (scanner.cursor.advance 1))

/-- Opens a block for an indicator that stands alone, where one may begin. -/
def openFor (scanner : Scanner) (token : Token) : Option Scanner :=
  if scanner.inFlow then some scanner
  else if scanner.keyAllowed then
    some (scanner.openBlock scanner.cursor.column scanner.tokens.size token)
  else none

/-- Reads the dash of a block sequence's item. -/
def blockEntry (scanner : Scanner) : Option Scanner := do
  let scanner ← (← scanner.openFor .blockSequence).dropKey
  some ({ scanner with keyAllowed := true }.pushAt .entry (scanner.cursor.advance 1))

/-- Reads the question mark of an announced key. -/
def announcedKey (scanner : Scanner) : Option Scanner := do
  let scanner ← (← scanner.openFor .blockMapping).dropKey
  some ({ scanner with keyAllowed := !scanner.inFlow }.pushAt .key (scanner.cursor.advance 1))

/-- Reads the colon of a value; the possible key, if there is one, is a key now. -/
def colon (scanner : Scanner) : Option Scanner :=
  match scanner.possibleKey with
  | some key =>
      let keyed :=
        { scanner with tokens := scanner.tokens.insertIdxIfInBounds key.token .key }
      let opened := (keyed.openBlock key.column key.token .blockMapping).withKey none
      some ({ opened with keyAllowed := false }.pushAt .value (scanner.cursor.advance 1))
  | none => do
      let scanner ← scanner.openFor .blockMapping
      some ({ scanner with keyAllowed := !scanner.inFlow }.pushAt .value
        (scanner.cursor.advance 1))

/-- Adds a token that may be a key or stand in front of one. -/
def keyToken (scanner : Scanner) (read : Cursor → Option (Token × Cursor)) : Option Scanner := do
  let scanner ← scanner.noteKey
  let (token, cursor) ← read scanner.cursor
  some ({ scanner with keyAllowed := false }.pushAt token cursor)

/-- Reads a plain scalar. -/
def plain (scanner : Scanner) : Option Scanner := do
  let scanner ← scanner.noteKey
  let scan ← scanPlain scanner.inFlow scanner.indent (scanner.cursor.rest.length + 1) [] .none
    scanner.cursor
  some ({ scanner with keyAllowed := scan.crossed }.pushAt
    (.scalar .plain (String.ofList scan.text)) scan.cursor)

/-- Reads a block scalar behind its mark. -/
def block (scanner : Scanner) (folded : Bool) : Option Scanner := do
  let scanner ← scanner.dropKey
  let (text, cursor) ← scanBlock folded scanner.indent (scanner.cursor.advance 1)
  some ({ scanner with keyAllowed := true }.pushAt
    (.scalar (if folded then .folded else .literal) (String.ofList text)) cursor)

/-- Reads a quoted scalar. -/
def quoted (scanner : Scanner) (double : Bool) : Option Scanner :=
  scanner.keyToken fun cursor =>
    (scanQuoted double (cursor.rest.length + 1) [] (cursor.advance 1)).map fun (text, after) =>
      (.scalar .quoted (String.ofList text), after)

/-- Whether a plain scalar may begin with `c` in front of `rest`. -/
def startsPlain (inFlow : Bool) (c : Char) (rest : List Char) : Bool :=
  if c == '-' then !(rest.head?.any isGap)
  else if c == '?' || c == ':' then !inFlow && !atGapOrEnd rest
  else !(isGap c || isBreak c || ",[]\x7b\x7d#&*!|>'\"%@`".toList.contains c)

/-- Reads the token that begins with `c`. -/
def token (scanner : Scanner) (c : Char) (rest : List Char) : Option Scanner :=
  let cursor := scanner.cursor
  if cursor.column == 0 && c == '%' then do
    let scanner ← (scanner.dedent (-1)).dropKey
    let (token, cursor) ← scanDirective (cursor.advance 1)
    some ({ scanner with keyAllowed := false }.pushAt token cursor)
  else if cursor.atMark then
    scanner.documentMark (if c == '-' then .documentStart else .documentEnd)
  else
    match c with
    | '[' => scanner.openFlow .flowSequence
    | '\x7b' => scanner.openFlow .flowMapping
    | ']' => scanner.closeFlow .flowSequenceEnd
    | '\x7d' => scanner.closeFlow .flowMappingEnd
    | ',' => scanner.flowComma
    | '*' =>
        scanner.keyToken fun cursor =>
          (scanAnchor (cursor.advance 1)).map fun (name, after) => (.alias name, after)
    | '&' =>
        scanner.keyToken fun cursor =>
          (scanAnchor (cursor.advance 1)).map fun (name, after) => (.anchor name, after)
    | '!' => scanner.keyToken (scanTag scanner.inFlow)
    | '\'' => scanner.quoted false
    | '"' => scanner.quoted true
    | _ =>
        if c == '-' && atGapOrEnd rest then scanner.blockEntry
        else if c == '?' && (scanner.inFlow || atGapOrEnd rest) then scanner.announcedKey
        else if c == ':' && (scanner.inFlow || atGapOrEnd rest) then scanner.colon
        else if (c == '|' || c == '>') && !scanner.inFlow then scanner.block (c == '>')
        else if startsPlain scanner.inFlow c rest then scanner.plain
        else none

/-- Reads tokens up to the end of the text. -/
def run : Nat → Scanner → Option (Array Token)
  | 0, _ => none
  | fuel + 1, scanner => do
      let scanner ← (scanner.skipToToken (scanner.cursor.rest.length + 1)).expireKeys
      let scanner := scanner.dedent scanner.cursor.column
      match scanner.cursor.rest with
      | [] => do
          let finished ← (scanner.dedent (-1)).dropKey
          some finished.tokens
      | c :: rest => do
          let next ← scanner.token c rest
          run fuel next

end Scanner

/-- The tokens of a text. -/
def Token.scan (text : String) : Option (List Token) :=
  let cs := text.toList
  let cs := if cs.head? == some '\ufeff' then cs.drop 1 else cs
  if cs.all isPrintable then (Scanner.run (cs.length + 1) (.start cs)).map Array.toList else none

end ConfigGate.Yaml
