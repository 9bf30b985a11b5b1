import ConfigGate.Text.Pieces

/-!
# Identifiers and dotted paths

An identifier is an ASCII letter or underscore followed by ASCII letters, digits, underscores and
dashes. A dotted path is a chain of identifiers with one point between neighbours.
-/

namespace ConfigGate.Text

/-- Whether an identifier may begin with the character. -/
def isIdentStart (c : Char) : Bool := c.isAlpha || c == '_'

/-- Whether an identifier may go on with the character. -/
def isIdentChar (c : Char) : Bool := c.isAlphanum || c == '_' || c == '-'

/-- Whether the characters spell an identifier. -/
def isIdentifier : List Char → Bool
  | [] => false
  | c :: rest => isIdentStart c && rest.all isIdentChar

/-- Whether the text is a chain of identifiers with points between them. -/
def isDottedPath (text : String) : Bool := (pieces '.' text.toList).all isIdentifier

/-- Whether the text is a non-empty run of letters, digits, underscores and dashes. -/
def isPlainName (text : String) : Bool := !text.isEmpty && text.toList.all isIdentChar

theorem isIdentChar_of_isIdentStart {c : Char} (start : isIdentStart c = true) :
    isIdentChar c = true := by
  simp only [isIdentStart, isIdentChar, Char.isAlphanum, Bool.or_eq_true] at start ⊢
  exact .inl (start.imp_left .inl)

theorem isIdentChar_of_mem_isIdentifier {cs : List Char} (identifier : isIdentifier cs = true)
    {c : Char} (member : c ∈ cs) : isIdentChar c = true := by
  cases cs with
  | nil => exact absurd member List.not_mem_nil
  | cons head rest =>
      rw [isIdentifier, Bool.and_eq_true, List.all_eq_true] at identifier
      cases List.mem_cons.mp member with
      | inl atHead => exact atHead ▸ isIdentChar_of_isIdentStart identifier.1
      | inr inRest => exact identifier.2 c inRest

/-- A dotted path holds nothing but points and characters of identifiers. -/
theorem mem_isDottedPath {text : String} (path : isDottedPath text = true) {c : Char}
    (member : c ∈ text.toList) : c = '.' ∨ isIdentChar c = true := by
  refine (mem_pieces member).imp_right fun ⟨piece, inPieces, inPiece⟩ => ?_
  exact isIdentChar_of_mem_isIdentifier (List.all_eq_true.mp path piece inPieces) inPiece

theorem mem_isPlainName {text : String} (name : isPlainName text = true) {c : Char}
    (member : c ∈ text.toList) : isIdentChar c = true := by
  rw [isPlainName, Bool.and_eq_true, List.all_eq_true] at name
  exact name.2 c member

/-- The number of bytes of the characters in UTF-8. -/
def byteLength : List Char → Nat
  | [] => 0
  | c :: rest => c.utf8Size + byteLength rest

theorem byteLength_append (front back : List Char) :
    byteLength (front ++ back) = byteLength front + byteLength back := by
  induction front with
  | nil => simp [byteLength]
  | cons c rest ih => rw [List.cons_append, byteLength, byteLength, ih, Nat.add_assoc]

theorem utf8ByteSize_ofList (cs : List Char) :
    (String.ofList cs).utf8ByteSize = byteLength cs := by
  induction cs with
  | nil => rfl
  | cons c rest ih =>
      rw [String.ofList_cons, String.utf8ByteSize_append, String.utf8ByteSize_singleton, ih]
      rfl

theorem byteLength_toList (text : String) : byteLength text.toList = text.utf8ByteSize := by
  rw [← utf8ByteSize_ofList, String.ofList_toList]

end ConfigGate.Text
