/-!
# Cutting a text at a separator

`pieces sep cs` are the runs between the occurrences of `sep`, in order. There is one more piece
than there are separators, so the empty text has one empty piece.

Results:
1. `intercalate_pieces`: the pieces joined by the separator are the text again;
2. `pieces_append`: the first piece ends at the first separator;
3. `pieces_joinPieces`: texts without a separator, joined by it, are the pieces again;
4. `mem_pieces`: every character but the separator is in a piece.
-/

namespace ConfigGate.Text

/-- The runs of characters between the occurrences of `sep`. -/
def pieces (sep : Char) : List Char → List (List Char)
  | [] => [[]]
  | c :: rest =>
      if c = sep then [] :: pieces sep rest
      else
        match pieces sep rest with
        | [] => [[c]]
        | first :: others => (c :: first) :: others

/-- The pieces, joined by `sep`. -/
def joinPieces (sep : Char) : List (List Char) → List Char
  | [] => []
  | [piece] => piece
  | piece :: next :: others => piece ++ sep :: joinPieces sep (next :: others)

theorem pieces_ne_nil (sep : Char) (cs : List Char) : pieces sep cs ≠ [] := by
  cases cs with
  | nil => simp [pieces]
  | cons c rest =>
      simp only [pieces]
      split
      · simp
      · split <;> simp

theorem intercalate_pieces (sep : Char) (cs : List Char) :
    joinPieces sep (pieces sep cs) = cs := by
  induction cs with
  | nil => rfl
  | cons c rest ih =>
      simp only [pieces]
      split
      · rename_i equal
        subst equal
        cases shape : pieces c rest with
        | nil => exact absurd shape (pieces_ne_nil c rest)
        | cons first others => rw [shape] at ih; simp [joinPieces, ih]
      · cases shape : pieces sep rest with
        | nil => exact absurd shape (pieces_ne_nil sep rest)
        | cons first others =>
            rw [shape] at ih
            cases others with
            | nil => simpa [joinPieces] using ih
            | cons next more => simpa [joinPieces] using ih

/-- What stands before the first separator is the first piece. -/
theorem pieces_append {sep : Char} {before : List Char} (free : sep ∉ before)
    (after : List Char) : pieces sep (before ++ sep :: after) = before :: pieces sep after := by
  induction before with
  | nil => simp [pieces]
  | cons c rest ih =>
      obtain ⟨different, restFree⟩ := List.ne_and_not_mem_of_not_mem_cons free
      simp only [List.cons_append, pieces, if_neg (Ne.symm different), ih restFree]

/-- A text without a separator is one piece. -/
theorem pieces_of_not_mem {sep : Char} {cs : List Char} (free : sep ∉ cs) :
    pieces sep cs = [cs] := by
  induction cs with
  | nil => rfl
  | cons c rest ih =>
      obtain ⟨different, restFree⟩ := List.ne_and_not_mem_of_not_mem_cons free
      simp only [pieces, if_neg (Ne.symm different), ih restFree]

/-- Texts without a separator are the pieces of what they are joined to. -/
theorem pieces_joinPieces {sep : Char} {texts : List (List Char)} (nonempty : texts ≠ [])
    (free : ∀ text ∈ texts, sep ∉ text) : pieces sep (joinPieces sep texts) = texts := by
  induction texts with
  | nil => exact absurd rfl nonempty
  | cons first others ih =>
      obtain ⟨firstFree, othersFree⟩ := List.forall_mem_cons.mp free
      cases others with
      | nil => exact pieces_of_not_mem firstFree
      | cons next more =>
          rw [joinPieces, pieces_append firstFree, ih (List.cons_ne_nil next more) othersFree]

theorem mem_pieces {sep c : Char} {cs : List Char} (member : c ∈ cs) :
    c = sep ∨ ∃ piece ∈ pieces sep cs, c ∈ piece := by
  induction cs with
  | nil => exact absurd member List.not_mem_nil
  | cons head rest ih =>
      simp only [pieces]
      split
      · rename_i equal
        cases List.mem_cons.mp member with
        | inl atHead => exact .inl (atHead.trans equal)
        | inr inRest =>
            refine (ih inRest).imp_right fun ⟨piece, inPieces, inPiece⟩ => ?_
            exact ⟨piece, List.mem_cons_of_mem _ inPieces, inPiece⟩
      · cases shape : pieces sep rest with
        | nil => exact absurd shape (pieces_ne_nil sep rest)
        | cons first others =>
            rw [shape] at ih
            cases List.mem_cons.mp member with
            | inl atHead => exact .inr ⟨head :: first, by simp, by simp [atHead]⟩
            | inr inRest =>
                refine (ih inRest).imp_right fun ⟨piece, inPieces, inPiece⟩ => ?_
                cases List.mem_cons.mp inPieces with
                | inl equal => exact ⟨head :: first, by simp, by simp [← equal, inPiece]⟩
                | inr inOthers => exact ⟨piece, by simp [inOthers], inPiece⟩

/-- The texts, joined by a comma and a space. -/
def commaList (texts : List String) : String := ", ".intercalate texts

end ConfigGate.Text
