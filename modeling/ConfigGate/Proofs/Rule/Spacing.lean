import Mathlib.Data.List.Chain
import ConfigGate.Proofs.Rule.Grammar
import ConfigGate.Proofs.Rule.Layout

/-!
# Tokens and the white space between them

A sheet is a text cut into the spellings of its tokens and the runs of white space before, between
and behind them. White space may stand anywhere and is needed only between two identifiers. A text
reads as some tokens exactly when it is such a sheet of them, so no character of a text that is read
is left out, and the places of its tokens are those where their spellings begin.

Results:
1. `layout_of_words`, `words_of_layout`: the layouts are the sheets, places included;
2. `placedFrom_increasing`: from the first token to the end of the text the places increase;
3. `isValid_of_mem_placedFrom`: a token begins where a character begins;
4. `tokens_of_sheets`: the three for whole rule texts.
-/

namespace ConfigGate.Rule

open Text

/-! ## Definitions -/

/-- Whether the token is an identifier. -/
def Token.isIdent : Token → Bool
  | .ident _ => true
  | _ => false

/-- A token as it is written, and the white space behind it. -/
structure Word where
  token : Token
  spelled : List Char
  gap : List Char
  spelling : Spelling token spelled
  blank : ∀ c ∈ gap, isBlank c = true

namespace Word

/-- The characters of a word. -/
def chars (word : Word) : List Char := word.spelled ++ word.gap

/-- Two words may stand next to each other, unless they are identifiers with nothing between
them. -/
def Apart (word next : Word) : Prop :=
  word.token.isIdent = true → next.token.isIdent = true → word.gap ≠ []

end Word

/-- The tokens of words, placed at the bytes where their spellings begin. -/
def placedFrom (position : Nat) : List Word → List PlacedToken
  | [] => []
  | word :: words => ⟨word.token, position⟩ :: placedFrom (position + byteLength word.chars) words

/-- A text as words, with white space in front of them. -/
structure Sheet where
  lead : List Char
  words : List Word
  blank : ∀ c ∈ lead, isBlank c = true
  apart : words.IsChain Word.Apart

namespace Sheet

/-- The characters of a sheet. -/
def chars (sheet : Sheet) : List Char := sheet.lead ++ sheet.words.flatMap Word.chars

/-- The tokens of a sheet. -/
def tokens (sheet : Sheet) : List Token := sheet.words.map (·.token)

/-- The tokens of a sheet with their places. -/
def placed (sheet : Sheet) : List PlacedToken := placedFrom (byteLength sheet.lead) sheet.words

end Sheet

/-! ## Where tokens meet -/

namespace SpacingLemmas

open LayoutLemmas

theorem toNat_of_isIdentChar {c : Char} (identChar : isIdentChar c = true) :
    45 ≤ c.toNat ∧ c.toNat ≤ 122 := by
  simp only [isIdentChar, Char.isAlphanum, Char.isDigit, Bool.or_eq_true, Bool.and_eq_true,
    decide_eq_true_eq, beq_iff_eq] at identChar
  rcases identChar with ((letter | ⟨low, high⟩) | rfl) | rfl
  · have bounds := toNat_of_isIdentStart (c := c) (by rw [isIdentStart, letter, Bool.true_or])
    omega
  · have low : 48 ≤ c.toNat := low
    have high : c.toNat ≤ 57 := high
    omega
  · decide
  · decide

theorem isIdentChar_of_isBlank {c : Char} (blank : isBlank c = true) : isIdentChar c = false := by
  refine Bool.eq_false_iff.mpr fun identChar => ?_
  have outside := toNat_of_isBlank blank
  have inside := toNat_of_isIdentChar identChar
  omega

/-- A spelling begins with a character of identifiers exactly when it spells an identifier. -/
theorem continuesIdent_spelling {token : Token} {spelled : List Char}
    (spelling : Spelling token spelled) (rest : List Char) :
    continuesIdent (spelled ++ rest) = token.isIdent := by
  cases spelling with
  | @ident name valid =>
      cases shape : name.toList with
      | nil => simp [shape, isIdentifier] at valid
      | cons c more =>
          rw [shape, isIdentifier, Bool.and_eq_true] at valid
          exact isIdentChar_of_isIdentStart valid.1
  | quoted _ => rfl
  | dot => rfl
  | equal => rfl
  | notEqual => rfl
  | implies => rfl
  | arrow => rfl

theorem continuesIdent_blank {c : Char} {gap : List Char} (blank : isBlank c = true) :
    continuesIdent (c :: gap) = false := isIdentChar_of_isBlank blank

theorem endsBefore_iff {token : Token} {rest : List Char} :
    EndsBefore token rest ↔ (token.isIdent = true → continuesIdent rest = false) := by
  cases token <;> simp [EndsBefore, Token.isIdent]

variable {word : Word} {words : List Word}

/-- A word ends in front of those that it may stand next to. -/
theorem endsBefore_of_apart (apart : (word :: words).IsChain Word.Apart) :
    EndsBefore word.token (word.gap ++ words.flatMap Word.chars) := by
  refine endsBefore_iff.mpr fun ident => ?_
  -- A gap ends the identifier. With no gap it is the next word that may not be one.
  cases gap : word.gap with
  | cons c more => exact continuesIdent_blank (word.blank c (by simp [gap]))
  | nil =>
      cases words with
      | nil => rfl
      | cons next others =>
          have other : next.token.isIdent = false := by
            refine Bool.eq_false_iff.mpr fun nextIdent => ?_
            exact (List.isChain_cons_cons.mp apart).1 ident nextIdent gap
          rw [List.nil_append, List.flatMap_cons, Word.chars, List.append_assoc,
            continuesIdent_spelling next.spelling, other]

/-- A word that ends in front of others may stand next to them. -/
theorem apart_of_endsBefore (others : words.IsChain Word.Apart)
    (ends : EndsBefore word.token (word.gap ++ words.flatMap Word.chars)) :
    (word :: words).IsChain Word.Apart := by
  refine List.isChain_cons.mpr ⟨?_, others⟩
  intro next first ident nextIdent gap
  obtain ⟨behind, rfl⟩ := List.head?_eq_some_iff.mp first
  have stops := endsBefore_iff.mp ends ident
  rw [gap, List.nil_append, List.flatMap_cons, Word.chars, List.append_assoc,
    continuesIdent_spelling next.spelling, nextIdent] at stops
  exact absurd stops (by decide)

/-! ## Layouts and sheets -/

theorem layout_blanks {position : Nat} {gap rest : List Char} {placed : List PlacedToken}
    (blank : ∀ c ∈ gap, isBlank c = true)
    (behind : Layout (position + byteLength gap) rest placed) :
    Layout position (gap ++ rest) placed := by
  induction gap generalizing position with
  | nil => exact behind
  | cons c more ih =>
      obtain ⟨first, others⟩ := List.forall_mem_cons.mp blank
      rw [byteLength, ← Nat.add_assoc] at behind
      exact .blank first (ih others behind)

end SpacingLemmas

open SpacingLemmas

/-- Words that may stand next to each other are a layout of their tokens. -/
theorem layout_of_words {position : Nat} {words : List Word} (apart : words.IsChain Word.Apart) :
    Layout position (words.flatMap Word.chars) (placedFrom position words) := by
  induction words generalizing position with
  | nil => exact .done
  | cons word others ih =>
      rw [List.flatMap_cons, Word.chars, List.append_assoc]
      refine .token word.spelling (endsBefore_of_apart apart) (layout_blanks word.blank ?_)
      rw [Nat.add_assoc, ← byteLength_append]
      exact ih apart.tail

/-- A layout is made of words, with white space in front of them. -/
theorem words_of_layout {position : Nat} {cs : List Char} {placed : List PlacedToken}
    (layout : Layout position cs placed) :
    ∃ sheet : Sheet, sheet.chars = cs ∧
      placedFrom (position + byteLength sheet.lead) sheet.words = placed := by
  induction layout with
  | done => exact ⟨⟨[], [], nofun, .nil⟩, rfl, rfl⟩
  | @blank position c rest placed first _ ih =>
      obtain ⟨⟨lead, words, blank, apart⟩, rfl, rfl⟩ := ih
      refine ⟨⟨c :: lead, words, List.forall_mem_cons.mpr ⟨first, blank⟩, apart⟩, rfl, ?_⟩
      rw [byteLength, ← Nat.add_assoc]
  | @token position token spelled rest placed spelling ends _ ih =>
      -- The white space in front of the words that follow is the gap behind this one.
      obtain ⟨⟨lead, words, blank, apart⟩, rfl, rfl⟩ := ih
      have all : (Word.mk token spelled lead spelling blank :: words).IsChain Word.Apart :=
        apart_of_endsBefore apart ends
      refine ⟨⟨[], _, nofun, all⟩, ?_, ?_⟩
      · simp [Sheet.chars, Word.chars]
      · rw [byteLength, Nat.add_zero, placedFrom, Word.chars, byteLength_append, ← Nat.add_assoc]

/-! ## Places -/

namespace SpacingLemmas

variable {words : List Word} {position : Nat}

theorem bare_placedFrom (position : Nat) (words : List Word) :
    bare (placedFrom position words) = words.map (·.token) := by
  induction words generalizing position with
  | nil => rfl
  | cons word others ih =>
      rw [placedFrom, List.map_cons, ← ih (position + byteLength word.chars)]
      rfl

theorem byteLength_pos {c : Char} {rest : List Char} : 0 < byteLength (c :: rest) :=
  Nat.add_pos_left c.utf8Size_pos _

theorem byteLength_chars_pos (word : Word) : 0 < byteLength word.chars := by
  obtain ⟨c, more, shape, -⟩ := LayoutLemmas.spelling_first word.spelling
  rw [Word.chars, shape]
  exact byteLength_pos

theorem le_of_mem_placedFrom {next : PlacedToken} (member : next ∈ placedFrom position words) :
    position ≤ next.position := by
  induction words generalizing position with
  | nil => exact absurd member List.not_mem_nil
  | cons word others ih =>
      cases List.mem_cons.mp member with
      | inl first => exact Nat.le_of_eq (congrArg PlacedToken.position first).symm
      | inr behind => exact Nat.le_of_add_right_le (ih behind)

/-- The bytes in front of some characters of a text end where a character ends. -/
theorem isValid_byteLength {text : String} {front back : List Char}
    (parts : text.toList = front ++ back) :
    (String.Pos.Raw.mk (byteLength front)).IsValid text := by
  refine String.Pos.Raw.isValid_iff_exists_append.mpr
    ⟨String.ofList front, String.ofList back, ?_, ?_⟩
  · rw [← String.ofList_append, ← parts, String.ofList_toList]
  · rw [← utf8ByteSize_ofList]
    rfl

end SpacingLemmas

/-- From the first token on, and up to the end of the text, places increase. -/
theorem placedFrom_increasing (position : Nat) (words : List Word) :
    ((placedFrom position words).map (·.position) ++
      [position + byteLength (words.flatMap Word.chars)]).Pairwise (· < ·) := by
  induction words generalizing position with
  | nil => exact List.pairwise_singleton _ _
  | cons word others ih =>
      have wide := byteLength_chars_pos word
      rw [List.flatMap_cons, byteLength_append, ← Nat.add_assoc]
      refine List.pairwise_cons.mpr ⟨fun place member => ?_, ih _⟩
      show position < place
      rcases List.mem_append.mp member with inside | last
      · obtain ⟨next, behind, rfl⟩ := List.mem_map.mp inside
        have after := le_of_mem_placedFrom behind
        omega
      · rw [List.mem_singleton.mp last]
        omega

/-- Tokens begin where characters begin. -/
theorem isValid_of_mem_placedFrom {text : String} {front : List Char} {words : List Word}
    (parts : text.toList = front ++ words.flatMap Word.chars) {next : PlacedToken}
    (member : next ∈ placedFrom (byteLength front) words) :
    (String.Pos.Raw.mk next.position).IsValid text := by
  induction words generalizing front with
  | nil => exact absurd member List.not_mem_nil
  | cons word others ih =>
      cases List.mem_cons.mp member with
      | inl first => exact first ▸ isValid_byteLength parts
      | inr behind =>
          rw [List.flatMap_cons, ← List.append_assoc] at parts
          rw [← byteLength_append] at behind
          exact ih parts behind

/-! ## Rule texts -/

/-- A rule text reads as some tokens exactly when it is a sheet of them and there is one. -/
theorem tokens_eq_ok_iff_sheet {text : String} {placed : List PlacedToken} {finish : Nat} :
    tokens text = .ok (placed, finish) ↔
      placed ≠ [] ∧ finish = text.utf8ByteSize ∧
        ∃ sheet : Sheet, sheet.chars = text.toList ∧ sheet.placed = placed := by
  rw [tokens_eq_ok_iff, and_comm, and_assoc]
  refine and_congr_right fun _ => and_congr_right fun _ => ⟨fun layout => ?_, ?_⟩
  · obtain ⟨sheet, chars, places⟩ := words_of_layout layout
    exact ⟨sheet, chars, by rwa [Nat.zero_add] at places⟩
  · rintro ⟨sheet, chars, rfl⟩
    rw [← chars]
    refine layout_blanks sheet.blank ?_
    rw [Nat.zero_add]
    exact layout_of_words sheet.apart

/-- A rule text reads as some tokens exactly when it is a layout of them: their spellings in order
with white space around them, and between any two identifiers that follow each other. The places of
the tokens are where their spellings begin, the end is where the text ends, and places increase and
fall on characters. -/
theorem tokens_of_sheets (text : String) :
    (∀ ts : List Token,
      (∃ placed finish, tokens text = .ok (placed, finish) ∧ bare placed = ts) ↔
        ts ≠ [] ∧ ∃ sheet : Sheet, sheet.chars = text.toList ∧ sheet.tokens = ts) ∧
    ∀ placed finish, tokens text = .ok (placed, finish) →
      (∃ sheet : Sheet, sheet.chars = text.toList ∧ sheet.placed = placed) ∧
      finish = text.utf8ByteSize ∧
      (placed.map (·.position) ++ [finish]).Pairwise (· < ·) ∧
      ∀ next ∈ placed, (String.Pos.Raw.mk next.position).IsValid text := by
  refine ⟨fun ts => ⟨?_, ?_⟩, fun placed finish read => ?_⟩
  · rintro ⟨placed, finish, read, rfl⟩
    obtain ⟨nonempty, -, sheet, chars, rfl⟩ := tokens_eq_ok_iff_sheet.mp read
    exact ⟨fun empty => nonempty (List.map_eq_nil_iff.mp empty), sheet, chars,
      (bare_placedFrom _ _).symm⟩
  · rintro ⟨nonempty, sheet, chars, rfl⟩
    have same : bare sheet.placed = sheet.tokens := bare_placedFrom _ _
    refine ⟨sheet.placed, text.utf8ByteSize, tokens_eq_ok_iff_sheet.mpr ?_, same⟩
    exact ⟨fun empty => nonempty (by rw [← same, empty]; rfl), rfl, sheet, chars, rfl⟩
  · obtain ⟨-, rfl, sheet, chars, rfl⟩ := tokens_eq_ok_iff_sheet.mp read
    refine ⟨⟨sheet, chars, rfl⟩, rfl, ?_, ?_⟩
    · have increasing := placedFrom_increasing (byteLength sheet.lead) sheet.words
      rwa [← byteLength_append, show sheet.lead ++ _ = text.toList from chars,
        byteLength_toList] at increasing
    · exact fun next member => isValid_of_mem_placedFrom chars.symm member

/-- A rule with an arrow and white space of several bytes each. -/
def wideRule : String := "a ⇒\u3000b-1"

/-- The tokens of the rule. -/
def widePlaced : List PlacedToken := [⟨.ident "a", 0⟩, ⟨.implies, 2⟩, ⟨.ident "b-1", 8⟩]

/-- The places of the rule count bytes, and so does its end. -/
theorem wideRule_placed :
    tokens wideRule = .ok (widePlaced, 11) ∧
      (∃ sheet : Sheet, sheet.chars = wideRule.toList ∧ sheet.placed = widePlaced) ∧
      11 = wideRule.utf8ByteSize ∧ [0, 2, 8, 11].Pairwise (· < ·) ∧
      ∀ next ∈ widePlaced, (String.Pos.Raw.mk next.position).IsValid wideRule := by
  have read : tokens wideRule = .ok (widePlaced, 11) := by decide +kernel
  exact ⟨read, (tokens_of_sheets wideRule).2 widePlaced 11 read⟩

end ConfigGate.Rule
