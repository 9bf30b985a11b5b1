import ConfigGate.Proofs.Rule.Grammar
import ConfigGate.Proofs.Rule.Layout

/-!
# Reading and writing rules

The expressions that rule texts denote are the well-formed ones, and the canonical text of a
well-formed expression reads back as that expression. For any other expression the canonical text
does not: it is refused, or it reads as something else.

Results:
1. `wellFormed_of_parse`: whatever a text reads as is well-formed;
2. `parse_format`: the canonical text of a well-formed expression reads as it;
3. `wellFormed_iff_readable`: the two together, for every expression.
-/

namespace ConfigGate.Rule

open Text

/-! ## Well-formed expressions -/

/-- The paths that a chain of identifiers spells. -/
def IsChain (path : String) : Prop :=
  ∃ segments : List String, segments ≠ [] ∧
    (∀ segment ∈ segments, isIdentifier segment.toList = true) ∧ path = ".".intercalate segments

namespace Expr

/-- The execution tag, a literal that can be quoted, or a reference that can be spelled and does
not read as the execution tag. -/
def IsAtom : Expr → Prop
  | executionEnv => True
  | literal text => '"' ∉ text.toList
  | configRef path => IsChain path ∧ path ≠ executionPath
  | comparison .. => False
  | implication .. => False

/-- An atom, or a comparison of two atoms. -/
def IsComparison : Expr → Prop
  | comparison left _ right => left.IsAtom ∧ right.IsAtom
  | expr => expr.IsAtom

/-- An expression of the comparison level, or an implication of two of them. -/
def WellFormed : Expr → Prop
  | implication antecedent consequent => antecedent.IsComparison ∧ consequent.IsComparison
  | expr => expr.IsComparison

theorem IsComparison.cases {expr : Expr} (comparison : expr.IsComparison) :
    expr.IsAtom ∨
      ∃ left op right, expr = .comparison left op right ∧ left.IsAtom ∧ right.IsAtom := by
  cases expr with
  | comparison left op right => exact Or.inr ⟨left, op, right, rfl, comparison⟩
  | _ => exact Or.inl comparison

theorem WellFormed.cases {expr : Expr} (wellFormed : expr.WellFormed) :
    expr.IsComparison ∨
      ∃ antecedent consequent, expr = .implication antecedent consequent ∧
        antecedent.IsComparison ∧ consequent.IsComparison := by
  cases expr with
  | implication antecedent consequent => exact Or.inr ⟨antecedent, consequent, rfl, wellFormed⟩
  | _ => exact Or.inl wellFormed

/-- An atom is also an expression of the comparison level. -/
theorem IsAtom.isComparison {expr : Expr} (atom : expr.IsAtom) : expr.IsComparison := by
  cases expr with
  | comparison => exact atom.elim
  | _ => exact atom

/-- An expression of the comparison level is also well-formed. -/
theorem IsComparison.wellFormed {expr : Expr} (comparison : expr.IsComparison) :
    expr.WellFormed := by
  cases expr with
  | implication => exact comparison.elim
  | _ => exact comparison

end Expr

/-! ## What texts read as -/

namespace RoundTripLemmas

/-- Every token of a layout has a spelling. -/
theorem spelled_of_layout {position : Nat} {cs : List Char} {placed : List PlacedToken}
    (layout : Layout position cs placed) :
    ∀ token ∈ bare placed, ∃ spelled, Spelling token spelled := by
  induction layout with
  | done => simp [bare]
  | blank _ _ ih => exact ih
  | @token _ token spelled _ placed spelling _ _ ih =>
      intro other member
      cases List.mem_cons.mp member with
      | inl equal => exact ⟨spelled, equal ▸ spelling⟩
      | inr behind => exact ih other behind

theorem isIdentifier_of_spelling {name : String} {spelled : List Char}
    (spelling : Spelling (.ident name) spelled) : isIdentifier name.toList = true := by
  cases spelling with
  | ident valid => exact valid

theorem referenceOf_isAtom {segments : List String} (some : segments ≠ [])
    (valid : ∀ segment ∈ segments, isIdentifier segment.toList = true) :
    (referenceOf segments).IsAtom := by
  unfold referenceOf
  simp only
  split
  · trivial
  · rename_i other
    exact ⟨⟨segments, some, valid, rfl⟩, other⟩

theorem operand_isAtom {ts : List Token} {expr : Expr} (operand : Operand ts expr)
    (spelled : ∀ token ∈ ts, ∃ spelled, Spelling token spelled) : expr.IsAtom := by
  cases operand with
  | quoted body =>
      obtain ⟨_, spelling⟩ := spelled (.quoted body) (by simp)
      cases spelling with
      | quoted clean => exact clean
  | chain first others =>
      refine referenceOf_isAtom (by simp) fun segment member => ?_
      obtain ⟨_, spelling⟩ := spelled (.ident segment) (by
        cases List.mem_cons.mp member with
        | inl equal => simp [equal]
        | inr behind => simp [chainTail, behind])
      exact isIdentifier_of_spelling spelling

theorem comparison_isComparison {ts : List Token} {expr : Expr} (derived : Comparison ts expr)
    (spelled : ∀ token ∈ ts, ∃ spelled, Spelling token spelled) : expr.IsComparison := by
  cases derived with
  | operand operand => exact (operand_isAtom operand spelled).isComparison
  | compare op left right =>
      exact ⟨operand_isAtom left fun token member => spelled token (by simp [member]),
        operand_isAtom right fun token member => spelled token (by simp [member])⟩

theorem comparison_ne_nil {ts : List Token} {expr : Expr} (derived : Comparison ts expr) :
    ts ≠ [] := by
  cases derived with
  | operand operand => cases operand <;> exact List.cons_ne_nil _ _
  | compare => simp

theorem sentence_ne_nil {ts : List Token} {expr : Expr} (derived : Sentence ts expr) :
    ts ≠ [] := by
  cases derived with
  | comparison derived => exact comparison_ne_nil derived
  | implication => simp

theorem sentence_wellFormed {ts : List Token} {expr : Expr} (derived : Sentence ts expr)
    (spelled : ∀ token ∈ ts, ∃ spelled, Spelling token spelled) : expr.WellFormed := by
  cases derived with
  | comparison derived => exact (comparison_isComparison derived spelled).wellFormed
  | implication antecedent consequent =>
      refine ⟨comparison_isComparison antecedent ?_, comparison_isComparison consequent ?_⟩
      · exact fun token member => spelled token (by simp [member])
      · exact fun token member => spelled token (by simp [member])

end RoundTripLemmas

open RoundTripLemmas

/-- A text reads as an expression exactly when it is a layout of tokens that derive it. -/
theorem parse_eq_ok_iff {text : String} {expr : Expr} :
    parse text = .ok expr ↔
      ∃ placed, Layout 0 text.toList placed ∧ Sentence (bare placed) expr := by
  constructor
  · intro parsed
    obtain ⟨placed, finish, read⟩ := tokens_of_parse parsed
    exact ⟨placed, (tokens_eq_ok_iff.mp read).1, (parse_eq_ok_iff_of_tokens read).mp parsed⟩
  · rintro ⟨placed, layout, derived⟩
    have read : tokens text = .ok (placed, text.utf8ByteSize) := by
      refine tokens_eq_ok_iff.mpr ⟨layout, ?_, rfl⟩
      rintro rfl
      exact sentence_ne_nil derived rfl
    exact (parse_eq_ok_iff_of_tokens read).mpr derived

/-- Whatever a text reads as is well-formed. -/
theorem wellFormed_of_parse {text : String} {expr : Expr} (read : parse text = .ok expr) :
    expr.WellFormed := by
  obtain ⟨placed, layout, derived⟩ := parse_eq_ok_iff.mp read
  exact sentence_wellFormed derived (spelled_of_layout layout)

/-! ## What canonical texts read as -/

/-- `Reads cs ts`: wherever they stand, the characters `cs` are a layout of the tokens `ts`. -/
def Reads (cs : List Char) (ts : List Token) : Prop :=
  ∀ position, ∃ placed, Layout position cs placed ∧ bare placed = ts

namespace RoundTripLemmas

variable {rest : List Char} {more : List Token}

theorem reads_nil : Reads [] [] := fun _ => ⟨[], .done, rfl⟩

theorem reads_space (tail : Reads rest more) : Reads (' ' :: rest) more := by
  intro position
  obtain ⟨placed, layout, tokens⟩ := tail (position + ' '.utf8Size)
  exact ⟨placed, .blank (by decide) layout, tokens⟩

theorem reads_token {token : Token} {spelled : List Char} (spelling : Spelling token spelled)
    (ends : EndsBefore token rest) (tail : Reads rest more) :
    Reads (spelled ++ rest) (token :: more) := by
  intro position
  obtain ⟨placed, layout, rfl⟩ := tail (position + byteLength spelled)
  exact ⟨⟨token, position⟩ :: placed, .token spelling ends layout, rfl⟩

theorem reads_ident {name : String} (valid : isIdentifier name.toList = true)
    (ends : continuesIdent rest = false) (tail : Reads rest more) :
    Reads (name.toList ++ rest) (.ident name :: more) :=
  reads_token (.ident valid) ends tail

/-- The segments behind the first one, each behind its point. -/
def tailChars (names : List String) : List Char := names.flatMap fun name => '.' :: name.toList

theorem continuesIdent_tailChars {names : List String} (ends : continuesIdent rest = false) :
    continuesIdent (tailChars names ++ rest) = false := by
  cases names with
  | nil => exact ends
  | cons name others => rfl

theorem reads_tailChars {names : List String}
    (valid : ∀ name ∈ names, isIdentifier name.toList = true)
    (ends : continuesIdent rest = false) (tail : Reads rest more) :
    Reads (tailChars names ++ rest) (chainTail names ++ more) := by
  induction names with
  | nil => exact tail
  | cons name others ih =>
      have behind := ih fun other member => valid other (by simp [member])
      have ident := reads_ident (valid name (by simp)) (continuesIdent_tailChars ends) behind
      have point := reads_token .dot trivial ident
      simpa [tailChars, chainTail] using point

theorem toList_intercalate_point (first : String) (others : List String) :
    (".".intercalate (first :: others)).toList = first.toList ++ tailChars others := by
  induction others generalizing first with
  | nil => simp [tailChars]
  | cons name others ih =>
      rw [String.intercalate_cons_cons, String.toList_append, String.toList_append, ih]
      simp [tailChars]

theorem reads_chain {segments : List String} (some : segments ≠ [])
    (valid : ∀ segment ∈ segments, isIdentifier segment.toList = true)
    (ends : continuesIdent rest = false) (tail : Reads rest more) :
    ∃ ts, Operand ts (referenceOf segments) ∧
      Reads ((".".intercalate segments).toList ++ rest) (ts ++ more) := by
  cases segments with
  | nil => exact absurd rfl some
  | cons first others =>
      refine ⟨_, .chain first others, ?_⟩
      rw [toList_intercalate_point, List.append_assoc]
      have othersValid : ∀ name ∈ others, isIdentifier name.toList = true :=
        fun name member => valid name (by simp [member])
      have behind := reads_tailChars othersValid ends tail
      exact reads_ident (valid first (by simp)) (continuesIdent_tailChars ends) behind

theorem reads_atom {expr : Expr} (atom : expr.IsAtom) (ends : continuesIdent rest = false)
    (tail : Reads rest more) :
    ∃ ts, Operand ts expr ∧ Reads (expr.format.toList ++ rest) (ts ++ more) := by
  cases expr with
  | literal text =>
      refine ⟨_, .quoted text, ?_⟩
      have spelled := reads_token (.quoted atom) trivial tail
      simpa [Expr.format] using spelled
  | configRef path =>
      obtain ⟨⟨segments, some, valid, rfl⟩, other⟩ := atom
      have chain := reads_chain some valid ends tail
      rwa [referenceOf, if_neg other] at chain
  | executionEnv =>
      have valid : ∀ segment ∈ ["execution", "env"], isIdentifier segment.toList = true := by
        decide
      exact reads_chain (List.cons_ne_nil _ _) valid ends tail
  | comparison => exact atom.elim
  | implication => exact atom.elim

theorem reads_operator (op : CompareOp) (tail : Reads rest more) :
    Reads (op.symbol.toList ++ ' ' :: rest) (op.token :: more) := by
  have behind := reads_space tail
  cases op with
  | equal => exact reads_token .equal trivial behind
  | notEqual => exact reads_token .notEqual trivial behind

theorem reads_comparison {expr : Expr} (comparison : expr.IsComparison)
    (ends : continuesIdent rest = false) (tail : Reads rest more) :
    ∃ ts, Comparison ts expr ∧ Reads (expr.format.toList ++ rest) (ts ++ more) := by
  rcases comparison.cases with atom | ⟨left, op, right, rfl, leftAtom, rightAtom⟩
  · obtain ⟨ts, operand, reads⟩ := reads_atom atom ends tail
    exact ⟨ts, .operand operand, reads⟩
  · -- From right to left: how a part ends depends on what follows it.
    obtain ⟨rs, rightOperand, rightReads⟩ := reads_atom rightAtom ends tail
    have operator := reads_space (reads_operator op rightReads)
    obtain ⟨ls, leftOperand, leftReads⟩ := reads_atom leftAtom rfl operator
    refine ⟨_, .compare op leftOperand rightOperand, ?_⟩
    simpa [Expr.format] using leftReads

theorem reads_wellFormed {expr : Expr} (wellFormed : expr.WellFormed) :
    ∃ ts, Sentence ts expr ∧ Reads expr.format.toList ts := by
  rcases wellFormed.cases with comparison | ⟨antecedent, consequent, rfl, first, second⟩
  · obtain ⟨ts, derived, reads⟩ := reads_comparison comparison rfl reads_nil
    rw [List.append_nil, List.append_nil] at reads
    exact ⟨ts, .comparison derived, reads⟩
  · obtain ⟨cs, consequentDerived, consequentReads⟩ := reads_comparison second rfl reads_nil
    have arrow := reads_token .implies trivial
      (reads_space consequentReads)
    obtain ⟨as, antecedentDerived, antecedentReads⟩ :=
      reads_comparison first rfl (reads_space arrow)
    refine ⟨_, .implication antecedentDerived consequentDerived, ?_⟩
    simpa [Expr.format] using antecedentReads

end RoundTripLemmas

/-- The canonical text of a well-formed expression reads as the expression. -/
theorem parse_format {expr : Expr} (wellFormed : expr.WellFormed) :
    parse expr.format = .ok expr := by
  obtain ⟨ts, derived, reads⟩ := reads_wellFormed wellFormed
  obtain ⟨placed, layout, rfl⟩ := reads 0
  exact parse_eq_ok_iff.mpr ⟨placed, layout, derived⟩

/-- The well-formed expressions are exactly those that some text reads as, and exactly those that
their own canonical text reads as. -/
theorem wellFormed_iff_readable (expr : Expr) :
    ((∃ text, parse text = .ok expr) ↔ expr.WellFormed) ∧
      (expr.WellFormed ↔ parse expr.format = .ok expr) :=
  ⟨⟨fun ⟨_, read⟩ => wellFormed_of_parse read, fun wellFormed => ⟨_, parse_format wellFormed⟩⟩,
    parse_format, wellFormed_of_parse⟩

end ConfigGate.Rule
