import Mathlib.Control.Monad.Basic
import ConfigGate.Rule.Parser

/-!
# The grammar of rules

The grammar of the rule language as a relation between token sequences and expressions, and the
proof that reading tokens decides it: `parseTokens_eq_ok_iff`. Each part of the reader is shown
sound (what it takes off the front derives the expression it gives) and complete (a derivation is
taken off the front when what follows cannot belong to it). As the reader gives one answer, the
grammar gives one tree (`sentence_unique`), and a rule text is refused exactly when it has none
(`parse_decides_grammar`).
-/

namespace ConfigGate.Rule

/-! ## Definitions -/

/-- The token of a comparison operator. -/
def CompareOp.token : CompareOp → Token
  | equal => .equal
  | notEqual => .notEqual

/-- The tokens of the segments behind the first one of a chain. -/
def chainTail (names : List String) : List Token :=
  names.flatMap fun name => [.dot, .ident name]

/-- `Operand ts expr`: the tokens `ts` are an operand with the tree `expr`. -/
inductive Operand : List Token → Expr → Prop
  | quoted (body : String) : Operand [.quoted body] (.literal body)
  | chain (first : String) (others : List String) :
      Operand (.ident first :: chainTail others) (referenceOf (first :: others))

/-- `Comparison ts expr`: an operand, or two of them with an operator between them. -/
inductive Comparison : List Token → Expr → Prop
  | operand {ts : List Token} {expr : Expr} : Operand ts expr → Comparison ts expr
  | compare {ls rs : List Token} {left right : Expr} (op : CompareOp) :
      Operand ls left → Operand rs right →
      Comparison (ls ++ op.token :: rs) (.comparison left op right)

/-- `Sentence ts expr`: a comparison, or an implication between two of them. -/
inductive Sentence : List Token → Expr → Prop
  | comparison {ts : List Token} {expr : Expr} : Comparison ts expr → Sentence ts expr
  | implication {as cs : List Token} {antecedent consequent : Expr} :
      Comparison as antecedent → Comparison cs consequent →
      Sentence (as ++ .implies :: cs) (.implication antecedent consequent)

/-- The tokens of a sequence of placed tokens. -/
def bare (placed : List PlacedToken) : List Token := placed.map (·.token)

/-! ## The parts of the reader -/

namespace GrammarLemmas

variable {finish : Nat} {placed rest : List PlacedToken} {more : List Token} {expr : Expr}

@[simp] theorem bare_cons (next : PlacedToken) (rest : List PlacedToken) :
    bare (next :: rest) = next.token :: bare rest := rfl

theorem bare_eq_cons {token : Token} (tokens : bare placed = token :: more) :
    ∃ position rest, placed = ⟨token, position⟩ :: rest ∧ bare rest = more := by
  obtain ⟨⟨found, position⟩, rest, rfl, rfl, rfl⟩ := List.map_eq_cons_iff.mp tokens
  exact ⟨position, rest, rfl, rfl⟩

theorem parseSegments_sound {names : List String}
    (read : parseSegments finish placed = .ok (names, rest)) :
    bare placed = chainTail names ++ bare rest := by
  fun_induction parseSegments finish placed generalizing names with
  | case1 => exact absurd read (by simp)
  | case2 _ name _ following others remaining step ih =>
      cases read
      rw [bare_cons, bare_cons, ih step]
      rfl
  | case3 => exact absurd read (by simp)
  | case4 => cases read; rfl

/-- Reading segments stops at once where no point stands. -/
theorem parseSegments_stop (stops : (bare placed).head? ≠ some .dot) :
    parseSegments finish placed = .ok ([], placed) := by
  rcases placed with _ | ⟨⟨token, position⟩, rest⟩
  · rfl
  · cases token with
    | dot => exact absurd rfl stops
    | _ => rfl

theorem parseSegments_complete (finish : Nat) {names : List String}
    (tokens : bare placed = chainTail names ++ more) (stops : more.head? ≠ some .dot) :
    ∃ rest, parseSegments finish placed = .ok (names, rest) ∧ bare rest = more := by
  induction names generalizing placed with
  | nil =>
      have same : bare placed = more := tokens
      exact ⟨placed, parseSegments_stop (same ▸ stops), same⟩
  | cons name others ih =>
      obtain ⟨_, afterDot, rfl, dotGone⟩ := bare_eq_cons tokens
      obtain ⟨_, afterName, rfl, nameGone⟩ := bare_eq_cons dotGone
      obtain ⟨rest, step, left⟩ := ih nameGone
      exact ⟨rest, by rw [parseSegments, step], left⟩

theorem parseOperand_sound (read : parseOperand finish placed = .ok (expr, rest)) :
    ∃ ts, Operand ts expr ∧ bare placed = ts ++ bare rest := by
  unfold parseOperand at read
  split at read
  · cases read
    exact ⟨_, .quoted _, rfl⟩
  · rename_i first _ following
    split at read
    · exact absurd read (by simp)
    · rename_i others _ step
      cases read
      refine ⟨_, .chain first others, ?_⟩
      rw [bare_cons, parseSegments_sound step]
      rfl
  · exact absurd read (by simp)

theorem parseOperand_complete (finish : Nat) {ts : List Token} (operand : Operand ts expr)
    (tokens : bare placed = ts ++ more) (stops : more.head? ≠ some .dot) :
    ∃ rest, parseOperand finish placed = .ok (expr, rest) ∧ bare rest = more := by
  cases operand with
  | quoted body =>
      obtain ⟨_, rest, rfl, left⟩ := bare_eq_cons tokens
      exact ⟨rest, rfl, left⟩
  | chain first others =>
      obtain ⟨_, following, rfl, firstGone⟩ := bare_eq_cons tokens
      obtain ⟨rest, step, left⟩ := parseSegments_complete finish firstGone stops
      exact ⟨rest, by rw [parseOperand, step], left⟩

theorem compareOp?_token (op : CompareOp) : compareOp? op.token = some op := by
  cases op <;> rfl

theorem eq_token_of_compareOp? {token : Token} {op : CompareOp}
    (found : compareOp? token = some op) : token = op.token := by
  unfold compareOp? at found
  split at found
  · cases found; rfl
  · cases found; rfl
  · exact absurd found (by simp)

/-- The operator that the next token stands for, if it stands for one. -/
theorem head?_bind_compareOp? (placed : List PlacedToken) :
    (placed.head?.bind fun next => compareOp? next.token) =
      (bare placed).head?.bind compareOp? := by
  cases placed <;> rfl

theorem parseComparison_sound (read : parseComparison finish placed = .ok (expr, rest)) :
    ∃ ts, Comparison ts expr ∧ bare placed = ts ++ bare rest := by
  unfold parseComparison at read
  split at read
  · exact absurd read (by simp)
  · rename_i left middle leftRead
    obtain ⟨ls, leftOperand, tokens⟩ := parseOperand_sound leftRead
    split at read
    · cases read
      exact ⟨ls, .operand leftOperand, tokens⟩
    · rename_i op found
      split at read
      · exact absurd read (by simp)
      · rename_i right remaining rightRead
        cases read
        obtain ⟨rs, rightOperand, following⟩ := parseOperand_sound rightRead
        refine ⟨_, .compare op leftOperand rightOperand, ?_⟩
        rcases middle with _ | ⟨⟨token, position⟩, behind⟩
        · exact absurd found (by simp)
        · have operator : token = op.token := eq_token_of_compareOp? found
          rw [tokens, bare_cons, operator, List.append_assoc, List.cons_append, ← following]
          rfl

theorem parseComparison_complete (finish : Nat) {ts : List Token}
    (comparison : Comparison ts expr)
    (tokens : bare placed = ts ++ more) (stops : more.head? ≠ some .dot)
    (alone : more.head?.bind compareOp? = none) :
    ∃ rest, parseComparison finish placed = .ok (expr, rest) ∧ bare rest = more := by
  cases comparison with
  | operand operand =>
      obtain ⟨rest, step, left⟩ := parseOperand_complete finish operand tokens stops
      have none : (rest.head?.bind fun next => compareOp? next.token) = none := by
        rw [head?_bind_compareOp?, left, alone]
      exact ⟨rest, by rw [parseComparison, step]; simp only [none], left⟩
  | @compare ls rs left right op leftOperand rightOperand =>
      rw [List.append_assoc, List.cons_append] at tokens
      obtain ⟨middle, leftStep, middleTokens⟩ :=
        parseOperand_complete finish leftOperand tokens (by cases op <;> simp [CompareOp.token])
      obtain ⟨position, behind, rfl, behindTokens⟩ := bare_eq_cons middleTokens
      obtain ⟨rest, rightStep, restTokens⟩ :=
        parseOperand_complete finish rightOperand behindTokens stops
      refine ⟨rest, ?_, restTokens⟩
      rw [parseComparison, leftStep]
      simp only [List.head?_cons, Option.bind_some, compareOp?_token, List.tail_cons, rightStep]

theorem parseImplication_sound (read : parseImplication finish placed = .ok (expr, rest)) :
    ∃ ts, Sentence ts expr ∧ bare placed = ts ++ bare rest := by
  unfold parseImplication at read
  split at read
  · exact absurd read (by simp)
  · rename_i antecedent position behind step
    obtain ⟨as, antecedentDerived, tokens⟩ := parseComparison_sound step
    split at read
    · exact absurd read (by simp)
    · rename_i consequent remaining following
      cases read
      obtain ⟨cs, consequentDerived, behindTokens⟩ := parseComparison_sound following
      refine ⟨_, .implication antecedentDerived consequentDerived, ?_⟩
      rw [tokens, bare_cons, List.append_assoc, List.cons_append, ← behindTokens]
  · rename_i step
    cases read
    obtain ⟨ts, derived, tokens⟩ := parseComparison_sound step
    exact ⟨ts, .comparison derived, tokens⟩

theorem parseImplication_complete (finish : Nat) {ts : List Token} (sentence : Sentence ts expr)
    (tokens : bare placed = ts) : parseImplication finish placed = .ok (expr, []) := by
  cases sentence with
  | comparison comparison =>
      obtain ⟨rest, step, left⟩ := parseComparison_complete finish comparison
        (tokens.trans (List.append_nil ts).symm) (by simp) rfl
      have none : rest = [] := List.map_eq_nil_iff.mp left
      rw [parseImplication, step, none]
  | @implication as cs _ _ antecedent consequent =>
      obtain ⟨middle, step, middleTokens⟩ :=
        parseComparison_complete finish antecedent tokens (by simp) rfl
      obtain ⟨position, behind, rfl, behindTokens⟩ := bare_eq_cons middleTokens
      obtain ⟨rest, following, left⟩ := parseComparison_complete finish consequent
        (behindTokens.trans (List.append_nil cs).symm) (by simp) rfl
      have none : rest = [] := List.map_eq_nil_iff.mp left
      rw [parseImplication, step]
      simp only [following, none]

end GrammarLemmas

open GrammarLemmas

/-! ## Whole sentences -/

/-- Tokens read as an expression exactly when they derive it in the grammar. -/
theorem parseTokens_eq_ok_iff {finish : Nat} {placed : List PlacedToken} {expr : Expr} :
    parseTokens finish placed = .ok expr ↔ Sentence (bare placed) expr := by
  constructor
  · intro read
    unfold parseTokens at read
    split at read
    · exact absurd read (by simp)
    · rename_i step
      cases read
      obtain ⟨ts, sentence, tokens⟩ := parseImplication_sound step
      rw [tokens, bare, List.map_nil, List.append_nil]
      exact sentence
    · exact absurd read (by simp)
  · intro sentence
    rw [parseTokens, parseImplication_complete finish sentence rfl]

/-- Every sequence of tokens stands at some places. -/
theorem exists_bare (ts : List Token) : ∃ placed, bare placed = ts := by
  refine ⟨ts.map fun token => ⟨token, 0⟩, ?_⟩
  rw [bare, List.map_map]
  exact List.map_id ts

/-- No tokens have two trees. -/
theorem sentence_unique {ts : List Token} {left right : Expr} (first : Sentence ts left)
    (second : Sentence ts right) : left = right := by
  obtain ⟨placed, rfl⟩ := exists_bare ts
  have readsLeft : parseTokens 0 placed = .ok left := parseTokens_eq_ok_iff.mpr first
  have readsRight : parseTokens 0 placed = .ok right := parseTokens_eq_ok_iff.mpr second
  exact Except.ok.inj (readsLeft.symm.trans readsRight)

/-! ## Rule texts -/

/-- A text with tokens reads as the trees of its tokens. -/
theorem parse_eq_ok_iff_of_tokens {text : String} {placed : List PlacedToken} {finish : Nat}
    (read : tokens text = .ok (placed, finish)) {expr : Expr} :
    parse text = .ok expr ↔ Sentence (bare placed) expr := by
  rw [parse, read]
  exact parseTokens_eq_ok_iff

theorem tokens_of_parse {text : String} {expr : Expr} (read : parse text = .ok expr) :
    ∃ placed finish, tokens text = .ok (placed, finish) := by
  unfold parse at read
  split at read
  · exact absurd read (by simp)
  · rename_i placed finish step
    exact ⟨placed, finish, step⟩

/-- A text with tokens reads as an expression exactly when its tokens derive the expression. So a
text that reads as an expression has that one tree, and a text is an error exactly when it has no
tokens that derive anything. -/
theorem parse_decides_grammar (text : String) :
    (∀ placed finish, tokens text = .ok (placed, finish) →
      ∀ expr, parse text = .ok expr ↔ Sentence (bare placed) expr) ∧
    (∀ expr, parse text = .ok expr →
      ∃ placed finish, tokens text = .ok (placed, finish) ∧
        ∀ tree, Sentence (bare placed) tree ↔ tree = expr) ∧
    ((∃ error, parse text = .error error) ↔
      ∀ placed finish, tokens text = .ok (placed, finish) →
        ∀ expr, ¬Sentence (bare placed) expr) := by
  refine ⟨fun placed finish read expr => parse_eq_ok_iff_of_tokens read, ?_, ?_, ?_⟩
  · intro expr parsed
    obtain ⟨placed, finish, read⟩ := tokens_of_parse parsed
    have derived := (parse_eq_ok_iff_of_tokens read).mp parsed
    exact ⟨placed, finish, read, fun tree =>
      ⟨fun other => sentence_unique other derived, fun same => same ▸ derived⟩⟩
  · rintro ⟨error, failed⟩ placed finish read expr derived
    have parsed := (parse_eq_ok_iff_of_tokens read).mpr derived
    exact absurd (failed.symm.trans parsed) (by simp)
  · intro none
    cases parsed : parse text with
    | error error => exact ⟨error, rfl⟩
    | ok expr =>
        obtain ⟨placed, finish, read⟩ := tokens_of_parse parsed
        exact absurd ((parse_eq_ok_iff_of_tokens read).mp parsed) (none placed finish read expr)

/-- A rule with the execution tag and a chain. -/
def prodRule : String := "execution.env==\"p\"=>a.b-1"

/-- The tokens of the rule. -/
def prodPlaced : List PlacedToken :=
  [⟨.ident "execution", 0⟩, ⟨.dot, 9⟩, ⟨.ident "env", 10⟩, ⟨.equal, 13⟩, ⟨.quoted "p", 15⟩,
    ⟨.implies, 18⟩, ⟨.ident "a", 20⟩, ⟨.dot, 21⟩, ⟨.ident "b-1", 22⟩]

/-- The tree of the rule. -/
def prodTree : Expr :=
  .implication (.comparison .executionEnv .equal (.literal "p")) (.configRef "a.b-1")

/-- The tokens of the rule have its tree and no other. With a second comparison behind the first,
tokens have none. -/
theorem prodRule_tree :
    tokens prodRule = .ok (prodPlaced, 25) ∧
      (∀ tree, Sentence (bare prodPlaced) tree ↔ tree = prodTree) ∧
      ∀ tree, ¬Sentence [.ident "a", .equal, .ident "b", .equal, .ident "c"] tree := by
  have read : tokens prodRule = .ok (prodPlaced, 25) := by decide +kernel
  have tag : Operand [.ident "execution", .dot, .ident "env"] .executionEnv :=
    .chain "execution" ["env"]
  have key : Operand [.ident "a", .dot, .ident "b-1"] (.configRef "a.b-1") := .chain "a" ["b-1"]
  have derived : Sentence (bare prodPlaced) prodTree :=
    .implication (.compare .equal tag (.quoted "p")) (.operand key)
  have parsed : parse prodRule = .ok prodTree := (parse_eq_ok_iff_of_tokens read).mpr derived
  refine ⟨read, ?_, ?_⟩
  · obtain ⟨placed, finish, again, only⟩ := (parse_decides_grammar prodRule).2.1 prodTree parsed
    obtain ⟨rfl, -⟩ := Prod.mk.inj (Except.ok.inj (read.symm.trans again))
    exact only
  · have failed : parse "a==b==c" = .error (.trailingToken .equal 4) := by decide +kernel
    exact (parse_decides_grammar "a==b==c").2.2.mp ⟨_, failed⟩
      [⟨.ident "a", 0⟩, ⟨.equal, 1⟩, ⟨.ident "b", 3⟩, ⟨.equal, 4⟩, ⟨.ident "c", 6⟩] 7
      (by decide +kernel)

end ConfigGate.Rule
