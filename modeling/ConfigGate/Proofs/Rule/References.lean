import ConfigGate.Proofs.Rule.Refusal
import ConfigGate.Proofs.Rule.RoundTrip

/-!
# What rules refer to

A rule refers to keys by chains of identifiers. The chains can be read off the tokens of a rule
without its tree: an identifier behind a point goes on with a chain, any other one begins one. All
of them refer to keys, in the order in which they are written and as often, but the one that reads
the execution tag. So a rule with unknown references names them as the text does.

Results:
1. `isDottedPath_iff_isChain`: the paths that keys may have are those that chains spell;
2. `declarable_iff_referable`: a key can be declared exactly when rules can refer to it;
3. `refs_of_sentence`: the references of an expression are the chains of its tokens;
4. `parseKnown_names_unknown`: which references an error names, and what it takes to accept them.
-/

namespace ConfigGate.Rule

open Text

/-! ## Paths -/

namespace ReferenceLemmas

theorem toList_intercalate_eq_joinPieces (segments : List String) :
    (".".intercalate segments).toList = joinPieces '.' (segments.map String.toList) := by
  induction segments with
  | nil => rfl
  | cons first others ih =>
      cases others with
      | nil => simp [joinPieces]
      | cons next more =>
          rw [String.intercalate_cons_cons, String.toList_append, String.toList_append, ih]
          simp [joinPieces]

theorem point_not_mem {cs : List Char} (identifier : isIdentifier cs = true) : '.' ∉ cs :=
  fun member => absurd (isIdentChar_of_mem_isIdentifier identifier member) (by decide)

end ReferenceLemmas

open ReferenceLemmas

/-- Cutting a text at its points and joining identifiers with points are two views of the same
paths. -/
theorem isDottedPath_iff_isChain {path : String} : isDottedPath path = true ↔ IsChain path := by
  rw [isDottedPath, List.all_eq_true]
  constructor
  · intro identifiers
    refine ⟨(pieces '.' path.toList).map String.ofList, ?_, ?_, ?_⟩
    · exact fun none => pieces_ne_nil '.' _ (List.map_eq_nil_iff.mp none)
    · intro segment member
      obtain ⟨piece, inPieces, rfl⟩ := List.mem_map.mp member
      rw [String.toList_ofList]
      exact identifiers piece inPieces
    · have same : String.toList ∘ String.ofList = id := funext fun _ => String.toList_ofList
      rw [← String.toList_inj, toList_intercalate_eq_joinPieces, List.map_map, same, List.map_id,
        intercalate_pieces]
  · rintro ⟨segments, nonempty, identifiers, rfl⟩ piece member
    have free : ∀ text ∈ segments.map String.toList, '.' ∉ text := by
      intro text inTexts
      obtain ⟨segment, inSegments, rfl⟩ := List.mem_map.mp inTexts
      exact point_not_mem (identifiers segment inSegments)
    rw [toList_intercalate_eq_joinPieces, pieces_joinPieces (by simpa using nonempty) free]
      at member
    obtain ⟨segment, inSegments, rfl⟩ := List.mem_map.mp member
    exact identifiers segment inSegments

namespace Expr

variable {expr : Expr} {path : String}

/-- What a well-formed expression refers to is a reference of its own. -/
theorem IsAtom.of_mem_refs (atom : expr.IsAtom) (member : path ∈ expr.refs) :
    (configRef path).IsAtom := by
  cases expr with
  | configRef other => exact List.mem_singleton.mp member ▸ atom
  | executionEnv => exact absurd member List.not_mem_nil
  | literal text => exact absurd member List.not_mem_nil
  | comparison => exact atom.elim
  | implication => exact atom.elim

theorem IsComparison.of_mem_refs (comparison : expr.IsComparison) (member : path ∈ expr.refs) :
    (configRef path).IsAtom := by
  rcases comparison.cases with atom | ⟨left, op, right, rfl, leftAtom, rightAtom⟩
  · exact atom.of_mem_refs member
  · cases List.mem_append.mp member with
    | inl inLeft => exact leftAtom.of_mem_refs inLeft
    | inr inRight => exact rightAtom.of_mem_refs inRight

theorem WellFormed.of_mem_refs (wellFormed : expr.WellFormed) (member : path ∈ expr.refs) :
    (configRef path).IsAtom := by
  rcases wellFormed.cases with comparison | ⟨antecedent, consequent, rfl, first, second⟩
  · exact comparison.of_mem_refs member
  · cases List.mem_append.mp member with
    | inl inFirst => exact first.of_mem_refs inFirst
    | inr inSecond => exact second.of_mem_refs inSecond

end Expr

/-- A path can be declared as a key exactly when the text of the path is a rule that refers to it,
and exactly when any rule refers to it. -/
theorem declarable_iff_referable (path : String) :
    (isDottedPath path = true ∧ path ≠ executionPath ↔ parse path = .ok (.configRef path)) ∧
      ((∃ text expr, parse text = .ok expr ∧ path ∈ expr.refs) ↔
        isDottedPath path = true ∧ path ≠ executionPath) := by
  have atom : (Expr.configRef path).IsAtom ↔ isDottedPath path = true ∧ path ≠ executionPath := by
    rw [isDottedPath_iff_isChain]
    rfl
  have written : (Expr.configRef path).IsAtom → parse path = .ok (.configRef path) :=
    fun atom => parse_format atom.isComparison.wellFormed
  rw [← atom]
  refine ⟨⟨written, fun read => wellFormed_of_parse read⟩, ?_, fun atom => ?_⟩
  · rintro ⟨text, expr, read, member⟩
    exact (wellFormed_of_parse read).of_mem_refs member
  · exact ⟨path, .configRef path, written atom, List.mem_singleton_self path⟩

/-! ## References among tokens -/

/-- The names behind points with which tokens begin. -/
def pointedNames : List Token → List String
  | .dot :: .ident name :: rest => name :: pointedNames rest
  | _ => []

/-- The chains of identifiers among tokens, from left to right. -/
def chains : List Token → List (List String)
  | [] => []
  | .dot :: .ident _ :: rest => chains rest
  | .ident name :: rest => (name :: pointedNames rest) :: chains rest
  | _ :: rest => chains rest

/-- The paths of the chains that refer to keys. -/
def referencePaths (ts : List Token) : List String :=
  ((chains ts).map fun segments => ".".intercalate segments).filter (· ≠ executionPath)

namespace ReferenceLemmas

variable {ts rest : List Token} {expr : Expr}

theorem pointedNames_stop (stops : rest.head? ≠ some .dot) : pointedNames rest = [] := by
  rcases rest with _ | ⟨token, behind⟩
  · rfl
  · cases token with
    | dot => exact absurd rfl stops
    | _ => rfl

theorem pointedNames_chainTail (names : List String) (stops : rest.head? ≠ some .dot) :
    pointedNames (chainTail names ++ rest) = names := by
  induction names with
  | nil => exact pointedNames_stop stops
  | cons name others ih => exact congrArg (name :: ·) ih

theorem chains_chainTail (names : List String) (rest : List Token) :
    chains (chainTail names ++ rest) = chains rest := by
  induction names with
  | nil => rfl
  | cons name others ih => exact ih

theorem refs_referenceOf (segments : List String) :
    (referenceOf segments).refs = [".".intercalate segments].filter (· ≠ executionPath) := by
  unfold referenceOf
  simp only
  split
  · rename_i same
    simp [Expr.refs, same]
  · rename_i other
    simp [Expr.refs, other]

theorem referencePaths_operand (derived : Operand ts expr) (stops : rest.head? ≠ some .dot) :
    referencePaths (ts ++ rest) = expr.refs ++ referencePaths rest := by
  cases derived with
  | quoted body => rfl
  | chain first others =>
      rw [refs_referenceOf, referencePaths, List.cons_append, chains,
        pointedNames_chainTail others stops, chains_chainTail, List.map_cons,
        ← List.singleton_append, List.filter_append]
      rfl

theorem referencePaths_comparison (derived : Comparison ts expr)
    (stops : rest.head? ≠ some .dot) :
    referencePaths (ts ++ rest) = expr.refs ++ referencePaths rest := by
  cases derived with
  | operand operand => exact referencePaths_operand operand stops
  | @compare ls rs left right op leftOperand rightOperand =>
      have notDot : (op.token :: (rs ++ rest)).head? ≠ some .dot := by
        cases op <;> simp [CompareOp.token]
      have operator : referencePaths (op.token :: (rs ++ rest)) = referencePaths (rs ++ rest) := by
        cases op <;> rfl
      rw [List.append_assoc, List.cons_append, referencePaths_operand leftOperand notDot, operator,
        referencePaths_operand rightOperand stops, Expr.refs, List.append_assoc]

end ReferenceLemmas

/-- The references of an expression are those of its tokens, in the same order and as often. -/
theorem refs_of_sentence {ts : List Token} {expr : Expr} (derived : Sentence ts expr) :
    expr.refs = referencePaths ts := by
  cases derived with
  | comparison comparison =>
      have whole : referencePaths (ts ++ []) = expr.refs ++ [] :=
        referencePaths_comparison comparison nofun
      rw [List.append_nil, List.append_nil] at whole
      exact whole.symm
  | @implication as cs antecedent consequent first second =>
      have back : referencePaths (cs ++ []) = consequent.refs ++ [] :=
        referencePaths_comparison second nofun
      rw [List.append_nil, List.append_nil] at back
      have arrow : referencePaths (.implies :: cs) = referencePaths cs := rfl
      rw [referencePaths_comparison first (by simp), arrow, back, Expr.refs]

/-- The unknown references of a rule text are the unknown ones among its tokens. -/
theorem undefinedRefs_of_parse {text : String} {expr : Expr} (read : parse text = .ok expr)
    {placed : List PlacedToken} {finish : Nat} (found : tokens text = .ok (placed, finish))
    (known : String → Bool) :
    expr.undefinedRefs known = (referencePaths (bare placed)).filter fun path => !known path := by
  rw [Expr.undefinedRefs, refs_of_sentence ((parse_eq_ok_iff_of_tokens found).mp read)]

/-! ## Known references -/

variable {known : String → Bool} {text : String} {expr : Expr}

theorem undefinedRefs_eq_nil_iff :
    expr.undefinedRefs known = [] ↔ ∀ path ∈ expr.refs, known path = true := by
  simp [Expr.undefinedRefs, List.filter_eq_nil_iff]

theorem validateRefs_eq_ok_iff :
    validateRefs known expr = .ok () ↔ ∀ path ∈ expr.refs, known path = true := by
  rw [← undefinedRefs_eq_nil_iff]
  unfold validateRefs
  split
  · rename_i none
    exact ⟨fun _ => none, fun _ => rfl⟩
  · rename_i key keys unknown
    exact ⟨nofun, fun none => absurd (none.symm.trans unknown) (by simp)⟩

theorem validateRefs_eq_error_iff {error : RuleError} :
    validateRefs known expr = .error error ↔
      expr.undefinedRefs known ≠ [] ∧ error = .undefinedKeys (expr.undefinedRefs known) := by
  unfold validateRefs
  split
  · rename_i none
    exact ⟨nofun, fun ⟨unknown, _⟩ => absurd none unknown⟩
  · rename_i key keys unknown
    rw [unknown, Except.error.injEq, eq_comm]
    exact (and_iff_right (List.cons_ne_nil key keys)).symm

theorem parseKnown_eq_ok_iff :
    parseKnown known text = .ok expr ↔
      parse text = .ok expr ∧ ∀ path ∈ expr.refs, known path = true := by
  unfold parseKnown
  split
  · rename_i error step
    exact ⟨nofun, fun ⟨read, _⟩ => absurd (step.symm.trans read) (by simp)⟩
  · rename_i found step
    rw [step, Except.ok.injEq]
    split
    · rename_i refused
      refine ⟨nofun, ?_⟩
      rintro ⟨rfl, refs⟩
      exact absurd (refused.symm.trans (validateRefs_eq_ok_iff.mpr refs)) (by simp)
    · rename_i accepted
      rw [Except.ok.injEq]
      refine ⟨?_, And.left⟩
      rintro rfl
      exact ⟨rfl, validateRefs_eq_ok_iff.mp accepted⟩

/-- `Faulty known text error`: the text is no rule, and the error says why; or it is one with
unknown references, and the error names them. -/
inductive Faulty (known : String → Bool) (text : String) : RuleError → Prop
  | unreadable {error : RuleError} : parse text = .error error → Faulty known text error
  | undefined {expr : Expr} : parse text = .ok expr → expr.undefinedRefs known ≠ [] →
      Faulty known text (.undefinedKeys (expr.undefinedRefs known))

theorem parseKnown_eq_error_iff {error : RuleError} :
    parseKnown known text = .error error ↔ Faulty known text error := by
  constructor
  · intro failed
    unfold parseKnown at failed
    split at failed
    · rename_i inner step
      cases failed
      exact .unreadable step
    · rename_i expr step
      split at failed
      · rename_i inner refused
        cases failed
        obtain ⟨unknown, rfl⟩ := validateRefs_eq_error_iff.mp refused
        exact .undefined step unknown
      · exact absurd failed (by simp)
  · rintro (failed | ⟨read, unknown⟩)
    · rw [parseKnown, failed]
    · rw [parseKnown, read]
      simp only [validateRefs_eq_error_iff.mpr ⟨unknown, rfl⟩]

/-- Reading alone never complains of references. -/
theorem parse_ne_undefinedKeys (text : String) (keys : List String) :
    parse text ≠ .error (.undefinedKeys keys) := by
  intro failed
  have located : Located text (.undefinedKeys keys) := by
    unfold parse at failed
    split at failed
    · rename_i inner step
      cases failed
      exact located_of_tokens step
    · rename_i placed finish step
      obtain ⟨-, -, rfl⟩ := tokens_eq_ok_iff.mp step
      exact located_of_parseTokens step failed
  cases located

/-- A rule has unknown references exactly when an error names them. -/
theorem parseKnown_eq_undefinedKeys_iff {keys : List String} :
    parseKnown known text = .error (.undefinedKeys keys) ↔
      ∃ expr, parse text = .ok expr ∧ keys ≠ [] ∧ keys = expr.undefinedRefs known := by
  rw [parseKnown_eq_error_iff]
  constructor
  · rintro (failed | ⟨read, unknown⟩)
    · exact absurd failed (parse_ne_undefinedKeys text keys)
    · exact ⟨_, read, unknown, rfl⟩
  · rintro ⟨expr, read, unknown, rfl⟩
    exact .undefined read unknown

/-- Where more is known, fewer references are left, in the same order. -/
theorem undefinedRefs_of_wider {more : String → Bool}
    (wider : ∀ key, known key = true → more key = true) (expr : Expr) :
    expr.undefinedRefs more = (expr.undefinedRefs known).filter fun key => !more key := by
  rw [Expr.undefinedRefs, Expr.undefinedRefs, List.filter_filter]
  refine List.filter_congr fun key _ => ?_
  cases found : known key with
  | false => simp
  | true => simp [wider key found]

/-- A rule is accepted against known keys when all its references are known. Otherwise the error
names the chains of its tokens that are not, in the order of the text and as often as they stand
there; all other errors are those of reading. With more keys known no rule is refused that was not,
and of the keys that are named only those are left that are still unknown. -/
theorem parseKnown_names_unknown (known : String → Bool) (text : String) :
    (∀ expr, parseKnown known text = .ok expr ↔
      parse text = .ok expr ∧ ∀ path ∈ expr.refs, known path = true) ∧
    (∀ keys, parseKnown known text = .error (.undefinedKeys keys) ↔
      (∃ expr, parse text = .ok expr) ∧ keys ≠ [] ∧
        ∃ placed finish, tokens text = .ok (placed, finish) ∧
          keys = (referencePaths (bare placed)).filter fun path => !known path) ∧
    (∀ error, (∀ keys, error ≠ .undefinedKeys keys) →
      (parseKnown known text = .error error ↔ parse text = .error error)) ∧
    ∀ more : String → Bool, (∀ key, known key = true → more key = true) →
      (∀ expr, parseKnown known text = .ok expr → parseKnown more text = .ok expr) ∧
      ∀ keys, parseKnown known text = .error (.undefinedKeys keys) →
        (∃ expr, parseKnown more text = .ok expr ∧ ∀ key ∈ keys, more key = true) ∨
          parseKnown more text = .error (.undefinedKeys (keys.filter fun key => !more key)) := by
  refine ⟨fun expr => parseKnown_eq_ok_iff, fun keys => ?_, fun error other => ?_,
    fun more wider => ⟨fun expr accepted => ?_, fun keys refused => ?_⟩⟩
  · rw [parseKnown_eq_undefinedKeys_iff]
    constructor
    · rintro ⟨expr, read, unknown, rfl⟩
      obtain ⟨placed, finish, found⟩ := tokens_of_parse read
      exact ⟨⟨expr, read⟩, unknown, placed, finish, found, undefinedRefs_of_parse read found known⟩
    · rintro ⟨⟨expr, read⟩, unknown, placed, finish, found, rfl⟩
      exact ⟨expr, read, unknown, (undefinedRefs_of_parse read found known).symm⟩
  · rw [parseKnown_eq_error_iff]
    refine ⟨?_, .unreadable⟩
    rintro (failed | ⟨read, unknown⟩)
    · exact failed
    · exact absurd rfl (other _)
  · obtain ⟨read, refs⟩ := parseKnown_eq_ok_iff.mp accepted
    exact parseKnown_eq_ok_iff.mpr ⟨read, fun path member => wider path (refs path member)⟩
  · obtain ⟨expr, read, -, rfl⟩ := parseKnown_eq_undefinedKeys_iff.mp refused
    rw [← undefinedRefs_of_wider wider]
    by_cases left : expr.undefinedRefs more = []
    · refine .inl ⟨expr, parseKnown_eq_ok_iff.mpr ⟨read, undefinedRefs_eq_nil_iff.mp left⟩, ?_⟩
      exact fun key member => undefinedRefs_eq_nil_iff.mp left key (List.mem_of_mem_filter member)
    · exact .inr (parseKnown_eq_undefinedKeys_iff.mpr ⟨expr, read, left, rfl⟩)

/-- A rule that refers to one key twice, and to another one that a literal looks like. -/
def repeatedRule : String := "z.y == \"a\" => a != z . y"

/-- With nothing known all references are named. With one of them known the other is left, twice. -/
theorem repeatedRule_unknown :
    parseKnown (fun _ => false) repeatedRule = .error (.undefinedKeys ["z.y", "a", "z.y"]) ∧
      parseKnown (· == "a") repeatedRule = .error (.undefinedKeys ["z.y", "z.y"]) := by
  have refused : parseKnown (fun _ => false) repeatedRule =
      .error (.undefinedKeys ["z.y", "a", "z.y"]) := by decide +kernel
  refine ⟨refused, ?_⟩
  rcases ((parseKnown_names_unknown (fun _ => false) repeatedRule).2.2.2 (· == "a") nofun).2
    _ refused with ⟨expr, -, all⟩ | left
  · exact absurd (all "z.y" (by simp)) (by decide)
  · exact left

end ConfigGate.Rule
