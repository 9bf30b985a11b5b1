import ConfigGate.Proofs.Rule.Grammar

/-!
# Beginnings of rules

What may follow the tokens of a rule read so far depends on them through a `State` only: which
operand is being read, and whether it has to begin, has to go on behind a point, or may be over.
`run` keeps this state from token to token and stops at the first token that may not follow.

Results:
1. `sentence_iff_run`: the sentences are the tokens that lead to where an operand may be over;
2. `opens_iff_run`: some sentence begins with given tokens exactly when each of them may follow
   those before it;
3. `stuck_of_parseTokens`: the reader's error is about the first token that may not follow, or about
   the end when more had to follow.
-/

namespace ConfigGate.Rule

/-! ## Definitions -/

/-- The parts of an implication. A rule without one is all antecedent. -/
inductive Half where
  | antecedent
  | consequent

/-- The sides of a comparison. An operand that is not compared is a left side. -/
inductive Side where
  | left
  | right

/-- Where reading stands: an operand has to begin (`operand`), an identifier has to follow a point
(`segment`), or an operand may be over (`behind`), unless it is a chain that a point carries on. -/
inductive State where
  | operand (half : Half) (side : Side)
  | segment (half : Half) (side : Side)
  | behind (half : Half) (side : Side) (chain : Bool)

namespace State

/-- Before the first token. -/
def start : State := operand .antecedent .left

/-- The state behind a token, if the token may follow. -/
def step : State → Token → Option State
  | operand half side, .ident _ => some (behind half side true)
  | operand half side, .quoted _ => some (behind half side false)
  | segment half side, .ident _ => some (behind half side true)
  | behind half side true, .dot => some (segment half side)
  | behind half .left _, .equal => some (operand half .right)
  | behind half .left _, .notEqual => some (operand half .right)
  | behind .antecedent _ _, .implies => some (operand .consequent .left)
  | _, _ => none

/-- The state behind some tokens, if each of them may follow those before it. -/
def run (state : State) (ts : List Token) : Option State := ts.foldlM step state

/-- Tokens that complete a rule. -/
def completion : State → List Token
  | operand .. => [.ident "key"]
  | segment .. => [.ident "key"]
  | behind .. => []

end State

/-- Some sentence begins with the tokens. -/
def Opens (ts : List Token) : Prop := ∃ more expr, Sentence (ts ++ more) expr

/-- `Refuses finish state rest error`: what stands first in `rest` may not follow in `state`, and
`error` says so. -/
inductive Refuses (finish : Nat) : State → List PlacedToken → RuleError → Prop
  | needsOperand {half : Half} {side : Side} {rest : List PlacedToken} :
      (∀ next ∈ rest.head?, (State.operand half side).step next.token = none) →
      Refuses finish (.operand half side) rest
        (.expectedOperand (rest.head?.map (·.token)) (nextPosition finish rest))
  | needsIdent {half : Half} {side : Side} {rest : List PlacedToken} :
      (∀ next ∈ rest.head?, (State.segment half side).step next.token = none) →
      Refuses finish (.segment half side) rest (.expectedIdentAfterDot (nextPosition finish rest))
  | needsNothing {half : Half} {side : Side} {chain : Bool} {next : PlacedToken}
      {rest : List PlacedToken} :
      (State.behind half side chain).step next.token = none →
      Refuses finish (.behind half side chain) (next :: rest)
        (.trailingToken next.token next.position)

/-- `Moves state placed stop rest`: the tokens of `placed` in front of `rest` may follow one by one,
from `state` to `stop`. -/
inductive Moves : State → List PlacedToken → State → List PlacedToken → Prop
  | refl {state : State} {placed : List PlacedToken} : Moves state placed state placed
  | step {state middle stop : State} {next : PlacedToken} {placed rest : List PlacedToken} :
      state.step next.token = some middle → Moves middle placed stop rest →
      Moves state (next :: placed) stop rest

/-- Reading from `state` on gets behind some of the tokens and is refused there. -/
def Stuck (finish : Nat) (state : State) (placed : List PlacedToken) (error : RuleError) : Prop :=
  ∃ stop rest, Moves state placed stop rest ∧ Refuses finish stop rest error

/-! ## Sentences lead to the end of an operand -/

namespace PrefixLemmas

open State GrammarLemmas

theorem run_cons (state : State) (token : Token) (ts : List Token) :
    state.run (token :: ts) = (state.step token).bind (·.run ts) := rfl

theorem run_append (state : State) (front back : List Token) :
    state.run (front ++ back) = (state.run front).bind (·.run back) :=
  List.foldlM_append

theorem run_bare_append (state : State) (front back : List PlacedToken) :
    state.run (bare (front ++ back)) = (state.run (bare front)).bind (·.run (bare back)) := by
  rw [bare, List.map_append]
  exact run_append ..

theorem run_chainTail (half : Half) (side : Side) (names : List String) :
    (behind half side true).run (chainTail names) = some (behind half side true) := by
  induction names with
  | nil => rfl
  | cons name others ih => exact ih

theorem run_operand {ts : List Token} {expr : Expr} (derived : Operand ts expr) (half : Half)
    (side : Side) : ∃ chain, (operand half side).run ts = some (behind half side chain) := by
  cases derived with
  | quoted body => exact ⟨false, rfl⟩
  | chain first others => exact ⟨true, run_chainTail half side others⟩

theorem step_operator (half : Half) (chain : Bool) (op : CompareOp) :
    (behind half .left chain).step op.token = some (operand half .right) := by
  cases op <;> cases chain <;> rfl

theorem run_comparison {ts : List Token} {expr : Expr} (derived : Comparison ts expr)
    (half : Half) :
    ∃ side chain, (operand half .left).run ts = some (behind half side chain) := by
  cases derived with
  | operand derived =>
      obtain ⟨chain, reached⟩ := run_operand derived half .left
      exact ⟨.left, chain, reached⟩
  | compare op left right =>
      obtain ⟨leftChain, leftReached⟩ := run_operand left half .left
      obtain ⟨chain, reached⟩ := run_operand right half .right
      refine ⟨.right, chain, ?_⟩
      rw [run_append, leftReached, Option.bind_some, run_cons, step_operator, Option.bind_some,
        reached]

theorem step_arrow (side : Side) (chain : Bool) :
    (behind .antecedent side chain).step .implies = some (operand .consequent .left) := by
  cases side <;> cases chain <;> rfl

theorem run_sentence {ts : List Token} {expr : Expr} (derived : Sentence ts expr) :
    ∃ half side chain, start.run ts = some (behind half side chain) := by
  cases derived with
  | comparison derived => exact ⟨.antecedent, run_comparison derived .antecedent⟩
  | implication antecedent consequent =>
      obtain ⟨side, chain, first⟩ := run_comparison antecedent .antecedent
      refine ⟨.consequent, ?_⟩
      rw [start, run_append, first, Option.bind_some, run_cons, step_arrow, Option.bind_some]
      exact run_comparison consequent .consequent

end PrefixLemmas

/-! ## Moving over tokens -/

namespace Moves

open GrammarLemmas PrefixLemmas

variable {state middle stop : State} {placed between rest : List PlacedToken}

theorem trans (first : Moves state placed middle between)
    (second : Moves middle between stop rest) : Moves state placed stop rest := by
  induction first with
  | refl => exact second
  | step stepped _ ih => exact .step stepped (ih second)

/-- What is moved over stands in front of the rest. -/
theorem exists_front (moves : Moves state placed stop rest) :
    ∃ front, placed = front ++ rest ∧ state.run (bare front) = some stop := by
  induction moves with
  | refl => exact ⟨[], rfl, rfl⟩
  | @step _ _ _ next _ _ stepped _ ih =>
      obtain ⟨front, rfl, reached⟩ := ih
      refine ⟨next :: front, rfl, ?_⟩
      rw [bare_cons, run_cons, stepped]
      exact reached

theorem stuck {finish : Nat} {error : RuleError} (moves : Moves state placed middle between)
    (stuck : Stuck finish middle between error) : Stuck finish state placed error := by
  obtain ⟨stop, rest, following, refused⟩ := stuck
  exact ⟨stop, rest, moves.trans following, refused⟩

end Moves

/-! ## Where the reader is refused -/

namespace PrefixLemmas

open State GrammarLemmas

variable {half : Half} {side : Side} {finish : Nat} {placed rest : List PlacedToken}
  {error : RuleError} {expr : Expr}

theorem parseSegments_moves {names : List String}
    (read : parseSegments finish placed = .ok (names, rest)) (half : Half) (side : Side) :
    Moves (behind half side true) placed (behind half side true) rest ∧
      ∀ next ∈ rest.head?, next.token ≠ .dot := by
  fun_induction parseSegments finish placed generalizing names with
  | case1 => exact absurd read (by simp)
  | case2 _ name _ following others remaining step ih =>
      cases read
      obtain ⟨moves, stops⟩ := ih step
      exact ⟨.step rfl (.step rfl moves), stops⟩
  | case3 => exact absurd read (by simp)
  | case4 placed noChain noDot =>
      cases read
      refine ⟨.refl, ?_⟩
      rintro ⟨token, position⟩ first rfl
      obtain ⟨more, shape⟩ := List.head?_eq_some_iff.mp first
      exact noDot position more shape

theorem parseSegments_stuck (failed : parseSegments finish placed = .error error) (half : Half)
    (side : Side) : Stuck finish (behind half side true) placed error := by
  fun_induction parseSegments finish placed with
  | case1 dotAt name nameAt following inner step ih =>
      cases failed
      have segment : Moves (behind half side true)
          (⟨.dot, dotAt⟩ :: ⟨.ident name, nameAt⟩ :: following) (behind half side true) following :=
        .step rfl (.step rfl .refl)
      exact segment.stuck (ih step)
  | case2 => exact absurd failed (by simp)
  | case3 dotAt rest noIdent =>
      cases failed
      refine ⟨.segment half side, rest, .step rfl .refl, .needsIdent ?_⟩
      rintro ⟨token, position⟩ first
      obtain ⟨more, shape⟩ := List.head?_eq_some_iff.mp first
      cases token with
      | ident name => exact (noIdent name position more shape).elim
      | _ => rfl
  | case4 => exact absurd failed (by simp)

theorem parseOperand_moves (read : parseOperand finish placed = .ok (expr, rest)) (half : Half)
    (side : Side) :
    ∃ chain, Moves (operand half side) placed (behind half side chain) rest ∧
      (chain = true → ∀ next ∈ rest.head?, next.token ≠ .dot) := by
  unfold parseOperand at read
  split at read
  · cases read
    exact ⟨false, .step rfl .refl, nofun⟩
  · split at read
    · exact absurd read (by simp)
    · rename_i step
      cases read
      obtain ⟨moves, stops⟩ := parseSegments_moves step half side
      exact ⟨true, .step rfl moves, fun _ => stops⟩
  · exact absurd read (by simp)

theorem parseOperand_stuck (failed : parseOperand finish placed = .error error) (half : Half)
    (side : Side) : Stuck finish (operand half side) placed error := by
  unfold parseOperand at failed
  split at failed
  · exact absurd failed (by simp)
  · rename_i name position following
    split at failed
    · rename_i step
      cases failed
      have first : Moves (operand half side) (⟨.ident name, position⟩ :: following)
          (behind half side true) following := .step rfl .refl
      exact first.stuck (parseSegments_stuck step half side)
    · exact absurd failed (by simp)
  · rename_i noQuoted noIdent
    cases failed
    refine ⟨.operand half side, placed, .refl, .needsOperand ?_⟩
    rintro ⟨token, position⟩ first
    obtain ⟨more, shape⟩ := List.head?_eq_some_iff.mp first
    cases token with
    | ident name => exact (noIdent name position more shape).elim
    | quoted body => exact (noQuoted body position more shape).elim
    | _ => rfl

/-- What may follow an operand: a point behind a chain, an operator behind a left side, and the
arrow behind an antecedent. -/
theorem step_behind_eq_none {chain : Bool} {token : Token} (noDot : chain = true → token ≠ .dot)
    (noOperator : side = .left → compareOp? token = none)
    (noArrow : half = .antecedent → token ≠ .implies) :
    (behind half side chain).step token = none := by
  generalize shape : behind half side chain = state
  unfold step
  split
  · exact absurd shape (by simp)
  · exact absurd shape (by simp)
  · exact absurd shape (by simp)
  · cases shape
    exact absurd rfl (noDot rfl)
  · cases shape
    exact absurd (noOperator rfl) (by decide)
  · cases shape
    exact absurd (noOperator rfl) (by decide)
  · cases shape
    exact absurd rfl (noArrow rfl)
  · rfl

/-- An operator that is found is moved over. -/
theorem moves_operator {op : CompareOp} {chain : Bool}
    (found : (rest.head?.bind fun next => compareOp? next.token) = some op) (half : Half) :
    Moves (behind half .left chain) rest (operand half .right) rest.tail := by
  rcases rest with _ | ⟨⟨token, position⟩, others⟩
  · exact absurd found (by simp)
  · obtain rfl : token = op.token := eq_token_of_compareOp? found
    exact .step (step_operator half chain op) .refl

theorem parseComparison_moves (read : parseComparison finish placed = .ok (expr, rest))
    (half : Half) :
    ∃ side chain, Moves (operand half .left) placed (behind half side chain) rest ∧
      ∀ next ∈ rest.head?, (chain = true → next.token ≠ .dot) ∧
        (side = .left → compareOp? next.token = none) := by
  unfold parseComparison at read
  split at read
  · exact absurd read (by simp)
  · rename_i left middle leftRead
    obtain ⟨chain, moves, stops⟩ := parseOperand_moves leftRead half .left
    split at read
    · -- No operator stands behind the operand, which is then a left side.
      rename_i alone
      cases read
      refine ⟨.left, chain, moves, fun next first => ?_⟩
      rw [Option.mem_def.mp first] at alone
      exact ⟨fun carried => stops carried next first, fun _ => alone⟩
    · rename_i op found
      split at read
      · exact absurd read (by simp)
      · rename_i right remaining rightRead
        cases read
        obtain ⟨rightChain, following, rightStops⟩ := parseOperand_moves rightRead half .right
        refine ⟨.right, rightChain, moves.trans ((moves_operator found half).trans following), ?_⟩
        exact fun next first => ⟨fun carried => rightStops carried next first, nofun⟩

theorem parseComparison_stuck (failed : parseComparison finish placed = .error error)
    (half : Half) : Stuck finish (operand half .left) placed error := by
  unfold parseComparison at failed
  split at failed
  · rename_i step
    cases failed
    exact parseOperand_stuck step half .left
  · rename_i left middle leftRead
    obtain ⟨chain, moves, -⟩ := parseOperand_moves leftRead half .left
    split at failed
    · exact absurd failed (by simp)
    · rename_i op found
      split at failed
      · rename_i step
        cases failed
        have operator := moves.trans (moves_operator found half)
        exact operator.stuck (parseOperand_stuck step half .right)
      · exact absurd failed (by simp)

theorem moves_arrow (side : Side) (chain : Bool) (position : Nat) (rest : List PlacedToken) :
    Moves (behind .antecedent side chain) (⟨.implies, position⟩ :: rest)
      (operand .consequent .left) rest :=
  .step (step_arrow side chain) .refl

theorem parseImplication_moves (read : parseImplication finish placed = .ok (expr, rest)) :
    ∃ half side chain, Moves start placed (behind half side chain) rest ∧
      ∀ next ∈ rest.head?, (behind half side chain).step next.token = none := by
  unfold parseImplication at read
  split at read
  · exact absurd read (by simp)
  · rename_i antecedent position following step
    obtain ⟨side, chain, moves, -⟩ := parseComparison_moves step .antecedent
    split at read
    · exact absurd read (by simp)
    · rename_i consequent remaining behindArrow
      cases read
      obtain ⟨lastSide, lastChain, last, stops⟩ := parseComparison_moves behindArrow .consequent
      have arrow := moves_arrow side chain position following
      refine ⟨.consequent, lastSide, lastChain, moves.trans (arrow.trans last), ?_⟩
      exact fun next first => step_behind_eq_none (stops next first).1 (stops next first).2 nofun
  · rename_i noArrow step
    cases read
    obtain ⟨side, chain, moves, stops⟩ := parseComparison_moves step .antecedent
    refine ⟨.antecedent, side, chain, moves, fun next first => ?_⟩
    refine step_behind_eq_none (stops next first).1 (stops next first).2 fun _ arrow => ?_
    obtain ⟨more, shape⟩ := List.head?_eq_some_iff.mp first
    exact noArrow next.position more (arrow ▸ shape)

theorem parseImplication_stuck (failed : parseImplication finish placed = .error error) :
    Stuck finish start placed error := by
  unfold parseImplication at failed
  split at failed
  · rename_i step
    cases failed
    exact parseComparison_stuck step .antecedent
  · rename_i antecedent position following step
    obtain ⟨side, chain, moves, -⟩ := parseComparison_moves step .antecedent
    split at failed
    · rename_i behindArrow
      cases failed
      have arrow := moves.trans (moves_arrow side chain position following)
      exact arrow.stuck (parseComparison_stuck behindArrow .consequent)
    · exact absurd failed (by simp)
  · exact absurd failed (by simp)

end PrefixLemmas

open State GrammarLemmas PrefixLemmas

/-- Tokens that do not read as an expression are refused at the first one that may not follow those
before it, or at the end. -/
theorem stuck_of_parseTokens {finish : Nat} {placed : List PlacedToken} {error : RuleError}
    (failed : parseTokens finish placed = .error error) : Stuck finish start placed error := by
  unfold parseTokens at failed
  split at failed
  · rename_i step
    cases failed
    exact parseImplication_stuck step
  · exact absurd failed (by simp)
  · rename_i expr next rest step
    cases failed
    obtain ⟨half, side, chain, moves, stops⟩ := parseImplication_moves step
    exact ⟨_, next :: rest, moves, .needsNothing (stops next rfl)⟩

/-! ## Sentences and their beginnings -/

/-- What is refused does not follow: nothing leads past it, and the end is refused only where more
has to follow. -/
theorem Refuses.stops {finish : Nat} {state : State} {rest : List PlacedToken} {error : RuleError}
    (refused : Refuses finish state rest error) :
    (∀ next ∈ rest.head?, state.step next.token = none) ∧
      (rest = [] → ∀ half side chain, state ≠ behind half side chain) := by
  cases refused with
  | needsOperand stops => exact ⟨stops, fun _ _ _ _ => by simp⟩
  | needsIdent stops => exact ⟨stops, fun _ _ _ _ => by simp⟩
  | needsNothing stops =>
      refine ⟨fun next first => ?_, fun empty => absurd empty (List.cons_ne_nil _ _)⟩
      obtain rfl := Option.some.inj first
      exact stops

/-- Nothing that is refused leads on to where an operand may be over. -/
theorem Refuses.run_ne_behind {finish : Nat} {state : State} {rest : List PlacedToken}
    {error : RuleError} (refused : Refuses finish state rest error) (half : Half) (side : Side)
    (chain : Bool) : state.run (bare rest) ≠ some (behind half side chain) := by
  obtain ⟨stops, unfinished⟩ := refused.stops
  intro reached
  cases rest with
  | nil => exact unfinished rfl half side chain (Option.some.inj reached)
  | cons next others =>
      rw [bare_cons, run_cons, stops next rfl] at reached
      exact absurd reached (by simp)

/-- Tokens are a sentence exactly when each of them may follow those before it and the last one may
end an operand. -/
theorem sentence_iff_run {ts : List Token} :
    (∃ expr, Sentence ts expr) ↔
      ∃ half side chain, start.run ts = some (behind half side chain) := by
  constructor
  · rintro ⟨expr, derived⟩
    exact run_sentence derived
  · rintro ⟨half, side, chain, reached⟩
    -- The reader takes such tokens: where it is stuck, no run goes on.
    obtain ⟨placed, rfl⟩ := exists_bare ts
    cases read : parseTokens 0 placed with
    | ok expr => exact ⟨expr, parseTokens_eq_ok_iff.mp read⟩
    | error error =>
        obtain ⟨stop, rest, moves, refused⟩ := stuck_of_parseTokens read
        obtain ⟨front, rfl, moved⟩ := moves.exists_front
        rw [run_bare_append, moved] at reached
        exact absurd reached (refused.run_ne_behind half side chain)

theorem run_completion (state : State) :
    ∃ half side chain, state.run state.completion = some (behind half side chain) := by
  cases state with
  | operand half side => exact ⟨half, side, true, rfl⟩
  | segment half side => exact ⟨half, side, true, rfl⟩
  | behind half side chain => exact ⟨half, side, chain, rfl⟩

/-- Tokens of which each may follow those before it are completed to a sentence. -/
theorem sentence_of_run {ts : List Token} {stop : State} (reached : start.run ts = some stop) :
    ∃ expr, Sentence (ts ++ stop.completion) expr := by
  refine sentence_iff_run.mpr ?_
  rw [run_append, reached]
  exact run_completion stop

/-- Some sentence begins with given tokens exactly when each of them may follow those before it. -/
theorem opens_iff_run {ts : List Token} : Opens ts ↔ ∃ stop, start.run ts = some stop := by
  constructor
  · rintro ⟨more, expr, derived⟩
    obtain ⟨half, side, chain, reached⟩ := sentence_iff_run.mp ⟨expr, derived⟩
    rw [run_append] at reached
    obtain ⟨stop, moved, -⟩ := Option.bind_eq_some_iff.mp reached
    exact ⟨stop, moved⟩
  · rintro ⟨stop, reached⟩
    exact ⟨stop.completion, sentence_of_run reached⟩

end ConfigGate.Rule
