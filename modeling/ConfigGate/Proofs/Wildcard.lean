import ConfigGate.Wildcard

/-!
# What patterns match

A pattern matches the values that come of it by putting some run of characters in the place of each
wildcard. `Matches` says so without an order of search, and the one-pass search decides it
(`matchChars_eq_true_iff`): taking the first occurrence of a piece leaves a rest that every other
occurrence leaves a part of.
-/

namespace ConfigGate.Wildcard

open Text

/-- `Matches pattern value`: the value is the pattern with a run of characters in the place of each
wildcard. -/
inductive Matches : List Char → List Char → Prop
  | done : Matches [] []
  | wildcard {pattern rest : List Char} (run : List Char) :
      Matches pattern rest → Matches ('*' :: pattern) (run ++ rest)
  | plain {c : Char} {pattern rest : List Char} :
      c ≠ '*' → Matches pattern rest → Matches (c :: pattern) (c :: rest)

/-- `MatchesBehind pattern value`: the pattern matches behind some run at the front of the value. -/
def MatchesBehind (pattern value : List Char) : Prop :=
  ∃ run rest, value = run ++ rest ∧ Matches pattern rest

/-! ## Patterns in parts -/

namespace WildcardLemmas

theorem matches_wildcard_iff {pattern value : List Char} :
    Matches ('*' :: pattern) value ↔ MatchesBehind pattern value := by
  constructor
  · intro whole
    cases whole with
    | wildcard run rest => exact ⟨run, _, rfl, rest⟩
    | plain other _ => exact absurd rfl other
  · rintro ⟨run, rest, rfl, behind⟩
    exact .wildcard run behind

/-- A part without wildcards stands for itself. -/
theorem matches_append_iff {piece pattern value : List Char} (plain : '*' ∉ piece) :
    Matches (piece ++ pattern) value ↔ ∃ rest, value = piece ++ rest ∧ Matches pattern rest := by
  induction piece generalizing value with
  | nil => simp
  | cons c piece ih =>
      obtain ⟨other, plain⟩ : '*' ≠ c ∧ '*' ∉ piece := by simpa using plain
      constructor
      · intro whole
        cases whole with
        | wildcard => exact absurd rfl other
        | plain _ behind =>
            obtain ⟨rest, rfl, tail⟩ := (ih plain).mp behind
            exact ⟨rest, rfl, tail⟩
      · rintro ⟨rest, rfl, tail⟩
        exact .plain other.symm ((ih plain).mpr ⟨rest, rfl, tail⟩)

theorem matches_plain_iff {piece value : List Char} (plain : '*' ∉ piece) :
    Matches piece value ↔ value = piece := by
  have split : Matches (piece ++ []) value ↔ ∃ rest, value = piece ++ rest ∧ Matches [] rest :=
    matches_append_iff plain
  rw [List.append_nil] at split
  rw [split]
  constructor
  · rintro ⟨rest, rfl, nothing⟩
    cases nothing
    rw [List.append_nil]
  · rintro rfl
    exact ⟨[], (List.append_nil _).symm, .done⟩

theorem matchesBehind_append {pattern value : List Char} (extra : List Char)
    (behind : MatchesBehind pattern value) : MatchesBehind pattern (extra ++ value) := by
  obtain ⟨run, rest, rfl, tail⟩ := behind
  exact ⟨extra ++ run, rest, (List.append_assoc ..).symm, tail⟩

theorem not_mem_of_mem_pieces {sep : Char} {cs : List Char} :
    ∀ piece ∈ pieces sep cs, sep ∉ piece := by
  induction cs with
  | nil => simp [pieces]
  | cons c rest ih =>
      simp only [pieces]
      split
      · intro piece member
        cases List.mem_cons.mp member with
        | inl equal => simp [equal]
        | inr behind => exact ih piece behind
      · rename_i other
        cases shape : pieces sep rest with
        | nil => exact absurd shape (pieces_ne_nil sep rest)
        | cons first others =>
            rw [shape] at ih
            intro piece member
            cases List.mem_cons.mp member with
            | inl equal =>
                rw [equal, List.mem_cons, not_or]
                exact ⟨Ne.symm other, ih first (by simp)⟩
            | inr behind => exact ih piece (by simp [behind])

/-! ## First occurrences -/

theorem afterFirst?_eq_none {piece value : List Char} (none : afterFirst? piece value = none)
    (run tail : List Char) : value ≠ run ++ (piece ++ tail) := by
  induction value generalizing run with
  | nil =>
      rintro shape
      obtain ⟨-, piecesEmpty, -⟩ : run = [] ∧ piece = [] ∧ tail = [] := by simpa using shape.symm
      simp [afterFirst?, piecesEmpty] at none
  | cons c value ih =>
      simp only [afterFirst?] at none
      split at none
      · exact absurd none (by simp)
      · rename_i notPrefix
        intro shape
        cases run with
        | nil => exact notPrefix (List.isPrefixOf_iff_prefix.mpr ⟨tail, shape.symm⟩)
        | cons d run => exact ih none run (List.cons.inj shape).2

theorem afterFirst?_occurs {piece value rest : List Char}
    (found : afterFirst? piece value = some rest) : ∃ run, value = run ++ (piece ++ rest) := by
  induction value with
  | nil =>
      simp only [afterFirst?, List.isEmpty_iff] at found
      split at found
      · rename_i piecesEmpty
        cases found
        exact ⟨[], by simp [piecesEmpty]⟩
      · exact absurd found (by simp)
  | cons c value ih =>
      simp only [afterFirst?] at found
      split at found
      · rename_i isPrefix
        obtain ⟨tail, shape⟩ := List.isPrefixOf_iff_prefix.mp isPrefix
        cases found
        exact ⟨[], by rw [← shape, List.drop_left]; rfl⟩
      · obtain ⟨run, rfl⟩ := ih found
        exact ⟨c :: run, rfl⟩

/-- What any occurrence leaves is left by the first occurrence, perhaps behind something more. -/
theorem afterFirst?_first {piece value rest : List Char}
    (found : afterFirst? piece value = some rest) {run tail : List Char}
    (occurs : value = run ++ (piece ++ tail)) : ∃ extra, rest = extra ++ tail := by
  induction value generalizing run with
  | nil =>
      obtain ⟨-, -, tailEmpty⟩ : run = [] ∧ piece = [] ∧ tail = [] := by simpa using occurs.symm
      exact ⟨rest, by rw [tailEmpty, List.append_nil]⟩
  | cons c value ih =>
      simp only [afterFirst?] at found
      split at found
      · -- The piece stands at the very front, and the other occurrence lies `run.length` behind it.
        cases found
        refine ⟨((c :: value).drop piece.length).take run.length, ?_⟩
        have behind : tail = ((c :: value).drop piece.length).drop run.length := by
          rw [List.drop_drop, occurs, Nat.add_comm, ← List.drop_drop, List.drop_left,
            List.drop_left]
        rw [behind, List.take_append_drop]
      · rename_i notPrefix
        cases run with
        | nil =>
            exact absurd (List.isPrefixOf_iff_prefix.mpr ⟨tail, occurs.symm⟩) notPrefix
        | cons d run => exact ih found (List.cons.inj occurs).2

/-! ## Pieces -/

theorem matchesBehind_joinPieces {piece next : List Char} {others : List (List Char)}
    {value : List Char} (plain : '*' ∉ piece) :
    MatchesBehind (joinPieces '*' (piece :: next :: others)) value ↔
      ∃ run tail, value = run ++ (piece ++ tail) ∧
        MatchesBehind (joinPieces '*' (next :: others)) tail := by
  constructor
  · rintro ⟨run, rest, rfl, whole⟩
    obtain ⟨tail, rfl, behind⟩ := (matches_append_iff plain).mp whole
    exact ⟨run, tail, rfl, matches_wildcard_iff.mp behind⟩
  · rintro ⟨run, tail, rfl, behind⟩
    exact ⟨run, piece ++ tail, rfl,
      (matches_append_iff plain).mpr ⟨tail, rfl, matches_wildcard_iff.mpr behind⟩⟩

/-- The search for pieces one after the other loses no way to match. -/
theorem matchPieces_eq_true_iff {next : List Char} {others : List (List Char)} {value : List Char}
    (plain : ∀ piece ∈ next :: others, '*' ∉ piece) :
    matchPieces (next :: others) value = true ↔
      MatchesBehind (joinPieces '*' (next :: others)) value := by
  induction others generalizing next value with
  | nil =>
      show next.isSuffixOf value = true ↔ MatchesBehind next value
      rw [List.isSuffixOf_iff_suffix]
      constructor
      · rintro ⟨run, rfl⟩
        exact ⟨run, next, rfl, (matches_plain_iff (plain next (by simp))).mpr rfl⟩
      · rintro ⟨run, rest, rfl, whole⟩
        rw [(matches_plain_iff (plain next (by simp))).mp whole]
        exact ⟨run, rfl⟩
  | cons following others ih =>
      have ih (value : List Char) : matchPieces (following :: others) value = true ↔
          MatchesBehind (joinPieces '*' (following :: others)) value :=
        ih fun piece member => plain piece (by simp [List.mem_cons.mp member])
      rw [matchesBehind_joinPieces (plain next (by simp)), matchPieces]
      cases found : afterFirst? next value with
      | none =>
          constructor
          · exact nofun
          · rintro ⟨run, tail, occurs, -⟩
            exact absurd occurs (afterFirst?_eq_none found run tail)
      | some rest =>
          simp only
          rw [ih]
          constructor
          · intro behind
            obtain ⟨run, occurs⟩ := afterFirst?_occurs found
            exact ⟨run, rest, occurs, behind⟩
          · rintro ⟨run, tail, occurs, behind⟩
            obtain ⟨extra, rfl⟩ := afterFirst?_first found occurs
            exact matchesBehind_append extra behind

end WildcardLemmas

open WildcardLemmas

/-! ## Whole patterns -/

/-- The one-pass search decides whether a pattern matches. -/
theorem matchChars_eq_true_iff {pattern value : List Char} :
    matchChars pattern value = true ↔ Matches pattern value := by
  have plain : ∀ piece ∈ pieces '*' pattern, '*' ∉ piece := not_mem_of_mem_pieces
  have whole := intercalate_pieces '*' pattern
  unfold matchChars
  split
  · rename_i none
    exact absurd none (pieces_ne_nil '*' pattern)
  · rename_i only shape
    rw [shape] at plain whole
    have same : only = pattern := whole
    subst same
    rw [beq_iff_eq, matches_plain_iff (plain only (by simp)), eq_comm]
  · rename_i first next others shape
    rw [shape] at plain whole
    rw [← whole]
    show _ ↔ Matches (first ++ '*' :: joinPieces '*' (next :: others)) value
    rw [matches_append_iff (plain first (by simp)), Bool.and_eq_true,
      List.isPrefixOf_iff_prefix,
      matchPieces_eq_true_iff fun piece member => plain piece (by simp [List.mem_cons.mp member])]
    constructor
    · rintro ⟨⟨rest, rfl⟩, behind⟩
      rw [List.drop_left] at behind
      exact ⟨rest, rfl, matches_wildcard_iff.mpr behind⟩
    · rintro ⟨rest, rfl, behind⟩
      rw [List.drop_left]
      exact ⟨⟨rest, rfl⟩, matches_wildcard_iff.mp behind⟩

/-- A text without wildcards matches itself only. -/
theorem matches_iff_of_not_hasWildcard {pattern value : String}
    (plain : hasWildcard pattern = false) :
    Matches pattern.toList value.toList ↔ value = pattern := by
  have notMember : '*' ∉ pattern.toList := by simpa [hasWildcard] using plain
  rw [matches_plain_iff notMember, String.toList_inj]

end ConfigGate.Wildcard
