import ConfigGate.Proofs.Wildcard
import Mathlib.Data.List.Infix

/-!
# Matching as substitution

A value matches a pattern if it comes of the pattern by putting a run of characters in the place of
each wildcard. A search for such runs would have to try every end of a run and go back when the rest
does not match. The one-pass search never goes back, and still accepts whatever that search accepts,
however many pieces there are and however they overlap.

Results:
1. `matches_iff_exists_fillIn`: what matches is what comes of filling in runs;
2. `backtracks_eq_true_iff`: the search that goes back finds the runs if there are any;
3. `isMatch_iff_substitute`: so does the search that does not go back.
-/

namespace ConfigGate.Wildcard

/-! ## Filling in runs -/

/-- The pattern with the runs in the place of its wildcards, one after the other. A wildcard for
which no run is left is filled with nothing. -/
def fillIn : List Char → List (List Char) → List Char
  | [], _ => []
  | c :: pattern, runs =>
      if c = '*' then runs.headD [] ++ fillIn pattern runs.tail else c :: fillIn pattern runs

/-- The pattern with texts in the place of its wildcards. -/
def substitute (pattern : String) (runs : List String) : String :=
  String.ofList (fillIn pattern.toList (runs.map String.toList))

@[simp] theorem fillIn_wildcard (pattern run : List Char) (runs : List (List Char)) :
    fillIn ('*' :: pattern) (run :: runs) = run ++ fillIn pattern runs := by
  rw [fillIn, if_pos rfl, List.headD_cons, List.tail_cons]

theorem fillIn_plain {c : Char} (plain : c ≠ '*') (pattern : List Char)
    (runs : List (List Char)) : fillIn (c :: pattern) runs = c :: fillIn pattern runs := by
  rw [fillIn, if_neg plain]

/-- Filling in runs gives a value that matches. -/
theorem matches_fillIn {pattern : List Char} {runs : List (List Char)}
    (enough : runs.length = pattern.count '*') : Matches pattern (fillIn pattern runs) := by
  induction pattern generalizing runs with
  | nil => exact .done
  | cons c pattern ih =>
      by_cases wildcard : c = '*'
      · subst wildcard
        rw [List.count_cons_self] at enough
        obtain ⟨run, others, rfl⟩ := List.exists_cons_of_length_eq_add_one enough
        rw [fillIn_wildcard]
        exact .wildcard run (ih (Nat.succ.inj enough))
      · rw [List.count_cons_of_ne wildcard] at enough
        rw [fillIn_plain wildcard]
        exact .plain wildcard (ih enough)

/-- The values that match are those that come of filling in a run for each wildcard. -/
theorem matches_iff_exists_fillIn {pattern value : List Char} :
    Matches pattern value ↔ ∃ runs : List (List Char),
      runs.length = pattern.count '*' ∧ value = fillIn pattern runs := by
  constructor
  · intro whole
    induction whole with
    | done => exact ⟨[], rfl, rfl⟩
    | @wildcard pattern rest run _ ih =>
        obtain ⟨runs, enough, rfl⟩ := ih
        refine ⟨run :: runs, ?_, (fillIn_wildcard pattern run runs).symm⟩
        rw [List.length_cons, enough, List.count_cons_self]
    | @plain c pattern rest plain _ ih =>
        obtain ⟨runs, enough, rfl⟩ := ih
        refine ⟨runs, ?_, (fillIn_plain plain pattern runs).symm⟩
        rw [enough, List.count_cons_of_ne plain]
  · rintro ⟨runs, enough, rfl⟩
    exact matches_fillIn enough

/-! ## Going back -/

/-- Whether a pattern matches a value, by trying every end of a run for each wildcard. -/
def backtracks : List Char → List Char → Bool
  | [], value => value.isEmpty
  | c :: pattern, value =>
      if c = '*' then value.tails.any (backtracks pattern)
      else
        match value with
        | [] => false
        | d :: rest => c == d && backtracks pattern rest

/-- A character that is no wildcard stands for itself. -/
theorem matches_cons_iff {c : Char} {pattern value : List Char} (plain : c ≠ '*') :
    Matches (c :: pattern) value ↔ ∃ rest, value = c :: rest ∧ Matches pattern rest := by
  have alone : '*' ∉ [c] := by simpa using Ne.symm plain
  exact WildcardLemmas.matches_append_iff alone

/-- Trying every run finds the runs if there are any. -/
theorem backtracks_eq_true_iff {pattern value : List Char} :
    backtracks pattern value = true ↔ Matches pattern value := by
  induction pattern generalizing value with
  | nil =>
      rw [backtracks, List.isEmpty_iff, WildcardLemmas.matches_plain_iff List.not_mem_nil]
  | cons c pattern ih =>
      unfold backtracks
      split
      · rename_i wildcard
        subst wildcard
        rw [WildcardLemmas.matches_wildcard_iff, List.any_eq_true]
        constructor
        · rintro ⟨rest, suffix, tail⟩
          obtain ⟨run, rfl⟩ := (List.mem_tails ..).mp suffix
          exact ⟨run, rest, rfl, ih.mp tail⟩
        · rintro ⟨run, rest, rfl, tail⟩
          exact ⟨rest, (List.mem_tails ..).mpr ⟨run, rfl⟩, ih.mpr tail⟩
      · rename_i plain
        rw [matches_cons_iff plain]
        cases value with
        | nil => simp
        | cons d rest =>
            rw [Bool.and_eq_true, beq_iff_eq, ih]
            constructor
            · rintro ⟨rfl, tail⟩
              exact ⟨rest, rfl, tail⟩
            · rintro ⟨_, ⟨⟩, tail⟩
              exact ⟨rfl, tail⟩

/-! ## The search that does not go back -/

/-- A value is accepted exactly if it comes of the pattern by putting a text, perhaps the empty one,
in the place of each wildcard; and so a search that goes back accepts no more. -/
theorem isMatch_iff_substitute (pattern value : String) :
    (isMatch pattern value = true ↔
      ∃ runs : List String, runs.length = pattern.toList.count '*' ∧
        value = substitute pattern runs) ∧
      isMatch pattern value = backtracks pattern.toList value.toList := by
  constructor
  · rw [isMatch, matchChars_eq_true_iff, matches_iff_exists_fillIn]
    constructor
    · rintro ⟨runs, enough, filled⟩
      refine ⟨runs.map String.ofList, by rw [List.length_map, enough], ?_⟩
      have back : (runs.map String.ofList).map String.toList = runs := by
        rw [List.map_map]
        exact List.map_id'' (fun run => String.toList_ofList) runs
      rw [substitute, back, ← filled, String.ofList_toList]
    · rintro ⟨runs, enough, rfl⟩
      exact ⟨runs.map String.toList, by rw [List.length_map, enough], String.toList_ofList⟩
  · rw [Bool.eq_iff_iff, isMatch, matchChars_eq_true_iff, backtracks_eq_true_iff]

end ConfigGate.Wildcard
