import ConfigGate.Gate
import ConfigGate.Proofs.Resolution

/-!
# Set keys and missing keys

Reading the environment splits the declared keys in two: those whose variable is set, which get its
value even if that is empty, and those whose variable is not set, which are noted as missing. Keys
that share a variable, as paths that differ in points, dashes and letter case do, are all set or all
missing. This, with the execution tag, is the whole of a resolution (`Splits.unique`), and it
mentions no variable but those of the declared keys and of the tag. So whatever else is set, the
resolution is the same, and with it what is concluded.

Results:
1. `splits_read`: how reading splits the declared keys;
2. `read_splits`: and that no other variable counts.
-/

namespace ConfigGate

/-- Two sources of variables that show the same to those who look up the variables of the declared
keys and the one of the execution tag. -/
structure Variables.AgreeFor (schema : Schema) (naming : Naming) (vars others : Variables) :
    Prop where
  keys : ∀ key ∈ schema.config.keys,
    vars (variableName naming.lead key) = others (variableName naming.lead key)
  tag : vars naming.executionVariable = others naming.executionVariable

namespace Resolution

/-- A resolution that splits the declared keys by whether their variable is set, and holds the
execution tag, which is empty if its variable is not set. -/
structure Splits (resolution : Resolution) (schema : Schema) (vars : Variables)
    (naming : Naming) : Prop where
  set : ∀ key ∈ schema.config.keys, ∀ value, vars (variableName naming.lead key) = some value →
    resolution.values.get? key = some value ∧ key ∉ resolution.missing
  unset : ∀ key ∈ schema.config.keys, vars (variableName naming.lead key) = none →
    resolution.values.get? key = none ∧ key ∈ resolution.missing
  undeclared : ∀ key, key ∉ schema.config.keys →
    resolution.values.get? key = none ∧ key ∉ resolution.missing
  ascending : resolution.missing.Pairwise (· < ·)
  executionEnv : resolution.executionEnv = (vars naming.executionVariable).getD ""

variable {schema : Schema} {vars others : Variables} {naming : Naming}
  {left right resolution : Resolution}

/-! ## What is missing -/

/-- The keys noted as missing stand in the order in which the keys are read. -/
theorem readKeys_missing (naming : Naming) (vars : Variables) (keys : List String) :
    (readKeys naming vars keys).2 =
      keys.filter fun key => (vars (variableName naming.lead key)).isNone := by
  induction keys with
  | nil => rfl
  | cons first others ih =>
      unfold readKeys
      cases found : vars (variableName naming.lead first) with
      | some value => simp [found, ih]
      | none => simp [found, ih]

theorem read_missing (schema : Schema) (vars : Variables) (naming : Naming) :
    (read schema vars naming).missing =
      schema.config.keys.filter fun key => (vars (variableName naming.lead key)).isNone :=
  readKeys_missing naming vars schema.config.keys

theorem mem_read_missing_iff {key : String} :
    key ∈ (read schema vars naming).missing ↔
      key ∈ schema.config.keys ∧ vars (variableName naming.lead key) = none := by
  rw [read_missing, List.mem_filter, Option.isNone_iff_eq_none]

/-! ## The split -/

/-- Reading splits the declared keys. -/
theorem splits_read (schema : Schema) (vars : Variables) (naming : Naming) :
    (read schema vars naming).Splits schema vars naming where
  set := by
    intro key declared value set
    refine ⟨?_, fun missing => ?_⟩
    · rw [read_get?_of_declared vars naming (SortedMap.mem_keys_iff.mp declared), set]
    · obtain ⟨-, unset⟩ := mem_read_missing_iff.mp missing
      exact absurd (set.symm.trans unset) nofun
  unset := by
    intro key declared unset
    refine ⟨?_, mem_read_missing_iff.mpr ⟨declared, unset⟩⟩
    rw [read_get?_of_declared vars naming (SortedMap.mem_keys_iff.mp declared), unset]
  undeclared := by
    intro key undeclared
    have unknown : ¬schema.declares key = true :=
      fun declared => undeclared (SortedMap.mem_keys_iff.mpr declared)
    refine ⟨?_, fun missing => undeclared (mem_read_missing_iff.mp missing).1⟩
    rw [read_get?, if_neg unknown]
  ascending := by
    rw [read_missing]
    exact schema.config.keys_ascending.filter _
  executionEnv := rfl

/-- The split says under every key what is found there. -/
theorem Splits.get? (splits : resolution.Splits schema vars naming) (key : String) :
    resolution.values.get? key =
      if key ∈ schema.config.keys then vars (variableName naming.lead key) else none := by
  split
  · rename_i declared
    cases found : vars (variableName naming.lead key) with
    | some value => exact (splits.set key declared value found).1
    | none => exact (splits.unset key declared found).1
  · rename_i undeclared
    exact (splits.undeclared key undeclared).1

theorem Splits.mem_missing_iff (splits : resolution.Splits schema vars naming) {key : String} :
    key ∈ resolution.missing ↔
      key ∈ schema.config.keys ∧ vars (variableName naming.lead key) = none := by
  constructor
  · intro missing
    have declared : key ∈ schema.config.keys :=
      Classical.not_not.mp fun undeclared => (splits.undeclared key undeclared).2 missing
    refine ⟨declared, Option.eq_none_iff_forall_ne_some.mpr fun value found => ?_⟩
    exact (splits.set key declared value found).2 missing
  · rintro ⟨declared, unset⟩
    exact (splits.unset key declared unset).2

/-- The split leaves nothing open. -/
theorem Splits.unique (leftSplits : left.Splits schema vars naming)
    (rightSplits : right.Splits schema vars naming) : left = right := by
  have values : left.values = right.values :=
    SortedMap.ext_get? fun key => (leftSplits.get? key).trans (rightSplits.get? key).symm
  have sameKeys : left.missing.Perm right.missing := by
    rw [List.perm_ext_iff_of_nodup (leftSplits.ascending.imp String.ne_of_lt)
      (rightSplits.ascending.imp String.ne_of_lt)]
    intro key
    rw [leftSplits.mem_missing_iff, rightSplits.mem_missing_iff]
  have missing : left.missing = right.missing :=
    sameKeys.eq_of_pairwise (fun _ _ _ _ before back => absurd back (String.lt_asymm before))
      leftSplits.ascending rightSplits.ascending
  have tag := leftSplits.executionEnv.trans rightSplits.executionEnv.symm
  cases left
  cases right
  rw [mk.injEq]
  exact ⟨values, tag, missing⟩

/-! ## Other variables -/

/-- What is a split by one source is a split by every source that agrees on what is looked up. -/
theorem Splits.of_agree (splits : resolution.Splits schema vars naming)
    (agree : Variables.AgreeFor schema naming vars others) :
    resolution.Splits schema others naming where
  set := fun key declared value set =>
    splits.set key declared value ((agree.keys key declared).trans set)
  unset := fun key declared unset =>
    splits.unset key declared ((agree.keys key declared).trans unset)
  undeclared := splits.undeclared
  ascending := splits.ascending
  executionEnv := by rw [splits.executionEnv, agree.tag]

/-- Reading splits the declared keys by whether their variable is set; and sources that agree on the
variables of the declared keys and of the execution tag give the same resolution and, under every
policy, the same evaluation. -/
theorem read_splits (schema : Schema) (naming : Naming) :
    (∀ vars, (read schema vars naming).Splits schema vars naming) ∧
    ∀ vars others, Variables.AgreeFor schema naming vars others →
      read schema vars naming = read schema others naming ∧
        ∀ policy, Gate.evaluate schema (read schema vars naming).context policy =
          Gate.evaluate schema (read schema others naming).context policy := by
  refine ⟨fun vars => splits_read schema vars naming, ?_⟩
  intro vars others agree
  have same : read schema vars naming = read schema others naming :=
    ((splits_read schema vars naming).of_agree agree).unique (splits_read schema others naming)
  exact ⟨same, fun policy => by rw [same]⟩

/-! ## Keys that share a variable -/

/-- Three of the keys are read from one variable. -/
def sharedSchema : Schema :=
  { config := .ofList (["a.b", "a-b", "A_b", "c"].map fun key => (key, ⟨.string, true, []⟩))
    invariants := []
    environments := .empty }

def sharedNaming : Naming := ⟨some "app", "TAG"⟩

/-- The shared variable is set to nothing. -/
def sharedVars : Variables := fun name => if name = "APP_A_B" then some "" else none

/-- Names close to those that are looked up are set as well. -/
def crowdedVars : Variables := fun name =>
  if name ∈ ["A_B", "C", "a.b", "app_A_B", "APP_C_", "EXECUTION_ENV", "APP_TAG"] then some "x"
  else sharedVars name

/-- The three keys are set, to nothing, and only the fourth is missing, whatever stands in the
variables that are not looked up. -/
theorem sharedSchema_split :
    Variables.AgreeFor sharedSchema sharedNaming sharedVars crowdedVars ∧
      read sharedSchema sharedVars sharedNaming = read sharedSchema crowdedVars sharedNaming ∧
      (read sharedSchema crowdedVars sharedNaming).values.entries =
        [("A_b", ""), ("a-b", ""), ("a.b", "")] ∧
      (read sharedSchema crowdedVars sharedNaming).missing = ["c"] ∧
      (read sharedSchema crowdedVars sharedNaming).executionEnv = "" := by
  have agree : Variables.AgreeFor sharedSchema sharedNaming sharedVars crowdedVars :=
    ⟨by decide +kernel, by decide +kernel⟩
  obtain ⟨same, -⟩ := (read_splits sharedSchema sharedNaming).2 sharedVars crowdedVars agree
  exact ⟨agree, same, by decide +kernel, by decide +kernel, by decide +kernel⟩

end Resolution

end ConfigGate
