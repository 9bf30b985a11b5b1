import ConfigGate.Proofs.FirstFault
import ConfigGate.Settings.Basic
import Mathlib.Logic.Basic

/-!
# What settings resolve to

Settings are layers: what is set from outside lies over the file, and the file over what a profile
presets. Each of the words they use is one of a few, and the first one that is not is reported: the
profile, then the severities of checks by the names of the checks, then the failure threshold, then
the variable of the execution tag.

Results:
1. `faultOrder`, `acceptable_iff_forall_not_faultyAt`: faults and their order;
2. `get?_applyChecks`: what settings say about a check changes the policy of that check only;
3. `resolve_decides_acceptability`: what settings resolve to, and what is reported.
-/

namespace ConfigGate

/-! ## Words -/

/-- The profiles, with the severities that they preset. -/
def profileWords : List (String × Severity) := [("strict", .error), ("warn", .warning)]

/-- The words for severities. -/
def severityWords : List (String × Severity) :=
  [("info", .info), ("warning", .warning), ("warn", .warning), ("error", .error)]

/-- The words for failure thresholds. -/
def thresholdWords : List (String × FailOn) :=
  [("error", .error), ("warning", .warning), ("warn", .warning)]

/-- The names of the checks that are known. -/
def knownChecks : List String :=
  ["config.required", "config.enum", "invariant.rule", "contract.allow", "contract.deny"]

/-- The word is in a table of words. -/
def Known {α : Type} (words : List (String × α)) (word : String) : Prop :=
  ∃ meaning, (word, meaning) ∈ words

namespace SettingsLemmas

variable {word : String}

theorem profileSeverity?_eq_some_iff {severity : Severity} :
    profileSeverity? word = some severity ↔ (word, severity) ∈ profileWords := by
  unfold profileSeverity? profileWords
  grind

theorem settingsSeverity?_eq_some_iff {severity : Severity} :
    settingsSeverity? word = some severity ↔ (word, severity) ∈ severityWords := by
  unfold settingsSeverity? severityWords Severity.ofWord?
  grind

theorem settingsThreshold?_eq_some_iff {failOn : FailOn} :
    settingsThreshold? word = some failOn ↔ (word, failOn) ∈ thresholdWords := by
  unfold settingsThreshold? thresholdWords
  grind

/-- A word is read as nothing exactly when it is in no table. -/
theorem eq_none_iff_not_known {α : Type} {words : List (String × α)} {read : Option α}
    (reads : ∀ {meaning}, read = some meaning ↔ (word, meaning) ∈ words) :
    read = none ↔ ¬Known words word := by
  rw [Option.eq_none_iff_forall_ne_some, Known, not_exists]
  exact forall_congr' fun meaning => not_congr reads

end SettingsLemmas

open SettingsLemmas

/-! ## Layers -/

/-- The value of the uppermost layer that has one. -/
def chosen {α : Type} (override file : Option α) (preset : α) : α :=
  match override, file with
  | some value, _ => value
  | none, some value => value
  | none, none => preset

theorem getD_or_eq_chosen {α : Type} (override file : Option α) (preset : α) :
    (override.or file).getD preset = chosen override file preset := by
  cases override <;> cases file <;> rfl

/-- A text is set by an upper layer, or by a lower one where the upper layer says nothing. Setting
an empty text sets none. -/
def IsSet (override file : Option String) (text : String) : Prop :=
  text ≠ "" ∧ (override = some text ∨ override = none ∧ file = some text)

theorem unlessEmpty_or_eq_some_iff {override file : Option String} {text : String} :
    unlessEmpty (override.or file) = some text ↔ IsSet override file text := by
  rw [unlessEmpty, Option.filter_eq_some_iff, Option.or_eq_some_iff, IsSet, and_comm]
  simp

/-- The policy of a check that settings say nothing about. -/
def basePolicy (severity : Severity) (checkId : String) : CheckPolicy :=
  if checkId ∈ knownChecks then ⟨true, severity⟩ else ⟨false, .info⟩

/-- A policy is what settings say over a base. -/
structure CheckPolicy.Overlays (base : CheckPolicy) (said : CheckSettings)
    (policy : CheckPolicy) : Prop where
  enabled : policy.enabled = said.enabled.getD base.enabled
  unset : said.severity = none → policy.severity = base.severity
  set : ∀ word, said.severity = some word → (word, policy.severity) ∈ severityWords

/-- What resolved settings are, layer by layer. -/
structure Resolved.Reflects (settings : Settings) (overrides : Overrides) (resolved : Resolved) :
    Prop where
  profile : resolved.policy.profile = chosen overrides.profile settings.profile "strict"
  unsetThreshold : settings.failOn = none → resolved.policy.failOn = .error
  setThreshold : ∀ word, settings.failOn = some word →
    (word, resolved.policy.failOn) ∈ thresholdWords
  maxFindings : resolved.policy.maxFindings =
    chosen (overrides.maxFindings.map UInt32.toNat) (settings.maxFindings.map UInt32.toNat) 200
  environment : ∀ text, resolved.policy.environment = some text ↔
    IsSet overrides.environment settings.environment text
  lead : ∀ text, resolved.naming.lead = some text ↔ IsSet overrides.lead settings.lead text
  executionVariable : resolved.naming.executionVariable =
    settings.executionVariable.getD "EXECUTION_ENV"
  checks : ∃ severity, (resolved.policy.profile, severity) ∈ profileWords ∧
    ∀ checkId policy, resolved.policy.checks.get? checkId = some policy ↔
      (checkId ∈ knownChecks ∨ settings.checks.contains checkId = true) ∧
        (basePolicy severity checkId).Overlays ((settings.checks.get? checkId).getD ⟨none, none⟩)
          policy

/-! ## Faults -/

namespace Settings

/-- A place in settings. -/
inductive Place where
  | profile
  | severity (checkId : String)
  | threshold
  | executionVariable

namespace Place

/-- The part of the settings that a place is in. -/
def part : Place → Nat
  | profile => 0
  | severity _ => 1
  | threshold => 2
  | executionVariable => 3

/-- `left.Before right`: the left place is looked at first. -/
def Before : Place → Place → Prop
  | severity left, severity right => left < right
  | left, right => left.part < right.part

theorem Before.asymm {left right : Place} (before : left.Before right) : ¬right.Before left := by
  cases left <;> cases right
  case severity.severity => exact String.lt_asymm before
  all_goals exact Nat.lt_asymm before

end Place

/-- `settings.FaultyAt overrides place error`: a word is not known or a name is blank there, and
the error says so. -/
inductive FaultyAt (settings : Settings) (overrides : Overrides) : Place → SettingsError → Prop
  | profile : ¬Known profileWords (chosen overrides.profile settings.profile "strict") →
      FaultyAt settings overrides .profile
        (.unknownProfile (chosen overrides.profile settings.profile "strict"))
  | severity {checkId word : String} {said : CheckSettings} :
      settings.checks.get? checkId = some said → said.severity = some word →
      ¬Known severityWords word →
      FaultyAt settings overrides (.severity checkId) (.unknownSeverity checkId word)
  | threshold {word : String} : settings.failOn = some word → ¬Known thresholdWords word →
      FaultyAt settings overrides .threshold (.unknownThreshold word)
  | executionVariable {name : String} : settings.executionVariable = some name →
      (∀ c ∈ name.toList, Text.isBlank c = true) →
      FaultyAt settings overrides .executionVariable .blankVariable

/-- Settings without faults. -/
structure Acceptable (settings : Settings) (overrides : Overrides) : Prop where
  profile : Known profileWords (chosen overrides.profile settings.profile "strict")
  severities : ∀ checkId said word, settings.checks.get? checkId = some said →
    said.severity = some word → Known severityWords word
  threshold : ∀ word, settings.failOn = some word → Known thresholdWords word
  executionVariable : ∀ name, settings.executionVariable = some name →
    ∃ c ∈ name.toList, Text.isBlank c = false

variable {settings : Settings} {overrides : Overrides}

/-- Which fault of settings is the first one is well-defined. -/
theorem faultOrder (settings : Settings) (overrides : Overrides) :
    FaultOrder Place.Before (settings.FaultyAt overrides) := by
  refine ⟨Place.Before.asymm, ?_⟩
  intro place left right here there
  cases here with
  | profile => cases there; rfl
  | severity found set unknown =>
      cases there with
      | severity again setAgain =>
          obtain rfl := Option.some.inj (found.symm.trans again)
          rw [Option.some.inj (set.symm.trans setAgain)]
  | threshold set =>
      cases there with
      | threshold setAgain => rw [Option.some.inj (set.symm.trans setAgain)]
  | executionVariable => cases there; rfl

/-- Settings are acceptable exactly when nothing in them is at fault. -/
theorem acceptable_iff_forall_not_faultyAt :
    settings.Acceptable overrides ↔ ∀ place error, ¬settings.FaultyAt overrides place error := by
  constructor
  · rintro acceptable _ _ (unknown | ⟨found, set, unknown⟩ | ⟨set, unknown⟩ | ⟨set, blank⟩)
    · exact unknown acceptable.profile
    · exact unknown (acceptable.severities _ _ _ found set)
    · exact unknown (acceptable.threshold _ set)
    · obtain ⟨c, member, visible⟩ := acceptable.executionVariable _ set
      exact absurd (blank c member) (by simp [visible])
  · refine fun clean => ⟨?_, fun checkId said word found set => ?_, fun word set => ?_,
      fun name set => ?_⟩
    · exact by_contra fun unknown => clean _ _ (.profile unknown)
    · exact by_contra fun unknown => clean _ _ (.severity found set unknown)
    · exact by_contra fun unknown => clean _ _ (.threshold set unknown)
    · refine by_contra fun none => clean _ _ (.executionVariable set fun c member => ?_)
      exact by_contra fun visible => none ⟨c, member, by simpa using visible⟩

end Settings

/-! ## Checks -/

namespace SettingsLemmas

variable {base policy : CheckPolicy} {said : CheckSettings} {checkId : String}
  {error : SettingsError} {entries : List (String × CheckSettings)}
  {checks result : SortedMap CheckPolicy}

theorem apply_eq_ok_iff :
    said.apply base checkId = .ok policy ↔ base.Overlays said policy := by
  obtain ⟨enabled, severity⟩ := policy
  unfold CheckSettings.apply
  simp only
  split
  · rename_i unset
    rw [Except.ok.injEq, CheckPolicy.mk.injEq]
    constructor
    · rintro ⟨rfl, rfl⟩
      exact ⟨rfl, fun _ => rfl, fun word set => nomatch unset.symm.trans set⟩
    · exact fun overlays => ⟨overlays.enabled.symm, (overlays.unset unset).symm⟩
  · rename_i word set
    split
    · rename_i unread
      refine ⟨nofun, fun overlays => ?_⟩
      exact nomatch unread.symm.trans (settingsSeverity?_eq_some_iff.mpr (overlays.set word set))
    · rename_i meant read
      rw [Except.ok.injEq, CheckPolicy.mk.injEq]
      constructor
      · rintro ⟨rfl, rfl⟩
        refine ⟨rfl, fun unset => (nomatch set.symm.trans unset), fun other setOther => ?_⟩
        obtain rfl := Option.some.inj (set.symm.trans setOther)
        exact settingsSeverity?_eq_some_iff.mp read
      · intro overlays
        have same := settingsSeverity?_eq_some_iff.mpr (overlays.set word set)
        exact ⟨overlays.enabled.symm, Option.some.inj (read.symm.trans same)⟩

/-- The fault of what settings say about a check, whatever policy it has so far. -/
def severityFault? (entry : String × CheckSettings) : Option SettingsError :=
  match entry.2.severity with
  | none => none
  | some word =>
      match settingsSeverity? word with
      | none => some (.unknownSeverity entry.1 word)
      | some _ => none

theorem severityFault?_eq_some_iff :
    severityFault? (checkId, said) = some error ↔
      ∃ word, said.severity = some word ∧ ¬Known severityWords word ∧
        error = .unknownSeverity checkId word := by
  unfold severityFault?
  cases said.severity with
  | none => simp
  | some word =>
      simp only [Option.some.injEq, exists_eq_left',
        ← eq_none_iff_not_known settingsSeverity?_eq_some_iff]
      cases settingsSeverity? word <;> simp [eq_comm]

theorem severityFault?_ne_none (checkId : String) {word : String}
    (set : said.severity = some word) (unknown : ¬Known severityWords word) :
    severityFault? (checkId, said) ≠ none := by
  rw [severityFault?_eq_some_iff.mpr ⟨word, set, unknown, rfl⟩]
  exact Option.some_ne_none _

theorem apply_eq_error_iff :
    said.apply base checkId = .error error ↔ severityFault? (checkId, said) = some error := by
  unfold CheckSettings.apply severityFault?
  cases said.severity with
  | none => simp
  | some word => cases read : settingsSeverity? word <;> simp [read]

theorem applyChecks_eq_error_iff :
    applyChecks entries checks = .error error ↔ entries.findSome? severityFault? = some error := by
  fun_induction applyChecks entries checks with
  | case1 => simp
  | case2 checkId said rest checks cause step =>
      rw [List.findSome?_cons, apply_eq_error_iff.mp step]
      simp
  | case3 checkId said rest checks policy step ih =>
      have clean : severityFault? (checkId, said) = none := by
        rw [Option.eq_none_iff_forall_ne_some]
        exact fun error fault => nomatch step.symm.trans (apply_eq_error_iff.mpr fault)
      rw [List.findSome?_cons, clean]
      exact ih

theorem known_of_applyChecks (applied : applyChecks entries checks = .ok result) {word : String}
    (member : (checkId, said) ∈ entries) (set : said.severity = some word) :
    Known severityWords word := by
  refine by_contra fun unknown => ?_
  have fault := severityFault?_ne_none checkId set unknown
  obtain ⟨error, found⟩ := Option.ne_none_iff_exists'.mp fun none =>
    fault (List.findSome?_eq_none_iff.mp none _ member)
  exact nomatch applied.symm.trans (applyChecks_eq_error_iff.mpr found)

/-- What settings say about a check changes the policy of that check only. -/
theorem get?_applyChecks (checkId : String)
    (ascending : entries.Pairwise fun left right => left.1 < right.1)
    (applied : applyChecks entries checks = .ok result) :
    (∀ said, lookupEntry checkId entries = some said → ∃ policy,
      result.get? checkId = some policy ∧
        ((checks.get? checkId).getD unknownCheck).Overlays said policy) ∧
      (lookupEntry checkId entries = none → result.get? checkId = checks.get? checkId) := by
  fun_induction applyChecks entries checks with
  | case1 checks =>
      cases applied
      exact ⟨by simp [lookupEntry], fun _ => rfl⟩
  | case2 => exact absurd applied (by simp)
  | case3 name said rest checks policy step ih =>
      obtain ⟨below, ascending⟩ := List.pairwise_cons.mp ascending
      specialize ih ascending applied
      rw [lookupEntry]
      split
      · -- No entry behind this one is about the same check.
        rename_i same
        subst same
        have unchanged := ih.2 (SortedMapLemmas.lookupEntry_eq_none_of_below below)
        rw [SortedMap.get?_insert_self] at unchanged
        refine ⟨fun other found => ?_, fun none => absurd none (Option.some_ne_none said)⟩
        obtain rfl := Option.some.inj found
        exact ⟨policy, unchanged, apply_eq_ok_iff.mp step⟩
      · rename_i different
        rwa [SortedMap.get?_insert_ne checks policy different] at ih

theorem map_id_all : Check.all.map Check.id = knownChecks := rfl

theorem get?_presetChecks {severity : Severity} :
    (presetChecks severity).get? checkId =
      if checkId ∈ knownChecks then some ⟨true, severity⟩ else none := by
  rw [presetChecks, ← map_id_all]
  induction Check.all with
  | nil => rfl
  | cons check others ih =>
      rw [List.map_cons, List.map_cons, SortedMap.get?_ofList_cons, ih]
      have order : checkId = check.id ↔ check.id = checkId := eq_comm
      by_cases here : check.id = checkId <;> by_cases behind : checkId ∈ others.map Check.id <;>
        simp [order, here, behind]

theorem getD_presetChecks {severity : Severity} :
    ((presetChecks severity).get? checkId).getD unknownCheck = basePolicy severity checkId := by
  rw [get?_presetChecks, basePolicy]
  split <;> rfl

theorem overlays_unique {left right : CheckPolicy} (first : base.Overlays said left)
    (second : base.Overlays said right) : left = right := by
  have appliesLeft : said.apply base "" = .ok left := apply_eq_ok_iff.mpr first
  have appliesRight : said.apply base "" = .ok right := apply_eq_ok_iff.mpr second
  exact Except.ok.inj (appliesLeft.symm.trans appliesRight)

theorem overlays_silent_iff : base.Overlays ⟨none, none⟩ policy ↔ policy = base := by
  obtain ⟨enabled, severity⟩ := policy
  rw [CheckPolicy.mk.injEq]
  exact ⟨fun overlays => ⟨overlays.enabled, overlays.unset rfl⟩,
    fun ⟨enabled, severity⟩ => ⟨enabled, fun _ => severity, nofun⟩⟩

/-- The policies that a profile and the file give. -/
theorem get?_applyChecks_preset {severity : Severity} {file : SortedMap CheckSettings}
    (applied : applyChecks file.entries (presetChecks severity) = .ok result) :
    result.get? checkId = some policy ↔
      (checkId ∈ knownChecks ∨ file.contains checkId = true) ∧
        (basePolicy severity checkId).Overlays ((file.get? checkId).getD ⟨none, none⟩) policy := by
  obtain ⟨present, absent⟩ := get?_applyChecks checkId file.ascending applied
  rw [getD_presetChecks] at present
  change ∀ said, file.get? checkId = some said → _ at present
  change file.get? checkId = none → _ at absent
  cases found : file.get? checkId with
  | none =>
      rw [absent found, get?_presetChecks, SortedMap.contains, found, Option.getD_none,
        overlays_silent_iff, basePolicy]
      split
      · rename_i known
        rw [Option.some.injEq, and_iff_right (.inl known)]
        exact eq_comm
      · rename_i unknown
        simp [unknown]
  | some said =>
      obtain ⟨other, here, overlays⟩ := present said found
      rw [here, SortedMap.contains, found, Option.getD_some]
      constructor
      · rintro ⟨⟩
        exact ⟨.inr rfl, overlays⟩
      · rintro ⟨-, same⟩
        rw [overlays_unique overlays same]

variable {failOn : FailOn}

theorem resolveThreshold_eq_ok_iff {word : Option String} :
    resolveThreshold word = .ok failOn ↔
      (word = none → failOn = .error) ∧
        ∀ text, word = some text → (text, failOn) ∈ thresholdWords := by
  cases word with
  | none => simp [resolveThreshold, eq_comm]
  | some text =>
      simp only [← settingsThreshold?_eq_some_iff, resolveThreshold]
      cases read : settingsThreshold? text <;> simp [read]

theorem resolveThreshold_eq_error_iff {word : Option String} :
    resolveThreshold word = .error error ↔
      ∃ text, word = some text ∧ ¬Known thresholdWords text ∧ error = .unknownThreshold text := by
  cases word with
  | none => simp [resolveThreshold]
  | some text =>
      simp only [← eq_none_iff_not_known settingsThreshold?_eq_some_iff, resolveThreshold]
      cases read : settingsThreshold? text <;> simp [read, eq_comm]

theorem resolveVariable_eq_ok_iff {name : Option String} {found : String} :
    resolveVariable name = .ok found ↔
      found = name.getD "EXECUTION_ENV" ∧
        ∀ text, name = some text → ¬∀ c ∈ text.toList, Text.isBlank c = true := by
  simp only [← Text.isBlankText_iff]
  cases name with
  | none =>
      rw [resolveVariable, Except.ok.injEq, eq_comm]
      exact (and_iff_left nofun).symm
  | some text =>
      rw [resolveVariable]
      split
      · rename_i blank
        exact ⟨nofun, fun ⟨_, visible⟩ => absurd blank (visible text rfl)⟩
      · rename_i visible
        rw [Except.ok.injEq, eq_comm]
        exact (and_iff_left fun other same => Option.some.inj same ▸ visible).symm

theorem resolveVariable_eq_error_iff {name : Option String} :
    resolveVariable name = .error error ↔
      ∃ text, name = some text ∧ (∀ c ∈ text.toList, Text.isBlank c = true) ∧
        error = .blankVariable := by
  simp only [← Text.isBlankText_iff]
  cases name with
  | none => simp [resolveVariable]
  | some text =>
      rw [resolveVariable]
      split
      · rename_i blank
        rw [Except.error.injEq, eq_comm]
        exact ⟨fun same => ⟨text, rfl, blank, same⟩, fun ⟨_, _, _, same⟩ => same⟩
      · rename_i visible
        simp [visible]

end SettingsLemmas

/-! ## Resolving -/

namespace Settings

variable {settings : Settings} {overrides : Overrides} {resolved : Resolved}
  {error : SettingsError}

/-- What resolving goes through when it succeeds. -/
theorem resolve_eq_ok (done : settings.resolve overrides = .ok resolved) :
    ∃ severity checks failOn executionVariable,
      profileSeverity? (chosen overrides.profile settings.profile "strict") = some severity ∧
      applyChecks settings.checks.entries (presetChecks severity) = .ok checks ∧
      resolveThreshold settings.failOn = .ok failOn ∧
      resolveVariable settings.executionVariable = .ok executionVariable ∧
      resolved =
        { policy :=
            { profile := chosen overrides.profile settings.profile "strict"
              failOn
              maxFindings := ((overrides.maxFindings.or settings.maxFindings).map
                UInt32.toNat).getD defaultMaxFindings
              environment := unlessEmpty (overrides.environment.or settings.environment)
              checks }
          naming :=
            { lead := unlessEmpty (overrides.lead.or settings.lead)
              executionVariable } } := by
  rw [resolve, getD_or_eq_chosen] at done
  split at done
  · exact absurd done (by simp)
  · rename_i severity profile
    split at done
    · exact absurd done (by simp)
    · rename_i checks applied
      split at done
      · exact absurd done (by simp)
      · rename_i failOn threshold
        split at done
        · exact absurd done (by simp)
        · rename_i executionVariable named
          exact ⟨severity, checks, failOn, executionVariable, profile, applied, threshold, named,
            (Except.ok.inj done).symm⟩

theorem not_faultyAt_of_resolve (done : settings.resolve overrides = .ok resolved) (place : Place)
    (error : SettingsError) : ¬settings.FaultyAt overrides place error := by
  obtain ⟨severity, checks, failOn, executionVariable, profile, applied, threshold, named, -⟩ :=
    resolve_eq_ok done
  intro fault
  cases fault with
  | profile unknown => exact unknown ⟨severity, profileSeverity?_eq_some_iff.mp profile⟩
  | severity found set unknown =>
      exact unknown (known_of_applyChecks applied (SortedMap.get?_eq_some_iff.mp found) set)
  | threshold set unknown =>
      exact unknown ⟨failOn, (resolveThreshold_eq_ok_iff.mp threshold).2 _ set⟩
  | executionVariable set blank => exact (resolveVariable_eq_ok_iff.mp named).2 _ set blank

section Stages

/-! At each stage the words of the stages before are known. -/

theorem firstFault_profile
    (unknown : ¬Known profileWords (chosen overrides.profile settings.profile "strict")) :
    FirstFault Place.Before (settings.FaultyAt overrides)
      (.unknownProfile (chosen overrides.profile settings.profile "strict")) := by
  refine ⟨.profile, .profile unknown, fun place another fault => ?_⟩
  cases fault with
  | profile => exact .inl rfl
  | severity => exact .inr (by decide : 0 < 1)
  | threshold => exact .inr (by decide : 0 < 2)
  | executionVariable => exact .inr (by decide : 0 < 3)

variable (profile : Known profileWords (chosen overrides.profile settings.profile "strict"))
include profile

theorem firstFault_severity
    (found : settings.checks.entries.findSome? severityFault? = some error) :
    FirstFault Place.Before (settings.FaultyAt overrides) error := by
  obtain ⟨⟨checkId, said⟩, member, fault, least⟩ :=
    first_of_findSome? settings.checks.ascending found
  obtain ⟨word, set, unknown, rfl⟩ := severityFault?_eq_some_iff.mp fault
  refine ⟨.severity checkId, .severity (SortedMap.get?_eq_some_iff.mpr member) set unknown, ?_⟩
  intro place another fault
  cases fault with
  | profile unknown => exact absurd profile unknown
  | severity there set unknown =>
      have inEntries := SortedMap.get?_eq_some_iff.mp there
      exact (least _ inEntries (severityFault?_ne_none _ set unknown)).imp_left fun same =>
        congrArg Place.severity (Prod.mk.inj same).1
  | threshold => exact .inr (by decide : 1 < 2)
  | executionVariable => exact .inr (by decide : 1 < 3)

variable (severities : ∀ {checkId said word}, settings.checks.get? checkId = some said →
  said.severity = some word → Known severityWords word)
include severities

theorem firstFault_threshold (failed : resolveThreshold settings.failOn = .error error) :
    FirstFault Place.Before (settings.FaultyAt overrides) error := by
  obtain ⟨word, set, unknown, rfl⟩ := resolveThreshold_eq_error_iff.mp failed
  refine ⟨.threshold, .threshold set unknown, fun place another fault => ?_⟩
  cases fault with
  | profile unknown => exact absurd profile unknown
  | severity there set unknown => exact absurd (severities there set) unknown
  | threshold => exact .inl rfl
  | executionVariable => exact .inr (by decide : 2 < 3)

theorem firstFault_executionVariable
    (threshold : ∀ {word}, settings.failOn = some word → Known thresholdWords word)
    (failed : resolveVariable settings.executionVariable = .error error) :
    FirstFault Place.Before (settings.FaultyAt overrides) error := by
  obtain ⟨name, set, blank, rfl⟩ := resolveVariable_eq_error_iff.mp failed
  refine ⟨.executionVariable, .executionVariable set blank, fun place another fault => ?_⟩
  cases fault with
  | profile unknown => exact absurd profile unknown
  | severity there set unknown => exact absurd (severities there set) unknown
  | threshold set unknown => exact absurd (threshold set) unknown
  | executionVariable => exact .inl rfl

end Stages

/-- Settings that cannot be resolved are refused for their first fault. -/
theorem firstFault_of_resolve (failed : settings.resolve overrides = .error error) :
    FirstFault Place.Before (settings.FaultyAt overrides) error := by
  rw [resolve, getD_or_eq_chosen] at failed
  split at failed
  · rename_i unread
    cases failed
    exact firstFault_profile ((eq_none_iff_not_known profileSeverity?_eq_some_iff).mp unread)
  · rename_i severity read
    have profile : Known profileWords _ := ⟨severity, profileSeverity?_eq_some_iff.mp read⟩
    split at failed
    · rename_i refused
      cases failed
      exact firstFault_severity profile (applyChecks_eq_error_iff.mp refused)
    · rename_i checks applied
      have severities {checkId said word} (there : settings.checks.get? checkId = some said) :
          said.severity = some word → Known severityWords word :=
        known_of_applyChecks applied (SortedMap.get?_eq_some_iff.mp there)
      split at failed
      · rename_i refused
        cases failed
        exact firstFault_threshold profile severities refused
      · rename_i failOn accepted
        have threshold {word} (set : settings.failOn = some word) : Known thresholdWords word :=
          ⟨failOn, (resolveThreshold_eq_ok_iff.mp accepted).2 word set⟩
        split at failed
        · rename_i refused
          cases failed
          exact firstFault_executionVariable profile severities threshold refused
        · exact absurd failed (by simp)

/-- Settings that resolve do so layer by layer. -/
theorem reflects_of_resolve (done : settings.resolve overrides = .ok resolved) :
    resolved.Reflects settings overrides := by
  obtain ⟨severity, checks, failOn, executionVariable, profile, applied, threshold, named, rfl⟩ :=
    resolve_eq_ok done
  obtain ⟨unset, set⟩ := resolveThreshold_eq_ok_iff.mp threshold
  refine ⟨rfl, unset, set, ?_, fun text => unlessEmpty_or_eq_some_iff,
    fun text => unlessEmpty_or_eq_some_iff, (resolveVariable_eq_ok_iff.mp named).1,
    severity, profileSeverity?_eq_some_iff.mp profile, fun checkId policy => ?_⟩
  · show ((overrides.maxFindings.or settings.maxFindings).map UInt32.toNat).getD 200 = _
    rw [Option.map_or, getD_or_eq_chosen]
  · exact get?_applyChecks_preset applied

end Settings

/-- The layers leave nothing open about resolved settings. -/
theorem Resolved.Reflects.unique {settings : Settings} {overrides : Overrides}
    {left right : Resolved} (first : left.Reflects settings overrides)
    (second : right.Reflects settings overrides) : left = right := by
  have failOn : left.policy.failOn = right.policy.failOn := Except.ok.inj <|
    (resolveThreshold_eq_ok_iff.mpr ⟨first.unsetThreshold, first.setThreshold⟩).symm.trans
      (resolveThreshold_eq_ok_iff.mpr ⟨second.unsetThreshold, second.setThreshold⟩)
  have environment : left.policy.environment = right.policy.environment :=
    Option.ext fun text => (first.environment text).trans (second.environment text).symm
  have lead : left.naming.lead = right.naming.lead :=
    Option.ext fun text => (first.lead text).trans (second.lead text).symm
  have profile := first.profile.trans second.profile.symm
  have checks : left.policy.checks = right.policy.checks := by
    obtain ⟨severity, preset, policies⟩ := first.checks
    obtain ⟨other, otherPreset, otherPolicies⟩ := second.checks
    rw [← profileSeverity?_eq_some_iff] at preset otherPreset
    obtain rfl := Option.some.inj (preset.symm.trans (profile ▸ otherPreset))
    refine SortedMap.ext_get? fun checkId => Option.ext fun policy => ?_
    exact (policies checkId policy).trans (otherPolicies checkId policy).symm
  have maxFindings := first.maxFindings.trans second.maxFindings.symm
  have executionVariable := first.executionVariable.trans second.executionVariable.symm
  obtain ⟨⟨_, _, _, _, _⟩, ⟨_, _⟩⟩ := left
  obtain ⟨⟨_, _, _, _, _⟩, ⟨_, _⟩⟩ := right
  rw [mk.injEq, Policy.mk.injEq, Naming.mk.injEq]
  exact ⟨⟨profile, failOn, maxFindings, environment, checks⟩, lead, executionVariable⟩

namespace Settings

/-- Settings resolve exactly when they are acceptable, and then layer by layer; otherwise the error
is their first fault. -/
theorem resolve_decides_acceptability (settings : Settings) (overrides : Overrides) :
    (∀ resolved, settings.resolve overrides = .ok resolved ↔
      settings.Acceptable overrides ∧ resolved.Reflects settings overrides) ∧
      ((∃ resolved, settings.resolve overrides = .ok resolved) ↔ settings.Acceptable overrides) ∧
      ∀ error, settings.resolve overrides = .error error ↔
        FirstFault Place.Before (settings.FaultyAt overrides) error :=
  (settings.faultOrder overrides).determines firstFault_of_resolve not_faultyAt_of_resolve
    acceptable_iff_forall_not_faultyAt reflects_of_resolve Resolved.Reflects.unique

/-! ## Layers that hide each other -/

/-- A file that turns a known check off, says how bad the faults of another are, turns on a check
that is not known, and is silent about the others. -/
def layeredSettings : Settings :=
  { Settings.empty with
    profile := some "strict"
    failOn := some "warn"
    maxFindings := some 7
    environment := some "prod"
    lead := some "APP_"
    checks := .ofList [("config.enum", ⟨some false, none⟩), ("contract.deny", ⟨none, some "info"⟩),
      ("house.rule", ⟨some true, none⟩)] }

/-- Another profile is set from outside, and an empty environment. -/
def layeredOverrides : Overrides :=
  { Overrides.none with profile := some "warn", environment := some "" }

/-- What the file and the overrides resolve to. -/
def layeredResolved : Resolved :=
  { policy :=
      { profile := "warn"
        failOn := .warning
        maxFindings := 7
        environment := none
        checks := .ofList [("config.enum", ⟨false, .warning⟩),
          ("config.required", ⟨true, .warning⟩), ("contract.allow", ⟨true, .warning⟩),
          ("contract.deny", ⟨true, .info⟩), ("house.rule", ⟨true, .info⟩),
          ("invariant.rule", ⟨true, .warning⟩)] }
    naming := ⟨some "APP_", "EXECUTION_ENV"⟩ }

/-- The same file with faults in the check that is not known, in the threshold and in the
variable. -/
def misspelledSettings : Settings :=
  { layeredSettings with
    failOn := some "never"
    executionVariable := some " "
    checks := .ofList [("config.enum", ⟨some false, some "warn"⟩),
      ("house.rule", ⟨some false, some "fatal"⟩)] }

/-- The empty environment hides the one of the file, and the severity of a check that is not known
is the first of three faults. -/
theorem layeredSettings_resolved :
    layeredSettings.Acceptable layeredOverrides ∧
      layeredResolved.Reflects layeredSettings layeredOverrides ∧
      FirstFault Place.Before (misspelledSettings.FaultyAt layeredOverrides)
        (.unknownSeverity "house.rule" "fatal") := by
  have worked : layeredSettings.resolve layeredOverrides = .ok layeredResolved := rfl
  have failed : misspelledSettings.resolve layeredOverrides =
      .error (.unknownSeverity "house.rule" "fatal") := rfl
  obtain ⟨acceptable, reflects⟩ :=
    ((resolve_decides_acceptability layeredSettings layeredOverrides).1 _).mp worked
  exact ⟨acceptable, reflects,
    ((resolve_decides_acceptability misspelledSettings layeredOverrides).2.2 _).mp failed⟩

end Settings

end ConfigGate
