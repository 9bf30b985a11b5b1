import ConfigGate.Proofs.Json.Masks
import ConfigGate.Report.Normalize

/-!
# What is masked in a report

Two masks make up what changes from run to run: the texts of times, which are masked in every value
and at any depth, and the version of the tool, which is masked where the value as a whole has the
names of a report, and in its own place only. Normalizing a value puts these masks and changes
nothing else. The names of a value stay, so what was a report before is one after, and nothing is
left to normalize.

Results:
1. `masks_maskTimes`, `masks_maskVersion`: the two masks, each put by its own function;
2. `normalize_masks`: normalizing puts both, once and for all, and makes values the same that differ
   in nothing else.
-/

namespace ConfigGate.Report

open Json

/-! ## The masks -/

/-- A text for every place to which a step to a member that holds a time leads. -/
def timeMask : Mask := fun path =>
  if path.getLast?.bind Step.name? ∈ [some "started_at", some "finished_at"] then
    some "__TIMESTAMP__"
  else none

/-- A text for the place to which members of these names lead. -/
def namedMask (names : List String) (text : String) : Mask := fun path =>
  if path.map Step.name? = names.map some then some text else none

/-- Whether a value with this label is an object that has all names of a report. -/
def isReportLabel : Label → Bool
  | .object names =>
      ["schema", "tool", "verdict", "findings", "data"].all fun name => names.contains name
  | _ => false

/-- A text for the version of the tool in a report, and for nothing in any other value. -/
def versionMask (label : Label) : Mask :=
  if isReportLabel label then namedMask ["tool", "version"] "__VERSION__" else fun _ => none

/-- What changes from run to run in a value with this label. -/
def volatileMask (label : Label) : Mask := (versionMask label).followedBy timeMask

variable {value child : Json} {step : Step} {path : List Step} {text name : String}
  {names : List String} {members : List (String × Json)}

/-! ## Times -/

theorem maskItemTimes_eq_map (items : List Json) : maskItemTimes items = items.map maskTimes := by
  induction items with
  | nil => rfl
  | cons item rest ih => rw [maskItemTimes, ih, List.map_cons]

theorem maskMemberTimes_eq_map (members : List (String × Json)) :
    maskMemberTimes members = members.map fun member =>
      (member.1, if isTimeName member.1 then maskedTime else maskTimes member.2) := by
  induction members with
  | nil => rfl
  | cons member rest ih => rw [maskMemberTimes, ih, List.map_cons]

theorem label_maskTimes (value : Json) : (maskTimes value).label = value.label := by
  cases value with
  | array items => rw [maskTimes, maskItemTimes_eq_map, label, label, List.length_map]
  | object members =>
      rw [maskTimes, maskMemberTimes_eq_map]
      exact label_object_map (fun name value =>
        if isTimeName name then maskedTime else maskTimes value) members
  | null | bool | int | float | text => rfl

/-- Inside a value a time is masked as a whole, and in all else the times are. -/
theorem child?_maskTimes (step : Step) (value : Json) :
    (maskTimes value).child? step = (value.child? step).map fun child =>
      if step.name?.any isTimeName then maskedTime else maskTimes child := by
  cases value with
  | array items =>
      rw [maskTimes, maskItemTimes_eq_map]
      cases step with
      | item position => exact List.getElem?_map
      | member position name => rfl
  | object members =>
      rw [maskTimes, maskMemberTimes_eq_map]
      cases step with
      | item position => rfl
      | member position name =>
          exact child?_object_map (fun name value =>
            if isTimeName name then maskedTime else maskTimes value) members position name
  | null | bool | int | float | text => cases step <;> rfl

theorem any_isTimeName_iff (step : Step) :
    step.name?.any isTimeName = true ↔
      step.name? ∈ [some "started_at", some "finished_at"] := by
  cases step <;> simp [Step.name?, isTimeName]

theorem timeMask_behind_of_time (time : step.name?.any isTimeName = true) :
    timeMask.behind step [] = some "__TIMESTAMP__" :=
  if_pos ((any_isTimeName_iff step).mp time)

/-- Behind any other step the mask goes on as it is. -/
theorem timeMask_behind_of_other (other : ¬step.name?.any isTimeName = true) :
    timeMask.behind step = timeMask := by
  funext path
  cases path with
  | nil => exact if_neg fun time => other ((any_isTimeName_iff step).mpr time)
  | cons next rest => rw [Mask.behind, timeMask, timeMask, List.getLast?_cons_cons]

/-- Masking times puts the mask of times. -/
theorem masks_maskTimes (value : Json) : Masks timeMask value (maskTimes value) := by
  induction value using childInduction with
  | inside value ih =>
      refine .of_children rfl (label_maskTimes value) fun step => ?_
      rw [child?_maskTimes]
      cases found : value.child? step with
      | none => exact .none
      | some child =>
          refine .some ?_
          split
          · rename_i time
            exact .root (timeMask_behind_of_time time) child
          · rename_i other
            rw [timeMask_behind_of_other other]
            exact ih step child found

/-! ## The version -/

/-- The value with the values of the members of a name changed. -/
def changeMember (name : String) (change : Json → Json) : Json → Json
  | .object members =>
      .object (members.map fun member =>
        (member.1, if member.1 = name then change member.2 else member.2))
  | value => value

theorem label_changeMember (name : String) (change : Json → Json) (value : Json) :
    (changeMember name change value).label = value.label := by
  cases value with
  | object members =>
      exact label_object_map (fun other value => if other = name then change value else value)
        members
  | null | bool | int | float | text | array => rfl

theorem child?_changeMember (name : String) (change : Json → Json) (step : Step) (value : Json) :
    (changeMember name change value).child? step = (value.child? step).map fun child =>
      if step.name? = some name then change child else child := by
  cases step with
  | item position => cases value <;> simp [changeMember, child?, Step.name?]
  | member position other =>
      cases value with
      | object members =>
          simp only [Step.name?, Option.some.injEq]
          exact child?_object_map (fun other value => if other = name then change value else value)
            members position other
      | null | bool | int | float | text | array => rfl

theorem namedMask_behind (step : Step) (name : String) (names : List String) (text : String) :
    (namedMask (name :: names) text).behind step =
      if step.name? = some name then namedMask names text else fun _ => none := by
  funext path
  by_cases named : step.name? = some name
  · simp only [Mask.behind, namedMask, List.map_cons, named, List.cons.injEq, true_and, if_true]
  · simp only [Mask.behind, namedMask, List.map_cons, named, List.cons.injEq, false_and, if_false]

/-- Changing a member by a function that puts a mask puts that mask behind the name. -/
theorem masks_changeMember {change : Json → Json}
    (masks : ∀ child, Masks (namedMask names text) child (change child)) (value : Json) :
    Masks (namedMask (name :: names) text) value (changeMember name change value) := by
  refine .of_children rfl (label_changeMember name change value) fun step => ?_
  rw [child?_changeMember, namedMask_behind]
  cases value.child? step with
  | none => exact .none
  | some child =>
      refine .some ?_
      split
      · exact masks child
      · exact .refl (fun _ => rfl) child

theorem maskToolVersion_eq_changeMember (value : Json) :
    maskToolVersion value = changeMember "version" (fun _ => maskedVersion) value := by
  cases value with
  | object members =>
      refine congrArg object (List.map_congr_left fun member _ => ?_)
      split <;> rfl
  | null | bool | int | float | text | array => rfl

theorem maskVersion_of_report (report : isEnvelope members = true) :
    maskVersion (.object members) = changeMember "tool" maskToolVersion (.object members) := by
  rw [maskVersion, if_pos report]
  refine congrArg object (List.map_congr_left fun member _ => ?_)
  split <;> rfl

theorem isSome_lookupEntry (name : String) (members : List (String × Json)) :
    (lookupEntry name members).isSome = (members.map (·.1)).contains name := by
  induction members with
  | nil => rfl
  | cons member rest ih =>
      rw [lookupEntry, List.map_cons, List.contains_cons, ← ih]
      by_cases same : member.1 = name
      · simp [same]
      · simp [same, Ne.symm same]

theorem isReportLabel_object (members : List (String × Json)) :
    isReportLabel (object members).label = isEnvelope members := by
  simp only [label, isReportLabel, isEnvelope, isSome_lookupEntry]

/-- Masking the version puts the mask of the version. -/
theorem masks_maskVersion (value : Json) :
    Masks (versionMask value.label) value (maskVersion value) := by
  cases value with
  | object members =>
      rw [versionMask, isReportLabel_object]
      split
      · rename_i report
        rw [maskVersion_of_report report]
        refine masks_changeMember (fun tool => ?_) _
        rw [maskToolVersion_eq_changeMember]
        exact masks_changeMember (fun version => .root rfl version) tool
      · rename_i other
        rw [maskVersion, if_neg other]
        exact .refl (fun _ => rfl) _
  | null | bool | int | float | text | array => exact .refl (fun _ => rfl) _

/-! ## Normalizing -/

/-- Normalizing puts both masks. -/
theorem masks_normalize (value : Json) :
    Masks (volatileMask value.label) value (normalize value) :=
  (masks_maskVersion value).trans (masks_maskTimes _)

theorem volatileMask_nil (label : Label) : volatileMask label [] = none := by
  rw [volatileMask, Mask.followedBy, versionMask]
  split <;> rfl

theorem label_normalize (value : Json) : (normalize value).label = value.label :=
  Option.some.inj
    ((masks_normalize value).elsewhere [] (volatileMask_nil _) (Mask.not_inside_nil _))

/-- What is masked in a value is masked in it once it is normalized. -/
theorem masks_normalize_again (value : Json) :
    Masks (volatileMask value.label) (normalize value) (normalize (normalize value)) := by
  have masks := masks_normalize (normalize value)
  rw [label_normalize] at masks
  exact masks

/-- Normalizing a value masks what changes from run to run, in the places where it stands, and
nothing else; normalizing it again changes nothing; and values are the same when normalized exactly
if they agree on all that is not masked. -/
theorem normalize_masks (value : Json) :
    Masks (volatileMask value.label) value (normalize value) ∧
      normalize (normalize value) = normalize value ∧
      ∀ other, normalize value = normalize other ↔
        (volatileMask value.label).Agree value other := by
  refine ⟨masks_normalize value, ?_, fun other => ⟨fun same => ?_, fun agree => ?_⟩⟩
  · exact (masks_normalize_again value).unique (masks_normalize value).again
  · have labels : other.label = value.label := by
      rw [← label_normalize, ← same, label_normalize]
    exact ((masks_normalize value).eq_iff (labels ▸ masks_normalize other)).mp same
  · have labels : value.label = other.label :=
      Option.some.inj (agree [] (volatileMask_nil _) (Mask.not_inside_nil _))
    have otherMasks := masks_normalize other
    rw [← labels] at otherMasks
    exact ((masks_normalize value).eq_iff otherMasks).mpr agree

/-- The version of the tool is masked as a whole, a time next to it as well, and a version that is
not that of the tool stays. -/
example :
    normalize (.object [("data", .array [.object [("started_at", .int 1)]]), ("findings", .null),
      ("schema", .null), ("tool", .object [("finished_at", .null),
        ("version", .object [("started_at", .null), ("version", .int 2)])]),
      ("verdict", .null), ("version", .text "1")]) =
    .object [("data", .array [.object [("started_at", .text "__TIMESTAMP__")]]),
      ("findings", .null), ("schema", .null),
      ("tool", .object [("finished_at", .text "__TIMESTAMP__"), ("version", .text "__VERSION__")]),
      ("verdict", .null), ("version", .text "1")] := by
  rfl

end ConfigGate.Report
