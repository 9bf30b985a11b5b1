import ConfigGate.Report.Annotations

/-!
# Escapes and how they are undone

A text is escaped by replacing one character after the other, each wherever it stands, by a code of
a percent sign and two characters. Percent signs come first, so that every percent sign begins a
code from then on, also where the text looked as if it held codes. The codes are undone in the
reverse order, percent signs last.

Results:
1. `undoAll_replaceAll`: if the codes can be told apart, undoing them gives the text back;
2. `escapeBody_eq_replaceAll`, `escapeProperty_eq_replaceAll`: annotations are escaped in this way;
3. `unescapeBody_escapeBody`, `unescapeProperty_escapeProperty`: so their texts can be read.
-/

namespace ConfigGate.Annotation

/-! ## Codes -/

/-- A character to escape, and the two characters behind the percent sign of its code. -/
structure Code where
  char : Char
  first : Char
  second : Char
  first_plain : first ≠ '%' := by decide
  second_plain : second ≠ '%' := by decide

namespace Code

/-- Replaces the character by its code wherever it stands. -/
def replace (code : Code) (cs : List Char) : List Char :=
  cs.flatMap fun c => if c = code.char then ['%', code.first, code.second] else [c]

/-- Replaces the code by its character wherever it stands. -/
def undo (code : Code) : List Char → List Char
  | c :: first :: second :: rest =>
      if c = '%' ∧ first = code.first ∧ second = code.second then code.char :: undo code rest
      else c :: undo code (first :: second :: rest)
  | cs => cs

/-- `code.Fresh earlier`: the code can be told from those that are there before. It is another one,
and the character that it replaces is neither part of them nor the percent sign. -/
structure Fresh (code : Code) (earlier : List Code) : Prop where
  char : code.char ≠ '%'
  unused : ∀ other ∈ earlier, other.first ≠ code.char ∧ other.second ≠ code.char
  distinct : ∀ other ∈ earlier, ¬(other.first = code.first ∧ other.second = code.second)

end Code

/-- Escapes with one code after the other. -/
def replaceAll (codes : List Code) (cs : List Char) : List Char :=
  codes.foldl (fun cs code => code.replace cs) cs

/-- Undoes the codes, the last of them first. -/
def undoAll (codes : List Code) (cs : List Char) : List Char :=
  codes.foldr (fun code cs => code.undo cs) cs

/-- `Coded codes cs`: every percent sign begins one of the codes. -/
inductive Coded (codes : List Code) : List Char → Prop
  | nil : Coded codes []
  | plain {c : Char} {rest : List Char} : c ≠ '%' → Coded codes rest → Coded codes (c :: rest)
  | code {code : Code} {rest : List Char} : code ∈ codes → Coded codes rest →
      Coded codes ('%' :: code.first :: code.second :: rest)

/-- `Separate earlier codes`: each code is fresh when its turn comes. -/
def Separate (earlier : List Code) : List Code → Prop
  | [] => True
  | code :: later => code.Fresh earlier ∧ Separate (code :: earlier) later

/-! ## One code -/

namespace Code

variable {code : Code} {cs rest : List Char}

theorem replace_cons_self (code : Code) (rest : List Char) :
    code.replace (code.char :: rest) = '%' :: code.first :: code.second :: code.replace rest := by
  rw [replace, List.flatMap_cons, if_pos rfl]
  rfl

theorem replace_cons_ne {c : Char} (other : c ≠ code.char) (rest : List Char) :
    code.replace (c :: rest) = c :: code.replace rest := by
  rw [replace, List.flatMap_cons, if_neg other]
  rfl

theorem undo_cons_self (code : Code) (rest : List Char) :
    code.undo ('%' :: code.first :: code.second :: rest) = code.char :: code.undo rest := by
  rw [undo, if_pos ⟨rfl, rfl, rfl⟩]

theorem undo_cons_plain {c : Char} (plain : c ≠ '%') (rest : List Char) :
    code.undo (c :: rest) = c :: code.undo rest := by
  rcases rest with _ | ⟨first, _ | ⟨second, rest⟩⟩
  · rfl
  · rfl
  · rw [undo, if_neg fun same => plain same.1]

/-- A percent sign that does not begin the code stays. -/
theorem undo_cons_percent {first second : Char}
    (other : ¬(first = code.first ∧ second = code.second)) (rest : List Char) :
    code.undo ('%' :: first :: second :: rest) = '%' :: code.undo (first :: second :: rest) := by
  rw [undo, if_neg fun same => other same.2]

/-- One character further, unless it is a percent sign that stays. -/
theorem undo_replace_cons {codes : List Code} {c : Char} (listed : code ∈ codes)
    (sort : c = code.char ∨ c ≠ '%')
    (further : code.undo (code.replace rest) = rest ∧ Coded codes (code.replace rest)) :
    code.undo (code.replace (c :: rest)) = c :: rest ∧ Coded codes (code.replace (c :: rest)) := by
  obtain ⟨undone, coded⟩ := further
  by_cases same : c = code.char
  · subst same
    rw [replace_cons_self, undo_cons_self, undone]
    exact ⟨rfl, .code listed coded⟩
  · have plain := sort.resolve_left same
    rw [replace_cons_ne same, undo_cons_plain plain, undone]
    exact ⟨rfl, .plain plain coded⟩

/-- The first code: whatever the text holds, every percent sign is part of a code afterwards. -/
theorem undo_replace_percent (percent : code.char = '%') (cs : List Char) :
    code.undo (code.replace cs) = cs ∧ Coded [code] (code.replace cs) := by
  induction cs with
  | nil => exact ⟨rfl, .nil⟩
  | cons c rest ih =>
      have sort : c = code.char ∨ c ≠ '%' := percent ▸ Decidable.em (c = code.char)
      exact undo_replace_cons List.mem_cons_self sort ih

/-- Any other code: it stands where its character was and nowhere else, so it can be undone. -/
theorem Fresh.undo_replace {earlier : List Code} (fresh : code.Fresh earlier)
    (coded : Coded earlier cs) :
    code.undo (code.replace cs) = cs ∧ Coded (code :: earlier) (code.replace cs) := by
  induction coded with
  | nil => exact ⟨rfl, .nil⟩
  | plain plain _ ih => exact undo_replace_cons List.mem_cons_self (.inr plain) ih
  | @code other rest member _ ih =>
      obtain ⟨undone, coded⟩ := ih
      obtain ⟨firstUnused, secondUnused⟩ := fresh.unused other member
      rw [replace_cons_ne fresh.char.symm, replace_cons_ne firstUnused,
        replace_cons_ne secondUnused, undo_cons_percent (fresh.distinct other member),
        undo_cons_plain other.first_plain, undo_cons_plain other.second_plain, undone]
      exact ⟨rfl, .code (List.mem_cons_of_mem code member) coded⟩

end Code

/-! ## One code after the other -/

theorem undoAll_replaceAll_of_coded {earlier later : List Code} (separate : Separate earlier later)
    {cs : List Char} (coded : Coded earlier cs) : undoAll later (replaceAll later cs) = cs := by
  induction later generalizing earlier cs with
  | nil => rfl
  | cons code later ih =>
      obtain ⟨fresh, separate⟩ := separate
      obtain ⟨undone, coded⟩ := fresh.undo_replace coded
      show code.undo (undoAll later (replaceAll later (code.replace cs))) = cs
      rw [ih separate coded, undone]

/-- Codes that can be told apart, the first of them that of percent signs, are undone without loss,
whatever the text holds. -/
theorem undoAll_replaceAll {code : Code} {later : List Code} (percent : code.char = '%')
    (separate : Separate [code] later) (cs : List Char) :
    undoAll (code :: later) (replaceAll (code :: later) cs) = cs := by
  obtain ⟨undone, coded⟩ := code.undo_replace_percent percent cs
  show code.undo (undoAll later (replaceAll later (code.replace cs))) = cs
  rw [undoAll_replaceAll_of_coded separate coded, undone]

/-- Replacing goes character by character. -/
theorem replaceAll_eq_flatMap (codes : List Code) (cs : List Char) :
    replaceAll codes cs = cs.flatMap fun c => replaceAll codes [c] := by
  induction codes generalizing cs with
  | nil => exact (List.flatMap_singleton' cs).symm
  | cons code codes ih =>
      show replaceAll codes (code.replace cs) =
        cs.flatMap fun c => replaceAll codes (code.replace [c])
      rw [ih, Code.replace, List.flatMap_assoc]
      congr 1
      funext c
      rw [ih (code.replace [c]), Code.replace, List.flatMap_singleton]

/-- A character without a code stays. -/
theorem replaceAll_of_ne {codes : List Code} {c : Char} (other : ∀ code ∈ codes, c ≠ code.char) :
    replaceAll codes [c] = [c] := by
  induction codes with
  | nil => rfl
  | cons code codes ih =>
      obtain ⟨here, later⟩ := List.forall_mem_cons.mp other
      show replaceAll codes (code.replace [c]) = [c]
      rw [Code.replace_cons_ne here]
      exact ih later

/-! ## Annotations -/

namespace Code

def percent : Code := { char := '%', first := '2', second := '5' }

def carriageReturn : Code := { char := '\r', first := '0', second := 'D' }

def lineFeed : Code := { char := '\n', first := '0', second := 'A' }

def colon : Code := { char := ':', first := '3', second := 'A' }

def comma : Code := { char := ',', first := '2', second := 'C' }

end Code

open Code in
/-- The codes of the body, in the order of their turns. -/
def bodyCodes : List Code := [percent, carriageReturn, lineFeed]

open Code in
/-- The codes of properties, in the order of their turns: those of the body come first. -/
def propertyCodes : List Code := bodyCodes ++ [colon, comma]

/-- A text of the body with the codes undone. -/
def unescapeBody (text : List Char) : String := String.ofList (undoAll bodyCodes text)

/-- A property with the codes undone. -/
def unescapeProperty (text : List Char) : String := String.ofList (undoAll propertyCodes text)

theorem replaceAll_bodyCodes (c : Char) : replaceAll bodyCodes [c] = bodyChar c := by
  unfold bodyChar
  iterate 3
    split
    · rename_i equal
      subst equal
      rfl
  rename_i percent carriageReturn lineFeed
  refine replaceAll_of_ne ?_
  simp only [bodyCodes, List.forall_mem_cons]
  exact ⟨percent, carriageReturn, lineFeed, nofun⟩

theorem replaceAll_propertyCodes (c : Char) : replaceAll propertyCodes [c] = propertyChar c := by
  unfold propertyChar bodyChar
  iterate 5
    split
    · rename_i equal
      subst equal
      rfl
  rename_i colon comma percent carriageReturn lineFeed
  refine replaceAll_of_ne ?_
  simp only [propertyCodes, bodyCodes, List.cons_append, List.nil_append, List.forall_mem_cons]
  exact ⟨percent, carriageReturn, lineFeed, colon, comma, nofun⟩

/-- The body is escaped by three replacements in turn. -/
theorem escapeBody_eq_replaceAll (text : String) :
    (escapeBody text).toList = replaceAll bodyCodes text.toList := by
  rw [escapeBody, String.toList_ofList, replaceAll_eq_flatMap]
  simp only [replaceAll_bodyCodes]

/-- A property is escaped by five replacements in turn. -/
theorem escapeProperty_eq_replaceAll (text : String) :
    (escapeProperty text).toList = replaceAll propertyCodes text.toList := by
  rw [escapeProperty, String.toList_ofList, replaceAll_eq_flatMap]
  simp only [replaceAll_propertyCodes]

open Code in
/-- The codes of properties can be told apart, and so can those of the body. -/
theorem separate_codes : Separate [percent] [carriageReturn, lineFeed, colon, comma] := by
  have carriageReturn : carriageReturn.Fresh [percent] := ⟨by decide, by decide, by decide⟩
  have lineFeed : lineFeed.Fresh [Code.carriageReturn, percent] :=
    ⟨by decide, by decide, by decide⟩
  have colon : colon.Fresh [Code.lineFeed, Code.carriageReturn, percent] :=
    ⟨by decide, by decide, by decide⟩
  have comma : comma.Fresh [Code.colon, Code.lineFeed, Code.carriageReturn, percent] :=
    ⟨by decide, by decide, by decide⟩
  exact ⟨carriageReturn, lineFeed, colon, comma, trivial⟩

theorem unescapeBody_escapeBody (text : String) :
    unescapeBody (escapeBody text).toList = text := by
  obtain ⟨carriageReturn, lineFeed, -⟩ := separate_codes
  have separate : Separate [Code.percent] [Code.carriageReturn, Code.lineFeed] :=
    ⟨carriageReturn, lineFeed, trivial⟩
  have undone : undoAll bodyCodes (replaceAll bodyCodes text.toList) = text.toList :=
    undoAll_replaceAll rfl separate text.toList
  rw [unescapeBody, escapeBody_eq_replaceAll, undone, String.ofList_toList]

theorem unescapeProperty_escapeProperty (text : String) :
    unescapeProperty (escapeProperty text).toList = text := by
  have undone : undoAll propertyCodes (replaceAll propertyCodes text.toList) = text.toList :=
    undoAll_replaceAll rfl separate_codes text.toList
  rw [unescapeProperty, escapeProperty_eq_replaceAll, undone, String.ofList_toList]

/-! ## Characters that do not occur -/

theorem ne_of_mem_bodyChar {c d : Char} (member : d ∈ bodyChar c) : d ≠ '\r' ∧ d ≠ '\n' := by
  unfold bodyChar at member
  iterate 3
    split at member
    · simp only [List.mem_cons, List.not_mem_nil, or_false] at member
      rcases member with rfl | rfl | rfl <;> decide
  rename_i carriageReturn lineFeed
  obtain rfl := List.mem_singleton.mp member
  exact ⟨carriageReturn, lineFeed⟩

theorem ne_of_mem_propertyChar {c d : Char} (member : d ∈ propertyChar c) :
    d ≠ '\r' ∧ d ≠ '\n' ∧ d ≠ ':' ∧ d ≠ ',' := by
  unfold propertyChar bodyChar at member
  iterate 5
    split at member
    · simp only [List.mem_cons, List.not_mem_nil, or_false] at member
      rcases member with rfl | rfl | rfl <;> decide
  rename_i colon comma _ carriageReturn lineFeed
  obtain rfl := List.mem_singleton.mp member
  exact ⟨carriageReturn, lineFeed, colon, comma⟩

/-- The body has no line ends. -/
theorem ne_of_mem_escapeBody {text : String} {c : Char} (member : c ∈ (escapeBody text).toList) :
    c ≠ '\r' ∧ c ≠ '\n' := by
  rw [escapeBody, String.toList_ofList] at member
  obtain ⟨_, -, member⟩ := List.mem_flatMap.mp member
  exact ne_of_mem_bodyChar member

/-- A property has no line ends, and nothing that ends properties. -/
theorem ne_of_mem_escapeProperty {text : String} {c : Char}
    (member : c ∈ (escapeProperty text).toList) : c ≠ '\r' ∧ c ≠ '\n' ∧ c ≠ ':' ∧ c ≠ ',' := by
  rw [escapeProperty, String.toList_ofList] at member
  obtain ⟨_, -, member⟩ := List.mem_flatMap.mp member
  exact ne_of_mem_propertyChar member

end ConfigGate.Annotation
