/-!
# Maps with text keys in code-point order

A `SortedMap` is a list of entries whose keys strictly ascend, so every map has one representation
and its entries are visited in key order. Inserting a key that is present replaces its value.

Results:
1. `get?_insert_self`, `get?_insert_ne`: insertion changes one key only;
2. `ext_get?`: maps that answer every look-up alike are equal;
3. `get?_mapValues`, `eq_mapValues_iff`: changing every value changes what each look-up finds;
4. `get?_ofList_cons`, `get?_ofList_append`: of a repeated key the last entry counts;
5. `ofList_entries`: a map is the map of its entries;
6. `filter_entries_eq`: maps that agree on some keys have the same entries under them;
7. `get?_setEntry`: replacing or removing an entry changes one key only.
-/

namespace ConfigGate

/-- Replaces the value of `key`, or puts a new entry where the keys keep ascending. -/
def insertEntry {α : Type u} (key : String) (value : α) :
    List (String × α) → List (String × α)
  | [] => [(key, value)]
  | (k, v) :: rest =>
      if key < k then (key, value) :: (k, v) :: rest
      else if key = k then (key, value) :: rest
      else (k, v) :: insertEntry key value rest

/-- The value of the first entry under `key`. -/
def lookupEntry {α : Type u} (key : String) : List (String × α) → Option α
  | [] => none
  | (k, v) :: rest => if k = key then some v else lookupEntry key rest

/-- A finite map from text to `α`, held as its entries in ascending key order. -/
structure SortedMap (α : Type u) where
  entries : List (String × α)
  ascending : entries.Pairwise (fun a b => a.1 < b.1) := by exact List.Pairwise.nil

deriving instance DecidableEq for SortedMap

/-! ## Entry lists -/

namespace SortedMapLemmas

variable {α : Type u}

theorem mem_insertEntry {key : String} {value : α} {entry : String × α}
    {entries : List (String × α)} (member : entry ∈ insertEntry key value entries) :
    entry = (key, value) ∨ entry ∈ entries := by
  induction entries with
  | nil => simpa [insertEntry] using member
  | cons head rest ih =>
      obtain ⟨k, v⟩ := head
      simp only [insertEntry] at member
      split at member
      · simpa using member
      · split at member
        · simp only [List.mem_cons] at member ⊢
          exact member.elim Or.inl fun inRest => Or.inr (Or.inr inRest)
        · simp only [List.mem_cons] at member ⊢
          cases member with
          | inl equal => exact Or.inr (Or.inl equal)
          | inr inRest => exact (ih inRest).imp_right Or.inr

theorem insertEntry_ascending (key : String) (value : α) {entries : List (String × α)}
    (ascending : entries.Pairwise (fun a b => a.1 < b.1)) :
    (insertEntry key value entries).Pairwise (fun a b => a.1 < b.1) := by
  induction entries with
  | nil => simp [insertEntry]
  | cons head rest ih =>
      obtain ⟨k, v⟩ := head
      obtain ⟨below, restAscending⟩ := List.pairwise_cons.mp ascending
      simp only [insertEntry]
      split
      · rename_i less
        refine List.pairwise_cons.mpr ⟨fun entry member => ?_, ascending⟩
        cases List.mem_cons.mp member with
        | inl equal => subst equal; exact less
        | inr inRest => exact String.lt_trans less (below entry inRest)
      · split
        · rename_i equal
          subst equal
          exact List.pairwise_cons.mpr ⟨below, restAscending⟩
        · rename_i notLess notEqual
          refine List.pairwise_cons.mpr ⟨fun entry member => ?_, ih restAscending⟩
          cases mem_insertEntry member with
          | inl equal => subst equal; show k < key; grind
          | inr inRest => exact below entry inRest

theorem lookupEntry_insertEntry_self (key : String) (value : α) (entries : List (String × α)) :
    lookupEntry key (insertEntry key value entries) = some value := by
  induction entries with
  | nil => simp [insertEntry, lookupEntry]
  | cons head rest ih =>
      obtain ⟨k, v⟩ := head
      simp only [insertEntry]
      split
      · simp [lookupEntry]
      · split
        · simp [lookupEntry]
        · rename_i notEqual
          simp [lookupEntry, Ne.symm notEqual, ih]

theorem lookupEntry_insertEntry_ne {key other : String} (value : α)
    (entries : List (String × α)) (different : key ≠ other) :
    lookupEntry other (insertEntry key value entries) = lookupEntry other entries := by
  induction entries with
  | nil => simp [insertEntry, lookupEntry, different]
  | cons head rest ih =>
      obtain ⟨k, v⟩ := head
      simp only [insertEntry]
      split
      · simp [lookupEntry, different]
      · split
        · rename_i equal
          subst equal
          simp [lookupEntry, different]
        · by_cases found : k = other <;> simp [lookupEntry, found, ih]

theorem lookupEntry_eq_some_iff {key : String} {value : α} {entries : List (String × α)}
    (ascending : entries.Pairwise (fun a b => a.1 < b.1)) :
    lookupEntry key entries = some value ↔ (key, value) ∈ entries := by
  induction entries with
  | nil => simp [lookupEntry]
  | cons head rest ih =>
      obtain ⟨k, v⟩ := head
      obtain ⟨below, restAscending⟩ := List.pairwise_cons.mp ascending
      by_cases found : k = key
      · subst found
        have notInRest : (k, value) ∉ rest := fun member =>
          String.lt_irrefl k (below (k, value) member)
        simp [lookupEntry, notInRest, eq_comm]
      · simp [lookupEntry, found, ih restAscending, Ne.symm found]

theorem lookupEntry_eq_none_of_below {key : String} {entries : List (String × α)}
    (below : ∀ entry ∈ entries, key < entry.1) : lookupEntry key entries = none := by
  induction entries with
  | nil => rfl
  | cons head rest ih =>
      obtain ⟨headBelow, restBelow⟩ := List.forall_mem_cons.mp below
      have different : head.1 ≠ key := fun same => String.lt_irrefl key (same ▸ headBelow)
      rw [lookupEntry, if_neg different, ih restBelow]

/-- Ascending entry lists with the same members are equal. -/
theorem eq_of_mem_iff {left right : List (String × α)}
    (leftAscending : left.Pairwise (fun a b => a.1 < b.1))
    (rightAscending : right.Pairwise (fun a b => a.1 < b.1))
    (same : ∀ entry, entry ∈ left ↔ entry ∈ right) : left = right := by
  induction left generalizing right with
  | nil =>
      cases right with
      | nil => rfl
      | cons head rest => exact absurd ((same head).mpr (by simp)) (by simp)
  | cons head rest ih =>
      cases right with
      | nil => exact absurd ((same head).mp (by simp)) (by simp)
      | cons head' rest' =>
          obtain ⟨below, restAscending⟩ := List.pairwise_cons.mp leftAscending
          obtain ⟨below', restAscending'⟩ := List.pairwise_cons.mp rightAscending
          have headsEqual : head = head' := by
            cases List.mem_cons.mp ((same head).mp (by simp)) with
            | inl equal => exact equal
            | inr inRest' =>
                cases List.mem_cons.mp ((same head').mpr (by simp)) with
                | inl equal => exact equal.symm
                | inr inRest =>
                    exact absurd (below head' inRest) (String.lt_asymm (below' head inRest'))
          subst headsEqual
          refine congrArg _ (ih restAscending restAscending' fun entry => ?_)
          constructor
          · intro member
            cases List.mem_cons.mp ((same entry).mp (by simp [member])) with
            | inl equal => subst equal; exact absurd (below entry member) (String.lt_irrefl _)
            | inr inRest' => exact inRest'
          · intro member
            cases List.mem_cons.mp ((same entry).mpr (by simp [member])) with
            | inl equal => subst equal; exact absurd (below' entry member) (String.lt_irrefl _)
            | inr inRest => exact inRest

end SortedMapLemmas

/-! ## Operations -/

namespace SortedMap

variable {α : Type u} {β : Type v}

/-- The map without entries. -/
def empty : SortedMap α := ⟨[], List.Pairwise.nil⟩

instance : Inhabited (SortedMap α) := ⟨empty⟩

/-- Sets the value of `key`, whether it was present or not. -/
def insert (map : SortedMap α) (key : String) (value : α) : SortedMap α :=
  ⟨insertEntry key value map.entries,
    SortedMapLemmas.insertEntry_ascending key value map.ascending⟩

/-- The map of a list of entries; of a repeated key the last entry counts. -/
def ofList (entries : List (String × α)) : SortedMap α :=
  entries.foldl (fun map entry => map.insert entry.1 entry.2) empty

/-- The value under `key`. -/
def get? (map : SortedMap α) (key : String) : Option α := lookupEntry key map.entries

/-- Whether `key` has a value. -/
def contains (map : SortedMap α) (key : String) : Bool := (map.get? key).isSome

/-- The keys, ascending. -/
def keys (map : SortedMap α) : List String := map.entries.map (·.1)

/-- The number of entries. -/
def size (map : SortedMap α) : Nat := map.entries.length

/-- Applies `f` to every value, with its key at hand. -/
def mapValues (f : String → α → β) (map : SortedMap α) : SortedMap β :=
  ⟨map.entries.map fun entry => (entry.1, f entry.1 entry.2),
    List.pairwise_map.mpr map.ascending⟩

@[simp] theorem get?_empty (key : String) : (empty : SortedMap α).get? key = none := rfl

@[simp] theorem get?_insert_self (map : SortedMap α) (key : String) (value : α) :
    (map.insert key value).get? key = some value :=
  SortedMapLemmas.lookupEntry_insertEntry_self key value map.entries

theorem get?_insert_ne (map : SortedMap α) {key other : String} (value : α)
    (different : key ≠ other) : (map.insert key value).get? other = map.get? other :=
  SortedMapLemmas.lookupEntry_insertEntry_ne value map.entries different

theorem get?_eq_some_iff {map : SortedMap α} {key : String} {value : α} :
    map.get? key = some value ↔ (key, value) ∈ map.entries :=
  SortedMapLemmas.lookupEntry_eq_some_iff map.ascending

theorem contains_eq_true_iff {map : SortedMap α} {key : String} :
    map.contains key = true ↔ ∃ value, map.get? key = some value :=
  Option.isSome_iff_exists

theorem mem_keys_iff {map : SortedMap α} {key : String} :
    key ∈ map.keys ↔ map.contains key = true := by
  simp only [keys, List.mem_map, contains_eq_true_iff, get?_eq_some_iff]
  constructor
  · rintro ⟨⟨_, value⟩, member, rfl⟩
    exact ⟨value, member⟩
  · rintro ⟨value, member⟩
    exact ⟨(key, value), member, rfl⟩

/-- Two maps are equal when every look-up gives the same answer. -/
theorem ext_get? {left right : SortedMap α}
    (same : ∀ key, left.get? key = right.get? key) : left = right := by
  have entriesEqual : left.entries = right.entries :=
    SortedMapLemmas.eq_of_mem_iff left.ascending right.ascending fun ⟨key, value⟩ => by
      rw [← get?_eq_some_iff, ← get?_eq_some_iff, same key]
  cases left
  cases right
  simpa using entriesEqual

@[simp] theorem get?_mapValues (f : String → α → β) (map : SortedMap α) (key : String) :
    (map.mapValues f).get? key = (map.get? key).map (f key) := by
  ext value
  rw [get?_eq_some_iff, Option.map_eq_some_iff]
  simp only [mapValues, List.mem_map, get?_eq_some_iff, Prod.mk.injEq]
  constructor
  · rintro ⟨⟨_, old⟩, member, rfl, rfl⟩
    exact ⟨old, member, rfl⟩
  · rintro ⟨old, member, rfl⟩
    exact ⟨(key, old), member, rfl, rfl⟩

/-- A map is another one with changed values exactly when every look-up finds the changed value. -/
theorem eq_mapValues_iff {f : String → α → β} {map : SortedMap α} {changed : SortedMap β} :
    changed = map.mapValues f ↔
      ∀ key value, changed.get? key = some value ↔
        ∃ old, map.get? key = some old ∧ value = f key old := by
  constructor
  · rintro rfl key value
    rw [get?_mapValues, Option.map_eq_some_iff]
    simp only [eq_comm]
  · intro same
    refine ext_get? fun key => Option.ext fun value => ?_
    rw [same, get?_mapValues, Option.map_eq_some_iff]
    simp only [eq_comm]

@[simp] theorem contains_mapValues (f : String → α → β) (map : SortedMap α) (key : String) :
    (map.mapValues f).contains key = map.contains key := by
  rw [contains, contains, get?_mapValues, Option.isSome_map]

@[simp] theorem keys_mapValues (f : String → α → β) (map : SortedMap α) :
    (map.mapValues f).keys = map.keys := by
  rw [keys, keys, mapValues, List.map_map]
  rfl

theorem keys_ascending (map : SortedMap α) : map.keys.Pairwise (· < ·) :=
  List.pairwise_map.mpr map.ascending

theorem get?_insert (map : SortedMap α) (key other : String) (value : α) :
    (map.insert key value).get? other = if key = other then some value else map.get? other := by
  split
  · rename_i same
    rw [← same, get?_insert_self]
  · rename_i different
    exact get?_insert_ne map value different

/-! ## Maps of lists -/

theorem get?_foldl_insert (entries : List (String × α)) (map : SortedMap α) (key : String) :
    (entries.foldl (fun map entry => map.insert entry.1 entry.2) map).get? key =
      ((ofList entries).get? key).or (map.get? key) := by
  rw [ofList]
  induction entries generalizing map with
  | nil => rfl
  | cons entry rest ih =>
      rw [List.foldl_cons, List.foldl_cons, ih (map.insert entry.1 entry.2),
        ih (empty.insert entry.1 entry.2), Option.or_assoc, get?_insert, get?_insert]
      split <;> rfl

@[simp] theorem get?_ofList_nil (key : String) :
    (ofList ([] : List (String × α))).get? key = none :=
  rfl

@[simp] theorem get?_ofList_cons (name : String) (value : α) (rest : List (String × α))
    (key : String) :
    (ofList ((name, value) :: rest)).get? key =
      ((ofList rest).get? key).or (if name = key then some value else none) := by
  rw [ofList, List.foldl_cons, get?_foldl_insert, get?_insert, get?_empty]

@[simp] theorem get?_ofList_append (front back : List (String × α)) (key : String) :
    (ofList (front ++ back)).get? key = ((ofList back).get? key).or ((ofList front).get? key) := by
  rw [ofList, List.foldl_append, get?_foldl_insert]
  rfl

theorem mem_of_get?_ofList {entries : List (String × α)} {key : String} {value : α}
    (found : (ofList entries).get? key = some value) : (key, value) ∈ entries := by
  induction entries with
  | nil => exact absurd found nofun
  | cons entry rest ih =>
      rw [get?_ofList_cons, Option.or_eq_some_iff] at found
      rcases found with inRest | ⟨-, atHead⟩
      · exact List.mem_cons_of_mem entry (ih inRest)
      · split at atHead
        · rename_i same
          obtain rfl := Option.some.inj atHead
          exact same ▸ List.mem_cons_self
        · exact absurd atHead nofun

/-- A map is the map of its entries. -/
theorem ofList_entries (map : SortedMap α) : ofList map.entries = map := by
  refine ext_get? fun key => ?_
  obtain ⟨entries, ascending⟩ := map
  show (ofList entries).get? key = lookupEntry key entries
  induction entries with
  | nil => rfl
  | cons entry rest ih =>
      obtain ⟨below, restAscending⟩ := List.pairwise_cons.mp ascending
      rw [get?_ofList_cons, ih restAscending, lookupEntry]
      split
      · -- The keys behind the first are greater than it.
        rename_i same
        subst same
        rw [SortedMapLemmas.lookupEntry_eq_none_of_below below, Option.none_or]
      · rw [Option.or_none]

/-! ## Parts of maps -/

/-- Maps that agree on the keys that a test keeps have the same entries under these keys. -/
theorem filter_entries_eq {left right : SortedMap α} (keep : String → Bool)
    (agree : ∀ key, keep key = true → left.get? key = right.get? key) :
    left.entries.filter (fun entry => keep entry.1) =
      right.entries.filter fun entry => keep entry.1 := by
  refine SortedMapLemmas.eq_of_mem_iff (left.ascending.filter _) (right.ascending.filter _) ?_
  rintro ⟨key, value⟩
  rw [List.mem_filter, List.mem_filter, and_congr_left_iff]
  intro kept
  rw [← get?_eq_some_iff, ← get?_eq_some_iff, agree key kept]

/-- Leaves out the entry of `key`, if there is one. -/
def erase (map : SortedMap α) (key : String) : SortedMap α :=
  ⟨map.entries.filter fun entry => entry.1 != key, map.ascending.filter _⟩

theorem get?_erase (map : SortedMap α) (key other : String) :
    (map.erase key).get? other = if key = other then none else map.get? other := by
  ext value
  have kept : (map.erase key).get? other = some value ↔
      map.get? other = some value ∧ other ≠ key := by
    rw [get?_eq_some_iff, get?_eq_some_iff, erase, List.mem_filter, bne_iff_ne]
  rw [kept]
  split
  · rename_i same
    exact ⟨fun ⟨_, different⟩ => absurd same.symm different, nofun⟩
  · rename_i different
    exact and_iff_left (Ne.symm different)

/-- Sets the value of `key`, or leaves out its entry. -/
def setEntry (map : SortedMap α) (key : String) : Option α → SortedMap α
  | none => map.erase key
  | some value => map.insert key value

theorem get?_setEntry (map : SortedMap α) (key other : String) (value? : Option α) :
    (map.setEntry key value?).get? other = if key = other then value? else map.get? other := by
  cases value? with
  | none => exact get?_erase map key other
  | some value => exact get?_insert map key other value

end SortedMap

end ConfigGate
