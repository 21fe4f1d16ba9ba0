import Mathlib.Data.List.AList

namespace TgGate.Library

/-!
# `std::unordered_map`

Association lists with unique keys model the hash map; the list order stands
for the unspecified iteration order.  Mathlib's `AList` supplies lookup,
insertion and erasure.  The operations of the C++ interface that it lacks are
added here, each with the lookup lemma later proofs use.
-/

/-- A map with unique keys, listed in iteration order. -/
abbrev UnorderedMap (Key Value : Type) :=
  AList (fun _ : Key => Value)

namespace UnorderedMap

variable {Key Value : Type}

/-- Transform every mapped value in place. -/
def mapValues
    (transform : Key → Value → Value)
    (map : UnorderedMap Key Value) : UnorderedMap Key Value where
  entries :=
    map.entries.map fun entry => ⟨entry.1, transform entry.1 entry.2⟩
  nodupKeys := by
    have sameKeys :
        (map.entries.map fun entry =>
          (⟨entry.1, transform entry.1 entry.2⟩ :
            Sigma fun _ : Key => Value)).keys =
          map.entries.keys := by
      simp [List.keys, List.map_map, Function.comp_def]
    unfold List.NodupKeys
    rw [sameKeys]
    exact map.nodupKeys

/-- The mapped values in iteration order. -/
def values (map : UnorderedMap Key Value) : List Value :=
  map.entries.map Sigma.snd

section Lookup

variable [DecidableEq Key]

/-- `emplace`: insert unless the key is already mapped. -/
def emplace
    (key : Key)
    (value : Value)
    (map : UnorderedMap Key Value) : UnorderedMap Key Value :=
  if key ∈ map then map else map.insert key value

/-- Assign through a reference obtained with `at` or `find`. -/
def modifyAt
    (key : Key)
    (transform : Value → Value)
    (map : UnorderedMap Key Value) : UnorderedMap Key Value :=
  mapValues
    (fun current value =>
      if current = key then transform value else value)
    map

@[simp] theorem lookup_mapValues
    (transform : Key → Value → Value)
    (map : UnorderedMap Key Value)
    (key : Key) :
    AList.lookup key (mapValues transform map) =
      (AList.lookup key map).map (transform key) := by
  exact List.dlookup_map₂ (f := fun key value => transform key value) key

@[simp] theorem lookup_modifyAt
    (target key : Key)
    (transform : Value → Value)
    (map : UnorderedMap Key Value) :
    AList.lookup key (modifyAt target transform map) =
      if key = target then
        (AList.lookup key map).map transform
      else
        AList.lookup key map := by
  unfold modifyAt
  rw [lookup_mapValues]
  by_cases isTarget : key = target
  · simp [isTarget]
  · simp [isTarget]

@[simp] theorem lookup_emplace
    (target key : Key)
    (value : Value)
    (map : UnorderedMap Key Value) :
    AList.lookup key (emplace target value map) =
      if key = target then
        (AList.lookup key map).or (some value)
      else
        AList.lookup key map := by
  unfold emplace
  by_cases isTarget : key = target
  · subst target
    by_cases present : key ∈ map
    · obtain ⟨found, lookup⟩ :=
        Option.isSome_iff_exists.mp
          (AList.lookup_isSome.mpr present)
      simp [present, lookup]
    · have absent : AList.lookup key map = none :=
        AList.lookup_eq_none.mpr present
      simp [present, absent]
  · by_cases present : target ∈ map
    · simp [present, isTarget]
    · simp [present, isTarget, AList.lookup_insert_ne isTarget]

theorem mem_emplace_iff
    {target key : Key}
    {value : Value}
    {map : UnorderedMap Key Value} :
    key ∈ emplace target value map ↔ key = target ∨ key ∈ map := by
  unfold emplace
  by_cases present : target ∈ map
  · rw [if_pos present]
    constructor
    · exact .inr
    · rintro (rfl | member)
      · exact present
      · exact member
  · rw [if_neg present, AList.mem_insert]

/-- The values are exactly what the keys look up. -/
theorem mem_values_iff
    {map : UnorderedMap Key Value}
    {value : Value} :
    value ∈ values map ↔
      ∃ key, AList.lookup key map = some value := by
  unfold values
  constructor
  · intro member
    obtain ⟨entry, entryMember, rfl⟩ := List.mem_map.mp member
    exact ⟨entry.1, AList.mem_lookup_iff.mpr entryMember⟩
  · rintro ⟨key, lookup⟩
    exact List.mem_map.mpr
      ⟨⟨key, value⟩, AList.mem_lookup_iff.mp lookup, rfl⟩

theorem lookup_erase_eq_some_iff
    {map : UnorderedMap Key Value}
    {target key : Key}
    {value : Value} :
    AList.lookup key (map.erase target) = some value ↔
      key ≠ target ∧ AList.lookup key map = some value := by
  by_cases isTarget : key = target
  · subst target
    simp [AList.lookup_erase]
  · simp [AList.lookup_erase_ne isTarget, isTarget]

/-- Erasing a key takes its value out of the values. -/
theorem values_perm_of_lookup
    {map : UnorderedMap Key Value}
    {key : Key}
    {value : Value}
    (found : AList.lookup key map = some value) :
    (values map).Perm (value :: values (map.erase key)) := by
  have present : key ∈ map.entries.keys :=
    AList.mem_keys.mp (AList.lookup_isSome.mp (by simp [found]))
  obtain ⟨other, before, after, -, split, erased⟩ :=
    List.exists_of_kerase present
  have same : other = value := by
    have entry : Sigma.mk key other ∈ map.entries := by
      rw [split]
      exact List.mem_append_right _ List.mem_cons_self
    rw [AList.mem_lookup_iff.mpr entry] at found
    exact Option.some.inj found
  have remaining : (map.erase key).entries = before ++ after :=
    erased
  rw [values, values, split, remaining, same, List.map_append,
    List.map_cons, List.map_append]
  exact List.perm_middle

/-- Emplacing under a free key adds the value. -/
theorem values_emplace
    {map : UnorderedMap Key Value}
    {key : Key}
    (free : key ∉ map)
    (value : Value) :
    values (emplace key value map) = value :: values map := by
  rw [emplace, if_neg free, values,
    AList.entries_insert_of_notMem free]
  rfl

/-- Looking up the keys, in any order, collects the values. -/
theorem filterMap_lookup_perm_values
    {map : UnorderedMap Key Value}
    {order : List Key}
    (complete : order.Perm map.keys) :
    (order.filterMap fun key => AList.lookup key map).Perm
      (values map) := by
  have inOrder :
      (map.keys.filterMap fun key => AList.lookup key map) =
        values map := by
    have eachFound :
        ∀ entry ∈ map.entries,
          AList.lookup entry.1 map = some entry.2 :=
      fun entry member => AList.mem_lookup_iff.mpr member
    rw [AList.keys, List.keys, List.filterMap_map, values,
      ← List.filterMap_eq_map]
    exact List.filterMap_congr eachFound
  rw [← inOrder]
  exact complete.filterMap _

end Lookup

end UnorderedMap

end TgGate.Library
