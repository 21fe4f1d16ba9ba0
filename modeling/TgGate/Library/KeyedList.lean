import Mathlib.Data.List.Nodup
import Mathlib.Data.List.Perm.Basic

namespace TgGate.Library

/-!
# Lists searched by a key

`std::find_if` returns the first item with a key, and the program assigns
through the iterator.  Where no key occurs twice, every item is the one that a
search for its key finds; otherwise the order of the list decides.
-/

variable {Item Key : Type}

/-- Assign through the iterator of `std::find_if`. -/
def modifyFirst
    (selects : Item → Bool)
    (change : Item → Item) : List Item → List Item
  | [] => []
  | item :: rest =>
      if selects item then
        change item :: rest
      else
        item :: modifyFirst selects change rest

section Assignment

variable {selects : Item → Bool} {change : Item → Item}

/-- Assigning keeps what it keeps of the item that is found. -/
theorem map_modifyFirst
    {items : List Item}
    {property : Item → Key}
    (kept :
      ∀ item,
        items.find? selects = some item →
        property (change item) = property item) :
    (modifyFirst selects change items).map property =
      items.map property := by
  induction items with
  | nil =>
      rfl
  | cons item rest inductionHypothesis =>
      unfold modifyFirst
      by_cases selected : selects item = true
      · simp [selected, kept item]
      · have restKept := inductionHypothesis fun other found =>
          kept other (by simpa [selected] using found)
        simp [selected, restKept]

/-- The second of two assignments to the same item stands. -/
theorem modifyFirst_modifyFirst
    {first second : Item}
    (selected : selects first = true)
    (items : List Item) :
    modifyFirst selects (fun _ => second)
        (modifyFirst selects (fun _ => first) items) =
      modifyFirst selects (fun _ => second) items := by
  induction items with
  | nil =>
      rfl
  | cons item rest inductionHypothesis =>
      by_cases isSelected : selects item = true
      · simp [modifyFirst, isSelected, selected]
      · simp [modifyFirst, isSelected, inductionHypothesis]

end Assignment

section Order

variable {selects : Item → Bool} {items : List Item} {item : Item}

/--
An item that is selected can be put where a search finds it, which does not
affect the searches that do not select it.
-/
theorem exists_perm_find?
    (member : item ∈ items)
    (selected : selects item = true) :
    ∃ reordered : List Item,
      reordered.Perm items ∧
        reordered.find? selects = some item ∧
        ∀ other : Item → Bool,
          other item = false →
          reordered.find? other = items.find? other := by
  obtain ⟨before, after, rfl⟩ := List.append_of_mem member
  refine ⟨item :: (before ++ after), List.perm_middle.symm,
    by simp [selected], ?_⟩
  intro other notSelected
  simp [List.find?_append, notSelected]

end Order

section Missing

/-- Keys of a list, completed by those that are missing among them. -/
theorem nodup_append_missing
    {present all : List Key}
    [DecidablePred fun key => key ∈ present]
    (presentDistinct : present.Nodup)
    (allDistinct : all.Nodup) :
    (present ++ all.filter (· ∉ present)).Nodup := by
  rw [List.nodup_append]
  refine ⟨presentDistinct, allDistinct.filter _, ?_⟩
  rintro key isPresent other missing rfl
  simpa [isPresent] using List.of_mem_filter missing

theorem perm_append_missing
    {present all : List Key}
    [DecidablePred fun key => key ∈ present]
    (presentDistinct : present.Nodup)
    (allDistinct : all.Nodup)
    (known : ∀ key ∈ present, key ∈ all) :
    (present ++ all.filter (· ∉ present)).Perm all := by
  rw [List.perm_ext_iff_of_nodup
    (nodup_append_missing presentDistinct allDistinct) allDistinct]
  intro key
  rw [List.mem_append, List.mem_filter, decide_eq_true_eq]
  constructor
  · rintro (isPresent | ⟨member, -⟩)
    · exact known key isPresent
    · exact member
  · intro member
    by_cases isPresent : key ∈ present
    · exact .inl isPresent
    · exact .inr ⟨member, isPresent⟩

end Missing

section Keys

variable [DecidableEq Key] {key : Item → Key}

/-- The item found has the key. -/
theorem key_of_find?
    {items : List Item}
    {sought : Key}
    {item : Item}
    (found : items.find? (key · = sought) = some item) :
    key item = sought := by
  simpa using List.find?_some found

/-- With unique keys every item is found. -/
theorem find?_key_of_mem
    {items : List Item}
    {item : Item}
    (distinct : (items.map key).Nodup)
    (member : item ∈ items) :
    items.find? (key · = key item) = some item := by
  induction items with
  | nil =>
      cases member
  | cons head rest inductionHypothesis =>
      simp only [List.map_cons, List.nodup_cons] at distinct
      rcases List.mem_cons.mp member with rfl | inRest
      · simp
      · have headNe : key head ≠ key item := by
          intro same
          exact distinct.1
            (same ▸ List.mem_map_of_mem inRest)
        simp [headNe, inductionHypothesis distinct.2 inRest]

/-- A search succeeds exactly for the keys that occur. -/
theorem isSome_find?_key
    {items : List Item}
    {sought : Key} :
    (items.find? (key · = sought)).isSome = true ↔
      sought ∈ items.map key := by
  simp [List.find?_isSome]

/-- Searching for every key of a list in any order finds its items. -/
theorem map_find?_perm
    {items : List Item}
    {keys : List Key}
    (distinct : (items.map key).Nodup)
    (same : keys.Perm (items.map key)) :
    (keys.map fun sought => items.find? (key · = sought)).Perm
      (items.map some) := by
  refine (same.map _).trans (List.Perm.of_eq ?_)
  rw [List.map_map]
  exact List.map_congr_left fun item member =>
    find?_key_of_mem distinct member

section AssignmentByKey

variable {items : List Item} {assigned : Key} {change : Item → Item}

/-- Assigning to a key changes the item that a search for it finds. -/
theorem find?_modifyFirst_self
    (kept :
      ∀ item,
        items.find? (key · = assigned) = some item →
        key (change item) = assigned) :
    (modifyFirst (key · = assigned) change items).find?
        (key · = assigned) =
      (items.find? (key · = assigned)).map change := by
  induction items with
  | nil =>
      rfl
  | cons item rest inductionHypothesis =>
      unfold modifyFirst
      by_cases isAssigned : key item = assigned
      · simp [isAssigned, kept item]
      · have restFound := inductionHypothesis fun other found =>
          kept other (by simpa [isAssigned] using found)
        simpa [isAssigned] using restFound

/-- Assigning to one key leaves a search for another key alone. -/
theorem find?_modifyFirst_of_ne
    {sought : Key}
    (kept :
      ∀ item,
        items.find? (key · = assigned) = some item →
        key (change item) = assigned)
    (other : sought ≠ assigned) :
    (modifyFirst (key · = assigned) change items).find?
        (key · = sought) =
      items.find? (key · = sought) := by
  induction items with
  | nil =>
      rfl
  | cons item rest inductionHypothesis =>
      unfold modifyFirst
      by_cases isAssigned : key item = assigned
      · simp [isAssigned, kept item, other.symm]
      · have restFound := inductionHypothesis fun other found =>
          kept other (by simpa [isAssigned] using found)
        simp only [isAssigned, decide_false, Bool.false_eq_true,
          ↓reduceIte, List.find?_cons, restFound]

end AssignmentByKey

end Keys

end TgGate.Library
