import Mathlib.Data.List.Basic

namespace TgGate.Library

/-!
# Storage of a fixed capacity

A byte loop `for (index = 0; index < size; ++index) storage[index] = source[index]`
over a `std::array` overwrites a stretch of the array and leaves the rest.
-/

variable {Item : Type} {capacity : Nat}

/-- Write items one after another, starting at an index. -/
def copyInto
    (storage : Vector Item capacity)
    (index : Nat) : List Item → Vector Item capacity
  | [] => storage
  | item :: rest =>
      copyInto (storage.setIfInBounds index item) (index + 1) rest

/-- The items stand at the index; what surrounds them is as before. -/
theorem toList_copyInto
    {storage : Vector Item capacity}
    {index : Nat}
    {source : List Item}
    (fits : index + source.length ≤ capacity) :
    (copyInto storage index source).toList =
      storage.toList.take index ++
        source ++ storage.toList.drop (index + source.length) := by
  induction source generalizing storage index with
  | nil =>
      simp [copyInto]
  | cons item rest inductionHypothesis =>
      rw [List.length_cons] at fits
      have inside : index < storage.toList.length := by
        rw [Vector.length_toList]
        omega
      have written :
          (storage.toList.set index item).take (index + 1) =
            storage.toList.take index ++ [item] := by
        rw [List.take_succ_eq_append_getElem (by simpa using inside),
          List.take_set_of_le (Nat.le_refl index),
          List.getElem_set_self]
      have untouched :
          (storage.toList.set index item).drop
              (index + 1 + rest.length) =
            storage.toList.drop (index + 1 + rest.length) :=
        List.drop_set_of_lt (by omega)
      rw [copyInto, inductionHypothesis (by omega),
        Vector.toList_setIfInBounds, written, untouched,
        List.length_cons, Nat.add_assoc index 1, Nat.add_comm 1]
      simp

/-- Writing from the start. -/
theorem toList_copyInto_zero
    {storage : Vector Item capacity}
    {source : List Item}
    (fits : source.length ≤ capacity) :
    (copyInto storage 0 source).toList =
      source ++ storage.toList.drop source.length := by
  rw [toList_copyInto (by omega), List.take_zero, Nat.zero_add,
    List.nil_append]

/-- Filling the whole storage forgets what it held. -/
theorem copyInto_replicate
    (storage : Vector Item capacity)
    (filler : Item) :
    copyInto storage 0 (List.replicate capacity filler) =
      Vector.replicate capacity filler := by
  apply Vector.toList_inj.mp
  rw [toList_copyInto_zero (by simp), Vector.toList_replicate,
    List.length_replicate, List.drop_of_length_le (by simp),
    List.append_nil]

end TgGate.Library
