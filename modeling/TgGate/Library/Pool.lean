import Mathlib.Data.List.Perm.Basic
import Mathlib.Data.List.Forall2

namespace TgGate.Library

/-!
# Pools of interleaved threads

The threads that are between two of their atomic steps form a list.  Taking
the next step of one of them singles out a position; the lemmas split the list
there, and say which thread is found at a position afterwards.  A token held by the threads is held by one of them only when no token
occurs twice in what they hold together.  Two pools whose threads are related one
by one stay so when both take the thread at the same position.
-/

variable {Thread Token : Type}

/-- Removing or replacing the thread at a position splits the pool there. -/
theorem exists_split_of_getElem?
    {pool : List Thread}
    {index : Nat}
    {thread : Thread}
    (found : pool[index]? = some thread) :
    ∃ before after,
      pool = before ++ thread :: after ∧
        pool.eraseIdx index = before ++ after ∧
        ∀ next, pool.set index next = before ++ next :: after := by
  obtain ⟨bound, here⟩ := List.getElem?_eq_some_iff.mp found
  refine ⟨pool.take index, pool.drop (index + 1), ?_,
    List.eraseIdx_eq_take_drop_succ pool index,
    fun next => List.set_eq_take_cons_drop next bound⟩
  rw [← here, List.getElem_cons_drop, List.take_append_drop]

/-- A thread of a pool with one replaced is the new one or an old one. -/
theorem getElem?_set_cases
    {pool : List Thread}
    {index other : Nat}
    {next thread : Thread}
    (found : (pool.set index next)[other]? = some thread) :
    other = index ∧ thread = next ∨
      other ≠ index ∧ pool[other]? = some thread := by
  by_cases same : index = other
  · subst same
    have bound := (List.getElem?_eq_some_iff.mp found).1
    rw [List.length_set] at bound
    rw [List.getElem?_set_self bound] at found
    exact .inl ⟨rfl, (Option.some.inj found).symm⟩
  · rw [List.getElem?_set_ne same] at found
    exact .inr ⟨Ne.symm same, found⟩

/-- A thread of a pool with one added is the new one or an old one. -/
theorem getElem?_concat_cases
    {pool : List Thread}
    {index : Nat}
    {next thread : Thread}
    (found : (pool ++ [next])[index]? = some thread) :
    pool[index]? = some thread ∨
      index = pool.length ∧ thread = next := by
  by_cases inside : index < pool.length
  · rw [List.getElem?_append_left inside] at found
    exact .inl found
  · have bound := (List.getElem?_eq_some_iff.mp found).1
    rw [List.length_append, List.length_singleton] at bound
    obtain rfl : index = pool.length := by omega
    rw [List.getElem?_concat_length] at found
    exact .inr ⟨rfl, (Option.some.inj found).symm⟩

/-- A token that occurs once in all holdings has exactly one holder. -/
theorem exists_unique_holder
    {held : Thread → List Token}
    {pool : List Thread}
    {token : Token}
    (linear : (pool.flatMap held).Nodup)
    (member : token ∈ pool.flatMap held) :
    ∃ before thread after,
      pool = before ++ thread :: after ∧
        token ∈ held thread ∧
        (held thread).Nodup ∧
        ∀ other ∈ before ++ after, token ∉ held other := by
  obtain ⟨thread, inPool, holds⟩ := List.mem_flatMap.mp member
  obtain ⟨before, after, rfl⟩ := List.append_of_mem inPool
  rw [List.flatMap_append, List.flatMap_cons,
    List.nodup_append, List.nodup_append] at linear
  rcases linear with ⟨-, ⟨once, -, apartAfter⟩, apartBefore⟩
  refine ⟨before, thread, after, rfl, holds, once, ?_⟩
  intro other otherMember otherHolds
  rcases List.mem_append.mp otherMember with inBefore | inAfter
  · exact apartBefore
      token (List.mem_flatMap.mpr ⟨other, inBefore, otherHolds⟩)
      token (List.mem_append_left _ holds) rfl
  · exact apartAfter
      token holds
      token (List.mem_flatMap.mpr ⟨other, inAfter, otherHolds⟩) rfl

section RelatedPools

variable {Other : Type} {Related : Thread → Other → Prop}

theorem rel_getElem?_of_forall₂
    {pool : List Thread}
    {others : List Other}
    (related : List.Forall₂ Related pool others)
    (index : Nat) :
    Option.Rel Related pool[index]? others[index]? := by
  induction related generalizing index with
  | nil =>
      exact .none
  | cons head tail inductionHypothesis =>
      cases index with
      | zero =>
          exact .some head
      | succ index =>
          exact inductionHypothesis index

/-- Two pools have related threads at every position of the first. -/
theorem exists_related_at
    {pool : List Thread}
    {others : List Other}
    (related : List.Forall₂ Related pool others)
    {index : Nat}
    (inside : index < pool.length) :
    ∃ thread other,
      pool[index]? = some thread ∧
        others[index]? = some other ∧
        Related thread other := by
  have both := rel_getElem?_of_forall₂ related index
  rw [List.getElem?_eq_getElem inside] at both
  generalize found : others[index]? = other? at both
  cases both with
  | some here =>
      exact ⟨_, _, List.getElem?_eq_getElem inside, rfl, here⟩

theorem forall₂_toList
    {thread? : Option Thread}
    {other? : Option Other}
    (related : Option.Rel Related thread? other?) :
    List.Forall₂ Related thread?.toList other?.toList := by
  cases related with
  | none =>
      exact .nil
  | some here =>
      exact .cons here .nil

theorem forall₂_set
    {pool : List Thread}
    {others : List Other}
    {thread : Thread}
    {other : Other}
    (related : List.Forall₂ Related pool others)
    (here : Related thread other)
    (index : Nat) :
    List.Forall₂ Related
      (pool.set index thread) (others.set index other) := by
  induction related generalizing index with
  | nil =>
      exact .nil
  | cons head tail inductionHypothesis =>
      cases index with
      | zero =>
          exact .cons here tail
      | succ index =>
          exact .cons head (inductionHypothesis index)

theorem forall₂_eraseIdx
    {pool : List Thread}
    {others : List Other}
    (related : List.Forall₂ Related pool others)
    (index : Nat) :
    List.Forall₂ Related (pool.eraseIdx index) (others.eraseIdx index) := by
  induction related generalizing index with
  | nil =>
      exact .nil
  | cons head tail inductionHypothesis =>
      cases index with
      | zero =>
          exact tail
      | succ index =>
          exact .cons head (inductionHypothesis index)

end RelatedPools

end TgGate.Library
