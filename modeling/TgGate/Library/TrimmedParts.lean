import Mathlib.Data.List.DropRight

namespace TgGate.Library

/-!
# Trimming and splitting

A text that is split at a separator and whose parts are trimmed may be trimmed
as a whole before: the elements that trimming removes are not separators, so
only the first and the last part lose anything.  A text may also be split at
one separator and its items at another.
-/

section Trim

variable {Element : Type}

/-- Remove the elements with a property from both ends. -/
def trimBoth
    (drops : Element → Bool)
    (list : List Element) : List Element :=
  (list.dropWhile drops).rdropWhile drops

variable {drops : Element → Bool}

theorem trimBoth_cons
    {element : Element}
    (dropped : drops element = true)
    (list : List Element) :
    trimBoth drops (element :: list) = trimBoth drops list := by
  unfold trimBoth
  rw [List.dropWhile_cons_of_pos dropped]

theorem trimBoth_concat
    {element : Element}
    (dropped : drops element = true)
    (list : List Element) :
    trimBoth drops (list ++ [element]) = trimBoth drops list := by
  unfold trimBoth
  rw [List.dropWhile_append]
  cases rest : list.dropWhile drops with
  | nil =>
      simp [dropped]
  | cons first tail =>
      exact List.rdropWhile_concat_pos drops _ element dropped

/-- Elements in front that are dropped do not matter. -/
theorem trimBoth_append_left
    {before : List Element}
    (dropped : ∀ element ∈ before, drops element = true)
    (list : List Element) :
    trimBoth drops (before ++ list) = trimBoth drops list := by
  induction before with
  | nil =>
      rfl
  | cons element before inductionHypothesis =>
      rw [List.cons_append, trimBoth_cons (dropped element (by simp))]
      exact inductionHypothesis fun other member =>
        dropped other (by simp [member])

/-- Elements at the end that are dropped do not matter. -/
theorem trimBoth_append_right
    {after : List Element}
    (dropped : ∀ element ∈ after, drops element = true)
    (list : List Element) :
    trimBoth drops (list ++ after) = trimBoth drops list := by
  induction after using List.reverseRecOn with
  | nil =>
      rw [List.append_nil]
  | append_singleton after element inductionHypothesis =>
      rw [← List.append_assoc, trimBoth_concat (dropped element (by simp))]
      exact inductionHypothesis fun other member =>
        dropped other (by simp [member])

/-- Padding does not survive. -/
theorem trimBoth_padded
    {before after : List Element}
    (beforeDropped : ∀ element ∈ before, drops element = true)
    (afterDropped : ∀ element ∈ after, drops element = true)
    (content : List Element) :
    trimBoth drops (before ++ content ++ after) =
      trimBoth drops content := by
  rw [trimBoth_append_right afterDropped,
    trimBoth_append_left beforeDropped]

theorem trimBoth_dropWhile (list : List Element) :
    trimBoth drops (list.dropWhile drops) = trimBoth drops list := by
  unfold trimBoth
  rw [List.dropWhile_idempotent]

theorem trimBoth_rdropWhile (list : List Element) :
    trimBoth drops (list.rdropWhile drops) = trimBoth drops list := by
  have parts := List.rdropWhile_append_rtakeWhile (p := drops) (l := list)
  have dropped :
      ∀ element ∈ list.rtakeWhile drops, drops element = true :=
    fun element => List.mem_rtakeWhile_imp
  have same :=
    trimBoth_append_right dropped (list.rdropWhile drops)
  rw [parts] at same
  exact same.symm

/-- What neither begins nor ends with a dropped element is trimmed already. -/
theorem trimBoth_eq_self
    {list : List Element}
    (front : ∀ element ∈ list.head?, drops element = false)
    (back : ∀ element ∈ list.getLast?, drops element = false) :
    trimBoth drops list = list := by
  have kept : list.dropWhile drops = list := by
    cases list with
    | nil =>
        rfl
    | cons first rest =>
        exact List.dropWhile_cons_of_neg
          (by simp [front first (by simp)])
  unfold trimBoth
  rw [kept, List.rdropWhile_eq_self_iff]
  intro nonempty
  simp [back _ (List.getLast?_eq_some_getLast nonempty)]

/-- Trimming twice is trimming once. -/
theorem trimBoth_trimBoth (list : List Element) :
    trimBoth drops (trimBoth drops list) = trimBoth drops list := by
  change trimBoth drops ((list.dropWhile drops).rdropWhile drops) = _
  rw [trimBoth_rdropWhile, trimBoth_dropWhile]

end Trim

section Parts

variable {Element : Type}
variable {drops : Element → Bool}
variable {separator : Element}

/-- Dropping from the front stops at the first separator. -/
theorem dropWhile_append_separator
    (kept : drops separator = false)
    (first rest : List Element) :
    (first ++ separator :: rest).dropWhile drops =
      first.dropWhile drops ++ separator :: rest := by
  rw [List.dropWhile_append]
  split
  · next empty =>
      rw [List.isEmpty_iff.mp empty,
        List.dropWhile_cons_of_neg (by simp [kept])]
      rfl
  · rfl

/-- Dropping from the back stops at the last separator. -/
theorem rdropWhile_append_separator
    (kept : drops separator = false)
    (first last : List Element) :
    (first ++ separator :: last).rdropWhile drops =
      first ++ separator :: last.rdropWhile drops := by
  induction last using List.reverseRecOn with
  | nil =>
      exact List.rdropWhile_concat_neg drops _ separator (by simp [kept])
  | append_singleton last element inductionHypothesis =>
      rw [← List.cons_append, ← List.append_assoc]
      by_cases dropped : drops element = true
      · rw [List.rdropWhile_concat_pos drops _ element dropped,
          List.rdropWhile_concat_pos drops _ element dropped,
          inductionHypothesis]
      · rw [List.rdropWhile_concat_neg drops _ element dropped,
          List.rdropWhile_concat_neg drops _ element dropped]
        simp

theorem intercalate_cons_of_ne_nil
    {parts : List (List Element)}
    (nonempty : parts ≠ [])
    (first : List Element) :
    [separator].intercalate (first :: parts) =
      first ++ separator :: [separator].intercalate parts := by
  rw [List.intercalate_cons_of_ne_nil nonempty, List.append_assoc,
    List.singleton_append]

/-- Dropping from the front affects the first part. -/
theorem dropWhile_intercalate
    (kept : drops separator = false)
    (first : List Element)
    (rest : List (List Element)) :
    ([separator].intercalate (first :: rest)).dropWhile drops =
      [separator].intercalate (first.dropWhile drops :: rest) := by
  by_cases single : rest = []
  · subst single
    simp
  · rw [intercalate_cons_of_ne_nil single,
      intercalate_cons_of_ne_nil single,
      dropWhile_append_separator kept]

/-- Dropping from the back affects the last part. -/
theorem rdropWhile_intercalate
    (kept : drops separator = false)
    (front : List (List Element))
    (last : List Element) :
    ([separator].intercalate (front ++ [last])).rdropWhile drops =
      [separator].intercalate (front ++ [last.rdropWhile drops]) := by
  induction front with
  | nil =>
      simp
  | cons first front inductionHypothesis =>
      rw [List.cons_append, List.cons_append,
        intercalate_cons_of_ne_nil (by simp),
        intercalate_cons_of_ne_nil (by simp),
        rdropWhile_append_separator kept, inductionHypothesis]

/-- A text whose parts are those of a list, up to trimming. -/
def HasParts
    (drops : Element → Bool)
    (separator : Element)
    (parts : List (List Element))
    (text : List Element) : Prop :=
  ∃ own,
    own ≠ [] ∧
      (∀ part ∈ own, separator ∉ part) ∧
      text = [separator].intercalate own ∧
      own.map (trimBoth drops) = parts.map (trimBoth drops)

theorem HasParts.dropWhile
    {parts : List (List Element)}
    {text : List Element}
    (kept : drops separator = false)
    (has : HasParts drops separator parts text) :
    HasParts drops separator parts (text.dropWhile drops) := by
  obtain ⟨own, nonempty, free, rfl, same⟩ := has
  obtain ⟨first, rest, rfl⟩ := List.exists_cons_of_ne_nil nonempty
  refine ⟨first.dropWhile drops :: rest, by simp, ?_,
    dropWhile_intercalate kept first rest, ?_⟩
  · intro part member
    rcases List.mem_cons.mp member with rfl | isRest
    · exact fun inside =>
        free first (by simp)
          ((List.dropWhile_sublist drops).subset inside)
    · exact free part (by simp [isRest])
  · rw [← same, List.map_cons, List.map_cons, trimBoth_dropWhile]

theorem HasParts.rdropWhile
    {parts : List (List Element)}
    {text : List Element}
    (kept : drops separator = false)
    (has : HasParts drops separator parts text) :
    HasParts drops separator parts (text.rdropWhile drops) := by
  obtain ⟨own, nonempty, free, rfl, same⟩ := has
  obtain ⟨front, last, rfl⟩ :=
    (List.eq_nil_or_concat' own).resolve_left nonempty
  refine ⟨front ++ [last.rdropWhile drops], by simp, ?_,
    rdropWhile_intercalate kept front last, ?_⟩
  · intro part member
    rcases List.mem_append.mp member with isFront | isLast
    · exact free part (by simp [isFront])
    · rw [List.mem_singleton.mp isLast]
      exact fun inside =>
        free last (by simp) ((List.rdropWhile_prefix drops last).subset inside)
  · rw [← same, List.map_append, List.map_append, List.map_singleton,
      List.map_singleton, trimBoth_rdropWhile]

end Parts

section Cuts

variable {Element : Type}
variable [BEq Element]
variable {outer inner : Element}

/-- Cut a text at one separator, and each item at another. -/
def cut
    (outer inner : Element)
    (text : List Element) : List (List (List Element)) :=
  (text.splitOn outer).map (List.splitOn inner)

/-- The last item of one cut goes on with the first item of the next. -/
def joinEnds
    {Part : Type} : List (List Part) → List (List Part) → List (List Part)
  | [], next => next
  | [last], [] => [last]
  | [last], first :: others => (last ++ first) :: others
  | item :: second :: others, next =>
      item :: joinEnds (second :: others) next

/-- Cuts of consecutive texts, put together. -/
def joinCuts
    {Part : Type}
    (cuts : List (List (List Part))) : List (List Part) :=
  cuts.foldr joinEnds []

/-- The first part of the first item stays there. -/
theorem exists_joinCuts
    {Part : Type}
    (first : Part)
    (cuts : List (List (List Part))) :
    ∃ parts others,
      joinCuts ([[first]] :: cuts) = (first :: parts) :: others := by
  rw [joinCuts, List.foldr_cons]
  cases cuts.foldr joinEnds [] with
  | nil =>
      exact ⟨[], [], rfl⟩
  | cons item others =>
      exact ⟨item, others, rfl⟩

theorem joinEnds_nil
    {Part : Type}
    (items : List (List Part)) :
    joinEnds items [] = items := by
  induction items with
  | nil =>
      rfl
  | cons item others inductionHypothesis =>
      cases others with
      | nil =>
          rfl
      | cons second others =>
          rw [joinEnds, inductionHypothesis]

variable [LawfulBEq Element]

/-- What is in front of a text without the separator joins its first item. -/
theorem splitOn_append_of_notMem
    {first : List Element}
    (free : outer ∉ first)
    (rest : List Element) :
    (first ++ rest).splitOn outer =
      (rest.splitOn outer).modifyHead (first ++ ·) := by
  induction first with
  | nil =>
      exact (congrFun List.modifyHead_id _).symm
  | cons element first inductionHypothesis =>
      obtain ⟨differs, restFree⟩ := not_or.mp (mt List.mem_cons.mpr free)
      have other : (element == outer) = false :=
        beq_eq_false_iff_ne.mpr (Ne.symm differs)
      rw [List.cons_append, List.splitOn_cons_eq_if_modifyHead, other,
        inductionHypothesis restFree]
      simp [List.modifyHead_modifyHead, Function.comp_def]

/-- No item contains the separator. -/
theorem notMem_of_mem_splitOn
    {text item : List Element}
    (member : item ∈ text.splitOn outer) :
    outer ∉ item := by
  induction text generalizing item with
  | nil =>
      simp_all
  | cons element rest inductionHypothesis =>
      obtain ⟨first, others, split⟩ :=
        List.exists_cons_of_ne_nil (List.splitOn_ne_nil outer rest)
      rw [List.splitOn_cons_eq_if_modifyHead] at member
      split at member
      · rcases List.mem_cons.mp member with rfl | isRest
        · simp
        · exact inductionHypothesis isRest
      · next differs =>
          rw [split, List.modifyHead_cons] at member
          rcases List.mem_cons.mp member with rfl | isOther
          · have firstFree : outer ∉ first :=
              inductionHypothesis (by simp [split])
            have other : outer ≠ element :=
              fun same => differs (beq_iff_eq.mpr same.symm)
            simp [other, firstFree]
          · exact inductionHypothesis (by simp [split, isOther])

/-- At the inner separator, the items on its two sides become one. -/
theorem cut_intercalate_append
    (different : outer ≠ inner)
    {items : List (List Element)}
    (nonempty : items ≠ [])
    (free : ∀ item ∈ items, outer ∉ item)
    (rest : List Element) :
    cut outer inner ([outer].intercalate items ++ inner :: rest) =
      joinEnds (items.map (List.splitOn inner)) (cut outer inner rest) := by
  induction items with
  | nil =>
      exact absurd rfl nonempty
  | cons item others inductionHypothesis =>
      have itemFree := free item (by simp)
      cases others with
      | nil =>
          have fresh : outer ∉ item ++ [inner] := by
            simpa [different] using itemFree
          obtain ⟨first, others, split⟩ :=
            List.exists_cons_of_ne_nil (List.splitOn_ne_nil outer rest)
          have parted := splitOn_append_of_notMem fresh rest
          rw [List.append_assoc, List.singleton_append, split,
            List.modifyHead_cons, List.append_assoc,
            List.singleton_append] at parted
          unfold cut
          rw [List.intercalate_singleton, parted, split]
          simp [joinEnds, List.splitOn_append_cons_self]
      | cons second others =>
          have remaining :=
            inductionHypothesis (List.cons_ne_nil _ _)
              fun other member => free other (by simp [member])
          rw [intercalate_cons_of_ne_nil (List.cons_ne_nil _ _),
            List.append_assoc, List.cons_append]
          unfold cut at remaining ⊢
          rw [List.splitOn_append_cons_self_of_not_mem itemFree,
            List.map_cons, remaining]
          rfl

theorem cut_append_inner
    (different : outer ≠ inner)
    (first rest : List Element) :
    cut outer inner (first ++ inner :: rest) =
      joinEnds (cut outer inner first) (cut outer inner rest) := by
  have free : ∀ item ∈ first.splitOn outer, outer ∉ item :=
    fun _ => notMem_of_mem_splitOn
  have joined :=
    cut_intercalate_append different (List.splitOn_ne_nil outer first)
      free rest
  rwa [List.intercalate_splitOn] at joined

/-- Parts between inner separators are cut one by one. -/
theorem cut_intercalate_inner
    (different : outer ≠ inner)
    {parts : List (List Element)}
    (nonempty : parts ≠ []) :
    cut outer inner ([inner].intercalate parts) =
      joinCuts (parts.map (cut outer inner)) := by
  induction parts with
  | nil =>
      exact absurd rfl nonempty
  | cons part rest inductionHypothesis =>
      by_cases single : rest = []
      · subst single
        simp [joinCuts, joinEnds_nil]
      · rw [intercalate_cons_of_ne_nil single, cut_append_inner different,
          inductionHypothesis single]
        rfl

/-- Texts between outer separators are cut one by one. -/
theorem cut_intercalate_outer
    {texts : List (List Element)}
    (nonempty : texts ≠ []) :
    cut outer inner ([outer].intercalate texts) =
      texts.flatMap (cut outer inner) := by
  induction texts with
  | nil =>
      exact absurd rfl nonempty
  | cons text rest inductionHypothesis =>
      by_cases single : rest = []
      · subst single
        simp
      · have remaining := inductionHypothesis single
        rw [intercalate_cons_of_ne_nil single, List.flatMap_cons,
          ← remaining]
        unfold cut
        rw [List.splitOn_append_cons_self, List.map_append]

/-- Parts that are not cut are one item. -/
theorem joinCuts_whole
    {Part : Type}
    (first : Part)
    (rest : List Part) :
    joinCuts ((first :: rest).map fun part => [[part]]) =
      [first :: rest] := by
  induction rest generalizing first with
  | nil =>
      rfl
  | cons second rest inductionHypothesis =>
      rw [List.map_cons, joinCuts, List.foldr_cons, ← joinCuts,
        inductionHypothesis]
      rfl

/-- A text that contains neither separator is one item of one part. -/
theorem cut_of_notMem
    {text : List Element}
    (outerFree : outer ∉ text)
    (innerFree : inner ∉ text) :
    cut outer inner text = [[text]] := by
  unfold cut
  rw [List.splitOn_eq_singleton outerFree, List.map_singleton,
    List.splitOn_eq_singleton innerFree]

end Cuts

end TgGate.Library
