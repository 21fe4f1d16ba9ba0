import TgGate.Library.PathResolution

namespace TgGate.Library

/-!
# Components on a stack

A path that must not leave its starting directory can be processed on a stack
of names: a dot-dot pops the last name, and popping an empty stack is an
escape.  The stack that is left is the location of the path, and the location
of a path that escapes contains a dot-dot.
-/

namespace FilesystemPath

/-- Process one component; none if it pops an empty stack. -/
def pushComponent
    (stack : List Bytes)
    (name : Bytes) : Option (List Bytes) :=
  if isNeutral name then
    some stack
  else if name = dotDot then
    match stack with
    | [] => none
    | _ :: parent => some parent
  else
    some (name :: stack)

/-- The stack that is left, listed from its first component. -/
def stackOf (names : List Bytes) : Option (List Bytes) :=
  (names.foldlM pushComponent []).map List.reverse

section Walking

variable {location : List Bytes}
variable {name : Bytes}

/-- Once a path has escaped, its location keeps a dot-dot. -/
theorem dotDot_mem_walk (escaped : dotDot ∈ location) :
    dotDot ∈ walk location name := by
  by_cases neutral : isNeutral name = true
  · rw [walk_of_isNeutral neutral]
    exact escaped
  · have step := Bool.eq_false_of_not_eq_true neutral
    by_cases isDotDot : name = dotDot
    · subst isDotDot
      rcases location with _ | ⟨last, parent⟩
      · cases escaped
      · by_cases atRoot : last = dotDot
        · simp [walk, step, atRoot]
        · have inParent : dotDot ∈ parent :=
            (List.mem_cons.mp escaped).resolve_left (Ne.symm atRoot)
          simpa [walk, step, atRoot] using inParent
    · rw [walk_of_isProper (isProper_of_ne_dotDot step isDotDot)]
      exact List.mem_cons_of_mem _ escaped

theorem dotDot_mem_foldl_walk
    (escaped : dotDot ∈ location)
    (names : List Bytes) :
    dotDot ∈ names.foldl walk location := by
  induction names generalizing location with
  | nil =>
      exact escaped
  | cons first rest inductionHypothesis =>
      exact inductionHypothesis (dotDot_mem_walk escaped)

/-- Within the starting directory both processings agree. -/
theorem walk_of_pushComponent
    (inside : dotDot ∉ location)
    {stack : List Bytes}
    (pushed : pushComponent location name = some stack) :
    walk location name = stack ∧ dotDot ∉ stack := by
  unfold pushComponent at pushed
  split at pushed
  · next neutral =>
      obtain rfl := Option.some.inj pushed
      exact ⟨walk_of_isNeutral neutral _, inside⟩
  · next step =>
      split at pushed
      · next isDotDot =>
          subst isDotDot
          rcases location with _ | ⟨last, parent⟩
          · cases pushed
          · obtain rfl := Option.some.inj pushed
            rw [List.mem_cons, not_or] at inside
            refine ⟨?_, inside.2⟩
            simp [walk, step, Ne.symm inside.1]
      · next down =>
          obtain rfl := Option.some.inj pushed
          refine ⟨walk_of_isProper
            (isProper_of_ne_dotDot (Bool.eq_false_of_not_eq_true step)
              down) _, ?_⟩
          rw [List.mem_cons, not_or]
          exact ⟨Ne.symm down, inside⟩

/-- Popping an empty stack goes to the parent of the starting directory. -/
theorem dotDot_mem_walk_of_pushComponent
    (popped : pushComponent location name = none) :
    dotDot ∈ walk location name := by
  unfold pushComponent at popped
  split at popped
  · cases popped
  · next step =>
      split at popped
      · next isDotDot =>
          subst isDotDot
          rcases location with _ | ⟨last, parent⟩
          · simp [walk, step]
          · cases popped
      · cases popped

end Walking

/-- The stack is the location, unless the path escapes. -/
theorem foldlM_pushComponent_eq_some_iff
    {names location stack : List Bytes}
    (inside : dotDot ∉ location) :
    names.foldlM pushComponent location = some stack ↔
      names.foldl walk location = stack ∧ dotDot ∉ stack := by
  induction names generalizing location with
  | nil =>
      simp only [List.foldlM_nil, List.foldl_nil, Option.pure_def,
        Option.some.injEq]
      constructor
      · rintro rfl
        exact ⟨rfl, inside⟩
      · exact And.left
  | cons first rest inductionHypothesis =>
      rw [List.foldlM_cons, List.foldl_cons]
      cases pushed : pushComponent location first with
      | none =>
          have escaped :=
            dotDot_mem_foldl_walk
              (dotDot_mem_walk_of_pushComponent pushed) rest
          refine iff_of_false (by simp) ?_
          rintro ⟨rfl, stillInside⟩
          exact stillInside escaped
      | some next =>
          obtain ⟨rfl, nextInside⟩ := walk_of_pushComponent inside pushed
          exact inductionHypothesis nextInside

/-- A path stays inside exactly if its location has no dot-dot. -/
theorem stackOf_eq_some_iff {names stack : List Bytes} :
    stackOf names = some stack ↔
      resolve names = stack ∧ dotDot ∉ stack := by
  unfold stackOf resolve
  rw [Option.map_eq_some_iff]
  constructor
  · rintro ⟨top, processed, rfl⟩
    obtain ⟨rfl, inside⟩ :=
      (foldlM_pushComponent_eq_some_iff List.not_mem_nil).mp processed
    exact ⟨rfl, by simpa using inside⟩
  · rintro ⟨rfl, inside⟩
    refine ⟨names.foldl walk [], ?_, rfl⟩
    rw [foldlM_pushComponent_eq_some_iff List.not_mem_nil]
    exact ⟨rfl, by simpa using inside⟩

end FilesystemPath

end TgGate.Library
