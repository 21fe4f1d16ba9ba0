import Mathlib.Data.List.Induction
import Mathlib.Logic.Relation
import TgGate.Library.FilesystemPath

namespace TgGate.Library

/-!
# Locations and spellings of relative paths

A relative path leads to its location one component after the other.  Empty
components and dots stay where they are; a dot-dot goes back to the parent.
Two component lists spell the same location exactly when one becomes the other
by inserting and deleting components that have no effect, and the normal form
of a path is its shortest spelling.
-/

namespace FilesystemPath

/-- The components of a path, including the empty ones. -/
def components (path : FilesystemPath) : List Bytes :=
  path.splitOn 47

/-- A component that stays at the same location. -/
def isNeutral (name : Bytes) : Bool :=
  name = [] || name = dot

/-- A component that goes down into a directory. -/
def isProper (name : Bytes) : Bool :=
  !isNeutral name && name ≠ dotDot

/-- One step from a location; the components are listed from the last one. -/
def walk : List Bytes → Bytes → List Bytes
  | location, name =>
      if isNeutral name then
        location
      else if name = dotDot then
        match location with
        | [] => [dotDot]
        | last :: parent =>
            if last = dotDot then dotDot :: location else parent
      else
        name :: location

/-- The location that the components lead to. -/
def resolve (names : List Bytes) : List Bytes :=
  (names.foldl walk []).reverse

/-- Components without effect are deleted at one place. -/
inductive Shortens : List Bytes → List Bytes → Prop where
  | neutral
      {before after : List Bytes}
      {name : Bytes}
      (noStep : isNeutral name = true) :
      Shortens (before ++ name :: after) (before ++ after)
  | back
      {before after : List Bytes}
      {name : Bytes}
      (down : isProper name = true) :
      Shortens (before ++ name :: dotDot :: after) (before ++ after)

/-- Two spellings that differ only in components without effect. -/
def Respells : List Bytes → List Bytes → Prop :=
  Relation.EqvGen Shortens

theorem walk_of_isNeutral
    {name : Bytes}
    (noStep : isNeutral name = true)
    (location : List Bytes) :
    walk location name = location := by
  simp [walk, noStep]

theorem walk_of_isProper
    {name : Bytes}
    (down : isProper name = true)
    (location : List Bytes) :
    walk location name = name :: location := by
  simp only [isProper, Bool.and_eq_true, Bool.not_eq_true',
    decide_eq_true_eq] at down
  simp [walk, down]

theorem isNeutral_dotDot : isNeutral dotDot = false := by
  decide

theorem walk_dotDot_of_isProper
    {name : Bytes}
    (down : isProper name = true)
    (location : List Bytes) :
    walk (name :: location) dotDot = location := by
  simp only [isProper, Bool.and_eq_true, decide_eq_true_eq] at down
  simp [walk, isNeutral_dotDot, down.2]

theorem isProper_of_ne_dotDot
    {name : Bytes}
    (step : isNeutral name = false)
    (down : name ≠ dotDot) :
    isProper name = true := by
  simp [isProper, step, down]

theorem resolve_append (first later : List Bytes) :
    resolve (first ++ later) =
      (later.foldl walk (first.foldl walk [])).reverse := by
  rw [resolve, List.foldl_append]

/-- Deleting components without effect does not change the location. -/
theorem resolve_of_shortens
    {names shorter : List Bytes}
    (shortens : Shortens names shorter) :
    resolve names = resolve shorter := by
  cases shortens with
  | neutral noStep =>
      rw [resolve_append, resolve_append, List.foldl_cons,
        walk_of_isNeutral noStep]
  | back down =>
      rw [resolve_append, resolve_append, List.foldl_cons,
        List.foldl_cons, walk_of_isProper down,
        walk_dotDot_of_isProper down]

theorem resolve_of_respells
    {first second : List Bytes}
    (respells : Respells first second) :
    resolve first = resolve second := by
  induction respells with
  | rel _ _ shortens =>
      exact resolve_of_shortens shortens
  | refl =>
      rfl
  | symm _ _ _ inductionHypothesis =>
      exact inductionHypothesis.symm
  | trans _ _ _ _ _ earlier later =>
      exact earlier.trans later

/-- Spellings may be continued in the same way. -/
theorem Respells.append_right
    {first second : List Bytes}
    (respells : Respells first second)
    (later : List Bytes) :
    Respells (first ++ later) (second ++ later) := by
  induction respells with
  | rel _ _ shortens =>
      apply Relation.EqvGen.rel
      cases shortens with
      | neutral noStep =>
          simpa using Shortens.neutral noStep
      | back down =>
          simpa using Shortens.back down
  | refl =>
      exact .refl _
  | symm _ _ _ inductionHypothesis =>
      exact .symm _ _ inductionHypothesis
  | trans _ _ _ _ _ earlier later =>
      exact .trans _ _ _ earlier later

/-- No component of a location stays where it is. -/
theorem isNeutral_of_mem_walk
    {location : List Bytes}
    (clean : ∀ name ∈ location, isNeutral name = false)
    (last : Bytes) :
    ∀ name ∈ walk location last, isNeutral name = false := by
  intro name member
  by_cases step : isNeutral last = true
  · rw [walk_of_isNeutral step] at member
    exact clean name member
  · have down := Bool.eq_false_of_not_eq_true step
    by_cases isDotDot : last = dotDot
    · subst isDotDot
      rcases location with _ | ⟨parent, above⟩
      · obtain rfl := List.mem_singleton.mp member
        exact isNeutral_dotDot
      · by_cases atRoot : parent = dotDot
        · simp only [walk, isNeutral_dotDot, Bool.false_eq_true,
            ↓reduceIte, atRoot, List.mem_cons, or_self_left] at member
          rcases member with rfl | inAbove
          · exact isNeutral_dotDot
          · exact clean name (List.mem_cons_of_mem _ inAbove)
        · have proper :=
            isProper_of_ne_dotDot (clean parent (by simp)) atRoot
          rw [walk_dotDot_of_isProper proper] at member
          exact clean name (List.mem_cons_of_mem _ member)
    · rw [walk_of_isProper (isProper_of_ne_dotDot down isDotDot)]
        at member
      rcases List.mem_cons.mp member with rfl | earlier
      · exact down
      · exact clean name earlier

theorem isNeutral_of_mem_foldl_walk (names : List Bytes) :
    ∀ name ∈ names.foldl walk [], isNeutral name = false := by
  induction names using List.reverseRecOn with
  | nil =>
      intro name member
      cases member
  | append_singleton names last inductionHypothesis =>
      rw [List.foldl_append, List.foldl_cons, List.foldl_nil]
      exact isNeutral_of_mem_walk inductionHypothesis last

/-- Every spelling can be rewritten into the location it leads to. -/
theorem respells_resolve (names : List Bytes) :
    Respells names (resolve names) := by
  induction names using List.reverseRecOn with
  | nil =>
      exact .refl _
  | append_singleton names last inductionHypothesis =>
      have continued := inductionHypothesis.append_right [last]
      refine continued.trans _ _ _ ?_
      have clean := isNeutral_of_mem_foldl_walk names
      unfold resolve
      rw [List.foldl_append, List.foldl_cons, List.foldl_nil]
      generalize names.foldl walk [] = location at clean
      by_cases step : isNeutral last = true
      · rw [walk_of_isNeutral step]
        have shortens :
            Shortens (location.reverse ++ [last])
              (location.reverse ++ []) :=
          .neutral step
        rw [List.append_nil] at shortens
        exact .rel _ _ shortens
      · have down := Bool.eq_false_of_not_eq_true step
        by_cases isDotDot : last = dotDot
        · subst isDotDot
          rcases location with _ | ⟨parent, above⟩
          · exact .refl _
          · by_cases atRoot : parent = dotDot
            · simp only [walk, isNeutral_dotDot, Bool.false_eq_true,
                ↓reduceIte, atRoot, List.reverse_cons]
              exact .refl _
            · have proper :=
                isProper_of_ne_dotDot (clean parent (by simp)) atRoot
              rw [walk_dotDot_of_isProper proper]
              have shortens :
                  Shortens (above.reverse ++ parent :: dotDot :: [])
                    (above.reverse ++ []) :=
                .back proper
              apply Relation.EqvGen.rel
              simpa using shortens
        · rw [walk_of_isProper (isProper_of_ne_dotDot down isDotDot),
            List.reverse_cons]
          exact .refl _

/-- Two spellings lead to one location iff one is rewritten into the other. -/
theorem respells_iff {first second : List Bytes} :
    Respells first second ↔ resolve first = resolve second := by
  constructor
  · exact resolve_of_respells
  · intro same
    have back := respells_resolve second
    rw [← same] at back
    exact (respells_resolve first).trans _ _ _ (back.symm _ _)

section NormalForm

theorem shortens_cons
    {names shorter : List Bytes}
    (shortens : Shortens names shorter)
    (first : Bytes) :
    Shortens (first :: names) (first :: shorter) := by
  cases shortens with
  | @neutral before _ _ noStep =>
      exact @Shortens.neutral (first :: before) _ _ noStep
  | @back before _ _ down =>
      exact @Shortens.back (first :: before) _ _ down

/-- A round of the normalization deletes a way down and back. -/
theorem shortens_of_cancelFirst
    {names shorter : List Bytes}
    (clean : ∀ name ∈ names, isNeutral name = false)
    (cancelled : cancelFirst names = some shorter) :
    Shortens names shorter := by
  induction names generalizing shorter with
  | nil =>
      cases cancelled
  | cons first rest inductionHypothesis =>
      cases rest with
      | nil =>
          cases cancelled
      | cons second rest =>
          unfold cancelFirst at cancelled
          split at cancelled
          next both =>
            obtain rfl := Option.some.inj cancelled
            rcases both with ⟨down, rfl⟩
            exact @Shortens.back [] _ _
              (isProper_of_ne_dotDot (clean first (by simp)) down)
          next =>
            obtain ⟨inner, innerCancelled, rfl⟩ :=
              Option.map_eq_some_iff.mp cancelled
            exact shortens_cons
              (inductionHypothesis
                (fun name member =>
                  clean name (List.mem_cons_of_mem _ member))
                innerCancelled)
              first

/-- What a round leaves was there before. -/
theorem mem_of_shortens
    {names shorter : List Bytes}
    (shortens : Shortens names shorter)
    {name : Bytes}
    (member : name ∈ shorter) :
    name ∈ names := by
  cases shortens with
  | neutral | back =>
      rcases List.mem_append.mp member with inBefore | inAfter
      · exact List.mem_append_left _ inBefore
      · simp [inAfter]

theorem resolve_cancelAll
    (fuel : Nat)
    {names : List Bytes}
    (clean : ∀ name ∈ names, isNeutral name = false) :
    resolve (cancelAll fuel names) = resolve names ∧
      ∀ name ∈ cancelAll fuel names, isNeutral name = false := by
  induction fuel generalizing names with
  | zero =>
      exact ⟨rfl, clean⟩
  | succ fuel inductionHypothesis =>
      unfold cancelAll
      split
      next shorter cancelled =>
        have shortens := shortens_of_cancelFirst clean cancelled
        obtain ⟨same, stillClean⟩ := inductionHypothesis
          fun name member => clean name (mem_of_shortens shortens member)
        exact ⟨same.trans (resolve_of_shortens shortens).symm,
          stillClean⟩
      next =>
        exact ⟨rfl, clean⟩

/-- Where nothing cancels, every component is a step down or away. -/
theorem foldl_walk_of_cancelFirst
    {names location : List Bytes}
    (clean : ∀ name ∈ names, isNeutral name = false)
    (finished : cancelFirst names = none)
    (start :
      names.head? = some dotDot →
      location.head? = none ∨ location.head? = some dotDot) :
    names.foldl walk location = names.reverse ++ location := by
  induction names generalizing location with
  | nil =>
      rfl
  | cons first rest inductionHypothesis =>
      have stacked : walk location first = first :: location := by
        by_cases isDotDot : first = dotDot
        · subst isDotDot
          rcases location with _ | ⟨last, above⟩
          · rfl
          · rcases start rfl with impossible | atRoot
            · cases impossible
            · obtain rfl := Option.some.inj atRoot
              simp [walk, isNeutral_dotDot]
        · exact walk_of_isProper
            (isProper_of_ne_dotDot (clean first (by simp)) isDotDot) _
      have restClean : ∀ name ∈ rest, isNeutral name = false :=
        fun name member => clean name (List.mem_cons_of_mem _ member)
      have restFinished :
          cancelFirst rest = none ∧
            (rest.head? = some dotDot → first = dotDot) := by
        rcases rest with _ | ⟨second, rest⟩
        · exact ⟨rfl, fun impossible => by cases impossible⟩
        · unfold cancelFirst at finished
          split at finished
          · cases finished
          next apart =>
            refine ⟨Option.map_eq_none_iff.mp finished, ?_⟩
            intro isDotDot
            by_contra down
            exact apart ⟨down, Option.some.inj isDotDot⟩
      rw [List.foldl_cons, stacked,
        inductionHypothesis restClean restFinished.1]
      · simp
      · intro isDotDot
        exact .inr (congrArg some (restFinished.2 isDotDot))

/-- Neutral components can all be left out. -/
theorem resolve_filter (names : List Bytes) :
    resolve (names.filter fun name => !isNeutral name) =
      resolve names := by
  unfold resolve
  congr 1
  generalize ([] : List Bytes) = location
  induction names generalizing location with
  | nil =>
      rfl
  | cons first rest inductionHypothesis =>
      cases step : isNeutral first with
      | true =>
          simp only [step, Bool.not_true, Bool.false_eq_true,
            not_false_eq_true, List.filter_cons_of_neg, List.foldl_cons,
            walk_of_isNeutral step]
          exact inductionHypothesis location
      | false =>
          simp only [step, Bool.not_false, List.filter_cons_of_pos,
            List.foldl_cons]
          exact inductionHypothesis (walk location first)

/-- `lexically_normal` spells the location a path leads to. -/
theorem lexicallyNormal_eq_resolve (path : FilesystemPath) :
    lexicallyNormal path =
      if resolve (components path) = [] then
        [dot]
      else
        resolve (components path) := by
  have named :
      (filenames path).filter (· ≠ dot) =
        (components path).filter fun name => !isNeutral name := by
    unfold filenames components
    rw [List.filter_filter]
    apply List.filter_congr
    intro name _
    cases name <;> simp [isNeutral]
  have clean :
      ∀ name ∈ (components path).filter fun name => !isNeutral name,
        isNeutral name = false := by
    intro name member
    simpa using (List.mem_filter.mp member).2
  unfold lexicallyNormal
  rw [named]
  generalize filtered :
    ((components path).filter fun name => !isNeutral name) = names at clean
  obtain ⟨same, stillClean⟩ := resolve_cancelAll names.length clean
  have finished : cancelFirst (cancelAll names.length names) = none :=
    cancelFirst_cancelAll (Nat.le_refl _)
  have normal :
      resolve (cancelAll names.length names) =
        cancelAll names.length names := by
    rw [resolve,
      foldl_walk_of_cancelFirst stillClean finished fun _ => .inl rfl]
    simp
  rw [← resolve_filter (components path), filtered, ← same, normal]
  dsimp only
  cases cancelAll names.length names with
  | nil =>
      rfl
  | cons =>
      rfl

end NormalForm

end FilesystemPath

end TgGate.Library
