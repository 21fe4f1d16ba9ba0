import TgGate.Library.Machine
import TgGate.Library.Pool

namespace TgGate.Library

/-!
# Copies of one machine inside a system

A system creates copies of a machine while it runs and moves one of them at a
time.  Every copy then goes through a run of its own, and the history of that
run is what the system's history shows of this copy.
-/

namespace Machine

variable {State Label Output : Type}
variable {MemberState MemberLabel MemberOutput : Type}

/-- A step of one copy, with its position among the copies. -/
abbrev MemberEvent (MemberLabel MemberOutput : Type) :=
  Nat × Event MemberLabel MemberOutput

/-- What a step of the system does to its copies, and what it shows of it. -/
inductive MemberMove
    (member : Machine MemberState MemberLabel MemberOutput)
    (members : List MemberState) :
    Option (MemberEvent MemberLabel MemberOutput) →
    List MemberState → Prop where
  | rests : MemberMove member members none members
  | creates :
      MemberMove member members none (members ++ [member.initial])
  | moves
      {index : Nat}
      {state : MemberState}
      (found : members[index]? = some state)
      (label : MemberLabel) :
      MemberMove member members
        (some (index, member.eventAt state label))
        (members.set index (member.step state label).1)

/-- The events of one copy, in order. -/
def eventsOf
    (index : Nat)
    (events : List (MemberEvent MemberLabel MemberOutput)) :
    List (Event MemberLabel MemberOutput) :=
  events.filterMap fun event =>
    if event.1 = index then some event.2 else none

@[simp] theorem eventsOf_append
    (index : Nat)
    (earlier later : List (MemberEvent MemberLabel MemberOutput)) :
    eventsOf index (earlier ++ later) =
      eventsOf index earlier ++ eventsOf index later :=
  List.filterMap_append

@[simp] theorem eventsOf_singleton_self
    (index : Nat)
    (event : Event MemberLabel MemberOutput) :
    eventsOf index [(index, event)] = [event] := by
  simp [eventsOf]

theorem eventsOf_singleton_of_ne
    {index other : Nat}
    (different : other ≠ index)
    (event : Event MemberLabel MemberOutput) :
    eventsOf index [(other, event)] = [] := by
  simp [eventsOf, different]

/-- Every copy has gone through a run with the events shown of it. -/
structure MembersRun
    (member : Machine MemberState MemberLabel MemberOutput)
    (members : List MemberState)
    (events : List (MemberEvent MemberLabel MemberOutput)) : Prop where
  run :
    ∀ (index : Nat) (state : MemberState),
      members[index]? = some state →
      ∃ labels,
        member.state labels = state ∧
          member.history labels = eventsOf index events
  /-- What does not exist yet has taken no step. -/
  unborn :
    ∀ index, members.length ≤ index → eventsOf index events = []

section Members

variable {member : Machine MemberState MemberLabel MemberOutput}
variable {before after : List MemberState}
variable {events : List (MemberEvent MemberLabel MemberOutput)}
variable {shows : Option (MemberEvent MemberLabel MemberOutput)}

theorem membersRun_nil : member.MembersRun [] [] where
  run _ _ found := by cases found
  unborn _ _ := rfl

/-- A step of the system keeps every copy in a run of its own. -/
theorem MembersRun.step
    (running : member.MembersRun before events)
    (move : member.MemberMove before shows after) :
    member.MembersRun after (events ++ shows.toList) := by
  cases move with
  | rests =>
      rwa [Option.toList_none, List.append_nil]
  | creates =>
      rw [Option.toList_none, List.append_nil]
      constructor
      · intro index state found
        rcases getElem?_concat_cases found with old | ⟨rfl, rfl⟩
        · exact running.run index state old
        · refine ⟨[], rfl, ?_⟩
          rw [running.unborn _ (Nat.le_refl _)]
          rfl
      · intro index beyond
        rw [List.length_append] at beyond
        exact running.unborn index (Nat.le_of_add_right_le beyond)
  | @moves moved state found label =>
      rw [Option.toList_some]
      constructor
      · intro index current isCurrent
        rw [eventsOf_append]
        rcases getElem?_set_cases isCurrent with
          ⟨rfl, rfl⟩ | ⟨different, old⟩
        · obtain ⟨labels, rfl, shown⟩ := running.run index state found
          refine ⟨labels ++ [label], member.state_snoc labels label, ?_⟩
          rw [eventsOf_singleton_self, ← shown]
          exact member.history_snoc labels label
        · rw [eventsOf_singleton_of_ne (Ne.symm different),
            List.append_nil]
          exact running.run index current old
      · intro index beyond
        rw [List.length_set] at beyond
        have bound := (List.getElem?_eq_some_iff.mp found).1
        rw [eventsOf_append, running.unborn index beyond,
          eventsOf_singleton_of_ne (by omega)]
        rfl

/--
Every copy inside a system goes through a run of its own, whose history is what
the system's history shows of it.
-/
theorem membersRun_of_moves
    {system : Machine State Label Output}
    {members : State → List MemberState}
    {show? :
      Output → Option (MemberEvent MemberLabel MemberOutput)}
    (initially : members system.initial = [])
    (moves :
      ∀ current label,
        member.MemberMove (members current)
          (show? (system.step current label).2)
          (members (system.step current label).1))
    (labels : List Label) :
    member.MembersRun
      (members (system.state labels))
      (shown show? (system.history labels)) := by
  induction labels using List.reverseRecOn with
  | nil =>
      rw [state_nil, initially]
      exact membersRun_nil
  | append_singleton labels label inductionHypothesis =>
      rw [state_snoc, history_snoc, shown_append, shown_singleton]
      exact inductionHypothesis.step (moves _ label)

end Members

end Machine

end TgGate.Library
