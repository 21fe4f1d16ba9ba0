import Mathlib.Data.List.Induction

namespace TgGate.Library

/-!
# Runs of deterministic machines

A component that is called one atomic step at a time is a machine: every label
(the call together with everything the outside world supplies to it) moves the
state and is answered with an output.  A run is a list of labels; its history
pairs every label with its answer.

The module collects the run induction, the correspondence between positions of
a history and prefixes of the run, the rules for reaching a goal by allowed
labels, forward simulation and the run of a component inside a system, with what
is shown of it, the unwinding rule for deleting labels that one observer must not
notice, and the relational rule for two runs taken in lockstep.
-/

/-- A deterministic machine that answers every label with an output. -/
structure Machine (State Label Output : Type) where
  initial : State
  step : State → Label → State × Output

/-- One entry of a history: a label and the output that answered it. -/
structure Event (Label Output : Type) where
  label : Label
  output : Output

namespace Machine

variable {State Label Output : Type}

/-- The state reached by taking every label in order. -/
def stateFrom (machine : Machine State Label Output) :
    State → List Label → State
  | state, [] => state
  | state, label :: rest =>
      machine.stateFrom (machine.step state label).1 rest

/-- The labels of a run paired with the outputs that answered them. -/
def historyFrom (machine : Machine State Label Output) :
    State → List Label → List (Event Label Output)
  | _, [] => []
  | state, label :: rest =>
      ⟨label, (machine.step state label).2⟩ ::
        machine.historyFrom (machine.step state label).1 rest

/-- The state a run reaches from the initial state. -/
def state
    (machine : Machine State Label Output)
    (labels : List Label) : State :=
  machine.stateFrom machine.initial labels

/-- The history of a run from the initial state. -/
def history
    (machine : Machine State Label Output)
    (labels : List Label) : List (Event Label Output) :=
  machine.historyFrom machine.initial labels

section Runs

variable (machine : Machine State Label Output)

/-- The event a label contributes when it is taken in a given state. -/
def eventAt (state : State) (label : Label) : Event Label Output :=
  ⟨label, (machine.step state label).2⟩

theorem stateFrom_append
    (start : State)
    (first later : List Label) :
    machine.stateFrom start (first ++ later) =
      machine.stateFrom (machine.stateFrom start first) later := by
  induction first generalizing start with
  | nil =>
      rfl
  | cons label rest inductionHypothesis =>
      exact inductionHypothesis (machine.step start label).1

theorem historyFrom_append
    (start : State)
    (first later : List Label) :
    machine.historyFrom start (first ++ later) =
      machine.historyFrom start first ++
        machine.historyFrom (machine.stateFrom start first) later := by
  induction first generalizing start with
  | nil =>
      rfl
  | cons label rest inductionHypothesis =>
      simp only [List.cons_append, historyFrom, stateFrom]
      rw [inductionHypothesis]

@[simp] theorem state_nil :
    machine.state [] = machine.initial :=
  rfl

@[simp] theorem history_nil :
    machine.history [] = [] :=
  rfl

theorem state_snoc
    (labels : List Label)
    (label : Label) :
    machine.state (labels ++ [label]) =
      (machine.step (machine.state labels) label).1 := by
  simp [state, stateFrom_append, stateFrom]

/-- The state of a run, from the state after one of its labels. -/
theorem state_append_cons
    (first rest : List Label)
    (label : Label) :
    machine.state (first ++ label :: rest) =
      machine.stateFrom (machine.step (machine.state first) label).1
        rest := by
  rw [state, stateFrom_append]
  rfl

theorem history_snoc
    (labels : List Label)
    (label : Label) :
    machine.history (labels ++ [label]) =
      machine.history labels ++
        [machine.eventAt (machine.state labels) label] := by
  simp [history, state, historyFrom_append, historyFrom, eventAt]

theorem history_append
    (first later : List Label) :
    machine.history (first ++ later) =
      machine.history first ++
        machine.historyFrom (machine.state first) later := by
  simp [history, state, historyFrom_append]

@[simp] theorem map_label_historyFrom
    (start : State)
    (labels : List Label) :
    (machine.historyFrom start labels).map Event.label = labels := by
  induction labels generalizing start with
  | nil =>
      rfl
  | cons label rest inductionHypothesis =>
      simp [historyFrom, inductionHypothesis]

@[simp] theorem map_label_history (labels : List Label) :
    (machine.history labels).map Event.label = labels :=
  machine.map_label_historyFrom machine.initial labels

/--
Every position of a history is a step of the run: what stands before the event
is the history of a prefix, and the event is what that prefix's state answers.
-/
theorem exists_run_of_historyFrom_split
    {start : State}
    {labels : List Label}
    {earlier later : List (Event Label Output)}
    {event : Event Label Output}
    (split :
      machine.historyFrom start labels = earlier ++ event :: later) :
    ∃ first label rest,
      labels = first ++ label :: rest ∧
        earlier = machine.historyFrom start first ∧
        event =
          machine.eventAt (machine.stateFrom start first) label ∧
        later =
          machine.historyFrom
            (machine.step (machine.stateFrom start first) label).1
            rest := by
  induction earlier generalizing start labels with
  | nil =>
      cases labels with
      | nil =>
          simp [historyFrom] at split
      | cons label rest =>
          simp only [historyFrom, List.nil_append,
            List.cons.injEq] at split
          exact ⟨[], label, rest, rfl, rfl,
            split.1.symm, split.2.symm⟩
  | cons head earlier inductionHypothesis =>
      cases labels with
      | nil =>
          simp [historyFrom] at split
      | cons label rest =>
          simp only [historyFrom, List.cons_append,
            List.cons.injEq] at split
          rcases split with ⟨headShape, restSplit⟩
          obtain ⟨first, next, later, labelsShape, earlierShape,
              eventShape, laterShape⟩ :=
            inductionHypothesis restSplit
          refine ⟨label :: first, next, later, ?_, ?_,
            eventShape, laterShape⟩
          · rw [labelsShape]
            rfl
          · rw [earlierShape, ← headShape]
            rfl

/-- The prefix of a run that produced everything before one of its events. -/
theorem exists_run_of_history_split
    {labels : List Label}
    {earlier later : List (Event Label Output)}
    {event : Event Label Output}
    (split : machine.history labels = earlier ++ event :: later) :
    ∃ first label rest,
      labels = first ++ label :: rest ∧
        earlier = machine.history first ∧
        event = machine.eventAt (machine.state first) label ∧
        later =
          machine.historyFrom (machine.state (first ++ [label]))
            rest := by
  obtain ⟨first, label, rest, shape, before, here, after⟩ :=
    machine.exists_run_of_historyFrom_split split
  exact ⟨first, label, rest, shape, before, here, by
    rw [after, state_snoc]
    rfl⟩

/--
Run induction.  The invariant may speak about the labels taken, the state
reached and the history recorded; `Admissible` restricts the runs considered
and must be inherited by prefixes.
-/
theorem invariant_of_step
    (Admissible : List Label → Prop)
    (Invariant :
      List Label → State → List (Event Label Output) → Prop)
    (shorter :
      ∀ {labels label},
        Admissible (labels ++ [label]) →
        Admissible labels)
    (initially : Invariant [] machine.initial [])
    (preserved :
      ∀ {labels label},
        Admissible (labels ++ [label]) →
        Invariant labels
          (machine.state labels) (machine.history labels) →
        Invariant (labels ++ [label])
          (machine.step (machine.state labels) label).1
          (machine.history labels ++
            [machine.eventAt (machine.state labels) label]))
    {labels : List Label}
    (admissible : Admissible labels) :
    Invariant labels
      (machine.state labels) (machine.history labels) := by
  induction labels using List.reverseRecOn with
  | nil =>
      exact initially
  | append_singleton labels label inductionHypothesis =>
      rw [state_snoc, history_snoc]
      exact preserved admissible
        (inductionHypothesis (shorter admissible))

/-- A state property kept by every step holds from then on. -/
theorem stateFrom_of_step
    (Property : State → Prop)
    (preserved :
      ∀ {current} label,
        Property current →
        Property (machine.step current label).1)
    {start : State}
    (initially : Property start)
    (labels : List Label) :
    Property (machine.stateFrom start labels) := by
  induction labels generalizing start with
  | nil =>
      exact initially
  | cons label rest inductionHypothesis =>
      exact inductionHypothesis (preserved label initially)

/--
If a property is kept by every step and forces every answer to satisfy
`Allowed`, the whole history satisfies it.
-/
theorem historyFrom_of_step
    (Property : State → Prop)
    (Allowed : Event Label Output → Prop)
    (preserved :
      ∀ {current} label,
        Property current →
        Property (machine.step current label).1)
    (answered :
      ∀ {current} label,
        Property current →
        Allowed (machine.eventAt current label))
    {start : State}
    (initially : Property start)
    {labels : List Label}
    {event : Event Label Output}
    (member : event ∈ machine.historyFrom start labels) :
    Allowed event := by
  induction labels generalizing start with
  | nil =>
      simp [historyFrom] at member
  | cons label rest inductionHypothesis =>
      simp only [historyFrom, List.mem_cons] at member
      rcases member with isHead | inRest
      · rw [isHead]
        exact answered label initially
      · exact inductionHypothesis (preserved label initially) inRest

end Runs

section Reaching

variable (machine : Machine State Label Output)

/-- Some run of allowed labels ends where the goal holds. -/
def CanReach
    (Allowed : Label → Prop)
    (Goal : State → Prop)
    (start : State) : Prop :=
  ∃ labels : List Label,
    (∀ label ∈ labels, Allowed label) ∧
      Goal (machine.stateFrom start labels)

variable {machine}
variable {Allowed : Label → Prop}
variable {Goal Halfway : State → Prop}
variable {start : State}

theorem CanReach.refl (here : Goal start) :
    machine.CanReach Allowed Goal start :=
  ⟨[], List.forall_mem_nil Allowed, here⟩

/-- Go on with one label. -/
theorem CanReach.step
    (label : Label)
    (allowed : Allowed label)
    (later :
      machine.CanReach Allowed Goal (machine.step start label).1) :
    machine.CanReach Allowed Goal start := by
  obtain ⟨labels, allAllowed, reached⟩ := later
  exact ⟨label :: labels,
    List.forall_mem_cons.mpr ⟨allowed, allAllowed⟩, reached⟩

/-- Go on from wherever the first part ends. -/
theorem CanReach.trans
    (first : machine.CanReach Allowed Halfway start)
    (later :
      ∀ state, Halfway state → machine.CanReach Allowed Goal state) :
    machine.CanReach Allowed Goal start := by
  obtain ⟨labels, allAllowed, halfway⟩ := first
  obtain ⟨others, othersAllowed, reached⟩ := later _ halfway
  refine ⟨labels ++ others, ?_, ?_⟩
  · intro label member
    rcases List.mem_append.mp member with member | member
    · exact allAllowed label member
    · exact othersAllowed label member
  · rwa [stateFrom_append]

end Reaching

section Components

variable {ComponentState ComponentLabel ComponentOutput : Type}

/--
A component inside a system: the system state shows the component's state, and
a system label moves the component by at most one of its own labels.  The
component then goes through a run of its own.
-/
theorem view_stateFrom
    (system : Machine State Label Output)
    (component :
      Machine ComponentState ComponentLabel ComponentOutput)
    (view : State → ComponentState)
    (project : Label → Option ComponentLabel)
    (commutes :
      ∀ current label,
        view (system.step current label).1 =
          component.stateFrom (view current) (project label).toList)
    (start : State)
    (labels : List Label) :
    view (system.stateFrom start labels) =
      component.stateFrom (view start) (labels.filterMap project) := by
  induction labels generalizing start with
  | nil =>
      rfl
  | cons label rest inductionHypothesis =>
      rw [stateFrom, inductionHypothesis, commutes]
      cases projected : project label with
      | none =>
          simp [projected, stateFrom]
      | some own =>
          simp [projected, stateFrom]

/-- What a history shows, event by event. -/
def shown
    {Observation : Type}
    (show? : Output → Option Observation)
    (history : List (Event Label Output)) : List Observation :=
  history.filterMap fun event => show? event.output

theorem shown_singleton
    {Observation : Type}
    (show? : Output → Option Observation)
    (event : Event Label Output) :
    shown show? [event] = (show? event.output).toList := by
  simp only [shown, List.filterMap_cons, List.filterMap_nil]
  cases show? event.output <;> rfl

theorem shown_append
    {Observation : Type}
    (show? : Output → Option Observation)
    (earlier later : List (Event Label Output)) :
    shown show? (earlier ++ later) =
      shown show? earlier ++ shown show? later :=
  List.filterMap_append

/--
Every position of what a run shows is a step of the run that shows it: what
stands before is shown by a prefix, and the rest by the steps that follow.
-/
theorem exists_run_of_shown_split
    {Observation : Type}
    (machine : Machine State Label Output)
    {show? : Output → Option Observation}
    {start : State}
    {labels : List Label}
    {earlier later : List Observation}
    {observation : Observation}
    (split :
      shown show? (machine.historyFrom start labels) =
        earlier ++ observation :: later) :
    ∃ first label rest,
      labels = first ++ label :: rest ∧
        shown show? (machine.historyFrom start first) = earlier ∧
        show? (machine.step (machine.stateFrom start first) label).2 =
          some observation ∧
        shown show?
            (machine.historyFrom
              (machine.step (machine.stateFrom start first) label).1
              rest) =
          later := by
  obtain ⟨before, fromHere, shape, showsEarlier, showsRest⟩ :=
    List.filterMap_eq_append_iff.mp split
  obtain ⟨silent, event, after, fromShape, isSilent, here, showsLater⟩ :=
    List.filterMap_eq_cons_iff.mp showsRest
  rw [fromShape, ← List.append_assoc] at shape
  obtain ⟨first, label, rest, labelsShape, beforeShape, rfl, rfl⟩ :=
    machine.exists_run_of_historyFrom_split shape
  refine ⟨first, label, rest, labelsShape, ?_, here, showsLater⟩
  rw [← beforeShape, ← showsEarlier, shown, List.filterMap_append,
    List.filterMap_eq_nil_iff.mpr isSilent, List.append_nil]

/-- What a step of a run shows is among what the run shows. -/
theorem mem_shown
    {Observation : Type}
    (machine : Machine State Label Output)
    {show? : Output → Option Observation}
    {start : State}
    {first rest : List Label}
    {label : Label}
    {observation : Observation}
    (here :
      show? (machine.step (machine.stateFrom start first) label).2 =
        some observation) :
    observation ∈
      shown show? (machine.historyFrom start (first ++ label :: rest)) := by
  refine List.mem_filterMap.mpr
    ⟨machine.eventAt (machine.stateFrom start first) label, ?_, here⟩
  rw [historyFrom_append]
  exact List.mem_append_right _ List.mem_cons_self

/--
Forward simulation: a relation that every step of the system keeps by at most
one step of a specification that shows the same.  Some run of the specification
is then related to every run of the system.
-/
theorem exists_simulating_run
    {Observation : Type}
    (system : Machine State Label Output)
    (specification :
      Machine ComponentState ComponentLabel ComponentOutput)
    (Related : State → ComponentState → Prop)
    (show? : Output → Option Observation)
    (specificationShow? : ComponentOutput → Option Observation)
    (initially : Related system.initial specification.initial)
    (simulates :
      ∀ {current abstract} label,
        Related current abstract →
        ∃ own? : Option ComponentLabel,
          Related (system.step current label).1
              (specification.stateFrom abstract own?.toList) ∧
            (show? (system.step current label).2).toList =
              shown specificationShow?
                (specification.historyFrom abstract own?.toList))
    (labels : List Label) :
    ∃ own,
      Related (system.state labels) (specification.state own) ∧
        shown show? (system.history labels) =
          shown specificationShow? (specification.history own) := by
  induction labels using List.reverseRecOn with
  | nil =>
      exact ⟨[], initially, rfl⟩
  | append_singleton labels label inductionHypothesis =>
      obtain ⟨own, related, sameShown⟩ := inductionHypothesis
      obtain ⟨own?, stillRelated, showsSame⟩ := simulates label related
      have longer :
          specification.state (own ++ own?.toList) =
            specification.stateFrom (specification.state own)
              own?.toList :=
        specification.stateFrom_append specification.initial own _
      refine ⟨own ++ own?.toList, ?_, ?_⟩
      · rw [state_snoc, longer]
        exact stillRelated
      · rw [history_snoc, history_append, shown_append, shown_append,
          sameShown, shown_singleton]
        exact congrArg _ showsSame

/--
A component whose label is decided by the system state as well: it then goes
through some run of its own, and both runs show the same.
-/
theorem exists_component_run
    {Observation : Type}
    (system : Machine State Label Output)
    (component :
      Machine ComponentState ComponentLabel ComponentOutput)
    (view : State → ComponentState)
    (own? : State → Label → Option ComponentLabel)
    (show? : Output → Option Observation)
    (componentShow? : ComponentOutput → Option Observation)
    (initially : view system.initial = component.initial)
    (moves :
      ∀ current label,
        view (system.step current label).1 =
          component.stateFrom (view current)
            (own? current label).toList)
    (shows :
      ∀ current label,
        (show? (system.step current label).2).toList =
          shown componentShow?
            (component.historyFrom (view current)
              (own? current label).toList))
    (labels : List Label) :
    ∃ own,
      view (system.state labels) = component.state own ∧
        shown show? (system.history labels) =
          shown componentShow? (component.history own) := by
  refine exists_simulating_run system component
    (fun current abstract => view current = abstract) show?
    componentShow? initially ?_ labels
  rintro current _ label rfl
  exact ⟨own? current label, moves current label, shows current label⟩

end Components

section Unwinding

variable (machine : Machine State Label Output)
variable {Observation : Type}

/--
An unwinding relation between a full run and the run with the hidden labels
deleted.  It sees the labels still to come, so that assumptions about the rest
of the run can be consumed step by step.  Of the remaining events only what
`observe` shows has to agree.
-/
structure Unwinding
    (keep : Label → Bool)
    (observe : Event Label Output → Observation)
    (Related : List Label → State → State → Prop) : Prop where
  hidden :
    ∀ {label rest full purged},
      keep label = false →
      Related (label :: rest) full purged →
      Related rest (machine.step full label).1 purged
  visible :
    ∀ {label rest full purged},
      keep label = true →
      Related (label :: rest) full purged →
      Related rest
        (machine.step full label).1 (machine.step purged label).1
  observed :
    ∀ {label rest full purged},
      keep label = true →
      Related (label :: rest) full purged →
      observe (machine.eventAt full label) =
        observe (machine.eventAt purged label)

namespace Unwinding

variable {machine}
variable {keep : Label → Bool}
variable {observe : Event Label Output → Observation}
variable {Related : List Label → State → State → Prop}

/-- The relation holds again after any prefix of the run. -/
theorem related_stateFrom
    (unwinding : machine.Unwinding keep observe Related)
    {first rest : List Label}
    {full purged : State}
    (related : Related (first ++ rest) full purged) :
    Related rest
      (machine.stateFrom full first)
      (machine.stateFrom purged (first.filter keep)) := by
  induction first generalizing full purged with
  | nil =>
      exact related
  | cons label first inductionHypothesis =>
      cases kept : keep label with
      | false =>
          simp only [List.filter_cons, kept, Bool.false_eq_true,
            ↓reduceIte, stateFrom]
          exact inductionHypothesis (unwinding.hidden kept related)
      | true =>
          simp only [List.filter_cons, kept, ↓reduceIte, stateFrom]
          exact inductionHypothesis (unwinding.visible kept related)

/-- Deleting the hidden labels leaves every visible observation unchanged. -/
theorem observe_historyFrom
    (unwinding : machine.Unwinding keep observe Related)
    {labels : List Label}
    {full purged : State}
    (related : Related labels full purged) :
    ((machine.historyFrom full labels).filter
        (fun event => keep event.label)).map observe =
      (machine.historyFrom purged (labels.filter keep)).map
        observe := by
  induction labels generalizing full purged with
  | nil =>
      rfl
  | cons label rest inductionHypothesis =>
      cases kept : keep label with
      | false =>
          simp only [historyFrom, List.filter_cons, kept,
            Bool.false_eq_true, ↓reduceIte]
          exact inductionHypothesis (unwinding.hidden kept related)
      | true =>
          simp only [historyFrom, List.filter_cons, kept,
            ↓reduceIte, List.map_cons]
          rw [inductionHypothesis (unwinding.visible kept related)]
          congr 1
          exact unwinding.observed kept related

end Unwinding

end Unwinding

section Lockstep

/--
Two runs of one length taken label by label.  `Allowed` says how the labels may
differ in the states in which they are taken.
-/
def Lockstep
    (machine : Machine State Label Output)
    (Allowed : State → State → Label → Label → Prop) :
    State → State → List Label → List Label → Prop
  | _, _, [], [] => True
  | first, second, label :: rest, other :: others =>
      Allowed first second label other ∧
        machine.Lockstep Allowed
          (machine.step first label).1 (machine.step second other).1
          rest others
  | _, _, _, _ => False

/-- A relation kept by every pair of steps holds after two such runs. -/
theorem related_of_lockstep
    (machine : Machine State Label Output)
    {Allowed : State → State → Label → Label → Prop}
    (Related : State → State → Prop)
    (preserved :
      ∀ {first second label other},
        Related first second →
        Allowed first second label other →
        Related
          (machine.step first label).1 (machine.step second other).1)
    {first second : State}
    {labels others : List Label}
    (initially : Related first second)
    (lockstep : machine.Lockstep Allowed first second labels others) :
    Related
      (machine.stateFrom first labels)
      (machine.stateFrom second others) := by
  induction labels generalizing first second others with
  | nil =>
      cases others with
      | nil =>
          exact initially
      | cons =>
          exact lockstep.elim
  | cons label rest inductionHypothesis =>
      cases others with
      | nil =>
          exact lockstep.elim
      | cons other others =>
          rcases lockstep with ⟨allowed, lockstep⟩
          have next := preserved initially allowed
          exact @inductionHypothesis _ _ others next lockstep

end Lockstep

end Machine

end TgGate.Library
