import TgGate.AuthorizationStateMachine

namespace TgGate

open Library

/-!
# Authorization input and the sessions it belongs to

A fresh machine carries generation 0, which no `begin` has returned.  Whoever
observes a state for generation 0 before the first session can have an input
accepted for it.  This module shows that nothing else goes wrong: every other
accepted input belongs to the latest session and to its account.
-/

/-- The state asks for the input. -/
def AuthorizationState.Awaits
    (state : AuthorizationState)
    (input : AuthorizationInput) : Prop :=
  ({ snapshot := { state := state } } :
    AuthorizationStateMachine).accepts input = true

instance
    (state : AuthorizationState)
    (input : AuthorizationInput) :
    Decidable (state.Awaits input) :=
  inferInstanceAs (Decidable (_ = true))

/-- No session has begun. -/
def Unbegun (calls : List AuthorizationCall) : Prop :=
  ∀ accountId, AuthorizationCall.begin accountId ∉ calls

/-- The calls say nothing to a machine without a session. -/
def QuietWhenFresh (calls : List AuthorizationCall) : Prop :=
  ∀ call ∈ calls, call.isEffective {} = false

/-- The latest session has the generation, and the next call its account. -/
def InLatestSession
    (calls : List AuthorizationCall)
    (generation : UInt64)
    (next : AuthorizationCall) : Prop :=
  ∃ earlier accountId later,
    calls = earlier ++ .begin accountId :: later ∧
      Unbegun later ∧
      (authorizationMachine.eventAt
          (authorizationMachine.state earlier)
          (.begin accountId)).output =
        .began generation ∧
      (authorizationMachine.state
          (calls ++ [next])).snapshot.accountId =
        accountId

/-- Every accepted input belongs to the latest session. -/
def InputsFollowSessions (calls : List AuthorizationCall) : Prop :=
  ∀ first generation input rest,
    calls = first ++ .beginInput generation input :: rest →
    (authorizationMachine.eventAt (authorizationMachine.state first)
        (.beginInput generation input)).output =
      .answered (.ok ()) →
    InLatestSession first generation (.beginInput generation input)

/--
Before the first session a state is observed for generation 0, and then an
input it asks for is submitted for generation 0 while that state is the last
one reported.
-/
def SubmitsBeforeSession (calls : List AuthorizationCall) : Prop :=
  ∃ first state detail between input rest,
    calls =
        first ++ .observe 0 state detail ::
          (between ++ .beginInput 0 input :: rest) ∧
      Unbegun first ∧
      QuietWhenFresh between ∧
      state.Awaits input

namespace AuthorizationStateMachine

/-- Which input is accepted depends on the state only. -/
theorem accepts_eq_true_iff
    {machine : AuthorizationStateMachine}
    {input : AuthorizationInput} :
    machine.accepts input = true ↔
      machine.snapshot.state.Awaits input := by
  cases input <;> rfl

/-- An input is accepted for the current generation, if asked for. -/
theorem accepted_iff
    {machine : AuthorizationStateMachine}
    {generation : UInt64}
    {input : AuthorizationInput} :
    (authorizationMachine.eventAt machine
        (.beginInput generation input)).output =
        .answered (.ok ()) ↔
      generation = machine.snapshot.generation ∧
        machine.snapshot.inputInFlight = false ∧
        machine.snapshot.state.Awaits input := by
  rw [← accepts_eq_true_iff]
  simp only [Machine.eventAt, authorizationMachine, beginInput]
  split
  · next stale =>
      simp [stale]
  · next current =>
      have here := Decidable.not_not.mp current
      split
      · next busy =>
          simp [busy]
      · next free =>
          split
          · next unasked =>
              simp only [Bool.not_eq_true'] at unasked
              simp [unasked]
          · next asked =>
              simp only [Bool.not_eq_true', Bool.not_eq_false] at asked
              simp [here, free, asked]

/-- Only `begin` changes the session of a machine. -/
theorem session_step
    (machine : AuthorizationStateMachine)
    {call : AuthorizationCall}
    (unbegun : ∀ accountId, call ≠ .begin accountId) :
    (authorizationMachine.step machine call).1.snapshot.generation =
        machine.snapshot.generation ∧
      (authorizationMachine.step machine call).1.snapshot.accountId =
        machine.snapshot.accountId := by
  obtain ⟨next, reply, stepped, taken⟩ :=
    exists_authorizationStep machine call
  rw [stepped]
  cases taken with
  | begins =>
      exact absurd rfl (unbegun _)
  | moves | accepts | ignores | refuses =>
      exact ⟨rfl, rfl⟩

/-- Without a further `begin` a run stays in its session. -/
theorem session_stateFrom
    (machine : AuthorizationStateMachine)
    {calls : List AuthorizationCall}
    (unbegun : Unbegun calls) :
    (authorizationMachine.stateFrom machine calls).snapshot.generation =
        machine.snapshot.generation ∧
      (authorizationMachine.stateFrom machine calls).snapshot.accountId =
        machine.snapshot.accountId := by
  induction calls generalizing machine with
  | nil =>
      exact ⟨rfl, rfl⟩
  | cons call rest inductionHypothesis =>
      obtain ⟨generation, account⟩ :=
        session_step machine fun accountId same =>
          unbegun accountId (same ▸ List.mem_cons_self)
      have later :=
        inductionHypothesis (authorizationMachine.step machine call).1
          fun accountId member =>
            unbegun accountId (List.mem_cons_of_mem _ member)
      exact ⟨later.1.trans generation, later.2.trans account⟩

/-- A run has a latest session or none at all. -/
theorem exists_latest_or_unbegun (calls : List AuthorizationCall) :
    (∃ earlier accountId later,
      calls = earlier ++ .begin accountId :: later ∧ Unbegun later) ∨
      Unbegun calls := by
  induction calls with
  | nil =>
      exact .inr fun _ => List.not_mem_nil
  | cons call rest inductionHypothesis =>
      rcases inductionHypothesis with
        ⟨earlier, accountId, later, shape, unbegun⟩ | unbegun
      · exact .inl ⟨call :: earlier, accountId, later,
          by rw [shape]; rfl, unbegun⟩
      · by_cases begins : ∃ accountId, call = .begin accountId
        · obtain ⟨accountId, rfl⟩ := begins
          exact .inl ⟨[], accountId, rest, rfl, unbegun⟩
        · refine .inr fun accountId member => ?_
          rcases List.mem_cons.mp member with atHead | inRest
          · exact begins ⟨accountId, atHead.symm⟩
          · exact unbegun accountId inRest

/-- An input accepted after a `begin` belongs to the latest session. -/
theorem inLatestSession_of_accepted
    {earlier later : List AuthorizationCall}
    {accountId : Bytes}
    {generation : UInt64}
    {input : AuthorizationInput}
    (unbegun : Unbegun later)
    (accepted :
      (authorizationMachine.eventAt
          (authorizationMachine.state
            (earlier ++ .begin accountId :: later))
          (.beginInput generation input)).output =
        .answered (.ok ())) :
    InLatestSession (earlier ++ .begin accountId :: later) generation
      (.beginInput generation input) := by
  have reached :
      authorizationMachine.state
          (earlier ++ .begin accountId :: later) =
        authorizationMachine.stateFrom
          ((authorizationMachine.state earlier).begin accountId).2
          later := by
    rw [Machine.state, Machine.stateFrom_append]
    rfl
  obtain ⟨sameGeneration, sameAccount⟩ :=
    session_stateFrom
      ((authorizationMachine.state earlier).begin accountId).2 unbegun
  refine ⟨earlier, accountId, later, rfl, unbegun, ?_, ?_⟩
  · obtain ⟨current, -⟩ := accepted_iff.mp accepted
    rw [current, reached, sameGeneration]
    rfl
  · rw [authorizationMachine.state_snoc,
      (session_step _ fun _ => AuthorizationCall.noConfusion).2, reached,
      sameAccount]
    rfl

/-- A machine without a session listens to generation 0. -/
theorem step_observe_of_fresh
    {machine : AuthorizationStateMachine}
    (fresh : machine.snapshot.generation = 0)
    (state : AuthorizationState)
    (detail : Bytes) :
    (authorizationMachine.step machine (.observe 0 state detail)).1 =
      { snapshot := { machine.snapshot with
          state := state
          detail := detail
          inputInFlight := false } } := by
  simp [authorizationMachine, observe, fresh]

/-- What a machine without a session was last told. -/
inductive LastTold
    (machine : AuthorizationStateMachine)
    (calls : List AuthorizationCall) : Prop where
  | nothing
      (silent :
        ∀ input, ¬ machine.snapshot.state.Awaits input)
  | observed
      (first : List AuthorizationCall)
      (detail : Bytes)
      (between : List AuthorizationCall)
      (shape :
        calls =
          first ++
            .observe 0 machine.snapshot.state detail :: between)
      (quiet : QuietWhenFresh between)

/-- A call without effect leaves what was told. -/
theorem LastTold.snoc
    {machine next : AuthorizationStateMachine}
    {calls : List AuthorizationCall}
    (told : LastTold machine calls)
    (same : next.snapshot.state = machine.snapshot.state)
    {call : AuthorizationCall}
    (quiet : call.isEffective {} = false) :
    LastTold next (calls ++ [call]) := by
  cases told with
  | nothing silent =>
      exact .nothing (by rwa [same])
  | observed first detail between shape quietBetween =>
      refine .observed first detail (between ++ [call]) ?_ ?_
      · rw [shape, same]
        simp
      · intro other member
        rcases List.mem_append.mp member with before | last
        · exact quietBetween other before
        · rw [List.mem_singleton.mp last]
          exact quiet

/-- Before the first session only generation 0 is listened to. -/
theorem lastTold
    {calls : List AuthorizationCall}
    (unbegun : Unbegun calls) :
    (authorizationMachine.state calls).snapshot.generation = 0 ∧
      LastTold (authorizationMachine.state calls) calls := by
  induction calls using List.reverseRecOn with
  | nil =>
      exact ⟨rfl, .nothing fun input => by cases input <;> decide⟩
  | append_singleton calls call inductionHypothesis =>
      obtain ⟨fresh, told⟩ :=
        inductionHypothesis fun accountId member =>
          unbegun accountId (List.mem_append_left _ member)
      have notBegin : ∀ accountId, call ≠ .begin accountId :=
        fun accountId same =>
          unbegun accountId (by simp [same])
      rw [authorizationMachine.state_snoc]
      refine ⟨(session_step _ notBegin).1.trans fresh, ?_⟩
      generalize authorizationMachine.state calls = machine
        at fresh told ⊢
      cases call with
      | begin accountId =>
          exact absurd rfl (notBegin accountId)
      | observe generation state detail =>
          by_cases zero : generation = 0
          · subst zero
            refine .observed calls detail [] ?_
              (fun _ member => by cases member)
            rw [step_observe_of_fresh fresh]
          · refine told.snoc ?_
              (by simp [AuthorizationCall.isEffective, zero])
            simp [authorizationMachine, observe, fresh, zero]
      | fail generation detail =>
          by_cases zero : generation = 0
          · refine .nothing fun input => ?_
            simp only [authorizationMachine, fail, zero, fresh,
              ne_eq, not_true_eq_false, ↓reduceIte]
            cases input <;> decide
          · refine told.snoc ?_
              (by simp [AuthorizationCall.isEffective, zero])
            simp [authorizationMachine, fail, fresh, zero]
      | beginInput generation input =>
          refine told.snoc ?_ rfl
          simp only [authorizationMachine, beginInput]
          split
          · rfl
          · split
            · rfl
            · split <;> rfl

/-- An input accepted before the first session was asked for by nobody. -/
theorem submitsBeforeSession_of_accepted
    {first rest : List AuthorizationCall}
    {generation : UInt64}
    {input : AuthorizationInput}
    (unbegun : Unbegun first)
    (accepted :
      (authorizationMachine.eventAt (authorizationMachine.state first)
          (.beginInput generation input)).output =
        .answered (.ok ())) :
    SubmitsBeforeSession
      (first ++ .beginInput generation input :: rest) := by
  obtain ⟨current, -, asked⟩ := accepted_iff.mp accepted
  obtain ⟨fresh, told⟩ := lastTold unbegun
  rw [fresh] at current
  subst current
  cases told with
  | nothing silent =>
      exact absurd asked (silent input)
  | observed earlier detail between shape quiet =>
      refine ⟨earlier, _, detail, between, input, rest, ?_, ?_, quiet,
        asked⟩
      · conv_lhs => rw [shape]
        simp
      · intro accountId member
        refine unbegun accountId ?_
        rw [shape]
        exact List.mem_append_left _ member

/-- A call without effect is an accepted input or changes nothing. -/
theorem accepted_or_unchanged
    {machine : AuthorizationStateMachine}
    {call : AuthorizationCall}
    (quiet : call.isEffective machine = false) :
    (∃ generation input,
      call = .beginInput generation input ∧
        (authorizationMachine.eventAt machine call).output =
          .answered (.ok ())) ∨
      (authorizationMachine.step machine call).1 = machine := by
  obtain ⟨next, reply, stepped, taken⟩ :=
    exists_authorizationStep machine call
  unfold Machine.eventAt
  rw [stepped]
  cases taken with
  | begins =>
      cases quiet
  | moves _ effective =>
      rw [effective] at quiet
      cases quiet
  | accepts =>
      exact .inl ⟨_, _, rfl, rfl⟩
  | ignores | refuses =>
      exact .inr rfl

/-- A state that asks for a submitted input has one accepted. -/
theorem exists_accepted
    (machine : AuthorizationStateMachine)
    {between : List AuthorizationCall}
    {input : AuthorizationInput}
    (fresh : machine.snapshot.generation = 0)
    (free : machine.snapshot.inputInFlight = false)
    (asked : machine.snapshot.state.Awaits input)
    (quiet : QuietWhenFresh between) :
    ∃ before generation submitted after,
      between ++ [.beginInput 0 input] =
          before ++ .beginInput generation submitted :: after ∧
        Unbegun before ∧
        (authorizationMachine.eventAt
            (authorizationMachine.stateFrom machine before)
            (.beginInput generation submitted)).output =
          .answered (.ok ()) := by
  induction between with
  | nil =>
      exact ⟨[], 0, input, [], rfl, fun _ => List.not_mem_nil,
        accepted_iff.mpr ⟨fresh.symm, free, asked⟩⟩
  | cons call rest inductionHypothesis =>
      have callQuiet : call.isEffective machine = false := by
        have here := quiet call List.mem_cons_self
        unfold AuthorizationCall.isEffective at here ⊢
        rw [fresh]
        exact here
      rcases accepted_or_unchanged callQuiet with
        ⟨generation, submitted, rfl, accepted⟩ | unchanged
      · exact ⟨[], generation, submitted,
          rest ++ [.beginInput 0 input], rfl,
          fun _ => List.not_mem_nil, accepted⟩
      · obtain ⟨before, generation, submitted, after, split, unbegun,
            accepted⟩ :=
          inductionHypothesis fun other member =>
            quiet other (List.mem_cons_of_mem _ member)
        refine ⟨call :: before, generation, submitted, after,
          by rw [List.cons_append, split]; rfl, ?_, ?_⟩
        · intro accountId member
          rcases List.mem_cons.mp member with atHead | inRest
          · rw [← atHead] at callQuiet
            cases callQuiet
          · exact unbegun accountId inRest
        · rw [Machine.stateFrom, unchanged]
          exact accepted

end AuthorizationStateMachine

open AuthorizationStateMachine in
/-- A submission before the first session has one accepted there. -/
theorem exists_accepted_unbegun
    {calls : List AuthorizationCall}
    (submits : SubmitsBeforeSession calls) :
    ∃ first generation input rest,
      calls = first ++ .beginInput generation input :: rest ∧
        Unbegun first ∧
        (authorizationMachine.eventAt (authorizationMachine.state first)
            (.beginInput generation input)).output =
          .answered (.ok ()) := by
  obtain ⟨first, state, detail, between, input, rest, shape, unbegun,
    quiet, asked⟩ := submits
  obtain ⟨fresh, -⟩ := lastTold unbegun
  have observed := step_observe_of_fresh fresh state detail
  obtain ⟨before, generation, submitted, after, split, unbegunBefore,
      accepted⟩ :=
    exists_accepted
      (authorizationMachine.step (authorizationMachine.state first)
        (.observe 0 state detail)).1
      (by rw [observed]; exact fresh)
      (by rw [observed])
      (by rw [observed]; exact asked)
      quiet
  refine ⟨first ++ .observe 0 state detail :: before, generation,
    submitted, after ++ rest, ?_, ?_, ?_⟩
  · rw [shape, List.append_cons between, split]
    simp
  · intro accountId member
    rcases List.mem_append.mp member with inFirst | inLater
    · exact unbegun accountId inFirst
    · rcases List.mem_cons.mp inLater with atObserve | inBefore
      · cases atObserve
      · exact unbegunBefore accountId inBefore
  · rw [Machine.state, Machine.stateFrom_append]
    exact accepted

open AuthorizationStateMachine in
/--
Every accepted input belongs to the latest session, unless one is submitted for
generation 0 before the first session while an observed state asks for it.
-/
theorem inputsFollowSessions_iff (calls : List AuthorizationCall) :
    InputsFollowSessions calls ↔ ¬ SubmitsBeforeSession calls := by
  constructor
  · intro follow submits
    obtain ⟨first, generation, input, rest, shape, unbegun, accepted⟩ :=
      exists_accepted_unbegun submits
    obtain ⟨earlier, accountId, later, begun, -⟩ :=
      follow first generation input rest shape accepted
    refine unbegun accountId ?_
    rw [begun]
    simp
  · intro never first generation input rest shape accepted
    rcases exists_latest_or_unbegun first with
      ⟨earlier, accountId, later, split, unbegun⟩ | unbegun
    · subst split
      exact inLatestSession_of_accepted unbegun accepted
    · refine absurd ?_ never
      rw [shape]
      exact submitsBeforeSession_of_accepted unbegun accepted

/-- A code is accepted although no session has begun. -/
theorem code_accepted_before_session :
    ¬ InputsFollowSessions
      [.observe 0 .waitCode [], .beginInput 0 .code] := by
  intro follow
  obtain ⟨earlier, accountId, later, shape, -⟩ :=
    follow [.observe 0 .waitCode []] 0 .code [] rfl rfl
  have member :
      AuthorizationCall.begin accountId ∈
        [AuthorizationCall.observe 0 .waitCode []] := by
    rw [shape]
    simp
  simp at member

end TgGate
