import Mathlib.Data.List.Nodup
import TgGate.Library.ByteString
import TgGate.Library.Machine

namespace TgGate

open Library

/-!
# The authorization state machine

`AuthorizationStateMachine` accepts the commands of the operator only for the
current session and only while TDLib asks for them.  A session is known by the
generation that `begin` returned for it.  Overlapping sessions may go on calling
the machine; what they still say must not be noticed.
-/

/-- `AuthorizationState`. -/
inductive AuthorizationState where
  | stopped
  | waitTdlibParameters
  | waitPhoneNumber
  | waitEmailAddress
  | waitEmailCode
  | waitCode
  | waitRegistration
  | waitPassword
  | waitOtherDeviceConfirmation
  | ready
  | loggingOut
  | closing
  | closed
  | failed
  deriving Repr, DecidableEq

/-- `AuthorizationInput`. -/
inductive AuthorizationInput where
  | phoneNumber
  | emailAddress
  | emailCode
  | code
  | registration
  | password
  deriving Repr, DecidableEq

/-- `AuthorizationSnapshot`. -/
structure AuthorizationSnapshot where
  accountId : Bytes := []
  generation : UInt64 := 0
  state : AuthorizationState := .stopped
  inputInFlight : Bool := false
  detail : Bytes := []
  deriving DecidableEq

/-- The snapshot is all the machine consists of. -/
structure AuthorizationStateMachine where
  snapshot : AuthorizationSnapshot := {}
  deriving DecidableEq

namespace AuthorizationStateMachine

/-- `begin`. -/
def begin
    (accountId : Bytes)
    (machine : AuthorizationStateMachine) :
    UInt64 × AuthorizationStateMachine :=
  let generation := machine.snapshot.generation + 1
  (generation,
    { snapshot := {
        accountId := accountId
        generation := generation
        state := .waitTdlibParameters
        inputInFlight := false
        detail := []
      } })

/-- `observe`. -/
def observe
    (generation : UInt64)
    (state : AuthorizationState)
    (detail : Bytes)
    (machine : AuthorizationStateMachine) : AuthorizationStateMachine :=
  if generation ≠ machine.snapshot.generation then
    machine
  else
    { snapshot := { machine.snapshot with
        state := state
        detail := detail
        inputInFlight := false } }

/-- `fail`. -/
def fail
    (generation : UInt64)
    (detail : Bytes)
    (machine : AuthorizationStateMachine) : AuthorizationStateMachine :=
  if generation ≠ machine.snapshot.generation then
    machine
  else
    { snapshot := { machine.snapshot with
        state := .failed
        detail := detail
        inputInFlight := false } }

/-- `accepts`. -/
def accepts
    (machine : AuthorizationStateMachine) : AuthorizationInput → Bool
  | .phoneNumber => machine.snapshot.state = .waitPhoneNumber
  | .emailAddress => machine.snapshot.state = .waitEmailAddress
  | .emailCode => machine.snapshot.state = .waitEmailCode
  | .code => machine.snapshot.state = .waitCode
  | .registration => machine.snapshot.state = .waitRegistration
  | .password => machine.snapshot.state = .waitPassword

/-- The error of an input that belongs to another session. -/
def staleInput : Bytes :=
  bytes "Authorization input belongs to a stale account session"

/-- `begin_input`: the error, unless the input is accepted. -/
def beginInput
    (generation : UInt64)
    (input : AuthorizationInput)
    (machine : AuthorizationStateMachine) :
    Except Bytes Unit × AuthorizationStateMachine :=
  if generation ≠ machine.snapshot.generation then
    (.error staleInput, machine)
  else if machine.snapshot.inputInFlight then
    (.error (bytes "An authorization request is already in flight"),
      machine)
  else if !machine.accepts input then
    (.error (bytes "TDLib is not requesting this authorization input"),
      machine)
  else
    (.ok (),
      { snapshot := { machine.snapshot with inputInFlight := true } })

end AuthorizationStateMachine

/-- A call of the machine. -/
inductive AuthorizationCall where
  | begin (accountId : Bytes)
  | observe
      (generation : UInt64)
      (state : AuthorizationState)
      (detail : Bytes)
  | fail (generation : UInt64) (detail : Bytes)
  | beginInput (generation : UInt64) (input : AuthorizationInput)

/-- What a call returns. -/
inductive AuthorizationReply where
  | began (generation : UInt64)
  | returned
  | answered (result : Except Bytes Unit)

/-- The runs of the authorization state machine. -/
def authorizationMachine :
    Machine AuthorizationStateMachine
      AuthorizationCall AuthorizationReply where
  initial := {}
  step machine
    | .begin accountId =>
        let (generation, next) := machine.begin accountId
        (next, .began generation)
    | .observe generation state detail =>
        (machine.observe generation state detail, .returned)
    | .fail generation detail =>
        (machine.fail generation detail, .returned)
    | .beginInput generation input =>
        let (result, next) := machine.beginInput generation input
        (next, .answered result)

namespace AuthorizationCall

/-- The session a call is addressed to; `begin` is addressed to none. -/
def generation? : AuthorizationCall → Option UInt64
  | .begin _ => none
  | .observe generation _ _ => some generation
  | .fail generation _ => some generation
  | .beginInput generation _ => some generation

/-- The call is addressed to another session than the latest one. -/
def isStale (latest? : Option UInt64) (call : AuthorizationCall) : Bool :=
  match latest?, call.generation? with
  | some latest, some generation => generation != latest
  | _, _ => false

/-- The call changes what TDLib is known to ask for. -/
def isEffective (machine : AuthorizationStateMachine) :
    AuthorizationCall → Bool
  | .begin _ => true
  | .observe generation _ _ => generation == machine.snapshot.generation
  | .fail generation _ => generation == machine.snapshot.generation
  | .beginInput _ _ => false

end AuthorizationCall

/-- An event of a run of the authorization state machine. -/
abbrev AuthorizationEvent := Event AuthorizationCall AuthorizationReply

namespace AuthorizationEvent

/-- The generation of the latest session after an event. -/
def latestAfter
    (latest? : Option UInt64)
    (event : AuthorizationEvent) : Option UInt64 :=
  match event.output with
  | .began generation => some generation
  | _ => latest?

/-- The generation an event returned, if it is a `begin`. -/
def began? (event : AuthorizationEvent) : Option UInt64 :=
  match event.output with
  | .began generation => some generation
  | _ => none

/-- The input an event accepts, if it accepts one. -/
def accepted? (event : AuthorizationEvent) : Option AuthorizationInput :=
  match event.label, event.output with
  | .beginInput _ input, .answered (.ok ()) => some input
  | _, _ => none

end AuthorizationEvent

/-- The generation the latest `begin` of a history returned. -/
def latestGeneration? (history : List AuthorizationEvent) : Option UInt64 :=
  history.foldl AuthorizationEvent.latestAfter none

/-- The generations the calls of `begin` returned, in order. -/
def generations (history : List AuthorizationEvent) : List UInt64 :=
  history.filterMap AuthorizationEvent.began?

/-- The inputs a history accepts, in order. -/
def acceptedInputs
    (history : List AuthorizationEvent) : List AuthorizationInput :=
  history.filterMap AuthorizationEvent.accepted?

/-- What is left of a history without its stale events. -/
def withoutStale :
    Option UInt64 → List AuthorizationEvent → List AuthorizationEvent
  | _, [] => []
  | latest?, event :: rest =>
      if event.label.isStale latest? then
        withoutStale latest? rest
      else
        event ::
          withoutStale
            (AuthorizationEvent.latestAfter latest? event) rest

/-- What a call can do, guards included. -/
inductive AuthorizationStep (machine : AuthorizationStateMachine) :
    AuthorizationCall →
    AuthorizationStateMachine →
    AuthorizationReply → Prop where
  | begins
      {accountId : Bytes} :
      AuthorizationStep machine (.begin accountId)
        (machine.begin accountId).2
        (.began (machine.snapshot.generation + 1))
  | moves
      {call : AuthorizationCall}
      {state : AuthorizationState}
      {detail : Bytes}
      (current : call.generation? = some machine.snapshot.generation)
      (effective : call.isEffective machine = true) :
      AuthorizationStep machine call
        { snapshot := { machine.snapshot with
            state := state
            detail := detail
            inputInFlight := false } }
        .returned
  | accepts
      {input : AuthorizationInput}
      (free : machine.snapshot.inputInFlight = false)
      (asked : machine.accepts input = true) :
      AuthorizationStep machine
        (.beginInput machine.snapshot.generation input)
        { snapshot := { machine.snapshot with inputInFlight := true } }
        (.answered (.ok ()))
  | ignores
      {call : AuthorizationCall}
      (stale : call.isEffective machine = false)
      (silent : ∀ generation input, call ≠ .beginInput generation input) :
      AuthorizationStep machine call machine .returned
  | refuses
      {generation : UInt64}
      {input : AuthorizationInput}
      {error : Bytes}
      (reason :
        generation ≠ machine.snapshot.generation →
          error = AuthorizationStateMachine.staleInput) :
      AuthorizationStep machine (.beginInput generation input) machine
        (.answered (.error error))

/-- Every call of the machine is one of these. -/
theorem authorizationStep
    (machine : AuthorizationStateMachine)
    (call : AuthorizationCall) :
    AuthorizationStep machine call
      (authorizationMachine.step machine call).1
      (authorizationMachine.step machine call).2 := by
  cases call with
  | begin accountId =>
      exact .begins
  | observe generation state detail =>
      simp only [authorizationMachine,
        AuthorizationStateMachine.observe]
      split
      next stale =>
        exact .ignores (by simpa [AuthorizationCall.isEffective])
          (fun _ _ => AuthorizationCall.noConfusion)
      next current =>
        have here := Decidable.not_not.mp current
        subst here
        exact .moves rfl (by simp [AuthorizationCall.isEffective])
  | fail generation detail =>
      simp only [authorizationMachine, AuthorizationStateMachine.fail]
      split
      next stale =>
        exact .ignores (by simpa [AuthorizationCall.isEffective])
          (fun _ _ => AuthorizationCall.noConfusion)
      next current =>
        have here := Decidable.not_not.mp current
        subst here
        exact .moves rfl (by simp [AuthorizationCall.isEffective])
  | beginInput generation input =>
      simp only [authorizationMachine,
        AuthorizationStateMachine.beginInput]
      split
      next stale =>
        exact .refuses (fun _ => rfl)
      next current =>
        have here := Decidable.not_not.mp current
        subst here
        split
        next busy =>
          exact .refuses (fun different => absurd rfl different)
        next free =>
          split
          next unasked =>
            exact .refuses (fun different => absurd rfl different)
          next asked =>
            exact .accepts (by simpa using free) (by simpa using asked)

/-- What a call returns is one of these steps. -/
theorem exists_authorizationStep
    (machine : AuthorizationStateMachine)
    (call : AuthorizationCall) :
    ∃ next reply,
      authorizationMachine.step machine call = (next, reply) ∧
        AuthorizationStep machine call next reply :=
  ⟨_, _, rfl, authorizationStep machine call⟩

namespace AuthorizationStateMachine

/-- The snapshot carries the generation of the latest session, if any. -/
def Knows
    (machine : AuthorizationStateMachine)
    (latest? : Option UInt64) : Prop :=
  ∀ latest, latest? = some latest → machine.snapshot.generation = latest

section Stale

variable {machine : AuthorizationStateMachine}
variable {latest? : Option UInt64}

theorem knows_step
    (knows : machine.Knows latest?)
    (call : AuthorizationCall) :
    (authorizationMachine.step machine call).1.Knows
      (AuthorizationEvent.latestAfter latest?
        (authorizationMachine.eventAt machine call)) := by
  obtain ⟨next, reply, stepped, taken⟩ :=
    exists_authorizationStep machine call
  unfold Machine.eventAt AuthorizationEvent.latestAfter
  rw [stepped]
  intro latest isLatest
  cases taken with
  | begins =>
      exact Option.some.inj isLatest
  | moves | accepts | ignores | refuses =>
      exact knows latest isLatest

/-- A stale call is addressed to a generation the snapshot does not carry. -/
theorem ne_generation_of_isStale
    {call : AuthorizationCall}
    (knows : machine.Knows latest?)
    (stale : call.isStale latest? = true) :
    ∃ generation,
      call.generation? = some generation ∧
        generation ≠ machine.snapshot.generation := by
  cases isLatest : latest? with
  | none =>
      simp [AuthorizationCall.isStale, isLatest] at stale
  | some latest =>
      cases addressed : call.generation? with
      | none =>
          simp [AuthorizationCall.isStale, isLatest, addressed] at stale
      | some generation =>
          refine ⟨generation, rfl, ?_⟩
          rw [knows latest isLatest]
          simpa [AuthorizationCall.isStale, isLatest, addressed]
            using stale

/-- A stale call changes nothing, and a stale input is refused. -/
theorem step_of_isStale
    {call : AuthorizationCall}
    (knows : machine.Knows latest?)
    (stale : call.isStale latest? = true) :
    (authorizationMachine.step machine call).1 = machine ∧
      ∀ generation input,
        call = .beginInput generation input →
        (authorizationMachine.step machine call).2 =
          .answered (.error staleInput) := by
  obtain ⟨generation, addressed, different⟩ :=
    ne_generation_of_isStale knows stale
  obtain ⟨next, reply, stepped, taken⟩ :=
    exists_authorizationStep machine call
  rw [stepped]
  cases taken with
  | begins =>
      cases addressed
  | moves current =>
      rw [current] at addressed
      exact absurd (Option.some.inj addressed).symm different
  | accepts =>
      exact absurd (Option.some.inj addressed).symm different
  | ignores _ silent =>
      exact ⟨rfl, fun _ _ isInput => absurd isInput (silent _ _)⟩
  | refuses reason =>
      have here := Option.some.inj addressed
      subst here
      refine ⟨rfl, ?_⟩
      intro _ _ _
      rw [reason different]

/-- Without the stale calls the same state is reached in the same way. -/
theorem run_withoutStale
    (calls : List AuthorizationCall)
    (knows : machine.Knows latest?) :
    authorizationMachine.stateFrom machine
          ((withoutStale latest?
            (authorizationMachine.historyFrom machine calls)).map
            Event.label) =
        authorizationMachine.stateFrom machine calls ∧
      authorizationMachine.historyFrom machine
          ((withoutStale latest?
            (authorizationMachine.historyFrom machine calls)).map
            Event.label) =
        withoutStale latest?
          (authorizationMachine.historyFrom machine calls) := by
  induction calls generalizing machine latest? with
  | nil =>
      exact ⟨rfl, rfl⟩
  | cons call rest inductionHypothesis =>
      cases stale : call.isStale latest? with
      | true =>
          obtain ⟨unchanged, -⟩ := step_of_isStale knows stale
          simp only [Machine.historyFrom, withoutStale, stale,
            ↓reduceIte, Machine.stateFrom, unchanged]
          exact inductionHypothesis knows
      | false =>
          have next := inductionHypothesis (knows_step knows call)
          simp only [Machine.historyFrom, withoutStale, stale,
            Bool.false_eq_true, ↓reduceIte, List.map_cons,
            Machine.stateFrom, List.cons.injEq, true_and]
          exact next

/-- The latest generation of a run is the one of its last snapshot. -/
theorem knows_state (calls : List AuthorizationCall) :
    (authorizationMachine.state calls).Knows
      (latestGeneration? (authorizationMachine.history calls)) := by
  induction calls using List.reverseRecOn with
  | nil =>
      intro latest impossible
      cases impossible
  | append_singleton calls call inductionHypothesis =>
      rw [authorizationMachine.state_snoc,
        authorizationMachine.history_snoc, latestGeneration?,
        List.foldl_append]
      exact knows_step inductionHypothesis call

end Stale

section InFlight

/-- An input in flight is the last one accepted, and it is asked for. -/
def AwaitsAccepted
    (machine : AuthorizationStateMachine)
    (history : List AuthorizationEvent) : Prop :=
  machine.snapshot.inputInFlight = true →
    ∃ input,
      (acceptedInputs history).getLast? = some input ∧
        machine.accepts input = true

theorem awaitsAccepted (calls : List AuthorizationCall) :
    (authorizationMachine.state calls).AwaitsAccepted
      (authorizationMachine.history calls) := by
  induction calls using List.reverseRecOn with
  | nil =>
      intro impossible
      cases impossible
  | append_singleton calls call inductionHypothesis =>
      rw [authorizationMachine.state_snoc,
        authorizationMachine.history_snoc]
      generalize authorizationMachine.state calls = machine
        at inductionHypothesis ⊢
      obtain ⟨next, reply, stepped, taken⟩ :=
        exists_authorizationStep machine call
      unfold Machine.eventAt
      rw [stepped]
      intro inFlight
      cases taken with
      | begins | moves =>
          cases inFlight
      | accepts free asked =>
          refine ⟨_, ?_, asked⟩
          simp [acceptedInputs, AuthorizationEvent.accepted?]
      | ignores | refuses =>
          obtain ⟨input, last, asked⟩ := inductionHypothesis inFlight
          refine ⟨input, ?_, asked⟩
          simpa [acceptedInputs, AuthorizationEvent.accepted?] using last

/-- No call of the run changes what TDLib is known to ask for. -/
def Undisturbed
    (machine : AuthorizationStateMachine)
    (calls : List AuthorizationCall) : Prop :=
  ∀ before call after,
    calls = before ++ call :: after →
    call.isEffective (authorizationMachine.stateFrom machine before) =
      false

theorem undisturbed_cons
    {machine : AuthorizationStateMachine}
    {call : AuthorizationCall}
    {rest : List AuthorizationCall}
    (undisturbed : machine.Undisturbed (call :: rest)) :
    call.isEffective machine = false ∧
      (authorizationMachine.step machine call).1.Undisturbed rest := by
  constructor
  · exact undisturbed [] call rest rfl
  · intro before next after shape
    have here := undisturbed (call :: before) next after
    rw [shape] at here
    exact here rfl

/-- A call without effect is an accepted input or changes nothing. -/
theorem step_of_not_isEffective
    {machine : AuthorizationStateMachine}
    {call : AuthorizationCall}
    (quiet : call.isEffective machine = false) :
    (authorizationMachine.step machine call).1 = machine ∧
        AuthorizationEvent.accepted?
            (authorizationMachine.eventAt machine call) = none ∨
      machine.snapshot.inputInFlight = false ∧
        (authorizationMachine.step machine call).1.snapshot.inputInFlight =
          true := by
  obtain ⟨next, reply, stepped, taken⟩ :=
    exists_authorizationStep machine call
  unfold Machine.eventAt
  rw [stepped]
  cases taken with
  | begins =>
      cases quiet
  | moves _ effective =>
      rw [effective] at quiet
      cases quiet
  | accepts free =>
      exact .inr ⟨free, rfl⟩
  | ignores _ silent =>
      refine .inl ⟨rfl, ?_⟩
      cases call <;> rfl
  | refuses =>
      exact .inl ⟨rfl, rfl⟩

theorem acceptedInputs_historyFrom_cons
    (machine : AuthorizationStateMachine)
    (call : AuthorizationCall)
    (rest : List AuthorizationCall) :
    acceptedInputs
        (authorizationMachine.historyFrom machine (call :: rest)) =
      (AuthorizationEvent.accepted?
          (authorizationMachine.eventAt machine call)).toList ++
        acceptedInputs
          (authorizationMachine.historyFrom
            (authorizationMachine.step machine call).1 rest) := by
  rw [Machine.historyFrom, acceptedInputs, List.filterMap_cons]
  cases accepted :
      AuthorizationEvent.accepted?
        (authorizationMachine.eventAt machine call) with
  | none =>
      rw [← Machine.eventAt, accepted]
      rfl
  | some input =>
      rw [← Machine.eventAt, accepted]
      rfl

/-- While an input is in flight no further one is accepted. -/
theorem acceptedInputs_of_inputInFlight
    {machine : AuthorizationStateMachine}
    {calls : List AuthorizationCall}
    (inFlight : machine.snapshot.inputInFlight = true)
    (undisturbed : machine.Undisturbed calls) :
    acceptedInputs (authorizationMachine.historyFrom machine calls) =
      [] := by
  induction calls generalizing machine with
  | nil =>
      rfl
  | cons call rest inductionHypothesis =>
      obtain ⟨quiet, later⟩ := undisturbed_cons undisturbed
      rcases step_of_not_isEffective quiet with
        ⟨same, refused⟩ | ⟨free, -⟩
      · rw [same] at later
        rw [acceptedInputs_historyFrom_cons, refused, same]
        exact inductionHypothesis inFlight later
      · rw [inFlight] at free
        cases free

/-- While nothing else happens at most one input is accepted. -/
theorem length_acceptedInputs_le_one
    {machine : AuthorizationStateMachine}
    {calls : List AuthorizationCall}
    (undisturbed : machine.Undisturbed calls) :
    (acceptedInputs
      (authorizationMachine.historyFrom machine calls)).length ≤ 1 := by
  induction calls generalizing machine with
  | nil =>
      exact Nat.zero_le 1
  | cons call rest inductionHypothesis =>
      obtain ⟨quiet, later⟩ := undisturbed_cons undisturbed
      rcases step_of_not_isEffective quiet with
        ⟨same, refused⟩ | ⟨-, inFlight⟩
      · rw [same] at later
        rw [acceptedInputs_historyFrom_cons, refused, same]
        exact inductionHypothesis later
      · rw [acceptedInputs_historyFrom_cons,
          acceptedInputs_of_inputInFlight inFlight later,
          List.append_nil]
        exact Option.length_toList_le

end InFlight

/-- The counter numbers the sessions from one. -/
theorem generations_eq (calls : List AuthorizationCall) :
    (authorizationMachine.state calls).snapshot.generation =
        UInt64.ofNat
          (generations (authorizationMachine.history calls)).length ∧
      generations (authorizationMachine.history calls) =
        (List.range
          (generations (authorizationMachine.history calls)).length).map
          (fun earlier => UInt64.ofNat (earlier + 1)) := by
  induction calls using List.reverseRecOn with
  | nil =>
      exact ⟨rfl, rfl⟩
  | append_singleton calls call inductionHypothesis =>
      rcases inductionHypothesis with ⟨counter, numbered⟩
      rw [authorizationMachine.state_snoc,
        authorizationMachine.history_snoc]
      simp only [generations, List.filterMap_append] at counter numbered ⊢
      generalize authorizationMachine.state calls = machine
        at counter ⊢
      generalize List.filterMap AuthorizationEvent.began?
        (authorizationMachine.history calls) = earlier
        at counter numbered ⊢
      obtain ⟨next, reply, stepped, taken⟩ :=
        exists_authorizationStep machine call
      unfold Machine.eventAt
      rw [stepped]
      cases taken with
      | begins =>
          have following :
              machine.snapshot.generation + 1 =
                UInt64.ofNat (earlier.length + 1) := by
            rw [counter]
            simp
          simp only [AuthorizationEvent.began?, following,
            List.filterMap_cons, List.filterMap_nil,
            List.length_append, List.length_singleton]
          rw [List.range_succ, List.map_append, ← numbered]
          exact ⟨following, rfl⟩
      | moves | accepts | ignores | refuses =>
          simp only [AuthorizationEvent.began?, List.filterMap_cons,
            List.filterMap_nil, List.append_nil]
          exact ⟨counter, numbered⟩

/-- Fewer than 2^64 sessions have different generations. -/
theorem nodup_generations
    {calls : List AuthorizationCall}
    (bounded :
      (generations (authorizationMachine.history calls)).length <
        2 ^ 64) :
    (generations (authorizationMachine.history calls)).Nodup := by
  rw [(generations_eq calls).2]
  apply List.Nodup.map_on _ List.nodup_range
  intro first firstMember second secondMember same
  have firstBound := List.mem_range.mp firstMember
  have secondBound := List.mem_range.mp secondMember
  have values := congrArg UInt64.toNat same
  simp only [UInt64.toNat_ofNat'] at values
  omega

end AuthorizationStateMachine

/-- What a run of the authorization state machine guarantees. -/
structure SoundAuthorization (calls : List AuthorizationCall) : Prop where
  /-- Of fewer than 2^64 sessions each has a generation of its own. -/
  distinct :
    (generations (authorizationMachine.history calls)).length < 2 ^ 64 →
    (generations (authorizationMachine.history calls)).Nodup
  /-- A stale call leaves the snapshot unchanged; a stale input is refused. -/
  stale :
    ∀ first call rest,
      calls = first ++ call :: rest →
      call.isStale
          (latestGeneration? (authorizationMachine.history first)) =
        true →
      authorizationMachine.state (first ++ [call]) =
          authorizationMachine.state first ∧
        ∀ generation input,
          call = .beginInput generation input →
          (authorizationMachine.eventAt
              (authorizationMachine.state first) call).output =
            .answered (.error AuthorizationStateMachine.staleInput)
  /-- Without the stale calls the run ends in the same snapshot. -/
  sameSnapshot :
    authorizationMachine.state
        ((withoutStale none (authorizationMachine.history calls)).map
          Event.label) =
      authorizationMachine.state calls
  /-- Without the stale calls the others return what they returned. -/
  sameResults :
    authorizationMachine.history
        ((withoutStale none (authorizationMachine.history calls)).map
          Event.label) =
      withoutStale none (authorizationMachine.history calls)
  /-- While an input is in flight the state asks for the last one accepted. -/
  inFlight :
    (authorizationMachine.state calls).AwaitsAccepted
      (authorizationMachine.history calls)
  /-- Between two effective calls at most one input is accepted. -/
  once :
    ∀ first between rest,
      calls = first ++ between ++ rest →
      (authorizationMachine.state first).Undisturbed between →
      (acceptedInputs
        (authorizationMachine.historyFrom
          (authorizationMachine.state first) between)).length ≤ 1

/--
What stale sessions still say is not noticed, an input in flight is one the
current state asks for, and it is accepted only once.
-/
theorem soundAuthorization (calls : List AuthorizationCall) :
    SoundAuthorization calls where
  distinct := AuthorizationStateMachine.nodup_generations
  stale := by
    intro first call rest _ stale
    rw [authorizationMachine.state_snoc]
    exact AuthorizationStateMachine.step_of_isStale
      (AuthorizationStateMachine.knows_state first) stale
  sameSnapshot :=
    (AuthorizationStateMachine.run_withoutStale calls
      (AuthorizationStateMachine.knows_state [])).1
  sameResults :=
    (AuthorizationStateMachine.run_withoutStale calls
      (AuthorizationStateMachine.knows_state [])).2
  inFlight := AuthorizationStateMachine.awaitsAccepted calls
  once := by
    intro first between rest _ undisturbed
    exact AuthorizationStateMachine.length_acceptedInputs_le_one undisturbed

/-- The stale password of an earlier session is deleted from the run. -/
example :
    (withoutStale none
      (authorizationMachine.history
        [.begin (bytes "work"), .observe 1 .waitCode [],
          .beginInput 1 .code, .observe 1 .waitPassword [],
          .begin (bytes "work"), .beginInput 1 .password])).length = 5 := by
  decide +kernel

end TgGate
