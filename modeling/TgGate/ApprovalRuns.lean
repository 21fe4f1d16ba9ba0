import TgGate.ApprovalService
import TgGate.Library.Machine

namespace TgGate

open Library

/-!
# Runs of the approval store

The store is called by MCP clients and by the operator in any order.  A run is
a list of operations, each with the clock reading and random bytes it meets.

Every operation acts on a stored action through `Operation.effect` alone, so an
action has a life of its own: it keeps its request, its status moves, and once
it is denied, executed or expired nothing moves it again.  The lifetime results
are derived from that single step equation.
-/

/-- One call of the approval store. -/
inductive Operation where
  | prepare
      (now : TimePoint)
      (random : RandomBytes)
      (clientId : Bytes)
      (invocation : ToolInvocation)
      (arguments : Json)
      (lifetime : Int)
  | approve (now : TimePoint) (actionId : Bytes)
  | deny (now : TimePoint) (actionId : Bytes)
  | takeApprovedForExecution
      (now : TimePoint)
      (actionId : Bytes)
      (profile : McpClientProfile)
      (engine : IPolicyEngine)
  | pendingActions
  | lockdown

/-- What a call returns. -/
inductive Answer where
  | prepared (result : Except Exception PendingAction)
  | action (result : Option PendingAction)
  | actions (result : List PendingAction)
  | done

/-- The approval store as a machine, starting empty. -/
def approvalMachine : Machine ApprovalService Operation Answer where
  initial := {}
  step service
    | .prepare now random clientId invocation arguments lifetime =>
        let (result, service) :=
          service.prepare now random clientId invocation arguments
            lifetime
        (service, .prepared result)
    | .approve now actionId =>
        let (result, service) := service.approve now actionId
        (service, .action result)
    | .deny now actionId =>
        let (result, service) := service.deny now actionId
        (service, .action result)
    | .takeApprovedForExecution now actionId profile engine =>
        let (result, service) :=
          service.takeApprovedForExecution now actionId profile engine
        (service, .action result)
    | .pendingActions =>
        (service, .actions service.pendingActions)
    | .lockdown =>
        (service.lockdown, .done)

/-- One entry of the history of the store. -/
abbrev ApprovalEvent := Event Operation Answer

namespace Operation

/-- The clock reading an operation makes. -/
def reading? : Operation → Option TimePoint
  | .prepare now .. => some now
  | .approve now _ => some now
  | .deny now _ => some now
  | .takeApprovedForExecution now .. => some now
  | .pendingActions => none
  | .lockdown => none

/-- The action a `prepare` creates, if the random generator works. -/
def created? : Operation → Option PendingAction
  | .prepare now random clientId invocation arguments lifetime =>
      match createSecureId random with
      | .error _ => none
      | .ok id =>
          some {
            id := id
            clientId := clientId
            invocation := invocation
            arguments := arguments
            createdAt := now
            expiresAt := now + lifetime * ticksPerSecond
          }
  | _ => none

/-- What an operation turns a stored action into. -/
def effect
    (operation : Operation)
    (action : PendingAction) : PendingAction :=
  match operation with
  | .prepare .. => action
  | .approve now actionId =>
      if action.id = actionId then
        action.settled now .approved
      else
        action
  | .deny now actionId =>
      if action.id = actionId then
        action.settled now .denied
      else
        action
  | .takeApprovedForExecution now actionId profile engine =>
      if action.id = actionId then
        action.taken now profile engine
      else
        action
  | .pendingActions => action
  | .lockdown => action.lockedDown

end Operation

/-- The clock readings of a run never go back. -/
def NondecreasingClock (operations : List Operation) : Prop :=
  (operations.filterMap Operation.reading?).Pairwise (· ≤ ·)

instance (operations : List Operation) :
    Decidable (NondecreasingClock operations) :=
  inferInstanceAs (Decidable (List.Pairwise _ _))

/-- The actions created in a run, in order. -/
def createdActions (operations : List Operation) : List PendingAction :=
  operations.filterMap Operation.created?

/-- No id is generated twice in a run. -/
def FreshIds (operations : List Operation) : Prop :=
  ((createdActions operations).map PendingAction.id).Nodup

instance (operations : List Operation) :
    Decidable (FreshIds operations) :=
  inferInstanceAs (Decidable (List.Nodup _))

/-- The created action of a step was created in the run. -/
theorem mem_createdActions
    {operations earlier rest : List Operation}
    {operation : Operation}
    {action : PendingAction}
    (shape : operations = earlier ++ operation :: rest)
    (created : operation.created? = some action) :
    action ∈ createdActions operations := by
  rw [shape]
  simp [createdActions, created]

/-- An id generated by an operation was not generated before it. -/
theorem id_not_created_before
    {operations earlier rest : List Operation}
    {operation : Operation}
    {action : PendingAction}
    (fresh : FreshIds operations)
    (shape : operations = earlier ++ operation :: rest)
    (created : operation.created? = some action) :
    action.id ∉ (createdActions earlier).map PendingAction.id := by
  intro member
  unfold FreshIds createdActions at fresh
  rw [shape, List.filterMap_append, List.map_append,
    List.nodup_append] at fresh
  exact fresh.2.2 action.id member action.id
    (by simp [created]) rfl

/-- Actions are created by `prepare`, under an id of the random generator. -/
theorem prepare_of_created?
    {operation : Operation}
    {action : PendingAction}
    (created : operation.created? = some action) :
    ∃ now random clientId invocation arguments lifetime id,
      operation =
          .prepare now random clientId invocation arguments lifetime ∧
        createSecureId random = .ok id ∧
        action = {
          id := id
          clientId := clientId
          invocation := invocation
          arguments := arguments
          createdAt := now
          expiresAt := now + lifetime * ticksPerSecond
        } := by
  cases operation with
  | prepare now random clientId invocation arguments lifetime =>
      cases outcome : createSecureId random with
      | error thrown =>
          simp [Operation.created?, outcome] at created
      | ok id =>
          simp only [Operation.created?, outcome,
            Option.some.injEq] at created
          exact ⟨now, random, clientId, invocation, arguments, lifetime,
            id, rfl, outcome, created.symm⟩
  | approve | deny | takeApprovedForExecution | pendingActions
  | lockdown =>
      simp [Operation.created?] at created

/-- A freshly created action is pending. -/
theorem status_of_created?
    {operation : Operation}
    {action : PendingAction}
    (created : operation.created? = some action) :
    action.status = .pending := by
  obtain ⟨now, random, clientId, invocation, arguments, lifetime, id,
      -, -, rfl⟩ :=
    prepare_of_created? created
  rfl

/-- The new entry under an id is an action created with that id. -/
theorem created_of_filter
    {created? : Option PendingAction}
    {actionId : Bytes}
    {action : PendingAction}
    (found :
      created?.filter (fun action => action.id = actionId) =
        some action) :
    created? = some action ∧ action.id = actionId := by
  obtain ⟨created, named⟩ := Option.filter_eq_some_iff.mp found
  exact ⟨created, by simpa using named⟩

/--
The step equation of the store: a stored action becomes what the operation
makes of it, and a free id is filled only by a `prepare` that creates it.
-/
theorem lookup_step
    (service : ApprovalService)
    (operation : Operation)
    (actionId : Bytes) :
    (approvalMachine.step service operation).1.lookup actionId =
      match service.lookup actionId with
      | some action => some (operation.effect action)
      | none =>
          operation.created?.filter fun action => action.id = actionId := by
  cases operation with
  | prepare now random clientId invocation arguments lifetime =>
      simp only [approvalMachine, ApprovalService.prepare,
        Operation.created?, Operation.effect]
      cases createSecureId random with
      | error thrown =>
          cases service.lookup actionId <;> rfl
      | ok id =>
          simp only [ApprovalService.lookup_emplace]
          by_cases isNew : actionId = id
          · subst actionId
            cases service.lookup id <;>
              simp [Option.filter_some]
          · have otherId : ¬ id = actionId :=
              Ne.symm isNew
            cases service.lookup actionId <;>
              simp [isNew, otherId, Option.filter_some]
  | approve now target =>
      simp only [approvalMachine, ApprovalService.approve,
        ApprovalService.lookup_settle, Operation.effect,
        Operation.created?]
      cases stored : service.lookup actionId with
      | none =>
          simp
      | some action =>
          simp only [service.id_of_lookup stored]
          split <;> rfl
  | deny now target =>
      simp only [approvalMachine, ApprovalService.deny,
        ApprovalService.lookup_settle, Operation.effect,
        Operation.created?]
      cases stored : service.lookup actionId with
      | none =>
          simp
      | some action =>
          simp only [service.id_of_lookup stored]
          split <;> rfl
  | takeApprovedForExecution now target profile engine =>
      simp only [approvalMachine,
        ApprovalService.lookup_takeApprovedForExecution,
        Operation.effect, Operation.created?]
      cases stored : service.lookup actionId with
      | none =>
          simp
      | some action =>
          simp only [service.id_of_lookup stored]
          split <;> rfl
  | pendingActions =>
      simp only [approvalMachine, Operation.effect,
        Operation.created?]
      cases service.lookup actionId <;> rfl
  | lockdown =>
      simp only [approvalMachine, ApprovalService.lookup_lockdown,
        Operation.effect, Operation.created?]
      cases service.lookup actionId <;> rfl

/-- A stored action after one operation. -/
theorem lookup_step_of_stored
    {service : ApprovalService}
    {actionId : Bytes}
    {action : PendingAction}
    (stored : service.lookup actionId = some action)
    (operation : Operation) :
    (approvalMachine.step service operation).1.lookup actionId =
      some (operation.effect action) := by
  rw [lookup_step, stored]

/-- A free id after one operation. -/
theorem lookup_step_of_free
    {service : ApprovalService}
    {actionId : Bytes}
    (free : service.lookup actionId = none)
    (operation : Operation) :
    (approvalMachine.step service operation).1.lookup actionId =
      operation.created?.filter fun action => action.id = actionId := by
  rw [lookup_step, free]

namespace PendingAction

/-- No operation leaves these statuses. -/
def Finished (action : PendingAction) : Prop :=
  action.status ≠ .pending ∧ action.status ≠ .approved

theorem finished_of_status_eq_denied
    {action : PendingAction}
    (denied : action.status = .denied) :
    action.Finished := by
  simp [Finished, denied]

/-- Finished actions are not refreshed. -/
theorem refresh_of_finished
    {action : PendingAction}
    (finished : action.Finished)
    (now : TimePoint) :
    action.refresh now = action := by
  simp [refresh, finished.1]

end PendingAction

namespace Operation

/-- An operation changes nothing but the status of a stored action. -/
theorem exists_effect_eq_withStatus
    (operation : Operation)
    (action : PendingAction) :
    ∃ status, operation.effect action = action.withStatus status := by
  have refreshed (now : TimePoint) :
      ∃ status, action.refresh now = action.withStatus status := by
    unfold PendingAction.refresh
    split
    · exact ⟨_, rfl⟩
    · exact ⟨action.status, rfl⟩
  have settled (now : TimePoint) (status : ActionStatus) :
      ∃ final, action.settled now status = action.withStatus final := by
    unfold PendingAction.settled
    split
    · exact ⟨_, rfl⟩
    · exact refreshed now
  cases operation with
  | prepare | pendingActions =>
      exact ⟨action.status, rfl⟩
  | approve now actionId =>
      simp only [effect]
      split
      · exact settled now .approved
      · exact ⟨action.status, rfl⟩
  | deny now actionId =>
      simp only [effect]
      split
      · exact settled now .denied
      · exact ⟨action.status, rfl⟩
  | takeApprovedForExecution now actionId profile engine =>
      simp only [effect, PendingAction.taken]
      split
      · split
        · split
          · exact ⟨_, rfl⟩
          · exact ⟨_, rfl⟩
        · exact refreshed now
      · exact ⟨action.status, rfl⟩
  | lockdown =>
      simp only [effect, PendingAction.lockedDown]
      split
      · exact ⟨_, rfl⟩
      · exact ⟨action.status, rfl⟩

/-- Nothing moves a finished action. -/
theorem effect_of_finished
    {action : PendingAction}
    (finished : action.Finished)
    (operation : Operation) :
    operation.effect action = action := by
  have notPending := finished.1
  have notApproved := finished.2
  cases operation with
  | prepare | pendingActions =>
      rfl
  | approve now actionId | deny now actionId =>
      simp [effect, PendingAction.settled,
        PendingAction.AwaitsDecision, notPending,
        PendingAction.refresh_of_finished finished]
  | takeApprovedForExecution now actionId profile engine =>
      simp [effect, PendingAction.taken, notApproved,
        PendingAction.refresh_of_finished finished]
  | lockdown =>
      simp [effect, PendingAction.lockedDown,
        ApprovalService.outstanding, notPending, notApproved]

end Operation

/-- A stored action keeps its request in every continuation of the run. -/
theorem exists_lookup_stateFrom
    {service : ApprovalService}
    {actionId : Bytes}
    {action : PendingAction}
    (stored : service.lookup actionId = some action)
    (operations : List Operation) :
    ∃ status,
      (approvalMachine.stateFrom service operations).lookup actionId =
        some (action.withStatus status) := by
  apply approvalMachine.stateFrom_of_step
    (fun current =>
      ∃ status,
        current.lookup actionId = some (action.withStatus status))
  · rintro current operation ⟨status, found⟩
    obtain ⟨next, effectShape⟩ :=
      operation.exists_effect_eq_withStatus (action.withStatus status)
    refine ⟨next, ?_⟩
    rw [lookup_step_of_stored found, effectShape,
      PendingAction.withStatus_withStatus]
  · exact ⟨action.status, by
      rw [stored, PendingAction.withStatus_eq_self rfl]⟩

/-- A finished action stays as it is in every continuation of the run. -/
theorem lookup_stateFrom_of_finished
    {service : ApprovalService}
    {actionId : Bytes}
    {action : PendingAction}
    (stored : service.lookup actionId = some action)
    (finished : action.Finished)
    (operations : List Operation) :
    (approvalMachine.stateFrom service operations).lookup actionId =
      some action := by
  apply approvalMachine.stateFrom_of_step
    (fun current => current.lookup actionId = some action)
  · intro current operation found
    rw [lookup_step_of_stored found,
      Operation.effect_of_finished finished]
  · exact stored

end TgGate
