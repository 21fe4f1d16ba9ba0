import TgGate.Policy
import TgGate.Library.Json
import TgGate.Library.UnorderedMap

namespace TgGate

open Library

/-!
# The approval store

`ApprovalService` keeps every prepared write under its id.  All operations run
under one mutex, so each is a function from the store to a result and a new
store.  The clock reading an operation makes is one of its arguments.

The second half states, for each operation, what it returns and what every
lookup gives afterwards.  Later modules use these specifications only.
-/

/-- A `system_clock::time_point`, counted in clock ticks. -/
abbrev TimePoint := Int

/-- Ticks of a nanosecond, as the system clock of libstdc++ counts. -/
def ticksPerSecond : Int := 1000000000

/-- Where a prepared action stands. -/
inductive ActionStatus where
  | pending
  | approved
  | denied
  | executed
  | expired
  deriving Repr, DecidableEq

/-- A write prepared by a client and waiting for the operator. -/
structure PendingAction where
  id : Bytes
  clientId : Bytes
  invocation : ToolInvocation
  arguments : Json
  createdAt : TimePoint
  expiresAt : TimePoint
  status : ActionStatus := .pending

/-- The digits used to render an action id. -/
def kHex : Bytes := bytes "0123456789abcdef"

/-- What the system random generator supplies; `none` when it fails. -/
abbrev RandomBytes := Option (Vector UInt8 32)

/-- Hexadecimal rendering of 32 random bytes. -/
def createSecureId : RandomBytes → Except Exception Bytes
  | none => .error .runtimeError
  | some random =>
      .ok (random.toList.flatMap fun (byte : UInt8) =>
        [kHex.getD (byte >>> 4).toNat 0,
          kHex.getD (byte &&& 0x0f).toNat 0])

/-- The deadline of an action has been reached. -/
def isExpired (now : TimePoint) (action : PendingAction) : Bool :=
  now ≥ action.expiresAt

/-- A store without actions stores each under its own id. -/
theorem keyed_empty
    {key : Bytes}
    {action : PendingAction}
    (found :
      AList.lookup key (∅ : UnorderedMap Bytes PendingAction) =
        some action) :
    action.id = key := by
  simp at found

/-- All prepared actions; an action is stored under its own id. -/
structure ApprovalService where
  actions : UnorderedMap Bytes PendingAction := ∅
  keyed :
    ∀ {key action},
      AList.lookup key actions = some action →
      action.id = key := by
    exact keyed_empty

namespace PendingAction

/-- The same action in another status. -/
def withStatus
    (action : PendingAction)
    (status : ActionStatus) : PendingAction :=
  { action with status := status }

@[simp] theorem withStatus_id
    (action : PendingAction) (status : ActionStatus) :
    (action.withStatus status).id = action.id :=
  rfl

@[simp] theorem withStatus_clientId
    (action : PendingAction) (status : ActionStatus) :
    (action.withStatus status).clientId = action.clientId :=
  rfl

@[simp] theorem withStatus_invocation
    (action : PendingAction) (status : ActionStatus) :
    (action.withStatus status).invocation = action.invocation :=
  rfl

@[simp] theorem withStatus_arguments
    (action : PendingAction) (status : ActionStatus) :
    (action.withStatus status).arguments = action.arguments :=
  rfl

@[simp] theorem withStatus_expiresAt
    (action : PendingAction) (status : ActionStatus) :
    (action.withStatus status).expiresAt = action.expiresAt :=
  rfl

@[simp] theorem withStatus_status
    (action : PendingAction) (status : ActionStatus) :
    (action.withStatus status).status = status :=
  rfl

@[simp] theorem withStatus_withStatus
    (action : PendingAction) (first second : ActionStatus) :
    (action.withStatus first).withStatus second =
      action.withStatus second :=
  rfl

/-- Restoring the status an action already has changes nothing. -/
theorem withStatus_eq_self
    {action : PendingAction} {status : ActionStatus}
    (same : action.status = status) :
    action.withStatus status = action := by
  subst same
  rfl

end PendingAction

namespace ApprovalService

/-- Find an action by id. -/
def lookup
    (service : ApprovalService)
    (actionId : Bytes) : Option PendingAction :=
  AList.lookup actionId service.actions

/-- `actions_.at(id).status = status`. -/
def setStatus
    (service : ApprovalService)
    (actionId : Bytes)
    (status : ActionStatus) : ApprovalService where
  actions :=
    UnorderedMap.modifyAt actionId
      (fun action => action.withStatus status) service.actions
  keyed := by
    intro key action found
    rw [UnorderedMap.lookup_modifyAt] at found
    split at found
    · obtain ⟨stored, storedFound, rfl⟩ :=
        Option.map_eq_some_iff.mp found
      simpa using service.keyed storedFound
    · exact service.keyed found

/-- `actions_.emplace(action.id, action)`. -/
def emplace
    (service : ApprovalService)
    (action : PendingAction) : ApprovalService where
  actions :=
    UnorderedMap.emplace action.id action service.actions
  keyed := by
    intro key stored found
    rw [UnorderedMap.lookup_emplace] at found
    split at found
    · next isKey =>
        cases present : AList.lookup key service.actions with
        | none =>
            simp only [present, Option.none_or,
              Option.some.injEq] at found
            rw [← found, isKey]
        | some existing =>
            simp only [present, Option.some_or,
              Option.some.injEq] at found
            rw [← found]
            exact service.keyed present
    · exact service.keyed found

/-- Store a new pending action; `now` is read before the lock is taken. -/
def prepare
    (service : ApprovalService)
    (now : TimePoint)
    (random : RandomBytes)
    (clientId : Bytes)
    (invocation : ToolInvocation)
    (arguments : Json)
    (lifetime : Int := 120) :
    Except Exception PendingAction × ApprovalService :=
  match createSecureId random with
  | .error thrown => (.error thrown, service)
  | .ok id =>
      let action : PendingAction := {
        id := id
        clientId := clientId
        invocation := invocation
        arguments := arguments
        createdAt := now
        expiresAt := now + lifetime * ticksPerSecond
      }
      (.ok action, service.emplace action)

/-- Look an action up, recording its expiry if it is still pending. -/
def findAndExpireLocked
    (service : ApprovalService)
    (now : TimePoint)
    (actionId : Bytes) :
    Option PendingAction × ApprovalService :=
  match service.lookup actionId with
  | none => (none, service)
  | some action =>
      if action.status = .pending ∧ isExpired now action then
        (some (action.withStatus .expired),
          service.setStatus actionId .expired)
      else
        (some action, service)

/-- The common body of `approve` and `deny`: settle a pending action. -/
def settle
    (service : ApprovalService)
    (now : TimePoint)
    (actionId : Bytes)
    (status : ActionStatus) :
    Option PendingAction × ApprovalService :=
  match service.findAndExpireLocked now actionId with
  | (none, service) => (none, service)
  | (some action, service) =>
      if action.status ≠ .pending then
        (none, service)
      else
        let service := service.setStatus action.id status
        (service.lookup action.id, service)

/-- The operator approves a pending action. -/
def approve
    (service : ApprovalService)
    (now : TimePoint)
    (actionId : Bytes) :
    Option PendingAction × ApprovalService :=
  service.settle now actionId .approved

/-- The operator denies a pending action. -/
def deny
    (service : ApprovalService)
    (now : TimePoint)
    (actionId : Bytes) :
    Option PendingAction × ApprovalService :=
  service.settle now actionId .denied

/-- Hand an approved action to its client, once, if the policy still agrees. -/
def takeApprovedForExecution
    (service : ApprovalService)
    (now : TimePoint)
    (actionId : Bytes)
    (currentProfile : McpClientProfile)
    (engine : IPolicyEngine) :
    Option PendingAction × ApprovalService :=
  match service.findAndExpireLocked now actionId with
  | (none, service) => (none, service)
  | (some action, service) =>
      if action.status ≠ .approved ∨
          action.clientId ≠ currentProfile.id then
        (none, service)
      else
        let decision :=
          engine.evaluate currentProfile action.invocation
        if decision.effect = .deny then
          (none, service.setStatus action.id .denied)
        else
          let service := service.setStatus action.id .executed
          (service.lookup action.id, service)

/-- The statuses shown to the operator and revoked by a lockdown. -/
def outstanding (action : PendingAction) : Bool :=
  action.status = .pending ∨ action.status = .approved

/-- The actions the operator is shown. -/
def pendingActions (service : ApprovalService) : List PendingAction :=
  (UnorderedMap.values service.actions).filter outstanding

/-- Deny everything outstanding. -/
def lockdown (service : ApprovalService) : ApprovalService where
  actions :=
    UnorderedMap.mapValues
      (fun _ action =>
        if outstanding action then
          action.withStatus .denied
        else
          action)
      service.actions
  keyed := by
    intro key action found
    rw [UnorderedMap.lookup_mapValues] at found
    obtain ⟨stored, storedFound, rfl⟩ :=
      Option.map_eq_some_iff.mp found
    split
    · simpa using service.keyed storedFound
    · exact service.keyed storedFound

@[simp] theorem lookup_empty (actionId : Bytes) :
    ({} : ApprovalService).lookup actionId = none :=
  rfl

@[simp] theorem lookup_setStatus
    (service : ApprovalService)
    (target actionId : Bytes)
    (status : ActionStatus) :
    (service.setStatus target status).lookup actionId =
      if actionId = target then
        (service.lookup actionId).map (·.withStatus status)
      else
        service.lookup actionId := by
  simp [lookup, setStatus]

@[simp] theorem lookup_emplace
    (service : ApprovalService)
    (action : PendingAction)
    (actionId : Bytes) :
    (service.emplace action).lookup actionId =
      if actionId = action.id then
        (service.lookup actionId).or (some action)
      else
        service.lookup actionId := by
  simp [lookup, emplace]

/-- An action found under an id carries that id. -/
theorem id_of_lookup
    {service : ApprovalService}
    {actionId : Bytes}
    {action : PendingAction}
    (found : service.lookup actionId = some action) :
    action.id = actionId :=
  service.keyed found

end ApprovalService

/-!
## What an operation does to one stored action

Every operation on an existing action looks at that action alone.  These are
the resulting entries; `lookup_settle`, `lookup_takeApprovedForExecution` and
`lookup_lockdown` show that the store is a family of such entries.
-/

namespace PendingAction

/-- A pending action past its deadline is recorded as expired. -/
def refresh (now : TimePoint) (action : PendingAction) : PendingAction :=
  if action.status = .pending ∧ isExpired now action then
    action.withStatus .expired
  else
    action

/-- The operator can still decide the action. -/
def AwaitsDecision (now : TimePoint) (action : PendingAction) : Prop :=
  action.status = .pending ∧ now < action.expiresAt

/-- The client may execute the action now. -/
def Executable
    (profile : McpClientProfile)
    (engine : IPolicyEngine)
    (action : PendingAction) : Prop :=
  action.status = .approved ∧
    action.clientId = profile.id ∧
      (engine.evaluate profile action.invocation).effect ≠ .deny

instance (now : TimePoint) (action : PendingAction) :
    Decidable (action.AwaitsDecision now) :=
  inferInstanceAs (Decidable (_ ∧ _))

instance
    (profile : McpClientProfile)
    (engine : IPolicyEngine)
    (action : PendingAction) :
    Decidable (action.Executable profile engine) :=
  inferInstanceAs (Decidable (_ ∧ _ ∧ _))

/-- The entry an operator decision leaves behind. -/
def settled
    (now : TimePoint)
    (status : ActionStatus)
    (action : PendingAction) : PendingAction :=
  if action.AwaitsDecision now then
    action.withStatus status
  else
    action.refresh now

/-- The entry an attempt to take the action leaves behind. -/
def taken
    (now : TimePoint)
    (profile : McpClientProfile)
    (engine : IPolicyEngine)
    (action : PendingAction) : PendingAction :=
  if action.status = .approved ∧ action.clientId = profile.id then
    if (engine.evaluate profile action.invocation).effect = .deny then
      action.withStatus .denied
    else
      action.withStatus .executed
  else
    action.refresh now

/-- The entry a lockdown leaves behind. -/
def lockedDown (action : PendingAction) : PendingAction :=
  if ApprovalService.outstanding action then
    action.withStatus .denied
  else
    action

end PendingAction

namespace ApprovalService

section Lookups

variable (service : ApprovalService)

/-- Looking an action up refreshes it, and nothing else, in the store. -/
theorem exists_findAndExpireLocked_eq
    (now : TimePoint)
    (actionId : Bytes) :
    ∃ refreshed : ApprovalService,
      service.findAndExpireLocked now actionId =
          ((service.lookup actionId).map (·.refresh now), refreshed) ∧
        ∀ query,
          refreshed.lookup query =
            if query = actionId then
              (service.lookup query).map (·.refresh now)
            else
              service.lookup query := by
  unfold findAndExpireLocked
  cases found : service.lookup actionId with
  | none =>
      refine ⟨service, rfl, ?_⟩
      intro query
      split
      next isTarget =>
        simp [isTarget, found]
      · rfl
  | some action =>
      simp only [Option.map_some, PendingAction.refresh]
      split
      next expired =>
        refine ⟨_, rfl, ?_⟩
        intro query
        rw [lookup_setStatus]
        split
        next isTarget =>
          simp [isTarget, found, expired]
        · rfl
      next current =>
        refine ⟨service, rfl, ?_⟩
        intro query
        split
        next isTarget =>
          simp [isTarget, found, current]
        · rfl

/-- A refreshed action is pending exactly when it can still be decided. -/
theorem refresh_status_eq_pending_iff
    {now : TimePoint}
    {action : PendingAction} :
    (action.refresh now).status = .pending ↔
      action.AwaitsDecision now := by
  unfold PendingAction.refresh PendingAction.AwaitsDecision isExpired
  by_cases pending : action.status = .pending
  · by_cases expired : action.expiresAt ≤ now
    · simp [pending, expired]
    · simp [pending, expired, Int.not_le.mp expired]
  · simp [pending]

/-- Refreshing an action that can still be decided does nothing. -/
theorem refresh_of_awaitsDecision
    {now : TimePoint}
    {action : PendingAction}
    (awaits : action.AwaitsDecision now) :
    action.refresh now = action := by
  have notExpired : ¬ action.expiresAt ≤ now :=
    Int.not_le.mpr awaits.2
  simp [PendingAction.refresh, isExpired, notExpired]

/-- A decision returns the decided action, and only while one is possible. -/
theorem settle_fst
    (now : TimePoint)
    (actionId : Bytes)
    (status : ActionStatus) :
    (service.settle now actionId status).1 =
      (service.lookup actionId).bind fun action =>
        if action.AwaitsDecision now then
          some (action.withStatus status)
        else
          none := by
  obtain ⟨refreshed, found, lookups⟩ :=
    service.exists_findAndExpireLocked_eq now actionId
  unfold settle
  rw [found]
  cases stored : service.lookup actionId with
  | none =>
      rfl
  | some action =>
      have sameId := service.id_of_lookup stored
      simp only [Option.map_some, Option.bind_some, ne_eq, ite_not,
        refresh_status_eq_pending_iff]
      split
      · next awaits =>
          simp [refresh_of_awaitsDecision awaits, sameId, lookups,
            stored]
      · rfl

/-- Changing an action that is not stored changes no entry. -/
theorem map_lookup_of_none
    {actionId : Bytes}
    (unstored : service.lookup actionId = none)
    (first second : PendingAction → PendingAction)
    (query : Bytes) :
    (if query = actionId then
        (service.lookup query).map first
      else
        service.lookup query) =
      if query = actionId then
        (service.lookup query).map second
      else
        service.lookup query := by
  by_cases isTarget : query = actionId
  · simp [isTarget, unstored]
  · simp [isTarget]

/-- A decision touches the decided action only. -/
theorem lookup_settle
    (now : TimePoint)
    (actionId query : Bytes)
    (status : ActionStatus) :
    (service.settle now actionId status).2.lookup query =
      if query = actionId then
        (service.lookup query).map (·.settled now status)
      else
        service.lookup query := by
  obtain ⟨refreshed, found, lookups⟩ :=
    service.exists_findAndExpireLocked_eq now actionId
  unfold settle
  rw [found]
  cases stored : service.lookup actionId with
  | none =>
      exact (lookups query).trans (service.map_lookup_of_none stored _ _ query)
  | some action =>
      have sameId := service.id_of_lookup stored
      simp only [Option.map_some, ne_eq, ite_not,
        refresh_status_eq_pending_iff]
      by_cases isTarget : query = actionId
      · subst query
        by_cases awaits : action.AwaitsDecision now
        · simp [awaits, sameId, lookups, stored,
            PendingAction.settled, refresh_of_awaitsDecision awaits]
        · simp [awaits, lookups, stored, PendingAction.settled]
      · split
        · next awaits =>
            simp [refresh_of_awaitsDecision awaits, sameId, lookups,
              isTarget]
        · simp [lookups, isTarget]

/-- A refreshed action is approved exactly when it was. -/
theorem refresh_status_eq_approved_iff
    {now : TimePoint}
    {action : PendingAction} :
    (action.refresh now).status = .approved ↔
      action.status = .approved := by
  unfold PendingAction.refresh
  by_cases approved : action.status = .approved
  · simp [approved]
  · split
    · simp [approved]
    · rfl

/-- Refreshing an approved action does nothing, whatever its deadline. -/
theorem refresh_of_approved
    {now : TimePoint}
    {action : PendingAction}
    (approved : action.status = .approved) :
    action.refresh now = action := by
  simp [PendingAction.refresh, approved]

/-- Taking returns the action to its own client when the policy agrees. -/
theorem takeApprovedForExecution_fst
    (now : TimePoint)
    (actionId : Bytes)
    (profile : McpClientProfile)
    (engine : IPolicyEngine) :
    (service.takeApprovedForExecution now actionId profile engine).1 =
      (service.lookup actionId).bind fun action =>
        if action.Executable profile engine then
          some (action.withStatus .executed)
        else
          none := by
  obtain ⟨refreshed, found, lookups⟩ :=
    service.exists_findAndExpireLocked_eq now actionId
  unfold takeApprovedForExecution
  rw [found]
  cases stored : service.lookup actionId with
  | none =>
      rfl
  | some action =>
      have sameId := service.id_of_lookup stored
      simp only [Option.map_some, Option.bind_some,
        PendingAction.Executable]
      by_cases approved : action.status = .approved
      · by_cases owner : action.clientId = profile.id
        · by_cases denied :
              (engine.evaluate profile action.invocation).effect =
                .deny
          · simp [refresh_of_approved, approved, owner, denied]
          · simp [refresh_of_approved, approved, owner, denied,
              sameId, lookups, stored]
        · simp [refresh_of_approved, approved, owner]
      · simp [refresh_status_eq_approved_iff, approved]

/-- Taking touches the named action only. -/
theorem lookup_takeApprovedForExecution
    (now : TimePoint)
    (actionId query : Bytes)
    (profile : McpClientProfile)
    (engine : IPolicyEngine) :
    (service.takeApprovedForExecution
        now actionId profile engine).2.lookup query =
      if query = actionId then
        (service.lookup query).map (·.taken now profile engine)
      else
        service.lookup query := by
  obtain ⟨refreshed, found, lookups⟩ :=
    service.exists_findAndExpireLocked_eq now actionId
  unfold takeApprovedForExecution
  rw [found]
  cases stored : service.lookup actionId with
  | none =>
      exact (lookups query).trans (service.map_lookup_of_none stored _ _ query)
  | some action =>
      have sameId := service.id_of_lookup stored
      simp only [Option.map_some]
      by_cases isTarget : query = actionId
      · subst query
        by_cases approved : action.status = .approved
        · by_cases owner : action.clientId = profile.id
          · by_cases denied :
                (engine.evaluate profile action.invocation).effect =
                  .deny <;>
              simp [refresh_of_approved, approved, owner, denied,
                sameId, lookups, stored, PendingAction.taken]
          · simp [refresh_of_approved, approved, owner, lookups,
              stored, PendingAction.taken]
        · simp [refresh_status_eq_approved_iff, approved, lookups,
            stored, PendingAction.taken]
      · have sameRefreshedId : (action.refresh now).id = actionId := by
          unfold PendingAction.refresh
          split
          · exact sameId
          · exact sameId
        split
        · simp [lookups, isTarget]
        · split
          · simp [sameRefreshedId, lookups, isTarget]
          · simp [sameRefreshedId, lookups, isTarget]

/-- A lockdown touches every outstanding action. -/
@[simp] theorem lookup_lockdown (query : Bytes) :
    service.lockdown.lookup query =
      (service.lookup query).map PendingAction.lockedDown := by
  simp only [lookup, lockdown, UnorderedMap.lookup_mapValues]
  rfl

/-- The operator is shown the stored actions that are outstanding. -/
theorem mem_pendingActions_iff {action : PendingAction} :
    action ∈ service.pendingActions ↔
      service.lookup action.id = some action ∧
        outstanding action = true := by
  unfold pendingActions
  rw [List.mem_filter, UnorderedMap.mem_values_iff]
  constructor
  · rintro ⟨⟨key, found⟩, isOutstanding⟩
    refine ⟨?_, isOutstanding⟩
    rw [service.keyed found]
    exact found
  · rintro ⟨found, isOutstanding⟩
    exact ⟨⟨action.id, found⟩, isOutstanding⟩

end Lookups

end ApprovalService

end TgGate
