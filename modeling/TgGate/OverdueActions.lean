import TgGate.ApprovalLifetime
import TgGate.DesktopUi

namespace TgGate

open Library

/-!
# Actions that are listed after their deadline

Expiry is recorded by the operations that look up one id; the listing does not
check it.  An action is therefore listed until a call settles it, whatever the
time.  `SettledBy` reads off the calls whether one has done so.
-/

/-- The operator decides the action, or a lookup finds it too late. -/
def EndsPending (action : PendingAction) : Operation → Prop
  | .lockdown => True
  | .approve _ actionId => action.id = actionId
  | .deny _ actionId => action.id = actionId
  | .takeApprovedForExecution now actionId _ _ =>
      action.id = actionId ∧ action.expiresAt ≤ now
  | _ => False

/-- The action is approved before its deadline. -/
def ApprovesInTime
    (action : PendingAction)
    (operation : Operation) : Prop :=
  ∃ now, operation = .approve now action.id ∧ now < action.expiresAt

/--
The calls that follow the creation of an action settle it: the first one that
ends its pending state is no approval in time, or the approval is spent later.
-/
def SettledBy
    (action : PendingAction)
    (operations : List Operation) : Prop :=
  ∃ before operation after,
    operations = before ++ operation :: after ∧
      (∀ earlier ∈ before, ¬ EndsPending action earlier) ∧
      EndsPending action operation ∧
      (ApprovesInTime action operation →
        ∃ later ∈ after,
          SpendsApproval action.id action.clientId later)

/-- Every action whose deadline has passed was settled since its creation. -/
def SettlesOverdue
    (operations : List Operation)
    (now : TimePoint) : Prop :=
  ∀ earlier operation later action,
    operations = earlier ++ operation :: later →
    operation.created? = some action →
    action.id ∉ (createdActions earlier).map PendingAction.id →
    action.expiresAt ≤ now →
    SettledBy action later

/-- No action is offered at or after its deadline. -/
structure OffersLiveActions
    (service : ApprovalService)
    (now : TimePoint) : Prop where
  listed :
    ∀ action ∈ service.pendingActions, now < action.expiresAt
  shown :
    ∀ rows,
      PendingActionsViewModel.rows service = .ok rows →
      ∀ row ∈ rows,
        ∃ action ∈ service.pendingActions,
          PendingActionsViewModel.row action = .ok row ∧
            now < action.expiresAt

section Steps

variable {action : PendingAction}
variable {operation : Operation}

/-- A pending action is left alone by the other operations. -/
theorem effect_of_not_endsPending
    (pending : action.status = .pending)
    (other : ¬ EndsPending action operation) :
    operation.effect action = action := by
  cases operation with
  | prepare | pendingActions =>
      rfl
  | lockdown =>
      exact absurd trivial other
  | approve now actionId | deny now actionId =>
      exact if_neg other
  | takeApprovedForExecution now actionId profile engine =>
      by_cases isTarget : action.id = actionId
      · have early : ¬ action.expiresAt ≤ now :=
          fun late => other ⟨isTarget, late⟩
        simp [Operation.effect, isTarget, PendingAction.taken, pending,
          PendingAction.refresh, isExpired, early]
      · exact if_neg isTarget

/-- An operation that ends the pending state approves or finishes. -/
theorem effect_of_endsPending
    (pending : action.status = .pending)
    (ends : EndsPending action operation) :
    (ApprovesInTime action operation →
        operation.effect action = action.withStatus .approved) ∧
      (¬ ApprovesInTime action operation →
        (operation.effect action).Finished) := by
  cases operation with
  | prepare | pendingActions =>
      cases ends
  | lockdown =>
      constructor
      · rintro ⟨now, same, -⟩
        cases same
      · intro _
        exact PendingAction.finished_of_status_eq_denied (by
          simp [Operation.effect, PendingAction.lockedDown,
            ApprovalService.outstanding, pending])
  | approve now actionId =>
      obtain rfl : action.id = actionId := ends
      simp only [Operation.effect, ↓reduceIte]
      constructor
      · rintro ⟨reading, same, early⟩
        cases same
        exact if_pos ⟨pending, early⟩
      · intro notInTime
        have late : ¬ now < action.expiresAt :=
          fun early => notInTime ⟨now, rfl, early⟩
        have expired : isExpired now action = true := by
          simpa [isExpired] using late
        rw [PendingAction.settled,
          if_neg fun awaits => late awaits.2, PendingAction.refresh,
          if_pos ⟨pending, expired⟩]
        exact ⟨by simp, by simp⟩
  | deny now actionId =>
      obtain rfl : action.id = actionId := ends
      simp only [Operation.effect, ↓reduceIte]
      constructor
      · rintro ⟨reading, same, -⟩
        cases same
      · intro _
        exact finished_settled_denied pending now
  | takeApprovedForExecution now actionId profile engine =>
      obtain ⟨rfl, late⟩ := ends
      constructor
      · rintro ⟨reading, same, -⟩
        cases same
      · intro _
        simp [Operation.effect, PendingAction.taken, pending,
          PendingAction.refresh, isExpired, late,
          PendingAction.Finished]

/-- An approved action is spent, or left alone. -/
theorem effect_of_approved (approved : action.status = .approved) :
    (SpendsApproval action.id action.clientId operation →
        (operation.effect action).Finished) ∧
      (¬ SpendsApproval action.id action.clientId operation →
        operation.effect action = action) := by
  cases operation with
  | prepare | pendingActions =>
      refine ⟨?_, fun _ => rfl⟩
      rintro (same | ⟨_, _, _, same, -⟩) <;> cases same
  | lockdown =>
      refine ⟨fun _ => ?_, fun unspent => absurd (.inl rfl) unspent⟩
      exact PendingAction.finished_of_status_eq_denied (by
        simp [Operation.effect, PendingAction.lockedDown,
          ApprovalService.outstanding, approved])
  | approve now actionId | deny now actionId =>
      refine ⟨?_, fun _ => ?_⟩
      · rintro (same | ⟨_, _, _, same, -⟩) <;> cases same
      · simp [Operation.effect, PendingAction.settled,
          PendingAction.AwaitsDecision, approved,
          ApprovalService.refresh_of_approved approved]
  | takeApprovedForExecution now actionId profile engine =>
      constructor
      · rintro (same | ⟨reading, other, otherEngine, same, owner⟩)
        · cases same
        · cases same
          simp only [Operation.effect, ↓reduceIte, PendingAction.taken,
            approved, owner, and_self]
          split <;> simp [PendingAction.Finished]
      · intro unspent
        by_cases isTarget : action.id = actionId
        · have notOwner : action.clientId ≠ profile.id := by
            intro owner
            subst isTarget
            exact unspent (.inr ⟨now, profile, engine, rfl, owner⟩)
          simp [Operation.effect, isTarget, PendingAction.taken,
            notOwner, ApprovalService.refresh_of_approved approved]
        · exact if_neg isTarget

end Steps

section Lives

variable {service : ApprovalService}
variable {action : PendingAction}

/-- A pending action stays pending while nothing ends that state. -/
theorem lookup_stateFrom_of_pending
    {operations : List Operation}
    (stored : service.lookup action.id = some action)
    (pending : action.status = .pending)
    (others :
      ∀ operation ∈ operations, ¬ EndsPending action operation) :
    (approvalMachine.stateFrom service operations).lookup action.id =
      some action := by
  induction operations generalizing service with
  | nil =>
      exact stored
  | cons operation rest inductionHypothesis =>
      have unchanged :=
        effect_of_not_endsPending pending
          (others operation List.mem_cons_self)
      rw [Machine.stateFrom]
      refine inductionHypothesis ?_ fun other member =>
        others other (List.mem_cons_of_mem _ member)
      rw [lookup_step_of_stored stored, unchanged]

/-- An approved action is listed until its approval is spent. -/
theorem listed_stateFrom_of_approved
    {operations : List Operation}
    (stored : service.lookup action.id = some action)
    (approved : action.status = .approved) :
    ((approvalMachine.stateFrom service operations).lookup
        action.id).any ApprovalService.outstanding = true ↔
      ∀ operation ∈ operations,
        ¬ SpendsApproval action.id action.clientId operation := by
  induction operations generalizing service with
  | nil =>
      refine iff_of_true ?_ (fun _ impossible => by cases impossible)
      simp [Machine.stateFrom, stored, ApprovalService.outstanding,
        approved]
  | cons operation rest inductionHypothesis =>
      rw [Machine.stateFrom]
      by_cases spends :
          SpendsApproval action.id action.clientId operation
      · have finished := (effect_of_approved approved).1 spends
        have final :=
          lookup_stateFrom_of_finished
            (lookup_step_of_stored stored operation) finished rest
        refine iff_of_false ?_ fun unspent =>
          unspent operation List.mem_cons_self spends
        rw [final]
        simp [ApprovalService.outstanding, finished.1, finished.2]
      · have unchanged := (effect_of_approved approved).2 spends
        rw [inductionHypothesis
          (by rw [lookup_step_of_stored stored, unchanged])]
        simp [spends]

/-- A list has a first element of a kind, or none. -/
theorem exists_first_or_none
    {Item : Type}
    (Kind : Item → Prop)
    (items : List Item) :
    (∀ item ∈ items, ¬ Kind item) ∨
      ∃ before item after,
        items = before ++ item :: after ∧
          (∀ earlier ∈ before, ¬ Kind earlier) ∧
          Kind item := by
  induction items with
  | nil =>
      exact .inl fun _ impossible => by cases impossible
  | cons head rest inductionHypothesis =>
      by_cases isFirst : Kind head
      · exact .inr ⟨[], head, rest, rfl,
          (fun _ impossible => by cases impossible), isFirst⟩
      · rcases inductionHypothesis with
          none | ⟨before, item, after, shape, earlier, isKind⟩
        · exact .inl (List.forall_mem_cons.mpr ⟨isFirst, none⟩)
        · exact .inr ⟨head :: before, item, after,
            by rw [shape, List.cons_append],
            List.forall_mem_cons.mpr ⟨isFirst, earlier⟩, isKind⟩

/-- The life of an action after the first call that ends its pending state. -/
theorem listed_stateFrom_of_endsPending
    {before after : List Operation}
    {operation : Operation}
    (stored : service.lookup action.id = some action)
    (pending : action.status = .pending)
    (others :
      ∀ earlier ∈ before, ¬ EndsPending action earlier)
    (ends : EndsPending action operation) :
    ((approvalMachine.stateFrom service
          (before ++ operation :: after)).lookup
        action.id).any ApprovalService.outstanding = true ↔
      ApprovesInTime action operation ∧
        ∀ later ∈ after,
          ¬ SpendsApproval action.id action.clientId later := by
  have reached := lookup_stateFrom_of_pending stored pending others
  have next := lookup_step_of_stored reached operation
  rw [Machine.stateFrom_append, Machine.stateFrom]
  by_cases inTime : ApprovesInTime action operation
  · rw [(effect_of_endsPending pending ends).1 inTime] at next
    have life :=
      @listed_stateFrom_of_approved _ (action.withStatus .approved)
        after next rfl
    simp only [PendingAction.withStatus_id,
      PendingAction.withStatus_clientId] at life
    rw [life]
    exact (and_iff_right inTime).symm
  · have finished := (effect_of_endsPending pending ends).2 inTime
    rw [lookup_stateFrom_of_finished next finished after]
    refine iff_of_false ?_ (fun life => inTime life.1)
    simp [ApprovalService.outstanding, finished.1, finished.2]

/-- A created action is listed exactly until the calls settle it. -/
theorem listed_stateFrom_iff
    (stored : service.lookup action.id = some action)
    (pending : action.status = .pending)
    (operations : List Operation) :
    ((approvalMachine.stateFrom service operations).lookup
        action.id).any ApprovalService.outstanding = true ↔
      ¬ SettledBy action operations := by
  constructor
  · rintro isListed ⟨before, operation, after, rfl, others, ends,
      settles⟩
    obtain ⟨inTime, unspent⟩ :=
      (listed_stateFrom_of_endsPending stored pending others ends).mp
        isListed
    obtain ⟨later, member, spends⟩ := settles inTime
    exact unspent later member spends
  · intro unsettled
    rcases exists_first_or_none (EndsPending action) operations with
      others | ⟨before, operation, after, rfl, others, ends⟩
    · rw [lookup_stateFrom_of_pending stored pending others]
      simp [ApprovalService.outstanding, pending]
    · rw [listed_stateFrom_of_endsPending stored pending others ends]
      by_contra settled
      refine unsettled ⟨before, operation, after, rfl, others, ends,
        fun inTime => ?_⟩
      by_contra unspent
      push Not at unspent
      exact settled ⟨inTime, unspent⟩

end Lives

section Runs

/-- Only created ids are in use. -/
theorem lookup_state_eq_none_iff
    {operations : List Operation}
    {actionId : Bytes} :
    (approvalMachine.state operations).lookup actionId = none ↔
      actionId ∉
        (createdActions operations).map PendingAction.id := by
  induction operations using List.reverseRecOn with
  | nil =>
      simp [createdActions, approvalMachine]
  | append_singleton operations operation inductionHypothesis =>
      rw [approvalMachine.state_snoc, lookup_step, createdActions,
        List.filterMap_append, List.map_append, List.mem_append, not_or]
      rw [createdActions] at inductionHypothesis
      rw [← inductionHypothesis]
      cases before :
          (approvalMachine.state operations).lookup actionId with
      | some previous =>
          simp
      | none =>
          cases created : operation.created? with
          | none =>
              simp [created]
          | some action =>
              by_cases same : action.id = actionId
              · simp [Option.filter_some, created, same]
              · simp [Option.filter_some, created, same, Ne.symm same]

/-- A stored action was created under a free id. -/
theorem exists_creation_of_lookup
    {operations : List Operation}
    {actionId : Bytes}
    {action : PendingAction}
    (stored :
      (approvalMachine.state operations).lookup actionId =
        some action) :
    ∃ earlier operation later created status,
      operations = earlier ++ operation :: later ∧
        operation.created? = some created ∧
        created.id ∉
          (createdActions earlier).map PendingAction.id ∧
        action = created.withStatus status := by
  induction operations using List.reverseRecOn generalizing action with
  | nil =>
      simp [approvalMachine] at stored
  | append_singleton operations operation inductionHypothesis =>
      rw [approvalMachine.state_snoc] at stored
      cases before :
          (approvalMachine.state operations).lookup actionId with
      | some previous =>
          rw [lookup_step_of_stored before] at stored
          obtain ⟨earlier, creation, later, created, status, shape,
              creates, free, isCreated⟩ :=
            inductionHypothesis before
          obtain ⟨next, effectShape⟩ :=
            operation.exists_effect_eq_withStatus previous
          refine ⟨earlier, creation, later ++ [operation], created,
            next, by rw [shape]; simp, creates, free, ?_⟩
          rw [← Option.some.inj stored, effectShape, isCreated,
            PendingAction.withStatus_withStatus]
      | none =>
          rw [lookup_step_of_free before] at stored
          obtain ⟨created, rfl⟩ := created_of_filter stored
          exact ⟨operations, operation, [], action, action.status, rfl,
            created, lookup_state_eq_none_iff.mp before, rfl⟩

/-- A created action is stored, pending, by the call that creates it. -/
theorem lookup_state_of_created
    {earlier : List Operation}
    {operation : Operation}
    {action : PendingAction}
    (created : operation.created? = some action)
    (free :
      action.id ∉ (createdActions earlier).map PendingAction.id) :
    (approvalMachine.state (earlier ++ [operation])).lookup action.id =
      some action := by
  rw [approvalMachine.state_snoc,
    lookup_step_of_free (lookup_state_eq_none_iff.mpr free), created]
  simp [Option.filter_some]

/-- A created action is listed unless the calls that follow settle it. -/
theorem listed_state_iff
    {earlier later : List Operation}
    {operation : Operation}
    {action : PendingAction}
    (created : operation.created? = some action)
    (free :
      action.id ∉ (createdActions earlier).map PendingAction.id) :
    ((approvalMachine.state (earlier ++ operation :: later)).lookup
        action.id).any ApprovalService.outstanding = true ↔
      ¬ SettledBy action later := by
  have stored := lookup_state_of_created created free
  have reached :
      approvalMachine.state (earlier ++ operation :: later) =
        approvalMachine.stateFrom
          (approvalMachine.state (earlier ++ [operation])) later := by
    rw [List.append_cons, Machine.state, Machine.stateFrom_append]
    rfl
  rw [reached]
  exact listed_stateFrom_iff stored (status_of_created? created) later

/-- Listed actions are in time exactly if the overdue ones are settled. -/
theorem pendingActions_live_iff
    (operations : List Operation)
    (now : TimePoint) :
    (∀ action ∈ (approvalMachine.state operations).pendingActions,
        now < action.expiresAt) ↔
      SettlesOverdue operations now := by
  constructor
  · rintro live earlier operation later action rfl created free overdue
    by_contra unsettled
    have isListed := (listed_state_iff created free).mpr unsettled
    obtain ⟨status, found⟩ :
        ∃ status,
          (approvalMachine.state
              (earlier ++ operation :: later)).lookup action.id =
            some (action.withStatus status) := by
      rw [List.append_cons, Machine.state, Machine.stateFrom_append]
      exact exists_lookup_stateFrom
        (lookup_state_of_created created free) later
    rw [found] at isListed
    have inTime := live (action.withStatus status)
      ((ApprovalService.mem_pendingActions_iff _).mpr
        ⟨found, isListed⟩)
    exact absurd inTime (Int.not_lt.mpr overdue)
  · intro settles action member
    obtain ⟨stored, outstanding⟩ :=
      (ApprovalService.mem_pendingActions_iff _).mp member
    obtain ⟨earlier, operation, later, created, status, rfl, creates,
        free, rfl⟩ :=
      exists_creation_of_lookup stored
    by_contra late
    have settled :=
      settles earlier operation later created rfl creates free
        (Int.not_lt.mp late)
    refine (listed_state_iff creates free).mp ?_ settled
    rw [PendingAction.withStatus_id] at stored
    rw [stored]
    exact outstanding

/--
At every time the operator is offered live actions only, exactly if every
action whose deadline has passed has been settled by the calls since.
-/
theorem offersLiveActions_iff
    (operations : List Operation)
    (now : TimePoint) :
    OffersLiveActions (approvalMachine.state operations) now ↔
      SettlesOverdue operations now := by
  rw [← pendingActions_live_iff]
  constructor
  · intro offers
    exact offers.listed
  · intro live
    refine ⟨live, fun rows shown row member => ?_⟩
    obtain ⟨action, listed, isRow⟩ :=
      (mem_of_mapM_eq_ok shown).mp member
    exact ⟨action, listed, isRow, live action listed⟩

end Runs

/-- An hour later the action that a client prepared is still offered. -/
theorem preparedAction_offered_late :
    ¬ OffersLiveActions
      (approvalMachine.state
        [.prepare 0 zeroRandom (bytes "writer") writeInvocation
          helloArguments 120])
      (3600 * ticksPerSecond) := by
  intro offers
  have live :=
    offers.listed { approvedAction with status := .pending }
      ((ApprovalService.mem_pendingActions_iff _).mpr ⟨rfl, rfl⟩)
  exact absurd live (by decide)

end TgGate
