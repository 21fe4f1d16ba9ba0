import TgGate.ApprovalLifetime

namespace TgGate

open Library

/-!
# Isolation of clients in the approval store

All clients share one map.  For one client, delete from a run everything that
concerns only the others and compare the two runs by unwinding.

The full run may look an action of the client up on behalf of another client
and record its expiry early.  The purged run then still holds it as pending,
past its deadline, and a lockdown records it as denied there.  Nothing the
client can observe distinguishes these entries.
-/

/-- The ids of the actions that other clients prepare in a run. -/
def foreignIds
    (clientId : Bytes)
    (operations : List Operation) : List Bytes :=
  ((createdActions operations).filter
    fun action => action.clientId ≠ clientId).map PendingAction.id

/--
The operations that stay when a run is purged to one client: its own
`prepare`s and takes, decisions on actions that are not foreign, and the
operations that name nobody.
-/
def concerns
    (clientId : Bytes)
    (foreign : List Bytes) : Operation → Bool
  | .prepare _ _ owner _ _ _ => owner = clientId
  | .approve _ actionId => actionId ∉ foreign
  | .deny _ actionId => actionId ∉ foreign
  | .takeApprovedForExecution _ _ profile _ => profile.id = clientId
  | .pendingActions => true
  | .lockdown => true

/-- The run of one client alone. -/
def purge
    (clientId : Bytes)
    (operations : List Operation) : List Operation :=
  operations.filter
    (concerns clientId (foreignIds clientId operations))

/-- What a client sees of an event: listing is the operator's. -/
def clientView (event : ApprovalEvent) : ApprovalEvent :=
  match event.label with
  | .pendingActions => ⟨event.label, .done⟩
  | _ => event

/-- Some reading so far has reached the deadline. -/
def DeadlinePassed
    (readings : List TimePoint)
    (action : PendingAction) : Prop :=
  ∃ reading ∈ readings, action.expiresAt ≤ reading

/--
The status of an action in the full run agrees with its status in the purged
run, up to the expiry that only the full run has recorded so far.  Only a
lockdown denies what is past its deadline.
-/
def StatusAgrees
    (earlier : List Operation)
    (action : PendingAction)
    (purgedStatus : ActionStatus) : Prop :=
  action.status = purgedStatus ∨
    (action.status = .expired ∧
      DeadlinePassed (earlier.filterMap Operation.reading?) action ∧
      (purgedStatus = .pending ∨
        purgedStatus = .denied ∧ .lockdown ∈ earlier))

/-- How the entries of one id correspond in the two runs. -/
inductive EntryAgrees
    (clientId : Bytes)
    (foreign : List Bytes)
    (earlier : List Operation)
    (actionId : Bytes) :
    Option PendingAction → Option PendingAction → Prop where
  | free :
      EntryAgrees clientId foreign earlier actionId none none
  | foreign
      {action : PendingAction}
      (owner : action.clientId ≠ clientId)
      (listed : actionId ∈ foreign) :
      EntryAgrees clientId foreign earlier actionId
        (some action) none
  | own
      {action : PendingAction}
      {status : ActionStatus}
      (owner : action.clientId = clientId)
      (unlisted : actionId ∉ foreign)
      (agrees : StatusAgrees earlier action status) :
      EntryAgrees clientId foreign earlier actionId
        (some action) (some (action.withStatus status))

/-- Passed deadlines stay passed. -/
theorem DeadlinePassed.append
    {readings later : List TimePoint}
    {action : PendingAction}
    (passed : DeadlinePassed readings action) :
    DeadlinePassed (readings ++ later) action := by
  rcases passed with ⟨reading, member, late⟩
  exact ⟨reading, by simp [member], late⟩

theorem StatusAgrees.append
    {earlier later : List Operation}
    {action : PendingAction}
    {status : ActionStatus}
    (agrees : StatusAgrees earlier action status) :
    StatusAgrees (earlier ++ later) action status := by
  rcases agrees with same | ⟨expired, passed, purged⟩
  · exact Or.inl same
  · refine Or.inr ⟨expired, ?_, ?_⟩
    · rw [List.filterMap_append]
      exact passed.append
    · exact purged.imp_right fun ⟨denied, locked⟩ =>
        ⟨denied, List.mem_append_left _ locked⟩

/-- An operation never changes the owner of an action. -/
theorem clientId_effect
    (operation : Operation)
    (action : PendingAction) :
    (operation.effect action).clientId = action.clientId := by
  obtain ⟨status, shape⟩ :=
    operation.exists_effect_eq_withStatus action
  rw [shape]
  rfl

/-- A pending action whose deadline has passed can no longer be decided. -/
theorem not_awaitsDecision_of_passed
    {readings : List TimePoint}
    {now : TimePoint}
    {action : PendingAction}
    (passed : DeadlinePassed readings action)
    (above : ∀ earlier ∈ readings, earlier ≤ now)
    (status : ActionStatus) :
    ¬ (action.withStatus status).AwaitsDecision now := by
  rcases passed with ⟨reading, member, late⟩
  rintro ⟨-, early⟩
  exact absurd early
    (Int.not_lt.mpr (Int.le_trans late (above reading member)))

/--
Once its deadline has passed, a pending action can only stay pending, expire,
or be denied by a lockdown.
-/
theorem effect_status_of_passed
    {readings : List TimePoint}
    {action : PendingAction}
    {operation : Operation}
    (passed : DeadlinePassed readings action)
    (above :
      ∀ now ∈ operation.reading?,
        ∀ earlier ∈ readings, earlier ≤ now) :
    (operation.effect (action.withStatus .pending)).status =
        .pending ∨
      (operation.effect (action.withStatus .pending)).status =
        .expired ∨
      (operation.effect (action.withStatus .pending)).status =
          .denied ∧
        operation = .lockdown := by
  have refreshed (now : TimePoint) :
      ((action.withStatus .pending).refresh now).status = .pending ∨
        ((action.withStatus .pending).refresh now).status =
          .expired := by
    unfold PendingAction.refresh
    split
    · exact Or.inr rfl
    · exact Or.inl rfl
  cases operation with
  | prepare | pendingActions =>
      exact Or.inl rfl
  | approve now target | deny now target =>
      simp only [Operation.effect]
      split
      · rw [PendingAction.settled, if_neg
          (not_awaitsDecision_of_passed passed (above now rfl) _)]
        exact (refreshed now).imp_right Or.inl
      · exact Or.inl rfl
  | takeApprovedForExecution now target profile engine =>
      simp only [Operation.effect, PendingAction.taken]
      split
      · exact (refreshed now).imp_right Or.inl
      · exact Or.inl rfl
  | lockdown =>
      exact Or.inr (Or.inr ⟨rfl, rfl⟩)

/-- A kept operation preserves the agreement of an action of the client. -/
theorem StatusAgrees.effect
    {earlier : List Operation}
    {action : PendingAction}
    {status : ActionStatus}
    {operation : Operation}
    (agrees : StatusAgrees earlier action status)
    (above :
      ∀ now ∈ operation.reading?,
        ∀ before ∈ earlier.filterMap Operation.reading?,
          before ≤ now) :
    ∃ next,
      operation.effect (action.withStatus status) =
          (operation.effect action).withStatus next ∧
        StatusAgrees (earlier ++ [operation])
          (operation.effect action) next := by
  rcases agrees with same | ⟨expired, passed, purged⟩
  · refine ⟨(operation.effect action).status, ?_, Or.inl rfl⟩
    rw [PendingAction.withStatus_eq_self same,
      PendingAction.withStatus_eq_self rfl]
  · have unmoved : operation.effect action = action :=
      Operation.effect_of_finished
        (by simp [PendingAction.Finished, expired]) operation
    obtain ⟨next, shape⟩ :=
      operation.exists_effect_eq_withStatus (action.withStatus status)
    refine ⟨next, by rw [shape, unmoved]; rfl, ?_⟩
    rw [unmoved]
    have nextStatus :
        (operation.effect (action.withStatus status)).status =
          next := by
      rw [shape]
      rfl
    have stillPassed :
        DeadlinePassed
          ((earlier ++ [operation]).filterMap Operation.reading?)
          action := by
      rw [List.filterMap_append]
      exact passed.append
    rcases purged with pending | ⟨denied, locked⟩
    · subst status
      rcases effect_status_of_passed passed above with
        pending | expiredToo | ⟨denied, isLockdown⟩
      · exact Or.inr ⟨expired, stillPassed,
          Or.inl (nextStatus.symm.trans pending)⟩
      · exact Or.inl
          (expired.trans (expiredToo.symm.trans nextStatus))
      · exact Or.inr ⟨expired, stillPassed,
          Or.inr ⟨nextStatus.symm.trans denied, by simp [isLockdown]⟩⟩
    · subst status
      have finished : (action.withStatus .denied).Finished :=
        PendingAction.finished_of_status_eq_denied rfl
      rw [Operation.effect_of_finished finished] at nextStatus
      exact Or.inr ⟨expired, stillPassed,
        Or.inr ⟨nextStatus.symm, List.mem_append_left _ locked⟩⟩

/-- Expiry recorded on behalf of another client is the only hidden effect. -/
theorem StatusAgrees.hiddenEffect
    {clientId : Bytes}
    {foreign : List Bytes}
    {earlier : List Operation}
    {action : PendingAction}
    {status : ActionStatus}
    {operation : Operation}
    (agrees : StatusAgrees earlier action status)
    (owner : action.clientId = clientId)
    (unlisted : action.id ∉ foreign)
    (isHidden : concerns clientId foreign operation = false) :
    StatusAgrees (earlier ++ [operation])
      (operation.effect action) status := by
  cases operation with
  | prepare =>
      exact agrees.append
  | approve now target | deny now target =>
      have targetListed : target ∈ foreign := by
        simpa [concerns] using isHidden
      have isOther : action.id ≠ target := by
        rintro rfl
        exact unlisted targetListed
      simpa [Operation.effect, isOther] using agrees.append
  | takeApprovedForExecution now target profile engine =>
      have otherClient : action.clientId ≠ profile.id := by
        intro same
        simp [concerns, ← same, owner] at isHidden
      simp only [Operation.effect, PendingAction.taken, otherClient,
        and_false, ↓reduceIte]
      split
      · by_cases late :
            action.status = .pending ∧ isExpired now action
        · rw [PendingAction.refresh, if_pos late]
          refine Or.inr ⟨rfl, ⟨now, ?_, ?_⟩, ?_⟩
          · simp [Operation.reading?]
          · simpa [isExpired] using late.2
          · rcases agrees with same | ⟨expired, -⟩
            · exact Or.inl (same.symm.trans late.1)
            · rw [late.1] at expired
              cases expired
        · rw [PendingAction.refresh, if_neg late]
          exact agrees.append
      · exact agrees.append
  | pendingActions | lockdown =>
      simp [concerns] at isHidden

/-- An action created in a run is foreign exactly when another client's is. -/
theorem mem_foreignIds_iff
    {clientId : Bytes}
    {operations : List Operation}
    {action : PendingAction}
    (fresh : FreshIds operations)
    (created : action ∈ createdActions operations) :
    action.id ∈ foreignIds clientId operations ↔
      action.clientId ≠ clientId := by
  constructor
  · intro listed
    obtain ⟨other, otherFiltered, sameId⟩ := List.mem_map.mp listed
    obtain ⟨otherCreated, otherClient⟩ :=
      List.mem_filter.mp otherFiltered
    have same : other = action :=
      List.inj_on_of_nodup_map fresh otherCreated created sameId
    simpa [same] using otherClient
  · intro otherClient
    exact List.mem_map.mpr
      ⟨action, List.mem_filter.mpr ⟨created, by simpa using otherClient⟩,
        rfl⟩

/-- A run splits its readings at every operation. -/
theorem reading_above
    {operations earlier rest : List Operation}
    {operation : Operation}
    (clock : NondecreasingClock operations)
    (shape : operations = earlier ++ operation :: rest) :
    ∀ now ∈ operation.reading?,
      ∀ before ∈ earlier.filterMap Operation.reading?,
        before ≤ now := by
  intro now reads before member
  simp only [Option.mem_def] at reads
  unfold NondecreasingClock at clock
  rw [shape, List.filterMap_append, List.pairwise_append] at clock
  exact clock.2.2 before member now (by simp [reads])

/--
The unwinding relation: stored ids were created earlier in the full run, and
the entries of every id correspond.
-/
def Isolated
    (clientId : Bytes)
    (operations rest : List Operation)
    (full purged : ApprovalService) : Prop :=
  ∃ earlier,
    operations = earlier ++ rest ∧
      (∀ {actionId action},
        full.lookup actionId = some action →
        actionId ∈ (createdActions earlier).map PendingAction.id) ∧
      ∀ actionId,
        EntryAgrees clientId (foreignIds clientId operations)
          earlier actionId
          (full.lookup actionId) (purged.lookup actionId)

/-- Whatever is stored after a step was created up to that step. -/
theorem created_of_lookup_step
    {service : ApprovalService}
    {earlier : List Operation}
    {operation : Operation}
    (createdBefore :
      ∀ {actionId action},
        service.lookup actionId = some action →
        actionId ∈ (createdActions earlier).map PendingAction.id)
    {actionId : Bytes}
    {action : PendingAction}
    (found :
      (approvalMachine.step service operation).1.lookup actionId =
        some action) :
    actionId ∈
      (createdActions (earlier ++ [operation])).map
        PendingAction.id := by
  rw [createdActions, List.filterMap_append, List.map_append,
    List.mem_append]
  cases before : service.lookup actionId with
  | some previous =>
      exact Or.inl (createdBefore before)
  | none =>
      rw [lookup_step_of_free before] at found
      obtain ⟨created, sameId⟩ := created_of_filter found
      right
      simp [created, sameId]

/-- A kept `prepare` creates an action of the client. -/
theorem clientId_of_created?
    {clientId : Bytes}
    {foreign : List Bytes}
    {operation : Operation}
    {action : PendingAction}
    (created : operation.created? = some action) :
    concerns clientId foreign operation =
      decide (action.clientId = clientId) := by
  obtain ⟨now, random, owner, invocation, arguments, lifetime, id,
      rfl, -, rfl⟩ :=
    prepare_of_created? created
  rfl

section Steps

variable
  {clientId : Bytes}
  {operations earlier rest : List Operation}
  {operation : Operation}
  {actionId : Bytes}
  {full purged : ApprovalService}

/-- The entry of one id after an operation deleted from the purged run. -/
theorem EntryAgrees.hiddenStep
    (fresh : FreshIds operations)
    (shape : operations = earlier ++ operation :: rest)
    (isHidden :
      concerns clientId (foreignIds clientId operations) operation =
        false)
    (agrees :
      EntryAgrees clientId (foreignIds clientId operations)
        earlier actionId
        (full.lookup actionId) (purged.lookup actionId)) :
    EntryAgrees clientId (foreignIds clientId operations)
      (earlier ++ [operation]) actionId
      ((approvalMachine.step full operation).1.lookup actionId)
      (purged.lookup actionId) := by
  generalize before : full.lookup actionId = fullEntry at agrees
  generalize purged.lookup actionId = purgedEntry at agrees ⊢
  cases agrees with
  | free =>
      rw [lookup_step_of_free before]
      cases result :
          operation.created?.filter
            fun action => action.id = actionId with
      | none =>
          exact .free
      | some action =>
          obtain ⟨created, sameId⟩ := created_of_filter result
          have owner : action.clientId ≠ clientId := by
            simpa [clientId_of_created? created] using isHidden
          refine .foreign owner ?_
          rw [← sameId]
          exact (mem_foreignIds_iff fresh
            (mem_createdActions shape created)).mpr owner
  | foreign owner listed =>
      rw [lookup_step_of_stored before]
      exact .foreign (by rwa [clientId_effect]) listed
  | @own action status owner unlisted agrees =>
      rw [lookup_step_of_stored before]
      have sameId := full.id_of_lookup before
      obtain ⟨next, effectShape⟩ :=
        operation.exists_effect_eq_withStatus action
      have samePurged :
          action.withStatus status =
            (operation.effect action).withStatus status := by
        rw [effectShape, PendingAction.withStatus_withStatus]
      rw [samePurged]
      refine .own (by rwa [clientId_effect]) unlisted ?_
      exact agrees.hiddenEffect owner (by rwa [sameId]) isHidden

/-- The entry of one id after an operation taken in both runs. -/
theorem EntryAgrees.visibleStep
    (clock : NondecreasingClock operations)
    (fresh : FreshIds operations)
    (shape : operations = earlier ++ operation :: rest)
    (createdBefore :
      ∀ {actionId action},
        full.lookup actionId = some action →
        actionId ∈ (createdActions earlier).map PendingAction.id)
    (isKept :
      concerns clientId (foreignIds clientId operations) operation =
        true)
    (agrees :
      EntryAgrees clientId (foreignIds clientId operations)
        earlier actionId
        (full.lookup actionId) (purged.lookup actionId)) :
    EntryAgrees clientId (foreignIds clientId operations)
      (earlier ++ [operation]) actionId
      ((approvalMachine.step full operation).1.lookup actionId)
      ((approvalMachine.step purged operation).1.lookup actionId) := by
  generalize before : full.lookup actionId = fullEntry at agrees
  generalize purgedBefore : purged.lookup actionId = purgedEntry at agrees
  cases agrees with
  | free =>
      rw [lookup_step_of_free before, lookup_step_of_free purgedBefore]
      cases result :
          operation.created?.filter
            fun action => action.id = actionId with
      | none =>
          exact .free
      | some action =>
          obtain ⟨created, sameId⟩ := created_of_filter result
          have owner : action.clientId = clientId := by
            simpa [clientId_of_created? created] using isKept
          have unlisted : actionId ∉ foreignIds clientId operations := by
            rw [← sameId, mem_foreignIds_iff fresh
              (mem_createdActions shape created)]
            exact not_not.mpr owner
          exact .own owner unlisted (Or.inl rfl)
  | foreign owner listed =>
      rw [lookup_step_of_stored before, lookup_step_of_free purgedBefore]
      cases result :
          operation.created?.filter
            fun action => action.id = actionId with
      | none =>
          exact .foreign (by rwa [clientId_effect]) listed
      | some action =>
          -- The id would be generated a second time.
          obtain ⟨created, sameId⟩ := created_of_filter result
          exact absurd (sameId ▸ createdBefore before)
            (id_not_created_before fresh shape created)
  | @own action status owner unlisted agrees =>
      rw [lookup_step_of_stored before,
        lookup_step_of_stored purgedBefore]
      obtain ⟨next, effectShape, agreesAfter⟩ :=
        agrees.effect (reading_above clock shape)
      rw [effectShape]
      exact .own (by rwa [clientId_effect]) unlisted agreesAfter

/-- An entry awaits the same decisions in both runs. -/
theorem StatusAgrees.awaitsDecision_iff
    {earlier : List Operation}
    {action : PendingAction}
    {status : ActionStatus}
    {now : TimePoint}
    (agrees : StatusAgrees earlier action status)
    (above :
      ∀ before ∈ earlier.filterMap Operation.reading?, before ≤ now) :
    action.AwaitsDecision now ↔
      (action.withStatus status).AwaitsDecision now := by
  rcases agrees with same | ⟨expired, passed, -⟩
  · rw [PendingAction.withStatus_eq_self same]
  · refine iff_of_false ?_
      (not_awaitsDecision_of_passed passed above status)
    rintro ⟨pending, -⟩
    rw [expired] at pending
    cases pending

/-- An entry is executable in both runs or in neither. -/
theorem StatusAgrees.executable_iff
    {earlier : List Operation}
    {action : PendingAction}
    {status : ActionStatus}
    (agrees : StatusAgrees earlier action status)
    (profile : McpClientProfile)
    (engine : IPolicyEngine) :
    action.Executable profile engine ↔
      (action.withStatus status).Executable profile engine := by
  rcases agrees with same | ⟨expired, -, pending | ⟨denied, -⟩⟩
  · rw [PendingAction.withStatus_eq_self same]
  · simp [PendingAction.Executable, expired, pending]
  · simp [PendingAction.Executable, expired, denied]

/-- A decision on an id that is not foreign is answered alike. -/
theorem settle_fst_eq
    {now : TimePoint}
    {earlier : List Operation}
    {foreign : List Bytes}
    (agrees :
      EntryAgrees clientId foreign earlier actionId
        (full.lookup actionId) (purged.lookup actionId))
    (unlisted : actionId ∉ foreign)
    (above :
      ∀ before ∈ earlier.filterMap Operation.reading?, before ≤ now)
    (decision : ActionStatus) :
    (full.settle now actionId decision).1 =
      (purged.settle now actionId decision).1 := by
  rw [ApprovalService.settle_fst, ApprovalService.settle_fst]
  generalize full.lookup actionId = fullEntry at agrees ⊢
  generalize purged.lookup actionId = purgedEntry at agrees ⊢
  cases agrees with
  | free =>
      rfl
  | foreign owner listed =>
      exact absurd listed unlisted
  | own owner unlisted agrees =>
      simp only [Option.bind_some,
        agrees.awaitsDecision_iff above,
        PendingAction.withStatus_withStatus]

/-- An attempt of the client to take any action is answered alike. -/
theorem takeApprovedForExecution_fst_eq
    {earlier : List Operation}
    {foreign : List Bytes}
    (agrees :
      EntryAgrees clientId foreign earlier actionId
        (full.lookup actionId) (purged.lookup actionId))
    (now : TimePoint)
    {profile : McpClientProfile}
    (isClient : profile.id = clientId)
    (engine : IPolicyEngine) :
    (full.takeApprovedForExecution now actionId profile engine).1 =
      (purged.takeApprovedForExecution now actionId profile engine).1 := by
  rw [ApprovalService.takeApprovedForExecution_fst,
    ApprovalService.takeApprovedForExecution_fst]
  generalize full.lookup actionId = fullEntry at agrees ⊢
  generalize purged.lookup actionId = purgedEntry at agrees ⊢
  cases agrees with
  | free =>
      rfl
  | foreign owner listed =>
      have notExecutable : ∀ action : PendingAction,
          action.clientId ≠ clientId →
          ¬ action.Executable profile engine := by
        rintro action owner ⟨-, sameClient, -⟩
        exact owner (sameClient.trans isClient)
      simp [notExecutable _ owner]
  | own owner unlisted agrees =>
      simp only [Option.bind_some,
        agrees.executable_iff profile engine,
        PendingAction.withStatus_withStatus]

end Steps

/-- Other clients' operations are invisible to a client. -/
theorem unwinding_isolated
    {operations : List Operation}
    (clock : NondecreasingClock operations)
    (fresh : FreshIds operations)
    (clientId : Bytes) :
    approvalMachine.Unwinding
      (concerns clientId (foreignIds clientId operations))
      clientView
      (Isolated clientId operations) where
  hidden := by
    intro operation rest full purged isHidden isolated
    rcases isolated with ⟨earlier, shape, createdBefore, agrees⟩
    exact ⟨earlier ++ [operation], by simp [shape],
      created_of_lookup_step createdBefore,
      fun actionId =>
        (agrees actionId).hiddenStep fresh shape isHidden⟩
  visible := by
    intro operation rest full purged isKept isolated
    rcases isolated with ⟨earlier, shape, createdBefore, agrees⟩
    exact ⟨earlier ++ [operation], by simp [shape],
      created_of_lookup_step createdBefore,
      fun actionId =>
        (agrees actionId).visibleStep clock fresh shape
          createdBefore isKept⟩
  observed := by
    intro operation rest full purged isKept isolated
    rcases isolated with ⟨earlier, shape, -, agrees⟩
    have above := reading_above clock shape
    cases operation with
    | prepare now random owner invocation arguments lifetime =>
        simp only [clientView, Machine.eventAt, approvalMachine,
          ApprovalService.prepare]
        cases createSecureId random <;> rfl
    | approve now actionId =>
        have unlisted :
            actionId ∉ foreignIds clientId operations := by
          simpa [concerns] using isKept
        simp only [clientView, Machine.eventAt, approvalMachine,
          ApprovalService.approve]
        rw [settle_fst_eq (agrees actionId) unlisted (above now rfl)]
    | deny now actionId =>
        have unlisted :
            actionId ∉ foreignIds clientId operations := by
          simpa [concerns] using isKept
        simp only [clientView, Machine.eventAt, approvalMachine,
          ApprovalService.deny]
        rw [settle_fst_eq (agrees actionId) unlisted (above now rfl)]
    | takeApprovedForExecution now actionId profile engine =>
        have isClient : profile.id = clientId := by
          simpa [concerns] using isKept
        simp only [clientView, Machine.eventAt, approvalMachine]
        rw [takeApprovedForExecution_fst_eq (agrees actionId) now
          isClient engine]
    | pendingActions | lockdown =>
        rfl

/-- What isolates one client from the others in a run. -/
structure ClientIsolated
    (clientId : Bytes)
    (operations : List Operation) : Prop where
  /-- Every remaining call returns the same in the purged run. -/
  answers :
    ((approvalMachine.history operations).filter fun event =>
        concerns clientId (foreignIds clientId operations)
          event.label).map clientView =
      (approvalMachine.history (purge clientId operations)).map
        clientView
  /-- At any time, the entries of the client agree in both runs. -/
  statuses :
    ∀ {earlier later},
      operations = earlier ++ later →
      ∀ actionId,
        EntryAgrees clientId (foreignIds clientId operations)
          earlier actionId
          ((approvalMachine.state earlier).lookup actionId)
          ((approvalMachine.state
            (earlier.filter
              (concerns clientId
                (foreignIds clientId operations)))).lookup actionId)
  /-- Taking another client's action is like taking no action at all. -/
  foreignTake :
    ∀ {earlier later},
      operations = earlier ++ later →
      ∀ {now actionId action profile engine},
        (approvalMachine.state earlier).lookup actionId = some action →
        action.clientId ≠ clientId →
        profile.id = clientId →
        (∀ absentId,
          (approvalMachine.state earlier).lookup absentId = none →
          ((approvalMachine.state earlier).takeApprovedForExecution
              now actionId profile engine).1 =
            ((approvalMachine.state earlier).takeApprovedForExecution
              now absentId profile engine).1) ∧
        ∀ query,
          ((approvalMachine.state earlier).takeApprovedForExecution
              now actionId profile engine).2.lookup query =
            if query = actionId then
              some (action.refresh now)
            else
              (approvalMachine.state earlier).lookup query

/-- Taking another client's action returns nothing and at most expires it. -/
theorem take_of_foreign
    (now : TimePoint)
    (engine : IPolicyEngine)
    {service : ApprovalService}
    {actionId : Bytes}
    {action : PendingAction}
    {profile : McpClientProfile}
    (stored : service.lookup actionId = some action)
    (isForeign : action.clientId ≠ profile.id) :
    (service.takeApprovedForExecution
        now actionId profile engine).1 = none ∧
      ∀ query,
        (service.takeApprovedForExecution
            now actionId profile engine).2.lookup query =
          if query = actionId then
            some (action.refresh now)
          else
            service.lookup query := by
  constructor
  · have notExecutable : ¬ action.Executable profile engine := by
      rintro ⟨-, sameClient, -⟩
      exact isForeign sameClient
    simp [ApprovalService.takeApprovedForExecution_fst, stored,
      notExecutable]
  · intro query
    rw [ApprovalService.lookup_takeApprovedForExecution]
    by_cases isTarget : query = actionId
    · simp [isTarget, stored, PendingAction.taken, isForeign]
    · simp [isTarget]

/--
In every run with a nondecreasing clock and fresh ids, a client is isolated
from the operations of the others.
-/
theorem clientIsolated_of_freshIds
    {operations : List Operation}
    (clock : NondecreasingClock operations)
    (fresh : FreshIds operations)
    (clientId : Bytes) :
    ClientIsolated clientId operations := by
  have unwinding := unwinding_isolated clock fresh clientId
  have initially :
      Isolated clientId operations operations
        approvalMachine.initial approvalMachine.initial := by
    refine ⟨[], rfl, ?_, fun actionId => .free⟩
    intro actionId action found
    simp [approvalMachine] at found
  refine ⟨?_, ?_, ?_⟩
  · exact unwinding.observe_historyFrom initially
  · intro earlier later shape actionId
    have related :
        Isolated clientId operations (earlier ++ later)
          approvalMachine.initial approvalMachine.initial := by
      rw [← shape]
      exact initially
    obtain ⟨passed, passedShape, -, agrees⟩ :=
      unwinding.related_stateFrom related
    have samePassed : passed = earlier :=
      List.append_cancel_right (passedShape.symm.trans shape)
    subst samePassed
    exact agrees actionId
  · intro earlier later _ now actionId action profile engine
      stored isForeign isClient
    obtain ⟨refused, others⟩ :=
      take_of_foreign now engine stored
        (isClient ▸ isForeign)
    refine ⟨fun absentId absent => ?_, others⟩
    simp [refused, ApprovalService.takeApprovedForExecution_fst,
      absent]

/-- A client without any permissions of its own. -/
def readerProfile : McpClientProfile where
  id := bytes "reader"

/--
The writer's action is past its deadline when another client asks for it, and
then the operator locks everything down.
-/
def sharedRun : List Operation :=
  [.prepare 0 zeroRandom (bytes "writer") writeInvocation
      helloArguments 120,
    .takeApprovedForExecution (121 * ticksPerSecond) zeroId
      readerProfile policyEngine,
    .lockdown]

theorem clientIsolated_sharedRun :
    ClientIsolated (bytes "writer") sharedRun :=
  clientIsolated_of_freshIds (by decide) (by decide) (bytes "writer")

/--
The two runs do not agree up to expiry alone: what one records as expired, a
lockdown may have recorded as denied in the other.
-/
theorem expired_denied_sharedRun :
    NondecreasingClock sharedRun ∧
      FreshIds sharedRun ∧
      ((approvalMachine.state sharedRun).lookup zeroId).map
          PendingAction.status = some .expired ∧
      ((approvalMachine.state
          (purge (bytes "writer") sharedRun)).lookup zeroId).map
          PendingAction.status = some .denied :=
  ⟨by decide, by decide, by decide +kernel, by decide +kernel⟩

end TgGate
