import TgGate.RequestOwnership

namespace TgGate

open Library

/-!
# Safe request correlation

Every response a waiter gets was passed to `fulfill` while the router had the
waiter's ticket under its own id.  Together with the ledger this makes request
correlation safe under every interleaving, with ids reused after timeouts,
late responses, `close` and `reopen`.
-/

section Completion

variable {Response : Type}

/--
A request state is as it was allocated until its completion, and then what the
completion made of the allocated state.
-/
def Explained
    (routing : RequestRouting Response)
    (reports : List (TicketReport Response)) : Prop :=
  ∀ {ticket issued},
    routing.tickets[ticket]? = some issued →
    (∀ completion,
        .completed ticket completion ∈ reports →
        issued.state = completion.apply {}) ∧
      (ticket ∉ completedTickets reports → issued.state = {})

/-- A completed ticket was issued. -/
theorem lt_of_completed
    {routing : RequestRouting Response}
    {reports : List (TicketReport Response)}
    {ticket : Ticket}
    (accounted :
      (routing.ledger reports).Perm
        (List.range routing.tickets.length))
    (completed : ticket ∈ completedTickets reports) :
    ticket < routing.tickets.length := by
  have inLedger : ticket ∈ routing.ledger reports :=
    List.mem_append_right _ (List.mem_append_left _ completed)
  exact List.mem_range.mp (accounted.subset inLedger)

/-- A ticket some thread holds is not completed. -/
theorem not_completed_of_held
    {routing : RequestRouting Response}
    {reports : List (TicketReport Response)}
    {ticket : Ticket}
    (accounted :
      (routing.ledger reports).Perm
        (List.range routing.tickets.length))
    (held : ticket ∈ routing.held) :
    ticket ∉ completedTickets reports := by
  have linear : (routing.ledger reports).Nodup :=
    accounted.nodup_iff.mpr List.nodup_range
  rw [RequestRouting.ledger, List.nodup_append] at linear
  intro completed
  exact linear.2.2
    ticket (List.mem_append_right _ held)
    ticket (List.mem_append_left _ completed) rfl

/-- Completing a ticket leaves every other request state alone. -/
theorem getElem?_complete
    (routing : RequestRouting Response)
    (completed ticket : Ticket)
    (completion : Completion Response) :
    (routing.complete completed completion).tickets[ticket]? =
      if completed = ticket then
        routing.tickets[ticket]?.map fun issued =>
          { issued with state := completion.apply issued.state }
      else
        routing.tickets[ticket]? := by
  unfold RequestRouting.complete
  split
  next same =>
    simp [same]
  next different =>
    simp [different]

section ExplainedSteps

variable
  {routing next : RequestRouting Response}
  {reports : List (TicketReport Response)}
  (accounted :
    (routing.ledger reports).Perm
      (List.range routing.tickets.length))
  (explained : Explained routing reports)

include accounted explained

/-- A new request state is as allocated, and its ticket not completed. -/
theorem explained_of_opened
    {requestId : UInt64}
    (tickets :
      next.tickets =
        routing.tickets ++ [{ requestId := requestId }]) :
    Explained next
      (reports ++ [.opened routing.tickets.length requestId]) := by
  intro ticket issued found
  rw [tickets] at found
  rcases Nat.lt_or_ge ticket routing.tickets.length with older | newer
  · rw [List.getElem?_append_left older] at found
    simpa using explained found
  · have untouched : ticket ∉ completedTickets reports :=
      fun completed =>
        Nat.not_lt_of_ge newer (lt_of_completed accounted completed)
    have fresh : issued.state = {} := by
      rw [List.getElem?_append_right newer,
        List.getElem?_singleton] at found
      split at found
      · cases found
        rfl
      · cases found
    refine ⟨?_, fun _ => fresh⟩
    intro completion completed
    refine absurd (mem_completedTickets_iff.mpr ⟨completion, ?_⟩)
      untouched
    simpa using completed

/-- A thread completes the ticket it holds from the allocated state. -/
theorem explained_of_completed
    {completed : Ticket}
    {completion : Completion Response}
    (held : completed ∈ routing.held)
    (tickets :
      next.tickets = (routing.complete completed completion).tickets) :
    Explained next (reports ++ [.completed completed completion]) := by
  intro ticket issued found
  rw [tickets, getElem?_complete] at found
  split at found
  next same =>
    subst completed
    obtain ⟨before, here, rfl⟩ := Option.map_eq_some_iff.mp found
    have untouched := not_completed_of_held accounted held
    refine ⟨?_, ?_⟩
    · intro other report
      rcases List.mem_append.mp report with earlier | now
      · exact absurd (mem_completedTickets_iff.mpr ⟨other, earlier⟩)
          untouched
      · simp only [List.mem_singleton, TicketReport.completed.injEq,
          true_and] at now
        rw [now, (explained here).2 untouched]
    · intro notCompleted
      refine absurd (mem_completedTickets_iff.mpr ⟨completion, ?_⟩)
        notCompleted
      simp
  next different =>
    have apart : ticket ≠ completed := fun same => different same.symm
    simpa [apart] using explained found

/-- A step keeps the request states explained. -/
theorem explained_step
    {event : RoutingEvent Response}
    (step : LedgerStep routing next event) :
    Explained next (reports ++ (report? event).toList) := by
  cases step with
  | quiet registered held tickets report =>
      intro ticket issued found
      rw [tickets] at found
      simpa [report] using explained found
  | takes pending registered held tickets report =>
      intro ticket issued found
      rw [tickets] at found
      simpa [report] using explained found
  | abandons other registered held tickets report =>
      intro ticket issued found
      rw [tickets] at found
      simpa [report] using explained found
  | opens requestId registered held tickets report =>
      rw [report]
      exact explained_of_opened accounted explained tickets
  | completes other completion registered held tickets report =>
      rw [report]
      exact explained_of_completed accounted explained
        (held.symm.subset List.mem_cons_self) tickets

end ExplainedSteps

/-- In every reachable state the request states are explained. -/
theorem explained_run (labels : List (RoutingCall Response)) :
    Explained ((requestRouting Response).state labels)
      (reports labels) := by
  induction labels using List.reverseRecOn with
  | nil =>
      intro ticket issued found
      simp [requestRouting] at found
  | append_singleton labels call inductionHypothesis =>
      rw [Machine.state_snoc, reports_snoc]
      exact explained_step (ledger_perm_run labels)
        inductionHypothesis (routingStep _ call).ledgerStep

/-- A completed ticket is ready, and only a completed one. -/
theorem ready_iff_completed
    {labels : List (RoutingCall Response)}
    {ticket : Ticket}
    {issued : IssuedTicket Response}
    (found :
      ((requestRouting Response).state labels).tickets[ticket]? =
        some issued) :
    issued.state.ready = true ↔
      ticket ∈ completedTickets (reports labels) := by
  obtain ⟨completedState, freshState⟩ := explained_run labels found
  constructor
  · intro ready
    by_contra untouched
    simp [freshState untouched] at ready
  · intro completed
    obtain ⟨completion, report⟩ :=
      mem_completedTickets_iff.mp completed
    rw [completedState completion report]
    cases completion <;> rfl

/-- A response is in a request state only after a completion with it. -/
theorem completed_of_response
    {labels : List (RoutingCall Response)}
    {ticket : Ticket}
    {issued : IssuedTicket Response}
    {response : Response}
    (found :
      ((requestRouting Response).state labels).tickets[ticket]? =
        some issued)
    (answered : issued.state.response = some response) :
    .completed ticket (.fulfilled response) ∈ reports labels := by
  obtain ⟨completedState, freshState⟩ := explained_run labels found
  by_cases completed : ticket ∈ completedTickets (reports labels)
  · obtain ⟨completion, report⟩ :=
      mem_completedTickets_iff.mp completed
    rw [completedState completion report] at answered
    cases completion with
    | fulfilled other =>
        cases answered
        exact report
    | failed error =>
        cases answered
  · rw [freshState completed] at answered
    cases answered

/-- A ticket has at most one completion. -/
theorem completion_unique
    {labels : List (RoutingCall Response)}
    {ticket : Ticket}
    {first second : Completion Response}
    (one : .completed ticket first ∈ reports labels)
    (other : .completed ticket second ∈ reports labels) :
    first.apply {} = second.apply {} := by
  have issued : ticket <
      ((requestRouting Response).state labels).tickets.length :=
    lt_of_completed (ledger_perm_run labels)
      (mem_completedTickets_iff.mpr ⟨first, one⟩)
  have explained :=
    explained_run labels (List.getElem?_eq_getElem issued)
  exact (explained.1 first one).symm.trans (explained.1 second other)

end Completion

section Provenance

variable {Response : Type}

/--
The call at a position of the run passed the response to `fulfill` while the
ticket was the one registered under the id of the call.
-/
def FulfilledAt
    (labels : List (RoutingCall Response))
    (position : Nat)
    (requestId : UInt64)
    (response : Response)
    (ticket : Ticket) : Prop :=
  labels[position]? = some (.fulfill requestId response) ∧
    AList.lookup requestId
        ((requestRouting Response).state
          (labels.take position)).router.requests =
      some ticket

/-- What a call did stays true when the run goes on. -/
theorem FulfilledAt.append
    {labels : List (RoutingCall Response)}
    {position : Nat}
    {requestId : UInt64}
    {response : Response}
    {ticket : Ticket}
    (fulfilled :
      FulfilledAt labels position requestId response ticket)
    (later : List (RoutingCall Response)) :
    FulfilledAt (labels ++ later) position requestId response
      ticket := by
  rcases fulfilled with ⟨here, registered⟩
  have bound : position < labels.length :=
    (List.getElem?_eq_some_iff.mp here).1
  refine ⟨?_, ?_⟩
  · rw [List.getElem?_append_left bound, here]
  · rw [List.take_append_of_le_length (Nat.le_of_lt bound),
      registered]

/-- One call fulfills one ticket, opened under the id of the call. -/
theorem FulfilledAt.opened
    {labels : List (RoutingCall Response)}
    {position : Nat}
    {requestId : UInt64}
    {response : Response}
    {ticket : Ticket}
    (fulfilled :
      FulfilledAt labels position requestId response ticket) :
    .opened ticket requestId ∈ reports labels := by
  have before := opened_of_registered fulfilled.2
  rw [← List.take_append_drop position labels]
  exact reports_subset_append _ _ before

theorem FulfilledAt.ticket_unique
    {labels : List (RoutingCall Response)}
    {position : Nat}
    {firstId secondId : UInt64}
    {firstResponse secondResponse : Response}
    {first second : Ticket}
    (one : FulfilledAt labels position firstId firstResponse first)
    (other :
      FulfilledAt labels position secondId secondResponse second) :
    first = second := by
  have sameCall := one.1.symm.trans other.1
  simp only [Option.some.injEq, RoutingCall.fulfill.injEq] at sameCall
  have sameTicket := one.2
  rw [sameCall.1, other.2] at sameTicket
  exact (Option.some.inj sameTicket).symm

/-- A thread is fulfilling a ticket because `fulfill` just took it. -/
theorem RoutingStep.fulfilling
    {routing next : RequestRouting Response}
    {call : RoutingCall Response}
    {reply : RoutingReply Response}
    (step : RoutingStep routing call next reply)
    {ticket : Ticket}
    {response : Response}
    (fulfilling :
      .fulfilling ticket response ∈ next.inProgress) :
    .fulfilling ticket response ∈ routing.inProgress ∨
      ∃ requestId,
        call = .fulfill requestId response ∧
          AList.lookup requestId routing.router.requests =
            some ticket := by
  cases step with
  | idle | discards | reopens | opens | returns =>
      exact .inl fulfilling
  | takes lookup =>
      rcases List.mem_append.mp fulfilling with before | now
      · exact .inl before
      · simp only [List.mem_singleton,
          Progress.fulfilling.injEq] at now
        rcases now with ⟨rfl, rfl⟩
        exact .inr ⟨_, rfl, lookup⟩
  | closes | expires =>
      left
      simpa using fulfilling
  | fulfills | closed | timesOut =>
      exact .inl (List.mem_of_mem_eraseIdx fulfilling)
  | fails found =>
      rcases List.mem_or_eq_of_mem_set fulfilling with
        before | replaced
      · exact .inl before
      · cases replaced

/-- A ticket is completed with a response by the thread fulfilling it. -/
theorem RoutingStep.fulfilling_of_completed
    {routing next : RequestRouting Response}
    {call : RoutingCall Response}
    {reply : RoutingReply Response}
    (step : RoutingStep routing call next reply)
    {ticket : Ticket}
    {response : Response}
    (completed :
      report? ⟨call, reply⟩ =
        some (.completed ticket (.fulfilled response))) :
    .fulfilling ticket response ∈ routing.inProgress := by
  cases step with
  | idle quiet =>
      rw [report?_of_quiet quiet] at completed
      cases completed
  | fulfills found =>
      cases completed
      exact List.mem_of_getElem? found
  | timesOut found =>
      simp only [report?] at completed
      split at completed <;> simp_all
  | discards | reopens | opens | takes | closes | returns | expires
      | fails | closed =>
      cases completed

/-- Every response on its way or delivered was passed to `fulfill`. -/
theorem exists_fulfilledAt
    {labels : List (RoutingCall Response)}
    {ticket : Ticket}
    {response : Response}
    (delivered :
      .fulfilling ticket response ∈
          ((requestRouting Response).state labels).inProgress ∨
        .completed ticket (.fulfilled response) ∈ reports labels) :
    ∃ position requestId,
      FulfilledAt labels position requestId response ticket := by
  induction labels using List.reverseRecOn with
  | nil =>
      simp [requestRouting, reports, reportsOf] at delivered
  | append_singleton labels call inductionHypothesis =>
      have earlier :
          (∃ position requestId,
            FulfilledAt labels position requestId response ticket) →
          ∃ position requestId,
            FulfilledAt (labels ++ [call]) position requestId response
              ticket := by
        rintro ⟨position, requestId, fulfilled⟩
        exact ⟨position, requestId, fulfilled.append [call]⟩
      rw [Machine.state_snoc, reports_snoc, List.mem_append,
        Option.mem_toList] at delivered
      rcases delivered with fulfilling | completedBefore | completedNow
      · rcases (routingStep _ call).fulfilling fulfilling with
          before | ⟨requestId, rfl, registered⟩
        · exact earlier (inductionHypothesis (.inl before))
        · exact ⟨labels.length, requestId, by simp, by simpa⟩
      · exact earlier (inductionHypothesis (.inr completedBefore))
      · exact earlier (inductionHypothesis
          (.inl ((routingStep _ call).fulfilling_of_completed
            completedNow)))

end Provenance

section Safety

variable {Response : Type}

/-- Who a ticket belongs to. -/
inductive Custody where
  | registered
  | held
  | completed
  | abandoned
  deriving Repr, DecidableEq

/-- The tickets one kind of owner has. -/
def portion
    (labels : List (RoutingCall Response)) : Custody → List Ticket
  | .registered => ((requestRouting Response).state labels).registered
  | .held => ((requestRouting Response).state labels).held
  | .completed => completedTickets (reports labels)
  | .abandoned => abandonedTickets (reports labels)

/--
A ticket opened under an id is registered there, held by exactly one thread
that fulfills or closes, ready, or unregistered by its own waiter.
-/
def OwnedBy
    (labels : List (RoutingCall Response))
    (requestId : UInt64)
    (ticket : Ticket) : Custody → Prop
  | .registered =>
      AList.lookup requestId
          ((requestRouting Response).state labels).router.requests =
        some ticket
  | .held =>
      ∃ before progress after,
        ((requestRouting Response).state labels).inProgress =
            before ++ progress :: after ∧
          ticket ∈ progress.held ∧
          progress.held.Nodup ∧
          ∀ other ∈ before ++ after, ticket ∉ other.held
  | .completed =>
      ∃ issued,
        ((requestRouting Response).state labels).tickets[ticket]? =
            some issued ∧
          issued.state.ready = true
  | .abandoned =>
      .abandoned ticket ∈ reports labels

/-- An opened ticket was issued for its id. -/
theorem exists_issued_of_opened
    {labels : List (RoutingCall Response)}
    {ticket : Ticket}
    {requestId : UInt64}
    (opened : .opened ticket requestId ∈ reports labels) :
    ∃ issued,
      ((requestRouting Response).state labels).tickets[ticket]? =
          some issued ∧
        issued.requestId = requestId := by
  have issuedFor := (issuedId?_run labels ticket requestId).mpr opened
  exact Option.map_eq_some_iff.mp issuedFor

/-- The ledger lists no ticket twice. -/
theorem nodup_ledger (labels : List (RoutingCall Response)) :
    (((requestRouting Response).state labels).ledger
      (reports labels)).Nodup :=
  (ledger_perm_run labels).nodup_iff.mpr List.nodup_range

/-- The portions of the ledger are what the owners have. -/
theorem ownedBy_iff_mem_portion
    {labels : List (RoutingCall Response)}
    {ticket : Ticket}
    {requestId : UInt64}
    (opened : .opened ticket requestId ∈ reports labels)
    (custody : Custody) :
    OwnedBy labels requestId ticket custody ↔
      ticket ∈ portion labels custody := by
  obtain ⟨issued, found, issuedFor⟩ := exists_issued_of_opened opened
  cases custody with
  | registered =>
      constructor
      · intro registered
        exact UnorderedMap.mem_values_iff.mpr ⟨requestId, registered⟩
      · intro member
        obtain ⟨key, registered⟩ :=
          UnorderedMap.mem_values_iff.mp member
        obtain ⟨other, foundAgain, issuedAs⟩ :=
          exists_issued_of_opened (opened_of_registered registered)
        rw [found, Option.some.injEq] at foundAgain
        rw [← foundAgain, issuedFor] at issuedAs
        rw [issuedAs]
        exact registered
  | held =>
      constructor
      · rintro ⟨before, progress, after, split, holds, -, -⟩
        refine List.mem_flatMap.mpr ⟨progress, ?_, holds⟩
        rw [split]
        exact List.mem_append_right _ List.mem_cons_self
      · intro member
        have linear := nodup_ledger labels
        rw [RequestRouting.ledger, List.nodup_append,
          List.nodup_append] at linear
        exact exists_unique_holder linear.1.2.1 member
  | completed =>
      rw [portion, ← ready_iff_completed found]
      constructor
      · rintro ⟨other, foundAgain, ready⟩
        rw [found, Option.some.injEq] at foundAgain
        rw [foundAgain]
        exact ready
      · intro ready
        exact ⟨issued, found, ready⟩
  | abandoned =>
      exact mem_abandonedTickets_iff.symm

/-- An issued ticket is in exactly one portion of the ledger. -/
theorem existsUnique_portion
    {labels : List (RoutingCall Response)}
    {ticket : Ticket}
    (issued : ticket <
      ((requestRouting Response).state labels).tickets.length) :
    ∃! custody, ticket ∈ portion labels custody := by
  have inLedger :
      ticket ∈ ((requestRouting Response).state labels).ledger
        (reports labels) :=
    (ledger_perm_run labels).mem_iff.mpr (List.mem_range.mpr issued)
  have once :=
    List.count_eq_one_of_mem (nodup_ledger labels) inLedger
  simp only [RequestRouting.ledger, List.count_append] at once
  simp only [← List.count_pos_iff]
  have somewhere :
      ∃ custody, 0 < (portion labels custody).count ticket := by
    by_contra nowhere
    simp only [not_exists, Nat.not_lt, Nat.le_zero] at nowhere
    have registered := nowhere .registered
    have held := nowhere .held
    have completed := nowhere .completed
    have abandoned := nowhere .abandoned
    simp only [portion] at registered held completed abandoned
    omega
  rcases somewhere with ⟨custody, here⟩
  refine ⟨custody, here, ?_⟩
  intro other there
  cases custody <;> cases other <;>
    first
    | rfl
    | simp only [portion] at here there
      omega

/-- What a waiter returns for its ticket. -/
def waiterResult? :
    RoutingReply Response →
    Option (Ticket × RequestRouter.Result Response)
  | .returned (some ticket) result => some (ticket, result)
  | .timedOut ticket _ result => some (ticket, result)
  | _ => none

/-- A waiter returns no response but the one in its request state. -/
theorem RoutingStep.stored_of_returned
    {routing next : RequestRouting Response}
    {call : RoutingCall Response}
    {reply : RoutingReply Response}
    (step : RoutingStep routing call next reply)
    {ticket : Ticket}
    {result : RequestRouter.Result Response}
    {response : Response}
    (returned : waiterResult? reply = some (ticket, result))
    (answered : result.response = some response) :
    ∃ issued,
      routing.tickets[ticket]? = some issued ∧
        issued.state.response = some response := by
  cases step with
  | idle quiet =>
      cases reply with
      | returned ticket? other =>
          cases ticket? with
          | none =>
              cases returned
          | some waitedOn =>
              exact quiet.elim
      | timedOut =>
          exact quiet.elim
      | opened | answered | reopened | taken | completed | closed
          | deadline | disabled =>
          cases returned
  | returns found own unwaited ready =>
      cases returned
      exact ⟨_, found, answered⟩
  | timesOut found =>
      cases returned
      cases answered
  | discards | reopens | opens | takes | closes | expires | fulfills
      | fails | closed =>
      cases returned

/-- What a timed-out waiter leaves registered. -/
theorem RoutingStep.lookup_of_timedOut
    {routing next : RequestRouting Response}
    {call : RoutingCall Response}
    {ticket : Ticket}
    {unregistered : Bool}
    {result : RequestRouter.Result Response}
    (step :
      RoutingStep routing call next
        (.timedOut ticket unregistered result))
    {requestId : UInt64}
    {other : Ticket}
    (different : other ≠ ticket)
    (registered :
      AList.lookup requestId routing.router.requests = some other) :
    AList.lookup requestId next.router.requests = some other := by
  cases step with
  | idle quiet =>
      exact quiet.elim
  | timesOut found =>
      exact RequestRouter.lookup_unregisterTimedOut_eq_some_iff.mpr
        ⟨registered, fun same => different same.2⟩

/-- Request correlation is safe after a run. -/
structure SafeRouting
    (labels : List (RoutingCall Response)) : Prop where
  /-- Every opened ticket belongs to exactly one owner. -/
  oneOwner :
    ∀ {ticket requestId},
      .opened ticket requestId ∈ reports labels →
      ∃! custody, OwnedBy labels requestId ticket custody
  /-- No ticket is completed twice. -/
  completedOnce : (completedTickets (reports labels)).Nodup
  /-- No ticket is completed with a response and with a close error. -/
  neverBoth :
    ∀ {ticket response error},
      ¬(.completed ticket (.fulfilled response) ∈ reports labels ∧
        .completed ticket (.failed error) ∈ reports labels)
  /-- No request state contains a response and a close error. -/
  neverBothStored :
    ∀ issued ∈ ((requestRouting Response).state labels).tickets,
      issued.state.response = none ∨ issued.state.error = []
  /--
  A response returned on a ticket was passed to `fulfill` with the ticket's id
  while the ticket was the one registered under that id.
  -/
  ownResponse :
    ∀ {call requestId ticket result response},
      .opened ticket requestId ∈ reports labels →
      waiterResult?
          ((requestRouting Response).step
            ((requestRouting Response).state labels) call).2 =
        some (ticket, result) →
      result.response = some response →
      ∃ position,
        FulfilledAt labels position requestId response ticket
  /-- Tickets completed with a response have different `fulfill` calls. -/
  separateFulfills :
    ∃ fulfilledAt : Ticket → Nat,
      (∀ {ticket response},
        .completed ticket (.fulfilled response) ∈ reports labels →
        ∃ requestId,
          FulfilledAt labels (fulfilledAt ticket) requestId response
            ticket) ∧
      ∀ {first second firstResponse secondResponse},
        .completed first (.fulfilled firstResponse) ∈ reports labels →
        .completed second (.fulfilled secondResponse) ∈
          reports labels →
        fulfilledAt first = fulfilledAt second →
        first = second
  /-- A timed-out waiter unregisters no ticket but its own. -/
  timeoutKeepsOthers :
    ∀ {call ticket unregistered result},
      ((requestRouting Response).step
          ((requestRouting Response).state labels) call).2 =
        .timedOut ticket unregistered result →
      ∀ {requestId other},
        other ≠ ticket →
        AList.lookup requestId
            ((requestRouting Response).state labels).router.requests =
          some other →
        AList.lookup requestId
            ((requestRouting Response).state
              (labels ++ [call])).router.requests =
          some other

/-- A ticket was opened under one id. -/
theorem opened_unique
    {labels : List (RoutingCall Response)}
    {ticket : Ticket}
    {first second : UInt64}
    (one : .opened ticket first ∈ reports labels)
    (other : .opened ticket second ∈ reports labels) :
    first = second := by
  have issuedFirst := (issuedId?_run labels ticket first).mpr one
  have issuedSecond := (issuedId?_run labels ticket second).mpr other
  exact Option.some.inj (issuedFirst.symm.trans issuedSecond)

/-- Every ticket completed with a response has its `fulfill` call. -/
theorem exists_fulfilledAt_assignment
    (labels : List (RoutingCall Response)) :
    ∃ fulfilledAt : Ticket → Nat,
      ∀ {ticket response},
        .completed ticket (.fulfilled response) ∈ reports labels →
        ∃ requestId,
          FulfilledAt labels (fulfilledAt ticket) requestId response
            ticket := by
  have each :
      ∀ ticket : Ticket, ∃ position, ∀ response : Response,
        .completed ticket (.fulfilled response) ∈ reports labels →
        ∃ requestId,
          FulfilledAt labels position requestId response ticket := by
    intro ticket
    by_cases some : ∃ response : Response,
        .completed ticket (.fulfilled response) ∈ reports labels
    · rcases some with ⟨response, completed⟩
      obtain ⟨position, requestId, fulfilled⟩ :=
        exists_fulfilledAt (.inr completed)
      refine ⟨position, fun other completedAgain => ?_⟩
      have same : response = other := by
        simpa [Completion.apply, RequestState.fulfill] using
          completion_unique completed completedAgain
      rw [← same]
      exact ⟨requestId, fulfilled⟩
    · exact ⟨0, fun response completed =>
        absurd ⟨response, completed⟩ some⟩
  choose fulfilledAt assigned using each
  exact ⟨fulfilledAt, fun completed => assigned _ _ completed⟩

/-- Request correlation is safe under every interleaving. -/
theorem safeRouting (labels : List (RoutingCall Response)) :
    SafeRouting labels where
  oneOwner := by
    intro ticket requestId opened
    obtain ⟨issued, found, -⟩ := exists_issued_of_opened opened
    simp only [ownedBy_iff_mem_portion opened]
    exact existsUnique_portion (List.getElem?_eq_some_iff.mp found).1
  completedOnce := by
    have linear := nodup_ledger labels
    rw [RequestRouting.ledger, List.nodup_append] at linear
    exact (List.nodup_append.mp linear.2.1).1
  neverBoth := by
    rintro ticket response error ⟨fulfilled, failed⟩
    have same := completion_unique fulfilled failed
    simp [Completion.apply, RequestState.fulfill, RequestState.fail]
      at same
  neverBothStored := by
    intro issued member
    obtain ⟨ticket, found⟩ := List.mem_iff_getElem?.mp member
    obtain ⟨completedState, freshState⟩ := explained_run labels found
    by_cases completed : ticket ∈ completedTickets (reports labels)
    · obtain ⟨completion, report⟩ :=
        mem_completedTickets_iff.mp completed
      rw [completedState completion report]
      cases completion with
      | fulfilled response =>
          exact .inr rfl
      | failed error =>
          exact .inl rfl
    · rw [freshState completed]
      exact .inl rfl
  ownResponse := by
    intro call requestId ticket result response opened returned answered
    obtain ⟨issued, found, stored⟩ :=
      (routingStep _ call).stored_of_returned returned answered
    obtain ⟨position, fulfilledId, fulfilled⟩ :=
      exists_fulfilledAt (.inr (completed_of_response found stored))
    rw [opened_unique opened fulfilled.opened]
    exact ⟨position, fulfilled⟩
  separateFulfills := by
    obtain ⟨fulfilledAt, assigned⟩ :=
      exists_fulfilledAt_assignment labels
    refine ⟨fulfilledAt, assigned, ?_⟩
    intro first second firstResponse secondResponse one other same
    obtain ⟨firstId, firstFulfilled⟩ := assigned one
    obtain ⟨secondId, secondFulfilled⟩ := assigned other
    rw [same] at firstFulfilled
    exact firstFulfilled.ticket_unique secondFulfilled
  timeoutKeepsOthers := by
    intro call ticket unregistered result timedOut requestId other
      different registered
    have step :=
      routingStep ((requestRouting Response).state labels) call
    rw [timedOut] at step
    rw [Machine.state_snoc]
    exact step.lookup_of_timedOut different registered

end Safety

end TgGate
