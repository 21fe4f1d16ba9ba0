import TgGate.RequestRouter

namespace TgGate

open Library

/-!
# Ownership of tickets

Every opened ticket has exactly one owner at every moment: the router, one
thread that took it out, the waiter it was completed for, or the waiter that
gave up.  The ledger lists the tickets each kind of owner has; it is always a
rearrangement of the tickets issued, and every step moves tickets inside it.
-/

section Ledger

variable {Response : Type}

/-- One step of the routing with what it showed. -/
abbrev RoutingEvent (Response : Type) :=
  Event (RoutingCall Response) (RoutingReply Response)

/-- What happened to a ticket in one step. -/
inductive TicketReport (Response : Type) where
  | opened (ticket : Ticket) (requestId : UInt64)
  | completed (ticket : Ticket) (completion : Completion Response)
  | abandoned (ticket : Ticket)

/--
The report of a step: a ticket was handed out, completed under its mutex, or
unregistered by its own timed-out waiter.
-/
def report? (event : RoutingEvent Response) :
    Option (TicketReport Response) :=
  match event.label, event.output with
  | .openRequest requestId, .opened (some ticket) =>
      some (.opened ticket requestId)
  | _, .completed ticket completion =>
      some (.completed ticket completion)
  | _, .timedOut ticket true _ => some (.abandoned ticket)
  | _, _ => none

/-- The reports of a history in order. -/
def reportsOf
    (history : List (RoutingEvent Response)) :
    List (TicketReport Response) :=
  history.filterMap report?

namespace TicketReport

/-- The completed ticket, if the report is of a completion. -/
def completed? : TicketReport Response → Option Ticket
  | .completed ticket _ => some ticket
  | _ => none

/-- The abandoned ticket, if the report is of a timeout. -/
def abandoned? : TicketReport Response → Option Ticket
  | .abandoned ticket => some ticket
  | _ => none

end TicketReport

/-- The completed tickets in the order of their completion. -/
def completedTickets
    (reports : List (TicketReport Response)) : List Ticket :=
  reports.filterMap TicketReport.completed?

/-- The abandoned tickets in the order of their timeouts. -/
def abandonedTickets
    (reports : List (TicketReport Response)) : List Ticket :=
  reports.filterMap TicketReport.abandoned?

namespace RequestRouting

/-- The tickets the router has. -/
def registered (routing : RequestRouting Response) : List Ticket :=
  UnorderedMap.values routing.router.requests

/-- The tickets the threads have. -/
def held (routing : RequestRouting Response) : List Ticket :=
  routing.inProgress.flatMap Progress.held

/-- All tickets by owner. -/
def ledger
    (routing : RequestRouting Response)
    (reports : List (TicketReport Response)) : List Ticket :=
  (routing.registered ++ routing.held) ++
    (completedTickets reports ++ abandonedTickets reports)

/-- The id a ticket was issued for. -/
def issuedId?
    (routing : RequestRouting Response)
    (ticket : Ticket) : Option UInt64 :=
  routing.tickets[ticket]?.map IssuedTicket.requestId

theorem issuedId?_complete
    (routing : RequestRouting Response)
    (completed ticket : Ticket)
    (completion : Completion Response) :
    (routing.complete completed completion).issuedId? ticket =
      routing.issuedId? ticket := by
  unfold issuedId? complete
  by_cases same : completed = ticket
  · simp [same, Option.map_map, Function.comp_def]
  · simp [same]

end RequestRouting

/-- What one step does to the ledger and to the request states. -/
inductive LedgerStep
    (routing next : RequestRouting Response)
    (event : RoutingEvent Response) : Prop where
  | quiet
      (registered : next.registered = routing.registered)
      (held : next.held = routing.held)
      (tickets : next.tickets = routing.tickets)
      (report : report? event = none)
  | opens
      (requestId : UInt64)
      (registered :
        next.registered =
          routing.tickets.length :: routing.registered)
      (held : next.held = routing.held)
      (tickets :
        next.tickets =
          routing.tickets ++ [{ requestId := requestId }])
      (report :
        report? event =
          some (.opened routing.tickets.length requestId))
  | takes
      (pending : List Ticket)
      (registered :
        routing.registered.Perm (pending ++ next.registered))
      (held : next.held = routing.held ++ pending)
      (tickets : next.tickets = routing.tickets)
      (report : report? event = none)
  | completes
      (ticket : Ticket)
      (completion : Completion Response)
      (registered : next.registered = routing.registered)
      (held : routing.held.Perm (ticket :: next.held))
      (tickets :
        next.tickets = (routing.complete ticket completion).tickets)
      (report : report? event = some (.completed ticket completion))
  | abandons
      (ticket : Ticket)
      (registered :
        routing.registered.Perm (ticket :: next.registered))
      (held : next.held = routing.held)
      (tickets : next.tickets = routing.tickets)
      (report : report? event = some (.abandoned ticket))

/-- A step that concerns no ticket reports nothing. -/
theorem report?_of_quiet
    {call : RoutingCall Response}
    {reply : RoutingReply Response}
    (quiet : reply.Quiet) :
    report? ⟨call, reply⟩ = none := by
  cases reply with
  | opened ticket? =>
      cases ticket? with
      | none =>
          cases call <;> rfl
      | some ticket =>
          exact quiet.elim
  | answered | reopened | returned | disabled =>
      cases call <;> rfl
  | taken | completed | closed | deadline | timedOut =>
      exact quiet.elim

section Threads

variable {routing : RequestRouting Response}
variable {index : Nat}
variable {progress : Progress Response}

/-- A finished thread gives up what it held. -/
theorem held_perm_eraseIdx
    (found : routing.inProgress[index]? = some progress) :
    routing.held.Perm
      (progress.held ++
        (routing.inProgress.eraseIdx index).flatMap
          Progress.held) := by
  obtain ⟨before, after, split, erased, -⟩ :=
    exists_split_of_getElem? found
  rw [RequestRouting.held, split, ← split, erased]
  simp only [split, List.flatMap_append, List.flatMap_cons]
  exact List.perm_append_comm_assoc _ _ _

/-- A finished thread that held nothing leaves the holdings as they are. -/
theorem flatMap_held_eraseIdx
    (found : routing.inProgress[index]? = some progress)
    (nothing : progress.held = []) :
    (routing.inProgress.eraseIdx index).flatMap Progress.held =
      routing.held := by
  obtain ⟨before, after, split, erased, -⟩ :=
    exists_split_of_getElem? found
  rw [erased, RequestRouting.held, split]
  simp [nothing]

/-- A thread that goes on to its next ticket gives up the one it held. -/
theorem held_perm_set
    {next : Progress Response}
    {ticket : Ticket}
    (found : routing.inProgress[index]? = some progress)
    (gives : progress.held = ticket :: next.held) :
    routing.held.Perm
      (ticket ::
        (routing.inProgress.set index next).flatMap
          Progress.held) := by
  obtain ⟨before, after, split, -, replaced⟩ :=
    exists_split_of_getElem? found
  rw [replaced, RequestRouting.held, split]
  simp only [List.flatMap_append, List.flatMap_cons, gives,
    List.cons_append]
  exact List.perm_middle

end Threads

/-- Every step moves tickets inside the ledger. -/
theorem RoutingStep.ledgerStep
    {routing next : RequestRouting Response}
    {call : RoutingCall Response}
    {reply : RoutingReply Response}
    (step : RoutingStep routing call next reply) :
    LedgerStep routing next ⟨call, reply⟩ := by
  cases step with
  | idle quiet =>
      exact .quiet rfl rfl rfl (report?_of_quiet quiet)
  | discards | reopens =>
      exact .quiet rfl rfl rfl rfl
  | opens accepting free =>
      exact .opens _ (UnorderedMap.values_emplace free _) rfl rfl rfl
  | takes lookup =>
      refine .takes [_] (UnorderedMap.values_perm_of_lookup lookup)
        ?_ rfl rfl
      simp [RequestRouting.held, Progress.held]
  | @closes error iteration complete =>
      refine .takes (routing.router.close iteration).1 ?_ ?_ rfl rfl
      · simpa [RequestRouting.registered, RequestRouter.close,
          UnorderedMap.values] using
          (UnorderedMap.filterMap_lookup_perm_values complete).symm
      · simp [RequestRouting.held, Progress.held]
  | returns found own unwaited ready =>
      exact .quiet rfl rfl rfl rfl
  | expires found own unwaited notReady =>
      refine .quiet rfl ?_ rfl rfl
      simp [RequestRouting.held, Progress.held]
  | fulfills found =>
      exact .completes _ _ rfl (held_perm_eraseIdx found) rfl rfl
  | fails found =>
      exact .completes _ _ rfl (held_perm_set found rfl) rfl rfl
  | closed found =>
      exact .quiet rfl (flatMap_held_eraseIdx found rfl) rfl rfl
  | @timesOut index requestId ticket found =>
      have sameHeld := flatMap_held_eraseIdx found rfl
      cases lookup :
          AList.lookup requestId routing.router.requests with
      | none =>
          refine .quiet ?_ sameHeld rfl ?_ <;>
            simp [RequestRouting.registered, report?,
              RequestRouter.unregisterTimedOut, lookup]
      | some other =>
          by_cases own : other = ticket
          · subst own
            refine .abandons other ?_ sameHeld rfl ?_
            · simpa [RequestRouting.registered,
                RequestRouter.unregisterTimedOut, lookup] using
                UnorderedMap.values_perm_of_lookup lookup
            · simp [report?, RequestRouter.unregisterTimedOut, lookup]
          · refine .quiet ?_ sameHeld rfl ?_ <;>
              simp [RequestRouting.registered, report?,
                RequestRouter.unregisterTimedOut, lookup, own]

@[simp] theorem completedTickets_append
    (first later : List (TicketReport Response)) :
    completedTickets (first ++ later) =
      completedTickets first ++ completedTickets later := by
  simp [completedTickets]

@[simp] theorem abandonedTickets_append
    (first later : List (TicketReport Response)) :
    abandonedTickets (first ++ later) =
      abandonedTickets first ++ abandonedTickets later := by
  simp [abandonedTickets]

@[simp] theorem mem_completedTickets_iff
    {reports : List (TicketReport Response)}
    {ticket : Ticket} :
    ticket ∈ completedTickets reports ↔
      ∃ completion, .completed ticket completion ∈ reports := by
  unfold completedTickets
  rw [List.mem_filterMap]
  constructor
  · rintro ⟨report, member, shape⟩
    cases report with
    | completed other completion =>
        cases shape
        exact ⟨completion, member⟩
    | opened | abandoned =>
        cases shape
  · rintro ⟨completion, member⟩
    exact ⟨_, member, rfl⟩

@[simp] theorem mem_abandonedTickets_iff
    {reports : List (TicketReport Response)}
    {ticket : Ticket} :
    ticket ∈ abandonedTickets reports ↔
      .abandoned ticket ∈ reports := by
  unfold abandonedTickets
  rw [List.mem_filterMap]
  constructor
  · rintro ⟨report, member, shape⟩
    cases report with
    | abandoned other =>
        cases shape
        exact member
    | opened | completed =>
        cases shape
  · intro member
    exact ⟨_, member, rfl⟩

/-- A step keeps the ledger a rearrangement of the issued tickets. -/
theorem ledger_perm_step
    {routing next : RequestRouting Response}
    {event : RoutingEvent Response}
    {reports : List (TicketReport Response)}
    (step : LedgerStep routing next event)
    (accounted :
      (routing.ledger reports).Perm
        (List.range routing.tickets.length)) :
    (next.ledger (reports ++ (report? event).toList)).Perm
      (List.range next.tickets.length) := by
  rw [List.perm_iff_count] at accounted ⊢
  intro ticket
  have before := accounted ticket
  simp only [RequestRouting.ledger, completedTickets_append,
    abandonedTickets_append, List.count_append] at before ⊢
  cases step with
  | quiet registered held tickets report =>
      simp only [registered, held, tickets, report]
      simpa [completedTickets, abandonedTickets] using before
  | opens requestId registered held tickets report =>
      simp only [registered, held, tickets, report, List.length_append,
        List.length_singleton, List.range_succ, List.count_append,
        List.count_cons]
      simp only [completedTickets, abandonedTickets,
        TicketReport.completed?, TicketReport.abandoned?,
        Option.toList_some, List.filterMap_cons, List.filterMap_nil,
        List.count_nil, beq_iff_eq] at before ⊢
      omega
  | takes pending registered held tickets report =>
      have moved := registered.count_eq ticket
      simp only [held, tickets, report, List.count_append] at moved ⊢
      simp only [completedTickets, abandonedTickets,
        Option.toList_none, List.filterMap_nil,
        List.count_nil] at before ⊢
      omega
  | completes other completion registered held tickets report =>
      have moved := held.count_eq ticket
      simp only [registered, tickets, report, RequestRouting.complete,
        List.length_modify, List.count_cons] at moved ⊢
      simp only [completedTickets, abandonedTickets,
        TicketReport.completed?, TicketReport.abandoned?,
        Option.toList_some, List.filterMap_cons, List.filterMap_nil,
        List.count_cons, List.count_nil] at before ⊢
      omega
  | abandons other registered held tickets report =>
      have moved := registered.count_eq ticket
      simp only [held, tickets, report, List.count_cons] at moved ⊢
      simp only [completedTickets, abandonedTickets,
        TicketReport.completed?, TicketReport.abandoned?,
        Option.toList_some, List.filterMap_cons, List.filterMap_nil,
        List.count_cons, List.count_nil] at before ⊢
      omega

/-- What one step adds to the ids tickets were issued for. -/
theorem issuedId?_step
    {routing next : RequestRouting Response}
    {event : RoutingEvent Response}
    (step : LedgerStep routing next event)
    (ticket : Ticket)
    (requestId : UInt64) :
    next.issuedId? ticket = some requestId ↔
      routing.issuedId? ticket = some requestId ∨
        report? event = some (.opened ticket requestId) := by
  unfold RequestRouting.issuedId?
  cases step with
  | quiet registered held tickets report =>
      simp [tickets, report]
  | takes pending registered held tickets report =>
      simp [tickets, report]
  | abandons other registered held tickets report =>
      simp [tickets, report]
  | completes other completion registered held tickets report =>
      have sameId :=
        routing.issuedId?_complete other ticket completion
      unfold RequestRouting.issuedId? at sameId
      rw [tickets, sameId, report]
      simp
  | opens opened registered held tickets report =>
      rw [tickets, report]
      rcases Nat.lt_trichotomy ticket routing.tickets.length with
        older | isNew | beyond
      · have different : routing.tickets.length ≠ ticket :=
          Nat.ne_of_gt older
        simp [List.getElem?_append_left older, different]
      · subst ticket
        simp
      · have different : routing.tickets.length ≠ ticket :=
          Nat.ne_of_lt beyond
        have absent : routing.tickets[ticket]? = none :=
          List.getElem?_eq_none (Nat.le_of_lt beyond)
        have absentAfter :
            (routing.tickets ++
              [{ requestId := opened }])[ticket]? = none :=
          List.getElem?_eq_none (by simp; omega)
        simp [absent, absentAfter, different]

end Ledger

section Runs

variable {Response : Type}

/-- The reports of a run. -/
def reports (labels : List (RoutingCall Response)) :
    List (TicketReport Response) :=
  reportsOf ((requestRouting Response).history labels)

theorem reports_snoc
    (labels : List (RoutingCall Response))
    (call : RoutingCall Response) :
    reports (labels ++ [call]) =
      reports labels ++
        (report? ((requestRouting Response).eventAt
          ((requestRouting Response).state labels) call)).toList := by
  unfold reports reportsOf
  rw [Machine.history_snoc, List.filterMap_append]
  cases shape :
      report? ((requestRouting Response).eventAt
        ((requestRouting Response).state labels) call) <;>
    simp [shape]

/-- A report stays when the run goes on. -/
theorem reports_subset_append
    (first later : List (RoutingCall Response)) :
    reports first ⊆ reports (first ++ later) := by
  unfold reports reportsOf
  rw [Machine.history_append, List.filterMap_append]
  exact List.subset_append_left _ _

/-- In every reachable state the ledger rearranges the issued tickets. -/
theorem ledger_perm_run (labels : List (RoutingCall Response)) :
    (((requestRouting Response).state labels).ledger
        (reports labels)).Perm
      (List.range
        ((requestRouting Response).state labels).tickets.length) := by
  induction labels using List.reverseRecOn with
  | nil =>
      exact .refl _
  | append_singleton labels call inductionHypothesis =>
      rw [Machine.state_snoc, reports_snoc]
      exact ledger_perm_step (routingStep _ call).ledgerStep
        inductionHypothesis

/-- The issued tickets are the opened ones. -/
theorem issuedId?_run
    (labels : List (RoutingCall Response))
    (ticket : Ticket)
    (requestId : UInt64) :
    ((requestRouting Response).state labels).issuedId? ticket =
        some requestId ↔
      .opened ticket requestId ∈ reports labels := by
  induction labels using List.reverseRecOn with
  | nil =>
      simp [RequestRouting.issuedId?, requestRouting, reports,
        reportsOf]
  | append_singleton labels call inductionHypothesis =>
      rw [Machine.state_snoc, reports_snoc,
        issuedId?_step (routingStep _ call).ledgerStep,
        inductionHypothesis, List.mem_append, Option.mem_toList]
      rfl

/-- A step registers nothing under an id but the ticket it opens there. -/
theorem RoutingStep.lookup
    {routing next : RequestRouting Response}
    {call : RoutingCall Response}
    {reply : RoutingReply Response}
    (step : RoutingStep routing call next reply)
    {requestId : UInt64}
    {ticket : Ticket}
    (registered :
      AList.lookup requestId next.router.requests = some ticket) :
    AList.lookup requestId routing.router.requests = some ticket ∨
      report? ⟨call, reply⟩ = some (.opened ticket requestId) := by
  cases step with
  | idle | discards | reopens =>
      exact .inl registered
  | @opens opened accepting free =>
      have absent : AList.lookup opened routing.router.requests = none :=
        AList.lookup_eq_none.mpr free
      rw [UnorderedMap.lookup_emplace] at registered
      split at registered
      next same =>
        right
        rw [same, absent, Option.none_or,
          Option.some.injEq] at registered
        rw [same, ← registered]
        rfl
      · exact .inl registered
  | takes lookup =>
      left
      exact (UnorderedMap.lookup_erase_eq_some_iff.mp registered).2
  | closes complete =>
      simp at registered
  | returns | expires | fulfills | fails | closed =>
      exact .inl registered
  | timesOut found =>
      left
      exact (RequestRouter.lookup_unregisterTimedOut_eq_some_iff.mp
        registered).1

/-- A ticket is registered under the id it was opened under. -/
theorem opened_of_registered
    {labels : List (RoutingCall Response)}
    {requestId : UInt64}
    {ticket : Ticket}
    (registered :
      AList.lookup requestId
          ((requestRouting Response).state labels).router.requests =
        some ticket) :
    .opened ticket requestId ∈ reports labels := by
  induction labels using List.reverseRecOn with
  | nil =>
      simp [requestRouting] at registered
  | append_singleton labels call inductionHypothesis =>
      rw [Machine.state_snoc] at registered
      rw [reports_snoc, List.mem_append, Option.mem_toList]
      exact ((routingStep _ call).lookup registered).imp_left
        inductionHypothesis

end Runs

end TgGate
