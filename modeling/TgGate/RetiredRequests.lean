import Mathlib.Data.List.DropRight
import TgGate.RequestRouter

namespace TgGate

open Library

/-!
# What the router remembers of the reads of a session

A log records the reads of a session: which were opened, which responses were
received and which reads were retired.  The router remembers the last 256
retired ids, except those whose response has been settled, and every opened
read is pending, retired or settled.
-/

section Window

variable {Item : Type}

/-- A bounded window over a growing list holds its last items. -/
theorem rtake_rtake_concat
    (limit : Nat)
    (items : List Item)
    (item : Item) :
    (items.rtake limit ++ [item]).rtake limit =
      (items ++ [item]).rtake limit := by
  cases limit with
  | zero =>
      simp
  | succ limit =>
      rw [List.rtake_concat_succ, List.rtake_concat_succ]
      congr 1
      simp only [List.rtake, List.length_drop, List.drop_drop]
      congr 1
      omega

/-- An item with few later ones is in the window. -/
theorem mem_rtake_of_recent
    {limit : Nat}
    {items earlier later : List Item}
    {item : Item}
    (split : items = earlier ++ item :: later)
    (recent : later.length < limit) :
    item ∈ items.rtake limit := by
  subst split
  have early :
      (earlier ++ item :: later).length - limit ≤ earlier.length := by
    simp only [List.length_append, List.length_cons]
    omega
  rw [List.rtake, List.drop_append_of_le_length early]
  simp

end Window

namespace RequestRouter

/-- Trimming keeps the newest ids. -/
theorem trimRetired_snd
    (retired : Finset UInt64)
    (order : List UInt64) :
    (trimRetired retired order).2 =
      order.rtake maximumRetiredRequests := by
  induction order generalizing retired with
  | nil =>
      rfl
  | cons oldest order inductionHypothesis =>
      unfold trimRetired
      split
      next tooMany =>
        rw [inductionHypothesis, List.rtake, List.rtake,
          show (oldest :: order).length - maximumRetiredRequests =
              order.length - maximumRetiredRequests + 1 by
            simp only [List.length_cons] at tooMany ⊢
            omega,
          List.drop_succ_cons]
      next fits =>
        rw [List.rtake, Nat.sub_eq_zero_of_le (Nat.le_of_not_gt fits),
          List.drop_zero]

/-- Trimming forgets exactly the ids that it drops. -/
theorem mem_trimRetired_fst_iff
    {retired : Finset UInt64}
    {order : List UInt64}
    (once : order.Nodup)
    (listed : ∀ requestId ∈ retired, requestId ∈ order)
    {requestId : UInt64} :
    requestId ∈ (trimRetired retired order).1 ↔
      requestId ∈ retired ∧ requestId ∈ (trimRetired retired order).2 := by
  induction order generalizing retired with
  | nil =>
      simpa [trimRetired] using listed requestId
  | cons oldest order inductionHypothesis =>
      unfold trimRetired
      split
      · rw [List.nodup_cons] at once
        have stillListed :
            ∀ other ∈ retired.erase oldest, other ∈ order := by
          intro other member
          obtain ⟨newer, remembered⟩ := Finset.mem_erase.mp member
          exact (List.mem_cons.mp (listed other remembered)).resolve_left
            newer
        rw [inductionHypothesis once.2 stillListed]
        have kept :
            ∀ other ∈ (trimRetired (retired.erase oldest) order).2,
              other ≠ oldest := by
          intro other member isOldest
          rw [trimRetired_snd, isOldest] at member
          exact once.1 (List.mem_of_mem_drop member)
        constructor
        · rintro ⟨remembered, member⟩
          exact ⟨Finset.mem_of_mem_erase remembered, member⟩
        · rintro ⟨remembered, member⟩
          exact ⟨Finset.mem_erase.mpr ⟨kept _ member, remembered⟩,
            member⟩
      · constructor
        · intro remembered
          exact ⟨remembered, listed _ remembered⟩
        · exact And.left

section Retire

variable {router : RequestRouter}
variable {requestId other : UInt64}

/-- A fresh id is listed last, and the oldest may be dropped. -/
theorem retiredOrder_retire
    (fresh : requestId ∉ router.retiredOrder) :
    (router.retire requestId).retiredOrder =
      (router.retiredOrder ++ [requestId]).rtake
        maximumRetiredRequests := by
  have notRetired : requestId ∉ router.retired :=
    fun member => fresh (router.listed requestId member)
  simp [retire, notRetired, trimRetired_snd]

theorem mem_retired_retire_iff
    (once : router.retiredOrder.Nodup)
    (fresh : requestId ∉ router.retiredOrder) :
    other ∈ (router.retire requestId).retired ↔
      (other = requestId ∨ other ∈ router.retired) ∧
        other ∈ (router.retire requestId).retiredOrder := by
  have notRetired : requestId ∉ router.retired :=
    fun member => fresh (router.listed requestId member)
  have onceMore : (router.retiredOrder ++ [requestId]).Nodup := by
    rw [List.nodup_append_comm]
    exact List.nodup_cons.mpr ⟨fresh, once⟩
  have listed :
      ∀ known ∈ insert requestId router.retired,
        known ∈ router.retiredOrder ++ [requestId] := by
    intro known member
    rcases Finset.mem_insert.mp member with rfl | remembered
    · simp
    · simp [router.listed known remembered]
  simp only [retire, notRetired, ↓reduceIte]
  rw [mem_trimRetired_fst_iff onceMore listed, Finset.mem_insert]

/-- The window moves on by the id that is retired. -/
theorem retiredOrder_retire_of_window
    {retirements : List UInt64}
    (fresh : requestId ∉ router.retiredOrder)
    (window :
      router.retiredOrder = retirements.rtake maximumRetiredRequests) :
    (router.retire requestId).retiredOrder =
      (retirements ++ [requestId]).rtake maximumRetiredRequests := by
  rw [retiredOrder_retire fresh, window]
  exact rtake_rtake_concat _ _ _

/-- Any other id that is still listed was listed before. -/
theorem mem_retiredOrder_of_retire
    (fresh : requestId ∉ router.retiredOrder)
    (listed : other ∈ (router.retire requestId).retiredOrder)
    (differs : other ≠ requestId) :
    other ∈ router.retiredOrder := by
  rw [retiredOrder_retire fresh] at listed
  have member := List.mem_of_mem_drop listed
  simpa [differs] using member

/-- A request that is retired leaves no retired one pending. -/
theorem notMem_erase_of_retired
    {retirements : List UInt64}
    (unregistered :
      ∀ {known}, known ∈ retirements → known ∉ router.requests)
    (retired : other ∈ retirements ++ [requestId]) :
    other ∉ router.requests.erase requestId := by
  intro pending
  obtain ⟨differs, wasPending⟩ := AList.mem_erase.mp pending
  rcases List.mem_append.mp retired with retired | isRequest
  · exact unregistered retired wasPending
  · exact differs (List.mem_singleton.mp isRequest)

end Retire

end RequestRouter

/-- A response in the hands of the receive thread. -/
structure HeldResponse where
  requestId : UInt64
  /-- The ticket of the read it answers, if one was open under its id. -/
  ticket? : Option Ticket

/-- The reads of a session and the responses to them. -/
structure ReadLog where
  /-- The reads that were sent. -/
  opened : List (UInt64 × Ticket) := []
  /-- The ids of all responses. -/
  received : List UInt64 := []
  /-- The ids that were retired, oldest first. -/
  retirements : List UInt64 := []
  /-- The response that the receive thread handles. -/
  held : Option HeldResponse := none

namespace ReadLog

variable (log : ReadLog)

/-- The ids of the reads that were sent. -/
def openedIds : List UInt64 :=
  log.opened.map Prod.fst

/-- The response with an id has been received and handled. -/
def Settled (requestId : UInt64) : Prop :=
  requestId ∈ log.received ∧
    log.held.map HeldResponse.requestId ≠ some requestId

/-- Fewer than 256 requests have been retired after an id. -/
def Recent (requestId : UInt64) : Prop :=
  ∀ earlier later,
    log.retirements = earlier ++ requestId :: later →
    later.length < maximumRetiredRequests

/-- A read is sent. -/
def opens (requestId : UInt64) (ticket : Ticket) : ReadLog :=
  { log with opened := log.opened ++ [(requestId, ticket)] }

/-- Ids are retired. -/
def retires (requestIds : List UInt64) : ReadLog :=
  { log with retirements := log.retirements ++ requestIds }

theorem retires_nil : log.retires [] = log := by
  rw [retires, List.append_nil]

theorem retires_cons (requestId : UInt64) (rest : List UInt64) :
    (log.retires [requestId]).retires rest =
      log.retires (requestId :: rest) := by
  simp [retires]

/-- A response is received. -/
def receives (requestId : UInt64) : ReadLog :=
  { log with
    received := log.received ++ [requestId]
    held := some {
      requestId := requestId
      ticket? :=
        (log.opened.find? fun read => read.1 = requestId).map Prod.snd
    } }

/-- The response has been handled. -/
def settles : ReadLog :=
  { log with held := none }

/-- Another session begins. -/
def restarts : ReadLog :=
  { held := log.held }

end ReadLog

namespace RequestRouter

/-- How the router relates to the reads of the session. -/
structure Remembers
    (router : RequestRouter)
    (log : ReadLog) : Prop where
  openedOnce : log.openedIds.Nodup
  own :
    ∀ {requestId ticket},
      AList.lookup requestId router.requests = some ticket →
      (requestId, ticket) ∈ log.opened
  retiredOnce : log.retirements.Nodup
  retiredOpened :
    ∀ {requestId},
      requestId ∈ log.retirements → requestId ∈ log.openedIds
  unregistered :
    ∀ {requestId},
      requestId ∈ log.retirements → requestId ∉ router.requests
  window :
    router.retiredOrder =
      log.retirements.rtake maximumRetiredRequests
  remembered :
    ∀ {requestId},
      requestId ∈ router.retiredOrder →
      requestId ∈ router.retired ∨ log.Settled requestId
  accounted :
    ∀ {requestId},
      requestId ∈ log.openedIds →
      requestId ∈ router.requests ∨
        requestId ∈ log.retirements ∨ log.Settled requestId

/-- No request is pending. -/
def Empty (router : RequestRouter) : Prop :=
  ∀ requestId, requestId ∉ router.requests

section Remembers

variable {router : RequestRouter}
variable {log : ReadLog}
variable {requestId : UInt64}
variable {ticket : Ticket}

/-- A listed id was retired. -/
theorem Remembers.mem_retirements
    (remembers : router.Remembers log)
    (listed : requestId ∈ router.retiredOrder) :
    requestId ∈ log.retirements := by
  rw [remembers.window] at listed
  exact List.mem_of_mem_drop listed

theorem Remembers.nodup_retiredOrder
    (remembers : router.Remembers log) :
    router.retiredOrder.Nodup := by
  rw [remembers.window]
  exact remembers.retiredOnce.drop

/-- A pending read was sent. -/
theorem Remembers.mem_openedIds
    (remembers : router.Remembers log)
    (pending : requestId ∈ router.requests) :
    requestId ∈ log.openedIds := by
  obtain ⟨ticket, found⟩ :=
    Option.isSome_iff_exists.mp (AList.lookup_isSome.mpr pending)
  exact List.mem_map.mpr ⟨_, remembers.own found, rfl⟩

/-- A read that is sent is pending. -/
theorem remembers_opens
    (remembers : router.Remembers log)
    (fresh : requestId ∉ log.openedIds) :
    Remembers
      { router with requests := router.requests.emplace requestId ticket }
      (log.opens requestId ticket) := by
  have openedIds :
      (log.opens requestId ticket).openedIds =
        log.openedIds ++ [requestId] :=
    List.map_append
  refine {
    openedOnce := ?_
    own := ?_
    retiredOnce := remembers.retiredOnce
    retiredOpened := ?_
    unregistered := ?_
    window := remembers.window
    remembered := remembers.remembered
    accounted := ?_ }
  · rw [openedIds, List.nodup_append_comm]
    exact List.nodup_cons.mpr ⟨fresh, remembers.openedOnce⟩
  · intro other found pending
    rw [UnorderedMap.lookup_emplace] at pending
    split at pending
    · next isRequest =>
        have free : AList.lookup other router.requests = none := by
          rw [AList.lookup_eq_none]
          intro alreadyPending
          exact fresh (isRequest ▸ remembers.mem_openedIds alreadyPending)
        rw [free, Option.none_or, Option.some.injEq] at pending
        rw [isRequest, ← pending]
        exact List.mem_append_right _ List.mem_cons_self
    · exact List.mem_append_left _ (remembers.own pending)
  · intro other retired
    rw [openedIds]
    exact List.mem_append_left _ (remembers.retiredOpened retired)
  · intro other retired pending
    rcases UnorderedMap.mem_emplace_iff.mp pending with rfl | pending
    · exact fresh (remembers.retiredOpened retired)
    · exact remembers.unregistered retired pending
  · intro other opened
    rw [openedIds, List.mem_append, List.mem_singleton] at opened
    rcases opened with opened | rfl
    · rcases remembers.accounted opened with pending | settled
      · exact .inl (UnorderedMap.mem_emplace_iff.mpr (.inr pending))
      · exact .inr settled
    · exact .inl (UnorderedMap.mem_emplace_iff.mpr (.inl rfl))

/-- A pending read is retired. -/
theorem remembers_retires
    (remembers : router.Remembers log)
    (pending : requestId ∈ router.requests) :
    Remembers
      ({ router with
          requests := router.requests.erase requestId }.retire requestId)
      (log.retires [requestId]) := by
  have notRetired : requestId ∉ log.retirements :=
    fun retired => remembers.unregistered retired pending
  have fresh : requestId ∉ router.retiredOrder :=
    fun listed => notRetired (remembers.mem_retirements listed)
  have onceMore : (log.retirements ++ [requestId]).Nodup := by
    rw [List.nodup_append_comm]
    exact List.nodup_cons.mpr ⟨notRetired, remembers.retiredOnce⟩
  refine {
    openedOnce := remembers.openedOnce
    own := ?_
    retiredOnce := onceMore
    retiredOpened := ?_
    unregistered := notMem_erase_of_retired remembers.unregistered
    window :=
      @retiredOrder_retire_of_window
        { router with requests := router.requests.erase requestId }
        requestId log.retirements fresh remembers.window
    remembered := ?_
    accounted := ?_ }
  · intro other found isPending
    exact remembers.own
      (UnorderedMap.lookup_erase_eq_some_iff.mp isPending).2
  · intro other retired
    rcases List.mem_append.mp retired with retired | isRequest
    · exact remembers.retiredOpened retired
    · rw [List.mem_singleton.mp isRequest]
      exact remembers.mem_openedIds pending
  · intro other listed
    have isRetired :=
      @mem_retired_retire_iff
        { router with requests := router.requests.erase requestId }
        requestId other remembers.nodup_retiredOrder fresh
    by_cases isRequest : other = requestId
    · exact .inl (isRetired.mpr ⟨.inl isRequest, listed⟩)
    · have wasListed :=
        @mem_retiredOrder_of_retire
          { router with requests := router.requests.erase requestId }
          requestId other fresh listed isRequest
      rcases remembers.remembered wasListed with retired | settled
      · exact .inl (isRetired.mpr ⟨.inr retired, listed⟩)
      · exact .inr settled
  · intro other opened
    by_cases isRequest : other = requestId
    · exact .inr (.inl (List.mem_append_right _
        (List.mem_singleton.mpr isRequest)))
    · rcases remembers.accounted opened with
        otherPending | retired | settled
      · exact .inl (AList.mem_erase.mpr ⟨isRequest, otherPending⟩)
      · exact .inr (.inl (List.mem_append_left _ retired))
      · exact .inr (.inr settled)

section Handled

/-- Whatever has been received is settled when no response is held. -/
theorem settled_settles
    (received : requestId ∈ log.received) :
    log.settles.Settled requestId :=
  ⟨received, by simp [ReadLog.settles]⟩

/-- Taking a request out registers nothing and stops nothing. -/
theorem takeRegistered_spec
    (requestId : UInt64)
    (router : RequestRouter) :
    (∀ other ∈ (router.takeRegistered requestId).2.requests,
        other ∈ router.requests) ∧
      (router.takeRegistered requestId).2.accepting =
        router.accepting := by
  unfold takeRegistered
  split
  · exact ⟨fun _ pending => pending, rfl⟩
  · exact ⟨fun _ pending => (AList.mem_erase.mp pending).2, rfl⟩

/-- A held response of a pending read is delivered. -/
theorem remembers_takes
    (remembers : router.Remembers log)
    (received : requestId ∈ log.received) :
    Remembers (router.takeRegistered requestId).2
      log.settles := by
  unfold takeRegistered
  split
  · exact {
      remembers with
      remembered := fun listed =>
        (remembers.remembered listed).imp_right
          fun settled => settled_settles settled.1
      accounted := fun opened =>
        (remembers.accounted opened).imp_right fun other =>
          other.imp_right fun settled => settled_settles settled.1 }
  · next ticket found =>
      have mem_erase :
          ∀ {other : UInt64},
            other ∈ router.requests.erase requestId ↔
              other ≠ requestId ∧ other ∈ router.requests :=
        AList.mem_erase
      refine {
        openedOnce := remembers.openedOnce
        own := ?_
        retiredOnce := remembers.retiredOnce
        retiredOpened := remembers.retiredOpened
        unregistered := ?_
        window := remembers.window
        remembered := ?_
        accounted := ?_ }
      · intro other otherTicket pending
        exact remembers.own
          (UnorderedMap.lookup_erase_eq_some_iff.mp pending).2
      · intro other retired pending
        exact remembers.unregistered retired (mem_erase.mp pending).2
      · intro other listed
        exact (remembers.remembered listed).imp_right
          fun settled => settled_settles settled.1
      · intro other opened
        by_cases isResponse : other = requestId
        · subst other
          exact .inr (.inr (settled_settles received))
        · rcases remembers.accounted opened with
            pending | retired | settled
          · exact .inl (mem_erase.mpr ⟨isResponse, pending⟩)
          · exact .inr (.inl retired)
          · exact .inr (.inr (settled_settles settled.1))

/-- A held response of another request is swallowed or passed on. -/
theorem remembers_discards
    (remembers : router.Remembers log)
    (received : requestId ∈ log.received) :
    Remembers (router.discardLate requestId).2
      log.settles where
  openedOnce := remembers.openedOnce
  own := remembers.own
  retiredOnce := remembers.retiredOnce
  retiredOpened := remembers.retiredOpened
  unregistered := remembers.unregistered
  window := remembers.window
  remembered := by
    intro other listed
    by_cases isResponse : other = requestId
    · subst other
      exact .inr (settled_settles received)
    · rcases remembers.remembered listed with retired | settled
      · exact .inl (Finset.mem_erase.mpr ⟨isResponse, retired⟩)
      · exact .inr (settled_settles settled.1)
  accounted := by
    intro other opened
    exact (remembers.accounted opened).imp_right fun elsewhere =>
      elsewhere.imp_right fun settled => settled_settles settled.1

end Handled

/-- A response arrives, the first one to its read. -/
theorem remembers_receives
    (remembers : router.Remembers log)
    (first :
      requestId ∈ log.openedIds → requestId ∉ log.received) :
    Remembers router (log.receives requestId) := by
  have stays :
      ∀ {other},
        other ∈ log.openedIds →
        log.Settled other →
        (log.receives requestId).Settled other := by
    intro other opened settled
    refine ⟨List.mem_append_left _ settled.1, ?_⟩
    intro isHeld
    obtain rfl : requestId = other := by
      simpa [ReadLog.receives] using isHeld
    exact first opened settled.1
  exact {
    remembers with
    remembered := fun listed =>
      (remembers.remembered listed).imp_right
        (stays (remembers.retiredOpened
          (remembers.mem_retirements listed)))
    accounted := fun opened =>
      (remembers.accounted opened).imp_right fun elsewhere =>
        elsewhere.imp_right (stays opened) }

/-- Without pending and retired requests there is nothing to remember. -/
theorem remembers_of_empty
    (empty : router.Empty)
    (noneRetired : router.retiredOrder = [])
    (noneOpened : log.opened = [])
    (noRetirements : log.retirements = []) :
    Remembers router log where
  openedOnce := by
    rw [ReadLog.openedIds, noneOpened]
    exact List.nodup_nil
  own := by
    intro requestId ticket found
    exact absurd
      (AList.lookup_isSome.mp (Option.isSome_of_eq_some found))
      (empty requestId)
  retiredOnce := by
    rw [noRetirements]
    exact List.nodup_nil
  retiredOpened := by
    intro requestId retired
    rw [noRetirements] at retired
    cases retired
  unregistered := by
    intro requestId retired
    rw [noRetirements] at retired
    cases retired
  window := by
    rw [noneRetired, noRetirements, List.rtake_nil]
  remembered := by
    intro requestId listed
    rw [noneRetired] at listed
    cases listed
  accounted := by
    intro requestId opened
    rw [ReadLog.openedIds, noneOpened] at opened
    cases opened

theorem remembers_initial : initial.Remembers {} :=
  remembers_of_empty (fun _ => AList.notMem_empty _) rfl rfl rfl

/-- Another session begins when no read is pending. -/
theorem remembers_restarts (empty : router.Empty) :
    Remembers router.reopen log.restarts :=
  remembers_of_empty empty rfl rfl rfl

/-- Closing retires the pending reads one after another. -/
def retireEach
    (iteration : List UInt64)
    (router : RequestRouter) : RequestRouter :=
  iteration.foldl
    (fun router requestId =>
      { router with
        requests := router.requests.erase requestId }.retire requestId)
    router

theorem retireEach_cons
    (requestId : UInt64)
    (rest : List UInt64)
    (router : RequestRouter) :
    router.retireEach (requestId :: rest) =
      ({ router with
          requests :=
            router.requests.erase requestId }.retire
              requestId).retireEach rest :=
  rfl

/-- Erasing the first id leaves the others pending. -/
theorem rest_stillPending
    {rest : List UInt64}
    (once : (requestId :: rest).Nodup)
    (pending :
      ∀ other ∈ requestId :: rest, other ∈ router.requests) :
    ∀ other ∈ rest, other ∈ router.requests.erase requestId := by
  intro other member
  refine AList.mem_erase.mpr
    ⟨?_, pending other (List.mem_cons_of_mem _ member)⟩
  rintro rfl
  exact once.notMem member

theorem remembers_retireEach
    {iteration : List UInt64}
    (remembers : router.Remembers log)
    (once : iteration.Nodup)
    (pending : ∀ requestId ∈ iteration, requestId ∈ router.requests) :
    Remembers (router.retireEach iteration) (log.retires iteration) := by
  induction iteration generalizing router log with
  | nil =>
      rw [ReadLog.retires_nil]
      exact remembers
  | cons requestId rest inductionHypothesis =>
      have retired :=
        remembers_retires remembers (pending requestId List.mem_cons_self)
      rw [← ReadLog.retires_cons, retireEach_cons]
      exact inductionHypothesis retired once.of_cons
        (rest_stillPending once pending)

/-- What closing does to the retired ids. -/
theorem foldl_retire
    (iteration : List UInt64)
    (router : RequestRouter)
    (requests : UnorderedMap UInt64 Ticket)
    (accepting : Bool) :
    iteration.foldl (fun router requestId => router.retire requestId)
        { router with requests := requests, accepting := accepting } =
      { router.retireEach iteration with
        requests := requests
        accepting := accepting } := by
  induction iteration generalizing router with
  | nil =>
      rfl
  | cons requestId rest inductionHypothesis =>
      rw [retireEach_cons, ← inductionHypothesis]
      rfl

theorem snd_close
    (iteration : List UInt64)
    (router : RequestRouter) :
    (router.close iteration).2 =
      { router.retireEach iteration with
        requests := ∅
        accepting := false } := by
  have retired := foldl_retire iteration router router.requests false
  simp only [close]
  rw [retired]

theorem mem_requests_retireEach_iff
    {iteration : List UInt64} :
    requestId ∈ (router.retireEach iteration).requests ↔
      requestId ∈ router.requests ∧ requestId ∉ iteration := by
  induction iteration generalizing router with
  | nil =>
      simp [retireEach]
  | cons first rest inductionHypothesis =>
      rw [retireEach_cons, inductionHypothesis, requests_retire,
        AList.mem_erase, List.mem_cons]
      tauto

/-- Closing retires all pending reads. -/
theorem remembers_closes
    {iteration : List UInt64}
    (remembers : router.Remembers log)
    (complete : iteration.Perm router.requests.keys) :
    Remembers (router.close iteration).2 (log.retires iteration) := by
  have once : iteration.Nodup :=
    complete.nodup_iff.mpr router.requests.keys_nodup
  have covered :
      ∀ requestId, requestId ∈ iteration ↔ requestId ∈ router.requests :=
    fun requestId => complete.mem_iff.trans AList.mem_keys.symm
  have retired :=
    remembers_retireEach remembers once
      fun requestId member => (covered requestId).mp member
  have nonePending :
      ∀ requestId, requestId ∉ (router.retireEach iteration).requests := by
    intro requestId pending
    obtain ⟨wasPending, notListed⟩ :=
      mem_requests_retireEach_iff.mp pending
    exact notListed ((covered requestId).mpr wasPending)
  rw [snd_close]
  exact {
    retired with
    own := by
      intro requestId ticket found
      simp at found
    unregistered := fun _ pending => AList.notMem_empty _ pending
    accounted := fun opened =>
      (retired.accounted opened).imp_left
        fun pending => absurd pending (nonePending _) }

end Remembers

end RequestRouter

end TgGate
