import Mathlib.Data.List.Infix
import TgGate.ReadSteps

namespace TgGate

open Library

/-!
# Late responses are not authorization traffic

The receive loop looks at the router twice for every response: it asks whether
the id is pending, and then fulfils the request or asks whether the id was
retired.  Readers time out and sessions are closed in between.  As long as a
response belongs to a pending read or to one of the 256 last retired, it is
delivered to its waiter or swallowed, in every interleaving.
-/

/-- What becomes of a response. -/
inductive ResponseFate where
  | delivered (ticket : Ticket)
  | swallowed
  | passedOn
  deriving DecidableEq

namespace TdAccount

/-- The fate that the receive thread decides in its next step, if any. -/
def fate? (account : TdAccount) : Option ResponseFate :=
  match account.receiveThread with
  | some (.fulfilling requestId) =>
      match (account.readRequests.takeRegistered
          (UInt64.ofNat requestId)).1 with
      | some ticket => some (.delivered ticket)
      | none => some .swallowed
  | some (.discarding response) =>
      if (account.readRequests.discardLate
          (UInt64.ofNat response.requestId)).1 then
        some .swallowed
      else
        some .passedOn
  | _ => none

/-- The receive thread handles the response that the log holds. -/
structure HoldsResponse
    (account : TdAccount)
    (log : ReadLog) : Prop where
  held : log.held.map HeldResponse.requestId = account.held?
  received :
    ∀ response,
      log.held = some response → response.requestId ∈ log.received
  answers :
    ∀ response ticket,
      log.held = some response →
      response.ticket? = some ticket →
      (response.requestId, ticket) ∈ log.opened
  /-- A read whose response is to be discarded is no longer pending. -/
  unregistered :
    ∀ response ticket tdResponse,
      log.held = some response →
      response.ticket? = some ticket →
      account.receiveThread = some (.discarding tdResponse) →
      response.requestId ∉ account.readRequests.requests

/-- Between two sessions no read is pending and none is accepted. -/
structure RefusesReads (account : TdAccount) : Prop where
  empty :
    account.readRequests.accepting = false → account.readRequests.Empty
  closed :
    account.operator.closed = true →
    account.readRequests.accepting = false

/-- How the account relates to the reads of its session. -/
structure TracksReads
    (account : TdAccount)
    (log : ReadLog) : Prop where
  remembers : account.readRequests.Remembers log
  fresh :
    ∀ requestId ∈ log.openedIds,
      requestId.toNat < account.nextRequestId
  holds : account.HoldsResponse log
  refuses : account.RefusesReads

section Tracks

variable {before after account : TdAccount}
variable {log later : ReadLog}

/-- The next request id is new. -/
theorem TracksReads.notMem_openedIds
    (tracks : account.TracksReads log)
    (small : account.nextRequestId < 2 ^ 64) :
    UInt64.ofNat account.nextRequestId ∉ log.openedIds := by
  intro opened
  have earlier := tracks.fresh _ opened
  rw [UInt64.toNat_ofNat_of_lt' small] at earlier
  exact lt_irrefl _ earlier

/-- No response is held while the receive thread handles none. -/
theorem HoldsResponse.held_eq_none
    (holds : account.HoldsResponse log)
    (unheld : account.held? = none) :
    log.held = none := by
  have held := holds.held
  rw [unheld] at held
  simpa using held

/-- The response that is held is the one that the thread handles. -/
theorem HoldsResponse.requestId_eq
    (holds : account.HoldsResponse log)
    {response : HeldResponse}
    (isHeld : log.held = some response)
    {phase : ReceivePhase}
    (here : account.receiveThread = some phase) :
    phase.held? = some response.requestId := by
  have held := holds.held
  rw [isHeld, held?, here] at held
  exact held.symm

/-- A response that is held has been received. -/
theorem HoldsResponse.mem_received
    (holds : account.HoldsResponse log)
    {phase : ReceivePhase}
    (here : account.receiveThread = some phase)
    {requestId : UInt64}
    (handles : phase.held? = some requestId) :
    requestId ∈ log.received := by
  have held := holds.held
  rw [held?, here, Option.bind_some, handles] at held
  obtain ⟨response, isHeld, rfl⟩ := Option.map_eq_some_iff.mp held
  exact holds.received response isHeld

theorem remembers_readStep
    (tracks : before.TracksReads log)
    (step : ReadStep before log after later)
    (idsIncrease : after.nextRequestId ≤ 2 ^ 64)
    (answersOnce :
      ∀ requestId ∈ later.openedIds,
        later.received.count requestId ≤ 1) :
    after.readRequests.Remembers later := by
  cases step with
  | stays router =>
      rw [router]
      exact tracks.remembers
  | routes here =>
      exact tracks.remembers
  | opens accepting router next =>
      rw [router]
      have small : before.nextRequestId < 2 ^ 64 := by
        omega
      exact RequestRouter.remembers_opens tracks.remembers
        (tracks.notMem_openedIds small)
  | expires pending router =>
      rw [router]
      exact RequestRouter.remembers_retires tracks.remembers pending
  | closes complete router =>
      rw [router]
      exact RequestRouter.remembers_closes tracks.remembers complete
  | @receives response here =>
      refine RequestRouter.remembers_receives tracks.remembers ?_
      intro opened earlier
      have once := answersOnce _ opened
      simp only [ReadLog.receives, List.count_append,
        List.count_singleton_self] at once
      have positive := List.count_pos_iff.mpr earlier
      omega
  | fulfils here =>
      exact RequestRouter.remembers_takes tracks.remembers
        (tracks.holds.mem_received here rfl)
  | discards here =>
      exact RequestRouter.remembers_discards tracks.remembers
        (tracks.holds.mem_received here rfl)
  | installs closed joined router =>
      rw [router]
      exact RequestRouter.remembers_restarts
        (tracks.refuses.empty (tracks.refuses.closed closed))

theorem fresh_readStep
    (tracks : before.TracksReads log)
    (step : ReadStep before log after later)
    (idsIncrease : after.nextRequestId ≤ 2 ^ 64) :
    ∀ requestId ∈ later.openedIds,
      requestId.toNat < after.nextRequestId := by
  cases step with
  | stays router next =>
      intro requestId opened
      exact lt_of_lt_of_le (tracks.fresh requestId opened) next
  | opens accepting router next =>
      intro requestId opened
      simp only [ReadLog.openedIds, ReadLog.opens, List.map_append,
        List.map_cons, List.map_nil, List.mem_append,
        List.mem_singleton] at opened
      rw [next]
      rcases opened with opened | rfl
      · exact Nat.lt_succ_of_lt (tracks.fresh requestId opened)
      · have small : before.nextRequestId < 2 ^ 64 := by
          omega
        rw [UInt64.toNat_ofNat_of_lt' small]
        exact Nat.lt_succ_self _
  | expires pending router next | closes complete router next =>
      rw [next]
      exact tracks.fresh
  | routes | receives | fulfils | discards =>
      exact tracks.fresh
  | installs =>
      intro requestId opened
      cases opened

theorem refuses_readStep
    (refuses : before.RefusesReads)
    (step : ReadStep before log after later) :
    after.RefusesReads := by
  cases step with
  | stays router next thread operator =>
      constructor
      · rw [router]
        exact refuses.empty
      · rw [router]
        exact fun closed => refuses.closed (operator closed)
  | routes here | receives here =>
      exact ⟨refuses.empty, refuses.closed⟩
  | opens accepting router next thread operator =>
      constructor
      · intro notAccepting
        rw [router] at notAccepting
        exact absurd (accepting.symm.trans notAccepting) (by decide)
      · intro closed
        rw [operator] at closed
        rw [router]
        exact refuses.closed closed
  | expires pending router next thread operator =>
      constructor
      · intro notAccepting
        rw [router] at notAccepting
        exact absurd pending (refuses.empty notAccepting _)
      · intro closed
        rw [operator] at closed
        rw [router]
        exact refuses.closed closed
  | closes complete router =>
      constructor
      · intro notAccepting requestId pending
        rw [router] at pending
        exact AList.notMem_empty _ pending
      · intro closed
        rw [router, RequestRouter.snd_close]
  | @fulfils requestId here =>
      obtain ⟨shrinks, sameAccepting⟩ :=
        before.readRequests.takeRegistered_spec (UInt64.ofNat requestId)
      constructor
      · intro notAccepting other pending
        exact refuses.empty (sameAccepting.symm.trans notAccepting) other
          (shrinks other pending)
      · intro closed
        exact sameAccepting.trans (refuses.closed closed)
  | discards here =>
      exact ⟨refuses.empty, refuses.closed⟩
  | installs closed joined router thread operator =>
      constructor
      · intro notAccepting
        rw [router] at notAccepting
        cases notAccepting
      · intro stillClosed
        rw [operator] at stillClosed
        cases stillClosed

/-- The response is held while the thread and the reads allow it. -/
theorem HoldsResponse.of_same
    (holds : before.HoldsResponse log)
    (thread :
      after.receiveThread = before.receiveThread ∨
        before.held? = none ∧ after.held? = none)
    (sameHeld : later.held = log.held)
    (received : later.received = log.received)
    (opened : ∀ read ∈ log.opened, read ∈ later.opened)
    (registered :
      ∀ read ∈ log.opened,
        read.1 ∉ before.readRequests.requests →
        read.1 ∉ after.readRequests.requests) :
    after.HoldsResponse later := by
  refine {
    held := ?_
    received := ?_
    answers := ?_
    unregistered := ?_ }
  · rw [sameHeld]
    rcases thread with same | ⟨unheld, stillUnheld⟩
    · rw [held?, same]
      exact holds.held
    · rw [stillUnheld, holds.held_eq_none unheld]
      rfl
  · rw [sameHeld, received]
    exact holds.received
  · intro response ticket isHeld answers
    rw [sameHeld] at isHeld
    exact opened _ (holds.answers response ticket isHeld answers)
  · intro response ticket tdResponse isHeld answers here
    rw [sameHeld] at isHeld
    rcases thread with same | ⟨unheld, -⟩
    · rw [same] at here
      exact registered _ (holds.answers response ticket isHeld answers)
        (holds.unregistered response ticket tdResponse isHeld answers
          here)
    · rw [holds.held_eq_none unheld] at isHeld
      cases isHeld

/-- Nothing is held and nothing is handled. -/
theorem HoldsResponse.of_none
    (nothing : later.held = none)
    (unheld : after.held? = none) :
    after.HoldsResponse later where
  held := by
    rw [nothing, unheld]
    rfl
  received := by
    intro response isHeld
    rw [nothing] at isHeld
    cases isHeld
  answers := by
    intro response ticket isHeld
    rw [nothing] at isHeld
    cases isHeld
  unregistered := by
    intro response ticket tdResponse isHeld
    rw [nothing] at isHeld
    cases isHeld

/-- A response that arrives is held. -/
theorem holds_receives (response : TdResponse) :
    (account.receiveAt (.routing response)).HoldsResponse
      (log.receives (UInt64.ofNat response.requestId)) where
  held := rfl
  received := by
    intro held isHeld
    obtain rfl := Option.some.inj isHeld
    exact List.mem_append_right _ List.mem_cons_self
  answers := by
    intro held ticket isHeld answers
    obtain rfl := Option.some.inj isHeld
    obtain ⟨read, found, rfl⟩ := Option.map_eq_some_iff.mp answers
    have sameId : read.1 = UInt64.ofNat response.requestId := by
      simpa using List.find?_some found
    rw [← sameId]
    exact List.mem_of_find?_eq_some found
  unregistered := by
    intro held ticket tdResponse isHeld answers here
    cases here

/-- The loop finds out whether the response belongs to a pending read. -/
theorem holds_routes
    (holds : before.HoldsResponse log)
    {response : TdResponse}
    (here : before.receiveThread = some (.routing response)) :
    (before.receiveAt
      (if before.readRequests.contains
          (UInt64.ofNat response.requestId) then
        .fulfilling response.requestId
      else
        .discarding response)).HoldsResponse log where
  held := by
    have held := holds.held
    rw [held?, here] at held
    rw [held]
    simp only [held?, receiveAt, Option.bind_some]
    split <;> rfl
  received := holds.received
  answers := holds.answers
  unregistered := by
    intro held ticket tdResponse isHeld answers there
    have sameId := holds.requestId_eq isHeld here
    split at there
    · cases there
    · next notContained =>
        intro pending
        apply notContained
        rw [RequestRouter.contains, Option.some.inj sameId]
        exact decide_eq_true pending

theorem holds_readStep
    (tracks : before.TracksReads log)
    (alone :
      before.operator.afterJoin = true → before.receiveThread = none)
    (step : ReadStep before log after later)
    (idsIncrease : after.nextRequestId ≤ 2 ^ 64) :
    after.HoldsResponse later := by
  have holds := tracks.holds
  cases step with
  | stays router next thread =>
      refine holds.of_same thread rfl rfl (fun _ opened => opened) ?_
      rw [router]
      exact fun _ _ unregistered => unregistered
  | opens accepting router next thread =>
      refine holds.of_same (.inl thread) rfl rfl
        (fun _ opened => List.mem_append_left _ opened) ?_
      intro read opened unregistered pending
      rw [router] at pending
      have small : before.nextRequestId < 2 ^ 64 := by
        omega
      rcases UnorderedMap.mem_emplace_iff.mp pending with isNext | pending
      · apply tracks.notMem_openedIds small
        rw [← isNext]
        exact List.mem_map_of_mem opened
      · exact unregistered pending
  | expires pending router next thread =>
      refine holds.of_same (.inl thread) rfl rfl
        (fun _ opened => opened) ?_
      intro read opened unregistered stillPending
      rw [router] at stillPending
      exact unregistered (AList.mem_erase.mp stillPending).2
  | closes complete router next thread =>
      refine holds.of_same thread rfl rfl (fun _ opened => opened) ?_
      intro read opened unregistered stillPending
      rw [router] at stillPending
      exact AList.notMem_empty _ stillPending
  | routes here =>
      exact holds_routes holds here
  | receives here =>
      exact holds_receives _
  | fulfils here =>
      exact .of_none rfl rfl
  | discards here next =>
      exact .of_none rfl next
  | installs closed joined router thread =>
      have unheld : before.held? = none := by
        rw [held?, alone joined]
        rfl
      have stillUnheld : after.held? = none := by
        unfold held? at unheld ⊢
        rwa [thread]
      exact .of_none (holds.held_eq_none unheld) stillUnheld

theorem tracksReads_readStep
    (tracks : before.TracksReads log)
    (alone :
      before.operator.afterJoin = true → before.receiveThread = none)
    (step : ReadStep before log after later)
    (idsIncrease : after.nextRequestId ≤ 2 ^ 64)
    (answersOnce :
      ∀ requestId ∈ later.openedIds,
        later.received.count requestId ≤ 1) :
    after.TracksReads later where
  remembers := remembers_readStep tracks step idsIncrease answersOnce
  fresh := fresh_readStep tracks step idsIncrease
  holds := holds_readStep tracks alone step idsIncrease
  refuses := refuses_readStep tracks.refuses step

/-- A run that TDLib and the counter of the account allow. -/
structure AnswersOnce (calls : List TdAccountCall) : Prop where
  /-- The request ids of a session increase. -/
  idsIncrease :
    ∀ first,
      first <+: calls →
      (tdAccountMachine.state first).nextRequestId ≤ 2 ^ 64
  /-- TDLib answers a read at most once within its session. -/
  answers :
    ∀ first,
      first <+: calls →
      ∀ requestId ∈ (readLog first).openedIds,
        (readLog first).received.count requestId ≤ 1

/-- In every such run the account tracks its reads. -/
theorem tracksReads_run
    {calls : List TdAccountCall}
    (once : AnswersOnce calls) :
    (tdAccountMachine.state calls).TracksReads (readLog calls) := by
  induction calls using List.reverseRecOn with
  | nil =>
      exact {
        remembers := RequestRouter.remembers_initial
        fresh := fun requestId opened => by cases opened
        holds := .of_none rfl rfl
        refuses := {
          empty := fun impossible => by cases impossible
          closed := fun impossible => by cases impossible } }
  | append_singleton calls call inductionHypothesis =>
      have shorter : AnswersOnce calls := {
        idsIncrease := fun first isPrefix =>
          once.idsIncrease first
            (isPrefix.trans (List.prefix_append calls [call]))
        answers := fun first isPrefix =>
          once.answers first
            (isPrefix.trans (List.prefix_append calls [call])) }
      have idsIncrease := once.idsIncrease _ (List.prefix_refl _)
      have answers := once.answers _ (List.prefix_refl _)
      have alone := (guardsSecrets_run calls).joined
      rw [Machine.state_snoc] at idsIncrease ⊢
      rw [readLog_snoc] at answers ⊢
      exact tracksReads_readStep (inductionHypothesis shorter) alone
        (readStep_step alone call) idsIncrease answers

/-- What the router and the receive thread do with the reads. -/
structure HandlesReads
    (account : TdAccount)
    (log : ReadLog) : Prop where
  disjoint :
    ∀ requestId ∈ account.readRequests.retired,
      requestId ∉ account.readRequests.requests
  listed :
    ∀ requestId ∈ account.readRequests.retired,
      requestId ∈ account.readRequests.retiredOrder
  distinct : account.readRequests.retiredOrder.Nodup
  bounded :
    account.readRequests.retiredOrder.length ≤ maximumRetiredRequests
  /-- A response to a read is delivered to its waiter or swallowed. -/
  fate :
    ∀ response ticket,
      log.held = some response →
      response.ticket? = some ticket →
      log.Recent response.requestId →
      account.fate? = none ∧ account.held? = some response.requestId ∨
        account.fate? = some (.delivered ticket) ∨
          account.fate? = some .swallowed
  /-- Handling it changes nothing that authorization depends on. -/
  harmless :
    ∀ response ticket supply,
      log.held = some response →
      response.ticket? = some ticket →
      log.Recent response.requestId →
      (account.step (.receive supply)).1.lastError =
          account.lastError ∧
        (account.step (.receive supply)).1.authorizationInputRequestId =
            account.authorizationInputRequestId ∧
          ((account.step (.receive supply)).1.held? =
              some response.requestId ∨
            (account.step (.receive supply)).1.receiveThread =
              some .checking)

/-- Where the receive thread is with the response to a read. -/
inductive Handling
    (account : TdAccount)
    (requestId : UInt64)
    (ticket : Ticket) : Prop where
  | routing
      (response : TdResponse)
      (here : account.receiveThread = some (.routing response))
      (own : UInt64.ofNat response.requestId = requestId)
  | delivering
      (nextId : Nat)
      (here : account.receiveThread = some (.fulfilling nextId))
      (own : UInt64.ofNat nextId = requestId)
      (registered :
        ∀ other,
          AList.lookup requestId account.readRequests.requests =
            some other →
          other = ticket)
  | swallowing
      (response : TdResponse)
      (here : account.receiveThread = some (.discarding response))
      (own : UInt64.ofNat response.requestId = requestId)
      (retired : requestId ∈ account.readRequests.retired)

theorem handling_of_held
    (tracks : account.TracksReads log)
    {response : HeldResponse}
    {ticket : Ticket}
    (isHeld : log.held = some response)
    (answers : response.ticket? = some ticket)
    (recent : log.Recent response.requestId) :
    Handling account response.requestId ticket := by
  have opened := tracks.holds.answers response ticket isHeld answers
  have held := tracks.holds.held
  rw [isHeld, Option.map_some, held?, eq_comm,
    Option.bind_eq_some_iff] at held
  obtain ⟨phase, here, handles⟩ := held
  have unsettled : ¬log.Settled response.requestId := by
    intro settled
    apply settled.2
    rw [isHeld]
    rfl
  cases phase with
  | routing tdResponse =>
      exact .routing tdResponse here (Option.some.inj handles)
  | fulfilling nextId =>
      refine .delivering nextId here (Option.some.inj handles) ?_
      intro other found
      have otherOpened := tracks.remembers.own found
      have same :=
        List.inj_on_of_nodup_map tracks.remembers.openedOnce otherOpened
          opened rfl
      exact congrArg Prod.snd same
  | discarding tdResponse =>
      refine .swallowing tdResponse here (Option.some.inj handles) ?_
      have unregistered :=
        tracks.holds.unregistered response ticket tdResponse isHeld answers
          here
      have openedId : response.requestId ∈ log.openedIds :=
        List.mem_map_of_mem opened
      have isRetired : response.requestId ∈ log.retirements := by
        rcases tracks.remembers.accounted openedId with
          pending | retired | settled
        · exact absurd pending unregistered
        · exact retired
        · exact absurd settled unsettled
      obtain ⟨earlier, later, split⟩ := List.append_of_mem isRetired
      have listed :
          response.requestId ∈ account.readRequests.retiredOrder := by
        rw [tracks.remembers.window]
        exact mem_rtake_of_recent split (recent earlier later split)
      exact (tracks.remembers.remembered listed).resolve_right unsettled
  | checking | receiving | clearingInput | reporting | settingStatus
  | sendingParameters | sendingPhoneNumber | clearingOptions
  | failingReads | finishing | finished =>
      cases handles

theorem handlesReads_of_tracksReads
    (tracks : account.TracksReads log) :
    account.HandlesReads log where
  disjoint requestId retired :=
    tracks.remembers.unregistered
      (tracks.remembers.mem_retirements
        (account.readRequests.listed requestId retired))
  listed := account.readRequests.listed
  distinct := tracks.remembers.nodup_retiredOrder
  bounded := account.readRequests.bounded
  fate := by
    intro response ticket isHeld answers recent
    cases handling_of_held tracks isHeld answers recent with
    | routing tdResponse here own =>
        left
        constructor
        · rw [fate?, here]
        · rw [held?, here, ← own]
          rfl
    | delivering nextId here own registered =>
        right
        rw [← own] at registered
        cases found :
            AList.lookup (UInt64.ofNat nextId)
              account.readRequests.requests with
        | none =>
            right
            simp only [fate?, here, RequestRouter.takeRegistered, found]
        | some other =>
            left
            obtain rfl := registered other found
            simp only [fate?, here, RequestRouter.takeRegistered, found]
    | swallowing tdResponse here own retired =>
        right
        right
        simp [fate?, here, own, RequestRouter.discardLate, retired]
  harmless := by
    intro response ticket supply isHeld answers recent
    cases handling_of_held tracks isHeld answers recent with
    | routing tdResponse here own =>
        simp only [step, here, advanceReceive]
        refine ⟨rfl, rfl, .inl ?_⟩
        simp only [held?, receiveAt, Option.bind_some]
        rw [← own]
        split <;> rfl
    | delivering nextId here own registered =>
        simp only [step, here, advanceReceive]
        exact ⟨rfl, rfl, .inr rfl⟩
    | swallowing tdResponse here own retired =>
        simp only [step, here, advanceReceive]
        refine ⟨rfl, rfl, .inr ?_⟩
        simp [receiveAt, own, RequestRouter.discardLate, retired]

end Tracks

/--
In every run in which TDLib answers a read at most once, a response to a read
is delivered to its waiter or swallowed, and never taken for authorization
traffic, as long as fewer than 256 reads were retired after its own.
-/
theorem handlesReads_run
    (calls : List TdAccountCall)
    (once : AnswersOnce calls) :
    ∀ first,
      first <+: calls →
      (tdAccountMachine.state first).HandlesReads (readLog first) := by
  intro first isPrefix
  apply handlesReads_of_tracksReads
  exact tracksReads_run {
    idsIncrease := fun shorter isShorter =>
      once.idsIncrease shorter (isShorter.trans isPrefix)
    answers := fun shorter isShorter =>
      once.answers shorter (isShorter.trans isPrefix) }

/-- A read times out, and its error response arrives after all. -/
def lateSession : List TdAccountCall :=
  startedSession ++ receivedState .ready ++
    [.requestRead (.getChats 10), .timeOutRead 2 0, .receive {},
      .receive { response? := some {
        requestId := 2
        object := .error 400 (bytes "CHAT_NOT_FOUND")
      } },
      .receive {}]

theorem answersOnce_lateSession : AnswersOnce lateSession where
  idsIncrease := by
    have small :
        ∀ first ∈ lateSession.inits,
          (tdAccountMachine.state first).nextRequestId ≤ 3 := by
      decide +kernel
    intro first isPrefix
    have bound := small first ((List.mem_inits _ _).mpr isPrefix)
    omega
  answers := by
    have once :
        ∀ first ∈ lateSession.inits, (readLog first).received.Nodup := by
      decide +kernel
    intro first isPrefix requestId opened
    exact List.nodup_iff_count_le_one.mp
      (once first ((List.mem_inits _ _).mpr isPrefix)) requestId

theorem handlesReads_run_lateSession :
    (tdAccountMachine.state lateSession).fate? = some .swallowed ∧
      (tdAccountMachine.state lateSession).HandlesReads
        (readLog lateSession) := by
  constructor
  · decide +kernel
  · exact handlesReads_run lateSession answersOnce_lateSession _
      (List.prefix_refl _)

end TdAccount

end TgGate
