import TgGate.ReadOutcomes

namespace TgGate

open Library

/-!
# A response answers one request

Request ids restart with every manager and increase from request to request.
While the counter has not wrapped, two reads of one session therefore never bear
the same id, and a response is the answer to one request of one call.
-/

namespace TdReading

/-- The ids of a session increase and are all behind the counter. -/
structure Numbers
    (reading : TdReading)
    (record : ReadRecord) : Prop where
  current :
    ∀ manager,
      reading.account.manager = some manager →
      manager < reading.account.managers
  known :
    ∀ sent ∈ record.sent, sent.manager < reading.account.managers
  used :
    ∀ sent ∈ record.sent,
      reading.account.manager = some sent.manager →
      sent.requestId < reading.account.nextRequestId
  increasing :
    record.sent.Pairwise fun earlier later =>
      earlier.manager = later.manager →
      earlier.requestId < later.requestId

section Numbers

variable {before after reading : TdReading}
variable {record later : ReadRecord}

/-- The manager stays or goes; nothing is sent. -/
theorem Numbers.moves
    (numbers : before.Numbers record)
    (session :
      before.account.KeepsManager after.account ∨
        before.account.ChangesManager after.account)
    (unsent : later.sent = record.sent) :
    after.Numbers later := by
  rcases session with keeps | changes
  · constructor
    · rw [keeps.manager, keeps.managers]
      exact numbers.current
    · rw [unsent, keeps.managers]
      exact numbers.known
    · rw [unsent, keeps.manager]
      intro sent member owned
      exact lt_of_lt_of_le (numbers.used sent member owned) keeps.next
    · rw [unsent]
      exact numbers.increasing
  · constructor
    · intro manager owned
      exact (changes.fresh manager owned).2
    · rw [unsent]
      intro sent member
      exact lt_of_lt_of_le (numbers.known sent member) changes.managers
    · rw [unsent]
      intro sent member owned
      have earlier := numbers.known sent member
      have fresh := (changes.fresh sent.manager owned).1
      omega
    · rw [unsent]
      exact numbers.increasing

theorem numbers_opens
    {index manager : Nat}
    {request : TdReadFunction}
    (numbers : before.Numbers record)
    (owned : before.account.manager = some manager) :
    before.opens.Numbers
      (record.asks index manager before.account.nextRequestId
        request) where
  current := numbers.current
  known := by
    intro sent member
    rcases List.mem_append.mp member with old | isNew
    · exact numbers.known sent old
    · obtain rfl := List.mem_singleton.mp isNew
      exact numbers.current manager owned
  used := by
    intro sent member stillOwned
    rcases List.mem_append.mp member with old | isNew
    · exact Nat.lt_succ_of_lt (numbers.used sent old stillOwned)
    · obtain rfl := List.mem_singleton.mp isNew
      exact Nat.lt_succ_self _
  increasing := by
    refine List.pairwise_append.mpr
      ⟨numbers.increasing, List.pairwise_singleton _ _, ?_⟩
    intro earlier member newest isNewest sameManager
    obtain rfl := List.mem_singleton.mp isNewest
    exact numbers.used earlier member
      (owned.trans (congrArg some sameManager.symm))

theorem numbers_step
    (numbers : before.Numbers record)
    {call : TdReadingCall}
    (step : ReadingStep before record call after later) :
    after.Numbers later := by
  cases step with
  | leaves leaves | refuses found here refusal leaves =>
      exact numbers.moves leaves.session rfl
  | operatorCloses free complete router tickets keeps
  | receiverCloses free complete router tickets keeps =>
      exact numbers.moves (.inl keeps) rfl
  | @asks index reader inquiry manager found here owned =>
      have opened :
          before.opens.Numbers
            (record.asks index manager before.account.nextRequestId
              inquiry.request) :=
        numbers_opens numbers owned
      exact ⟨opened.current, opened.known, opened.used,
        opened.increasing⟩
  | receives | fulfils | operatorCompletes | receiverCompletes | enters
  | begins | resumes | expires | timesOut =>
      exact numbers.moves (.inl ⟨rfl, rfl, le_rfl⟩) rfl

end Numbers

end TdReading

theorem numbers_run (calls : List TdReadingCall) :
    (tdReading.state calls).Numbers
      (readRecord (tdReading.history calls)) := by
  induction calls using List.reverseRecOn with
  | nil =>
      exact {
        current := fun _ impossible => by cases impossible
        known := fun _ impossible => by cases impossible
        used := fun _ impossible => by cases impossible
        increasing := .nil }
  | append_singleton calls call inductionHypothesis =>
      rw [Machine.state_snoc, Machine.history_snoc, readRecord_snoc]
      exact TdReading.numbers_step inductionHypothesis
        (TdReading.readingStep _ _ call)

/-- The counter of request ids never wraps within a session. -/
def CountsUp (calls : List TdReadingCall) : Prop :=
  ∀ first,
    first <+: calls →
    (tdReading.state first).account.nextRequestId ≤ 2 ^ 64

/-- Under such a counter every id that is sent fits. -/
theorem requestId_lt_of_countsUp
    {calls : List TdReadingCall}
    (countsUp : CountsUp calls) :
    ∀ sent ∈ (readRecord (tdReading.history calls)).sent,
      sent.requestId < 2 ^ 64 := by
  induction calls using List.reverseRecOn with
  | nil =>
      intro sent impossible
      cases impossible
  | append_singleton calls call inductionHypothesis =>
      have fits := countsUp _ (List.prefix_refl _)
      have earlierFit :=
        inductionHypothesis fun first isPrefix =>
          countsUp first (isPrefix.trans (List.prefix_append _ _))
      rw [Machine.state_snoc] at fits
      rw [Machine.history_snoc, readRecord_snoc]
      have step :=
        TdReading.readingStep (tdReading.state calls)
          (readRecord (tdReading.history calls)) call
      generalize (tdReading.step (tdReading.state calls) call).1 = after
        at step fits
      generalize (readRecord (tdReading.history calls)).after
        (tdReading.eventAt (tdReading.state calls) call) = later at step ⊢
      cases step with
      | asks =>
          intro sent member
          rcases List.mem_append.mp member with old | isNew
          · exact earlierFit sent old
          · obtain rfl := List.mem_singleton.mp isNew
            exact Nat.lt_of_succ_le fits
      | _ =>
          exact earlierFit

/--
In every interleaving in which the counter of request ids does not wrap, no two
read requests of one session bear the same id on the wire, whichever readers
sent them: a response that TDLib gives answers at most one request of one call.
-/
theorem answers_are_exclusive
    {calls : List TdReadingCall}
    (countsUp : CountsUp calls)
    (manager : Nat)
    (requestId : UInt64) :
    ((readRecord (tdReading.history calls)).sent.filter fun sent =>
        sent.manager = manager ∧
          UInt64.ofNat sent.requestId = requestId).length ≤ 1 := by
  have fits := requestId_lt_of_countsUp countsUp
  have increasing := (numbers_run calls).increasing
  generalize (readRecord (tdReading.history calls)).sent = sent
    at fits increasing
  have apart :
      (sent.filter fun sent =>
          sent.manager = manager ∧
            UInt64.ofNat sent.requestId = requestId).Pairwise
        fun _ _ => False := by
    refine (increasing.filter _).imp_of_mem ?_
    intro earlier later isEarlier isLater increases
    simp only [decide_eq_true_eq, List.mem_filter] at isEarlier isLater
    obtain ⟨earlierSent, earlierManager, earlierId⟩ := isEarlier
    obtain ⟨laterSent, laterManager, laterId⟩ := isLater
    have less := increases (earlierManager.trans laterManager.symm)
    have sameNumber := congrArg UInt64.toNat
      (earlierId.trans laterId.symm)
    rw [UInt64.toNat_ofNat_of_lt' (fits earlier earlierSent),
      UInt64.toNat_ofNat_of_lt' (fits later laterSent)] at sameNumber
    exact less.ne sameNumber
  generalize sent.filter _ = matching at apart
  match matching, apart with
  | [], _ => exact Nat.zero_le 1
  | [_], _ => exact le_rfl
  | _ :: _ :: _, .cons head _ => exact (head _ List.mem_cons_self).elim

theorem countsUp_listedReading : CountsUp listedReading := by
  have small :
      ∀ first ∈ listedReading.inits,
        (tdReading.state first).account.nextRequestId ≤ 4 := by
    decide +kernel
  intro first isPrefix
  have bound := small first ((List.mem_inits _ _).mpr isPrefix)
  omega

theorem answers_are_exclusive_listed :
    ((readRecord (tdReading.history listedReading)).sent.filter fun sent =>
        sent.manager = 0 ∧ UInt64.ofNat sent.requestId = 3).length ≤ 1 :=
  answers_are_exclusive countsUp_listedReading 0 3

end TgGate
