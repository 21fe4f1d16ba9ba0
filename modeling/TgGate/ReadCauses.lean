import TgGate.ReadProvenance

namespace TgGate

open Library

/-!
# What cuts a read short

A read that TDLib does not answer was refused by the account, given up by its
reader or failed by a thread that closed the router.  Each of these is a step of
the run; an error in a request state leads back to the step that closed the
router while its ticket was pending.
-/

/-- A step of the run was the cause. -/
def CausedIn (calls : List TdReadingCall) (cause : ReadCause) : Prop :=
  ∃ first call rest,
    calls = first ++ call :: rest ∧
      (tdReading.state first).Causes call cause

section CausedIn

variable {calls : List TdReadingCall}
variable {call : TdReadingCall}
variable {cause : ReadCause}

/-- A cause stays one while the run goes on. -/
theorem CausedIn.snoc
    (caused : CausedIn calls cause)
    (call : TdReadingCall) :
    CausedIn (calls ++ [call]) cause := by
  obtain ⟨first, own, rest, rfl, causes⟩ := caused
  exact ⟨first, own, rest ++ [call], by simp, causes⟩

/-- The last step is a cause as well. -/
theorem causedIn_snoc
    (causes : (tdReading.state calls).Causes call cause) :
    CausedIn (calls ++ [call]) cause :=
  ⟨calls, call, [], rfl, causes⟩

end CausedIn

namespace TdReading

/-- Every ticket that was failed or is to be has been closed before. -/
structure FailsFor
    (reading : TdReading)
    (caused : ReadCause → Prop) : Prop where
  receiver :
    ∀ ticket error,
      (ticket, .failed error) ∈ reading.receiverHolds →
      caused (.closed ticket error)
  operator :
    ∀ ticket error,
      (ticket, .failed error) ∈ reading.operatorHolds →
      caused (.closed ticket error)
  states :
    ∀ (ticket : Ticket) (state : RequestState TdApiObject),
      reading.states[ticket]? = some state →
      state.error ≠ [] → caused (.closed ticket state.error)

section Fails

variable {before after reading : TdReading}
variable {record later : ReadRecord}
variable {call : TdReadingCall}
variable {caused causedLater : ReadCause → Prop}

theorem FailsFor.mono
    (fails : reading.FailsFor caused)
    (mono : ∀ cause, caused cause → causedLater cause) :
    reading.FailsFor causedLater where
  receiver ticket error member :=
    mono _ (fails.receiver ticket error member)
  operator ticket error member :=
    mono _ (fails.operator ticket error member)
  states ticket state found failed :=
    mono _ (fails.states ticket state found failed)

/-- The holdings and the request states are the same. -/
theorem FailsFor.of_same
    (fails : before.FailsFor caused)
    (receiver : after.receiverHolds = before.receiverHolds)
    (operator : after.operatorHolds = before.operatorHolds)
    (states : after.states = before.states) :
    after.FailsFor caused where
  receiver := receiver ▸ fails.receiver
  operator := operator ▸ fails.operator
  states := states ▸ fails.states

/-- A state is completed with what its ticket was held for. -/
theorem FailsFor.complete
    {held : HeldTicket}
    (fails : reading.FailsFor caused)
    (closed :
      ∀ error,
        held.2 = .failed error → caused (.closed held.1 error)) :
    (reading.complete held).FailsFor caused where
  receiver := fails.receiver
  operator := fails.operator
  states ticket state found failed := by
    simp only [TdReading.complete, List.getElem?_modify] at found
    obtain ⟨old, wasFound, rfl⟩ := Option.map_eq_some_iff.mp found
    have kept := fails.states ticket old wasFound
    split at failed
    · next same =>
        subst same
        rw [if_pos rfl]
        cases completion : held.2 with
        | fulfilled object =>
            rw [completion] at failed
            exact kept failed
        | failed error =>
            exact closed error completion
    · next different =>
        rw [if_neg different]
        exact kept failed

/-- The tickets of a closed router have been closed. -/
theorem closed_of_failedBy
    {error : Bytes}
    {tickets : List Ticket}
    (causes : ∀ ticket ∈ tickets, caused (.closed ticket error))
    {ticket : Ticket}
    {other : Bytes}
    (member : (ticket, .failed other) ∈ failedBy error tickets) :
    caused (.closed ticket other) := by
  obtain ⟨own, isOwn, same⟩ := List.mem_map.mp member
  cases same
  exact causes _ isOwn

/-- Every step leaves each failure with its cause. -/
theorem failsFor_step
    (fails : before.FailsFor caused)
    (mono : ∀ cause, caused cause → causedLater cause)
    (own : ∀ cause, before.Causes call cause → causedLater cause)
    (step : ReadingStep before record call after later) :
    after.FailsFor causedLater := by
  have kept := fails.mono mono
  cases step with
  | leaves | receives | enters | begins | refuses | resumes | expires
  | timesOut =>
      exact kept.of_same rfl rfl rfl
  | operatorCloses free complete router tickets keeps thread causes =>
      exact {
        receiver := kept.receiver
        operator := fun ticket error member =>
          closed_of_failedBy
            (fun other isOther => own _ (causes other isOther)) member
        states := kept.states }
  | receiverCloses free complete router tickets keeps unheld causes =>
      exact {
        receiver := fun ticket error member =>
          closed_of_failedBy
            (fun other isOther => own _ (causes other isOther)) member
        operator := kept.operator
        states := kept.states }
  | fulfils =>
      exact {
        receiver := by
          intro ticket error member
          cases List.mem_singleton.mp member
        operator := kept.operator
        states := kept.states }
  | @operatorCompletes held rest holds =>
      have completed : (before.complete held).FailsFor causedLater := by
        refine kept.complete fun error failed => ?_
        refine kept.operator held.1 error ?_
        rw [holds, ← failed]
        exact List.mem_cons_self
      exact {
        receiver := completed.receiver
        operator := fun ticket error member =>
          kept.operator ticket error
            (holds ▸ List.mem_cons_of_mem _ member)
        states := completed.states }
  | @receiverCompletes held rest holds =>
      have completed : (before.complete held).FailsFor causedLater := by
        refine kept.complete fun error failed => ?_
        refine kept.receiver held.1 error ?_
        rw [holds, ← failed]
        exact List.mem_cons_self
      exact {
        receiver := fun ticket error member =>
          kept.receiver ticket error
            (holds ▸ List.mem_cons_of_mem _ member)
        operator := completed.operator
        states := completed.states }
  | asks =>
      exact {
        receiver := kept.receiver
        operator := kept.operator
        states := by
          intro ticket state found failed
          simp only [readerAt, opens, List.getElem?_append] at found
          split at found
          · exact kept.states ticket state found failed
          · obtain rfl := List.mem_singleton.mp (List.mem_of_getElem? found)
            exact absurd rfl failed }

end Fails

end TdReading

/-- In every run each failed ticket was closed by one of its steps. -/
theorem failsFor_run (calls : List TdReadingCall) :
    (tdReading.state calls).FailsFor (CausedIn calls) := by
  induction calls using List.reverseRecOn with
  | nil =>
      exact {
        receiver := fun _ _ impossible => by cases impossible
        operator := fun _ _ impossible => by cases impossible
        states := fun _ _ impossible => by cases impossible }
  | append_singleton calls call inductionHypothesis =>
      rw [Machine.state_snoc]
      exact TdReading.failsFor_step inductionHypothesis
        (fun _ caused => caused.snoc call) (fun _ => causedIn_snoc)
        (TdReading.readingStep _ (readRecord []) call)

end TgGate
