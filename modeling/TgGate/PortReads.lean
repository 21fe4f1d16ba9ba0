import TgGate.TdTelegramService

namespace TgGate

open Library

/-!
# What a call of the port returns

Between the look-up of its account and its end a call of the port shares the
registry and the account with everyone else.  It still reads on the account that
was attached when it looked up, as a reader that no other call is, and what it
returns is made of what TDLib answered this reader.
-/

namespace TdTelegramService

/-- The readers stay where they are and in their functions. -/
def KeepsReaders (before after : TdTelegramService) : Prop :=
  ∀ (address index : Nat) (account : TdReading) (reader : Reader),
    before.accounts[address]? = some account →
    account.readers[index]? = some reader →
    ∃ later next,
      after.accounts[address]? = some later ∧
        later.readers[index]? = some next ∧ next.call = reader.call

/-- Every call inside an account is one of its readers, and no other call is. -/
structure Sound (service : TdTelegramService) : Prop where
  inside :
    ∀ (index : Nat) (caller : PortCaller) (address position : Nat),
      service.callers[index]? = some caller →
      caller.place = .inside address position →
      ∃ account reader,
        service.accounts[address]? = some account ∧
          account.readers[position]? = some reader ∧
            reader.call = caller.call
  apart :
    ∀ (first second : Nat) (caller other : PortCaller)
      (address position : Nat),
      service.callers[first]? = some caller →
      service.callers[second]? = some other →
      caller.place = .inside address position →
      other.place = .inside address position →
      first = second

section Steps

variable {service before after : TdTelegramService}

theorem keepsReaders_of_same
    (same : after.accounts = before.accounts) :
    before.KeepsReaders after := by
  intro address index account reader found isReader
  exact ⟨account, reader, same ▸ found, isReader, rfl⟩

theorem keepsReaders_makeAccount :
    service.KeepsReaders (service.step .makeAccount).1 := by
  intro address index account reader found isReader
  have bound := (List.getElem?_eq_some_iff.mp found).1
  exact ⟨account, reader,
    (List.getElem?_append_left bound).trans found, isReader, rfl⟩

theorem keepsReaders_advance (address : Nat) (call : TdReadingCall) :
    service.KeepsReaders (service.advance address call).1 := by
  unfold advance
  cases here : service.accounts[address]? with
  | none =>
      exact keepsReaders_of_same rfl
  | some moved =>
      intro other index account reader found isReader
      by_cases same : address = other
      · subst same
        obtain rfl : moved = account :=
          Option.some.inj (here.symm.trans found)
        obtain ⟨next, isNext, sameCall⟩ :=
          (TdReading.readingStep moved {} call).reader_stays isReader
        have bound := (List.getElem?_eq_some_iff.mp found).1
        exact ⟨_, next, List.getElem?_set_self bound, isNext, sameCall⟩
      · exact ⟨account, reader,
          (List.getElem?_set_ne same).trans found, isReader, rfl⟩

@[simp] theorem callers_advance (address : Nat) (call : TdReadingCall) :
    (service.advance address call).1.callers = service.callers := by
  unfold advance
  cases service.accounts[address]? <;> rfl

/-- The calls of the port do not move. -/
theorem Sound.keeps
    (sound : before.Sound)
    (callers : after.callers = before.callers)
    (keeps : before.KeepsReaders after) :
    after.Sound where
  inside index caller address position found here := by
    rw [callers] at found
    obtain ⟨account, reader, isAccount, isReader, sameCall⟩ :=
      sound.inside index caller address position found here
    obtain ⟨later, next, isLater, isNext, stays⟩ :=
      keeps address position account reader isAccount isReader
    exact ⟨later, next, isLater, isNext, stays.trans sameCall⟩
  apart := by
    rw [callers]
    exact sound.apart

/-- A call that has looked its account up is not inside yet. -/
theorem sound_lookUp
    (sound : service.Sound)
    (accountId : Bytes)
    (call : ReadCall) :
    (service.step (.lookUp accountId call)).1.Sound := by
  have known
      {index : Nat}
      {caller : PortCaller}
      {address position : Nat}
      (found :
        (service.step (.lookUp accountId call)).1.callers[index]? =
          some caller)
      (here : caller.place = .inside address position) :
      service.callers[index]? = some caller := by
    rcases getElem?_concat_cases found with old | ⟨-, rfl⟩
    · exact old
    · cases here
  exact {
    inside := fun index caller address position found here =>
      sound.inside index caller address position (known found here) here
    apart := fun first second caller other address position
        found otherFound here there =>
      sound.apart first second caller other address position
        (known found here) (known otherFound there) here there }

/-- A call enters its account as a reader of its own. -/
theorem sound_enter
    (sound : service.Sound)
    {index address : Nat}
    {caller : PortCaller}
    (found : service.callers[index]? = some caller) :
    (service.enter index caller address).1.Sound := by
  unfold enter
  cases isAccount : service.accounts[address]? with
  | none =>
      exact sound
  | some account =>
      have keeps :=
        @keepsReaders_advance service address (.enterRead caller.call)
      have kept := sound.keeps (callers_advance _ _) keeps
      have isSet :
          (service.advance address (.enterRead caller.call)).1.accounts[
              address]? =
            some (account.step (.enterRead caller.call)).1 := by
        simp only [advance, isAccount]
        exact List.getElem?_set_self
          (List.getElem?_eq_some_iff.mp isAccount).1
      -- The position of the new reader is taken by nobody yet.
      have untaken
          {other : Nat}
          {otherCaller : PortCaller}
          (isOther : service.callers[other]? = some otherCaller)
          (here :
            otherCaller.place =
              .inside address account.readers.length) :
          False := by
        obtain ⟨same, reader, isSame, isReader, -⟩ :=
          sound.inside other otherCaller address _ isOther here
        obtain rfl : account = same :=
          Option.some.inj (isAccount.symm.trans isSame)
        exact absurd (List.getElem?_eq_some_iff.mp isReader).1
          (lt_irrefl _)
      constructor
      · intro other otherCaller otherAddress position isOther here
        rcases getElem?_set_cases isOther with
          ⟨rfl, rfl⟩ | ⟨-, isOld⟩
        · cases here
          exact ⟨_, { call := caller.call }, isSet,
            List.getElem?_concat_length, rfl⟩
        · exact kept.inside other otherCaller otherAddress position
            (by rwa [callers_advance]) here
      · intro first second one other otherAddress position isOne isOther
          here there
        rcases getElem?_set_cases isOne with
          ⟨rfl, rfl⟩ | ⟨-, oldOne⟩
        · cases here
          rcases getElem?_set_cases isOther with
            ⟨rfl, -⟩ | ⟨-, oldOther⟩
          · rfl
          · exact (untaken oldOther there).elim
        · rcases getElem?_set_cases isOther with
            ⟨rfl, rfl⟩ | ⟨-, oldOther⟩
          · cases there
            exact (untaken oldOne here).elim
          · exact sound.apart first second one other otherAddress position
              oldOne oldOther here there

theorem sound_step
    (sound : service.Sound)
    (call : TdTelegramServiceCall) :
    (tdTelegramService.step service call).1.Sound := by
  cases call with
  | makeAccount =>
      exact sound.keeps rfl keepsReaders_makeAccount
  | account address call =>
      exact sound.keeps (callers_advance address call)
        (keepsReaders_advance address call)
  | attach accountId account? =>
      simp only [tdTelegramService, step]
      split <;> exact sound.keeps rfl (keepsReaders_of_same rfl)
  | detach =>
      exact sound.keeps rfl (keepsReaders_of_same rfl)
  | lookUp accountId call =>
      exact sound_lookUp sound accountId call
  | enter index =>
      simp only [tdTelegramService, step]
      cases found : service.callers[index]? with
      | none =>
          exact sound
      | some caller =>
          simp only
          cases caller.place with
          | inside =>
              exact sound
          | found account? =>
              cases account? with
              | none =>
                  exact sound
              | some address =>
                  exact sound_enter sound found

end Steps

end TdTelegramService

theorem sound_run (calls : List TdTelegramServiceCall) :
    (tdTelegramService.state calls).Sound :=
  tdTelegramService.stateFrom_of_step TdTelegramService.Sound
    (fun call sound => TdTelegramService.sound_step sound call)
    { inside := fun _ _ _ _ impossible => by cases impossible
      apart := fun _ _ _ _ _ _ impossible => by cases impossible }
    calls

/-- The moment at which a call looked its account up. -/
structure LookUp
    (calls first : List TdTelegramServiceCall)
    (index : Nat)
    (caller : PortCaller) : Prop where
  /-- It was the next step of the run. -/
  here : first ++ [.lookUp caller.accountId caller.call] <+: calls
  position : (tdTelegramService.state first).callers.length = index
  found :
    (tdTelegramService.state first).find caller.accountId =
      caller.place.account?

namespace TdTelegramService

/-- A call keeps the account that it has found, or has just found it. -/
theorem caller_step
    {service : TdTelegramService}
    {call : TdTelegramServiceCall}
    {index : Nat}
    {caller : PortCaller}
    (found :
      (tdTelegramService.step service call).1.callers[index]? =
        some caller) :
    (∃ earlier,
      service.callers[index]? = some earlier ∧
        caller.accountId = earlier.accountId ∧
          caller.call = earlier.call ∧
            caller.place.account? = earlier.place.account?) ∨
      call = .lookUp caller.accountId caller.call ∧
        service.callers.length = index ∧
          service.find caller.accountId = caller.place.account? := by
  have stays
      (same : service.callers[index]? = some caller) :
      ∃ earlier,
        service.callers[index]? = some earlier ∧
          caller.accountId = earlier.accountId ∧
            caller.call = earlier.call ∧
              caller.place.account? = earlier.place.account? :=
    ⟨caller, same, rfl, rfl, rfl⟩
  cases call with
  | makeAccount | detach =>
      exact .inl (stays found)
  | account address call =>
      have same := @callers_advance service address call
      exact .inl (stays (same ▸ found))
  | attach accountId account? =>
      simp only [tdTelegramService, step] at found
      by_cases valid :
          account?.all (· < service.accounts.length) = true
      · rw [if_pos valid] at found
        exact .inl (stays found)
      · rw [if_neg valid] at found
        exact .inl (stays found)
  | lookUp accountId call =>
      rcases getElem?_concat_cases found with old | ⟨rfl, rfl⟩
      · exact .inl (stays old)
      · exact .inr ⟨rfl, rfl, rfl⟩
  | enter moved =>
      simp only [tdTelegramService, step] at found
      cases isMoved : service.callers[moved]? with
      | none =>
          rw [isMoved] at found
          exact .inl (stays found)
      | some own =>
          rw [isMoved] at found
          cases place : own.place with
          | inside =>
              simp only [place] at found
              exact .inl (stays found)
          | found account? =>
              cases account? with
              | none =>
                  simp only [place] at found
                  exact .inl (stays found)
              | some address =>
                  simp only [place, enter] at found
                  cases isAccount : service.accounts[address]? with
                  | none =>
                      rw [isAccount] at found
                      exact .inl (stays found)
                  | some account =>
                      rw [isAccount] at found
                      rcases getElem?_set_cases found with
                        ⟨rfl, rfl⟩ | ⟨-, old⟩
                      · refine .inl ⟨own, isMoved, rfl, rfl, ?_⟩
                        rw [place]
                        rfl
                      · exact .inl (stays old)

end TdTelegramService

/-- Every call has looked its account up at one moment of the run. -/
theorem lookUp_run
    {calls : List TdTelegramServiceCall}
    {index : Nat}
    {caller : PortCaller}
    (found :
      (tdTelegramService.state calls).callers[index]? = some caller) :
    ∃ first, LookUp calls first index caller := by
  induction calls using List.reverseRecOn generalizing caller with
  | nil =>
      cases found
  | append_singleton calls call inductionHypothesis =>
      rw [Machine.state_snoc] at found
      rcases TdTelegramService.caller_step found with
        ⟨earlier, wasFound, sameId, sameCall, sameAccount⟩ |
        ⟨rfl, position, isFound⟩
      · obtain ⟨first, lookUp⟩ := inductionHypothesis wasFound
        refine ⟨first, ?_, lookUp.position, ?_⟩
        · rw [sameId, sameCall]
          exact lookUp.here.trans (List.prefix_append _ _)
        · rw [sameId, sameAccount]
          exact lookUp.found
      · exact ⟨calls, List.prefix_refl _, position, isFound⟩

/-- A call reads on the account that it found, as a reader of its own. -/
structure ReadsAs
    (calls : List TdTelegramServiceCall)
    (index : Nat)
    (caller : PortCaller)
    (address position : Nat) : Prop where
  /-- The account was attached under the id when the call looked it up. -/
  attached :
    ∃ first,
      LookUp calls first index caller ∧
        (tdTelegramService.state first).find caller.accountId =
          some address
  place : caller.place = .inside address position
  alone :
    ∀ (other : Nat) (otherCaller : PortCaller),
      (tdTelegramService.state calls).callers[other]? =
          some otherCaller →
      otherCaller.place = .inside address position →
      other = index

/-- What a call of the port has returned, and why. -/
inductive PortOutcome
    (calls : List TdTelegramServiceCall)
    (index : Nat)
    (caller : PortCaller) : Result ReadValue → Prop where
  /-- No account was attached under the id when the call looked it up. -/
  | notRunning
      {first : List TdTelegramServiceCall}
      (lookUp : LookUp calls first index caller)
      (absent :
        (tdTelegramService.state first).find caller.accountId = none) :
      PortOutcome calls index caller
        (.error (bytes "Telegram account is not running"))
  | value
      {address position : Nat}
      {value : ReadValue}
      (reads : ReadsAs calls index caller address position)
      (yields :
        (accountRecord address (tdTelegramService.history calls)).Yields
          position caller.call value) :
      PortOutcome calls index caller (.value value)
  | error
      {address position : Nat}
      {message : Bytes}
      (reads : ReadsAs calls index caller address position)
      (failure :
        ReadFailure
          (accountRecord address (tdTelegramService.history calls))
          (CausedIn
            (accountCalls address (tdTelegramService.history calls)))
          position caller.call message) :
      PortOutcome calls index caller (.error message)

/-- A call inside an account returns what its reader has returned. -/
theorem readOutcome_of_inside
    {calls : List TdTelegramServiceCall}
    {index address position : Nat}
    {caller : PortCaller}
    {result : Result ReadValue}
    (found :
      (tdTelegramService.state calls).callers[index]? = some caller)
    (place : caller.place = .inside address position)
    (returned :
      (tdTelegramService.state calls).result? caller = some result) :
    ReadOutcome (accountRecord address (tdTelegramService.history calls))
      (CausedIn
        (accountCalls address (tdTelegramService.history calls)))
      position caller.call result := by
  obtain ⟨account, reader, isAccount, isReader, sameCall⟩ :=
    (sound_run calls).inside index caller address position found place
  have explained :=
    (accounts_explain isAccount).explained position reader isReader
  rw [sameCall] at explained
  simp only [TdTelegramService.result?, place, isAccount, isReader,
    Option.bind_eq_bind, Option.bind_some] at returned
  cases phase : reader.phase with
  | returned outcome =>
      rw [phase] at explained returned
      obtain rfl := Option.some.inj returned
      exact explained
  | entering | requesting | waiting | expired =>
      rw [phase] at returned
      cases returned

/--
In every interleaving of accounts, registry and calls of the port, a call that
returns finds no account under its id, or reads on the account attached there
when it looked it up, as a reader that no other call is, and returns a value made
of TDLib's answers to this reader's requests or the error that ended them.
-/
theorem port_calls_return_their_answers
    {calls : List TdTelegramServiceCall}
    {index : Nat}
    {caller : PortCaller}
    {result : Result ReadValue}
    (found :
      (tdTelegramService.state calls).callers[index]? = some caller)
    (returned :
      (tdTelegramService.state calls).result? caller = some result) :
    PortOutcome calls index caller result := by
  obtain ⟨first, lookUp⟩ := lookUp_run found
  have isFound := lookUp.found
  cases place : caller.place with
  | found account? =>
      rw [place] at isFound
      cases account? with
      | none =>
          simp only [TdTelegramService.result?, place,
            Option.some.injEq] at returned
          subst returned
          exact .notRunning lookUp isFound
      | some address =>
          simp only [TdTelegramService.result?, place] at returned
          cases returned
  | inside address position =>
      rw [place] at isFound
      have reads : ReadsAs calls index caller address position := {
        attached := ⟨first, lookUp, isFound⟩
        place := place
        alone := fun other otherCaller isOther there =>
          (sound_run calls).apart other index otherCaller caller address
            position isOther found there place }
      have outcome := readOutcome_of_inside found place returned
      cases result with
      | value value =>
          exact .value reads outcome.yields
      | error message =>
          exact .error reads outcome.failure

/-- Steps of the account at one address. -/
def accountSteps
    (address : Nat)
    (calls : List TdReadingCall) : List TdTelegramServiceCall :=
  calls.map (.account address)

/-- A call lists the chats of an account that is detached while it reads. -/
def detachedReading : List TdTelegramServiceCall :=
  [.makeAccount] ++ accountSteps 0 authorizedReading ++
    [.attach (bytes "work") (some 0),
      .lookUp (bytes "work") .listChats,
      .detach (bytes "work"),
      .lookUp (bytes "work") .listChats,
      .enter 0] ++
    accountSteps 0
      ([.read 0, .read 0] ++ receivedAnswer 2 (.chats [5]) ++
        [.read 0, .read 0] ++
        receivedAnswer 3 (.chat 5 (bytes "Team")) ++ [.read 0])

set_option maxRecDepth 2000 in
theorem callers_detachedReading :
    (tdTelegramService.state detachedReading).callers[0]? =
      some {
        accountId := bytes "work"
        call := .listChats
        place := .inside 0 0 } :=
  rfl

set_option maxRecDepth 2000 in
theorem result?_detachedReading :
    (tdTelegramService.state detachedReading).result? {
        accountId := bytes "work"
        call := .listChats
        place := .inside 0 0 } =
      some (.value (.chats [{ id := 5, title := bytes "Team" }])) :=
  rfl

theorem port_calls_return_their_answers_detached :
    PortOutcome detachedReading 0 {
        accountId := bytes "work"
        call := .listChats
        place := .inside 0 0 }
      (.value (.chats [{ id := 5, title := bytes "Team" }])) :=
  port_calls_return_their_answers callers_detachedReading
    result?_detachedReading

end TgGate
