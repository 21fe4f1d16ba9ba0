import TgGate.DesktopAccounts
import TgGate.Library.Machine
import TgGate.Library.UnorderedMap

namespace TgGate

open Library AccountRepository

/-!
# Codes and passwords on the account rows

The controller draws one row for each account, with a field for a code or a
password when the account's own status asks for it.  The submission itself
carries no account: `DesktopUiState` passes it to the account of the latest
accepted start.

A TDLib account is represented by its authorization status, kept under the id
it is attached for.
-/

/-- One account as it is drawn. -/
structure AccountRow where
  id : Bytes
  displayName : Bytes
  authorizationStatus : Bytes
  hasApiCredentials : Bool

/-- What the operator can submit on a row. -/
inductive AccountField where
  | code
  | password
  deriving Repr, DecidableEq

namespace AccountField

/-- The status under which the controller draws the field. -/
def status : AccountField → Bytes
  | .code => bytes "Waiting for authentication code"
  | .password => bytes "Waiting for 2FA password"

/-- The size of the text buffer, with its terminator. -/
def bufferSize : AccountField → Nat
  | .code => 32
  | .password => 128

/-- What the buffer holds of a typed text. -/
def entered (field : AccountField) (typed : Bytes) : Bytes :=
  cString (typed.take (field.bufferSize - 1))

end AccountField

/-- The desktop with the statuses of its TDLib accounts. -/
structure DesktopSession where
  store : AccountStore
  attached : UnorderedMap Bytes Bytes := ∅
  activeAccountId : Bytes := []
  /-- The rows of the frame that is being drawn. -/
  rows : List AccountRow := []

/-- One step of the desktop. -/
inductive RowCall (World : Type) where
  /-- The next frame asks for the rows. -/
  | draw
  /-- "Start authorization" on a row. -/
  | start (index : Nat) (request : StartRequest World) (threadStarts : Bool)
  /-- "Submit code" or "Submit 2FA" on a row. -/
  | submit (index : Nat) (field : AccountField) (typed : Bytes)
  /-- The status of a running account changes. -/
  | update (accountId status : Bytes)

/-- What a step does. -/
inductive RowEvent where
  | nothing
  | started (accountId : Bytes)
  | delivered (row : AccountRow) (receiver : Bytes) (text : Bytes)

namespace DesktopSession

/-- `DesktopUiState::accounts`. -/
def accounts (session : DesktopSession) : List AccountRow :=
  session.store.accounts.map fun account : AccountConfiguration => {
    id := account.id
    displayName := account.displayName
    authorizationStatus :=
      (session.attached.lookup account.id).getD (bytes "Not started")
    hasApiCredentials :=
      decide (0 < account.apiId) && !account.apiHashDpapi.isEmpty
  }

/-- The row draws the field. -/
def shows (row : AccountRow) (field : AccountField) : Bool :=
  row.authorizationStatus = field.status

/-- Attach a started account and make it the active one. -/
def attach (accountId : Bytes) (session : DesktopSession) :
    DesktopSession :=
  { session with
    attached := session.attached.insert accountId (bytes "Starting TDLib")
    activeAccountId := accountId }

/-- `start_authorization`. -/
def startAuthorization
    {World : Type}
    (platform : Platform World)
    (request : StartRequest World)
    (threadStarts : Bool)
    (session : DesktopSession) : DesktopSession × RowEvent :=
  let (prepared, store) :=
    session.store.prepareAuthorization platform request
  let session := { session with store := store }
  match prepared with
  | .error _ => (session, .nothing)
  | .ok options =>
      if options.isComplete && threadStarts then
        (session.attach options.accountId, .started options.accountId)
      else
        (session, .nothing)

/-- `submit_authentication_code` and `submit_authentication_password`. -/
def submitAuthentication
    (row : AccountRow)
    (text : Bytes)
    (session : DesktopSession) : RowEvent :=
  match session.attached.lookup session.activeAccountId with
  | none => .nothing
  | some _ => .delivered row session.activeAccountId text

/-- One step; a button that is not drawn cannot be pressed. -/
def advance
    {World : Type}
    (platform : Platform World)
    (session : DesktopSession) :
    RowCall World → DesktopSession × RowEvent
  | .draw => ({ session with rows := session.accounts }, .nothing)
  | .start index request threadStarts =>
      match session.rows[index]? with
      | none => (session, .nothing)
      | some row =>
          session.startAuthorization platform
            { request with accountId := row.id } threadStarts
  | .submit index field typed =>
      match session.rows[index]? with
      | none => (session, .nothing)
      | some row =>
          if shows row field then
            (session, session.submitAuthentication row
              (field.entered typed))
          else
            (session, .nothing)
  | .update accountId status =>
      if accountId ∈ session.attached then
        ({ session with
          attached := session.attached.insert accountId status },
          .nothing)
      else
        (session, .nothing)

end DesktopSession

/-- The desktop from the start of the process. -/
def rowMachine
    {World : Type}
    (library : DocumentLibrary)
    (platform : Platform World)
    (file : Option Json) :
    Machine DesktopSession (RowCall World) RowEvent where
  initial := { store := AccountStore.load library file }
  step := DesktopSession.advance platform

/-- What is delivered reaches the account of the row. -/
def RowEvent.ReachesRow (event : RowEvent) : Prop :=
  ∀ row receiver text,
    event = .delivered row receiver text →
    receiver = row.id

/-- The account that an event starts. -/
def RowEvent.startedAccount : RowEvent → Option Bytes
  | .started accountId => some accountId
  | _ => none

/-- The account of the latest accepted start. -/
def latestStarted
    {World : Type}
    (history : List (Event (RowCall World) RowEvent)) : Option Bytes :=
  (history.filterMap fun event => event.output.startedAccount).getLast?

/-- A submission is made on the row of the latest accepted start. -/
def SubmitsOnLatest
    {World : Type}
    (session : DesktopSession)
    (latest : Option Bytes)
    (call : RowCall World) : Prop :=
  ∀ index field typed row,
    call = .submit index field typed →
    session.rows[index]? = some row →
    DesktopSession.shows row field = true →
    latest = some row.id

section Rows

variable {World : Type}

theorem latestStarted_snoc
    (history : List (Event (RowCall World) RowEvent))
    (event : Event (RowCall World) RowEvent) :
    latestStarted (history ++ [event]) =
      event.output.startedAccount.or (latestStarted history) := by
  unfold latestStarted
  rw [List.filterMap_append]
  cases started : event.output.startedAccount <;> simp [started]

/-- How the active account and the rows relate to the accepted starts. -/
structure FollowsStarts
    (session : DesktopSession)
    (latest : Option Bytes) : Prop where
  active :
    ∀ accountId,
      latest = some accountId →
      session.activeAccountId = accountId ∧
        accountId ∈ session.attached
  idle : latest = none → ∀ accountId, accountId ∉ session.attached
  drawn :
    latest = none →
    ∀ row ∈ session.rows, row.authorizationStatus = bytes "Not started"

variable {session : DesktopSession} {latest : Option Bytes}

/-- Steps that start nothing and attach nothing new. -/
theorem followsStarts_of_same
    {after : DesktopSession}
    (follows : FollowsStarts session latest)
    (sameActive : after.activeAccountId = session.activeAccountId)
    (sameAttached :
      ∀ accountId,
        accountId ∈ after.attached ↔ accountId ∈ session.attached)
    (drawn :
      latest = none →
      ∀ row ∈ after.rows,
        row.authorizationStatus = bytes "Not started") :
    FollowsStarts after latest where
  active accountId isLatest := by
    rw [sameActive, sameAttached]
    exact follows.active accountId isLatest
  idle noStart accountId := by
    rw [sameAttached]
    exact follows.idle noStart accountId
  drawn := drawn

/-- Before any start every row is drawn as not started. -/
theorem drawn_accounts
    (follows : FollowsStarts session latest)
    (noStart : latest = none) :
    ∀ row ∈ session.accounts,
      row.authorizationStatus = bytes "Not started" := by
  intro row member
  obtain ⟨account, -, rfl⟩ := List.mem_map.mp member
  have absent : session.attached.lookup account.id = none :=
    AList.lookup_eq_none.mpr (follows.idle noStart account.id)
  simp [absent]

theorem followsStarts_startAuthorization
    (platform : Platform World)
    (request : StartRequest World)
    (threadStarts : Bool)
    (follows : FollowsStarts session latest) :
    FollowsStarts
      (session.startAuthorization platform request threadStarts).1
      ((session.startAuthorization platform request
        threadStarts).2.startedAccount.or latest) := by
  unfold DesktopSession.startAuthorization
  rcases session.store.prepareAuthorization platform request with
    ⟨interruption | options, store⟩
  · exact ⟨follows.active, follows.idle, follows.drawn⟩
  · simp only
    split
    · refine ⟨?_, by simp [RowEvent.startedAccount],
        by simp [RowEvent.startedAccount]⟩
      intro accountId isLatest
      simp only [RowEvent.startedAccount, Option.some_or,
        Option.some.injEq] at isLatest
      subst accountId
      exact ⟨rfl, by simp [DesktopSession.attach]⟩
    · exact ⟨follows.active, follows.idle, follows.drawn⟩

theorem followsStarts_advance
    (platform : Platform World)
    (call : RowCall World)
    (follows : FollowsStarts session latest) :
    FollowsStarts (session.advance platform call).1
      ((session.advance platform call).2.startedAccount.or latest) := by
  cases call with
  | draw =>
      exact followsStarts_of_same follows rfl (fun _ => Iff.rfl)
        (drawn_accounts follows)
  | start index request threadStarts =>
      cases drawn : session.rows[index]? with
      | none =>
          simpa [DesktopSession.advance, drawn,
            RowEvent.startedAccount] using follows
      | some row =>
          simpa [DesktopSession.advance, drawn] using
            followsStarts_startAuthorization platform
              { request with accountId := row.id } threadStarts follows
  | submit index field typed =>
      have started :
          (session.advance platform
            (.submit index field typed)).2.startedAccount = none := by
        unfold DesktopSession.advance DesktopSession.submitAuthentication
        simp only
        split
        · rfl
        · split
          · split <;> rfl
          · rfl
      have unchanged :
          (session.advance platform (.submit index field typed)).1 =
            session := by
        unfold DesktopSession.advance
        simp only
        split
        · rfl
        · split <;> rfl
      rw [started, unchanged, Option.none_or]
      exact follows
  | update accountId status =>
      unfold DesktopSession.advance
      simp only
      split
      · next isAttached =>
          refine followsStarts_of_same follows rfl (fun other => ?_)
            follows.drawn
          rw [AList.mem_insert]
          constructor
          · rintro (rfl | member)
            · exact isAttached
            · exact member
          · exact .inr
      · exact follows

/-- A submission that the row allows goes to the latest accepted start. -/
theorem reachesRow_submit_iff
    (follows : FollowsStarts session latest)
    (platform : Platform World)
    {index : Nat}
    {field : AccountField}
    {typed : Bytes}
    {row : AccountRow}
    (drawn : session.rows[index]? = some row)
    (shown : DesktopSession.shows row field = true) :
    (session.advance platform
        (.submit index field typed)).2.ReachesRow ↔
      latest = some row.id := by
  have notIdle : latest ≠ none := by
    intro noStart
    have status := follows.drawn noStart row (List.mem_of_getElem? drawn)
    unfold DesktopSession.shows at shown
    rw [decide_eq_true_eq, status] at shown
    cases field <;> simp [AccountField.status] at shown
  obtain ⟨accountId, isLatest⟩ := Option.ne_none_iff_exists'.mp notIdle
  obtain ⟨rfl, isAttached⟩ := follows.active accountId isLatest
  obtain ⟨status, found⟩ :=
    Option.isSome_iff_exists.mp (AList.lookup_isSome.mpr isAttached)
  have delivers :
      (session.advance platform (.submit index field typed)).2 =
        .delivered row session.activeAccountId
          (field.entered typed) := by
    simp [DesktopSession.advance, drawn, shown,
      DesktopSession.submitAuthentication, found]
  rw [delivers, isLatest, Option.some.injEq]
  constructor
  · intro reaches
    exact reaches row session.activeAccountId _ rfl
  · intro isRow shownRow receiver text shape
    obtain ⟨rfl, rfl, -⟩ := RowEvent.delivered.inj shape
    exact isRow

/-- Only a submission that its row allows delivers anything. -/
theorem reachesRow_of_not_submit
    (platform : Platform World)
    (call : RowCall World)
    (silent :
      ∀ index field typed row,
        call = .submit index field typed →
        session.rows[index]? = some row →
        DesktopSession.shows row field ≠ true) :
    (session.advance platform call).2.ReachesRow := by
  intro row receiver text delivered
  cases call with
  | draw =>
      cases delivered
  | start index request threadStarts =>
      unfold DesktopSession.advance DesktopSession.startAuthorization
        at delivered
      simp only at delivered
      split at delivered
      · cases delivered
      · split at delivered
        · cases delivered
        · split at delivered <;> cases delivered
  | submit index field typed =>
      unfold DesktopSession.advance at delivered
      simp only at delivered
      split at delivered
      · cases delivered
      · next drawn found =>
          rw [if_neg (silent index field typed drawn rfl found)]
            at delivered
          cases delivered
  | update accountId status =>
      unfold DesktopSession.advance at delivered
      simp only at delivered
      split at delivered <;> cases delivered

/-- One step delivers to its row exactly if it submits on the latest one. -/
theorem reachesRow_advance_iff
    (follows : FollowsStarts session latest)
    (platform : Platform World)
    (call : RowCall World) :
    (session.advance platform call).2.ReachesRow ↔
      SubmitsOnLatest session latest call := by
  by_cases silent :
      ∀ index field typed row,
        call = .submit index field typed →
        session.rows[index]? = some row →
        DesktopSession.shows row field ≠ true
  · constructor
    · intro _ index field typed row isSubmit drawn shown
      exact absurd shown (silent index field typed row isSubmit drawn)
    · intro _
      exact reachesRow_of_not_submit platform call silent
  · simp only [not_forall, not_not] at silent
    obtain ⟨index, field, typed, row, rfl, drawn, shown⟩ := silent
    rw [reachesRow_submit_iff follows platform drawn shown]
    constructor
    · intro isLatest other otherField otherTyped otherRow same otherDrawn _
      obtain ⟨rfl, -, -⟩ := RowCall.submit.inj same
      rw [drawn, Option.some.injEq] at otherDrawn
      rw [isLatest, otherDrawn]
    · intro onLatest
      exact onLatest index field typed row rfl drawn shown

/-- In every run the session follows its accepted starts. -/
theorem followsStarts_run
    (library : DocumentLibrary)
    (platform : Platform World)
    (file : Option Json)
    (calls : List (RowCall World)) :
    FollowsStarts ((rowMachine library platform file).state calls)
      (latestStarted
        ((rowMachine library platform file).history calls)) := by
  induction calls using List.reverseRecOn with
  | nil =>
      refine ⟨?_, ?_, ?_⟩
      · intro accountId impossible
        cases impossible
      · intro _ accountId
        exact AList.notMem_empty accountId
      · intro _ row impossible
        cases impossible
  | append_singleton calls call inductionHypothesis =>
      rw [Machine.state_snoc, Machine.history_snoc, latestStarted_snoc]
      exact followsStarts_advance platform call inductionHypothesis

end Rows

/--
Along a run everything that is submitted reaches the account of its row exactly
if it is always submitted on the row of the latest accepted start.
-/
theorem submissions_reach_row_iff
    {World : Type}
    (library : DocumentLibrary)
    (platform : Platform World)
    (file : Option Json)
    (calls : List (RowCall World)) :
    (∀ earlier call,
        earlier ++ [call] <+: calls →
        ((rowMachine library platform file).step
          ((rowMachine library platform file).state earlier)
          call).2.ReachesRow) ↔
      ∀ earlier call,
        earlier ++ [call] <+: calls →
        SubmitsOnLatest
          ((rowMachine library platform file).state earlier)
          (latestStarted
            ((rowMachine library platform file).history earlier))
          call := by
  have stepwise :
      ∀ earlier call,
        ((rowMachine library platform file).step
            ((rowMachine library platform file).state earlier)
            call).2.ReachesRow ↔
          SubmitsOnLatest
            ((rowMachine library platform file).state earlier)
            (latestStarted
              ((rowMachine library platform file).history earlier))
            call :=
    fun earlier call =>
      reachesRow_advance_iff
        (followsStarts_run library platform file earlier) platform call
  constructor
  · intro reaches earlier call isPrefix
    exact (stepwise earlier call).mp (reaches earlier call isPrefix)
  · intro onLatest earlier call isPrefix
    exact (stepwise earlier call).mpr (onLatest earlier call isPrefix)

/-- A second account. -/
def homeAccount : AccountConfiguration where
  id := bytes "home"
  displayName := bytes "Home"
  databaseDirectory := bytes "data/tdlib/home/db"
  filesDirectory := bytes "data/tdlib/home/files"
  apiId := 12345

/--
Both accounts are started, the first one asks for a code, and the operator
submits it on the row of the first one.
-/
def codeForFirstAccount : List (RowCall Unit) := [
  .draw,
  .start 0 workRequest true,
  .start 1 workRequest true,
  .update (bytes "work") AccountField.code.status,
  .draw
]

/-- A code submitted on a row is passed to the account started last. -/
theorem code_reaches_other_account :
    ¬ ∀ (World : Type)
        (library : DocumentLibrary)
        (platform : Platform World)
        (file : Option Json)
        (calls : List (RowCall World))
        (call : RowCall World),
        ((rowMachine library platform file).step
          ((rowMachine library platform file).state calls)
          call).2.ReachesRow := by
  intro reaches
  have submitted :=
    reaches Unit workLibrary plainPlatform
      (some (AccountRepository.document [workAccount, homeAccount]))
      codeForFirstAccount (.submit 0 .code (bytes "12345"))
  have follows :=
    followsStarts_run workLibrary plainPlatform
      (some (AccountRepository.document [workAccount, homeAccount]))
      codeForFirstAccount
  have onLatest :=
    (reachesRow_advance_iff follows plainPlatform _).mp submitted
  have latest :
      latestStarted
          ((rowMachine workLibrary plainPlatform
            (some (AccountRepository.document
              [workAccount, homeAccount]))).history
            codeForFirstAccount) =
        some (bytes "home") := by
    decide +kernel
  have drawn :
      (((rowMachine workLibrary plainPlatform
          (some (AccountRepository.document
            [workAccount, homeAccount]))).state
          codeForFirstAccount).rows[0]?.map fun row =>
            (row.id, DesktopSession.shows row .code)) =
        some (bytes "work", true) := by
    decide +kernel
  obtain ⟨row, found, shape⟩ := Option.map_eq_some_iff.mp drawn
  obtain ⟨isWork, shown⟩ := Prod.mk.inj shape
  have isLatest := onLatest 0 .code (bytes "12345") row rfl found shown
  rw [latest, isWork, Option.some.injEq, bytes_inj] at isLatest
  exact absurd isLatest (by decide)

end TgGate
