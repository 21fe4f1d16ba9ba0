import TgGate.TelegramApplication

namespace TgGate

open Library

/-!
# The operator's desktop

`DesktopUiState` owns the application service, so what the operator decides and
what the clients request meet in one approval store.  The controller draws one
row for each listed action.  It hands every text to a `%s` conversion and
therefore draws it only up to its first NUL byte.
-/

/-- One listed action as the view model presents it. -/
structure PendingActionRow where
  id : Bytes
  clientId : Bytes
  accountId : Bytes
  toolName : Bytes
  recipient : Bytes
  text : Bytes

namespace PendingActionsViewModel

/-- The row of one action; reading the text may throw. -/
def row (action : PendingAction) : Except Exception PendingActionRow :=
  match action.arguments.valueOr (bytes "text") Json.getString [] with
  | .error thrown => .error (.json thrown)
  | .ok text =>
      .ok {
        id := action.id
        clientId := action.clientId
        accountId := action.invocation.accountId
        toolName := action.invocation.toolName
        recipient :=
          match action.invocation.chatId with
          | some chatId => toDecimal chatId.toInt
          | none => bytes "—"
        text := text
      }

/-- The rows of all listed actions. -/
def rows
    (approvals : ApprovalService) :
    Except Exception (List PendingActionRow) :=
  approvals.pendingActions.mapM row

/-- Report whether the approval succeeded. -/
def approve
    (approvals : ApprovalService)
    (now : TimePoint)
    (actionId : Bytes) : Bool × ApprovalService :=
  let (action, approvals) := approvals.approve now actionId
  (action.isSome, approvals)

/-- Report whether the denial succeeded. -/
def deny
    (approvals : ApprovalService)
    (now : TimePoint)
    (actionId : Bytes) : Bool × ApprovalService :=
  let (action, approvals) := approvals.deny now actionId
  (action.isSome, approvals)

end PendingActionsViewModel

/-- The state behind the desktop. -/
structure DesktopUiState where
  service : TelegramApplicationService := {}
  lockdownActive : Bool := false

namespace DesktopUiState

/-- Replace the approval store. -/
def setApprovals
    (desktop : DesktopUiState)
    (approvals : ApprovalService) : DesktopUiState :=
  { desktop with
    service := { desktop.service with approvals := approvals } }

/-- The rows the controller draws. -/
def pendingActions
    (desktop : DesktopUiState) :
    Except Exception (List PendingActionRow) :=
  PendingActionsViewModel.rows desktop.service.approvals

/-- The button "Approve once". -/
def approve
    (desktop : DesktopUiState)
    (now : TimePoint)
    (actionId : Bytes) : Bool × DesktopUiState :=
  let (accepted, approvals) :=
    PendingActionsViewModel.approve desktop.service.approvals now actionId
  (accepted, desktop.setApprovals approvals)

/-- The button "Deny". -/
def deny
    (desktop : DesktopUiState)
    (now : TimePoint)
    (actionId : Bytes) : Bool × DesktopUiState :=
  let (accepted, approvals) :=
    PendingActionsViewModel.deny desktop.service.approvals now actionId
  (accepted, desktop.setApprovals approvals)

/-- The button "LOCKDOWN". -/
def lockdown (desktop : DesktopUiState) : DesktopUiState :=
  { desktop.setApprovals desktop.service.approvals.lockdown with
    lockdownActive := true }

/-- What the operator is told during a lockdown. -/
def lockdownStatus : Bytes :=
  bytes "LOCKDOWN — all write approvals are denied"

/-- The server status line; `hostStatus` is what the MCP host reports. -/
def serverStatus
    (desktop : DesktopUiState)
    (hostStatus : Bytes) : Bytes :=
  if desktop.lockdownActive then
    lockdownStatus
  else
    hostStatus

end DesktopUiState

/-- The texts drawn for one action. -/
structure DrawnAction where
  clientId : Bytes
  accountId : Bytes
  recipient : Bytes
  text : Bytes
  deriving DecidableEq

namespace DesktopController

/-- Every text of a row passes through `c_str()`. -/
def drawPendingAction (row : PendingActionRow) : DrawnAction where
  clientId := cString row.clientId
  accountId := cString row.accountId
  recipient := cString row.recipient
  text := cString row.text

/-- All drawn actions, each with the id its buttons act on. -/
def drawPendingActions
    (desktop : DesktopUiState) :
    Except Exception (List (Bytes × DrawnAction)) :=
  match desktop.pendingActions with
  | .error thrown => .error thrown
  | .ok rows =>
      .ok (rows.map fun row => (row.id, drawPendingAction row))

end DesktopController

namespace DesktopController

/-- An entry is drawn for a listed action with a readable text. -/
theorem mem_drawPendingActions_iff
    {desktop : DesktopUiState}
    {entries : List (Bytes × DrawnAction)}
    (drawn : drawPendingActions desktop = .ok entries)
    {entry : Bytes × DrawnAction} :
    entry ∈ entries ↔
      ∃ action ∈ desktop.service.approvals.pendingActions, ∃ row,
        PendingActionsViewModel.row action = .ok row ∧
          entry = (row.id, drawPendingAction row) := by
  unfold drawPendingActions DesktopUiState.pendingActions
    PendingActionsViewModel.rows at drawn
  cases shape :
      desktop.service.approvals.pendingActions.mapM
        PendingActionsViewModel.row with
  | error thrown =>
      rw [shape] at drawn
      cases drawn
  | ok rows =>
      rw [shape] at drawn
      cases drawn
      rw [List.mem_map]
      constructor
      · rintro ⟨row, member, rfl⟩
        obtain ⟨action, listed, isRow⟩ :=
          (mem_of_mapM_eq_ok shape).mp member
        exact ⟨action, listed, row, isRow, rfl⟩
      · rintro ⟨action, listed, row, isRow, rfl⟩
        exact ⟨row, (mem_of_mapM_eq_ok shape).mpr
          ⟨action, listed, isRow⟩, rfl⟩

end DesktopController

end TgGate
