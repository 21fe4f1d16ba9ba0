import TgGate.Library.ByteString

namespace TgGate

open Library

/-!
# The policy engine

An invocation is judged against the profile of the client that makes it.  The
engine has no state.  `PolicyEngine.evaluate` is the source's chain of checks;
`Listed` says what the chain asks for, and `effect_evaluate` relates the two.
-/

/-- What the policy decides about one invocation. -/
inductive PolicyEffect where
  | deny
  | allow
  | requireApproval
  deriving Repr, DecidableEq

/-- How a profile treats write operations. -/
inductive WritePolicy where
  | deny
  | requireApproval
  | autoApprove
  deriving Repr, DecidableEq

/-- One tool call as the policy sees it. -/
structure ToolInvocation where
  toolName : Bytes
  accountId : Bytes
  chatId : Option Int64 := none
  isWrite : Bool := false
  deriving Repr, DecidableEq

/-- The configured permissions of one MCP client. -/
structure McpClientProfile where
  id : Bytes
  displayName : Bytes := []
  enabled : Bool := true
  allowedAccounts : List Bytes := []
  allowedTools : List Bytes := []
  allowedChats : List Int64 := []
  writePolicy : WritePolicy := .deny
  deriving Repr, DecidableEq

/-- An effect together with the reason shown to the client. -/
structure PolicyDecision where
  effect : PolicyEffect := .deny
  reason : Bytes := bytes "No matching policy rule"
  deriving Repr, DecidableEq

/-- Only an outright `allow` is allowed. -/
def PolicyDecision.isAllowed (decision : PolicyDecision) : Bool :=
  decision.effect = .allow

/-- The policy interface used by the services. -/
structure IPolicyEngine where
  evaluate : McpClientProfile → ToolInvocation → PolicyDecision

/-- Linear search in an allowlist. -/
def contains
    {Value : Type}
    [DecidableEq Value]
    (values : List Value)
    (value : Value) : Bool :=
  value ∈ values

@[simp] theorem contains_eq_true
    {Value : Type}
    [DecidableEq Value]
    {values : List Value}
    {value : Value} :
    contains values value = true ↔ value ∈ values := by
  simp [contains]

namespace PolicyEngine

/-- The source's decision chain, one check after the other. -/
def evaluate
    (profile : McpClientProfile)
    (invocation : ToolInvocation) : PolicyDecision :=
  if !profile.enabled then
    { effect := .deny
      reason := bytes "Client profile is disabled" }
  else if !contains profile.allowedAccounts invocation.accountId then
    { effect := .deny
      reason := bytes "Account is not allowed for this client" }
  else if !contains profile.allowedTools invocation.toolName then
    { effect := .deny
      reason := bytes "Tool is not allowed for this client" }
  else if invocation.chatId.any
      fun chatId => !contains profile.allowedChats chatId then
    { effect := .deny
      reason := bytes "Chat is not allowlisted for this client" }
  else if !invocation.isWrite then
    { effect := .allow
      reason := bytes "Read operation is allowed" }
  else
    match profile.writePolicy with
    | .autoApprove =>
        { effect := .allow
          reason := bytes "Write operation is explicitly auto-approved" }
    | .requireApproval =>
        { effect := .requireApproval
          reason := bytes "Write operation requires local approval" }
    | .deny =>
        { effect := .deny
          reason := bytes "Write operations are denied" }

end PolicyEngine

/-- The production engine. -/
def policyEngine : IPolicyEngine where
  evaluate := PolicyEngine.evaluate

/-- The profile is enabled and lists the account, the tool and any chat. -/
structure Listed
    (profile : McpClientProfile)
    (invocation : ToolInvocation) : Prop where
  enabled :
    profile.enabled = true
  account :
    invocation.accountId ∈ profile.allowedAccounts
  tool :
    invocation.toolName ∈ profile.allowedTools
  chat :
    ∀ chatId ∈ invocation.chatId, chatId ∈ profile.allowedChats

/-- The effect of a listed write. -/
def WritePolicy.effect : WritePolicy → PolicyEffect
  | .deny => .deny
  | .requireApproval => .requireApproval
  | .autoApprove => .allow

namespace PolicyEngine

/-- An unlisted invocation is denied whichever check fails first. -/
theorem effect_evaluate_of_not_listed
    {profile : McpClientProfile}
    {invocation : ToolInvocation}
    (unlisted : ¬ Listed profile invocation) :
    (evaluate profile invocation).effect = .deny := by
  by_cases enabled : profile.enabled = true
  · by_cases account : invocation.accountId ∈ profile.allowedAccounts
    · by_cases tool : invocation.toolName ∈ profile.allowedTools
      · have outside :
            ∃ chatId ∈ invocation.chatId,
              chatId ∉ profile.allowedChats := by
          by_contra every
          push Not at every
          exact unlisted ⟨enabled, account, tool, every⟩
        rcases outside with ⟨chatId, given, outsideList⟩
        simp only [Option.mem_def] at given
        simp [evaluate, contains, enabled, account, tool, given,
          outsideList]
      · simp [evaluate, contains, enabled, account, tool]
    · simp [evaluate, contains, enabled, account]
  · simp [evaluate, enabled]

/-- A listed read is allowed and a listed write follows the write policy. -/
theorem effect_evaluate_of_listed
    {profile : McpClientProfile}
    {invocation : ToolInvocation}
    (listed : Listed profile invocation) :
    (evaluate profile invocation).effect =
      if invocation.isWrite then
        profile.writePolicy.effect
      else
        .allow := by
  have chatListed :
      (invocation.chatId.any
        fun chatId => !contains profile.allowedChats chatId) = false := by
    cases given : invocation.chatId with
    | none =>
        rfl
    | some chatId =>
        simpa using listed.chat chatId given
  have accountListed :=
    contains_eq_true.mpr listed.account
  have toolListed :=
    contains_eq_true.mpr listed.tool
  cases write : invocation.isWrite with
  | false =>
      simp [evaluate, listed.enabled, accountListed, toolListed,
        chatListed, write]
  | true =>
      cases policy : profile.writePolicy <;>
        simp [evaluate, listed.enabled, accountListed, toolListed,
          chatListed, write, policy, WritePolicy.effect]

end PolicyEngine

/-- The production policy denies what a profile does not list. -/
theorem listed_of_permitted
    {profile : McpClientProfile}
    {invocation : ToolInvocation}
    (permitted :
      (policyEngine.evaluate profile invocation).effect ≠ .deny) :
    Listed profile invocation := by
  by_contra unlisted
  exact permitted (PolicyEngine.effect_evaluate_of_not_listed unlisted)

/-- The narrowest profile of a client that executes one invocation unasked. -/
def permissiveProfile
    (clientId : Bytes)
    (invocation : ToolInvocation) : McpClientProfile where
  id := clientId
  allowedAccounts := [invocation.accountId]
  allowedTools := [invocation.toolName]
  allowedChats := invocation.chatId.toList
  writePolicy := .autoApprove

/-- No invocation is denied to every profile of a client. -/
theorem effect_evaluate_permissiveProfile
    (clientId : Bytes)
    (invocation : ToolInvocation) :
    (PolicyEngine.evaluate
      (permissiveProfile clientId invocation) invocation).effect =
        .allow := by
  have listed :
      Listed (permissiveProfile clientId invocation) invocation := by
    refine ⟨rfl, ?_, ?_, ?_⟩
    · simp [permissiveProfile]
    · simp [permissiveProfile]
    · intro chatId given
      simpa [permissiveProfile] using given
  rw [PolicyEngine.effect_evaluate_of_listed listed]
  split <;> rfl

end TgGate
