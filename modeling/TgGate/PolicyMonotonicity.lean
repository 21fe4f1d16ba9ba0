import Mathlib.Data.List.Basic
import Mathlib.Order.Basic
import TgGate.ChatAllowlist

namespace TgGate

open Library

/-!
# Narrowing a profile

Effects and write policies are ordered by how much they permit.  A profile that
lists less and has a stricter write policy is `Narrower`; it gets a smaller
effect for every invocation and sees fewer of the listed chats.
-/

/-- How much an effect permits. -/
def PolicyEffect.rank : PolicyEffect → Nat
  | .deny => 0
  | .requireApproval => 1
  | .allow => 2

/-- How much a write policy permits. -/
def WritePolicy.rank : WritePolicy → Nat
  | .deny => 0
  | .requireApproval => 1
  | .autoApprove => 2

/-- Denied, then allowed after approval, then allowed at once. -/
instance : Preorder PolicyEffect :=
  Preorder.lift PolicyEffect.rank

/-- Denied, then executed after approval, then executed at once. -/
instance : Preorder WritePolicy :=
  Preorder.lift WritePolicy.rank

/-- Effects are compared by their rank. -/
theorem PolicyEffect.le_iff_rank
    {effect other : PolicyEffect} :
    effect ≤ other ↔ effect.rank ≤ other.rank :=
  Iff.rfl

/-- Write policies are compared by their rank. -/
theorem WritePolicy.le_iff_rank
    {policy other : WritePolicy} :
    policy ≤ other ↔ policy.rank ≤ other.rank :=
  Iff.rfl

/-- Nothing is below a denial. -/
theorem PolicyEffect.deny_le (effect : PolicyEffect) :
    PolicyEffect.deny ≤ effect :=
  PolicyEffect.le_iff_rank.mpr (Nat.zero_le _)

/-- The effect of a listed write has the rank of the write policy. -/
@[simp] theorem WritePolicy.rank_effect (policy : WritePolicy) :
    policy.effect.rank = policy.rank := by
  cases policy <;> rfl

/-- The first profile lists nothing that the second does not permit. -/
structure McpClientProfile.Narrower
    (narrow wide : McpClientProfile) : Prop where
  enabled :
    narrow.enabled = true → wide.enabled = true
  accounts :
    narrow.allowedAccounts ⊆ wide.allowedAccounts
  tools :
    narrow.allowedTools ⊆ wide.allowedTools
  chats :
    narrow.allowedChats ⊆ wide.allowedChats
  writePolicy :
    narrow.writePolicy ≤ wide.writePolicy

/-- What the narrower profile lists is listed by the wider one. -/
theorem Listed.of_narrower
    {narrow wide : McpClientProfile}
    {invocation : ToolInvocation}
    (listed : Listed narrow invocation)
    (narrower : narrow.Narrower wide) :
    Listed wide invocation where
  enabled := narrower.enabled listed.enabled
  account := narrower.accounts listed.account
  tool := narrower.tools listed.tool
  chat chatId given := narrower.chats (listed.chat chatId given)

/-- A narrower profile gets at most the effect of the wider one. -/
theorem PolicyEngine.effect_evaluate_le
    {narrow wide : McpClientProfile}
    (narrower : narrow.Narrower wide)
    (invocation : ToolInvocation) :
    (PolicyEngine.evaluate narrow invocation).effect ≤
      (PolicyEngine.evaluate wide invocation).effect := by
  by_cases listed : Listed narrow invocation
  · rw [PolicyEngine.effect_evaluate_of_listed listed,
      PolicyEngine.effect_evaluate_of_listed
        (listed.of_narrower narrower)]
    cases invocation.isWrite with
    | false =>
        exact le_refl _
    | true =>
        simp only [↓reduceIte, PolicyEffect.le_iff_rank,
          WritePolicy.rank_effect]
        exact WritePolicy.le_iff_rank.mp narrower.writePolicy
  · rw [PolicyEngine.effect_evaluate_of_not_listed listed]
    exact PolicyEffect.deny_le _

/-- The response reports success. -/
def RespondsOk (response : Json) : Prop :=
  response.find? (bytes "ok") = some (.boolean true)

/-- The chats that the backend returns and the profile lists. -/
def shownChats
    (profile : McpClientProfile)
    (chats : List Chat) : List Chat :=
  chats.filter fun chat =>
    contains profile.allowedChats chat.id

/-- The narrower profile is shown fewer chats, in the same order. -/
theorem shownChats_sublist
    {narrow wide : McpClientProfile}
    (narrower : narrow.Narrower wide)
    (chats : List Chat) :
    List.Sublist (shownChats narrow chats) (shownChats wide chats) := by
  refine List.monotone_filter_right chats fun chat allowed => ?_
  rw [contains_eq_true] at allowed ⊢
  exact narrower.chats allowed

namespace TelegramApplicationService

/-- A successful listing shows the listed chats that the backend returned. -/
theorem responseItems_listChats
    {service : TelegramApplicationService}
    {engine : IPolicyEngine}
    {environment : Environment}
    {profile : McpClientProfile}
    {accountId : Bytes}
    {response : Json}
    (answered :
      (service.listChats engine environment profile accountId).1 =
        .ok response)
    (succeeded : RespondsOk response) :
    ∃ chats,
      environment.telegram.listChats accountId = .ok (.value chats) ∧
        responseItems response (bytes "chats") =
          (shownChats profile chats).map chatJson := by
  have failed (message : Bytes) : ¬ RespondsOk (error message) := by
    simp [RespondsOk, error]
  simp only [listChats] at answered
  split at answered
  · obtain rfl := Except.ok.inj answered
    exact absurd succeeded (failed _)
  · split at answered
    · cases answered
    · obtain rfl := Except.ok.inj answered
      exact absurd succeeded (failed _)
    · next chats returned =>
        obtain rfl := Except.ok.inj answered
        refine ⟨chats, returned, ?_⟩
        simp [responseItems, shownChats]

/-- Two successful listings of one backend result are ordered. -/
theorem responseItems_listChats_sublist
    {narrow wide : McpClientProfile}
    (narrower : narrow.Narrower wide)
    {service other : TelegramApplicationService}
    {environment otherEnvironment : Environment}
    {accountId : Bytes}
    (sameBackend :
      environment.telegram.listChats accountId =
        otherEnvironment.telegram.listChats accountId)
    {response otherResponse : Json}
    (answered :
      (service.listChats policyEngine environment narrow accountId).1 =
        .ok response)
    (otherAnswered :
      (other.listChats policyEngine otherEnvironment wide accountId).1 =
        .ok otherResponse)
    (succeeded : RespondsOk response)
    (otherSucceeded : RespondsOk otherResponse) :
    List.Sublist
      (responseItems response (bytes "chats"))
      (responseItems otherResponse (bytes "chats")) := by
  obtain ⟨chats, returned, items⟩ :=
    responseItems_listChats answered succeeded
  obtain ⟨otherChats, otherReturned, otherItems⟩ :=
    responseItems_listChats otherAnswered otherSucceeded
  rw [sameBackend, otherReturned] at returned
  obtain rfl : otherChats = chats := by
    simpa using returned
  rw [items, otherItems]
  exact (shownChats_sublist narrower otherChats).map chatJson

/--
Narrowing a profile never grants anything: no invocation gets a larger effect,
and a listing of the same backend result shows a subsequence of the chats.
-/
theorem narrower_grants_nothing
    {narrow wide : McpClientProfile}
    (narrower : narrow.Narrower wide) :
    (∀ invocation,
      (PolicyEngine.evaluate narrow invocation).effect ≤
        (PolicyEngine.evaluate wide invocation).effect) ∧
    ∀ (service other : TelegramApplicationService)
      (environment otherEnvironment : Environment)
      (accountId : Bytes)
      (response otherResponse : Json),
      environment.telegram.listChats accountId =
          otherEnvironment.telegram.listChats accountId →
      (service.listChats policyEngine environment narrow accountId).1 =
          .ok response →
      (other.listChats policyEngine otherEnvironment wide
          accountId).1 =
          .ok otherResponse →
      RespondsOk response →
      RespondsOk otherResponse →
      List.Sublist
        (responseItems response (bytes "chats"))
        (responseItems otherResponse (bytes "chats")) := by
  refine ⟨PolicyEngine.effect_evaluate_le narrower, ?_⟩
  intro service other environment otherEnvironment accountId response
    otherResponse sameBackend answered otherAnswered succeeded
    otherSucceeded
  exact responseItems_listChats_sublist narrower sameBackend answered
    otherAnswered succeeded otherSucceeded

/-- A client that may list two chats and write unasked. -/
def chatLister : McpClientProfile where
  id := bytes "lister"
  allowedAccounts := [bytes "work"]
  allowedTools :=
    [bytes "telegram_list_chats", bytes "telegram_prepare_send_message"]
  allowedChats := [42, 7]
  writePolicy := .autoApprove

/-- The same client, narrowed to one chat and to approved writes. -/
def narrowChatLister : McpClientProfile :=
  { chatLister with
    allowedChats := [7]
    writePolicy := .requireApproval }

theorem narrower_narrowChatLister :
    narrowChatLister.Narrower chatLister where
  enabled := id
  accounts := List.Subset.refl _
  tools := List.Subset.refl _
  chats := by
    simp [narrowChatLister, chatLister]
  writePolicy := WritePolicy.le_iff_rank.mpr (by decide)

/-- A backend with the two chats and one more. -/
def threeChats : ITelegramService where
  listChats _ :=
    .ok (.value
      [{ id := 42, title := bytes "Team" },
        { id := 9, title := bytes "Family" },
        { id := 7, title := bytes "News" }])
  getMessages := unavailableTelegramService.getMessages
  sendMessage := unavailableTelegramService.sendMessage

theorem narrower_grants_nothing_chatLister :
    (PolicyEngine.evaluate narrowChatLister
          (sendInvocation (bytes "work") 42)).effect ≤
        (PolicyEngine.evaluate chatLister
          (sendInvocation (bytes "work") 42)).effect ∧
      List.Sublist
        [chatJson { id := 7, title := bytes "News" }]
        [chatJson { id := 42, title := bytes "Team" },
          chatJson { id := 7, title := bytes "News" }] := by
  obtain ⟨effects, listings⟩ :=
    narrower_grants_nothing narrower_narrowChatLister
  exact ⟨effects _,
    listings {} {} { telegram := threeChats }
      { telegram := threeChats } (bytes "work") _ _ rfl rfl rfl rfl
      rfl⟩

end TelegramApplicationService

end TgGate
