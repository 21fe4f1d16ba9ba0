import TgGate.GatewayRuns

namespace TgGate

open Library

/-!
# Every message that leaves was authorized

A message that the gateway sends is traced back to the HTTP request that prepared
it, to the operator's approval and to the HTTP request that asked for its
execution, each at its position in the run.
-/

namespace Gateway

section Origins

variable {World : Type}
variable {setting : GatewaySetting World}
variable {gateway : Gateway}
variable {call : GatewayCall World}

/-- What a step writes is one command on the pipeline. -/
theorem performs_of_write?
    {event : WriteEvent}
    (written :
      (setting.machine.step gateway call).2.write? = some event) :
    gateway.command? setting call = some (.write event.label) ∧
      event =
        (writePipeline setting.policyEngine).eventAt gateway.pipeline
          event.label := by
  cases gateway.writeShape setting call with
  | keeps _ _ silent =>
      rw [silent] at written
      cases written
  | writes performs _ answers =>
      rw [answers] at written
      cases written
      exact ⟨performs, rfl⟩

/-- Only a client's request prepares a message. -/
theorem exists_request_of_prepares
    {environment : Environment}
    {profile : McpClientProfile}
    {accountId text : Bytes}
    {chatId : Int64}
    (performs :
      gateway.command? setting call =
        some (.write (.prepareSendMessage environment profile accountId
          chatId text))) :
    ∃ request,
      call = .request environment request ∧
        gateway.Asks setting environment request profile
          (.prepareSendMessage accountId chatId text) := by
  rcases origin performs with
    ⟨ownEnvironment, request, client, own, rfl, asks, made⟩ |
    ⟨own, operates, same⟩
  · cases own with
    | prepareSendMessage =>
        cases made
        exact ⟨request, rfl, asks⟩
    | listChats | getMessages | executeApprovedAction =>
        cases made
  · cases same
    cases call <;> cases operates

/-- Only a client's request takes an action. -/
theorem exists_request_of_takes
    {environment : Environment}
    {profile : McpClientProfile}
    {actionId : Bytes}
    (performs :
      gateway.command? setting call =
        some (.write (.takeForExecution environment profile actionId))) :
    ∃ request,
      call = .request environment request ∧
        gateway.Asks setting environment request profile
          (.executeApprovedAction actionId) := by
  rcases origin performs with
    ⟨ownEnvironment, request, client, own, rfl, asks, made⟩ |
    ⟨own, operates, same⟩
  · cases own with
    | executeApprovedAction =>
        cases made
        exact ⟨request, rfl, asks⟩
    | listChats | getMessages | prepareSendMessage =>
        cases made
  · cases same
    cases call <;> cases operates

/-- Only the operator approves. -/
theorem eq_approve_of_performs
    {now : TimePoint}
    {actionId : Bytes}
    (performs :
      gateway.command? setting call =
        some (.write (.approve now actionId))) :
    call = .approve now actionId := by
  rcases origin performs with
    ⟨ownEnvironment, request, client, own, rfl, asks, made⟩ |
    ⟨own, operates, same⟩
  · cases own <;> cases made
  · cases same
    cases call <;> cases operates
    rfl

section PortCalls

/-- The calls of the Telegram port that a step makes. -/
def portCalls
    (setting : GatewaySetting World)
    (gateway : Gateway)
    (call : GatewayCall World) : List TelegramCall :=
  (setting.machine.step gateway call).1.pipeline.telegramCalls.drop
    gateway.pipeline.telegramCalls.length

/-- The policy lets a client's read request call the port. -/
inductive PermitsRead
    (engine : IPolicyEngine)
    (profile : McpClientProfile) : ServiceCall → TelegramCall → Prop where
  | listChats
      {accountId : Bytes}
      (allowed :
        (engine.evaluate profile
          (listChatsInvocation accountId)).isAllowed = true) :
      PermitsRead engine profile (.listChats accountId)
        (.listChats accountId)
  | getMessages
      {accountId : Bytes}
      {chatId : Int64}
      {limit : UInt64}
      (allowed :
        (engine.evaluate profile
          (getMessagesInvocation accountId chatId)).isAllowed = true) :
      PermitsRead engine profile (.getMessages accountId chatId limit)
        (.getMessages accountId chatId
          (min limit TelegramApplicationService.kMaximumMessages))

/-- Why a step calls the port. -/
inductive PortCall
    (setting : GatewaySetting World)
    (gateway : Gateway)
    (call : GatewayCall World)
    (telegram : TelegramCall) : Prop where
  /-- A client reads what the policy permits. -/
  | reads
      {environment : Environment}
      {request : HttpRequest}
      {profile : McpClientProfile}
      {own : ServiceCall}
      (label : call = .request environment request)
      (asks : gateway.Asks setting environment request profile own)
      (permits : PermitsRead setting.policyEngine profile own telegram)
  /-- A request that has taken its action ends. -/
  | sends
      {execution : Execution}
      (inProgress : execution ∈ gateway.pipeline.executing)
      (makes :
        TelegramApplicationService.sendCall? execution.action =
          some telegram)
      (output :
        (setting.machine.step gateway call).2.sends? =
          some execution.action.id)
      (alone : gateway.portCalls setting call = [telegram])

/-- A request for the chats makes the calls that the policy permits. -/
theorem exists_new_listChats
    (service : TelegramApplicationService)
    (engine : IPolicyEngine)
    (environment : Environment)
    (profile : McpClientProfile)
    (accountId : Bytes) :
    ∃ new,
      (service.listChats engine environment profile
            accountId).2.telegramCalls =
          service.telegramCalls ++ new ∧
        ∀ telegram ∈ new,
          PermitsRead engine profile (.listChats accountId) telegram := by
  by_cases allowed :
      (engine.evaluate profile
        (listChatsInvocation accountId)).isAllowed = true
  · refine ⟨_, TelegramApplicationService.telegramCalls_listChats_of_allowed
      service engine environment profile allowed, ?_⟩
    intro telegram member
    rw [List.mem_singleton.mp member]
    exact .listChats allowed
  · refine ⟨[], ?_, List.forall_mem_nil _⟩
    unfold listChatsInvocation at allowed
    simp [TelegramApplicationService.listChats, allowed,
      TelegramApplicationService.denyAndAudit,
      TelegramApplicationService.audit]

/-- So does a request for messages. -/
theorem exists_new_getMessages
    (service : TelegramApplicationService)
    (engine : IPolicyEngine)
    (environment : Environment)
    (profile : McpClientProfile)
    (accountId : Bytes)
    (chatId : Int64)
    (limit : UInt64) :
    ∃ new,
      (service.getMessages engine environment profile accountId chatId
            limit).2.telegramCalls =
          service.telegramCalls ++ new ∧
        ∀ telegram ∈ new,
          PermitsRead engine profile (.getMessages accountId chatId limit)
            telegram := by
  by_cases allowed :
      (engine.evaluate profile
        (getMessagesInvocation accountId chatId)).isAllowed = true
  · refine ⟨_,
      TelegramApplicationService.telegramCalls_getMessages_of_allowed
        service engine environment profile allowed, ?_⟩
    intro telegram member
    rw [List.mem_singleton.mp member]
    exact .getMessages allowed
  · refine ⟨[], ?_, List.forall_mem_nil _⟩
    unfold getMessagesInvocation at allowed
    simp [TelegramApplicationService.getMessages, allowed,
      TelegramApplicationService.denyAndAudit,
      TelegramApplicationService.audit]

/-- What a step appends to the calls of the port are its port calls. -/
theorem portCalls_of_append
    {new : List TelegramCall}
    (shape :
      (setting.machine.step gateway call).1.pipeline.telegramCalls =
        gateway.pipeline.telegramCalls ++ new) :
    gateway.portCalls setting call = new := by
  rw [portCalls, shape, List.drop_left]

/-- Every call of the port has its reason. -/
theorem portCall
    {telegram : TelegramCall}
    (member : telegram ∈ gateway.portCalls setting call) :
    PortCall setting gateway call telegram := by
  obtain ⟨moves, answers⟩ := gateway.step_performs setting call
  cases performs : gateway.command? setting call with
  | none =>
      rw [performs] at moves
      rw [portCalls, moves] at member
      simp [Machine.stateFrom] at member
  | some command =>
      rw [performs] at moves answers
      cases command with
      | listChats environment profile accountId =>
          rcases origin performs with
            ⟨own, request, client, asked, rfl, asks, made⟩ |
            ⟨own, operates, same⟩
          · cases asked <;> cases made
            obtain ⟨new, shape, permits⟩ :=
              exists_new_listChats gateway.pipeline.desktop.service
                setting.policyEngine environment profile accountId
            rw [portCalls_of_append
              ((congrArg WritePipeline.telegramCalls moves).trans
                shape)] at member
            exact .reads rfl asks (permits telegram member)
          · cases same
      | getMessages environment profile accountId chatId limit =>
          rcases origin performs with
            ⟨own, request, client, asked, rfl, asks, made⟩ |
            ⟨own, operates, same⟩
          · cases asked <;> cases made
            obtain ⟨new, shape, permits⟩ :=
              exists_new_getMessages gateway.pipeline.desktop.service
                setting.policyEngine environment profile accountId chatId
                limit
            rw [portCalls_of_append
              ((congrArg WritePipeline.telegramCalls moves).trans
                shape)] at member
            exact .reads rfl asks (permits telegram member)
          · cases same
      | write own =>
          have appended (new : List TelegramCall)
              (port :
                ((writePipeline setting.policyEngine).step
                    gateway.pipeline
                    own).1.desktop.service.telegramCalls =
                  gateway.pipeline.desktop.service.telegramCalls ++
                    new) :
              gateway.portCalls setting call = new :=
            portCalls_of_append
              ((congrArg WritePipeline.telegramCalls moves).trans port)
          cases stepShape setting.policyEngine gateway.pipeline own with
          | quiet _ port =>
              rw [appended [] (by rw [port, List.append_nil])] at member
              cases member
          | takes _ _ _ _ port =>
              rw [appended [] (by rw [port, List.append_nil])] at member
              cases member
          | sends label found executing port output =>
              obtain ⟨outcome, output⟩ := output
              rw [appended _ port, Option.mem_toList] at member
              refine .sends ?_ member ?_ ?_
              · rw [found]
                exact List.mem_append_right _ List.mem_cons_self
              · have performed :=
                  congrArg
                    (fun reply =>
                      some (Event.mk (ServiceCommand.write own) reply))
                    output
                exact GatewayReply.sends?_of_event?
                  (answers.trans performed)
              · rw [appended _ port, member]
                rfl

/-- A step that ends an execution writes that the action is sent. -/
theorem exists_sends_of_sends?
    {actionId : Bytes}
    (sends :
      (setting.machine.step gateway call).2.sends? = some actionId) :
    ∃ event,
      (setting.machine.step gateway call).2.write? = some event ∧
        Sends actionId event := by
  obtain ⟨-, answers⟩ := gateway.step_performs setting call
  cases reply : (setting.machine.step gateway call).2 with
  | performed command answer response? =>
      rw [reply] at sends answers
      cases answer with
      | sent execution sent outcome =>
          obtain ⟨own, -, same⟩ := Option.map_eq_some_iff.mp answers.symm
          obtain ⟨rfl, output⟩ := Event.mk.inj same
          cases own with
          | write own =>
              exact ⟨_, rfl, execution, sent, outcome, rfl,
                Option.some.inj sends⟩
          | listChats | getMessages =>
              cases output
      | response | taken | decided | done | idle =>
          cases sends
  | unreachable | answered | host =>
      rw [reply] at sends
      cases sends

end PortCalls


end Origins

end Gateway

/-- What the policy decides on before a call of the port. -/
def TelegramCall.invocation : TelegramCall → ToolInvocation
  | .listChats accountId => listChatsInvocation accountId
  | .getMessages accountId chatId _ =>
      getMessagesInvocation accountId chatId
  | .sendMessage accountId chatId _ =>
      TelegramApplicationService.sendInvocation accountId chatId

/-- How a message came to be sent, along the run before it. -/
structure AuthorizedSend
    {World : Type}
    (setting : GatewaySetting World)
    (profile : McpClientProfile)
    (actionId accountId : Bytes)
    (chatId : Int64)
    (text : Bytes)
    (before : List (GatewayCall World))
    (preparing : Environment)
    (prepare : HttpRequest)
    (middle : List (GatewayCall World))
    (taking : Environment)
    (take : HttpRequest) : Prop where
  /-- An authenticated client of this id prepared exactly this message. -/
  prepared :
    ∃ preparer,
      preparer.id = profile.id ∧
        (setting.machine.state before).Asks setting preparing prepare
          preparer (.prepareSendMessage accountId chatId text) ∧
        TelegramApplicationService.AcceptsMessage setting.policyEngine
          preparer accountId chatId text ∧
        createSecureId preparing.random = .ok actionId
  /-- The operator approved it before its deadline. -/
  approved :
    ∃ first now rest,
      middle = first ++ .approve now actionId :: rest ∧
        (setting.machine.step
            (setting.machine.state
              (before ++ .request preparing prepare :: first))
            (.approve now actionId)).2.accepted =
          true ∧
        now < preparing.now + 120 * ticksPerSecond
  /-- Neither a denial nor a lockdown came in between. -/
  unrevoked :
    ∀ first call rest,
      middle = first ++ call :: rest →
      call ≠ .lockdown ∧
        ∀ now,
          call = .deny now actionId →
          (setting.machine.step
              (setting.machine.state
                (before ++ .request preparing prepare :: first))
              call).2.accepted =
            false
  /-- The authenticated client asked for its execution. -/
  executed :
    (setting.machine.state
        (before ++ .request preparing prepare :: middle)).Asks setting
      taking take profile (.executeApprovedAction actionId)
  /-- The policy did not deny it to this client. -/
  permitted :
    (setting.policyEngine.evaluate profile
      (TelegramApplicationService.sendInvocation
        accountId chatId)).effect ≠ .deny

namespace GatewaySetting

section Authorization

variable {World : Type}
variable {setting : GatewaySetting World}

/-- What a part of a run writes. -/
def writesFrom
    (setting : GatewaySetting World)
    (gateway : Gateway)
    (calls : List (GatewayCall World)) : List WriteEvent :=
  Machine.shown GatewayReply.write?
    (setting.machine.historyFrom gateway calls)

/-- An approval among the writes is one of the operator's, at its place. -/
theorem exists_approve
    {gateway : Gateway}
    {calls : List (GatewayCall World)}
    {actionId : Bytes}
    {now : TimePoint}
    {event : WriteEvent}
    (member : event ∈ setting.writesFrom gateway calls)
    (approves : ApprovesAt now actionId event) :
    ∃ first rest,
      calls = first ++ .approve now actionId :: rest ∧
        (setting.machine.step (setting.machine.stateFrom gateway first)
            (.approve now actionId)).2.accepted =
          true := by
  obtain ⟨earlier, later, split⟩ := List.mem_iff_append.mp member
  obtain ⟨first, call, rest, shape, -, written, -⟩ :=
    setting.machine.exists_run_of_shown_split split
  rw [approves] at written
  have isApprove :=
    Gateway.eq_approve_of_performs (Gateway.performs_of_write? written).1
  subst isApprove
  exact ⟨first, rest, shape, GatewayReply.accepted_of_write? written⟩

/-- What the writes do not revoke, no step revokes. -/
theorem unrevoked_of_writes
    {gateway : Gateway}
    {actionId : Bytes}
    {first rest : List (GatewayCall World)}
    {call : GatewayCall World}
    (unrevoked :
      Unrevoked actionId
        (setting.writesFrom gateway (first ++ call :: rest))) :
    call ≠ .lockdown ∧
      ∀ now,
        call = .deny now actionId →
        (setting.machine.step (setting.machine.stateFrom gateway first)
            call).2.accepted =
          false := by
  constructor
  · rintro rfl
    have member :
        (writePipeline setting.policyEngine).eventAt
            (setting.machine.stateFrom gateway first).pipeline
            .lockdown ∈
          setting.writesFrom gateway (first ++ .lockdown :: rest) :=
      setting.machine.mem_shown rfl
    exact (unrevoked _ member).2 rfl
  · rintro now rfl
    have member :
        (writePipeline setting.policyEngine).eventAt
            (setting.machine.stateFrom gateway first).pipeline
            (.deny now actionId) ∈
          setting.writesFrom gateway
            (first ++ .deny now actionId :: rest) :=
      setting.machine.mem_shown rfl
    by_contra accepts
    have accepted := Bool.eq_true_of_not_eq_false accepts
    have denies :=
      congrArg
        (fun accepts =>
          (⟨.deny now actionId, .decided accepts⟩ : WriteEvent))
        accepted
    exact (unrevoked _ member).1 ⟨now, denies⟩

/--
Every message that leaves the gateway, in any run, was authorized: an HTTP
request of an authenticated client prepared exactly this message, the operator
approved it before its deadline and did not revoke it, an HTTP request of the
same client asked for its execution, and the policy did not deny it.  Each stands
at its own place in the run, and no other message was sent for the same approval.
-/
theorem sends_are_authorized
    {calls : List (GatewayCall World)}
    {call : GatewayCall World}
    {accountId text : Bytes}
    {chatId : Int64}
    (fresh : setting.DrawsFreshIds calls)
    (called :
      .sendMessage accountId chatId text ∈
        (setting.machine.state calls).portCalls setting call) :
    ∃ profile actionId before preparing prepare middle taking take after,
      calls =
          before ++ .request preparing prepare ::
            (middle ++ .request taking take :: after) ∧
        (setting.machine.state calls).portCalls setting call =
          [.sendMessage accountId chatId text] ∧
        (setting.machine.step (setting.machine.state calls)
            call).2.sends? =
          some actionId ∧
        AuthorizedSend setting profile actionId accountId chatId text
          before preparing prepare middle taking take ∧
        ∀ earlier other later,
          calls = earlier ++ other :: later →
          (setting.machine.step (setting.machine.state earlier)
              other).2.sends? ≠
            some actionId := by
  cases Gateway.portCall called with
  | reads _ _ permits =>
      cases permits
  | @sends execution inProgress makes output alone =>
  obtain ⟨stories, ledger⟩ := explained_state fresh
  obtain ⟨written, takes, later, taken⟩ :=
    stories.executing execution inProgress
  obtain ⟨account, chat, content, earlier, creation, history, sendsCall,
      invocation, message, -⟩ := taken.exists_message
  cases Option.some.inj (makes.symm.trans sendsCall)
  obtain ⟨before, prepare, rest, callsShape, -, creates, restWrites⟩ :=
    setting.machine.exists_run_of_shown_split history
  obtain ⟨middle, take, after, restShape, middleWrites, isTaken, -⟩ :=
    setting.machine.exists_run_of_shown_split restWrites
  subst callsShape restShape
  obtain ⟨preparing, preparer, prepares, sameClient, accepts, drawn,
    deadline⟩ := message
  have performs := (Gateway.performs_of_write? creates).1
  rw [prepares] at performs
  obtain ⟨prepareRequest, rfl, asks⟩ :=
    Gateway.exists_request_of_prepares performs
  obtain ⟨taking, rfl⟩ := taken.takes
  obtain ⟨takeRequest, rfl, executes⟩ :=
    Gateway.exists_request_of_takes
      (Gateway.performs_of_write? isTaken).1
  refine ⟨execution.profile, execution.action.id, before, preparing,
    prepareRequest, middle, taking, takeRequest, after, rfl, alone,
    output, ?_, ?_⟩
  · exact {
      prepared := ⟨preparer, sameClient, asks, accepts, drawn⟩
      approved := by
        obtain ⟨event, member, now, approves, inTime⟩ :=
          taken.cleared.approved
        rw [← middleWrites] at member
        obtain ⟨first, last, shape, accepted⟩ :=
          exists_approve member approves
        rw [deadline] at inTime
        refine ⟨first, now, last, shape, ?_, inTime⟩
        rwa [setting.machine.state_append_cons]
      unrevoked := by
        rintro first call last rfl
        have unrevoked := taken.cleared.unrevoked
        rw [← middleWrites] at unrevoked
        rw [setting.machine.state_append_cons]
        exact unrevoked_of_writes unrevoked
      executed := by
        rwa [setting.machine.state_append_cons]
      permitted := invocation ▸ taken.permitted }
  · intro first other last shape sendsAgain
    obtain ⟨event, writes, sendsEvent⟩ :=
      Gateway.exists_sends_of_sends? sendsAgain
    rw [shape] at ledger
    exact (ledger.sent event (setting.machine.mem_shown writes)
      sendsEvent).2 execution (shape ▸ inProgress) rfl

/-- A request in progress was asked for by a client the policy does not deny. -/
theorem exists_asked_execution
    {calls : List (GatewayCall World)}
    {execution : Execution}
    {telegram : TelegramCall}
    (fresh : setting.DrawsFreshIds calls)
    (inProgress :
      execution ∈ (setting.machine.state calls).pipeline.executing)
    (makes :
      TelegramApplicationService.sendCall? execution.action =
        some telegram) :
    ∃ first environment request rest,
      calls = first ++ .request environment request :: rest ∧
        (setting.machine.state first).Asks setting environment request
          execution.profile
          (.executeApprovedAction execution.action.id) ∧
        (setting.policyEngine.evaluate execution.profile
          telegram.invocation).effect ≠ .deny := by
  obtain ⟨middle, take, after, taken⟩ :=
    (explained_state fresh).1.executing execution inProgress
  obtain ⟨accountId, chatId, text, before, creation, history, sendsCall,
    invocation, -, -⟩ := taken.exists_message
  rw [← List.cons_append, ← List.append_assoc] at history
  obtain ⟨first, call, rest, shape, -, writes, -⟩ :=
    setting.machine.exists_run_of_shown_split history
  obtain ⟨environment, rfl⟩ := taken.takes
  obtain ⟨request, rfl, asks⟩ :=
    Gateway.exists_request_of_takes (Gateway.performs_of_write? writes).1
  refine ⟨first, environment, request, rest, shape, asks, ?_⟩
  cases Option.some.inj (makes.symm.trans sendsCall)
  have permitted := taken.permitted
  rwa [invocation] at permitted

/-- The HTTP request that a call of the port goes back to, and its place. -/
inductive PortOrigin
    (setting : GatewaySetting World)
    (calls : List (GatewayCall World))
    (call : GatewayCall World)
    (telegram : TelegramCall)
    (environment : Environment)
    (request : HttpRequest) :
    List (GatewayCall World) → McpClientProfile → ServiceCall → Prop where
  /-- The step is the request, and it asks for what the port reads. -/
  | reads
      {profile : McpClientProfile}
      {own : ServiceCall}
      (label : call = .request environment request)
      (permits :
        Gateway.PermitsRead setting.policyEngine profile own telegram) :
      PortOrigin setting calls call telegram environment request calls
        profile own
  /-- The request took the action that the step sends. -/
  | sends
      {first rest : List (GatewayCall World)}
      {execution : Execution}
      (shape : calls = first ++ .request environment request :: rest)
      (inProgress :
        execution ∈ (setting.machine.state calls).pipeline.executing)
      (makes :
        TelegramApplicationService.sendCall? execution.action =
          some telegram)
      (output :
        (setting.machine.step (setting.machine.state calls)
            call).2.sends? =
          some execution.action.id) :
      PortOrigin setting calls call telegram environment request first
        execution.profile (.executeApprovedAction execution.action.id)

/--
Under the production policy every call of the Telegram port, in any run, goes back
to an HTTP request that the host admitted, and the enabled profile of its client
lists the account, the tool and the chat of the call.  A read is made by the step
that is the request, and a message is sent for the request that asked for the
execution of its action.
-/
theorem port_calls_are_listed
    {calls : List (GatewayCall World)}
    {call : GatewayCall World}
    {telegram : TelegramCall}
    (production : setting.policyEngine = TgGate.policyEngine)
    (fresh : setting.DrawsFreshIds calls)
    (called :
      telegram ∈ (setting.machine.state calls).portCalls setting call) :
    ∃ environment request first profile own,
      PortOrigin setting calls call telegram environment request first
          profile own ∧
        (setting.machine.state first).Asks setting environment request
          profile own ∧
        Listed profile telegram.invocation := by
  cases Gateway.portCall called with
  | @reads environment request profile own label asks permits =>
      refine ⟨environment, request, calls, profile, own,
        .reads label permits, asks, ?_⟩
      rw [production] at permits
      cases permits with
      | listChats allowed | getMessages allowed =>
          have isAllowed := decide_eq_true_eq.mp allowed
          exact listed_of_permitted
            (isAllowed.trans_ne (by decide))
  | @sends execution inProgress makes output alone =>
      obtain ⟨first, environment, request, rest, shape, asks, permitted⟩ :=
        exists_asked_execution fresh inProgress makes
      rw [production] at permitted
      exact ⟨environment, request, first, execution.profile, _,
        .sends shape inProgress makes output, asks,
        listed_of_permitted permitted⟩

end Authorization

end GatewaySetting

section Sender

theorem drawsFreshIds_senderCalls :
    senderSetting.DrawsFreshIds senderCalls := by
  decide +kernel

theorem portCalls_senderCalls :
    .sendMessage (bytes "work") 42 (bytes "hello") ∈
      (senderSetting.machine.state senderCalls).portCalls senderSetting
        (.sendApproved {} 0) := by
  decide +kernel

/-- The message that leaves next was authorized. -/
theorem sends_are_authorized_senderCalls :
    ∃ profile actionId before preparing prepare middle taking take after,
      senderCalls =
          before ++ .request preparing prepare ::
            (middle ++ .request taking take :: after) ∧
        AuthorizedSend senderSetting profile actionId (bytes "work") 42
          (bytes "hello") before preparing prepare middle taking take := by
  obtain ⟨profile, actionId, before, preparing, prepare, middle, taking,
    take, after, shape, -, -, authorized, -⟩ :=
    GatewaySetting.sends_are_authorized drawsFreshIds_senderCalls
      portCalls_senderCalls
  exact ⟨profile, actionId, before, preparing, prepare, middle, taking,
    take, after, shape, authorized⟩

/-- Its chat is listed for the client that asked for it. -/
theorem port_calls_are_listed_senderCalls :
    ∃ environment request first profile own,
      GatewaySetting.PortOrigin senderSetting senderCalls
          (.sendApproved {} 0)
          (.sendMessage (bytes "work") 42 (bytes "hello")) environment
          request first profile own ∧
        (senderSetting.machine.state first).Asks senderSetting environment
          request profile own ∧
        Listed profile
          (TelegramApplicationService.sendInvocation (bytes "work") 42) :=
  GatewaySetting.port_calls_are_listed rfl
    drawsFreshIds_senderCalls portCalls_senderCalls

end Sender

end TgGate
