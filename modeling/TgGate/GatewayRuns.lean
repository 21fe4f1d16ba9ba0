import TgGate.Gateway

namespace TgGate

open Library

/-!
# Runs of the gateway

A message leaves the gateway only along one path: a client that the host
authenticated prepared it, the operator approved it in time, and the same client
asked for its execution.  The path is found by going back through the run: the
commands of the write pipeline inside it are explained as in a run of their own,
and each of them is a step that some HTTP request or the operator made.
-/

namespace GatewayReply

/-- The command of the application service that a step performed. -/
def event? : GatewayReply → Option (Event ServiceCommand Reply)
  | .performed command reply _ => some ⟨command, reply⟩
  | _ => none

/-- The command of the write pipeline that a step performed. -/
def write? (reply : GatewayReply) : Option WriteEvent :=
  match reply.event? with
  | some ⟨.write command, answer⟩ => some ⟨command, answer⟩
  | _ => none

/-- The HTTP answer that a step gives. -/
def response? :
    GatewayReply → Option (Except Exception HttpResponse)
  | .answered response => some response
  | .performed _ _ response? => response?
  | .unreachable | .host _ => none

/-- The operator's decision took effect. -/
def accepted : GatewayReply → Bool
  | .performed _ (.decided accepted) _ => accepted
  | _ => false

/-- The action whose execution a step has ended. -/
def sends? : GatewayReply → Option Bytes
  | .performed _ (.sent execution _ _) _ => some execution.action.id
  | _ => none

variable {reply : GatewayReply}
variable {command : Command}

theorem accepted_of_write?
    {accepts : Bool}
    (written : reply.write? = some ⟨command, .decided accepts⟩) :
    reply.accepted = accepts := by
  cases reply with
  | performed own answer response? =>
      cases own with
      | write other =>
          cases written
          rfl
      | listChats | getMessages =>
          cases written
  | unreachable | answered | host =>
      cases written

theorem sends?_of_event?
    {own : ServiceCommand}
    {execution : Execution}
    {sent : List TelegramCall}
    {outcome : Except Exception Json}
    (performs :
      reply.event? = some ⟨own, .sent execution sent outcome⟩) :
    reply.sends? = some execution.action.id := by
  cases reply with
  | performed other answer response? =>
      cases performs
      rfl
  | unreachable | answered | host =>
      cases performs

end GatewayReply

namespace Gateway

section Steps

variable {World : Type}
variable {setting : GatewaySetting World}
variable {gateway : Gateway}

/-- The command that the operator, or a request that goes on, performs. -/
def operation? : GatewayCall World → Option Command
  | .sendApproved environment index =>
      some (.sendApproved environment index)
  | .approve now actionId => some (.approve now actionId)
  | .deny now actionId => some (.deny now actionId)
  | .lockdown => some .lockdown
  | .request _ _ | .host _ => none

/-- The command that a step has the application service perform. -/
def command?
    (setting : GatewaySetting World)
    (gateway : Gateway) : GatewayCall World → Option ServiceCommand
  | .request environment request =>
      if gateway.host.desktop.mcpHost.running then
        (gateway.reached? setting environment request).map
          fun (profile, call) => call.command environment profile
      else
        none
  | call => (operation? call).map .write

/-- A command comes from a client's request or from the operator. -/
theorem origin
    {call : GatewayCall World}
    {command : ServiceCommand}
    (performs : gateway.command? setting call = some command) :
    (∃ environment request profile own,
      call = .request environment request ∧
        gateway.Asks setting environment request profile own ∧
        own.command environment profile = command) ∨
      ∃ own, operation? call = some own ∧ command = .write own := by
  cases call with
  | request environment request =>
      simp only [command?] at performs
      split at performs
      · next running =>
          obtain ⟨⟨profile, own⟩, reached, made⟩ :=
            Option.map_eq_some_iff.mp performs
          exact .inl ⟨environment, request, profile, own, rfl,
            (reached?_eq_some_iff running).mp reached, made⟩
      · cases performs
  | sendApproved | approve | deny | lockdown =>
      cases performs
      exact .inr ⟨_, rfl, rfl⟩
  | host =>
      cases performs

theorem perform_performs
    (command : ServiceCommand)
    (response : Except Exception HttpResponse) :
    (gateway.perform setting command response).1.pipeline =
        ((applicationMachine setting.policyEngine).step gateway.pipeline
          command).1 ∧
      (gateway.perform setting command response).2.event? =
        some ((applicationMachine setting.policyEngine).eventAt
          gateway.pipeline command) := by
  unfold perform Machine.eventAt
  rcases (applicationMachine setting.policyEngine).step gateway.pipeline
    command with ⟨pipeline, reply⟩
  cases reply <;> exact ⟨rfl, rfl⟩

/-- A step performs its command on the pipeline, if it has one. -/
theorem step_performs
    (setting : GatewaySetting World)
    (gateway : Gateway)
    (call : GatewayCall World) :
    (setting.machine.step gateway call).1.pipeline =
        (applicationMachine setting.policyEngine).stateFrom
          gateway.pipeline (gateway.command? setting call).toList ∧
      (setting.machine.step gateway call).2.event? =
        (gateway.command? setting call).map
          ((applicationMachine setting.policyEngine).eventAt
            gateway.pipeline) := by
  cases call with
  | request environment request =>
      simp only [GatewaySetting.machine, advance, command?]
      split
      · unfold serve
        cases gateway.reached? setting environment request with
        | none =>
            exact ⟨rfl, rfl⟩
        | some made =>
            exact perform_performs (made.2.command environment made.1) _
      · exact ⟨rfl, rfl⟩
  | sendApproved | approve | deny | lockdown | host =>
      exact ⟨rfl, rfl⟩

/-- A call that takes no action is performed in one step. -/
theorem step_command_of_untaken
    {engine : IPolicyEngine}
    {pipeline : WritePipeline}
    {environment : Environment}
    {profile : McpClientProfile}
    {call : ServiceCall}
    (untaken :
      ∀ actionId,
        call = .executeApprovedAction actionId →
        (pipeline.desktop.service.takeForExecution engine environment
            profile actionId).1 =
          none) :
    (applicationMachine engine).step pipeline
        (call.command environment profile) =
      (pipeline.setService
          (call.perform pipeline.desktop.service engine environment
            profile).2,
        .response
          (call.perform pipeline.desktop.service engine environment
            profile).1) := by
  cases call with
  | listChats | getMessages | prepareSendMessage =>
      rfl
  | executeApprovedAction actionId =>
      have isNone := untaken actionId rfl
      simp only [applicationMachine, ServiceCall.command, writePipeline,
        ServiceCall.perform,
        TelegramApplicationService.executeApprovedAction]
      generalize pipeline.desktop.service.takeForExecution engine
        environment profile actionId = outcome at isNone
      obtain ⟨found, service⟩ := outcome
      subst isNone
      rfl

/-- A call that takes an action is performed in two. -/
theorem event?_sendApproved
    {environment : Environment}
    {profile : McpClientProfile}
    {actionId : Bytes}
    {action : PendingAction}
    {service : TelegramApplicationService}
    (taken :
      gateway.pipeline.desktop.service.takeForExecution
          setting.policyEngine environment profile actionId =
        (some action, service)) :
    ∃ execution sent,
      ((applicationMachine setting.policyEngine).step
          ((applicationMachine setting.policyEngine).step gateway.pipeline
            (.write (.takeForExecution environment profile actionId))).1
          (.write (.sendApproved environment
            gateway.pipeline.executing.length))).2 =
        .sent execution sent
          (gateway.pipeline.desktop.service.executeApprovedAction
            setting.policyEngine environment profile actionId).1 := by
  refine ⟨⟨profile, action⟩,
    (service.sendApproved environment profile
      action).2.telegramCalls.drop service.telegramCalls.length, ?_⟩
  simp only [applicationMachine, writePipeline, taken,
    List.getElem?_concat_length, WritePipeline.setService,
    TelegramApplicationService.executeApprovedAction]

/-- How a request in one piece decomposes into steps. -/
inductive Pieces
    (setting : GatewaySetting World)
    (gateway : Gateway)
    (environment : Environment)
    (request : HttpRequest) : List (GatewayCall World) → Prop where
  /-- One step, which gives the answer of the piece. -/
  | whole
      (answers :
        (setting.machine.step gateway
            (.request environment request)).2.response? =
          some (gateway.handle setting environment request).1) :
      Pieces setting gateway environment request
        [.request environment request]
  /-- An action is taken and then sent; the tool answers what it answers. -/
  | halves
      {profile : McpClientProfile}
      {actionId : Bytes}
      {execution : Execution}
      {sent : List TelegramCall}
      (asks :
        gateway.Asks setting environment request profile
          (.executeApprovedAction actionId))
      (answers :
        (setting.machine.step
            (setting.machine.step gateway
              (.request environment request)).1
            (.sendApproved environment
              gateway.pipeline.executing.length)).2.event? =
          some
            ⟨.write (.sendApproved environment
                gateway.pipeline.executing.length),
              .sent execution sent
                (gateway.pipeline.desktop.service.executeApprovedAction
                  setting.policyEngine environment profile
                  actionId).1⟩) :
      Pieces setting gateway environment request
        [.request environment request,
          .sendApproved environment gateway.pipeline.executing.length]

/--
A request that is handled in one piece, as the HTTP service, the protocol handler
and the application service compute it, is one step of the gateway, or two that
nothing interrupts.
-/
theorem handle_in_steps
    (running : gateway.host.desktop.mcpHost.running = true)
    (environment : Environment)
    (request : HttpRequest) :
    ∃ calls,
      Pieces setting gateway environment request calls ∧
        setting.machine.stateFrom gateway calls =
          { gateway with
            pipeline :=
              gateway.pipeline.setService
                (gateway.handle setting environment request).2 } := by
  have handled := @snd_handle _ setting gateway environment request
  cases reached : gateway.reached? setting environment request with
  | none =>
      rw [reached] at handled
      refine ⟨[.request environment request], .whole ?_, ?_⟩
      · simp [GatewaySetting.machine, advance, running, serve, reached,
          GatewayReply.response?]
      · rw [handled]
        simp [Machine.stateFrom, GatewaySetting.machine, advance, running,
          serve, reached, WritePipeline.setService]
  | some made =>
      obtain ⟨profile, call⟩ := made
      rw [reached] at handled
      by_cases untaken :
          ∀ actionId,
            call = .executeApprovedAction actionId →
            (gateway.pipeline.desktop.service.takeForExecution
                setting.policyEngine environment profile actionId).1 =
              none
      · have performed := step_command_of_untaken untaken
        refine ⟨[.request environment request], .whole ?_, ?_⟩
        · simp [GatewaySetting.machine, advance, running, serve, reached,
            perform, performed, GatewayReply.response?]
        · rw [handled]
          simp [Machine.stateFrom, GatewaySetting.machine, advance,
            running, serve, reached, perform, performed]
      · push Not at untaken
        obtain ⟨actionId, rfl, isTaken⟩ := untaken
        obtain ⟨action, isSome⟩ := Option.ne_none_iff_exists'.mp isTaken
        have together := take_then_send isSome
        obtain ⟨service, taken⟩ :
            ∃ service,
              gateway.pipeline.desktop.service.takeForExecution
                  setting.policyEngine environment profile actionId =
                (some action, service) :=
          ⟨_, Prod.ext isSome rfl⟩
        obtain ⟨execution, sent, answers⟩ := event?_sendApproved taken
        have first :
            setting.machine.step gateway (.request environment request) =
              ({ gateway with
                  pipeline :=
                    ((applicationMachine setting.policyEngine).step
                      gateway.pipeline
                      (.write (.takeForExecution environment profile
                        actionId))).1 },
                .performed
                  (.write (.takeForExecution environment profile
                    actionId))
                  .taken none) := by
          simp [GatewaySetting.machine, advance, running, serve, reached,
            perform, ServiceCall.command, applicationMachine,
            writePipeline, taken]
        have second :=
          congrArg
            (fun reply =>
              some (Event.mk
                (ServiceCommand.write (.sendApproved environment
                  gateway.pipeline.executing.length)) reply))
            answers
        refine ⟨[.request environment request,
          .sendApproved environment gateway.pipeline.executing.length],
          @Pieces.halves _ setting gateway environment request profile
            actionId execution sent
            ((reached?_eq_some_iff running).mp reached) ?_, ?_⟩
        · rw [first]
          exact second
        · rw [handled, Machine.stateFrom, first]
          exact congrArg
            (fun pipeline => { gateway with pipeline := pipeline })
            together

/-- What a step does to the write pipeline. -/
inductive WriteShape
    (setting : GatewaySetting World)
    (gateway : Gateway)
    (call : GatewayCall World) : Prop where
  /-- No action and no request in progress moves. -/
  | keeps
      (approvals :
        (setting.machine.step gateway call).1.pipeline.approvals =
          gateway.pipeline.approvals)
      (executing :
        (setting.machine.step gateway call).1.pipeline.executing =
          gateway.pipeline.executing)
      (silent : (setting.machine.step gateway call).2.write? = none)
  /-- One command is performed. -/
  | writes
      {command : Command}
      (performs : gateway.command? setting call = some (.write command))
      (pipeline :
        (setting.machine.step gateway call).1.pipeline =
          ((writePipeline setting.policyEngine).step gateway.pipeline
            command).1)
      (written :
        (setting.machine.step gateway call).2.write? =
          some ((writePipeline setting.policyEngine).eventAt
            gateway.pipeline command))

theorem writeShape
    (setting : GatewaySetting World)
    (gateway : Gateway)
    (call : GatewayCall World) :
    WriteShape setting gateway call := by
  obtain ⟨moves, answers⟩ := gateway.step_performs setting call
  cases performs : gateway.command? setting call with
  | none =>
      rw [performs] at moves answers
      exact .keeps (congrArg WritePipeline.approvals moves)
        (congrArg WritePipeline.executing moves)
        (by rw [GatewayReply.write?, answers]; rfl)
  | some command =>
      rw [performs] at moves answers
      cases command with
      | write command =>
          exact .writes performs moves
            (by rw [GatewayReply.write?, answers]; rfl)
      | listChats | getMessages =>
          refine .keeps ?_ ?_ ?_
          · rw [moves]
            exact approvals_applicationStep setting.policyEngine
              gateway.pipeline _
          · rw [moves]
            rfl
          · rw [GatewayReply.write?, answers]
            rfl

end Steps

end Gateway

/-- The request that takes the approved action is handled in two steps. -/
theorem handle_in_steps_sender :
    ∃ calls,
      Gateway.Pieces senderSetting
          (senderSetting.machine.state (senderCalls.take 3))
          { now := 2 * ticksPerSecond }
          (toolRequest (bytes "telegram_execute_approved_action")
            (bytes "execute"))
          calls ∧
        senderSetting.machine.stateFrom
            (senderSetting.machine.state (senderCalls.take 3)) calls =
          { senderSetting.machine.state (senderCalls.take 3) with
            pipeline :=
              (senderSetting.machine.state
                (senderCalls.take 3)).pipeline.setService
                  ((senderSetting.machine.state
                    (senderCalls.take 3)).handle senderSetting
                    { now := 2 * ticksPerSecond }
                    (toolRequest
                      (bytes "telegram_execute_approved_action")
                      (bytes "execute"))).2 } :=
  Gateway.handle_in_steps (by decide +kernel) _ _

namespace GatewaySetting

variable {World : Type}
variable (setting : GatewaySetting World)

/-- The commands of the write pipeline in a run, with their answers. -/
def writes (calls : List (GatewayCall World)) : List WriteEvent :=
  Machine.shown GatewayReply.write? (setting.machine.history calls)

/-- The random generator never produces an action id twice. -/
def DrawsFreshIds (calls : List (GatewayCall World)) : Prop :=
  FreshActionIds setting.policyEngine
    ((setting.writes calls).map Event.label)

instance (calls : List (GatewayCall World)) :
    Decidable (setting.DrawsFreshIds calls) :=
  inferInstanceAs (Decidable (FreshActionIds _ _))

end GatewaySetting

/-- A read request moves no action. -/
theorem Stories.of_same
    {engine : IPolicyEngine}
    {before after : WritePipeline}
    {history : List WriteEvent}
    (stories : Stories engine before history)
    (approvals : after.approvals = before.approvals)
    (executing : after.executing = before.executing) :
    Stories engine after history where
  stored := approvals ▸ stories.stored
  free := approvals ▸ stories.free
  executing := executing ▸ stories.executing

theorem Ledger.of_same
    {before after : WritePipeline}
    {history : List WriteEvent}
    (ledger : Ledger before history)
    (approvals : after.approvals = before.approvals)
    (executing : after.executing = before.executing) :
    Ledger after history where
  held := by
    rw [approvals, executing]
    exact ledger.held
  once := executing ▸ ledger.once
  sent := by
    rw [approvals, executing]
    exact ledger.sent

namespace GatewaySetting

section Runs

variable {World : Type}
variable {setting : GatewaySetting World}
variable {calls : List (GatewayCall World)}

theorem writes_snoc
    (calls : List (GatewayCall World))
    (call : GatewayCall World) :
    setting.writes (calls ++ [call]) =
      setting.writes calls ++
        ((setting.machine.step (setting.machine.state calls)
          call).2.write?).toList := by
  rw [writes, setting.machine.history_snoc, Machine.shown_append,
    Machine.shown_singleton]
  rfl

theorem DrawsFreshIds.of_append
    {first later : List (GatewayCall World)}
    (fresh : setting.DrawsFreshIds (first ++ later)) :
    setting.DrawsFreshIds first := by
  unfold DrawsFreshIds writes at fresh ⊢
  rw [setting.machine.history_append, Machine.shown_append,
    List.map_append] at fresh
  exact TgGate.FreshActionIds.of_append fresh

/-- One step of the gateway keeps what explains its pipeline. -/
theorem explained_step
    {call : GatewayCall World}
    (fresh : setting.DrawsFreshIds (calls ++ [call]))
    (stories :
      Stories setting.policyEngine (setting.machine.state calls).pipeline
        (setting.writes calls))
    (ledger :
      Ledger (setting.machine.state calls).pipeline
        (setting.writes calls)) :
    Stories setting.policyEngine
        (setting.machine.state (calls ++ [call])).pipeline
        (setting.writes (calls ++ [call])) ∧
      Ledger (setting.machine.state (calls ++ [call])).pipeline
        (setting.writes (calls ++ [call])) := by
  rw [DrawsFreshIds] at fresh
  rw [setting.machine.state_snoc]
  rw [writes_snoc] at fresh ⊢
  cases (setting.machine.state calls).writeShape setting call with
  | keeps approvals executing silent =>
      rw [silent, Option.toList_none, List.append_nil]
      exact ⟨stories.of_same approvals executing,
        ledger.of_same approvals executing⟩
  | writes performs pipeline written =>
      rw [written, Option.toList_some] at fresh ⊢
      rw [pipeline]
      rw [List.map_append] at fresh
      exact ⟨stories_step stories
          fun action created event member =>
            not_prepares_of_freshLabels fresh created member,
        ledger_step ledger _⟩

/-- In every run with fresh ids, what was written explains the pipeline. -/
theorem explained_state
    (fresh : setting.DrawsFreshIds calls) :
    Stories setting.policyEngine (setting.machine.state calls).pipeline
        (setting.writes calls) ∧
      Ledger (setting.machine.state calls).pipeline
        (setting.writes calls) := by
  induction calls using List.reverseRecOn with
  | nil =>
      refine ⟨⟨?_, ?_, ?_⟩, ⟨?_, ?_, ?_⟩⟩
      · intro actionId action found
        cases found
      · intro actionId free event member
        cases member
      · intro execution member
        cases member
      · intro execution member
        cases member
      · exact List.nodup_nil
      · intro event member
        cases member
  | append_singleton calls call inductionHypothesis =>
      obtain ⟨stories, ledger⟩ := inductionHypothesis fresh.of_append
      exact explained_step fresh stories ledger

end Runs

end GatewaySetting

end TgGate
