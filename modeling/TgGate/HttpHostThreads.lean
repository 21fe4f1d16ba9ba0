import TgGate.McpHostLifecycle
import TgGate.SimpleWebHttpHost

namespace TgGate

open Library

/-!
# The threads of the HTTP host

`LocalMcpHttpService::start` and `stop` run on the operator's thread.  They stop
`SimpleWebHttpHost`, replace what its request handlers read and start it again.
A started host runs its server on a thread of its own; the two threads meet at
the startup flags, which are written and read under a mutex, and when `stop`
joins the server's thread.

Every step of a thread ends where the other can observe it.  The server is not
part of the program: it may call back, throw or return at any step, and serves
requests on any number of threads.
-/

/-- What `start` has come to when it turns to the HTTP host. -/
inductive StartPlan where
  | throws (thrown : JsonException)
  | fails (error : Bytes)
  | disabled
  | launches
      (configuration : McpHostConfiguration)
      (clients : List AuthenticatedClient)

/-- How the start of the HTTP host has ended. -/
inductive HostOutcome where
  | started
  | failed (error : Bytes)
  /-- The system has no thread left for the server. -/
  | threw

/-- What the functions of the service return, or throw. -/
inductive HostReturn where
  | stopped
  | start (result : StartResult)
  | threw

namespace McpHost

open McpHostConfigurationRepository

section Plan

variable {World : Type}
variable (library : DocumentLibrary)
variable (platform : Platform World)
variable (saveOutcome : ReplacementOutcome)
variable (path : FilesystemPath)
variable (profiles : List McpClientProfile)

/-- The plan for an enabled configuration that was loaded. -/
def planEnabled
    (loaded : McpHostConfiguration)
    (files : FileSystem)
    (world : World) : StartPlan × FileSystem :=
  match ensureClientCredentials platform loaded profiles world with
  | .error error => (.fails error, files)
  | .ok (ensured, world) =>
      let (saved, files) :=
        saveAdded library saveOutcome path loaded ensured files
      match saved with
      | .error thrown => (.throws thrown, files)
      | .ok (.error error) => (.fails error, files)
      | .ok (.ok ()) =>
          match collectClients platform ensured profiles world with
          | .error error => (.fails error, files)
          | .ok (clients, _) => (.launches ensured clients, files)

/-- The part of `start` between its `stop` and the HTTP host. -/
def planStart
    (files : FileSystem)
    (world : World) : StartPlan × FileSystem :=
  match load library (files path) with
  | .error (.thrown exception) => (.throws exception, files)
  | .error (.rejected error) => (.fails error, files)
  | .ok loaded =>
      if loaded.enabled = false then
        (.disabled, files)
      else if profiles.isEmpty then
        (.fails
          (bytes "MCP host requires at least one configured client profile"),
          files)
      else
        planEnabled library platform saveOutcome path profiles loaded
          files world

end Plan

/-- What the request handlers read is replaced. -/
def install
    (configuration : McpHostConfiguration)
    (clients : List AuthenticatedClient)
    (host : McpHost) : McpHost :=
  { host with configuration := configuration, clients := clients }

/-- The end of `start` after the HTTP host did not start. -/
def failStart (error : Bytes) (host : McpHost) : McpHost :=
  { host with clients := [], status := error }

/-- The end of `start` after the HTTP host did. -/
def acceptStart (host : McpHost) : McpHost :=
  { host with
    running := true
    status := listeningStatus host.configuration }

/-- The part of `start` behind its plan. -/
def carryOut
    (outcome : HostOutcome)
    (host : McpHost) : StartPlan → McpHost × HostReturn
  | .throws thrown => (host, .start (.error thrown))
  | .fails error =>
      ({ host with status := error }, .start (.ok (.error error)))
  | .disabled =>
      ({ host with
          status :=
            bytes "MCP host is disabled by runtime configuration" },
        .start (.ok (.ok ())))
  | .launches configuration clients =>
      let host := host.install configuration clients
      match outcome with
      | .started => (host.acceptStart, .start (.ok (.ok ())))
      | .failed error =>
          (host.failStart error, .start (.ok (.error error)))
      | .threw => (host, .threw)

/-- A function of the service that is called in one piece. -/
inductive Call where
  | stop
  | start (plan : StartPlan) (outcome : HostOutcome)

/-- The service between its calls. -/
def call (host : McpHost) : Call → McpHost × HostReturn
  | .stop => (host.stop, .stopped)
  | .start plan outcome => host.stop.carryOut outcome plan

/-- The outcome that `start` learns from the HTTP host. -/
def outcomeOf : Option Bytes → HostOutcome
  | none => .started
  | some error => .failed error

section Start

variable {World : Type}
variable (library : DocumentLibrary)
variable (platform : Platform World)
variable (saveOutcome : ReplacementOutcome)
variable (startHost : HttpHostOptions → Option Bytes)
variable (path : FilesystemPath)
variable (profiles : List McpClientProfile)

/-- The outcome belongs to the options of a plan that launches the host. -/
def planOutcome : StartPlan → HostOutcome
  | .launches configuration _ =>
      outcomeOf (startHost (hostOptions configuration))
  | .throws _ | .fails _ | .disabled => .started

/-- `start` makes its plan and carries it out. -/
theorem start_eq_carryOut
    (host : McpHost)
    (files : FileSystem)
    (world : World) :
    let planned :=
      planStart library platform saveOutcome path profiles files world
    let carriedOut :=
      host.stop.carryOut (planOutcome startHost planned.1) planned.1
    let started :=
      start library platform saveOutcome startHost path profiles host
        files world
    started.2.1 = planned.2 ∧
      carriedOut = (started.2.2, .start started.1) := by
  simp only [start, planStart]
  cases load library (files path) with
  | error failure =>
      cases failure <;> exact ⟨rfl, rfl⟩
  | ok loaded =>
      simp only
      by_cases disabled : loaded.enabled = false
      · rw [if_pos disabled, if_pos disabled]
        exact ⟨rfl, rfl⟩
      · rw [if_neg disabled, if_neg disabled]
        by_cases empty : profiles.isEmpty = true
        · rw [if_pos empty, if_pos empty]
          exact ⟨rfl, rfl⟩
        · rw [if_neg empty, if_neg empty]
          simp only [startEnabled, planEnabled]
          cases ensureClientCredentials platform loaded profiles world with
          | error error =>
              exact ⟨rfl, rfl⟩
          | ok ensured =>
              simp only
              cases saveAdded library saveOutcome path loaded ensured.1
                  files with
              | mk saved after =>
                  cases saved with
                  | error thrown =>
                      exact ⟨rfl, rfl⟩
                  | ok written =>
                      cases written with
                      | error error =>
                          exact ⟨rfl, rfl⟩
                      | ok done =>
                          simp only
                          cases collectClients platform ensured.1 profiles
                              ensured.2 with
                          | error error =>
                              exact ⟨rfl, rfl⟩
                          | ok collected =>
                              simp only [launch, planOutcome]
                              cases startHost
                                  (hostOptions ensured.1) <;>
                                exact ⟨rfl, rfl⟩

end Start

end McpHost

/-- Where `SimpleWebHttpHost::stop` stands. -/
inductive HostStopPhase where
  | closing
  | joining
  | resetting

/-- What goes on when the HTTP host is stopped. -/
inductive AfterHostStop where
  /-- The service's own `stop`, which `start` calls first. -/
  | service (restarts : Bool)
  /-- `SimpleWebHttpHost::start`, for a new server. -/
  | start
  /-- `SimpleWebHttpHost::start`, which returns an error. -/
  | failure (error : Bytes)

/-- Where the operator's thread stands. -/
inductive HostPhase where
  | idle
  | stopping (point : HostStopPhase) (after : AfterHostStop)
  | clearing (restarts : Bool)
  | loading
  | checking
  | preparing
  | spawning
  | waiting
  | failing (error : Bytes)
  | accepting

/-- The operator's thread goes on behind `SimpleWebHttpHost::stop`. -/
def AfterHostStop.phase : AfterHostStop → HostPhase
  | .service restarts => .clearing restarts
  | .start => .preparing
  | .failure error => .failing error

/-- The thread of a server until it is joined. -/
inductive ServerThread where
  | running (server : Nat)
  | failing (server : Nat) (what : Bytes)
  | ended (server : Nat)

/-- The server whose thread it is. -/
def ServerThread.server : ServerThread → Nat
  | .running server | .failing server _ | .ended server => server

/-- The service, the HTTP host and both threads. -/
structure HttpHostThreads where
  host : McpHost := {}
  operator : HostPhase := .idle
  /-- The number of servers made so far, which numbers the next one. -/
  servers : Nat := 0
  server : Option Nat := none
  thread : Option ServerThread := none
  startupFinished : Bool := false
  startupOk : Bool := false
  startupError : Bytes := []
  /-- The counter of active requests, its limit and the requests. -/
  requests : SimpleWebHttpHost := { maximumConnections := 1, threads := 0 }

/-- What the operator's thread meets on its next step. -/
structure HostSupply where
  plan : StartPlan := .disabled
  /-- The number of threads on which a new server serves. -/
  threads : UInt64 := 1
  threadStarts : Bool := true
  timedOut : Bool := false

/-- What a server does. -/
inductive ServerMove where
  | callsBack
  | throws (what : Bytes)
  /-- The exception that was caught is written down. -/
  | reports
  | returns

/-- A step of one of the threads. -/
inductive HttpHostCall where
  | enterStart
  | enterStop
  | operator (supply : HostSupply)
  | server (move : ServerMove)
  | request (call : DispatchCall)

/-- What a step shows. -/
inductive HttpHostEvent where
  | nothing
  | returned (result : HostReturn)
  | calledBack (server : Nat)
  | threw (server : Nat) (what : Bytes)
  | replied (reply : DispatchReply)

namespace HttpHostThreads

/-- The operator's thread goes on at another phase. -/
def operatorAt (phase : HostPhase) (threads : HttpHostThreads) :
    HttpHostThreads :=
  { threads with operator := phase }

/-- The operator's thread returns from a function of the service. -/
def leave
    (called : McpHost × HostReturn)
    (threads : HttpHostThreads) : HttpHostThreads × HttpHostEvent :=
  ({ threads with host := called.1, operator := .idle },
    .returned called.2)

/-- The parts of `SimpleWebHttpHost::stop`. -/
def advanceStop
    (after : AfterHostStop)
    (threads : HttpHostThreads) : HostStopPhase → HttpHostThreads
  -- What the server makes of being stopped is a step of its own.
  | .closing => threads.operatorAt (.stopping .joining after)
  | .joining =>
      match threads.thread with
      | none | some (.ended _) =>
          { threads with
            thread := none
            operator := .stopping .resetting after }
      | some (.running _) | some (.failing _ _) => threads
  | .resetting =>
      { threads with server := none, operator := after.phase }

/-- The errors of `SimpleWebHttpHost::start` before it does anything. -/
def optionsError? (options : HttpHostOptions) : Option Bytes :=
  if options.enabled = false then
    some (bytes "The MCP host is disabled by runtime configuration")
  else if
      McpHostConfigurationRepository.isLoopback options.bindAddress =
          false ∨
        options.port = 0 ∨ options.maxRequestBodyBytes = 0 then
    some (bytes
      "HTTP host requires a loopback address, port, request limit, and handler")
  else
    none

/-- A new server, and startup flags that it has not touched. -/
def prepare
    (serving : UInt64)
    (threads : HttpHostThreads) : HttpHostThreads :=
  { threads with
    operator := .spawning
    servers := threads.servers + 1
    server := some threads.servers
    startupFinished := false
    startupOk := false
    startupError := []
    requests :=
      { threads.requests with
        maximumConnections := threads.host.configuration.maximumConnections
        threads := serving
        activeRequests := 0 } }

/-- The error that the server has reported. -/
def reportedError (threads : HttpHostThreads) : Bytes :=
  if threads.startupError = [] then
    bytes "HTTP host failed to start"
  else
    threads.startupError

/-- The predicate of `wait_for` is looked at under the mutex. -/
def awaitStartup
    (timedOut : Bool)
    (threads : HttpHostThreads) : HttpHostThreads :=
  threads.operatorAt
    (if threads.startupFinished then
      if threads.startupOk then
        .accepting
      else
        .stopping .closing (.failure threads.reportedError)
    else if timedOut then
      .stopping .closing
        (.failure (bytes "HTTP host did not start within 5 seconds"))
    else
      .waiting)

/-- The plan of `start` is made; it ends or turns to the HTTP host. -/
def takePlan
    (plan : StartPlan)
    (threads : HttpHostThreads) : HttpHostThreads × HttpHostEvent :=
  match plan with
  | .launches configuration clients =>
      ({ threads with
          host := threads.host.install configuration clients
          operator := .checking },
        .nothing)
  | .throws _ | .fails _ | .disabled =>
      threads.leave (threads.host.carryOut .started plan)

/-- The operator's thread goes on inside its function. -/
def advanceOperator
    (supply : HostSupply)
    (threads : HttpHostThreads) :
    HostPhase → HttpHostThreads × HttpHostEvent
  | .idle => (threads, .nothing)
  | .stopping point after => (threads.advanceStop after point, .nothing)
  | .clearing true =>
      ({ threads with host := threads.host.stop, operator := .loading },
        .nothing)
  | .clearing false => threads.leave (threads.host.stop, .stopped)
  | .loading => threads.takePlan supply.plan
  | .checking =>
      (threads.operatorAt
          (match
            optionsError? (McpHost.hostOptions threads.host.configuration)
            with
          | some error => .failing error
          | none => .stopping .closing .start),
        .nothing)
  | .preparing => (threads.prepare supply.threads, .nothing)
  | .spawning =>
      if supply.threadStarts then
        ({ threads with
            thread := threads.server.map .running
            operator := .waiting },
          .nothing)
      else
        threads.leave (threads.host, .threw)
  | .waiting => (threads.awaitStartup supply.timedOut, .nothing)
  | .failing error =>
      threads.leave
        (threads.host.failStart error, .start (.ok (.error error)))
  | .accepting =>
      threads.leave (threads.host.acceptStart, .start (.ok (.ok ())))

/-- The operator's thread enters a function of the service. -/
def enter
    (restarts : Bool)
    (threads : HttpHostThreads) : HttpHostThreads :=
  match threads.operator with
  | .idle => threads.operatorAt (.stopping .closing (.service restarts))
  | _ => threads

/-- The server's thread takes a step. -/
def advanceServer
    (move : ServerMove)
    (threads : HttpHostThreads) : HttpHostThreads × HttpHostEvent :=
  match threads.thread, move with
  | some (.running server), .callsBack =>
      ({ threads with startupOk := true, startupFinished := true },
        .calledBack server)
  | some (.running server), .throws what =>
      ({ threads with thread := some (.failing server what) },
        .threw server what)
  | some (.running server), .returns =>
      ({ threads with thread := some (.ended server) }, .nothing)
  | some (.failing server what), .reports =>
      ({ threads with
          thread := some (.ended server)
          startupError := what
          startupFinished := true },
        .nothing)
  | _, _ => (threads, .nothing)

/-- A thread of the server takes a step in `dispatch`. -/
def advanceRequest
    (call : DispatchCall)
    (threads : HttpHostThreads) : HttpHostThreads × HttpHostEvent :=
  let dispatched :=
    (dispatchMachine threads.requests.maximumConnections
      threads.requests.threads).step threads.requests call
  ({ threads with requests := dispatched.1 }, .replied dispatched.2)

/-- One step; a step that no thread can take changes nothing. -/
def step (threads : HttpHostThreads) :
    HttpHostCall → HttpHostThreads × HttpHostEvent
  | .enterStart => (threads.enter true, .nothing)
  | .enterStop => (threads.enter false, .nothing)
  | .operator supply => threads.advanceOperator supply threads.operator
  | .server move => threads.advanceServer move
  | .request call => threads.advanceRequest call

end HttpHostThreads

/-- All interleavings of the operator's thread and the threads of a server. -/
def httpHostThreads :
    Machine HttpHostThreads HttpHostCall HttpHostEvent where
  initial := {}
  step := HttpHostThreads.step

/--
What the host relies on of its server: a request enters `dispatch` while the
server runs, and the server ends when no request is in `dispatch` any more.
-/
def ServerMayTake (threads : HttpHostThreads) : HttpHostCall → Prop
  | .request (.dispatch _) =>
      ∃ server, threads.thread = some (.running server)
  | .server (.throws _) | .server .returns =>
      threads.requests.dispatching = []
  | _ => True

/-- Every step of the run is one that the server may take. -/
def ServerKeepsItsContract (calls : List HttpHostCall) : Prop :=
  ∀ first call,
    first ++ [call] <+: calls →
    ServerMayTake (httpHostThreads.state first) call

end TgGate
