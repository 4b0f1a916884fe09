/-
  Commands and intents on their way to the dispatcher (`oneshim-automation/src/controller/`).

  `execute_command` looks up the policy of the token and may ask the user; the gate then validates
  the token, unless it is one of four internal ones, looks the policy up again for the sandbox, and
  dispatches.  `execute_intent` runs the intent executor over an input driver: over the gate when the
  token is internal, and over the driver of the executor itself when it is not.

  1. **Code** — `GateCall` and `AutomationCall` say where a call stands between two locks or awaits,
     `AutomationController.turn` what it does up to the next one.  Policies are updated, and
     confirmations listed and answered, by calls of their own.

  2. **The record** — every lookup, acceptance, dispatch and drive of the run, with the policies that
     were in the cache.

  3. **The result** (`dispatch_needs_authority`) — what precedes every dispatch, and which tokens
     drive the input directly.

  The audit logger and the health flag are left out: nothing here reads them.  The element finder and
  the outside world are in the answers that a turn gets.
-/
import Oneshim.Automation.Confirmation
import Oneshim.Automation.Policy

namespace Oneshim.Automation

open Lib

/-! ## Data -/

/-- `CommandResult`. -/
inductive CommandResult where
  | success
  | failed (message : String)
  | timeout
  | denied

/-- `IntentConfig`; the other fields time the attempts or pick the element, which is in the
    answers. -/
structure IntentConfig where
  maxRetries : Nat
  deriving DecidableEq

/-- `AutomationIntent`. -/
inductive AutomationIntent where
  | clickElement (text role appName : Option String) (button : String)
  | typeIntoElement (elementText role : Option String) (text : String)
  | executeHotkey (keys : List String)
  | waitForText (text : String) (timeoutMs : Nat)
  | activateApp (appName : String)
  | raw (action : AutomationAction)
  deriving DecidableEq

/-- `IntentCommand`. -/
structure IntentCommand where
  commandId : String
  sessionId : String
  intent : AutomationIntent
  config : Option IntentConfig
  timeoutMs : Option Nat
  policyToken : String
  deriving DecidableEq

/-- The internal policy tokens. -/
def internalPolicyTokens : List String :=
  ["gui-session", "intent-hint", "scene-action", "workflow-step"]

/-- `uses_internal_policy_token`. -/
def usesInternalPolicyToken (policyToken : String) : Bool :=
  internalPolicyTokens.contains policyToken

/-- What one attempt of `resolve_and_execute` asks of the input driver; `found` is the center of the
    first element that is confident enough, or nothing when the finder fails.  Without a value the
    attempt fails. -/
def AutomationIntent.actions (found : Option (Option (Int × Int))) :
    AutomationIntent → Option (List AutomationAction)
  | .clickElement _ _ _ button =>
    found.bind fun best => best.map fun (x, y) => [.mouseClick button x y]
  | .typeIntoElement _ _ text =>
    found.map fun best =>
      (best.map fun (x, y) => AutomationAction.mouseClick "left" x y).toList ++ [.keyType text]
  | .executeHotkey keys => some [.hotkey keys]
  | .waitForText _ _ => found.bind fun best => best.map fun _ => []
  | .activateApp _ => some []
  | .raw action => some [action]

/-- What a turn gets from outside. -/
structure AutomationAnswer where
  now : Int
  /-- The nonce of a confirmation. -/
  nonce : String
  /-- The 30 seconds of a confirmation are over. -/
  elapsed : Bool
  found : Option (Option (Int × Int))
  /-- How the dispatch has ended, if it has. -/
  dispatch : Option CommandResult
  /-- The input driver has done what it was asked for. -/
  driver : Bool

/-! ## The gate -/

/-- Where `CommandExecutionGate::execute` stands. -/
inductive GateCall where
  | entering
  /-- `validate_command` before it reads the age of the cache. -/
  | expiring
  /-- `validate_command` before it looks up the policy. -/
  | finding (now : Int) (ttlSeconds : Nat)
  /-- `validate_command` before it takes the lock on the used tokens. -/
  | recording (now : Int) (ttlSeconds : Nat) (policies : List ExecutionPolicy)
  /-- Before `resolve_for_command`. -/
  | resolving
  | dispatching (config : SandboxConfig)
  | awaiting (config : SandboxConfig)
  | finished (result : Except AutomationError CommandResult)

/-- What a turn leaves in the record of the run. -/
inductive AutomationEvent where
  /-- `execute_command` has looked up the policy of its token. -/
  | looked (caller : Nat) (cmd : AutomationCommand) (policies : List ExecutionPolicy)
  /-- `validate_command` has accepted the token, under a policy looked up in these. -/
  | accepted (caller : Nat) (cmd : AutomationCommand) (policies : List ExecutionPolicy)
  /-- The action is handed to the dispatcher. -/
  | dispatched (caller : Nat) (cmd : AutomationCommand) (config : SandboxConfig)
  /-- The action is handed to the input driver of the intent executor. -/
  | drove (caller : Nat) (cmd : IntentCommand) (action : AutomationAction)
  deriving DecidableEq

/-- The token as `validate_command` works with it. -/
def AutomationCommand.token (cmd : AutomationCommand) : List Char := Text.trim cmd.policyToken.toList

/-- `resolve_for_command`, the sandbox. -/
def resolveForCommand (policies : List ExecutionPolicy) (baseConfig : SandboxConfig)
    (cmd : AutomationCommand) : SandboxConfig :=
  if usesInternalPolicyToken cmd.policyToken then defaultStrictConfig baseConfig
  else
    match getPolicyForToken policies cmd.policyToken.toList with
    | some policy => resolveSandboxConfig policy baseConfig
    | none => defaultStrictConfig baseConfig

/-- The gate up to its next lock or await: the client, where the gate stands, and the event. -/
def GateCall.turn (services : PolicyServices) (baseConfig : SandboxConfig) (client : PolicyClient)
    (caller : Nat) (answer : AutomationAnswer) (cmd : AutomationCommand) :
    GateCall → PolicyClient × GateCall × Option AutomationEvent
  | .entering =>
    if usesInternalPolicyToken cmd.policyToken then (client, .resolving, none)
    else if client.ttlSeconds = 0 then (client, .finished (.ok .denied), none)
    else (client, .expiring, none)
  | .expiring =>
    match parsePolicyToken cmd.token with
    | none => (client, .finished (.ok .denied), none)
    | some parsed =>
      if cmd.token.isEmpty || !isValidNonce parsed.nonce || client.remainingTtl answer.now == 0 then
        (client, .finished (.ok .denied), none)
      else (client, .finding answer.now (client.remainingTtl answer.now), none)
  | .finding now ttlSeconds =>
    match parsePolicyToken cmd.token, getPolicyForToken client.policies cmd.token with
    | some parsed, some policy =>
      match checkToken services cmd policy parsed with
      | .ok true => (client, .recording now ttlSeconds client.policies, none)
      | .ok false => (client, .finished (.ok .denied), none)
      | .error error => (client, .finished (.error error), none)
    | _, _ => (client, .finished (.ok .denied), none)
  | .recording now ttlSeconds policies =>
    let validated := client.retained now ttlSeconds
    if validated.any (·.1 == cmd.token) then
      ({ client with validatedTokens := validated }, .finished (.ok .denied), none)
    else
      ({ client with validatedTokens := validated ++ [(cmd.token, now)] }, .resolving,
        some (.accepted caller cmd policies))
  | .resolving => (client, .dispatching (resolveForCommand client.policies baseConfig cmd), none)
  | .dispatching config => (client, .awaiting config, some (.dispatched caller cmd config))
  | .awaiting config =>
    match answer.dispatch with
    | some result => (client, .finished (.ok result), none)
    | none =>
      if cmd.timeoutMs.isSome || config.maxCpuTimeMs > 0 then
        (client, .finished (.ok .timeout), none)
      else (client, .awaiting config, none)
  | .finished result => (client, .finished result, none)

/-! ## The controller -/

/-- `AutomationController`, with the record of the run; the intent executor is its configuration. -/
structure AutomationController where
  enabled : Bool
  baseSandboxConfig : SandboxConfig
  intentExecutor : Option IntentConfig
  policyClient : PolicyClient
  confirmations : RecordedConfirmations
  log : List AutomationEvent

/-- The calls that change policies. -/
inductive PolicyUpdate where
  | updatePolicies (policies : List ExecutionPolicy)
  | addPolicy (policy : ExecutionPolicy)
  | removePolicy (policyId : String)

/-- An attempt of an intent: the attempts left after it, and the number of the next action. -/
structure IntentAttempt where
  left : Nat
  nextActionIndex : Nat

/-- Where a call stands. -/
inductive AutomationCall where
  | executing (cmd : AutomationCommand)
  /-- `execute_command` in `request_confirmation`. -/
  | confirming (cmd : AutomationCommand) (call : ConfirmationCall)
  | gating (cmd : AutomationCommand) (call : GateCall)
  | returned (result : Except AutomationError CommandResult)
  | intending (cmd : IntentCommand)
  /-- An attempt before the finder has answered. -/
  | attempting (cmd : IntentCommand) (attempt : IntentAttempt)
  | driving (cmd : IntentCommand) (attempt : IntentAttempt) (actions : List AutomationAction)
  /-- An action of an intent in the gate. -/
  | gatingIntent (cmd : IntentCommand) (attempt : IntentAttempt) (rest : List AutomationAction)
      (action : AutomationCommand) (call : GateCall)
  /-- The end of an intent, with `success`. -/
  | intended (result : Except AutomationError Bool)
  | updating (update : PolicyUpdate)
  | updated
  /-- The user lists or answers confirmations. -/
  | answering (call : ConfirmationCall)

/-- `build_command` of the gated driver. -/
def IntentCommand.buildCommand (cmd : IntentCommand) (attempt : IntentAttempt)
    (action : AutomationAction) : AutomationCommand :=
  { commandId := s!"{cmd.commandId}:action-{attempt.nextActionIndex}"
    sessionId := cmd.sessionId
    action
    timeoutMs := cmd.timeoutMs
    policyToken := cmd.policyToken }

/-- An attempt that failed: the next one, or the end of the intent. -/
def IntentCommand.retry (cmd : IntentCommand) (attempt : IntentAttempt) : AutomationCall :=
  match attempt.left with
  | 0 => .intended (.ok false)
  | left + 1 => .attempting cmd { attempt with left }

/-- The error of `ensure_enabled`. -/
def automationDisabled : AutomationError := .policyDenied "자동화가 비active화 state입니다"

/-- The error of `require_intent_executor`. -/
def intentExecutorMissing : AutomationError := .configMissing "IntentExecutor is not configured"

namespace AutomationController

/-- `execute_command` up to the gate or the wait for the user. -/
def startCommand (self : AutomationController) (answer : AutomationAnswer)
    (cmd : AutomationCommand) : AutomationCall :=
  match getPolicyForToken self.policyClient.policies cmd.policyToken.toList with
  | none => .gating cmd .entering
  | some policy =>
    match policy.confirmation with
    | .block => .returned (.ok .denied)
    | .confirm => .confirming cmd (.requesting
        { commandId := cmd.commandId, nonce := answer.nonce, processName := policy.processName
          args := policy.allowedArgs, auditLevel := policy.auditLevel.debug
          requestedAt := answer.now })
    | .auto => .gating cmd .entering

/-- `execute_command` after a turn of its confirmation. -/
def confirmed (cmd : AutomationCommand) : ConfirmationCall → AutomationCall
  | .answered _ true => .gating cmd .entering
  | .answered _ false => .returned (.ok .denied)
  | call => .confirming cmd call

/-- The controller after a turn of the gate. -/
def gated (self : AutomationController) (client : PolicyClient) (event : Option AutomationEvent) :
    AutomationController :=
  { self with policyClient := client, log := event.toList ++ self.log }

/-- A call up to its next lock or await. -/
def turn (services : PolicyServices) (self : AutomationController) (caller : Nat)
    (answer : AutomationAnswer) : AutomationCall → AutomationController × AutomationCall
  | .executing cmd =>
    if self.enabled then
      ({ self with log := .looked caller cmd self.policyClient.policies :: self.log },
        self.startCommand answer cmd)
    else (self, .returned (.error automationDisabled))
  | .confirming cmd call =>
    let (confirmations, call) := self.confirmations.turn caller answer.elapsed call
    ({ self with confirmations }, confirmed cmd call)
  | .gating cmd call =>
    let (client, call, event) :=
      call.turn services self.baseSandboxConfig self.policyClient caller answer cmd
    match call with
    | .finished result => (self.gated client event, .returned result)
    | call => (self.gated client event, .gating cmd call)
  | .returned result => (self, .returned result)
  | .intending cmd =>
    if self.enabled then
      match self.intentExecutor with
      | none => (self, .intended (.error intentExecutorMissing))
      | some config => (self, .attempting cmd ⟨(cmd.config.getD config).maxRetries, 0⟩)
    else (self, .intended (.error automationDisabled))
  | .attempting cmd attempt =>
    match cmd.intent.actions answer.found with
    | none => (self, cmd.retry attempt)
    | some actions => (self, .driving cmd attempt actions)
  | .driving _ _ [] => (self, .intended (.ok true))
  | .driving cmd attempt (action :: rest) =>
    if usesInternalPolicyToken cmd.policyToken then
      (self, .gatingIntent cmd { attempt with nextActionIndex := attempt.nextActionIndex + 1 } rest
        (cmd.buildCommand attempt action) .entering)
    else
      -- the driver of the template: nothing is validated
      ({ self with log := .drove caller cmd action :: self.log },
        if answer.driver then .driving cmd attempt rest else cmd.retry attempt)
  | .gatingIntent cmd attempt rest action call =>
    let (client, call, event) :=
      call.turn services self.baseSandboxConfig self.policyClient caller answer action
    match call with
    | .finished (.ok .success) => (self.gated client event, .driving cmd attempt rest)
    | .finished _ => (self.gated client event, cmd.retry attempt)
    | call => (self.gated client event, .gatingIntent cmd attempt rest action call)
  | .intended result => (self, .intended result)
  | .updating update =>
    ({ self with
        policyClient :=
          match update with
          | .updatePolicies policies => self.policyClient.updatePolicies answer.now policies
          | .addPolicy policy => self.policyClient.addPolicy answer.now policy
          | .removePolicy policyId => self.policyClient.removePolicy answer.now policyId },
      .updated)
  | .updated => (self, .updated)
  | .answering call =>
    let (confirmations, call) := self.confirmations.turn caller answer.elapsed call
    ({ self with confirmations }, .answering call)

end AutomationController

/-- The calls of `AutomationPort` that are modelled. -/
inductive AutomationRequest where
  | executeCommand (cmd : AutomationCommand)
  | executeIntent (cmd : IntentCommand)
  | updatePolicies (update : PolicyUpdate)
  | submitConfirmation (commandId nonce : String) (approved : Bool)
  | listPendingConfirmations

/-- Where a new call stands. -/
def AutomationRequest.call : AutomationRequest → AutomationCall
  | .executeCommand cmd => .executing cmd
  | .executeIntent cmd => .intending cmd
  | .updatePolicies update => .updating update
  | .submitConfirmation commandId nonce approved => .answering (.submitting commandId nonce approved)
  | .listPendingConfirmations => .answering .listing

/-- The calls over the controller. -/
def automationCalls (services : PolicyServices) :
    CallSystem AutomationController AutomationRequest AutomationAnswer AutomationCall where
  enter := AutomationRequest.call
  turn := AutomationController.turn services

/-- The controller and its callers. -/
abbrev AutomationSystem := Calls AutomationController AutomationCall

/-- What can happen next. -/
abbrev AutomationMove := CallMove AutomationRequest AutomationAnswer

/-- The controller before any call, with any policies. -/
def AutomationSystem.start (enabled : Bool) (baseSandboxConfig : SandboxConfig)
    (intentExecutor : Option IntentConfig) (policyClient : PolicyClient) : AutomationSystem :=
  ⟨⟨enabled, baseSandboxConfig, intentExecutor, policyClient, .start, []⟩, []⟩

end Oneshim.Automation
