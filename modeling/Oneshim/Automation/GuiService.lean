/-
  Interaction sessions (`oneshim-automation/src/gui_interaction/`, `oneshim-core/src/models/gui.rs`).

  A session goes from a proposal to an execution.  A request looks at its session under a lock, asks
  the focus probe or the overlay without it, and writes the session under the lock again.

  1. **Data** — sessions, tickets, plans.

  2. **Tickets** (`signTicket`, `verifyTicket`) — the signature covers eight fields, joined by `|`.
     The MAC under the secret of the service is a parameter.

  3. **Blocks** — what a request does to its session in one hold of the lock, named after the request.

  4. **Requests** (`guiCalls`) — any number of them, their blocks interleaved.  What has been issued
     and planned is kept in a history, the newest first.

  Published events, the overlay handles that are cleared, and the ranking of the candidates are left
  out: no later block reads them.
-/
import Mathlib.Algebra.Group.Int.Defs
import Oneshim.Automation.Policy
import Oneshim.Lib.Calls
import Oneshim.Lib.Hex
import Oneshim.Lib.Outcome
import Oneshim.Lib.Table

namespace Oneshim.Gui

open Lib (Table CallSystem Calls bind_eq_ok_iff)
open Automation (AutomationAction)

/-! ## Data -/

/-- `GuiSessionState`. -/
inductive GuiSessionState where
  | proposed
  | highlighted
  | confirmed
  | executing
  | executed
  | cancelled
  | expired
deriving DecidableEq

/-- `GuiSessionState` as `{:?}` prints it. -/
def GuiSessionState.debug : GuiSessionState → String
  | .proposed => "Proposed"
  | .highlighted => "Highlighted"
  | .confirmed => "Confirmed"
  | .executing => "Executing"
  | .executed => "Executed"
  | .cancelled => "Cancelled"
  | .expired => "Expired"

/-- `GuiInteractionError`. -/
inductive GuiInteractionError where
  | notFound (name : String)
  | unauthorized
  | badRequest (message : String)
  | forbidden (message : String)
  | focusDrift (message : String)
  | ticketInvalid (message : String)
  | unavailable (message : String)
  | internal (message : String)

/-- `FocusSnapshot`, what a binding is made of. -/
structure FocusSnapshot where
  appName : String
  pid : Nat
  focusHash : String
deriving DecidableEq

/-- `ExecutionBinding`. -/
structure ExecutionBinding where
  focusHash : String
  appName : Option String
  pid : Option Nat

/-- `FocusValidation`, without the focus it was made against. -/
structure FocusValidation where
  valid : Bool
  reason : Option String

/-- `ElementBounds`. -/
structure ElementBounds where
  x : Int
  y : Int
  width : Nat
  height : Nat
deriving DecidableEq

/-- `GuiCandidate`, with what is used of its element. -/
structure GuiCandidate where
  elementId : String
  bboxAbs : ElementBounds
  textMasked : Option String
  eligible : Bool
deriving DecidableEq

/-- `HighlightTarget`. -/
structure HighlightTarget where
  candidateId : String
  bboxAbs : ElementBounds
  color : String
  label : Option String

/-- `GuiActionType`. -/
inductive GuiActionType where
  | click
  | doubleClick
  | rightClick
  | typeText

/-- `GuiActionRequest`. -/
structure GuiActionRequest where
  actionType : GuiActionType
  text : Option String

/-- `GuiConfirmRequest`. -/
structure GuiConfirmRequest where
  candidateId : String
  action : GuiActionRequest
  ticketTtlSecs : Option Nat

/-- `GuiExecutionTicket`; points of time are nanoseconds. -/
structure GuiExecutionTicket where
  schemaVersion : String
  ticketId : String
  sessionId : String
  sceneId : String
  elementId : String
  actionHash : String
  focusHash : String
  issuedAt : Int
  expiresAt : Int
  nonce : String
  signature : String
deriving DecidableEq

/-- `ConfirmedAction`. -/
structure ConfirmedAction where
  candidateId : String
  actions : List AutomationAction
  actionHash : String
  ticket : GuiExecutionTicket
deriving DecidableEq

/-- `GuiInteractionSession`, with the id of its scene. -/
structure GuiInteractionSession where
  sessionId : String
  state : GuiSessionState
  sceneId : String
  focus : FocusSnapshot
  candidates : List GuiCandidate
  selectedElementId : Option String
  createdAt : Int
  updatedAt : Int
  expiresAt : Int
deriving DecidableEq

/-- `StoredSession`. -/
structure StoredSession where
  session : GuiInteractionSession
  capabilityToken : String
  overlayHandleId : Option String
  confirmedAction : Option ConfirmedAction
  usedTicketNonces : List String
deriving DecidableEq

/-- The id a session is stored under. -/
def StoredSession.id (self : StoredSession) : String := self.session.sessionId

/-- `GuiExecutionPlan`. -/
structure GuiExecutionPlan where
  sessionId : String
  commandId : String
  actions : List AutomationAction
  ticket : GuiExecutionTicket

/-- `GuiExecutionOutcome`. -/
structure GuiExecutionOutcome where
  session : GuiInteractionSession
  succeeded : Bool
  detail : Option String
  stepsCompleted : Nat
  totalSteps : Nat

/-! ## Helpers -/

/-- A second in nanoseconds. -/
def second : Int := 1000000000

/-- `timestamp_millis`. -/
def timestampMillis (t : Int) : Int := t / 1000000

/-- `as i64`. -/
def asI64 (value : Nat) : Int := if value < 2 ^ 63 then value else value - 2 ^ 64

/-- `as i32`. -/
def asI32 (value : Nat) : Int := if value < 2 ^ 31 then value else value - 2 ^ 32

/-- `clamp`. -/
def clamp (low high value : Int) : Int := max low (min value high)

/-- `DEFAULT_SESSION_TTL_SECS`. -/
def defaultSessionTtlSecs : Int := 300

/-- `DEFAULT_TICKET_TTL_SECS`. -/
def defaultTicketTtlSecs : Int := 30

/-- `FOCUS_DRIFT_MAX_RETRIES`. -/
def focusDriftMaxRetries : Nat := 2

/-- `TICKET_EXPIRY_GRACE_SECS`. -/
def ticketExpiryGraceSecs : Int := 5

/-- `is_expired`. -/
def isExpired (expiresAt now : Int) : Bool := expiresAt ≤ now

/-- `is_expired_past_grace`. -/
def isExpiredPastGrace (expiresAt graceSecs now : Int) : Bool := expiresAt + graceSecs * second ≤ now

/-- `build_actions_for_candidate`. -/
def buildActionsForCandidate (candidate : GuiCandidate) (action : GuiActionRequest) :
    Except GuiInteractionError (List AutomationAction) :=
  let centerX := candidate.bboxAbs.x + (asI32 candidate.bboxAbs.width).tdiv 2
  let centerY := candidate.bboxAbs.y + (asI32 candidate.bboxAbs.height).tdiv 2
  match action.actionType with
  | .click => .ok [.mouseClick "left" centerX centerY]
  | .doubleClick => .ok [.mouseClick "left" centerX centerY, .mouseClick "left" centerX centerY]
  | .rightClick => .ok [.mouseClick "right" centerX centerY]
  | .typeText =>
    match action.text.filter fun value => Lib.Text.trim value.toList != [] with
    | some text => .ok [.mouseClick "left" centerX centerY, .keyType text]
    | none => .error (.badRequest "type_text action requires non-empty text")

/-! ## Tickets -/

/-- What the service is made with: the MAC under its secret, if it has one, and SHA-256 of the
    serialized actions. -/
structure GuiSetup where
  hmac : Option (List Char → List UInt8)
  hashActions : List AutomationAction → String

/-- `ticket_signature_payload`. -/
def ticketSignaturePayload (ticket : GuiExecutionTicket) : List Char :=
  ticket.sessionId.toList ++ '|' :: ticket.sceneId.toList ++ '|' :: ticket.elementId.toList ++
    '|' :: ticket.actionHash.toList ++ '|' :: ticket.focusHash.toList ++
    '|' :: Lib.Text.signedDecimal (timestampMillis ticket.issuedAt) ++
    '|' :: Lib.Text.signedDecimal (timestampMillis ticket.expiresAt) ++ '|' :: ticket.nonce.toList

/-- `sign_ticket`. -/
def signTicket (hmac : List Char → List UInt8) (ticket : GuiExecutionTicket) : String :=
  Lib.Hex.encodeLower (hmac (ticketSignaturePayload ticket))

/-- `decode_hex`: what `from_str_radix` reads of every two characters, a sign included. -/
def decodeHex : List Char → Option (List UInt8)
  | [] => some []
  | [_] => none
  | hi :: lo :: rest =>
    match (if hi = '+' then some 0 else Lib.Hex.value? hi), Lib.Hex.value? lo, decodeHex rest with
    | some h, some l, some bytes => some (UInt8.ofNat (16 * h + l) :: bytes)
    | _, _, _ => none

/-- `verify_ticket`. -/
def verifyTicket (hmac : List Char → List UInt8) (ticket : GuiExecutionTicket) :
    Except GuiInteractionError Unit :=
  match decodeHex ticket.signature.toList with
  | none => .error (.ticketInvalid "ticket signature format is invalid")
  | some bytes =>
    if bytes = hmac (ticketSignaturePayload ticket) then .ok ()
    else .error (.ticketInvalid "ticket signature mismatch")

/-! ## Requests -/

/-- What a request gets from outside at a turn: the clock (read twice at most), new ids, and the
    answers of the focus probe, the element finder and the overlay. -/
structure GuiAnswer where
  now : Int
  later : Int
  sessionId : String
  capabilityToken : String
  ticketId : String
  nonce : String
  currentFocus : Except GuiInteractionError FocusSnapshot
  /-- `analyze_scene` and `build_candidates`. -/
  scene : Except GuiInteractionError (String × List GuiCandidate)
  /-- `show_highlights`. -/
  highlights : Except GuiInteractionError String
  /-- `validate_execution_binding`, attempt by attempt. -/
  validate : ExecutionBinding → Nat → Except GuiInteractionError FocusValidation

/-- What a request returns. -/
inductive GuiResult where
  | created (session : GuiInteractionSession) (capabilityToken : String)
  | session (session : GuiInteractionSession)
  | ticket (ticket : GuiExecutionTicket)
  | plan (plan : GuiExecutionPlan)
  | outcome (outcome : GuiExecutionOutcome)
  | expired
  | failed (error : GuiInteractionError)

/-- What a request does at its next hold of the lock, with what it has read in the earlier ones. -/
inductive Stage where
  | getting (capabilityToken : String)
  | gettingStored
  | highlighting (capabilityToken : String) (candidateIds : Option (List String))
  | choosingTargets (candidateIds : Option (List String))
  | showing (sceneId : String) (targets : List HighlightTarget) (previousHandleId : Option String)
  | confirming (capabilityToken : String) (req : GuiConfirmRequest)
  | choosing (req : GuiConfirmRequest)
  | issuing (req : GuiConfirmRequest) (sessionFocus : FocusSnapshot) (candidate : GuiCandidate)
      (sceneId : String)
  | preparing (capabilityToken : String) (ticket : GuiExecutionTicket)
  | checking (ticket : GuiExecutionTicket)
  | committing (ticket : GuiExecutionTicket) (sessionFocus : FocusSnapshot)
      (confirmedAction : ConfirmedAction)
  | completing (succeeded : Bool) (detail : Option String) (stepsCompleted totalSteps : Nat)
  | cancelling (capabilityToken : String)
  | cancellingStored

/-- A request on its way. -/
inductive GuiCall where
  | creating (sessionTtlSecs : Option Nat)
  | session (sessionId : String) (stage : Stage)
  | expiring
  | done (result : GuiResult)

/-- What has happened: a session made, a ticket entered by a confirmation, a plan made for a ticket in
    a session. -/
inductive GuiEvent where
  | created (sessionId : String)
  | issued (ticket : GuiExecutionTicket)
  | planned (sessionId : String) (ticket : GuiExecutionTicket) (stored : StoredSession)
deriving DecidableEq

/-- How a request goes on. -/
inductive Next where
  | stage (stage : Stage)
  | return (result : GuiResult)

/-- What a block leaves: the session, what has happened, and how the request goes on. -/
structure Block where
  stored : StoredSession
  events : List GuiEvent
  next : Next

/-- A request that fails and leaves this session. -/
def Block.fail (stored : StoredSession) (error : GuiInteractionError) : Block :=
  ⟨stored, [], .return (.failed error)⟩

/-- The state of a session written, and when. -/
def StoredSession.withState (self : StoredSession) (state : GuiSessionState) (now : Int) :
    StoredSession :=
  { self with session := { self.session with state := state, updatedAt := now } }

/-- A session whose time is up, marked. -/
def StoredSession.markExpired (self : StoredSession) : StoredSession :=
  { self with session := { self.session with state := .expired } }

/-! ### Blocks -/

/-- `assert_capability_token`. -/
def assertCapabilityToken (stored : StoredSession) (capabilityToken : String) (next : Stage) :
    Block :=
  if stored.capabilityToken.toList ≠ Lib.Text.trim capabilityToken.toList then
    .fail stored .unauthorized
  else ⟨stored, [], .stage next⟩

/-- `get_session`. -/
def getSession (stored : StoredSession) (answer : GuiAnswer) : Block :=
  let stored := if isExpired stored.session.expiresAt answer.now then stored.markExpired else stored
  ⟨stored, [], .return (.session stored.session)⟩

/-- `highlight_session`, the targets. -/
def highlightTargets (stored : StoredSession) (candidateIds : Option (List String)) :
    List HighlightTarget :=
  let candidateIds := candidateIds.map fun ids =>
    (ids.map fun value => Lib.Text.trim value.toList).filter (· != [])
  (stored.session.candidates.filter fun candidate =>
    candidate.eligible && (candidateIds.map (·.contains candidate.elementId.toList)).getD true).map
      fun candidate =>
    { candidateId := candidate.elementId
      bboxAbs := candidate.bboxAbs
      color := "#22c55e"
      label := candidate.textMasked }

/-- `highlight_session` before the overlay is asked. -/
def highlightChoose (stored : StoredSession) (answer : GuiAnswer)
    (candidateIds : Option (List String)) : Block :=
  if isExpired stored.session.expiresAt answer.now then
    .fail stored.markExpired (.ticketInvalid "Session already expired")
  else
    match highlightTargets stored candidateIds with
    | [] => .fail stored (.badRequest "No highlight targets available")
    | targets =>
      ⟨stored, [], .stage (.showing stored.session.sceneId targets stored.overlayHandleId)⟩

/-- `highlight_session` after the overlay has answered. -/
def highlightShow (stored : StoredSession) (answer : GuiAnswer) (handleId : String) : Block :=
  let stored :=
    { stored with overlayHandleId := some handleId }.withState .highlighted answer.now
  ⟨stored, [], .return (.session stored.session)⟩

/-- `confirm_candidate` before the focus is asked for. -/
def confirmChoose (stored : StoredSession) (answer : GuiAnswer) (req : GuiConfirmRequest) : Block :=
  if isExpired stored.session.expiresAt answer.now then
    .fail stored.markExpired (.ticketInvalid "Session already expired")
  else
    match stored.session.candidates.find? (·.elementId == req.candidateId) with
    | none => .fail stored (.badRequest ("Unknown candidate_id '" ++ req.candidateId ++ "'"))
    | some candidate =>
      if ¬ candidate.eligible then
        .fail stored (.badRequest "Selected candidate is not eligible")
      else
        ⟨stored, [],
          .stage (.issuing req stored.session.focus candidate stored.session.sceneId)⟩

/-- The binding to a focus. -/
def bindingTo (focus : FocusSnapshot) : ExecutionBinding :=
  ⟨focus.focusHash, some focus.appName, some focus.pid⟩

/-- `confirm_candidate` between its blocks: the focus is looked at and the ticket is made. -/
def issueTicket (setup : GuiSetup) (hmac : List Char → List UInt8) (answer : GuiAnswer)
    (sessionId : String) (req : GuiConfirmRequest) (sessionFocus : FocusSnapshot)
    (candidate : GuiCandidate) (sceneId : String) : Except GuiInteractionError ConfirmedAction := do
  let focusValidation ← answer.validate (bindingTo sessionFocus) 0
  if ¬ focusValidation.valid then
    throw (.focusDrift (focusValidation.reason.getD "Focused window changed"))
  let actions ← buildActionsForCandidate candidate req.action
  let actionHash := setup.hashActions actions
  let ticketTtlSecs := clamp 5 300 ((req.ticketTtlSecs.map asI64).getD defaultTicketTtlSecs)
  let ticket : GuiExecutionTicket :=
    { schemaVersion := "automation.gui.ticket.v1"
      ticketId := answer.ticketId
      sessionId := sessionId
      sceneId := sceneId
      elementId := candidate.elementId
      actionHash := actionHash
      focusHash := sessionFocus.focusHash
      issuedAt := answer.now
      expiresAt := answer.now + ticketTtlSecs * second
      nonce := answer.nonce
      signature := "" }
  pure
    { candidateId := req.candidateId
      actions := actions
      actionHash := actionHash
      ticket := { ticket with signature := signTicket hmac ticket } }

/-- `confirm_candidate`, the ticket entered. -/
def confirmEnter (stored : StoredSession) (answer : GuiAnswer) (confirmedAction : ConfirmedAction) :
    Block :=
  let stored := { stored with confirmedAction := some confirmedAction }.withState .confirmed
    answer.later
  ⟨{ stored with
      session := { stored.session with selectedElementId := some confirmedAction.candidateId } },
    [.issued confirmedAction.ticket], .return (.ticket confirmedAction.ticket)⟩

/-- `prepare_execution`, what is checked of the ticket against the confirmed action. -/
def checkTicket (hmac : List Char → List UInt8) (sessionId : String) (ticket : GuiExecutionTicket)
    (confirmedAction : ConfirmedAction) (now : Int) : Except GuiInteractionError Unit := do
  verifyTicket hmac ticket
  if ticket.sessionId ≠ sessionId then throw (.ticketInvalid "ticket.session_id mismatch")
  if ticket.ticketId ≠ confirmedAction.ticket.ticketId then
    throw (.ticketInvalid "ticket_id mismatch")
  if ticket.elementId ≠ confirmedAction.candidateId then
    throw (.ticketInvalid "element_id mismatch")
  if ticket.actionHash ≠ confirmedAction.actionHash then
    throw (.ticketInvalid "action_hash mismatch")
  if isExpiredPastGrace ticket.expiresAt ticketExpiryGraceSecs now then
    throw (.ticketInvalid "ticket expired")

/-- `prepare_execution` before the focus is looked at. -/
def prepareCheck (hmac : List Char → List UInt8) (stored : StoredSession) (answer : GuiAnswer)
    (ticket : GuiExecutionTicket) : Block :=
  match stored.confirmedAction with
  | none => .fail stored (.ticketInvalid "Session has no confirmed action")
  | some confirmedAction =>
    if isExpired stored.session.expiresAt answer.now then
      .fail stored (.ticketInvalid "Session already expired")
    else if stored.session.state ≠ .confirmed then
      .fail stored (.ticketInvalid
        ("Session state must be confirmed, current=" ++ stored.session.state.debug))
    else
      match checkTicket hmac stored.id ticket confirmedAction answer.later with
      | .error e => .fail stored e
      | .ok () =>
        ⟨stored, [], .stage (.committing ticket stored.session.focus confirmedAction)⟩

/-- The attempts to find the focus unchanged, `left` of them from `attempt` on. -/
def focusAttempts (probe : Nat → Except GuiInteractionError FocusValidation) :
    (left attempt : Nat) → (lastDriftReason : String) → Except GuiInteractionError Unit
  | 0, _, lastDriftReason => .error (.focusDrift lastDriftReason)
  | left + 1, attempt, _ =>
    match probe attempt with
    | .error e => .error e
    | .ok focusValidation =>
      if focusValidation.valid then .ok ()
      else focusAttempts probe left (attempt + 1)
        (focusValidation.reason.getD "Focused window changed")

/-- `prepare_execution` from the focus on. -/
def validFocus (answer : GuiAnswer) (sessionFocus : FocusSnapshot) :
    Except GuiInteractionError Unit :=
  focusAttempts (answer.validate (bindingTo sessionFocus)) (focusDriftMaxRetries + 1) 0 ""

/-- `prepare_execution`, the plan committed. -/
def prepareCommit (stored : StoredSession) (answer : GuiAnswer) (ticket : GuiExecutionTicket)
    (confirmedAction : ConfirmedAction) : Block :=
  if ticket.nonce ∈ stored.usedTicketNonces then
    .fail stored (.ticketInvalid "ticket nonce replay detected")
  else
    ⟨{ stored with usedTicketNonces := ticket.nonce :: stored.usedTicketNonces }.withState
        .executing answer.now,
      [.planned stored.id ticket stored],
      .return (.plan
        { sessionId := stored.id
          commandId := "gui-action-" ++ toString (timestampMillis answer.later).natAbs
          actions := confirmedAction.actions
          ticket := ticket })⟩

/-- `complete_execution`. -/
def completeExecution (stored : StoredSession) (answer : GuiAnswer) (succeeded : Bool)
    (detail : Option String) (stepsCompleted totalSteps : Nat) : Block :=
  let stored := stored.withState (if succeeded then .executed else .confirmed) answer.now
  ⟨{ stored with overlayHandleId := none }, [],
    .return (.outcome ⟨stored.session, succeeded, detail, stepsCompleted, totalSteps⟩)⟩

/-- `cancel_session`. -/
def cancelSession (stored : StoredSession) (answer : GuiAnswer) : Block :=
  let stored := stored.withState .cancelled answer.now
  ⟨{ stored with overlayHandleId := none }, [], .return (.session stored.session)⟩

/-- `require_hmac_secret`. -/
def requireHmacSecret (setup : GuiSetup) :
    Except GuiInteractionError (List Char → List UInt8) :=
  match setup.hmac with
  | some hmac => .ok hmac
  | none => .error (.unavailable "ONESHIM_GUI_TICKET_HMAC_SECRET is missing or empty")

/-- What a request does before it takes the lock, and its block in it. -/
def Stage.block (setup : GuiSetup) (answer : GuiAnswer) (sessionId : String) :
    Stage → Except GuiInteractionError (StoredSession → Block)
  | .getting capabilityToken =>
    .ok fun stored => assertCapabilityToken stored capabilityToken .gettingStored
  | .gettingStored => .ok fun stored => getSession stored answer
  | .highlighting capabilityToken candidateIds =>
    .ok fun stored => assertCapabilityToken stored capabilityToken (.choosingTargets candidateIds)
  | .choosingTargets candidateIds => .ok fun stored => highlightChoose stored answer candidateIds
  | .showing _ _ _ => do
    let handleId ← answer.highlights
    return fun stored => highlightShow stored answer handleId
  | .confirming capabilityToken req => do
    let _ ← requireHmacSecret setup
    return fun stored => assertCapabilityToken stored capabilityToken (.choosing req)
  | .choosing req => .ok fun stored => confirmChoose stored answer req
  | .issuing req sessionFocus candidate sceneId => do
    let hmac ← requireHmacSecret setup
    let confirmedAction ← issueTicket setup hmac answer sessionId req sessionFocus candidate sceneId
    return fun stored => confirmEnter stored answer confirmedAction
  | .preparing capabilityToken ticket => do
    let _ ← requireHmacSecret setup
    return fun stored => assertCapabilityToken stored capabilityToken (.checking ticket)
  | .checking ticket => do
    let hmac ← requireHmacSecret setup
    return fun stored => prepareCheck hmac stored answer ticket
  | .committing ticket sessionFocus confirmedAction => do
    validFocus answer sessionFocus
    return fun stored => prepareCommit stored answer ticket confirmedAction
  | .completing succeeded detail stepsCompleted totalSteps =>
    .ok fun stored => completeExecution stored answer succeeded detail stepsCompleted totalSteps
  | .cancelling capabilityToken =>
    .ok fun stored => assertCapabilityToken stored capabilityToken .cancellingStored
  | .cancellingStored => .ok fun stored => cancelSession stored answer

/-! ## The service -/

/-- The sessions, and what has happened. -/
structure GuiService where
  sessions : Table StoredSession.id
  history : List GuiEvent

namespace GuiService

/-- The service at its start. -/
def start : GuiService := ⟨.empty, []⟩

/-- A block in a hold of the lock. -/
def onSession (self : GuiService) (sessionId : String) (block : StoredSession → Block) :
    GuiService × GuiCall :=
  match self.sessions.find? sessionId with
  | none => (self, .done (.failed (.notFound sessionId)))
  | some stored =>
    let left := block stored
    (⟨self.sessions.replace left.stored, left.events ++ self.history⟩,
      match left.next with
      | .stage stage => .session sessionId stage
      | .return result => .done result)

/-- The session `create_session` makes. -/
def newSession (answer : GuiAnswer) (sessionTtlSecs : Option Nat) (focus : FocusSnapshot)
    (sceneId : String) (candidates : List GuiCandidate) : StoredSession :=
  let ttlSecs := clamp 30 3600 ((sessionTtlSecs.map asI64).getD defaultSessionTtlSecs)
  { session :=
      { sessionId := answer.sessionId
        state := .proposed
        sceneId := sceneId
        focus := focus
        candidates := candidates
        selectedElementId := none
        createdAt := answer.now
        updatedAt := answer.now
        expiresAt := answer.now + ttlSecs * second }
    capabilityToken := answer.capabilityToken
    overlayHandleId := none
    confirmedAction := none
    usedTicketNonces := [] }

/-- What `create_session` has when it takes the lock. -/
def proposeSession (setup : GuiSetup) (answer : GuiAnswer) (sessionTtlSecs : Option Nat) :
    Except GuiInteractionError StoredSession := do
  let _ ← requireHmacSecret setup
  let focus ← answer.currentFocus
  let scene ← answer.scene
  if scene.2 = [] then
    throw (.badRequest "No eligible GUI candidates found in scene")
  return newSession answer sessionTtlSecs focus scene.1 scene.2

/-- `create_session`. -/
def createSession (setup : GuiSetup) (self : GuiService) (answer : GuiAnswer)
    (sessionTtlSecs : Option Nat) : GuiService × GuiCall :=
  match proposeSession setup answer sessionTtlSecs with
  | .error e => (self, .done (.failed e))
  | .ok stored =>
    (⟨self.sessions.upsert stored, .created stored.id :: self.history⟩,
      .done (.created stored.session stored.capabilityToken))

/-- `expire_sessions`. -/
def expireSessions (self : GuiService) (answer : GuiAnswer) : GuiService × GuiCall :=
  ({ self with
      sessions := self.sessions.filterRows fun stored =>
        !isExpired stored.session.expiresAt answer.now },
    .done .expired)

/-- A request to its next block. -/
def turn (setup : GuiSetup) (self : GuiService) (_ : Nat) (answer : GuiAnswer) :
    GuiCall → GuiService × GuiCall
  | .creating sessionTtlSecs => createSession setup self answer sessionTtlSecs
  | .session sessionId stage =>
    match stage.block setup answer sessionId with
    | .error e => (self, .done (.failed e))
    | .ok block => self.onSession sessionId block
  | .expiring => self.expireSessions answer
  | .done result => (self, .done result)

end GuiService

/-- What the service is asked for. -/
inductive GuiRequest where
  | createSession (sessionTtlSecs : Option Nat)
  | getSession (sessionId capabilityToken : String)
  | highlightSession (sessionId capabilityToken : String) (candidateIds : Option (List String))
  | confirmCandidate (sessionId capabilityToken : String) (req : GuiConfirmRequest)
  | prepareExecution (sessionId capabilityToken : String) (ticket : GuiExecutionTicket)
  | completeExecution (sessionId : String) (succeeded : Bool) (detail : Option String)
      (stepsCompleted totalSteps : Nat)
  | cancelSession (sessionId capabilityToken : String)
  | expireSessions

/-- How a request enters. -/
def GuiRequest.enter : GuiRequest → GuiCall
  | .createSession sessionTtlSecs => .creating sessionTtlSecs
  | .getSession sessionId capabilityToken => .session sessionId (.getting capabilityToken)
  | .highlightSession sessionId capabilityToken candidateIds =>
    .session sessionId (.highlighting capabilityToken candidateIds)
  | .confirmCandidate sessionId capabilityToken req =>
    .session sessionId (.confirming capabilityToken req)
  | .prepareExecution sessionId capabilityToken ticket =>
    .session sessionId (.preparing capabilityToken ticket)
  | .completeExecution sessionId succeeded detail stepsCompleted totalSteps =>
    .session sessionId (.completing succeeded detail stepsCompleted totalSteps)
  | .cancelSession sessionId capabilityToken => .session sessionId (.cancelling capabilityToken)
  | .expireSessions => .expiring

/-- The service and the requests on their way. -/
def guiCalls (setup : GuiSetup) : CallSystem GuiService GuiRequest GuiAnswer GuiCall where
  enter := GuiRequest.enter
  turn := GuiService.turn setup

/-- The service and its requests. -/
abbrev GuiSystem := Calls GuiService GuiCall

/-- No request yet. -/
def GuiSystem.start : GuiSystem := ⟨.start, []⟩

/-! ## What a turn does -/

/-- Whether the block only looks at the session. -/
def Stage.reads : Stage → Bool
  | .getting _ | .highlighting _ _ | .confirming _ _ | .preparing _ _ | .checking _
  | .cancelling _ => true
  | _ => false

/-- Whether the block marks a session whose time is up. -/
def Stage.marks : Stage → Bool
  | .gettingStored | .choosingTargets _ | .choosing _ => true
  | _ => false

/-- What a block does to the session it has found, and what happens in it. -/
inductive Stage.Does (setup : GuiSetup) (answer : GuiAnswer) (sessionId : String)
    (stored : StoredSession) : Stage → StoredSession → List GuiEvent → Prop where
  | reads {stage : Stage} (h : stage.reads) : Does setup answer sessionId stored stage stored []
  | marks {stage : Stage} (h : stage.marks)
      (hexpired : isExpired stored.session.expiresAt answer.now = true) :
      Does setup answer sessionId stored stage stored.markExpired []
  | alive {stage : Stage} (h : stage.marks)
      (halive : isExpired stored.session.expiresAt answer.now = false) :
      Does setup answer sessionId stored stage stored []
  | highlights {sceneId : String} {targets : List HighlightTarget} {previous : Option String}
      {handleId : String} (h : answer.highlights = .ok handleId) :
      Does setup answer sessionId stored (.showing sceneId targets previous)
        (highlightShow stored answer handleId).stored []
  | confirms {req : GuiConfirmRequest} {sessionFocus : FocusSnapshot} {candidate : GuiCandidate}
      {sceneId : String} {hmac : List Char → List UInt8} {confirmedAction : ConfirmedAction}
      (hmac_eq : setup.hmac = some hmac)
      (h : issueTicket setup hmac answer sessionId req sessionFocus candidate sceneId =
        .ok confirmedAction) :
      Does setup answer sessionId stored (.issuing req sessionFocus candidate sceneId)
        (confirmEnter stored answer confirmedAction).stored [.issued confirmedAction.ticket]
  | commits {ticket : GuiExecutionTicket} {sessionFocus : FocusSnapshot}
      {confirmedAction : ConfirmedAction} (hfocus : validFocus answer sessionFocus = .ok ())
      (h : ticket.nonce ∉ stored.usedTicketNonces) :
      Does setup answer sessionId stored (.committing ticket sessionFocus confirmedAction)
        (prepareCommit stored answer ticket confirmedAction).stored
        [.planned stored.id ticket stored]
  | replayed {ticket : GuiExecutionTicket} {sessionFocus : FocusSnapshot}
      {confirmedAction : ConfirmedAction} (h : ticket.nonce ∈ stored.usedTicketNonces) :
      Does setup answer sessionId stored (.committing ticket sessionFocus confirmedAction) stored []
  | completes {succeeded : Bool} {detail : Option String} {stepsCompleted totalSteps : Nat} :
      Does setup answer sessionId stored (.completing succeeded detail stepsCompleted totalSteps)
        (completeExecution stored answer succeeded detail stepsCompleted totalSteps).stored []
  | cancels : Does setup answer sessionId stored .cancellingStored
      (cancelSession stored answer).stored []

theorem requireHmacSecret_eq_ok {setup : GuiSetup} {hmac : List Char → List UInt8}
    (h : requireHmacSecret setup = .ok hmac) : setup.hmac = some hmac := by
  simp only [requireHmacSecret] at h
  split at h
  · next hmac' heq =>
    cases h
    exact heq
  · cases h

/-! ### Blocks behind something that can fail -/

section

variable {setup : GuiSetup} {answer : GuiAnswer} {sessionId : String}
  {block : StoredSession → Block}

theorem Stage.block_showing {sceneId : String} {targets : List HighlightTarget}
    {previous : Option String}
    (h : (Stage.showing sceneId targets previous).block setup answer sessionId = .ok block) :
    ∃ handleId, answer.highlights = .ok handleId ∧
      block = fun stored => highlightShow stored answer handleId := by
  obtain ⟨handleId, hshown, hblock⟩ := bind_eq_ok_iff.mp h
  cases hblock
  exact ⟨handleId, hshown, rfl⟩

theorem Stage.block_confirming {capabilityToken : String} {req : GuiConfirmRequest}
    (h : (Stage.confirming capabilityToken req).block setup answer sessionId = .ok block) :
    block = fun stored => assertCapabilityToken stored capabilityToken (.choosing req) := by
  obtain ⟨_, -, hblock⟩ := bind_eq_ok_iff.mp h
  cases hblock
  rfl

theorem Stage.block_issuing {req : GuiConfirmRequest} {sessionFocus : FocusSnapshot}
    {candidate : GuiCandidate} {sceneId : String}
    (h : (Stage.issuing req sessionFocus candidate sceneId).block setup answer sessionId =
      .ok block) :
    ∃ hmac confirmedAction, setup.hmac = some hmac ∧
      issueTicket setup hmac answer sessionId req sessionFocus candidate sceneId =
        .ok confirmedAction ∧
      block = fun stored => confirmEnter stored answer confirmedAction := by
  obtain ⟨hmac, hsecret, hissue⟩ := bind_eq_ok_iff.mp h
  obtain ⟨confirmedAction, hissued, hblock⟩ := bind_eq_ok_iff.mp hissue
  cases hblock
  exact ⟨hmac, confirmedAction, requireHmacSecret_eq_ok hsecret, hissued, rfl⟩

theorem Stage.block_preparing {capabilityToken : String} {ticket : GuiExecutionTicket}
    (h : (Stage.preparing capabilityToken ticket).block setup answer sessionId = .ok block) :
    block = fun stored => assertCapabilityToken stored capabilityToken (.checking ticket) := by
  obtain ⟨_, -, hblock⟩ := bind_eq_ok_iff.mp h
  cases hblock
  rfl

theorem Stage.block_checking {ticket : GuiExecutionTicket}
    (h : (Stage.checking ticket).block setup answer sessionId = .ok block) :
    ∃ hmac, setup.hmac = some hmac ∧
      block = fun stored => prepareCheck hmac stored answer ticket := by
  obtain ⟨hmac, hsecret, hblock⟩ := bind_eq_ok_iff.mp h
  cases hblock
  exact ⟨hmac, requireHmacSecret_eq_ok hsecret, rfl⟩

theorem Stage.block_committing {ticket : GuiExecutionTicket} {sessionFocus : FocusSnapshot}
    {confirmedAction : ConfirmedAction}
    (h : (Stage.committing ticket sessionFocus confirmedAction).block setup answer sessionId =
      .ok block) :
    validFocus answer sessionFocus = .ok () ∧
      block = fun stored => prepareCommit stored answer ticket confirmedAction := by
  obtain ⟨_, hfocus, hblock⟩ := bind_eq_ok_iff.mp h
  cases hblock
  exact ⟨hfocus, rfl⟩

end

/-! ### What blocks do -/

theorem assertCapabilityToken_stored (stored : StoredSession) (capabilityToken : String)
    (next : Stage) : (assertCapabilityToken stored capabilityToken next).stored = stored ∧
      (assertCapabilityToken stored capabilityToken next).events = [] := by
  simp only [assertCapabilityToken]
  split <;> exact ⟨rfl, rfl⟩

theorem prepareCheck_stored (hmac : List Char → List UInt8) (stored : StoredSession)
    (answer : GuiAnswer) (ticket : GuiExecutionTicket) :
    (prepareCheck hmac stored answer ticket).stored = stored ∧
      (prepareCheck hmac stored answer ticket).events = [] := by
  simp only [prepareCheck]
  split
  · exact ⟨rfl, rfl⟩
  split
  · exact ⟨rfl, rfl⟩
  split
  · exact ⟨rfl, rfl⟩
  split <;> exact ⟨rfl, rfl⟩

variable {sessionId : String}

/-- Looking at the token only looks. -/
theorem Stage.reads_does {setup : GuiSetup} {answer : GuiAnswer} {stage : Stage}
    (hreads : stage.reads) (stored : StoredSession) (capabilityToken : String) (next : Stage) :
    stage.Does setup answer sessionId stored
      (assertCapabilityToken stored capabilityToken next).stored
      (assertCapabilityToken stored capabilityToken next).events := by
  obtain ⟨hs, he⟩ := assertCapabilityToken_stored stored capabilityToken next
  rw [hs, he]
  exact .reads hreads

/-- What a block does is one of these. -/
theorem Stage.block_does {setup : GuiSetup} {answer : GuiAnswer} {stage : Stage}
    {block : StoredSession → Block} (h : stage.block setup answer sessionId = .ok block)
    (stored : StoredSession) :
    stage.Does setup answer sessionId stored (block stored).stored (block stored).events := by
  cases stage with
  | getting capabilityToken =>
    cases h
    exact reads_does rfl stored capabilityToken _
  | gettingStored =>
    cases h
    simp only [getSession]
    split
    · next hexpired => exact .marks rfl hexpired
    · next halive => exact .alive rfl (Bool.eq_false_iff.mpr halive)
  | highlighting capabilityToken candidateIds =>
    cases h
    exact reads_does rfl stored capabilityToken _
  | choosingTargets candidateIds =>
    cases h
    simp only [highlightChoose]
    split
    · next hexpired => exact .marks rfl hexpired
    · next halive =>
      split <;> exact .alive rfl (Bool.eq_false_iff.mpr halive)
  | showing sceneId targets previous =>
    obtain ⟨handleId, hshown, rfl⟩ := block_showing h
    exact .highlights hshown
  | confirming capabilityToken req =>
    rw [block_confirming h]
    exact reads_does rfl stored capabilityToken _
  | choosing req =>
    cases h
    simp only [confirmChoose]
    split
    · next hexpired => exact .marks rfl hexpired
    · next halive =>
      have halive := Bool.eq_false_iff.mpr halive
      split
      · exact .alive rfl halive
      · split <;> exact .alive rfl halive
  | issuing req sessionFocus candidate sceneId =>
    obtain ⟨hmac, confirmedAction, hsecret, hissued, rfl⟩ := block_issuing h
    exact .confirms hsecret hissued
  | preparing capabilityToken ticket =>
    rw [block_preparing h]
    exact reads_does rfl stored capabilityToken _
  | checking ticket =>
    obtain ⟨hmac, -, rfl⟩ := block_checking h
    obtain ⟨hs, he⟩ := prepareCheck_stored hmac stored answer ticket
    rw [hs, he]
    exact .reads rfl
  | committing ticket sessionFocus confirmedAction =>
    obtain ⟨hfocus, rfl⟩ := block_committing h
    by_cases hused : ticket.nonce ∈ stored.usedTicketNonces
    · have hfails : prepareCommit stored answer ticket confirmedAction =
          .fail stored (.ticketInvalid "ticket nonce replay detected") := if_pos hused
      simp only [hfails]
      exact .replayed hused
    · have hevents : (prepareCommit stored answer ticket confirmedAction).events =
          [.planned stored.id ticket stored] := by rw [prepareCommit, if_neg hused]
      simp only [hevents]
      exact .commits hfocus hused
  | completing succeeded detail stepsCompleted totalSteps =>
    cases h
    exact .completes
  | cancelling capabilityToken =>
    cases h
    exact reads_does rfl stored capabilityToken _
  | cancellingStored =>
    cases h
    exact .cancels

/-- A block does not move a session to another id. -/
theorem Stage.Does.id_eq {setup : GuiSetup} {answer : GuiAnswer} {stage : Stage}
    {stored stored' : StoredSession} {events : List GuiEvent}
    (h : stage.Does setup answer sessionId stored stored' events) : stored'.id = stored.id := by
  cases h with
  | reads => rfl
  | marks => rfl
  | alive => rfl
  | highlights => rfl
  | confirms => rfl
  | commits hfocus hnonce =>
    rw [prepareCommit, if_neg hnonce]
    rfl
  | _ => rfl

namespace GuiService

variable {setup : GuiSetup} {self : GuiService} {answer : GuiAnswer}

theorem onSession_of_none (h : self.sessions.find? sessionId = none) (block : StoredSession → Block) :
    self.onSession sessionId block = (self, .done (.failed (.notFound sessionId))) := by
  simp only [onSession, h]

theorem onSession_of_some {stored : StoredSession} (h : self.sessions.find? sessionId = some stored)
    (block : StoredSession → Block) :
    self.onSession sessionId block =
      (⟨self.sessions.replace (block stored).stored, (block stored).events ++ self.history⟩,
        match (block stored).next with
        | .stage stage => .session sessionId stage
        | .return result => .done result) := by
  simp only [onSession, h]

/-- A new session has the id it is given. -/
theorem id_of_proposeSession {ttl : Option Nat} {made : StoredSession}
    (h : proposeSession setup answer ttl = .ok made) : made.id = answer.sessionId := by
  simp only [proposeSession, bind, Except.bind] at h
  split at h
  · cases h
  split at h
  · cases h
  split at h
  · cases h
  split at h
  · cases h
  · cases h
    rfl

/-- **A turn** changes nothing, makes a session, goes through a block or removes what has expired. -/
theorem turn_cases (setup : GuiSetup) (self : GuiService) (index : Nat) (answer : GuiAnswer)
    (call : GuiCall) :
    (turn setup self index answer call).1 = self ∨
    (∃ ttl stored, call = .creating ttl ∧ proposeSession setup answer ttl = .ok stored ∧
      (turn setup self index answer call).1 =
        ⟨self.sessions.upsert stored, .created stored.id :: self.history⟩) ∨
    (∃ sessionId stage block stored, call = .session sessionId stage ∧
      stage.block setup answer sessionId = .ok block ∧
      self.sessions.find? sessionId = some stored ∧
      turn setup self index answer call =
        (⟨self.sessions.replace (block stored).stored, (block stored).events ++ self.history⟩,
          match (block stored).next with
          | .stage stage => .session sessionId stage
          | .return result => .done result)) ∨
    (call = .expiring ∧ turn setup self index answer call = self.expireSessions answer) := by
  cases call with
  | creating ttl =>
    simp only [turn, createSession]
    cases hmade : proposeSession setup answer ttl with
    | error e => exact .inl rfl
    | ok stored => exact .inr (.inl ⟨ttl, stored, rfl, hmade, rfl⟩)
  | session sessionId stage =>
    simp only [turn]
    cases hblock : stage.block setup answer sessionId with
    | error e => exact .inl rfl
    | ok block =>
      cases hfound : self.sessions.find? sessionId with
      | none => exact .inl (congrArg Prod.fst (onSession_of_none hfound block))
      | some stored =>
        exact .inr (.inr (.inl ⟨sessionId, stage, block, stored, rfl, hblock, hfound,
          onSession_of_some hfound block⟩))
  | expiring => exact .inr (.inr (.inr ⟨rfl, rfl⟩))
  | done result => exact .inl rfl

/-- **A turn** by what its block does. -/
theorem turn_does (setup : GuiSetup) (self : GuiService) (index : Nat)
    (answer : GuiAnswer) (call : GuiCall) :
    (turn setup self index answer call).1 = self ∨
    (∃ ttl made, call = .creating ttl ∧ proposeSession setup answer ttl = .ok made ∧
      (turn setup self index answer call).1 =
        ⟨self.sessions.upsert made, .created made.id :: self.history⟩) ∨
    (∃ sessionId stage stored stored' events, call = .session sessionId stage ∧
      self.sessions.find? sessionId = some stored ∧
      stage.Does setup answer sessionId stored stored' events ∧
      (turn setup self index answer call).1 =
        ⟨self.sessions.replace stored', events ++ self.history⟩) ∨
    (turn setup self index answer call).1 = (self.expireSessions answer).1 := by
  rcases turn_cases setup self index answer call with
    hs | ⟨ttl, made, rfl, hmade, hs⟩ | ⟨sessionId, stage, block, stored, rfl, hblock, hfound, hs⟩ |
      ⟨rfl, hs⟩
  · exact .inl hs
  · exact .inr (.inl ⟨ttl, made, rfl, hmade, hs⟩)
  · exact .inr (.inr (.inl ⟨sessionId, stage, stored, _, _, rfl, hfound,
      Stage.block_does hblock stored, congrArg Prod.fst hs⟩))
  · exact .inr (.inr (.inr (congrArg Prod.fst hs)))

end GuiService

/-! ## An example -/

/-- A service whose MAC is the text itself and whose hash names the button that is clicked. -/
def exampleSetup : GuiSetup where
  hmac := some fun payload => payload.map fun c => UInt8.ofNat c.toNat
  hashActions
    | [.mouseClick button _ _] => button
    | _ => ""

/-- One window with one button, ids with a number in them, and everything going well. -/
def exampleAnswer (now : Int) (number : String) : GuiAnswer where
  now := now * second
  later := now * second
  sessionId := "session" ++ number
  capabilityToken := "token"
  ticketId := "ticket" ++ number
  nonce := "nonce" ++ number
  currentFocus := .ok ⟨"Editor", 7, "focus"⟩
  scene := .ok ("scene", [⟨"save", ⟨0, 0, 10, 10⟩, some "Save", true⟩])
  highlights := .ok "overlay"
  validate _ _ := .ok ⟨true, none⟩

/-- A click on the button. -/
def exampleConfirm : GuiConfirmRequest := ⟨"save", ⟨.click, none⟩, none⟩

/-- The ticket of that click in the first session. -/
def exampleTicket (now : Int) (number : String) : GuiExecutionTicket :=
  let ticket : GuiExecutionTicket :=
    ⟨"automation.gui.ticket.v1", "ticket" ++ number, "session0", "scene", "save", "left", "focus",
      now * second, (now + 30) * second, "nonce" ++ number, ""⟩
  { ticket with
    signature := Lib.Hex.encodeLower
      ((ticketSignaturePayload ticket).map fun c => UInt8.ofNat c.toNat) }

end Oneshim.Gui
