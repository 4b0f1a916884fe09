/-
  The data of the integration runtime (`oneshim-core/src/models/integration.rs`).

  The desktop client talks to an integration backend: it queues outbound messages (insights and
  prompt receipts) in an OUTBOX until they are acknowledged, keeps the prompts it was sent in an
  INBOX, and holds one session.  These are the records that pass between the parts; the actions of
  a prompt are left out, no modelled function looks at them.
-/
import Mathlib.Data.List.Basic

namespace Oneshim.Integration

/-- `DateTime<Utc>`: an instant, in any fixed unit since the epoch. -/
abbrev DateTime := Int

/-- `IntegrationMessageType`. -/
inductive IntegrationMessageType where
  | insightPacket
  | proactivePrompt
  | sessionState
  | bootstrap
  | promptReceipt
  | ack

/-- `IntegrationCapabilityScope`. -/
inductive IntegrationCapabilityScope where
  | insightWrite
  | promptRead
  | promptAck
  | devicePresenceWrite
  | sessionManage
  | policyRead
deriving DecidableEq

/-- The derived `Debug` name. -/
def IntegrationCapabilityScope.debug : IntegrationCapabilityScope → String
  | .insightWrite => "InsightWrite"
  | .promptRead => "PromptRead"
  | .promptAck => "PromptAck"
  | .devicePresenceWrite => "DevicePresenceWrite"
  | .sessionManage => "SessionManage"
  | .policyRead => "PolicyRead"

/-- `IntegrationOrigin`. -/
structure IntegrationOrigin where
  deviceId : String
  workspaceId : Option String
  sessionId : Option String
  source : String

/-- `IntegrationEnvelope`. -/
structure IntegrationEnvelope where
  envelopeId : String
  schemaVersion : String
  messageType : IntegrationMessageType
  timestamp : DateTime
  nonce : String
  origin : IntegrationOrigin
  capabilityScope : IntegrationCapabilityScope

/-- `InsightSourceWindow`. -/
structure InsightSourceWindow where
  startedAt : DateTime
  endedAt : DateTime

/-- `IntegrationPrivacyClassification`. -/
inductive IntegrationPrivacyClassification where
  | deviceLocal
  | derivedSummary
  | userApprovedAttachment

/-- `IntegrationEgressDisposition`. -/
inductive IntegrationEgressDisposition where
  | allow
  | deny
  | requireUserApproval
deriving DecidableEq

/-- `InsightPacket`. -/
structure InsightPacket where
  packetId : String
  summary : String
  derivedTags : List String
  sourceWindow : InsightSourceWindow
  privacyClassification : IntegrationPrivacyClassification
  auditReferenceId : Option String

/-- `IntegrationInboxItemStatus`. -/
inductive IntegrationInboxItemStatus where
  | pending
  | acknowledged
  | dismissed
  | expired
deriving DecidableEq

/-- The derived `Debug` name. -/
def IntegrationInboxItemStatus.debug : IntegrationInboxItemStatus → String
  | .pending => "Pending"
  | .acknowledged => "Acknowledged"
  | .dismissed => "Dismissed"
  | .expired => "Expired"

/-- `IntegrationPromptReceiptAction`. -/
inductive IntegrationPromptReceiptAction where
  | acknowledged
  | dismissed

/-- `to_inbox_status`. -/
def IntegrationPromptReceiptAction.toInboxStatus :
    IntegrationPromptReceiptAction → IntegrationInboxItemStatus
  | .acknowledged => .acknowledged
  | .dismissed => .dismissed

/-- `IntegrationPromptReceipt`. -/
structure IntegrationPromptReceipt where
  receiptId : String
  promptId : String
  action : IntegrationPromptReceiptAction
  occurredAt : DateTime
  reason : Option String

/-- `IntegrationOutboundPayload`. -/
inductive IntegrationOutboundPayload where
  | insight (packet : InsightPacket)
  | promptReceipt (receipt : IntegrationPromptReceipt)

/-- `QueuedIntegrationEgressMessage`. -/
structure QueuedIntegrationEgressMessage where
  queueId : String
  envelope : IntegrationEnvelope
  payload : IntegrationOutboundPayload
  queuedAt : DateTime

/-- `ProactivePromptCategory`. -/
inductive ProactivePromptCategory where
  | insight
  | task
  | reminder
  | escalation
deriving DecidableEq

/-- `ProactivePromptPriority`. -/
inductive ProactivePromptPriority where
  | low
  | medium
  | high
  | critical
deriving DecidableEq

/-- `PromptProvenance`. -/
structure PromptProvenance where
  sourceSystem : String
  sourceActor : Option String
  correlationId : Option String
deriving DecidableEq

/-- `ProactivePrompt`, without its actions. -/
structure ProactivePrompt where
  promptId : String
  category : ProactivePromptCategory
  title : String
  body : String
  priority : ProactivePromptPriority
  expiresAt : Option DateTime
  provenance : PromptProvenance
deriving DecidableEq

/-- `StoredProactivePrompt`. -/
structure StoredProactivePrompt where
  prompt : ProactivePrompt
  receivedAt : DateTime
  status : IntegrationInboxItemStatus
  statusUpdatedAt : DateTime
  presentedAt : Option DateTime
  dismissReason : Option String
deriving DecidableEq

/-- `IntegrationAckCursor`. -/
structure IntegrationAckCursor where
  streamId : String
  cursor : String
  acknowledgedAt : DateTime

/-- `IntegrationSessionStatus`. -/
inductive IntegrationSessionStatus where
  | disconnected
  | connecting
  | connected
  | degraded
  | reconnecting
  | failed
deriving DecidableEq

/-- `IntegrationTransportKind`. -/
inductive IntegrationTransportKind where
  | webSocket
  | httpsSse
  | httpsLongPoll
  | grpcBidirectional

/-- `IntegrationAuthScheme`. -/
inductive IntegrationAuthScheme where
  | bearerToken
  | dpopBearer

/-- `IntegrationSessionState`. -/
structure IntegrationSessionState where
  sessionId : String
  deviceId : String
  status : IntegrationSessionStatus
  transportKind : IntegrationTransportKind
  authScheme : IntegrationAuthScheme
  connectedAt : Option DateTime
  lastHeartbeatAt : Option DateTime
  requestedScopes : List IntegrationCapabilityScope
  grantedScopes : List IntegrationCapabilityScope
  ackCursors : List IntegrationAckCursor

/-- `IntegrationInsightAuditRecord`. -/
structure IntegrationInsightAuditRecord where
  recordId : String
  envelopeId : String
  packetId : String
  disposition : IntegrationEgressDisposition
  reason : Option String
  privacyClassification : IntegrationPrivacyClassification
  capabilityScope : IntegrationCapabilityScope
  occurredAt : DateTime

/-- `CoreError`, as the integration code builds it. -/
inductive CoreError where
  | serviceUnavailable (message : String)
  | auth (message : String)
  | internal (message : String)
  | network (message : String)
  | requestTimeout (timeoutMs : Nat)
  | notFound (resourceType id : String)
  | validation (field message : String)
  | policyDenied (message : String)
  | consentRequired (message : String)
  | io (message : String)

end Oneshim.Integration
