/-
  The file-backed integration state store
  (`oneshim-storage/src/integration_state_store/{mod,inner}.rs`).

  One registry holds the session, the outbox, the inbox, the cursors, the producer checkpoints and
  the audit trail.  It lives in memory behind a lock, and every call that changes it writes the whole
  registry to the file before it lets go of the lock; when the write fails, the call returns the
  error and the change stays in memory (`Lib.Durable`).

  1. **Code** — the calls of `FileIntegrationStateInner`, each with `disk`, how its file write ends,
     and with the clock readings and random ids it draws.

  2. **Calls** — `InboxCall` and `StoreCall` are the calls as data, so that a run is a list.  The two
     calls of the outbox that only the egress coordinator makes, `enqueue_outbox_sync` and
     `delete_outbox_sync`, are not among them.

  3. **Inversion** — `InboxCall.Change` says once what a call on the inbox can do to the registry
     (`InboxCall.run_cases`); a call that does not change it is refused or finds nothing to do.
-/
import Mathlib.Data.List.Sort
import Oneshim.Lib.Durable
import Oneshim.Lib.Table
import Oneshim.Integration.Model

namespace Oneshim.Integration

open Lib

/-- `StorageError`, as this store builds it. -/
inductive StorageError where
  | notFound (resourceType id : String)
  | validation (field message : String)
  | internal (message : String)
  | io (message : String)

/-- `impl From<StorageError> for CoreError`. -/
def StorageError.toCore : StorageError → CoreError
  | .notFound resourceType id => .notFound resourceType id
  | .validation field message => .validation field message
  | .internal message => .internal message
  | .io message => .io message

/-- The key under which a prompt is stored. -/
def StoredProactivePrompt.key (prompt : StoredProactivePrompt) : String := prompt.prompt.promptId

/-- `BTreeMap<String, StoredProactivePrompt>`; every prompt stands under its own id. -/
abbrev Inbox := Table StoredProactivePrompt.key

/-- `FileIntegrationStateRegistry`. -/
structure FileIntegrationStateRegistry where
  session : Option IntegrationSessionState
  outbox : List QueuedIntegrationEgressMessage
  outboxAckCursor : Option IntegrationAckCursor
  inbox : Inbox
  inboxAckCursor : Option IntegrationAckCursor
  producerCheckpoints : Table (Prod.fst : String × String → String)
  auditRecords : List IntegrationInsightAuditRecord

/-- `FileIntegrationStateRegistry::new`. -/
def FileIntegrationStateRegistry.new : FileIntegrationStateRegistry where
  session := none
  outbox := []
  outboxAckCursor := none
  inbox := Table.empty
  inboxAckCursor := none
  producerCheckpoints := Table.empty
  auditRecords := []

/-- `IntegrationStateStorePolicy`. -/
structure IntegrationStateStorePolicy where
  maxStoredPrompts : Nat
  redactCompletedPromptBodies : Bool

/-- `IntegrationStateStorePolicy::default`. -/
def IntegrationStateStorePolicy.default : IntegrationStateStorePolicy := ⟨256, true⟩

/-- `MAX_AUDIT_RECORDS`. -/
def maxAuditRecords : Nat := 512

/-- `FileIntegrationStateInner`. -/
structure FileIntegrationStateInner where
  policy : IntegrationStateStorePolicy
  registry : Durable FileIntegrationStateRegistry

/-! ## The inbox as a map -/

namespace Inbox

/-- The order of a `BTreeMap`. -/
def values (inbox : Inbox) : List StoredProactivePrompt :=
  inbox.rows.insertionSort (fun a b => a.key ≤ b.key)

/-- The entries of `candidates` in `prune_inbox_locked`. -/
structure Candidate where
  pending : Bool
  receivedAt : DateTime
  promptId : String

/-- `(entry.0, entry.1)` in tuple order, `false` before `true`. -/
def Candidate.before (a b : Candidate) : Prop :=
  (a.pending = false ∧ b.pending = true) ∨ (a.pending = b.pending ∧ a.receivedAt ≤ b.receivedAt)

instance : DecidableRel Candidate.before := fun a b => by
  unfold Candidate.before
  infer_instance

/-- `prune_inbox_locked`: the oldest handled prompts go first, then the oldest pending ones. -/
def pruneInboxLocked (policy : IntegrationStateStorePolicy) (inbox : Inbox) : Inbox :=
  let maxStoredPrompts := max policy.maxStoredPrompts 1
  if inbox.rows.length ≤ maxStoredPrompts then inbox
  else
    let overflow := inbox.rows.length - maxStoredPrompts
    let candidates : List Candidate := (values inbox).map fun prompt =>
      ⟨prompt.status == .pending, prompt.receivedAt, prompt.key⟩
    ((candidates.insertionSort Candidate.before).take overflow).foldl
      (fun inbox candidate => inbox.remove candidate.promptId) inbox

/-- The body of the loop in `upsert_inbox_sync`. -/
def upsertPrompt (inbox : Inbox) (prompt : StoredProactivePrompt) : Inbox :=
  match inbox.find? prompt.key with
  | some existing =>
    inbox.upsert { existing with
      prompt := prompt.prompt
      presentedAt := existing.presentedAt.or prompt.presentedAt }
  | none => inbox.upsert prompt

end Inbox

/-! ## The calls -/

namespace FileIntegrationStateInner

open Inbox

/-- `redact_prompt_body_if_needed`. -/
def redactPromptBodyIfNeeded (policy : IntegrationStateStorePolicy)
    (prompt : StoredProactivePrompt) (status : IntegrationInboxItemStatus) :
    StoredProactivePrompt :=
  if policy.redactCompletedPromptBodies && status != .pending then
    { prompt with prompt := { prompt.prompt with body := "" } }
  else prompt

/-- The registry after a change, and `save_registry`. -/
def commit {α : Type} (self : FileIntegrationStateInner) (disk : Except StorageError Unit)
    (memory : FileIntegrationStateRegistry) (value : α) :
    Except StorageError α × FileIntegrationStateInner :=
  let saved := self.registry.commit disk memory value
  (saved.1, { self with registry := saved.2 })

/-- A new process on the same file (`load_or_default`); a file that cannot be read keeps the store
    from being built, and nothing happens. -/
def restart (self : FileIntegrationStateInner) : FileIntegrationStateInner :=
  { self with registry := self.registry.restart FileIntegrationStateRegistry.new }

/-- `FileIntegrationStateInner::new`: the store opened on a file. -/
def opened (policy : IntegrationStateStorePolicy) (file : Option FileIntegrationStateRegistry) :
    FileIntegrationStateInner :=
  ⟨policy, Durable.restart .new ⟨.new, file⟩⟩

/-- `load_session_sync`. -/
def loadSessionSync (self : FileIntegrationStateInner) : Option IntegrationSessionState :=
  self.registry.memory.session

/-- `store_session_sync`. -/
def storeSessionSync (self : FileIntegrationStateInner) (disk : Except StorageError Unit)
    (state : IntegrationSessionState) : Except StorageError Unit × FileIntegrationStateInner :=
  self.commit disk { self.registry.memory with session := some state } ()

/-- `clear_session_sync`. -/
def clearSessionSync (self : FileIntegrationStateInner) (disk : Except StorageError Unit) :
    Except StorageError Unit × FileIntegrationStateInner :=
  self.commit disk { self.registry.memory with session := none } ()

/-- `format!("integration_queue_{}", Uuid::new_v4())`. -/
def queueId (uuid : String) : String := "integration_queue_" ++ uuid

/-- `enqueue_outbox_sync`. -/
def enqueueOutboxSync (self : FileIntegrationStateInner) (disk : Except StorageError Unit)
    (uuid : String) (now : DateTime) (envelope : IntegrationEnvelope)
    (payload : IntegrationOutboundPayload) :
    Except StorageError String × FileIntegrationStateInner :=
  let memory := self.registry.memory
  self.commit disk
    { memory with outbox := memory.outbox ++ [⟨queueId uuid, envelope, payload, now⟩] }
    (queueId uuid)

/-- `list_outbox_sync`. -/
def listOutboxSync (self : FileIntegrationStateInner) (limit : Nat) :
    List QueuedIntegrationEgressMessage :=
  self.registry.memory.outbox.take limit

/-- `delete_outbox_sync`. -/
def deleteOutboxSync (self : FileIntegrationStateInner) (disk : Except StorageError Unit)
    (queueIds : List String) : Except StorageError Unit × FileIntegrationStateInner :=
  let memory := self.registry.memory
  self.commit disk
    { memory with outbox := memory.outbox.filter fun item => !queueIds.contains item.queueId } ()

/-- `store_outbox_ack_cursor_sync`. -/
def storeOutboxAckCursorSync (self : FileIntegrationStateInner) (disk : Except StorageError Unit)
    (cursor : IntegrationAckCursor) : Except StorageError Unit × FileIntegrationStateInner :=
  self.commit disk { self.registry.memory with outboxAckCursor := some cursor } ()

/-- `upsert_inbox_sync`. -/
def upsertInboxSync (self : FileIntegrationStateInner) (disk : Except StorageError Unit)
    (prompts : List StoredProactivePrompt) :
    Except StorageError Unit × FileIntegrationStateInner :=
  let memory := self.registry.memory
  let inbox := prompts.foldl upsertPrompt memory.inbox
  self.commit disk { memory with inbox := pruneInboxLocked self.policy inbox } ()

/-- `list_inbox_pending_sync`: the pending prompts, by time of receipt. -/
def listInboxPendingSync (self : FileIntegrationStateInner) : List StoredProactivePrompt :=
  ((values self.registry.memory.inbox).filter (fun prompt => prompt.status == .pending)).insertionSort
    (fun a b => a.receivedAt ≤ b.receivedAt)

/-- The error of every call that names a prompt that is not stored. -/
def promptNotFound (promptId : String) : StorageError := .notFound "integration_prompt" promptId

/-- `update_inbox_status_sync`. -/
def updateInboxStatusSync (self : FileIntegrationStateInner) (disk : Except StorageError Unit)
    (now : DateTime) (promptId : String) (status : IntegrationInboxItemStatus)
    (reason : Option String) : Except StorageError Unit × FileIntegrationStateInner :=
  let memory := self.registry.memory
  match memory.inbox.find? promptId with
  | none => (.error (promptNotFound promptId), self)
  | some prompt =>
    let prompt := { prompt with
      status := status
      statusUpdatedAt := now
      dismissReason := reason }
    let prompt := redactPromptBodyIfNeeded self.policy prompt status
    self.commit disk { memory with inbox := memory.inbox.upsert prompt } ()

/-- The prompt after a receipt. -/
def receiptPrompt (policy : IntegrationStateStorePolicy) (prompt : StoredProactivePrompt)
    (receipt : IntegrationPromptReceipt) : StoredProactivePrompt :=
  let prompt := { prompt with
    status := receipt.action.toInboxStatus
    statusUpdatedAt := receipt.occurredAt
    dismissReason := match receipt.action with
      | .acknowledged => none
      | .dismissed => receipt.reason }
  redactPromptBodyIfNeeded policy prompt prompt.status

/-- `record_prompt_receipt_sync`. -/
def recordPromptReceiptSync (self : FileIntegrationStateInner) (disk : Except StorageError Unit)
    (uuid : String) (now : DateTime) (promptId : String) (envelope : IntegrationEnvelope)
    (receipt : IntegrationPromptReceipt) :
    Except StorageError String × FileIntegrationStateInner :=
  if receipt.promptId ≠ promptId then
    (.error (.validation "integration.prompt_receipt.prompt_id"
      "prompt receipt prompt_id does not match the stored prompt target"), self)
  else
    let memory := self.registry.memory
    match memory.inbox.find? promptId with
    | none => (.error (promptNotFound promptId), self)
    | some prompt =>
      if prompt.status ≠ .pending then
        (.error (.validation "integration.prompt_receipt.status"
          ("prompt receipts can only be recorded from the pending state, found " ++
            prompt.status.debug)), self)
      else
        self.commit disk
          { memory with
            inbox := memory.inbox.upsert (receiptPrompt self.policy prompt receipt)
            outbox := memory.outbox ++ [⟨queueId uuid, envelope, .promptReceipt receipt, now⟩] }
          (queueId uuid)

/-- `mark_presented_sync`. -/
def markPresentedSync (self : FileIntegrationStateInner) (disk : Except StorageError Unit)
    (promptId : String) (presentedAt : DateTime) :
    Except StorageError Unit × FileIntegrationStateInner :=
  let memory := self.registry.memory
  match memory.inbox.find? promptId with
  | none => (.error (promptNotFound promptId), self)
  | some prompt =>
    self.commit disk
      { memory with inbox := memory.inbox.upsert { prompt with presentedAt := some presentedAt } } ()

/-- What makes a prompt expire. -/
def hasExpired (now : DateTime) (prompt : StoredProactivePrompt) : Bool :=
  prompt.status == .pending && prompt.prompt.expiresAt.any (fun expiresAt => expiresAt ≤ now)

/-- The body of the loop in `expire_inbox_sync`. -/
def expirePrompt (policy : IntegrationStateStorePolicy) (now : DateTime)
    (prompt : StoredProactivePrompt) : StoredProactivePrompt :=
  if hasExpired now prompt then
    redactPromptBodyIfNeeded policy { prompt with status := .expired, statusUpdatedAt := now }
      .expired
  else prompt

theorem key_redactPromptBodyIfNeeded (policy : IntegrationStateStorePolicy)
    (prompt : StoredProactivePrompt) (status : IntegrationInboxItemStatus) :
    (redactPromptBodyIfNeeded policy prompt status).key = prompt.key := by
  unfold redactPromptBodyIfNeeded
  split
  · rfl
  · rfl

theorem key_expirePrompt (policy : IntegrationStateStorePolicy) (now : DateTime)
    (prompt : StoredProactivePrompt) : (expirePrompt policy now prompt).key = prompt.key := by
  unfold expirePrompt
  split
  · exact key_redactPromptBodyIfNeeded policy _ _
  · rfl

/-- `expire_inbox_sync`. -/
def expireInboxSync (self : FileIntegrationStateInner) (disk : Except StorageError Unit)
    (now : DateTime) : Except StorageError Nat × FileIntegrationStateInner :=
  let memory := self.registry.memory
  let expired := (memory.inbox.rows.filter (hasExpired now)).length
  let inbox := memory.inbox.mapRows (expirePrompt self.policy now)
    (key_expirePrompt self.policy now)
  -- nothing expired: memory is as it was, and the file is not written
  if expired > 0 then self.commit disk { memory with inbox := inbox } expired else (.ok 0, self)

/-- `store_inbox_ack_cursor_sync`. -/
def storeInboxAckCursorSync (self : FileIntegrationStateInner) (disk : Except StorageError Unit)
    (cursor : IntegrationAckCursor) : Except StorageError Unit × FileIntegrationStateInner :=
  self.commit disk { self.registry.memory with inboxAckCursor := some cursor } ()

/-- `load_checkpoint_sync`. -/
def loadCheckpointSync (self : FileIntegrationStateInner) (checkpoint : String) : Option String :=
  (self.registry.memory.producerCheckpoints.find? checkpoint).map Prod.snd

/-- `store_checkpoint_sync`. -/
def storeCheckpointSync (self : FileIntegrationStateInner) (disk : Except StorageError Unit)
    (checkpoint cursor : String) : Except StorageError Unit × FileIntegrationStateInner :=
  let memory := self.registry.memory
  self.commit disk
    { memory with
      producerCheckpoints := memory.producerCheckpoints.upsert (checkpoint, cursor) } ()

/-- `record_audit_sync`. -/
def recordAuditSync (self : FileIntegrationStateInner) (disk : Except StorageError Unit)
    (record : IntegrationInsightAuditRecord) :
    Except StorageError Unit × FileIntegrationStateInner :=
  let memory := self.registry.memory
  let auditRecords := memory.auditRecords ++ [record]
  self.commit disk
    { memory with auditRecords := auditRecords.drop (auditRecords.length - maxAuditRecords) } ()

end FileIntegrationStateInner

/-! ## Calls as data -/

/-- The calls that write the inbox. -/
inductive InboxCall where
  | upsertPrompts (prompts : List StoredProactivePrompt)
  | updateStatus (now : DateTime) (promptId : String) (status : IntegrationInboxItemStatus)
      (reason : Option String)
  | recordPromptReceipt (uuid : String) (now : DateTime) (promptId : String)
      (envelope : IntegrationEnvelope) (receipt : IntegrationPromptReceipt)
  | markPresented (promptId : String) (presentedAt : DateTime)
  | expireStale (now : DateTime)

/-- The store after the call. -/
def InboxCall.run (self : FileIntegrationStateInner) (disk : Except StorageError Unit) :
    InboxCall → FileIntegrationStateInner
  | .upsertPrompts prompts => (self.upsertInboxSync disk prompts).2
  | .updateStatus now promptId status reason =>
    (self.updateInboxStatusSync disk now promptId status reason).2
  | .recordPromptReceipt uuid now promptId envelope receipt =>
    (self.recordPromptReceiptSync disk uuid now promptId envelope receipt).2
  | .markPresented promptId presentedAt => (self.markPresentedSync disk promptId presentedAt).2
  | .expireStale now => (self.expireInboxSync disk now).2

/-- What a call does to the registry, when it does something. -/
inductive InboxCall.Change (policy : IntegrationStateStorePolicy)
    (memory : FileIntegrationStateRegistry) : InboxCall → FileIntegrationStateRegistry → Prop where
  | upsertPrompts (prompts : List StoredProactivePrompt) :
      Change policy memory (.upsertPrompts prompts)
        { memory with
          inbox := Inbox.pruneInboxLocked policy
            (prompts.foldl Inbox.upsertPrompt memory.inbox) }
  | updateStatus {now : DateTime} {promptId : String} {status : IntegrationInboxItemStatus}
      {reason : Option String} {prompt : StoredProactivePrompt}
      (h : memory.inbox.find? promptId = some prompt) :
      Change policy memory (.updateStatus now promptId status reason)
        { memory with
          inbox := memory.inbox.upsert
            (FileIntegrationStateInner.redactPromptBodyIfNeeded policy
              { prompt with
                status := status
                statusUpdatedAt := now
                dismissReason := reason } status) }
  | recordPromptReceipt {uuid : String} {now : DateTime} {envelope : IntegrationEnvelope}
      {receipt : IntegrationPromptReceipt} {prompt : StoredProactivePrompt}
      (h : memory.inbox.find? receipt.promptId = some prompt)
      (hpending : prompt.status = .pending) :
      Change policy memory (.recordPromptReceipt uuid now receipt.promptId envelope receipt)
        { memory with
          inbox := memory.inbox.upsert
            (FileIntegrationStateInner.receiptPrompt policy prompt receipt)
          outbox := memory.outbox ++
            [⟨FileIntegrationStateInner.queueId uuid, envelope, .promptReceipt receipt, now⟩] }
  | markPresented {promptId : String} {presentedAt : DateTime} {prompt : StoredProactivePrompt}
      (h : memory.inbox.find? promptId = some prompt) :
      Change policy memory (.markPresented promptId presentedAt)
        { memory with
          inbox := memory.inbox.upsert { prompt with presentedAt := some presentedAt } }
  | expireStale (now : DateTime) :
      Change policy memory (.expireStale now)
        { memory with
          inbox := memory.inbox.mapRows (FileIntegrationStateInner.expirePrompt policy now)
            (FileIntegrationStateInner.key_expirePrompt policy now) }

namespace FileIntegrationStateInner

/-- What a commit does does not depend on what it returns. -/
theorem commit_unit {α : Type} (self : FileIntegrationStateInner) (disk : Except StorageError Unit)
    (memory : FileIntegrationStateRegistry) (value : α) :
    (self.commit disk memory value).2 = (self.commit disk memory ()).2 := by
  cases disk with
  | ok _ => rfl
  | error _ => rfl

@[simp] theorem policy_commit {α : Type} {self : FileIntegrationStateInner}
    {disk : Except StorageError Unit} {memory : FileIntegrationStateRegistry} {value : α} :
    (self.commit disk memory value).2.policy = self.policy := rfl

@[simp] theorem registry_commit {α : Type} {self : FileIntegrationStateInner}
    {disk : Except StorageError Unit} {memory : FileIntegrationStateRegistry} {value : α} :
    (self.commit disk memory value).2.registry = (self.registry.commit disk memory value).2 := rfl

end FileIntegrationStateInner

/-- **What a call on the inbox does.** -/
theorem InboxCall.run_cases (self : FileIntegrationStateInner) (disk : Except StorageError Unit)
    (call : InboxCall) :
    call.run self disk = self ∨
      ∃ memory, Change self.policy self.registry.memory call memory ∧
        call.run self disk = (self.commit disk memory ()).2 := by
  cases call with
  | upsertPrompts prompts => exact .inr ⟨_, .upsertPrompts prompts, rfl⟩
  | updateStatus now promptId status reason =>
    simp only [InboxCall.run, FileIntegrationStateInner.updateInboxStatusSync]
    split
    · exact .inl rfl
    · next prompt h => exact .inr ⟨_, .updateStatus h, rfl⟩
  | recordPromptReceipt uuid now promptId envelope receipt =>
    simp only [InboxCall.run, FileIntegrationStateInner.recordPromptReceiptSync]
    split
    · exact .inl rfl
    · next hid =>
      obtain rfl := not_not.mp hid
      split
      · exact .inl rfl
      · next prompt h =>
        split
        · exact .inl rfl
        · next hpending =>
          exact .inr ⟨_, .recordPromptReceipt h (not_not.mp hpending),
            FileIntegrationStateInner.commit_unit ..⟩
  | markPresented promptId presentedAt =>
    simp only [InboxCall.run, FileIntegrationStateInner.markPresentedSync]
    split
    · exact .inl rfl
    · next prompt h => exact .inr ⟨_, .markPresented h, rfl⟩
  | expireStale now =>
    simp only [InboxCall.run, FileIntegrationStateInner.expireInboxSync]
    split
    · exact .inr ⟨_, .expireStale now, FileIntegrationStateInner.commit_unit ..⟩
    · exact .inl rfl

/-- The calls of the other clients of the store. -/
inductive StoreCall where
  | inbox (call : InboxCall)
  | storeSession (state : IntegrationSessionState)
  | clearSession
  | storeOutboxAckCursor (cursor : IntegrationAckCursor)
  | storeInboxAckCursor (cursor : IntegrationAckCursor)
  | storeCheckpoint (checkpoint cursor : String)
  | recordAudit (record : IntegrationInsightAuditRecord)

/-- The store after the call. -/
def StoreCall.run (self : FileIntegrationStateInner) (disk : Except StorageError Unit) :
    StoreCall → FileIntegrationStateInner
  | .inbox call => call.run self disk
  | .storeSession state => (self.storeSessionSync disk state).2
  | .clearSession => (self.clearSessionSync disk).2
  | .storeOutboxAckCursor cursor => (self.storeOutboxAckCursorSync disk cursor).2
  | .storeInboxAckCursor cursor => (self.storeInboxAckCursorSync disk cursor).2
  | .storeCheckpoint checkpoint cursor => (self.storeCheckpointSync disk checkpoint cursor).2
  | .recordAudit record => (self.recordAuditSync disk record).2

end Oneshim.Integration
