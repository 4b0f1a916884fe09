/-
  The insight producer (`oneshim-network/src/integration/producer_coordinator.rs`,
  `policy_egress.rs`, `src-tauri/src/integration_insight_source.rs`,
  `oneshim-storage/src/sqlite/integration_query_impl.rs`).

  Every cycle takes the next suggestions after the checkpoint, asks the policy about each, puts the
  allowed ones into the outbox and moves the checkpoint behind them.

  1. **Code** — the source over the rows of `local_suggestions`, the egress that asks the policy, and
     the loop of `produce_pending`, over the file-backed store.  Reading a timestamp, the text of a
     summary and the sanitizer are parameters.

  2. **Progress** — when the store does not fail, the outbox after `k` cycles holds the first
     `k * batch` of the suggestions BEFORE the first refused one, in order, each once
     (`insights_run`): a refusal ends the cycle before the checkpoint moves, and the next cycle
     meets it again.

  3. **The result** — all allowed suggestions get through exactly when none of them comes after a
     refused one (`producer_delivers_iff`).
-/
import Mathlib.Data.List.TakeWhile
import Oneshim.Core.Json
import Oneshim.Lib.Text
import Oneshim.Lib.Outcome
import Oneshim.Integration.Egress

namespace Oneshim.Integration

open Lib

/-! ## The source -/

/-- `LocalSuggestionRecord`, without the times at which it was shown, dismissed and acted on. -/
structure LocalSuggestionRecord where
  id : Int64
  suggestionType : String
  payload : Json
  createdAt : String

/-- `IntegrationInsightCandidate`. -/
structure IntegrationInsightCandidate where
  sourceCursor : String
  envelope : IntegrationEnvelope
  packet : InsightPacket

/-- `LOCAL_SUGGESTION_NAMESPACE`. -/
def localSuggestionNamespace : String := "focus.local_suggestions"

/-- `i64::to_string`. -/
def printI64 (n : Int64) : String := String.ofList (Text.signedDecimal n.toInt)

/-- `str::parse::<i64>`. -/
def parseI64 (s : String) : Option Int64 := (Text.parseSigned (2 ^ 63) s.toList).map Int64.ofInt

/-- `LocalSuggestionIntegrationSource`, with the table it reads. -/
structure LocalSuggestionIntegrationSource where
  deviceId : String
  sourceLabel : String
  /-- `parse_timestamp`. -/
  parseTimestamp : String → Option DateTime
  /-- `summarize`: the summary and the tags. -/
  summarize : LocalSuggestionRecord → String × List String
  /-- `SELECT … FROM local_suggestions ORDER BY id ASC`. -/
  rows : List LocalSuggestionRecord
  /-- `id` is the primary key. -/
  sorted : rows.Pairwise (fun a b => a.id < b.id)

namespace LocalSuggestionIntegrationSource

/-- `parse_after_id`; the message ends with the reason of the standard library. -/
def parseAfterId : Option String → Except CoreError (Option Int64)
  | none => .ok none
  | some cursor =>
    match parseI64 cursor with
    | some id => .ok (some id)
    | none => .error
      (.validation "integration.checkpoint_cursor" "invalid local suggestion checkpoint: ")

/-- `list_local_suggestions_after`. -/
def listLocalSuggestionsAfter (self : LocalSuggestionIntegrationSource) (afterId : Option Int64)
    (limit : Nat) : List LocalSuggestionRecord :=
  match afterId with
  | some afterId => (self.rows.filter fun record => afterId < record.id).take limit
  | none => self.rows.take limit

/-- The candidate of a record with its time. -/
def candidateAt (self : LocalSuggestionIntegrationSource) (record : LocalSuggestionRecord)
    (occurredAt : DateTime) : IntegrationInsightCandidate :=
  let cursor := printI64 record.id
  { sourceCursor := cursor
    envelope :=
      { envelopeId := "integration.focus.local_suggestion." ++ cursor
        schemaVersion := "integration.envelope.v1"
        messageType := .insightPacket
        timestamp := occurredAt
        nonce := "focus-local-suggestion-" ++ cursor
        origin := ⟨self.deviceId, none, none, self.sourceLabel⟩
        capabilityScope := .insightWrite }
    packet :=
      { packetId := "local_suggestion:" ++ cursor
        summary := (self.summarize record).1
        derivedTags := (self.summarize record).2
        sourceWindow := ⟨occurredAt, occurredAt⟩
        privacyClassification := .derivedSummary
        auditReferenceId := some ("local_suggestion_record:" ++ cursor) } }

/-- `to_candidate`; the message ends with the reason of the time library. -/
def toCandidate (self : LocalSuggestionIntegrationSource) (record : LocalSuggestionRecord) :
    Except CoreError IntegrationInsightCandidate :=
  match self.parseTimestamp record.createdAt with
  | some occurredAt => .ok (self.candidateAt record occurredAt)
  | none => .error
    (.validation "local_suggestions.created_at" "invalid suggestion timestamp: ")

/-- `list_candidates_after`. -/
def listCandidatesAfter (self : LocalSuggestionIntegrationSource) (afterCursor : Option String)
    (limit : Nat) : Except CoreError (List IntegrationInsightCandidate) :=
  match parseAfterId afterCursor with
  | .error e => .error e
  | .ok afterId => (self.listLocalSuggestionsAfter afterId (max limit 1)).mapM self.toCandidate

end LocalSuggestionIntegrationSource

/-! ## The policy -/

/-- `IntegrationEgressDecision`. -/
structure IntegrationEgressDecision where
  disposition : IntegrationEgressDisposition
  reason : Option String
  auditRequired : Bool

/-- `PolicyAwareIntegrationEgressCoordinator`: what the policy says, and the sanitizer at its level
    if there is one. -/
structure PolicyAwareIntegrationEgressCoordinator where
  authorizeInsight : IntegrationEnvelope → InsightPacket → IntegrationEgressDecision
  piiSanitizer : Option (String → String)

/-- What one enqueue draws: the random id, the clock, and how the file writes end. -/
structure Draw where
  uuid : String
  queuedAt : DateTime
  auditedAt : DateTime
  auditDisk : Except StorageError Unit
  outboxDisk : Except StorageError Unit
  checkpointDisk : Except StorageError Unit

namespace PolicyAwareIntegrationEgressCoordinator

/-- `sanitize_packet`. -/
def sanitizePacket (self : PolicyAwareIntegrationEgressCoordinator) (packet : InsightPacket) :
    InsightPacket :=
  match self.piiSanitizer with
  | none => packet
  | some sanitizeText =>
    { packet with
      summary := sanitizeText packet.summary
      derivedTags := packet.derivedTags.map sanitizeText }

/-- `to_audit_record`. -/
def toAuditRecord (envelope : IntegrationEnvelope) (packet : InsightPacket)
    (decision : IntegrationEgressDecision) (now : DateTime) : IntegrationInsightAuditRecord where
  recordId := envelope.envelopeId ++ ":" ++ packet.packetId
  envelopeId := envelope.envelopeId
  packetId := packet.packetId
  disposition := decision.disposition
  reason := decision.reason
  privacyClassification := packet.privacyClassification
  capabilityScope := envelope.capabilityScope
  occurredAt := now

/-- `if decision.audit_required { record_insight_decision }`. -/
def recordInsightDecision (draw : Draw) (store : FileIntegrationStateInner)
    (envelope : IntegrationEnvelope) (packet : InsightPacket)
    (decision : IntegrationEgressDecision) :
    Except StorageError Unit × FileIntegrationStateInner :=
  if decision.auditRequired then
    store.recordAuditSync draw.auditDisk (toAuditRecord envelope packet decision draw.auditedAt)
  else (.ok (), store)

/-- `enqueue_message`. -/
def enqueueMessage (self : PolicyAwareIntegrationEgressCoordinator) (draw : Draw)
    (store : FileIntegrationStateInner) (envelope : IntegrationEnvelope)
    (payload : IntegrationOutboundPayload) : Except CoreError Unit × FileIntegrationStateInner :=
  match payload with
  | .insight packet =>
    let decision := self.authorizeInsight envelope packet
    match recordInsightDecision draw store envelope packet decision with
    | (.error e, store) => (.error e.toCore, store)
    | (.ok (), store) =>
      match decision.disposition with
      | .allow =>
        IntegrationEgressCoordinator.enqueueMessage store draw.outboxDisk draw.uuid draw.queuedAt
          envelope (.insight (self.sanitizePacket packet))
      | .deny =>
        (.error (.policyDenied (decision.reason.getD "integration egress denied")), store)
      | .requireUserApproval =>
        (.error (.consentRequired
          (decision.reason.getD "integration egress requires user approval")), store)
  | .promptReceipt _ =>
    IntegrationEgressCoordinator.enqueueMessage store draw.outboxDisk draw.uuid draw.queuedAt
      envelope payload

end PolicyAwareIntegrationEgressCoordinator

/-! ## The producer -/

/-- `IntegrationInsightProducerCoordinator`. -/
structure IntegrationInsightProducerCoordinator where
  source : LocalSuggestionIntegrationSource
  egress : PolicyAwareIntegrationEgressCoordinator
  maxBatchSize : Nat

namespace IntegrationInsightProducerCoordinator

/-- The loop of `produce_pending`; `turn i` is what the `i`-th enqueue of the cycle draws. -/
def produceCandidates (self : IntegrationInsightProducerCoordinator) (turn : Nat → Draw) :
    List IntegrationInsightCandidate → Nat → FileIntegrationStateInner →
    Except CoreError Nat × FileIntegrationStateInner
  | [], produced, store => (.ok produced, store)
  | candidate :: candidates, produced, store =>
    match self.egress.enqueueMessage (turn produced) store candidate.envelope
        (.insight candidate.packet) with
    | (.error e, store) => (.error e, store)
    | (.ok (), store) =>
      match store.storeCheckpointSync (turn produced).checkpointDisk localSuggestionNamespace
          candidate.sourceCursor with
      | (.error e, store) => (.error e.toCore, store)
      | (.ok (), store) => self.produceCandidates turn candidates (produced + 1) store

/-- `produce_pending`. -/
def producePending (self : IntegrationInsightProducerCoordinator)
    (store : FileIntegrationStateInner) (turn : Nat → Draw) :
    Except CoreError Nat × FileIntegrationStateInner :=
  let afterCursor := store.loadCheckpointSync localSuggestionNamespace
  match self.source.listCandidatesAfter afterCursor (max self.maxBatchSize 1) with
  | .error e => (.error e, store)
  | .ok candidates => self.produceCandidates turn candidates 0 store

/-- The store after some cycles. -/
def run (self : IntegrationInsightProducerCoordinator) (store : FileIntegrationStateInner)
    (turns : List (Nat → Draw)) : FileIntegrationStateInner :=
  turns.foldl (fun store turn => (self.producePending store turn).2) store

end IntegrationInsightProducerCoordinator

/-! ## Progress -/

/-- A printed id is read back. -/
theorem parseI64_printI64 (n : Int64) : parseI64 (printI64 n) = some n := by
  have hread : Text.parseSigned (2 ^ 63) (Text.signedDecimal n.toInt) = some n.toInt :=
    Text.parseSigned_signedDecimal n.le_toInt n.toInt_lt
  unfold parseI64 printI64
  rw [String.toList_ofList, hread]
  exact congrArg some (Int64.ofInt_toInt n)

/-- None of the file writes fails. -/
structure Draw.Works (draw : Draw) : Prop where
  audit : draw.auditDisk = .ok ()
  outbox : draw.outboxDisk = .ok ()
  checkpoint : draw.checkpointDisk = .ok ()

/-- What stands in the outbox. -/
def insights (store : FileIntegrationStateInner) :
    List (IntegrationEnvelope × IntegrationOutboundPayload) :=
  store.registry.memory.outbox.map fun message => (message.envelope, message.payload)

namespace IntegrationInsightProducerCoordinator

variable (producer : IntegrationInsightProducerCoordinator)

/-- The candidate of a record whose time can be read. -/
def candidate (record : LocalSuggestionRecord) : IntegrationInsightCandidate :=
  producer.source.candidateAt record ((producer.source.parseTimestamp record.createdAt).getD 0)

/-- The policy lets the candidate out. -/
def allowed (record : LocalSuggestionRecord) : Bool :=
  (producer.egress.authorizeInsight (producer.candidate record).envelope
    (producer.candidate record).packet).disposition == .allow

/-- What the candidate puts into the outbox. -/
def sent (record : LocalSuggestionRecord) : IntegrationEnvelope × IntegrationOutboundPayload :=
  ((producer.candidate record).envelope,
    .insight (producer.egress.sanitizePacket (producer.candidate record).packet))

/-- The records that have been sent, and the checkpoint behind the last of them. -/
structure Progress (store : FileIntegrationStateInner) (done : List LocalSuggestionRecord) :
    Prop where
  outbox : insights store = done.map producer.sent
  checkpoint : store.loadCheckpointSync localSuggestionNamespace =
    done.getLast?.map fun record => printI64 record.id

variable {producer} {store : FileIntegrationStateInner} {done : List LocalSuggestionRecord}

/-- Only the outbox and the checkpoints matter. -/
theorem Progress.congr {store' : FileIntegrationStateInner} (h : producer.Progress store done)
    (houtbox : store'.registry.memory.outbox = store.registry.memory.outbox)
    (hcheckpoints : store'.registry.memory.producerCheckpoints =
      store.registry.memory.producerCheckpoints) : producer.Progress store' done where
  outbox := by
    unfold insights
    rw [houtbox]
    exact h.outbox
  checkpoint := by
    unfold FileIntegrationStateInner.loadCheckpointSync
    rw [hcheckpoints]
    exact h.checkpoint

theorem recordAuditSync_works (store : FileIntegrationStateInner)
    (record : IntegrationInsightAuditRecord) :
    ∃ memory, store.recordAuditSync (.ok ()) record = (.ok (), ⟨store.policy, ⟨memory, some memory⟩⟩) ∧
      memory.outbox = store.registry.memory.outbox ∧
      memory.producerCheckpoints = store.registry.memory.producerCheckpoints := by
  refine ⟨_, rfl, ?_, ?_⟩
  · simp only
  · simp only

/-- The audit trail is neither. -/
theorem recordInsightDecision_works {draw : Draw} (hworks : draw.Works)
    (envelope : IntegrationEnvelope) (packet : InsightPacket)
    (decision : IntegrationEgressDecision) (h : producer.Progress store done) :
    ∃ store', PolicyAwareIntegrationEgressCoordinator.recordInsightDecision draw store envelope
      packet decision = (.ok (), store') ∧ producer.Progress store' done := by
  unfold PolicyAwareIntegrationEgressCoordinator.recordInsightDecision
  rw [hworks.audit]
  split
  · obtain ⟨memory, hrecord, houtbox, hcheckpoints⟩ := recordAuditSync_works store
      (PolicyAwareIntegrationEgressCoordinator.toAuditRecord envelope packet decision
        draw.auditedAt)
    exact ⟨_, hrecord, h.congr houtbox hcheckpoints⟩
  · exact ⟨store, rfl, h⟩

/-- A candidate that is let out. -/
theorem enqueueMessage_allowed {draw : Draw} (hworks : draw.Works) {record : LocalSuggestionRecord}
    (hallowed : producer.allowed record = true) (h : producer.Progress store done) :
    ∃ store₁ store₂,
      producer.egress.enqueueMessage draw store (producer.candidate record).envelope
        (.insight (producer.candidate record).packet) = (.ok (), store₁) ∧
      store₁.storeCheckpointSync draw.checkpointDisk localSuggestionNamespace
        (producer.candidate record).sourceCursor = (.ok (), store₂) ∧
      producer.Progress store₂ (done ++ [record]) := by
  obtain ⟨store', hrecord, hprogress⟩ := recordInsightDecision_works hworks
    (producer.candidate record).envelope (producer.candidate record).packet
    (producer.egress.authorizeInsight (producer.candidate record).envelope
      (producer.candidate record).packet) h
  have hallow : (producer.egress.authorizeInsight (producer.candidate record).envelope
      (producer.candidate record).packet).disposition = .allow := beq_iff_eq.mp hallowed
  simp only [PolicyAwareIntegrationEgressCoordinator.enqueueMessage, hrecord, hallow]
  rw [hworks.outbox, hworks.checkpoint]
  refine ⟨_, _, rfl, rfl, ?_, ?_⟩
  · have hpush : insights store' ++ [producer.sent record] = (done ++ [record]).map producer.sent := by
      rw [hprogress.outbox, List.map_append]
      rfl
    rw [← hpush]
    exact List.map_append
  · rw [List.getLast?_concat]
    show ((store'.registry.memory.producerCheckpoints.upsert _).find? _).map _ = _
    rw [Table.find?_upsert, if_pos rfl]
    rfl

/-- A candidate that is refused. -/
theorem enqueueMessage_refused {draw : Draw} (hworks : draw.Works) {record : LocalSuggestionRecord}
    (hrefused : producer.allowed record = false) (h : producer.Progress store done) :
    ∃ e store',
      producer.egress.enqueueMessage draw store (producer.candidate record).envelope
        (.insight (producer.candidate record).packet) = (.error e, store') ∧
      producer.Progress store' done := by
  obtain ⟨store', hrecord, hprogress⟩ := recordInsightDecision_works hworks
    (producer.candidate record).envelope (producer.candidate record).packet
    (producer.egress.authorizeInsight (producer.candidate record).envelope
      (producer.candidate record).packet) h
  simp only [PolicyAwareIntegrationEgressCoordinator.enqueueMessage, hrecord]
  unfold allowed at hrefused
  split
  · next hallow =>
    rw [hallow] at hrefused
    nomatch hrefused
  · exact ⟨_, store', rfl, hprogress⟩
  · exact ⟨_, store', rfl, hprogress⟩

/-- The loop sends the candidates before the first refused one. -/
theorem progress_loop {turn : Nat → Draw} (hworks : ∀ i, (turn i).Works)
    (records : List LocalSuggestionRecord) (produced : Nat) (h : producer.Progress store done) :
    producer.Progress (producer.produceCandidates turn (records.map producer.candidate) produced store).2
      (done ++ records.takeWhile producer.allowed) := by
  induction records generalizing store done produced with
  | nil =>
    rw [List.takeWhile_nil, List.append_nil]
    exact h
  | cons record records ih =>
    rw [List.map_cons]
    unfold produceCandidates
    cases hallowed : producer.allowed record with
    | true =>
      obtain ⟨store₁, store₂, henqueue, hcheckpoint, hprogress⟩ :=
        enqueueMessage_allowed (hworks produced) hallowed h
      rw [List.takeWhile_cons_of_pos hallowed, List.append_cons]
      simp only [henqueue, hcheckpoint]
      exact ih (produced + 1) hprogress
    | false =>
      obtain ⟨e, store', henqueue, hprogress⟩ :=
        enqueueMessage_refused (hworks produced) hallowed h
      rw [List.takeWhile_cons_of_neg (by rw [hallowed]; decide), List.append_nil]
      simp only [henqueue]
      exact hprogress

/-! ### One cycle -/

/-- Behind the last record sent stand the others. -/
theorem filter_after_last {rows rest : List LocalSuggestionRecord} {last : LocalSuggestionRecord}
    (hsorted : rows.Pairwise (fun a b => a.id < b.id)) (hrows : rows = done ++ rest)
    (hlast : done.getLast? = some last) :
    rows.filter (fun record => decide (last.id < record.id)) = rest := by
  obtain ⟨front, rfl⟩ := List.getLast?_eq_some_iff.mp hlast
  subst hrows
  rw [List.append_assoc, List.pairwise_append, List.singleton_append, List.pairwise_cons] at hsorted
  obtain ⟨-, ⟨hafter, -⟩, hbefore⟩ := hsorted
  have hfront : front.filter (fun record => decide (last.id < record.id)) = [] := by
    rw [List.filter_eq_nil_iff]
    intro record hmem hlt
    have hgt : record.id < last.id := hbefore record hmem last List.mem_cons_self
    exact Int64.lt_irrefl (Int64.lt_trans hgt (of_decide_eq_true hlt))
  have hself : [last].filter (fun record => decide (last.id < record.id)) = [] := by
    rw [List.filter_eq_nil_iff]
    intro record hmem hlt
    rw [List.mem_singleton.mp hmem] at hlt
    exact Int64.lt_irrefl (of_decide_eq_true hlt)
  have hrest : rest.filter (fun record => decide (last.id < record.id)) = rest :=
    List.filter_eq_self.mpr (fun record hmem => decide_eq_true (hafter record hmem))
  rw [List.filter_append, List.filter_append, hfront, hself, hrest]
  rfl

/-- Every record can be turned into a candidate. -/
def Readable (producer : IntegrationInsightProducerCoordinator) : Prop :=
  ∀ record ∈ producer.source.rows, (producer.source.parseTimestamp record.createdAt).isSome = true

theorem mapM_toCandidate (hreadable : producer.Readable) {records : List LocalSuggestionRecord}
    (hrecords : ∀ record ∈ records, record ∈ producer.source.rows) :
    records.mapM producer.source.toCandidate = .ok (records.map producer.candidate) := by
  rw [mapM_eq_ok_iff, List.forall₂_map_right_iff, List.forall₂_same]
  intro record hmem
  obtain ⟨occurredAt, htime⟩ := Option.isSome_iff_exists.mp (hreadable record (hrecords record hmem))
  unfold LocalSuggestionIntegrationSource.toCandidate candidate
  rw [htime]
  rfl

/-- The candidates of a cycle are the next ones. -/
theorem listCandidatesAfter_progress (hreadable : producer.Readable)
    {rest : List LocalSuggestionRecord} (hrows : producer.source.rows = done ++ rest) (limit : Nat) :
    producer.source.listCandidatesAfter (done.getLast?.map fun record => printI64 record.id) limit =
      .ok ((rest.take (max limit 1)).map producer.candidate) := by
  have hrest : ∀ record ∈ rest.take (max limit 1), record ∈ producer.source.rows := by
    intro record hmem
    rw [hrows]
    exact List.mem_append_right _ (List.mem_of_mem_take hmem)
  cases hlast : done.getLast? with
  | none =>
    rw [List.getLast?_eq_none_iff.mp hlast, List.nil_append] at hrows
    show (producer.source.rows.take (max limit 1)).mapM _ = _
    rw [hrows]
    exact mapM_toCandidate hreadable hrest
  | some last =>
    simp only [Option.map_some, LocalSuggestionIntegrationSource.listCandidatesAfter,
      LocalSuggestionIntegrationSource.parseAfterId, parseI64_printI64,
      LocalSuggestionIntegrationSource.listLocalSuggestionsAfter]
    rw [filter_after_last producer.source.sorted hrows hlast]
    exact mapM_toCandidate hreadable hrest

/-- The number of candidates of a cycle. -/
def batch (producer : IntegrationInsightProducerCoordinator) : Nat := max producer.maxBatchSize 1

/-- **One cycle** sends the next batch, up to the first refused candidate. -/
theorem progress_cycle (hreadable : producer.Readable) {turn : Nat → Draw}
    (hworks : ∀ i, (turn i).Works) {rest : List LocalSuggestionRecord}
    (hrows : producer.source.rows = done ++ rest) (h : producer.Progress store done) :
    producer.Progress (producer.producePending store turn).2
      (done ++ (rest.take producer.batch).takeWhile producer.allowed) := by
  have hlist := listCandidatesAfter_progress hreadable hrows producer.batch
  have hbatch : max producer.batch 1 = producer.batch := by
    unfold batch
    omega
  rw [← h.checkpoint, hbatch] at hlist
  unfold producePending
  simp only
  rw [show max producer.maxBatchSize 1 = producer.batch from rfl, hlist]
  exact progress_loop hworks _ 0 h

/-! ### All cycles -/

/-- The suggestions before the first refused one. -/
def unblocked (producer : IntegrationInsightProducerCoordinator) : List LocalSuggestionRecord :=
  producer.source.rows.takeWhile producer.allowed

/-- A cycle after the first `count` of them. -/
theorem progress_take (hreadable : producer.Readable) {turn : Nat → Draw}
    (hworks : ∀ i, (turn i).Works) {count : Nat}
    (h : producer.Progress store (producer.unblocked.take count)) :
    producer.Progress (producer.producePending store turn).2
      (producer.unblocked.take (count + producer.batch)) := by
  obtain ⟨blocked, hblocked⟩ := List.takeWhile_prefix (l := producer.source.rows) producer.allowed
  have hsplit : producer.source.rows =
      producer.unblocked.take count ++ (producer.unblocked.drop count ++ blocked) := by
    rw [← List.append_assoc, List.take_append_drop]
    exact hblocked.symm
  have hnext := progress_cycle hreadable hworks hsplit h
  -- the rest of the stream is allowed up to the same place
  have hrest : (producer.unblocked.drop count ++ blocked).takeWhile producer.allowed =
      producer.unblocked.drop count := by
    have hall : ∀ record ∈ producer.unblocked.take count, producer.allowed record = true :=
      fun record hmem => List.mem_takeWhile_imp (List.mem_of_mem_take hmem)
    have hwhole : producer.unblocked = producer.unblocked.take count ++
        (producer.unblocked.drop count ++ blocked).takeWhile producer.allowed := by
      rw [← List.takeWhile_append_of_pos hall, ← hsplit]
      rfl
    have hparts := List.take_append_drop count producer.unblocked
    exact (List.append_cancel_left (hparts.trans hwhole)).symm
  rw [← List.take_takeWhile, hrest, ← List.take_add] at hnext
  exact hnext

theorem progress_start (policy : IntegrationStateStorePolicy) :
    producer.Progress (.opened policy none) [] where
  outbox := rfl
  checkpoint := rfl

/-- **After some cycles** the outbox holds the first of the suggestions before the first refused
    one, in order and each once. -/
theorem insights_run (hreadable : producer.Readable) (policy : IntegrationStateStorePolicy)
    (turns : List (Nat → Draw)) (hworks : ∀ turn ∈ turns, ∀ i, (turn i).Works) :
    insights (producer.run (.opened policy none) turns) =
      (producer.unblocked.take (turns.length * producer.batch)).map producer.sent := by
  have hstart : producer.Progress (.opened policy none) (producer.unblocked.take 0) :=
    progress_start policy
  suffices hrun : ∀ (store : FileIntegrationStateInner) (count : Nat),
      producer.Progress store (producer.unblocked.take count) →
      producer.Progress (producer.run store turns)
        (producer.unblocked.take (count + turns.length * producer.batch)) by
    have hend := (hrun _ 0 hstart).outbox
    rw [Nat.zero_add] at hend
    exact hend
  clear hstart
  induction turns with
  | nil =>
    intro store count h
    rw [List.length_nil, Nat.zero_mul, Nat.add_zero]
    exact h
  | cons turn turns ih =>
    intro store count h
    have hcycle := progress_take hreadable (hworks turn List.mem_cons_self) h
    have hrest := ih (fun turn hmem => hworks turn (List.mem_cons_of_mem _ hmem)) _ _ hcycle
    have hcount : count + producer.batch + turns.length * producer.batch =
        count + (turn :: turns).length * producer.batch := by
      rw [List.length_cons, Nat.succ_mul]
      omega
    rw [hcount] at hrest
    exact hrest

end IntegrationInsightProducerCoordinator

/-! ## The result -/

open IntegrationInsightProducerCoordinator

/-- What stands before the first refused one is all that is allowed, exactly when nothing allowed
    comes after a refused one. -/
theorem takeWhile_eq_filter_iff {α : Type} (p : α → Bool) (l : List α) :
    l.takeWhile p = l.filter p ↔ l.Pairwise (fun a b => p b = true → p a = true) := by
  induction l with
  | nil => exact ⟨fun _ => .nil, fun _ => rfl⟩
  | cons a l ih =>
    rw [List.pairwise_cons]
    cases ha : p a with
    | true =>
      rw [List.takeWhile_cons_of_pos ha, List.filter_cons_of_pos ha, List.cons_inj_right, ih]
      exact (and_iff_right fun _ _ _ => rfl).symm
    | false =>
      rw [List.takeWhile_cons_of_neg (by rw [ha]; decide),
        List.filter_cons_of_neg (by rw [ha]; decide), eq_comm, List.filter_eq_nil_iff]
      constructor
      · intro hnone
        exact ⟨fun b hb hpb => absurd hpb (hnone b hb),
          List.pairwise_of_forall_mem_list fun x _ y hy hpy => absurd hpy (hnone y hy)⟩
      · intro hpairs b hb hpb
        exact absurd (hpairs.1 b hb hpb) (by decide)

/-- Once enough cycles have run without a failure of the store, whatever they draw, the outbox holds
    every allowed suggestion once, in the order of the ids, and nothing else. -/
def DeliversAll (producer : IntegrationInsightProducerCoordinator)
    (policy : IntegrationStateStorePolicy) : Prop :=
  ∃ enough, ∀ turns : List (Nat → Draw), enough ≤ turns.length →
    (∀ turn ∈ turns, ∀ i, (turn i).Works) →
    insights (producer.run (.opened policy none) turns) =
      (producer.source.rows.filter producer.allowed).map producer.sent

/-- Draws that work. -/
def sampleDraw (i : Nat) : Draw :=
  ⟨"uuid-" ++ String.ofList (Text.decimal i), 0, 0, .ok (), .ok (), .ok ()⟩

theorem works_sampleDraw (i : Nat) : (sampleDraw i).Works := ⟨rfl, rfl, rfl⟩

/-- A run of any length. -/
theorem insights_replicate {producer : IntegrationInsightProducerCoordinator}
    (hreadable : producer.Readable) (policy : IntegrationStateStorePolicy) (n : Nat) :
    insights (producer.run (.opened policy none) (List.replicate n sampleDraw)) =
      (producer.unblocked.take (n * producer.batch)).map producer.sent := by
  have hrun := insights_run hreadable policy (List.replicate n sampleDraw)
    (fun turn hmem => List.eq_of_mem_replicate hmem ▸ works_sampleDraw)
  rw [List.length_replicate] at hrun
  exact hrun

/-- When everything allowed is delivered, nothing is blocked. -/
theorem unblocked_of_deliversAll {producer : IntegrationInsightProducerCoordinator}
    (hreadable : producer.Readable) {policy : IntegrationStateStorePolicy}
    (h : DeliversAll producer policy) :
    producer.unblocked = producer.source.rows.filter producer.allowed := by
  obtain ⟨enough, h⟩ := h
  have hall := h (List.replicate enough sampleDraw) (by rw [List.length_replicate])
    (fun turn hmem => List.eq_of_mem_replicate hmem ▸ works_sampleDraw)
  rw [insights_replicate hreadable policy enough] at hall
  have hlength := congrArg List.length hall
  rw [List.length_map, List.length_map, List.length_take] at hlength
  -- `unblocked` is a part of the allowed ones, and as long
  have hpart : producer.unblocked.Sublist (producer.source.rows.filter producer.allowed) := by
    have hself : producer.unblocked.filter producer.allowed = producer.unblocked :=
      List.filter_eq_self.mpr fun record hmem => List.mem_takeWhile_imp hmem
    rw [← hself]
    exact (List.takeWhile_sublist _).filter _
  exact hpart.eq_of_length_le (by omega)

/-- **The producer delivers every allowed suggestion exactly when none comes after a refused one.**
    For every table whose times can be read, every policy, sanitizer and batch size, from a new
    store that does not fail. -/
theorem producer_delivers_iff (producer : IntegrationInsightProducerCoordinator)
    (policy : IntegrationStateStorePolicy) (hreadable : producer.Readable) :
    DeliversAll producer policy ↔
      producer.source.rows.Pairwise fun earlier later =>
        producer.allowed later = true → producer.allowed earlier = true := by
  rw [← takeWhile_eq_filter_iff]
  constructor
  · exact unblocked_of_deliversAll hreadable
  · intro hunblocked
    refine ⟨producer.unblocked.length, fun turns hturns hworks => ?_⟩
    have hbatch : 1 ≤ producer.batch := Nat.le_max_right _ _
    have hlength : producer.unblocked.length ≤ turns.length * producer.batch :=
      hturns.trans (Nat.le_mul_of_pos_right _ hbatch)
    rw [insights_run hreadable policy turns hworks, List.take_of_length_le hlength]
    exact congrArg (List.map producer.sent) hunblocked

/-- A producer over three suggestions, with a policy on the ids of the packets. -/
def sampleProducer (refused : List String) : IntegrationInsightProducerCoordinator where
  source :=
    { deviceId := "device-1"
      sourceLabel := localSuggestionNamespace
      parseTimestamp := fun _ => some 0
      summarize := fun _ => ("A recurring workflow pattern was detected locally.", ["workflow"])
      rows := [⟨-1, "PatternDetected", .null, "2026-03-10 09:00:00"⟩,
        ⟨2, "PatternDetected", .null, "2026-03-10 09:01:00"⟩,
        ⟨3, "PatternDetected", .null, "2026-03-10 09:02:00"⟩]
      sorted := by decide }
  egress :=
    { authorizeInsight := fun _ packet =>
        if packet.packetId ∈ refused then ⟨.deny, some "denied by policy", true⟩
        else ⟨.allow, none, true⟩
      piiSanitizer := none }
  maxBatchSize := 1

theorem producer_delivers_before_refused :
    DeliversAll (sampleProducer ["local_suggestion:3"]) .default :=
  (producer_delivers_iff (sampleProducer ["local_suggestion:3"]) .default (fun _ _ => rfl)).mpr
    (by decide +kernel)

/-- **A refused suggestion stops all later ones**: the second of three is denied, and the third is
    never enqueued. -/
theorem refused_insight_blocks : ¬ DeliversAll (sampleProducer ["local_suggestion:2"]) .default := by
  intro h
  have hunblocked := congrArg List.length (unblocked_of_deliversAll (fun _ _ => rfl) h)
  exact absurd hunblocked (by decide +kernel)

end Oneshim.Integration
