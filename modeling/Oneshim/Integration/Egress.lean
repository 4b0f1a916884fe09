/-
  The outbox is at-least-once (`oneshim-network/src/integration/egress_coordinator.rs`).

  `flush` sends a batch of the outbox and deletes what the response acknowledges.  It holds no lock
  between its steps: messages arrive, other flushes run and the process may end at any point.

  1. **Code** — `Flush` is the body of `flush` cut at its awaits, `Flush.step` one piece of it; every
     outcome that the coordinator does not decide comes with the `FlushTurn`.

  2. **The system** — the store, any number of flushes in flight, and a log of what was enqueued and
     what was sent.  Its events interleave freely with each other, with the calls of the store's
     other clients and with restarts.

  3. **The invariant** — `Tracked`: a message whose enqueue returned `Ok` is in memory and in the
     file, or its id has been acknowledged in the response to a send that contained it; and what a
     flush is about to delete has been acknowledged like that.

  4. **The result** — `outbox_at_least_once`.
-/
import Oneshim.Integration.StateStore

namespace Oneshim.Integration

open Lib

/-- `IntegrationEgressTransportResponse`. -/
structure IntegrationEgressTransportResponse where
  acknowledgedQueueIds : List String
  ackCursor : Option IntegrationAckCursor

/-- `accepted_count`. -/
def IntegrationEgressTransportResponse.acceptedCount
    (self : IntegrationEgressTransportResponse) : Nat :=
  self.acknowledgedQueueIds.length

/-! ## The code -/

namespace IntegrationEgressCoordinator

/-- `validate_scopes`: the first item whose scope was not granted. -/
def validateScopes (session : IntegrationSessionState)
    (items : List QueuedIntegrationEgressMessage) : Except CoreError Unit :=
  match items.find? fun item => !session.grantedScopes.contains item.envelope.capabilityScope with
  | some item =>
    .error (.auth ("integration session is missing required scope: " ++
      item.envelope.capabilityScope.debug))
  | none => .ok ()

/-- `acknowledged_queue_ids`: all of them, unless one was not sent. -/
def acknowledgedQueueIds (sentItems : List QueuedIntegrationEgressMessage)
    (response : IntegrationEgressTransportResponse) : Except CoreError (List String) :=
  let sentIds := sentItems.map (·.queueId)
  match response.acknowledgedQueueIds.find? fun queueId => !sentIds.contains queueId with
  | some unknownId =>
    .error (.internal
      ("integration egress transport acknowledged unknown queue id: " ++ unknownId))
  | none => .ok response.acknowledgedQueueIds

/-- `enqueue_message`. -/
def enqueueMessage (store : FileIntegrationStateInner) (disk : Except StorageError Unit)
    (uuid : String) (now : DateTime) (envelope : IntegrationEnvelope)
    (payload : IntegrationOutboundPayload) : Except CoreError Unit × FileIntegrationStateInner :=
  match store.enqueueOutboxSync disk uuid now envelope payload with
  | (.error e, store) => (.error e.toCore, store)
  | (.ok _, store) => (.ok (), store)

/-- Where a `flush` is. -/
inductive Flush where
  /-- Before `current_session`. -/
  | started
  /-- Before `list_pending`. -/
  | ready (session : IntegrationSessionState)
  /-- Before the answer to `send_messages`. -/
  | sending (session : IntegrationSessionState) (items : List QueuedIntegrationEgressMessage)
  /-- Before `delete`. -/
  | deleting (session : IntegrationSessionState) (queueIds : List String)
      (ackCursor : Option IntegrationAckCursor) (acceptedCount : Nat)
  /-- Before `outbox.store_ack_cursor`. -/
  | storing (session : IntegrationSessionState) (cursor : IntegrationAckCursor)
      (acceptedCount : Nat)
  /-- Before `session_port.store_ack_cursor`. -/
  | informing (session : IntegrationSessionState) (cursor : IntegrationAckCursor)
      (acceptedCount : Nat)
  | done (result : Except CoreError Nat)

/-- The outcomes of the calls a flush makes, as far as they are not the store's. -/
structure FlushTurn where
  currentSession : Except CoreError (Option IntegrationSessionState)
  response : Except CoreError IntegrationEgressTransportResponse
  disk : Except StorageError Unit
  storeAckCursor : Except CoreError Unit

/-- A batch that was sent, and the response to it. -/
structure Sent where
  items : List QueuedIntegrationEgressMessage
  response : IntegrationEgressTransportResponse

/-- The session can be used for egress. -/
def sessionReady (session : IntegrationSessionState) : Bool :=
  (session.status == .connected || session.status == .degraded) && !session.sessionId.isEmpty

/-- The tail of `flush` after the delete. -/
def Flush.afterDelete (session : IntegrationSessionState)
    (ackCursor : Option IntegrationAckCursor) (acceptedCount : Nat) : Flush :=
  match ackCursor with
  | some cursor => .storing session cursor acceptedCount
  | none => .done (.ok acceptedCount)

/-- The tail of `flush` after the response has been checked. -/
def Flush.afterResponse (session : IntegrationSessionState) (queueIds : List String)
    (ackCursor : Option IntegrationAckCursor) (acceptedCount : Nat) : Flush :=
  if queueIds.isEmpty then Flush.afterDelete session ackCursor acceptedCount
  else .deleting session queueIds ackCursor acceptedCount

/-- One piece of `flush`: where it gets to, the store, and the answered send if there was one. -/
def Flush.step (maxBatchSize : Nat) (turn : FlushTurn) (store : FileIntegrationStateInner) :
    Flush → Flush × FileIntegrationStateInner × List Sent
  | .started =>
    match turn.currentSession with
    | .error e => (.done (.error e), store, [])
    | .ok none =>
      (.done (.error (.serviceUnavailable "integration session is not connected")), store, [])
    | .ok (some session) =>
      if sessionReady session then (.ready session, store, [])
      else (.done (.error (.serviceUnavailable
        "integration session is not ready for outbound egress")), store, [])
  | .ready session =>
    let items := store.listOutboxSync (max maxBatchSize 1)
    if items.isEmpty then (.done (.ok 0), store, [])
    else
      match validateScopes session items with
      | .error e => (.done (.error e), store, [])
      | .ok () => (.sending session items, store, [])
  | .sending session items =>
    match turn.response with
    | .error e => (.done (.error e), store, [])
    | .ok response =>
      match acknowledgedQueueIds items response with
      | .error e => (.done (.error e), store, [⟨items, response⟩])
      | .ok queueIds =>
        (.afterResponse session queueIds response.ackCursor response.acceptedCount, store,
          [⟨items, response⟩])
  | .deleting session queueIds ackCursor acceptedCount =>
    match store.deleteOutboxSync turn.disk queueIds with
    | (.error e, store) => (.done (.error e.toCore), store, [])
    | (.ok (), store) => (.afterDelete session ackCursor acceptedCount, store, [])
  | .storing session cursor acceptedCount =>
    match store.storeOutboxAckCursorSync turn.disk cursor with
    | (.error e, store) => (.done (.error e.toCore), store, [])
    | (.ok (), store) => (.informing session cursor acceptedCount, store, [])
  | .informing _ _ acceptedCount =>
    match turn.storeAckCursor with
    | .error e => (.done (.error e), store, [])
    | .ok () => (.done (.ok acceptedCount), store, [])
  | .done result => (.done result, store, [])

end IntegrationEgressCoordinator

/-! ## The system -/

open IntegrationEgressCoordinator

/-- The store, the flushes in flight, and what has happened so far. -/
structure EgressSystem where
  store : FileIntegrationStateInner
  flushes : List Flush
  /-- Every message that was ever put into the outbox. -/
  pushed : List QueuedIntegrationEgressMessage
  /-- The messages whose enqueue returned `Ok`. -/
  queued : List QueuedIntegrationEgressMessage
  sent : List Sent

/-- What can happen next. -/
inductive EgressEvent where
  | enqueueMessage (disk : Except StorageError Unit) (uuid : String) (now : DateTime)
      (envelope : IntegrationEnvelope) (payload : IntegrationOutboundPayload)
  /-- Another client of the store. -/
  | call (disk : Except StorageError Unit) (call : StoreCall)
  /-- A new flush. -/
  | flush
  /-- The next piece of a flush. -/
  | turn (i : Nat) (turn : FlushTurn)
  /-- A flush is cancelled at its await. -/
  | abandon (i : Nat)
  | restart

namespace EgressSystem

/-- The process starts on a file; what stands in it was enqueued before. -/
def start (policy : IntegrationStateStorePolicy) (file : Option FileIntegrationStateRegistry) :
    EgressSystem :=
  let store := FileIntegrationStateInner.opened policy file
  ⟨store, [], store.registry.memory.outbox, store.registry.memory.outbox, []⟩

/-- The messages a call has put into the outbox. -/
def pushedBy (before after : FileIntegrationStateInner) : List QueuedIntegrationEgressMessage :=
  after.registry.memory.outbox.drop before.registry.memory.outbox.length

/-- One event. -/
def step (maxBatchSize : Nat) (self : EgressSystem) : EgressEvent → EgressSystem
  | .enqueueMessage disk uuid now envelope payload =>
    let (result, store) := enqueueMessage self.store disk uuid now envelope payload
    let messages := pushedBy self.store store
    { self with
      store := store
      pushed := self.pushed ++ messages
      queued := match result with
        | .ok () => self.queued ++ messages
        | .error _ => self.queued }
  | .call disk call =>
    let store := call.run self.store disk
    { self with store := store, pushed := self.pushed ++ pushedBy self.store store }
  | .flush => { self with flushes := self.flushes ++ [.started] }
  | .turn i turn =>
    match self.flushes[i]? with
    | none => self
    | some flush =>
      let (flush, store, sent) := flush.step maxBatchSize turn self.store
      { self with store := store, flushes := self.flushes.set i flush, sent := self.sent ++ sent }
  | .abandon i => { self with flushes := self.flushes.eraseIdx i }
  | .restart => { self with store := self.store.restart, flushes := [] }

/-- A run. -/
def run (maxBatchSize : Nat) (self : EgressSystem) (events : List EgressEvent) : EgressSystem :=
  events.foldl (step maxBatchSize) self

end EgressSystem

/-! ## What a piece of a flush does -/

namespace IntegrationEgressCoordinator

/-- The id was acknowledged in the response to a send that contained it. -/
def Acked (sent : List Sent) (queueId : String) : Prop :=
  ∃ send ∈ sent, queueId ∈ send.response.acknowledgedQueueIds ∧
    queueId ∈ send.items.map (·.queueId)

theorem Acked.append {sent : List Sent} {queueId : String} (h : Acked sent queueId)
    (more : List Sent) : Acked (sent ++ more) queueId := by
  obtain ⟨send, hmem, h⟩ := h
  exact ⟨send, List.mem_append_left more hmem, h⟩

/-- What a flush is about to delete. -/
def Flush.deletes : Flush → List String
  | .deleting _ queueIds _ _ => queueIds
  | _ => []

/-- What a flush has sent and waits for. -/
def Flush.carries : Flush → List QueuedIntegrationEgressMessage
  | .sending _ items => items
  | _ => []

@[simp] theorem deletes_afterDelete (session : IntegrationSessionState)
    (ackCursor : Option IntegrationAckCursor) (acceptedCount : Nat) :
    (Flush.afterDelete session ackCursor acceptedCount).deletes = [] := by
  cases ackCursor <;> rfl

@[simp] theorem carries_afterDelete (session : IntegrationSessionState)
    (ackCursor : Option IntegrationAckCursor) (acceptedCount : Nat) :
    (Flush.afterDelete session ackCursor acceptedCount).carries = [] := by
  cases ackCursor <;> rfl

theorem mem_deletes_afterResponse {session : IntegrationSessionState} {queueIds : List String}
    {ackCursor : Option IntegrationAckCursor} {acceptedCount : Nat} {queueId : String}
    (h : queueId ∈ (Flush.afterResponse session queueIds ackCursor acceptedCount).deletes) :
    queueId ∈ queueIds := by
  unfold Flush.afterResponse at h
  split at h
  · rw [deletes_afterDelete] at h
    nomatch h
  · exact h

theorem carries_afterResponse (session : IntegrationSessionState) (queueIds : List String)
    (ackCursor : Option IntegrationAckCursor) (acceptedCount : Nat) :
    (Flush.afterResponse session queueIds ackCursor acceptedCount).carries = [] := by
  unfold Flush.afterResponse
  split
  · exact carries_afterDelete ..
  · rfl

/-- The ids that are accepted were acknowledged, and were sent. -/
theorem acknowledgedQueueIds_ok {items : List QueuedIntegrationEgressMessage}
    {response : IntegrationEgressTransportResponse} {queueIds : List String}
    (h : acknowledgedQueueIds items response = .ok queueIds) :
    queueIds = response.acknowledgedQueueIds ∧
      ∀ queueId ∈ queueIds, queueId ∈ items.map (·.queueId) := by
  unfold acknowledgedQueueIds at h
  simp only at h
  split at h
  · nomatch h
  · next hnone =>
    cases h
    refine ⟨rfl, fun queueId hmem => ?_⟩
    have hknown := List.find?_eq_none.mp hnone queueId hmem
    simpa using hknown

/-- One id that was not sent, and the whole response is refused. -/
theorem acknowledgedQueueIds_error {items : List QueuedIntegrationEgressMessage}
    {response : IntegrationEgressTransportResponse} {queueId : String}
    (hacked : queueId ∈ response.acknowledgedQueueIds)
    (hunknown : queueId ∉ items.map (·.queueId)) :
    ∃ e, acknowledgedQueueIds items response = .error e := by
  cases h : acknowledgedQueueIds items response with
  | error e => exact ⟨e, rfl⟩
  | ok queueIds =>
    obtain ⟨rfl, hsent⟩ := acknowledgedQueueIds_ok h
    exact absurd (hsent queueId hacked) hunknown

/-- What a piece of a flush can do. -/
inductive Flush.Did (maxBatchSize : Nat) (turn : FlushTurn) (store : FileIntegrationStateInner) :
    Flush → Flush × FileIntegrationStateInner × List Sent → Prop where
  /-- Nothing that matters to the outbox. -/
  | nothing {flush flush' : Flush} (hdeletes : flush'.deletes = []) (hcarries : flush'.carries = []) :
      Did maxBatchSize turn store flush (flush', store, [])
  /-- A batch was taken from the outbox. -/
  | listed {flush : Flush} {session : IntegrationSessionState} :
      Did maxBatchSize turn store flush
        (.sending session (store.listOutboxSync (max maxBatchSize 1)), store, [])
  /-- The response has come, and has been checked. -/
  | answered {flush flush' : Flush} {response : IntegrationEgressTransportResponse}
      (hdeletes : ∀ queueId ∈ flush'.deletes, Acked [⟨flush.carries, response⟩] queueId)
      (hcarries : flush'.carries = []) :
      Did maxBatchSize turn store flush (flush', store, [⟨flush.carries, response⟩])
  /-- The acknowledged messages were deleted. -/
  | deleted {flush flush' : Flush} (hdeletes : flush'.deletes = []) (hcarries : flush'.carries = []) :
      Did maxBatchSize turn store flush
        (flush', (store.deleteOutboxSync turn.disk flush.deletes).2, [])
  /-- The cursor was stored. -/
  | stored {flush flush' : Flush} {cursor : IntegrationAckCursor} (hdeletes : flush'.deletes = [])
      (hcarries : flush'.carries = []) :
      Did maxBatchSize turn store flush
        (flush', (store.storeOutboxAckCursorSync turn.disk cursor).2, [])

/-- **What a piece of a flush does.** -/
theorem Flush.step_did (maxBatchSize : Nat) (turn : FlushTurn) (store : FileIntegrationStateInner)
    (flush : Flush) :
    Flush.Did maxBatchSize turn store flush (flush.step maxBatchSize turn store) := by
  cases flush with
  | started =>
    simp only [Flush.step]
    split
    · exact .nothing rfl rfl
    · exact .nothing rfl rfl
    · split
      · exact .nothing rfl rfl
      · exact .nothing rfl rfl
  | ready session =>
    simp only [Flush.step]
    split
    · exact .nothing rfl rfl
    · split
      · exact .nothing rfl rfl
      · exact .listed
  | sending session items =>
    simp only [Flush.step]
    split
    · exact .nothing rfl rfl
    · next response hresponse =>
      split
      · exact .answered (fun _ h => nomatch h) rfl
      · next queueIds hqueueIds =>
        obtain ⟨hacked, hsent⟩ := acknowledgedQueueIds_ok hqueueIds
        refine .answered (fun queueId hmem => ?_)
          (carries_afterResponse ..)
        have hmem := mem_deletes_afterResponse hmem
        exact ⟨_, List.mem_singleton_self _, hacked ▸ hmem, hsent queueId hmem⟩
  | deleting session queueIds ackCursor acceptedCount =>
    simp only [Flush.step]
    split
    · next store' heq =>
      have hstore : store' = (store.deleteOutboxSync turn.disk queueIds).2 := by rw [heq]
      subst hstore
      exact .deleted rfl rfl
    · next store' heq =>
      have hstore : store' = (store.deleteOutboxSync turn.disk queueIds).2 := by rw [heq]
      subst hstore
      exact .deleted
        (deletes_afterDelete ..) (carries_afterDelete ..)
  | storing session cursor acceptedCount =>
    simp only [Flush.step]
    split
    · next store' heq =>
      have hstore : store' = (store.storeOutboxAckCursorSync turn.disk cursor).2 := by rw [heq]
      subst hstore
      exact .stored rfl rfl
    · next store' heq =>
      have hstore : store' = (store.storeOutboxAckCursorSync turn.disk cursor).2 := by rw [heq]
      subst hstore
      exact .stored rfl rfl
  | informing session cursor acceptedCount =>
    simp only [Flush.step]
    split
    · exact .nothing rfl rfl
    · exact .nothing rfl rfl
  | done result => exact .nothing rfl rfl

end IntegrationEgressCoordinator

/-! ## What the calls do to the outbox -/

/-- The other clients only ever append to the outbox. -/
theorem StoreCall.run_cases (self : FileIntegrationStateInner) (disk : Except StorageError Unit)
    (call : StoreCall) :
    call.run self disk = self ∨
      ∃ memory, self.registry.memory.outbox <+: memory.outbox ∧
        call.run self disk = (self.commit disk memory ()).2 := by
  cases call with
  | inbox call =>
    rcases InboxCall.run_cases self disk call with hsame | ⟨memory, hchange, hrun⟩
    · exact .inl hsame
    · refine .inr ⟨memory, ?_, hrun⟩
      cases hchange with
      | recordPromptReceipt => exact List.prefix_append _ _
      | _ => exact List.prefix_rfl
  | storeSession | clearSession | storeOutboxAckCursor | storeInboxAckCursor | storeCheckpoint
  | recordAudit =>
    refine .inr ⟨_, ?_, rfl⟩
    exact List.prefix_rfl

/-- The message is in the outbox. -/
def Holds (message : QueuedIntegrationEgressMessage) (registry : FileIntegrationStateRegistry) :
    Prop :=
  message ∈ registry.outbox

/-- Everything in the outbox is known. -/
def Within (known : List QueuedIntegrationEgressMessage)
    (registry : FileIntegrationStateRegistry) : Prop :=
  ∀ message ∈ registry.outbox, message ∈ known

section Calls

variable {store : FileIntegrationStateInner} {disk : Except StorageError Unit}
  {message : QueuedIntegrationEgressMessage} {known : List QueuedIntegrationEgressMessage}

theorem Within.append {registry : FileIntegrationStateRegistry} (h : Within known registry)
    (more : List QueuedIntegrationEgressMessage) : Within (known ++ more) registry :=
  fun message hmem => List.mem_append_left more (h message hmem)

theorem within_append {registry : Durable FileIntegrationStateRegistry}
    (h : registry.Both (Within known)) (more : List QueuedIntegrationEgressMessage) :
    registry.Both (Within (known ++ more)) :=
  ⟨h.memory.append more, fun a ha => (h.file a ha).append more⟩

theorem persisted_call (call : StoreCall) (h : store.registry.Persisted (Holds message)) :
    (call.run store disk).registry.Persisted (Holds message) := by
  rcases StoreCall.run_cases store disk call with hsame | ⟨memory, hgrows, hrun⟩
  · rw [hsame]
    exact h
  · rw [hrun]
    exact h.commit (hgrows.subset h.memory)

/-- A commit that only appends to the outbox. -/
theorem within_commit {α : Type} {memory : FileIntegrationStateRegistry} {value : α}
    (hgrows : store.registry.memory.outbox <+: memory.outbox)
    (h : store.registry.Both (Within known)) :
    (store.commit disk memory value).2.registry.Both
      (Within (known ++ EgressSystem.pushedBy store (store.commit disk memory value).2)) := by
  have hpushed : EgressSystem.pushedBy store (store.commit disk memory value).2 =
      memory.outbox.drop store.registry.memory.outbox.length := by
    unfold EgressSystem.pushedBy
    rw [FileIntegrationStateInner.registry_commit, Durable.memory_commit]
  rw [hpushed]
  refine (within_append h _).commit (fun message hmem => ?_)
  obtain ⟨more, hmore⟩ := hgrows
  rw [← hmore] at hmem ⊢
  rw [List.drop_left]
  rcases List.mem_append.mp hmem with hold | hnew
  · exact List.mem_append_left _ (h.memory message hold)
  · exact List.mem_append_right _ hnew

theorem within_call (call : StoreCall) (h : store.registry.Both (Within known)) :
    (call.run store disk).registry.Both
      (Within (known ++ EgressSystem.pushedBy store (call.run store disk))) := by
  rcases StoreCall.run_cases store disk call with hsame | ⟨memory, hgrows, hrun⟩
  · rw [hsame]
    exact within_append h _
  · rw [hrun]
    exact within_commit hgrows h

/-- A delete removes only what it names. -/
theorem persisted_delete {queueIds : List String} (hid : message.queueId ∉ queueIds)
    (h : store.registry.Persisted (Holds message)) :
    (store.deleteOutboxSync disk queueIds).2.registry.Persisted (Holds message) := by
  refine h.commit (List.mem_filter.mpr ⟨h.memory, ?_⟩)
  simpa using hid

theorem within_delete (queueIds : List String) (h : store.registry.Both (Within known)) :
    (store.deleteOutboxSync disk queueIds).2.registry.Both (Within known) :=
  h.commit (fun message hmem => h.memory message (List.mem_filter.mp hmem).1)

variable {uuid : String} {now : DateTime} {envelope : IntegrationEnvelope}
  {payload : IntegrationOutboundPayload}

/-- What `enqueue_message` leaves behind. -/
theorem enqueueMessage_cases :
    ∃ result : Except CoreError Unit, ∃ memory,
      memory.outbox = store.registry.memory.outbox ++
        [⟨FileIntegrationStateInner.queueId uuid, envelope, payload, now⟩] ∧
      enqueueMessage store disk uuid now envelope payload =
        (result, (store.commit disk memory ()).2) ∧
      (result = .ok () → (store.registry.commit disk memory ()).1 = .ok ()) := by
  cases disk with
  | ok _ => exact ⟨.ok (), _, rfl, rfl, fun _ => rfl⟩
  | error e => exact ⟨.error e.toCore, _, rfl, rfl, fun h => nomatch h⟩

end Calls

/-! ## The invariant -/

/-- What holds along every run. -/
structure Tracked (s : EgressSystem) : Prop where
  /-- A queued message is in memory and in the file, or has been acknowledged. -/
  kept : ∀ message ∈ s.queued,
    s.store.registry.Persisted (Holds message) ∨ Acked s.sent message.queueId
  /-- What is about to be deleted has been acknowledged. -/
  deleting : ∀ flush ∈ s.flushes, ∀ queueId ∈ flush.deletes, Acked s.sent queueId
  /-- Outboxes and batches hold only what was put into the outbox. -/
  within : s.store.registry.Both (Within s.pushed)
  queued : ∀ message ∈ s.queued, message ∈ s.pushed
  sending : ∀ flush ∈ s.flushes, ∀ message ∈ flush.carries, message ∈ s.pushed
  sent : ∀ send ∈ s.sent, ∀ message ∈ send.items, message ∈ s.pushed

namespace Tracked

variable {s : EgressSystem}

/-- A start keeps track of the messages of its file. -/
theorem start (policy : IntegrationStateStorePolicy) (file : Option FileIntegrationStateRegistry) :
    Tracked (EgressSystem.start policy file) where
  kept message hmem := by
    cases file with
    | none => exact absurd hmem List.not_mem_nil
    | some registry => exact .inl ⟨hmem, registry, rfl, hmem⟩
  deleting _ h := absurd h List.not_mem_nil
  within := by
    refine ⟨fun _ h => h, fun registry hfile => ?_⟩
    cases hfile
    exact fun _ h => h
  queued _ h := h
  sending _ h := absurd h List.not_mem_nil
  sent _ h := absurd h List.not_mem_nil

/-- So does an enqueue, whether its save succeeds or fails. -/
theorem enqueueMessage (h : Tracked s) (maxBatchSize : Nat) (disk : Except StorageError Unit)
    (uuid : String) (now : DateTime) (envelope : IntegrationEnvelope)
    (payload : IntegrationOutboundPayload) :
    Tracked (s.step maxBatchSize (.enqueueMessage disk uuid now envelope payload)) := by
  obtain ⟨result, memory, houtbox, hrun, hok⟩ :=
    @enqueueMessage_cases s.store disk uuid now envelope payload
  have hgrows : s.store.registry.memory.outbox <+: memory.outbox :=
    houtbox ▸ List.prefix_append _ _
  have hkept : ∀ message ∈ s.queued,
      (s.store.commit disk memory ()).2.registry.Persisted (Holds message) ∨
        Acked s.sent message.queueId := by
    intro message hmem
    rcases h.kept message hmem with hheld | hacked
    · exact .inl (hheld.commit (hgrows.subset hheld.memory))
    · exact .inr hacked
  have hpushed : EgressSystem.pushedBy s.store (s.store.commit disk memory ()).2 =
      memory.outbox.drop s.store.registry.memory.outbox.length := by
    unfold EgressSystem.pushedBy
    rw [FileIntegrationStateInner.registry_commit, Durable.memory_commit]
  simp only [EgressSystem.step, hrun]
  refine ⟨fun message hmem => ?_, h.deleting, within_commit hgrows h.within,
    fun message hmem => ?_, fun flush hflush message hmem =>
      List.mem_append_left _ (h.sending flush hflush message hmem),
    fun send hsend message hmem => List.mem_append_left _ (h.sent send hsend message hmem)⟩
  · cases result with
    | error e => exact hkept message hmem
    | ok value =>
      rcases List.mem_append.mp hmem with hold | hnew
      · exact hkept message hold
      · rw [hpushed] at hnew
        exact .inl (Durable.persisted_of_ok (hok rfl) (List.mem_of_mem_drop hnew))
  · cases result with
    | error e => exact List.mem_append_left _ (h.queued message hmem)
    | ok value =>
      rcases List.mem_append.mp hmem with hold | hnew
      · exact List.mem_append_left _ (h.queued message hold)
      · exact List.mem_append_right _ hnew

theorem call (h : Tracked s) (maxBatchSize : Nat) (disk : Except StorageError Unit)
    (call : StoreCall) : Tracked (s.step maxBatchSize (.call disk call)) where
  kept message hmem := by
    rcases h.kept message hmem with hheld | hacked
    · exact .inl (persisted_call call hheld)
    · exact .inr hacked
  deleting := h.deleting
  within := within_call call h.within
  queued message hmem := List.mem_append_left _ (h.queued message hmem)
  sending flush hflush message hmem := List.mem_append_left _ (h.sending flush hflush message hmem)
  sent send hsend message hmem := List.mem_append_left _ (h.sent send hsend message hmem)

/-- A piece of a flush, once its effect on the store is known. -/
theorem of_turn (h : Tracked s) {i : Nat} {flush : Flush} {store : FileIntegrationStateInner}
    {sent : List Sent}
    (hkept : ∀ message ∈ s.queued, s.store.registry.Persisted (Holds message) →
      store.registry.Persisted (Holds message) ∨ Acked s.sent message.queueId)
    (hdeletes : ∀ queueId ∈ flush.deletes, Acked (s.sent ++ sent) queueId)
    (hwithin : store.registry.Both (Within s.pushed))
    (hcarries : ∀ message ∈ flush.carries, message ∈ s.pushed)
    (hsent : ∀ send ∈ sent, ∀ message ∈ send.items, message ∈ s.pushed) :
    Tracked { s with
      store := store
      flushes := s.flushes.set i flush
      sent := s.sent ++ sent } where
  kept message hmem := by
    rcases h.kept message hmem with hheld | hacked
    · exact (hkept message hmem hheld).imp_right (·.append sent)
    · exact .inr (hacked.append sent)
  deleting other hother queueId hid := by
    rcases List.mem_or_eq_of_mem_set hother with hold | rfl
    · exact (h.deleting other hold queueId hid).append sent
    · exact hdeletes queueId hid
  within := hwithin
  queued := h.queued
  sending other hother message hmem := by
    rcases List.mem_or_eq_of_mem_set hother with hold | rfl
    · exact h.sending other hold message hmem
    · exact hcarries message hmem
  sent send hsend message hmem := by
    rcases List.mem_append.mp hsend with hold | hnew
    · exact h.sent send hold message hmem
    · exact hsent send hnew message hmem

/-- A turn of a flush loses track of no message. -/
theorem turn (h : Tracked s) (maxBatchSize i : Nat) (turn : FlushTurn) :
    Tracked (s.step maxBatchSize (.turn i turn)) := by
  simp only [EgressSystem.step]
  split
  · exact h
  · next flush hflush =>
    have hflush := List.mem_of_getElem? hflush
    have hdid := Flush.step_did maxBatchSize turn s.store flush
    generalize flush.step maxBatchSize turn s.store = result at hdid
    cases hdid with
    | nothing hdeletes hcarries =>
      exact h.of_turn (fun _ _ => .inl) (by simp [hdeletes]) h.within (by simp [hcarries])
        (fun _ h => absurd h List.not_mem_nil)
    | listed =>
      refine h.of_turn (fun _ _ => .inl) (fun _ h => absurd h List.not_mem_nil) h.within
        (fun message hmem => ?_) (fun _ h => absurd h List.not_mem_nil)
      exact h.within.memory message (List.mem_of_mem_take hmem)
    | answered hdeletes hcarries =>
      refine h.of_turn (fun _ _ => .inl) (fun queueId hid => ?_) h.within (by simp [hcarries])
        (fun send hsend message hmem => ?_)
      · obtain ⟨send, hsend, hacked⟩ := hdeletes queueId hid
        exact ⟨send, List.mem_append_right _ hsend, hacked⟩
      · cases List.mem_singleton.mp hsend
        exact h.sending flush hflush message hmem
    | deleted hdeletes hcarries =>
      refine h.of_turn (fun message hmem hheld => ?_) (by simp [hdeletes])
        (within_delete _ h.within) (by simp [hcarries]) (fun _ h => absurd h List.not_mem_nil)
      by_cases hid : message.queueId ∈ flush.deletes
      · exact .inr (h.deleting flush hflush _ hid)
      · exact .inl (persisted_delete hid hheld)
    | @stored _ cursor hdeletes hcarries =>
      refine h.of_turn
        (fun message hmem hheld => .inl (persisted_call (.storeOutboxAckCursor cursor) hheld))
        (by simp [hdeletes]) ?_ (by simp [hcarries]) (fun _ h => absurd h List.not_mem_nil)
      exact h.within.commit h.within.memory

/-- **One event.** -/
theorem step (h : Tracked s) (maxBatchSize : Nat) (event : EgressEvent) :
    Tracked (s.step maxBatchSize event) := by
  cases event with
  | enqueueMessage disk uuid now envelope payload =>
    exact h.enqueueMessage maxBatchSize disk uuid now envelope payload
  | call disk call => exact h.call maxBatchSize disk call
  | flush =>
    refine ⟨h.kept, fun flush hflush => ?_, h.within, h.queued, fun flush hflush => ?_, h.sent⟩
    · rcases List.mem_append.mp hflush with hold | hnew
      · exact h.deleting flush hold
      · cases List.mem_singleton.mp hnew
        exact fun _ h => absurd h List.not_mem_nil
    · rcases List.mem_append.mp hflush with hold | hnew
      · exact h.sending flush hold
      · cases List.mem_singleton.mp hnew
        exact fun _ h => absurd h List.not_mem_nil
  | turn i turn => exact h.turn maxBatchSize i turn
  | abandon i =>
    exact ⟨h.kept, fun flush hflush => h.deleting flush (List.mem_of_mem_eraseIdx hflush),
      h.within, h.queued, fun flush hflush => h.sending flush (List.mem_of_mem_eraseIdx hflush),
      h.sent⟩
  | restart =>
    exact {
      kept := fun message hmem => (h.kept message hmem).imp_left (·.restart _)
      deleting := fun _ h => absurd h List.not_mem_nil
      within := h.within.restart (fun _ h => absurd h List.not_mem_nil)
      queued := h.queued
      sending := fun _ h => absurd h List.not_mem_nil
      sent := h.sent }

/-- **A whole run.** -/
theorem run (h : Tracked s) (maxBatchSize : Nat) (events : List EgressEvent) :
    Tracked (s.run maxBatchSize events) := by
  induction events generalizing s with
  | nil => exact h
  | cons event events ih => exact ih (h.step maxBatchSize event)

end Tracked

/-! ## The result -/

/-- A response that acknowledges an id that was not sent ends the flush, and nothing is deleted. -/
theorem unknown_ack_removes_nothing {maxBatchSize : Nat} {turn : FlushTurn}
    {store : FileIntegrationStateInner} {session : IntegrationSessionState}
    {items : List QueuedIntegrationEgressMessage} {response : IntegrationEgressTransportResponse}
    {queueId : String} (hresponse : turn.response = .ok response)
    (hacked : queueId ∈ response.acknowledgedQueueIds)
    (hunknown : queueId ∉ items.map (·.queueId)) :
    ∃ e, (Flush.sending session items).step maxBatchSize turn store =
      (.done (.error e), store, [⟨items, response⟩]) := by
  obtain ⟨e, he⟩ := acknowledgedQueueIds_error hacked hunknown
  refine ⟨e, ?_⟩
  simp only [Flush.step, hresponse, he]

/-- **The outbox is at-least-once.**  Take any run from any file: enqueues, any number of flushes
    with any answers, the calls of the other clients, file writes that fail, restarts.  A message
    whose enqueue returned `Ok` (in this run, or before the file was written) stands in the file, or
    its queue id was acknowledged in the response to a send that contained it; when no two messages
    were given the same random id, the send contained the message itself.  An acknowledgement of an
    id that was not sent removes nothing. -/
theorem outbox_at_least_once (maxBatchSize : Nat) (policy : IntegrationStateStorePolicy)
    (file : Option FileIntegrationStateRegistry) (events : List EgressEvent) :
    let s := (EgressSystem.start policy file).run maxBatchSize events
    (∀ message ∈ s.queued,
      (∃ registry, s.store.registry.file = some registry ∧ message ∈ registry.outbox) ∨
      ∃ send ∈ s.sent, message.queueId ∈ send.response.acknowledgedQueueIds ∧
        (∃ item ∈ send.items, item.queueId = message.queueId) ∧
        ((s.pushed.map (·.queueId)).Nodup → message ∈ send.items)) ∧
    ∀ (turn : FlushTurn) (session : IntegrationSessionState)
      (items : List QueuedIntegrationEgressMessage)
      (response : IntegrationEgressTransportResponse) (queueId : String),
      turn.response = .ok response → queueId ∈ response.acknowledgedQueueIds →
      queueId ∉ items.map (·.queueId) →
      ∃ e, (Flush.sending session items).step maxBatchSize turn s.store =
        (.done (.error e), s.store, [⟨items, response⟩]) := by
  intro s
  have htracked : Tracked s := (Tracked.start policy file).run maxBatchSize events
  refine ⟨fun message hmem => ?_, fun turn session items response queueId hresponse hacked hunknown
    => unknown_ack_removes_nothing hresponse hacked hunknown⟩
  rcases htracked.kept message hmem with hheld | ⟨send, hsend, hacked, hcontained⟩
  · exact .inl hheld.file
  · obtain ⟨item, hitem, hid⟩ := List.mem_map.mp hcontained
    refine .inr ⟨send, hsend, hacked, ⟨item, hitem, hid⟩, fun hnodup => ?_⟩
    have heq : item = message := List.inj_on_of_nodup_map hnodup
      (htracked.sent send hsend item hitem) (htracked.queued message hmem) hid
    exact heq ▸ hitem

end Oneshim.Integration
