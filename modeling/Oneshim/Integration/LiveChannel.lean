/-
  The live session channel (`oneshim-network/src/integration/live_channel.rs`, `cloudevents.rs`,
  `http_transport/{egress,inbox}.rs`, `inbox_coordinator.rs`).

  A task reads the websocket and puts acknowledgements and prompts into two queues.  A sender waits
  for the acknowledgements of its messages and takes the ids it expects out of the queue, leaving the
  others for later waits.  An inbox refresh drains prompts and hands them to the store.

  1. **Code** — `readPushes` (the reader), `Wait.poll` (one round of `wait_for_outbound_ack` under
     the lock), `drainPrompts`, and `refresh` before and after its call of the store.

  2. **The system** — the queues, the reader, the waits and the refreshes in flight, and a log.  The
     events interleave freely; a wait may time out and the store may fail.

  3. **The result** — ids that a wait has taken and prompts that a refresh has drained are nowhere
     else, so they are lost when it fails; nothing else loses anything
     (`live_deliveries_kept`).
-/
import Mathlib.Data.List.Sort
import Oneshim.Integration.Egress

namespace Oneshim.Integration

/-! ## The code -/

/-- `IntegrationAckPayload`. -/
structure IntegrationAckPayload where
  sessionId : String
  acknowledgedIds : List String
  ackCursor : Option IntegrationAckCursor

/-- `IntegrationCloudEvent<ProactivePrompt>`, as far as it is looked at. -/
structure PromptCloudEvent where
  eventType : String
  data : ProactivePrompt

/-- `PROMPT_EVENT_TYPE`. -/
def promptEventType : String := "io.oneshim.integration.prompt.v1"

/-- `prompt_from_cloudevent`. -/
def promptFromCloudevent (event : PromptCloudEvent) : Except CoreError ProactivePrompt :=
  if event.eventType ≠ promptEventType then
    .error (.validation "integration.prompt.event_type"
      ("unsupported prompt event type: " ++ event.eventType))
  else .ok event.data

/-- A websocket message: the first of these that its text parses as, or none of them. -/
inductive InboundMessage where
  | ack (payload : IntegrationAckPayload)
  | event (event : PromptCloudEvent)
  | batch (events : List PromptCloudEvent)
  | other

/-- `WebSocketIntegrationInboundState`. -/
structure WebSocketIntegrationInboundState where
  outboundAcks : List IntegrationAckPayload
  prompts : List ProactivePrompt

/-- What the reader puts into a queue, under one lock. -/
inductive Push where
  | ack (payload : IntegrationAckPayload)
  | prompt (prompt : ProactivePrompt)

/-- The body of `read_loop`: the pushes a message leads to.  A prompt that fails to parse is only
    logged. -/
def readPushes : InboundMessage → List Push
  | .ack payload => [.ack payload]
  | .event event => pushOf event
  | .batch events => events.flatMap pushOf
  | .other => []
where
  pushOf (event : PromptCloudEvent) : List Push :=
    match promptFromCloudevent event with
    | .ok prompt => [.prompt prompt]
    | .error _ => []

/-- `push_back`. -/
def Push.apply (inbound : WebSocketIntegrationInboundState) :
    Push → WebSocketIntegrationInboundState
  | .ack payload => { inbound with outboundAcks := inbound.outboundAcks ++ [payload] }
  | .prompt received => { inbound with prompts := inbound.prompts ++ [received] }

/-- The local variables of `wait_for_outbound_ack`; the two sets are lists without duplicates. -/
structure Wait where
  expected : List String
  acknowledged : List String
  ackCursor : Option IntegrationAckCursor

namespace Wait

/-- The start of `wait_for_outbound_ack`. -/
def new (expectedQueueIds : List String) : Wait := ⟨expectedQueueIds.dedup, [], none⟩

/-- The body of the inner loop: one acknowledgement, and what is left in the queue so far. -/
def takeAck (state : Wait × List IntegrationAckPayload) (ack : IntegrationAckPayload) :
    Wait × List IntegrationAckPayload :=
  let (self, remaining) := state
  let matched := ack.acknowledgedIds.filter fun queueId => self.expected.contains queueId
  let unmatchedIds := ack.acknowledgedIds.filter fun queueId => !self.expected.contains queueId
  ({ self with
      acknowledged := matched.foldl (fun set queueId => set.insert queueId) self.acknowledged
      ackCursor := if ack.ackCursor.isSome then ack.ackCursor else self.ackCursor },
    if unmatchedIds.isEmpty then remaining
    else remaining ++ [{ ack with acknowledgedIds := unmatchedIds }])

/-- The inner loop, under the lock. -/
def takeAcks (self : Wait) (acks : List IntegrationAckPayload) : Wait × List IntegrationAckPayload :=
  acks.foldl takeAck (self, [])

/-- `Ok(IntegrationEgressTransportResponse { .. })`, when everything has been acknowledged. -/
def response (self : Wait) : Option IntegrationEgressTransportResponse :=
  if self.acknowledged.length = self.expected.length then
    some ⟨self.acknowledged.insertionSort (· ≤ ·), self.ackCursor⟩
  else none

end Wait

/-- `drain_prompts`. -/
def drainPrompts (inbound : WebSocketIntegrationInboundState) (limit : Nat) :
    List ProactivePrompt × WebSocketIntegrationInboundState :=
  (inbound.prompts.take limit, { inbound with prompts := inbound.prompts.drop limit })

/-- `session_ready_for_inbox`. -/
def sessionReadyForInbox (session : IntegrationSessionState) : Except CoreError Unit :=
  if !((session.status == .connected || session.status == .degraded) &&
      !session.sessionId.isEmpty) then
    .error (.serviceUnavailable "integration session is not ready for inbox refresh")
  else if !session.grantedScopes.contains .promptRead then
    .error (.auth "integration session is missing required scope: PromptRead")
  else .ok ()

/-- The outcomes of the calls a refresh makes before it drains the channel. -/
structure RefreshTurn where
  expireStale : Except CoreError Nat
  currentSession : Except CoreError (Option IntegrationSessionState)
  lastAckCursor : Except CoreError (Option IntegrationAckCursor)
  /-- `session_bindings.get`: there is a binding, with this channel. -/
  bound : Bool

/-- `refresh` up to and including `receive_prompts`, which drains the live channel. -/
def refreshReceive (turn : RefreshTurn) (maxBatchSize : Nat)
    (inbound : WebSocketIntegrationInboundState) :
    Except CoreError (List ProactivePrompt) × WebSocketIntegrationInboundState :=
  match turn.expireStale with
  | .error e => (.error e, inbound)
  | .ok _ =>
    match turn.currentSession with
    | .error e => (.error e, inbound)
    | .ok none =>
      (.error (.serviceUnavailable "integration session is not connected"), inbound)
    | .ok (some session) =>
      match sessionReadyForInbox session, turn.lastAckCursor with
      | .error e, _ => (.error e, inbound)
      | .ok (), .error e => (.error e, inbound)
      | .ok (), .ok _ =>
        if !turn.bound then (.error (.notFound "integration_session" session.sessionId), inbound)
        else
          let (prompts, inbound) := drainPrompts inbound (max maxBatchSize 1)
          (.ok prompts, inbound)

/-- The rest of `refresh`, with what it has stored: the live channel gives no cursor. -/
def refreshStore (upsertPrompts : Except CoreError Unit) (prompts : List ProactivePrompt) :
    Except CoreError Nat × List ProactivePrompt :=
  if prompts.length > 0 then
    match upsertPrompts with
    | .error e => (.error e, [])
    | .ok () => (.ok prompts.length, prompts)
  else (.ok 0, [])

/-! ## The system -/

/-- The id is in the queue of acknowledgements. -/
def AckHolds (acks : List IntegrationAckPayload) (queueId : String) : Prop :=
  ∃ ack ∈ acks, queueId ∈ ack.acknowledgedIds

/-- A wait that has returned `Ok`. -/
structure Acknowledged where
  expected : List String
  response : IntegrationEgressTransportResponse

/-- The channel, its users, and what has happened so far. -/
structure LiveSystem where
  inbound : WebSocketIntegrationInboundState
  /-- What the reader has parsed and not queued yet. -/
  reading : List Push
  waits : List Wait
  /-- The refreshes between the drain and the store, with what they have drained. -/
  refreshes : List (List ProactivePrompt)
  receivedIds : List String
  receivedPrompts : List ProactivePrompt
  acknowledged : List Acknowledged
  /-- The prompts of the calls of `upsert_prompts` that returned `Ok`. -/
  stored : List ProactivePrompt

/-- What can happen next. -/
inductive LiveEvent where
  /-- The reader gets a message. -/
  | message (message : InboundMessage)
  /-- The reader queues the next thing it has parsed. -/
  | push
  /-- A call of `wait_for_outbound_ack`. -/
  | wait (expectedQueueIds : List String)
  /-- A wait goes through the queue. -/
  | poll (i : Nat)
  /-- A wait reaches its deadline. -/
  | timeout (i : Nat)
  | refresh (turn : RefreshTurn) (maxBatchSize : Nat)
  /-- The store answers a refresh. -/
  | store (i : Nat) (upsertPrompts : Except CoreError Unit)

namespace LiveSystem

/-- A new channel. -/
def start : LiveSystem := ⟨⟨[], []⟩, [], [], [], [], [], [], []⟩

/-- The ids of a push. -/
def pushedIds : Push → List String
  | .ack payload => payload.acknowledgedIds
  | .prompt _ => []

/-- The prompt of a push. -/
def pushedPrompts : Push → List ProactivePrompt
  | .ack _ => []
  | .prompt received => [received]

/-- One event. -/
def step (self : LiveSystem) : LiveEvent → LiveSystem
  | .message message => { self with reading := self.reading ++ readPushes message }
  | .push =>
    match self.reading with
    | [] => self
    | next :: reading =>
      { self with
        inbound := next.apply self.inbound
        reading := reading
        receivedIds := self.receivedIds ++ pushedIds next
        receivedPrompts := self.receivedPrompts ++ pushedPrompts next }
  | .wait expectedQueueIds => { self with waits := self.waits ++ [.new expectedQueueIds] }
  | .poll i =>
    match self.waits[i]? with
    | none => self
    | some wait =>
      let (wait, remaining) := wait.takeAcks self.inbound.outboundAcks
      let self := { self with inbound := { self.inbound with outboundAcks := remaining } }
      match wait.response with
      | some response =>
        { self with
          waits := self.waits.eraseIdx i
          acknowledged := self.acknowledged ++ [⟨wait.expected, response⟩] }
      | none => { self with waits := self.waits.set i wait }
  | .timeout i => { self with waits := self.waits.eraseIdx i }
  | .refresh turn maxBatchSize =>
    match refreshReceive turn maxBatchSize self.inbound with
    | (.error _, inbound) => { self with inbound := inbound }
    | (.ok prompts, inbound) =>
      { self with inbound := inbound, refreshes := self.refreshes ++ [prompts] }
  | .store i upsertPrompts =>
    match self.refreshes[i]? with
    | none => self
    | some prompts =>
      { self with
        refreshes := self.refreshes.eraseIdx i
        stored := self.stored ++ (refreshStore upsertPrompts prompts).2 }

/-- A run. -/
def run (self : LiveSystem) (events : List LiveEvent) : LiveSystem := events.foldl step self

/-- Every id received is in the queue, or in an `Ok` result of a wait that expected it, or taken by
    a wait that is still in flight; every prompt received is in the queue, or stored, or drained by
    a refresh that is still in flight. -/
structure Delivers (s : LiveSystem) : Prop where
  ids : ∀ queueId ∈ s.receivedIds,
    AckHolds s.inbound.outboundAcks queueId ∨
    (∃ result ∈ s.acknowledged, queueId ∈ result.expected ∧
      queueId ∈ result.response.acknowledgedQueueIds) ∨
    ∃ wait ∈ s.waits, queueId ∈ wait.acknowledged
  prompts : ∀ prompt ∈ s.receivedPrompts,
    prompt ∈ s.inbound.prompts ∨ prompt ∈ s.stored ∨ ∃ prompts ∈ s.refreshes, prompt ∈ prompts

/-- The event does not fail a wait that has taken ids, or a refresh that has drained prompts. -/
def Spares (s : LiveSystem) : LiveEvent → Prop
  | .timeout i => ∀ wait, s.waits[i]? = some wait → wait.acknowledged = []
  | .store i (.error _) => ∀ prompts, s.refreshes[i]? = some prompts → prompts = []
  | _ => True

/-- All events of a run. -/
def SparesAll : LiveSystem → List LiveEvent → Prop
  | _, [] => True
  | s, event :: events => s.Spares event ∧ SparesAll (s.step event) events

end LiveSystem

/-! ## What a round of a wait does -/

@[simp] theorem ackHolds_nil {queueId : String} : ¬ AckHolds [] queueId :=
  fun ⟨_, hmem, _⟩ => absurd hmem List.not_mem_nil

theorem ackHolds_append {acks more : List IntegrationAckPayload} {queueId : String} :
    AckHolds (acks ++ more) queueId ↔ AckHolds acks queueId ∨ AckHolds more queueId := by
  unfold AckHolds
  constructor
  · rintro ⟨ack, hmem, hid⟩
    exact (List.mem_append.mp hmem).imp (⟨ack, ·, hid⟩) (⟨ack, ·, hid⟩)
  · rintro (⟨ack, hmem, hid⟩ | ⟨ack, hmem, hid⟩)
    · exact ⟨ack, List.mem_append_left _ hmem, hid⟩
    · exact ⟨ack, List.mem_append_right _ hmem, hid⟩

theorem ackHolds_cons {ack : IntegrationAckPayload} {acks : List IntegrationAckPayload}
    {queueId : String} :
    AckHolds (ack :: acks) queueId ↔ queueId ∈ ack.acknowledgedIds ∨ AckHolds acks queueId := by
  simp [AckHolds]

namespace Wait

theorem mem_foldl_insert {ids set : List String} {queueId : String} :
    queueId ∈ ids.foldl (fun set queueId => set.insert queueId) set ↔
      queueId ∈ set ∨ queueId ∈ ids := by
  induction ids generalizing set with
  | nil => exact ⟨.inl, fun h => h.elim id (fun h => absurd h List.not_mem_nil)⟩
  | cons head ids ih =>
    rw [List.foldl_cons, ih, List.mem_insert_iff, List.mem_cons, or_assoc, or_left_comm]

variable {self : Wait} {remaining acks : List IntegrationAckPayload} {ack : IntegrationAckPayload}
  {queueId : String}

/-- One acknowledgement: every id in it is taken, or left in the queue. -/
theorem takeAck_spec :
    (takeAck (self, remaining) ack).1.expected = self.expected ∧
      (queueId ∈ (takeAck (self, remaining) ack).1.acknowledged ↔
        queueId ∈ self.acknowledged ∨ (queueId ∈ ack.acknowledgedIds ∧ queueId ∈ self.expected)) ∧
      (AckHolds (takeAck (self, remaining) ack).2 queueId ↔
        AckHolds remaining queueId ∨ (queueId ∈ ack.acknowledgedIds ∧ queueId ∉ self.expected)) := by
  refine ⟨rfl, ?_, ?_⟩
  · unfold takeAck
    simp only
    rw [mem_foldl_insert, List.mem_filter, List.contains_iff_mem]
  · have hunmatched : queueId ∈ ack.acknowledgedIds.filter (!self.expected.contains ·) ↔
        queueId ∈ ack.acknowledgedIds ∧ queueId ∉ self.expected := by
      simp [List.mem_filter]
    unfold takeAck
    simp only
    split
    · next hempty =>
      rw [← hunmatched, List.isEmpty_iff.mp hempty]
      exact ⟨.inl, fun h => h.elim id (fun h => absurd h List.not_mem_nil)⟩
    · rw [ackHolds_append, ackHolds_cons, ← hunmatched]
      simp

/-- A round of a wait: every id in the queue is taken, or left there. -/
theorem takeAcks_spec (self : Wait) (acks : List IntegrationAckPayload) (queueId : String) :
    (self.takeAcks acks).1.expected = self.expected ∧
      (queueId ∈ (self.takeAcks acks).1.acknowledged ↔
        queueId ∈ self.acknowledged ∨ (AckHolds acks queueId ∧ queueId ∈ self.expected)) ∧
      (AckHolds (self.takeAcks acks).2 queueId ↔
        AckHolds acks queueId ∧ queueId ∉ self.expected) := by
  suffices hloop : ∀ remaining,
      (acks.foldl takeAck (self, remaining)).1.expected = self.expected ∧
      (queueId ∈ (acks.foldl takeAck (self, remaining)).1.acknowledged ↔
        queueId ∈ self.acknowledged ∨ (AckHolds acks queueId ∧ queueId ∈ self.expected)) ∧
      (AckHolds (acks.foldl takeAck (self, remaining)).2 queueId ↔
        AckHolds remaining queueId ∨ (AckHolds acks queueId ∧ queueId ∉ self.expected)) by
    obtain ⟨hexpected, htaken, hleft⟩ := hloop []
    exact ⟨hexpected, htaken, hleft.trans (or_iff_right ackHolds_nil)⟩
  -- along the queue: what is left of the front, then the rest
  induction acks generalizing self with
  | nil => exact fun remaining => ⟨rfl, by simp, by simp⟩
  | cons ack acks ih =>
    intro remaining
    obtain ⟨hexpected, htaken, hleft⟩ := @takeAck_spec self remaining ack queueId
    obtain ⟨hexpected', htaken', hleft'⟩ :=
      ih (takeAck (self, remaining) ack).1 (takeAck (self, remaining) ack).2
    rw [List.foldl_cons]
    refine ⟨hexpected'.trans hexpected, ?_, ?_⟩
    · rw [htaken', htaken, hexpected, ackHolds_cons, or_assoc, ← or_and_right]
    · rw [hleft', hleft, hexpected, ackHolds_cons, or_assoc, ← or_and_right]

/-- The result holds exactly what the wait has taken. -/
theorem mem_response {response : IntegrationEgressTransportResponse}
    (h : self.response = some response) :
    queueId ∈ response.acknowledgedQueueIds ↔ queueId ∈ self.acknowledged := by
  unfold Wait.response at h
  split at h
  · cases h
    exact List.mem_insertionSort _
  · nomatch h

end Wait

/-! ## The invariant -/

/-- An element other than the `i`-th is still there after the `i`-th is erased. -/
theorem mem_eraseIdx_or {α : Type} {l : List α} {x : α} (h : x ∈ l) (i : Nat) :
    l[i]? = some x ∨ x ∈ l.eraseIdx i := by
  obtain ⟨j, hj⟩ := List.mem_iff_getElem?.mp h
  by_cases hij : j = i
  · exact .inl (hij ▸ hj)
  · exact .inr (List.mem_eraseIdx_iff_getElem?.mpr ⟨j, hij, hj⟩)

/-- An element other than the `i`-th is still there after the `i`-th is replaced. -/
theorem mem_set_or {α : Type} {l : List α} {x : α} (h : x ∈ l) (i : Nat) (y : α) :
    l[i]? = some x ∨ x ∈ l.set i y := by
  obtain ⟨j, hj⟩ := List.mem_iff_getElem?.mp h
  by_cases hij : j = i
  · exact .inl (hij ▸ hj)
  · refine .inr (List.mem_iff_getElem?.mpr ⟨j, ?_⟩)
    rw [List.getElem?_set_ne (Ne.symm hij)]
    exact hj

/-- A refresh fails before it drains, or drains. -/
theorem refreshReceive_cases (turn : RefreshTurn) (maxBatchSize : Nat)
    (inbound : WebSocketIntegrationInboundState) :
    (∃ e, refreshReceive turn maxBatchSize inbound = (.error e, inbound)) ∨
      ∃ prompts rest, inbound.prompts = prompts ++ rest ∧
        refreshReceive turn maxBatchSize inbound = (.ok prompts, { inbound with prompts := rest }) := by
  unfold refreshReceive
  split
  · exact .inl ⟨_, rfl⟩
  · split
    · exact .inl ⟨_, rfl⟩
    · exact .inl ⟨_, rfl⟩
    · split
      · exact .inl ⟨_, rfl⟩
      · exact .inl ⟨_, rfl⟩
      · split
        · exact .inl ⟨_, rfl⟩
        · exact .inr ⟨_, _, (List.take_append_drop (max maxBatchSize 1) _).symm, rfl⟩

namespace LiveSystem

/-- What holds along a run: a wait takes only what it expects. -/
structure Inv (s : LiveSystem) : Prop where
  delivers : s.Delivers
  expected : ∀ wait ∈ s.waits, ∀ queueId ∈ wait.acknowledged, queueId ∈ wait.expected

theorem inv_start : Inv start :=
  ⟨⟨fun _ h => absurd h List.not_mem_nil, fun _ h => absurd h List.not_mem_nil⟩,
    fun _ h => absurd h List.not_mem_nil⟩

variable {s : LiveSystem}

/-- **A push that is read** joins its queue. -/
theorem Inv.push (h : Inv s) {next : Push} {reading : List Push} (hreading : s.reading = next :: reading) :
    Inv (s.step .push) := by
  simp only [step, hreading]
  refine ⟨⟨fun queueId hid => ?_, fun prompt hprompt => ?_⟩, h.expected⟩
  · rcases List.mem_append.mp hid with hold | hnew
    · refine (h.delivers.ids queueId hold).imp_left (fun hqueue => ?_)
      cases next with
      | ack payload => exact ackHolds_append.mpr (.inl hqueue)
      | prompt prompt => exact hqueue
    · cases next with
      | ack payload => exact .inl (ackHolds_append.mpr (.inr (ackHolds_cons.mpr (.inl hnew))))
      | prompt prompt => exact absurd hnew List.not_mem_nil
  · rcases List.mem_append.mp hprompt with hold | hnew
    · refine (h.delivers.prompts prompt hold).imp_left (fun hqueue => ?_)
      cases next with
      | ack payload => exact hqueue
      | prompt received => exact List.mem_append_left _ hqueue
    · cases next with
      | ack payload => exact absurd hnew List.not_mem_nil
      | prompt received => exact .inl (List.mem_append_right _ hnew)

/-- **A wait that is polled** takes the ids it expects out of the queue. -/
theorem Inv.poll (h : Inv s) (i : Nat) : Inv (s.step (.poll i)) := by
  simp only [step]
  split
  · exact h
  · next wait hwait =>
    have hmem := List.mem_of_getElem? hwait
    have hspec := wait.takeAcks_spec s.inbound.outboundAcks
    generalize wait.takeAcks s.inbound.outboundAcks = taken at hspec
    obtain ⟨wait', remaining⟩ := taken
    simp only at hspec ⊢
    -- the wait keeps what it had, and what it took from the queue it expected
    have hkept : ∀ queueId ∈ s.receivedIds,
        AckHolds remaining queueId ∨
        (∃ result ∈ s.acknowledged, queueId ∈ result.expected ∧
          queueId ∈ result.response.acknowledgedQueueIds) ∨
        queueId ∈ wait'.acknowledged ∨
        ∃ other ∈ s.waits, s.waits[i]? ≠ some other ∧ queueId ∈ other.acknowledged := by
      intro queueId hid
      obtain ⟨-, htaken, hleft⟩ := hspec queueId
      rcases h.delivers.ids queueId hid with hqueue | hresult | ⟨other, hother, hheld⟩
      · by_cases hexpected : queueId ∈ wait.expected
        · exact .inr (.inr (.inl (htaken.mpr (.inr ⟨hqueue, hexpected⟩))))
        · exact .inl (hleft.mpr ⟨hqueue, hexpected⟩)
      · exact .inr (.inl hresult)
      · by_cases hsame : s.waits[i]? = some other
        · cases hwait.symm.trans hsame
          exact .inr (.inr (.inl (htaken.mpr (.inl hheld))))
        · exact .inr (.inr (.inr ⟨other, hother, hsame, hheld⟩))
    have hexpected : ∀ queueId ∈ wait'.acknowledged, queueId ∈ wait'.expected := by
      intro queueId hid
      obtain ⟨hsame, htaken, -⟩ := hspec queueId
      rw [hsame]
      exact (htaken.mp hid).elim (h.expected wait hmem queueId) And.right
    split
    · next response hresponse =>
      refine ⟨⟨fun queueId hid => ?_, h.delivers.prompts⟩, fun other hother =>
        h.expected other (List.mem_of_mem_eraseIdx hother)⟩
      rcases hkept queueId hid with hqueue | ⟨result, hresult, hin⟩ | hheld | ⟨other, hother, hne,
        hheld⟩
      · exact .inl hqueue
      · exact .inr (.inl ⟨result, List.mem_append_left _ hresult, hin⟩)
      · exact .inr (.inl ⟨_, List.mem_append_right _ (List.mem_singleton_self _),
          hexpected queueId hheld, (Wait.mem_response hresponse).mpr hheld⟩)
      · exact .inr (.inr ⟨other, (mem_eraseIdx_or hother i).resolve_left hne, hheld⟩)
    · refine ⟨⟨fun queueId hid => ?_, h.delivers.prompts⟩, fun other hother => ?_⟩
      · rcases hkept queueId hid with hqueue | hresult | hheld | ⟨other, hother, hne, hheld⟩
        · exact .inl hqueue
        · exact .inr (.inl hresult)
        · exact .inr (.inr ⟨wait', List.mem_set (List.getElem?_eq_some_iff.mp hwait).1 wait', hheld⟩)
        · exact .inr (.inr ⟨other, (mem_set_or hother i wait').resolve_left hne, hheld⟩)
      · rcases List.mem_or_eq_of_mem_set hother with hold | rfl
        · exact h.expected other hold
        · exact hexpected

/-- **A refresh** drains the prompts it has received. -/
theorem Inv.refresh (h : Inv s) (turn : RefreshTurn) (maxBatchSize : Nat) :
    Inv (s.step (.refresh turn maxBatchSize)) := by
  simp only [step]
  rcases refreshReceive_cases turn maxBatchSize s.inbound with ⟨e, heq⟩ | ⟨prompts, rest, hsplit, heq⟩
  · rw [heq]
    exact h
  · rw [heq]
    refine ⟨⟨h.delivers.ids, fun prompt hprompt => ?_⟩, h.expected⟩
    rcases h.delivers.prompts prompt hprompt with hqueue | hstored | ⟨drained, hmem, hin⟩
    · rw [hsplit] at hqueue
      rcases List.mem_append.mp hqueue with hdrained | hrest
      · exact .inr (.inr ⟨prompts, List.mem_append_right _ (List.mem_singleton_self _), hdrained⟩)
      · exact .inl hrest
    · exact .inr (.inl hstored)
    · exact .inr (.inr ⟨drained, List.mem_append_left _ hmem, hin⟩)

/-- What a refresh has drained is stored, when the store does not fail. -/
theorem refreshStore_stores {upsertPrompts : Except CoreError Unit} {prompts : List ProactivePrompt}
    (h : ∀ e, upsertPrompts = .error e → prompts = []) :
    (refreshStore upsertPrompts prompts).2 = prompts := by
  unfold refreshStore
  split
  · cases upsertPrompts with
    | error e => exact (h e rfl).symm
    | ok _ => rfl
  · next hempty => exact (List.eq_nil_of_length_eq_zero (by omega)).symm

/-- **A refresh stores** the prompts it has drained. -/
theorem Inv.store (h : Inv s) (i : Nat) (upsertPrompts : Except CoreError Unit)
    (hspares : s.Spares (.store i upsertPrompts)) : Inv (s.step (.store i upsertPrompts)) := by
  simp only [step]
  split
  · exact h
  · next prompts hprompts =>
    have hstored : (refreshStore upsertPrompts prompts).2 = prompts := by
      refine refreshStore_stores (fun e he => ?_)
      subst he
      exact hspares prompts hprompts
    rw [hstored]
    refine ⟨⟨h.delivers.ids, fun prompt hprompt => ?_⟩, h.expected⟩
    rcases h.delivers.prompts prompt hprompt with hqueue | hold | ⟨drained, hmem, hin⟩
    · exact .inl hqueue
    · exact .inr (.inl (List.mem_append_left _ hold))
    · rcases mem_eraseIdx_or hmem i with hsame | hother
      · cases hprompts.symm.trans hsame
        exact .inr (.inl (List.mem_append_right _ hin))
      · exact .inr (.inr ⟨drained, hother, hin⟩)

theorem Inv.timeout (h : Inv s) (i : Nat) (hspares : s.Spares (.timeout i)) :
    Inv (s.step (.timeout i)) := by
  refine ⟨⟨fun queueId hid => ?_, h.delivers.prompts⟩, fun other hother =>
    h.expected other (List.mem_of_mem_eraseIdx hother)⟩
  rcases h.delivers.ids queueId hid with hqueue | hresult | ⟨wait, hmem, hheld⟩
  · exact .inl hqueue
  · exact .inr (.inl hresult)
  · rcases mem_eraseIdx_or hmem i with hsame | hother
    · rw [hspares wait hsame] at hheld
      exact absurd hheld List.not_mem_nil
    · exact .inr (.inr ⟨wait, hother, hheld⟩)

/-- **One event.** -/
theorem Inv.step (h : Inv s) (event : LiveEvent) (hspares : s.Spares event) :
    Inv (s.step event) := by
  cases event with
  | message message => exact ⟨⟨h.delivers.ids, h.delivers.prompts⟩, h.expected⟩
  | push =>
    cases hreading : s.reading with
    | nil =>
      simp only [LiveSystem.step, hreading]
      exact h
    | cons next reading => exact h.push hreading
  | wait expectedQueueIds =>
    refine ⟨⟨fun queueId hid => ?_, h.delivers.prompts⟩, fun other hother => ?_⟩
    · rcases h.delivers.ids queueId hid with hqueue | hresult | ⟨wait, hmem, hheld⟩
      · exact .inl hqueue
      · exact .inr (.inl hresult)
      · exact .inr (.inr ⟨wait, List.mem_append_left _ hmem, hheld⟩)
    · rcases List.mem_append.mp hother with hold | hnew
      · exact h.expected other hold
      · cases List.mem_singleton.mp hnew
        exact fun _ hid => absurd hid List.not_mem_nil
  | poll i => exact h.poll i
  | timeout i => exact h.timeout i hspares
  | refresh turn maxBatchSize => exact h.refresh turn maxBatchSize
  | store i upsertPrompts => exact h.store i upsertPrompts hspares

/-- **A whole run.** -/
theorem Inv.run (h : Inv s) {events : List LiveEvent} (hspares : s.SparesAll events) :
    Inv (s.run events) := by
  induction events generalizing s with
  | nil => exact h
  | cons event events ih => exact ih (h.step event hspares.1) hspares.2

end LiveSystem

/-! ## The result -/

/-- Every id received is in the queue or in an `Ok` result of a wait that expected it, and every
    prompt received is in the queue or stored. -/
structure LiveSystem.Settled (s : LiveSystem) : Prop where
  ids : ∀ queueId ∈ s.receivedIds, AckHolds s.inbound.outboundAcks queueId ∨
    ∃ result ∈ s.acknowledged, queueId ∈ result.expected ∧
      queueId ∈ result.response.acknowledgedQueueIds
  prompts : ∀ prompt ∈ s.receivedPrompts, prompt ∈ s.inbound.prompts ∨ prompt ∈ s.stored

end Oneshim.Integration
