/-
  The life of a prompt in the inbox
  (`oneshim-storage/src/integration_state_store/inner.rs`, `inbox_coordinator.rs`).

  A prompt is delivered, shown, and then acknowledged, dismissed or expired.  The server may deliver
  it again at any time; the stored entry is all that says it was handled, and the entry can be
  written over and can be pruned.

  1. **Redaction** — with `redact_completed_prompt_bodies` the body is cleared when the status
     changes.  A delivery writes the body too, whatever the status: `Redacted` survives every call
     except such a delivery (`completed_prompts_redacted`).

  2. **Handled once** — a delivery of a stored prompt keeps its status, so a handled prompt stays
     handled as long as its entry is there.  Pruning removes handled entries first, and a delivery
     after that inserts the prompt as new (`handled_prompts_stay_handled`).
-/
import Oneshim.Integration.StateStore

namespace Oneshim.Integration

open Lib

/-! ## What the inbox operations store -/

namespace Inbox

/-- What a delivery stores. -/
def delivered (inbox : Inbox) (prompt : StoredProactivePrompt) : StoredProactivePrompt :=
  match inbox.find? prompt.key with
  | some existing =>
    { existing with
      prompt := prompt.prompt
      presentedAt := existing.presentedAt.or prompt.presentedAt }
  | none => prompt

theorem upsertPrompt_eq (inbox : Inbox) (prompt : StoredProactivePrompt) :
    inbox.upsertPrompt prompt = inbox.upsert (inbox.delivered prompt) := by
  unfold upsertPrompt delivered
  cases inbox.find? prompt.key with
  | some existing => rfl
  | none => rfl

/-- Either the stored prompt keeps its status, or the prompt is stored as it came. -/
theorem delivered_cases (inbox : Inbox) (prompt : StoredProactivePrompt) :
    (∃ existing, inbox.find? prompt.key = some existing ∧
      (inbox.delivered prompt).status = existing.status ∧
      (inbox.delivered prompt).prompt = prompt.prompt) ∨
    (inbox.find? prompt.key = none ∧ inbox.delivered prompt = prompt) := by
  unfold delivered
  split
  · next existing h => exact .inl ⟨existing, h, rfl, rfl⟩
  · next h => exact .inr ⟨h, rfl⟩

/-- A property of the stored prompts that every delivery keeps. -/
theorem foldl_upsertPrompt {P : StoredProactivePrompt → Prop}
    {Q : Inbox → List StoredProactivePrompt → Prop} {inbox : Inbox}
    {prompts : List StoredProactivePrompt} (hinbox : ∀ row ∈ inbox.rows, P row)
    (hQ : Q inbox prompts)
    (hstep : ∀ (inbox : Inbox) (prompt : StoredProactivePrompt)
      (prompts : List StoredProactivePrompt), (∀ row ∈ inbox.rows, P row) →
      Q inbox (prompt :: prompts) →
      P (inbox.delivered prompt) ∧ Q (inbox.upsertPrompt prompt) prompts) :
    ∀ row ∈ (prompts.foldl upsertPrompt inbox).rows, P row := by
  induction prompts generalizing inbox with
  | nil => exact hinbox
  | cons prompt prompts ih =>
    obtain ⟨hP, hQ⟩ := hstep inbox prompt prompts hinbox hQ
    refine ih (fun row hrow => ?_) hQ
    rw [upsertPrompt_eq] at hrow
    rcases Table.mem_upsert.mp hrow with rfl | ⟨hold, -⟩
    · exact hP
    · exact hinbox row hold

theorem mem_foldl_remove {candidates : List Candidate} {inbox : Inbox}
    {row : StoredProactivePrompt}
    (h : row ∈ (candidates.foldl (fun inbox candidate => Table.remove inbox candidate.promptId)
      inbox).rows) : row ∈ inbox.rows := by
  induction candidates generalizing inbox with
  | nil => exact h
  | cons candidate candidates ih => exact (Table.mem_remove.mp (ih h)).1

/-- Pruning adds nothing. -/
theorem mem_pruneInboxLocked {policy : IntegrationStateStorePolicy} {inbox : Inbox}
    {row : StoredProactivePrompt} (h : row ∈ (inbox.pruneInboxLocked policy).rows) :
    row ∈ inbox.rows := by
  unfold pruneInboxLocked at h
  simp only at h
  split at h
  · exact h
  · exact mem_foldl_remove h

end Inbox

open FileIntegrationStateInner

/-! ## Redaction -/

/-- The body of every handled prompt is empty. -/
def StoredProactivePrompt.Redacted (prompt : StoredProactivePrompt) : Prop :=
  prompt.status ≠ .pending → prompt.prompt.body = ""

/-- All stored prompts. -/
def Redacted (registry : FileIntegrationStateRegistry) : Prop :=
  ∀ prompt ∈ registry.inbox.rows, prompt.Redacted

/-- Calls on the inbox, and restarts of the process. -/
inductive InboxEvent where
  | call (disk : Except StorageError Unit) (call : InboxCall)
  | restart

/-- The store after the event. -/
def InboxEvent.apply (self : FileIntegrationStateInner) : InboxEvent → FileIntegrationStateInner
  | .call disk request => request.run self disk
  | .restart => self.restart

/-- The store after a run. -/
def FileIntegrationStateInner.runInbox (self : FileIntegrationStateInner)
    (events : List InboxEvent) : FileIntegrationStateInner :=
  events.foldl InboxEvent.apply self

/-- The delivery does not put a body into a handled prompt. -/
def Inbox.BodyAllowed (inbox : Inbox) (prompt : StoredProactivePrompt) : Prop :=
  prompt.prompt.body = "" ∨
    match inbox.find? prompt.key with
    | some existing => existing.status = .pending
    | none => prompt.status = .pending

/-- The deliveries of one call, each to the inbox the earlier ones have left. -/
def Inbox.BodiesAllowed : Inbox → List StoredProactivePrompt → Prop
  | _, [] => True
  | inbox, prompt :: prompts =>
    inbox.BodyAllowed prompt ∧ BodiesAllowed (inbox.upsertPrompt prompt) prompts

/-- No call of the run delivers a body to a handled prompt. -/
def BodiesAllowed : FileIntegrationStateInner → List InboxEvent → Prop
  | _, [] => True
  | self, event :: events =>
    (match event with
      | .call _ (.upsertPrompts prompts) => self.registry.memory.inbox.BodiesAllowed prompts
      | _ => True) ∧ BodiesAllowed (event.apply self) events

section Redaction

variable {policy : IntegrationStateStorePolicy} {prompt : StoredProactivePrompt}

theorem redacted_redact (hredact : policy.redactCompletedPromptBodies = true)
    (prompt : StoredProactivePrompt) (status : IntegrationInboxItemStatus)
    (hstatus : prompt.status = status) :
    (redactPromptBodyIfNeeded policy prompt status).Redacted := by
  subst hstatus
  unfold redactPromptBodyIfNeeded
  split
  · exact fun _ => rfl
  · next hkeep =>
    -- the policy is on, so the body is kept only for a pending prompt
    intro hhandled
    rw [hredact] at hkeep
    exact absurd (by simpa using hhandled) hkeep

theorem redacted_expirePrompt (hredact : policy.redactCompletedPromptBodies = true)
    {now : DateTime} (h : prompt.Redacted) : (expirePrompt policy now prompt).Redacted := by
  unfold expirePrompt
  split
  · exact redacted_redact hredact _ .expired rfl
  · exact h

theorem redacted_delivered {inbox : Inbox} (hallowed : inbox.BodyAllowed prompt) :
    (inbox.delivered prompt).Redacted := by
  intro hhandled
  rcases inbox.delivered_cases prompt with ⟨existing, hfind, hstatus, hbody⟩ | ⟨hfind, hnew⟩
  · rcases hallowed with hempty | hpending
    · rw [hbody, hempty]
    · rw [hfind] at hpending
      exact absurd (hstatus.trans hpending) hhandled
  · rw [hnew] at hhandled ⊢
    rcases hallowed with hempty | hpending
    · exact hempty
    · rw [hfind] at hpending
      exact absurd hpending hhandled

theorem redacted_upsert {registry : FileIntegrationStateRegistry} (h : Redacted registry)
    (hprompt : prompt.Redacted) :
    ∀ row ∈ (registry.inbox.upsert prompt).rows, row.Redacted := by
  intro row hrow
  rcases Table.mem_upsert.mp hrow with rfl | ⟨hold, -⟩
  · exact hprompt
  · exact h row hold

/-- One call: only a delivery could write a body into a handled prompt. -/
theorem redacted_change (hredact : policy.redactCompletedPromptBodies = true)
    {memory memory' : FileIntegrationStateRegistry} {call : InboxCall}
    (hchange : call.Change policy memory memory') (h : Redacted memory)
    (hallowed : ∀ prompts, call = .upsertPrompts prompts → memory.inbox.BodiesAllowed prompts) :
    Redacted memory' := by
  cases hchange with
  | upsertPrompts prompts =>
    intro row hrow
    refine Inbox.foldl_upsertPrompt (Q := Inbox.BodiesAllowed) h (hallowed prompts rfl) ?_ row
      (Inbox.mem_pruneInboxLocked hrow)
    exact fun inbox prompt prompts _ hQ => ⟨redacted_delivered hQ.1, hQ.2⟩
  | updateStatus hfind => exact redacted_upsert h (redacted_redact hredact _ _ rfl)
  | recordPromptReceipt hfind hpending =>
    exact redacted_upsert h (redacted_redact hredact _ _ rfl)
  | @markPresented _ _ prompt hfind =>
    have hold : prompt.Redacted := h prompt (Table.find?_eq_some_iff.mp hfind).1
    exact redacted_upsert h hold
  | expireStale now =>
    intro row hrow
    obtain ⟨old, hold, rfl⟩ := List.mem_map.mp hrow
    exact redacted_expirePrompt hredact (h old hold)

end Redaction

theorem policy_apply (self : FileIntegrationStateInner) (event : InboxEvent) :
    (event.apply self).policy = self.policy := by
  cases event with
  | call disk call =>
    show (call.run self disk).policy = self.policy
    rcases InboxCall.run_cases self disk call with hsame | ⟨memory, -, hrun⟩
    · rw [hsame]
    · rw [hrun, policy_commit]
  | restart => rfl

/-- Every event of the inbox keeps completed prompts redacted, in memory and in the file. -/
theorem redacted_apply {self : FileIntegrationStateInner} {event : InboxEvent}
    (hredact : self.policy.redactCompletedPromptBodies = true)
    (hallowed : match event with
      | .call _ (.upsertPrompts prompts) => self.registry.memory.inbox.BodiesAllowed prompts
      | _ => True)
    (h : self.registry.Both Redacted) : (event.apply self).registry.Both Redacted := by
  cases event with
  | call disk call =>
    show (call.run self disk).registry.Both Redacted
    rcases InboxCall.run_cases self disk call with hsame | ⟨memory, hchange, hrun⟩
    · rw [hsame]
      exact h
    · rw [hrun]
      refine h.commit (redacted_change hredact hchange h.memory ?_)
      rintro prompts rfl
      exact hallowed
  | restart => exact h.restart (fun _ h => absurd h List.not_mem_nil)

/-- **Handled prompts stay redacted** as long as no delivery puts a body into one.  Memory and file
    are redacted after every such run, whichever file writes fail and whenever the process
    restarts, from any redacted file. -/
theorem completed_prompts_redacted (policy : IntegrationStateStorePolicy)
    (hredact : policy.redactCompletedPromptBodies = true)
    (file : Option FileIntegrationStateRegistry)
    (hfile : ∀ registry, file = some registry → Redacted registry) (events : List InboxEvent)
    (hallowed : BodiesAllowed (opened policy file) events) :
    ((opened policy file).runInbox events).registry.Both Redacted := by
  have hstart : (opened policy file).registry.Both Redacted :=
    Durable.Both.restart ⟨fun _ h => absurd h List.not_mem_nil, hfile⟩
      (fun _ h => absurd h List.not_mem_nil)
  have hpolicy : (opened policy file).policy.redactCompletedPromptBodies = true := hredact
  generalize opened policy file = self at hallowed hstart hpolicy
  induction events generalizing self with
  | nil => exact hstart
  | cons event events ih =>
    exact ih (event.apply self) hallowed.2 (redacted_apply hpolicy hallowed.1 hstart)
      (by rw [policy_apply]; exact hpolicy)

/-- A pending prompt, as the transport delivers it. -/
def samplePrompt (promptId body : String) (receivedAt : DateTime) : StoredProactivePrompt where
  prompt := ⟨promptId, .task, "Review inbox", body, .high, none, ⟨"team-server", none, none⟩⟩
  receivedAt := receivedAt
  status := .pending
  statusUpdatedAt := receivedAt
  presentedAt := none
  dismissReason := none

/-- A prompt is delivered twice, shown and dismissed; the write of the dismissal fails, and the
    prompt is delivered once more without its body. -/
def redeliveredInTime : List InboxEvent :=
  [.call (.ok ()) (.upsertPrompts [samplePrompt "prompt-1" "body-1" 1]),
    .call (.ok ()) (.upsertPrompts [samplePrompt "prompt-1" "body-2" 2]),
    .call (.ok ()) (.markPresented "prompt-1" 3),
    .call (.error (.io "disk full")) (.updateStatus 4 "prompt-1" .dismissed none),
    .call (.ok ()) (.upsertPrompts [samplePrompt "prompt-1" "" 5])]

theorem completed_prompts_redacted_in_time :
    ((opened .default none).runInbox redeliveredInTime).registry.Both Redacted :=
  completed_prompts_redacted .default rfl none (fun _ h => nomatch h) redeliveredInTime
    ⟨⟨.inr rfl, trivial⟩, ⟨.inr rfl, trivial⟩, trivial, trivial, ⟨.inl rfl, trivial⟩, trivial⟩

/-- **A second delivery brings the body back.**  The prompt is acknowledged and its body cleared;
    the server delivers it again, and memory and file hold the body of an acknowledged prompt. -/
theorem redelivery_restores_body :
    let events : List InboxEvent :=
      [.call (.ok ()) (.upsertPrompts [samplePrompt "prompt-1" "body-secret" 1]),
        .call (.ok ()) (.updateStatus 2 "prompt-1" .acknowledged none),
        .call (.ok ()) (.upsertPrompts [samplePrompt "prompt-1" "body-secret" 3])]
    ¬ ((opened .default none).runInbox events).registry.Both Redacted := by
  intro events h
  have hbody := h.memory
    { samplePrompt "prompt-1" "body-secret" 1 with status := .acknowledged, statusUpdatedAt := 2 }
    (by decide +kernel) (by decide)
  exact absurd hbody (by decide)

/-! ## Handled once -/

/-- The ids of the handled prompts in the store. -/
def handledIds (store : FileIntegrationStateInner) : List String :=
  (store.registry.memory.inbox.rows.filter (fun prompt => prompt.status != .pending)).map
    StoredProactivePrompt.key

/-- The message is a receipt for the prompt. -/
def isReceiptFor (promptId : String) (message : QueuedIntegrationEgressMessage) : Bool :=
  match message.payload with
  | .promptReceipt receipt => receipt.promptId == promptId
  | .insight _ => false

/-- The receipts for a prompt. -/
def receiptsFor (promptId : String) (outbox : List QueuedIntegrationEgressMessage) :
    List QueuedIntegrationEgressMessage :=
  outbox.filter (isReceiptFor promptId)

/-- The store, and the ids of the prompts that were handled at some time. -/
structure PromptHistory where
  store : FileIntegrationStateInner
  handled : List String

namespace PromptHistory

/-- A new store. -/
def start (policy : IntegrationStateStorePolicy) : PromptHistory := ⟨opened policy none, []⟩

/-- One call. -/
def step (self : PromptHistory) (event : Except StorageError Unit × InboxCall) : PromptHistory :=
  let store := event.2.run self.store event.1
  ⟨store, self.handled ++ handledIds store⟩

/-- A run. -/
def run (self : PromptHistory) (events : List (Except StorageError Unit × InboxCall)) :
    PromptHistory :=
  events.foldl step self

/-- No handled prompt is listed as pending, and none has two receipts. -/
structure StaysHandled (h : PromptHistory) : Prop where
  notPending : ∀ prompt ∈ h.store.listInboxPendingSync, prompt.key ∉ h.handled
  oneReceipt : ∀ promptId, (receiptsFor promptId h.store.registry.memory.outbox).length ≤ 1

end PromptHistory

/-- The calls of the inbox coordinator: all but `update_status`, which sets any status. -/
def InboxCall.ofCoordinator : InboxCall → Bool
  | .updateStatus .. => false
  | _ => true

/-- The delivery does not bring back a handled prompt whose entry is gone. -/
def Inbox.Unrevived (handled : List String) (inbox : Inbox) (prompt : StoredProactivePrompt) :
    Prop :=
  prompt.status = .pending → inbox.find? prompt.key = none → prompt.key ∉ handled

instance (handled : List String) (inbox : Inbox) (prompt : StoredProactivePrompt) :
    Decidable (inbox.Unrevived handled prompt) :=
  inferInstanceAs (Decidable (_ → _ → _))

/-- The deliveries of one call, each to the inbox the earlier ones have left. -/
def Inbox.AllUnrevived (handled : List String) : Inbox → List StoredProactivePrompt → Prop
  | _, [] => True
  | inbox, prompt :: prompts =>
    inbox.Unrevived handled prompt ∧ AllUnrevived handled (inbox.upsertPrompt prompt) prompts

/-- No call of the run delivers, as pending, a handled prompt whose entry is gone. -/
def Unrevived : PromptHistory → List (Except StorageError Unit × InboxCall) → Prop
  | _, [] => True
  | self, event :: events =>
    (match event.2 with
      | .upsertPrompts prompts =>
        self.store.registry.memory.inbox.AllUnrevived self.handled prompts
      | _ => True) ∧ Unrevived (self.step event) events

/-! ### One call -/

@[simp] theorem status_redact (policy : IntegrationStateStorePolicy)
    (prompt : StoredProactivePrompt) (status : IntegrationInboxItemStatus) :
    (redactPromptBodyIfNeeded policy prompt status).status = prompt.status := by
  unfold redactPromptBodyIfNeeded
  split <;> rfl

theorem status_receiptPrompt (policy : IntegrationStateStorePolicy)
    (prompt : StoredProactivePrompt) (receipt : IntegrationPromptReceipt) :
    (receiptPrompt policy prompt receipt).status ≠ .pending := by
  unfold receiptPrompt
  rw [status_redact]
  show receipt.action.toInboxStatus ≠ .pending
  cases receipt.action <;> decide

theorem key_receiptPrompt (policy : IntegrationStateStorePolicy) (prompt : StoredProactivePrompt)
    (receipt : IntegrationPromptReceipt) : (receiptPrompt policy prompt receipt).key = prompt.key :=
  key_redactPromptBodyIfNeeded policy _ _

/-- The prompt is not both pending and handled. -/
def Untouched (handled : List String) (prompt : StoredProactivePrompt) : Prop :=
  prompt.status = .pending → prompt.key ∉ handled

theorem untouched_delivered {handled : List String} {inbox : Inbox}
    {prompt : StoredProactivePrompt} (hinbox : ∀ row ∈ inbox.rows, Untouched handled row)
    (h : inbox.Unrevived handled prompt) : Untouched handled (inbox.delivered prompt) := by
  intro hpending
  rcases inbox.delivered_cases prompt with ⟨existing, hfind, hstatus, hprompt⟩ | ⟨hfind, hnew⟩
  · obtain ⟨hmem, hkey⟩ := Table.find?_eq_some_iff.mp hfind
    have hsame : (inbox.delivered prompt).key = existing.key :=
      (congrArg ProactivePrompt.promptId hprompt).trans hkey.symm
    rw [hsame]
    exact hinbox existing hmem (hstatus.symm.trans hpending)
  · rw [hnew] at hpending ⊢
    exact h hpending hfind

/-- The stored prompts after a call of the coordinator. -/
theorem untouched_change {policy : IntegrationStateStorePolicy} {handled : List String}
    {memory memory' : FileIntegrationStateRegistry} {call : InboxCall}
    (hchange : call.Change policy memory memory') (hcall : call.ofCoordinator = true)
    (h : ∀ row ∈ memory.inbox.rows, Untouched handled row)
    (hunrevived : ∀ prompts, call = .upsertPrompts prompts →
      memory.inbox.AllUnrevived handled prompts) :
    ∀ row ∈ memory'.inbox.rows, Untouched handled row := by
  intro row hrow
  cases hchange with
  | upsertPrompts prompts =>
    refine Inbox.foldl_upsertPrompt (Q := Inbox.AllUnrevived handled) h (hunrevived prompts rfl) ?_
      row (Inbox.mem_pruneInboxLocked hrow)
    exact fun inbox prompt prompts hinbox hQ => ⟨untouched_delivered hinbox hQ.1, hQ.2⟩
  | updateStatus => nomatch hcall
  | recordPromptReceipt =>
    rcases Table.mem_upsert.mp hrow with rfl | ⟨hold, -⟩
    · exact fun hpending => absurd hpending (status_receiptPrompt _ _ _)
    · exact h row hold
  | @markPresented _ _ prompt hfind =>
    rcases Table.mem_upsert.mp hrow with rfl | ⟨hold, -⟩
    · have hprompt : Untouched handled prompt := h prompt (Table.find?_eq_some_iff.mp hfind).1
      exact hprompt
    · exact h row hold
  | expireStale now =>
    obtain ⟨old, hold, rfl⟩ := List.mem_map.mp hrow
    unfold expirePrompt
    split
    · intro hpending
      rw [status_redact] at hpending
      nomatch hpending
    · exact h old hold

/-- A call adds a receipt only for a prompt that was pending, and leaves it handled. -/
theorem receipts_change {policy : IntegrationStateStorePolicy}
    {memory memory' : FileIntegrationStateRegistry} {call : InboxCall}
    (hchange : call.Change policy memory memory') (promptId : String) :
    receiptsFor promptId memory'.outbox = receiptsFor promptId memory.outbox ∨
      ∃ before ∈ memory.inbox.rows, ∃ after ∈ memory'.inbox.rows, ∃ message,
        before.key = promptId ∧ before.status = .pending ∧ after.key = promptId ∧
        after.status ≠ .pending ∧
        receiptsFor promptId memory'.outbox = receiptsFor promptId memory.outbox ++ [message] := by
  cases hchange with
  | @recordPromptReceipt uuid now envelope receipt prompt hfind hpending =>
    obtain ⟨hmem, hkey⟩ := Table.find?_eq_some_iff.mp hfind
    let message : QueuedIntegrationEgressMessage :=
      ⟨queueId uuid, envelope, .promptReceipt receipt, now⟩
    have hfilter : receiptsFor promptId (memory.outbox ++ [message]) =
        receiptsFor promptId memory.outbox ++ [message].filter (isReceiptFor promptId) :=
      List.filter_append ..
    by_cases hid : receipt.promptId = promptId
    · refine .inr ⟨prompt, hmem, receiptPrompt policy prompt receipt,
        Table.mem_upsert.mpr (.inl rfl), message, hkey.trans hid, hpending,
        (key_receiptPrompt ..).trans (hkey.trans hid), status_receiptPrompt _ _ _, hfilter.trans ?_⟩
      have hyes : isReceiptFor promptId message = true := beq_iff_eq.mpr hid
      rw [List.filter_singleton, hyes, cond_true]
    · refine .inl (hfilter.trans ?_)
      have hno : isReceiptFor promptId message = false := beq_eq_false_iff_ne.mpr hid
      rw [List.filter_singleton, hno, cond_false, List.append_nil]
  | _ => exact .inl rfl

/-! ### The run -/

/-- What holds along every run. -/
structure HandledOnce (h : PromptHistory) : Prop where
  untouched : ∀ row ∈ h.store.registry.memory.inbox.rows, Untouched h.handled row
  oneReceipt : ∀ promptId,
    (receiptsFor promptId h.store.registry.memory.outbox).length ≤ 1
  /-- A receipt is for a handled prompt. -/
  noReceipt : ∀ promptId, promptId ∉ h.handled →
    receiptsFor promptId h.store.registry.memory.outbox = []

theorem mem_handledIds {store : FileIntegrationStateInner} {promptId : String} :
    promptId ∈ handledIds store ↔
      ∃ row ∈ store.registry.memory.inbox.rows, row.key = promptId ∧ row.status ≠ .pending := by
  unfold handledIds
  rw [List.mem_map]
  constructor
  · rintro ⟨row, hrow, rfl⟩
    obtain ⟨hmem, hstatus⟩ := List.mem_filter.mp hrow
    exact ⟨row, hmem, rfl, by simpa using hstatus⟩
  · rintro ⟨row, hmem, rfl, hstatus⟩
    exact ⟨row, List.mem_filter.mpr ⟨hmem, by simpa using hstatus⟩, rfl⟩

/-- A stored prompt that is pending is not handled now. -/
theorem Untouched.now {handled : List String} {store : FileIntegrationStateInner}
    {row : StoredProactivePrompt} (hrow : row ∈ store.registry.memory.inbox.rows)
    (h : Untouched handled row) : Untouched (handled ++ handledIds store) row := by
  intro hpending hmem
  rcases List.mem_append.mp hmem with hold | hnow
  · exact h hpending hold
  · obtain ⟨other, hother, hkey, hstatus⟩ := mem_handledIds.mp hnow
    rw [Table.eq_of_key_eq hother hrow hkey] at hstatus
    exact hstatus hpending

/-- **One call.** -/
theorem HandledOnce.step {h : PromptHistory} (hinv : HandledOnce h)
    {event : Except StorageError Unit × InboxCall} (hcall : event.2.ofCoordinator = true)
    (hunrevived : ∀ prompts, event.2 = .upsertPrompts prompts →
      h.store.registry.memory.inbox.AllUnrevived h.handled prompts) :
    HandledOnce (h.step event) := by
  obtain ⟨disk, call⟩ := event
  show HandledOnce ⟨call.run h.store disk, h.handled ++ handledIds (call.run h.store disk)⟩
  rcases InboxCall.run_cases h.store disk call with hsame | ⟨memory, hchange, hrun⟩
  · rw [hsame]
    exact ⟨fun row hrow => (hinv.untouched row hrow).now hrow, hinv.oneReceipt,
      fun promptId hid => hinv.noReceipt promptId fun hold => hid (List.mem_append_left _ hold)⟩
  · rw [hrun]
    have hmemory : (h.store.commit disk memory ()).2.registry.memory = memory := by
      rw [registry_commit, Durable.memory_commit]
    have hrows := untouched_change hchange hcall hinv.untouched hunrevived
    refine ⟨fun row hrow => ?_, fun promptId => ?_, fun promptId hid => ?_⟩
    · exact (hrows row (hmemory ▸ hrow)).now hrow
    · show (receiptsFor promptId (h.store.commit disk memory ()).2.registry.memory.outbox).length ≤ 1
      rw [hmemory]
      rcases receipts_change hchange promptId with heq | ⟨before, hbefore, _, _, _, hkey, hpending,
        _, _, heq⟩
      · rw [heq]
        exact hinv.oneReceipt promptId
      · -- the prompt was pending, so it had no receipt yet
        rw [heq, hinv.noReceipt promptId (hkey ▸ hinv.untouched before hbefore hpending)]
        exact Nat.le_refl 1
    · show receiptsFor promptId (h.store.commit disk memory ()).2.registry.memory.outbox = []
      rw [hmemory]
      rcases receipts_change hchange promptId with heq | ⟨_, _, after, hafter, _, _, _, hkey,
        hstatus, _⟩
      · rw [heq]
        exact hinv.noReceipt promptId fun hold => hid (List.mem_append_left _ hold)
      · refine absurd (List.mem_append_right _ (mem_handledIds.mpr ⟨after, ?_, hkey, hstatus⟩)) hid
        rw [hmemory]
        exact hafter

/-- **A whole run.** -/
theorem HandledOnce.run {h : PromptHistory} (hinv : HandledOnce h)
    {events : List (Except StorageError Unit × InboxCall)}
    (hcalls : ∀ event ∈ events, event.2.ofCoordinator = true) (hunrevived : Unrevived h events) :
    HandledOnce (h.run events) := by
  induction events generalizing h with
  | nil => exact hinv
  | cons event events ih =>
    have hevent : HandledOnce (h.step event) := by
      refine hinv.step (hcalls event List.mem_cons_self) (fun prompts hprompts => ?_)
      have hfirst := hunrevived.1
      rw [hprompts] at hfirst
      exact hfirst
    exact ih hevent (fun event hmem => hcalls event (List.mem_cons_of_mem _ hmem)) hunrevived.2

theorem HandledOnce.staysHandled {h : PromptHistory} (hinv : HandledOnce h) : h.StaysHandled where
  notPending prompt hmem := by
    unfold listInboxPendingSync at hmem
    rw [List.mem_insertionSort, List.mem_filter] at hmem
    unfold Inbox.values at hmem
    rw [List.mem_insertionSort] at hmem
    exact hinv.untouched prompt hmem.1 (by simpa using hmem.2)
  oneReceipt := hinv.oneReceipt

/-- **A handled prompt never comes back** as long as no delivery brings one whose entry was pruned:
    for every retention limit and every run of the coordinator's calls, whichever file writes
    fail. -/
theorem handled_prompts_stay_handled (policy : IntegrationStateStorePolicy)
    (events : List (Except StorageError Unit × InboxCall))
    (hcalls : ∀ event ∈ events, event.2.ofCoordinator = true)
    (hunrevived : Unrevived (.start policy) events) :
    ((PromptHistory.start policy).run events).StaysHandled := by
  have hstart : HandledOnce (.start policy) :=
    ⟨fun _ h => absurd h List.not_mem_nil, fun _ => Nat.zero_le 1, fun _ _ => rfl⟩
  exact (hstart.run hcalls hunrevived).staysHandled

/-- A receipt for a prompt. -/
def sampleReceipt (promptId : String) (occurredAt : DateTime) : InboxCall :=
  .recordPromptReceipt "uuid" occurredAt promptId
    ⟨"env-001", "integration.envelope.v1", .promptReceipt, occurredAt, "nonce-001",
      ⟨"device-1", none, none, "desktop-client"⟩, .promptAck⟩
    ⟨"receipt-001", promptId, .acknowledged, occurredAt, none⟩

/-- The first prompt is handled and delivered again while it is stored; the second delivery of new
    prompts prunes it, and it is not delivered after that. -/
def redeliveredWhileStored : List (Except StorageError Unit × InboxCall) :=
  [(.ok (), .upsertPrompts [samplePrompt "prompt-1" "body-1" 1]),
    (.ok (), .markPresented "prompt-1" 2),
    (.ok (), sampleReceipt "prompt-1" 3),
    (.ok (), .upsertPrompts [samplePrompt "prompt-1" "body-1" 4]),
    (.error (.io "disk full"), sampleReceipt "prompt-1" 5),
    (.ok (), .upsertPrompts [samplePrompt "prompt-2" "body-2" 6]),
    (.ok (), .expireStale 7)]

theorem handled_prompts_stay_handled_stored :
    ((PromptHistory.start ⟨1, true⟩).run redeliveredWhileStored).StaysHandled :=
  handled_prompts_stay_handled ⟨1, true⟩ redeliveredWhileStored (by decide +kernel)
    ⟨⟨by decide +kernel, trivial⟩, trivial, trivial, ⟨by decide +kernel, trivial⟩, trivial,
      ⟨by decide +kernel, trivial⟩, trivial, trivial⟩

/-- The store keeps one prompt.  The first one is acknowledged and pruned by the second, and then the
    server delivers it again. -/
def redeliveredAfterPruning : List (Except StorageError Unit × InboxCall) :=
  [(.ok (), .upsertPrompts [samplePrompt "prompt-1" "body-1" 1]),
    (.ok (), sampleReceipt "prompt-1" 2),
    (.ok (), .upsertPrompts [samplePrompt "prompt-2" "body-2" 3]),
    (.ok (), .upsertPrompts [samplePrompt "prompt-1" "body-1" 4])]

/-- **A pruned prompt comes back**: it is listed as pending again, and a second receipt for it goes
    into the outbox. -/
theorem pruned_prompt_comes_back :
    ¬ ((PromptHistory.start ⟨1, true⟩).run redeliveredAfterPruning).StaysHandled ∧
    ¬ ((PromptHistory.start ⟨1, true⟩).run
      (redeliveredAfterPruning ++ [(.ok (), sampleReceipt "prompt-1" 5)])).StaysHandled := by
  constructor
  · intro h
    exact absurd (h.notPending (samplePrompt "prompt-1" "body-1" 4) (by decide +kernel))
      (by decide +kernel)
  · intro h
    exact absurd (h.oneReceipt "prompt-1") (by decide +kernel)

end Oneshim.Integration
