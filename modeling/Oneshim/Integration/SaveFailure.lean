/-
  A registry write whose save fails
  (`oneshim-storage/src/integration_state_store/inner.rs`).

  Every call that changes the registry takes the lock, changes the registry in memory, and then
  saves it; an error of the save is returned with `?` or as the value of the call, and nothing takes
  the change back.  So memory and file part as soon as the call had something to change.

  1. **Calls** — `WriteCall`, all calls that save, and `WriteCall.outcome`, what the caller is told
     and the store it leaves.  A call either saves whatever the disk does (`WriteCall.Saves`) or
     answers without saving (`WriteCall.Idle`).

  2. **Deliveries** — the call with the most to leave alone: the stored prompts it names, the new
     ones it inserts, and the pruning that may take the new ones straight out again.

  3. **The condition** — `WriteCall.LeavesAlone` says for each call, of the registry before it, when
     there is nothing to change; these are the calls after which a failed save leaves memory as it
     was (`memory_kept_iff`).
-/
import Mathlib.Data.String.Basic
import Oneshim.Lib.Top
import Oneshim.Integration.StateStore

namespace Oneshim.Integration

open Lib

/-! ## Calls -/

/-- The calls of `FileIntegrationStateInner` that save the registry. -/
inductive WriteCall where
  | storeSession (state : IntegrationSessionState)
  | clearSession
  | enqueueOutbox (uuid : String) (now : DateTime) (envelope : IntegrationEnvelope)
      (payload : IntegrationOutboundPayload)
  | deleteOutbox (queueIds : List String)
  | storeOutboxAckCursor (cursor : IntegrationAckCursor)
  | upsertInbox (prompts : List StoredProactivePrompt)
  | updateInboxStatus (now : DateTime) (promptId : String) (status : IntegrationInboxItemStatus)
      (reason : Option String)
  | recordPromptReceipt (uuid : String) (now : DateTime) (promptId : String)
      (envelope : IntegrationEnvelope) (receipt : IntegrationPromptReceipt)
  | markPresented (promptId : String) (presentedAt : DateTime)
  | expireInbox (now : DateTime)
  | storeInboxAckCursor (cursor : IntegrationAckCursor)
  | storeCheckpoint (checkpoint cursor : String)
  | recordAudit (record : IntegrationInsightAuditRecord)

/-- The end of a call, whatever the value it returns. -/
def ended {α : Type} (result : Except StorageError α × FileIntegrationStateInner) :
    Except StorageError Unit × FileIntegrationStateInner :=
  (result.1.map fun _ => (), result.2)

namespace WriteCall

/-- How the call ends, and the store after it. -/
def outcome (self : FileIntegrationStateInner) (disk : Except StorageError Unit) :
    WriteCall → Except StorageError Unit × FileIntegrationStateInner
  | storeSession state => self.storeSessionSync disk state
  | clearSession => self.clearSessionSync disk
  | enqueueOutbox uuid now envelope payload =>
    ended (self.enqueueOutboxSync disk uuid now envelope payload)
  | deleteOutbox queueIds => self.deleteOutboxSync disk queueIds
  | storeOutboxAckCursor cursor => self.storeOutboxAckCursorSync disk cursor
  | upsertInbox prompts => self.upsertInboxSync disk prompts
  | updateInboxStatus now promptId status reason =>
    self.updateInboxStatusSync disk now promptId status reason
  | recordPromptReceipt uuid now promptId envelope receipt =>
    ended (self.recordPromptReceiptSync disk uuid now promptId envelope receipt)
  | markPresented promptId presentedAt => self.markPresentedSync disk promptId presentedAt
  | expireInbox now => ended (self.expireInboxSync disk now)
  | storeInboxAckCursor cursor => self.storeInboxAckCursorSync disk cursor
  | storeCheckpoint checkpoint cursor => self.storeCheckpointSync disk checkpoint cursor
  | recordAudit record => self.recordAuditSync disk record

/-- The call returns `e` because saving failed: where the save succeeds, it returns `Ok`. -/
def SaveFails (self : FileIntegrationStateInner) (call : WriteCall) (e : StorageError) : Prop :=
  (call.outcome self (.error e)).1 = .error e ∧ (call.outcome self (.ok ())).1 = .ok ()

/-- The call changes the registry to `memory` and saves it. -/
def Saves (self : FileIntegrationStateInner) (call : WriteCall)
    (memory : FileIntegrationStateRegistry) : Prop :=
  ∀ disk, call.outcome self disk = (disk, (self.commit disk memory ()).2)

/-- The call ends without a save: it is refused, or there is nothing to do. -/
def Idle (self : FileIntegrationStateInner) (call : WriteCall) : Prop :=
  ∃ answer, ∀ disk, call.outcome self disk = (answer, self)

/-- Memory after a failed save. -/
def MemoryKept (self : FileIntegrationStateInner) (call : WriteCall) (e : StorageError) : Prop :=
  SaveFails self call e → (call.outcome self (.error e)).2.registry.memory = self.registry.memory

variable {self : FileIntegrationStateInner} {call : WriteCall} {e : StorageError}
  {memory : FileIntegrationStateRegistry}

theorem Idle.memoryKept (h : Idle self call) : MemoryKept self call e := by
  obtain ⟨answer, houtcome⟩ := h
  intro _
  rw [houtcome]

/-- **A failed save keeps what the call changed.** -/
theorem Saves.memoryKept_iff (h : Saves self call memory) :
    MemoryKept self call e ↔ memory = self.registry.memory := by
  have hfails : SaveFails self call e := ⟨by rw [h], by rw [h]⟩
  have hmemory : (call.outcome self (.error e)).2.registry.memory = memory := by
    rw [h]
    rfl
  constructor
  · intro hkept
    exact hmemory.symm.trans (hkept hfails)
  · intro hsame _
    exact hmemory.trans hsame

theorem ended_commit {α : Type} (self : FileIntegrationStateInner)
    (disk : Except StorageError Unit) (memory : FileIntegrationStateRegistry) (value : α) :
    ended (self.commit disk memory value) = (disk, (self.commit disk memory ()).2) := by
  cases disk with
  | ok _ => rfl
  | error _ => rfl

theorem commit_eq (self : FileIntegrationStateInner) (disk : Except StorageError Unit)
    (memory : FileIntegrationStateRegistry) :
    self.commit disk memory () = (disk, (self.commit disk memory ()).2) := by
  cases disk with
  | ok _ => rfl
  | error _ => rfl

end WriteCall

/-! ## Deliveries -/

variable {prompt : StoredProactivePrompt}

namespace Inbox

/-- The last prompt given under the id. -/
def lastGiven (prompts : List StoredProactivePrompt) (promptId : String) :
    Option StoredProactivePrompt :=
  prompts.reverse.find? fun prompt => prompt.key = promptId

/-- The first prompt given under the id. -/
def firstGiven (prompts : List StoredProactivePrompt) (promptId : String) :
    Option StoredProactivePrompt :=
  prompts.find? fun prompt => prompt.key = promptId

/-- The deliveries under its id leave the stored prompt as it is: the last of them brings the
    content that is stored, and none brings a time of presentation to a prompt without one. -/
def Untouched (prompts : List StoredProactivePrompt) (stored : StoredProactivePrompt) : Prop :=
  (∀ prompt, lastGiven prompts stored.key = some prompt → prompt.prompt = stored.prompt) ∧
  (stored.presentedAt = none → ∀ prompt ∈ prompts, prompt.key = stored.key →
    prompt.presentedAt = none)

/-- The order in which prompts are pruned: handled before pending, then by time of receipt, and by
    id where both are the same. -/
def GoesFirst (a b : StoredProactivePrompt) : Prop :=
  ((a.status == .pending) = false ∧ (b.status == .pending) = true) ∨
  ((a.status == .pending) = (b.status == .pending) ∧
    (a.receivedAt < b.receivedAt ∨ (a.receivedAt = b.receivedAt ∧ a.key < b.key)))

/-- The deliveries leave the inbox as it is.  New prompts among them are inserted as they first came
    and must be pruned again, all of them and before any stored one. -/
def LeftAlone (policy : IntegrationStateStorePolicy) (inbox : Inbox)
    (prompts : List StoredProactivePrompt) : Prop :=
  inbox.rows.length ≤ max policy.maxStoredPrompts 1 ∧
  (∀ stored ∈ inbox.rows, Untouched prompts stored) ∧
  ∀ prompt, firstGiven prompts prompt.key = some prompt → inbox.find? prompt.key = none →
    inbox.rows.length = max policy.maxStoredPrompts 1 ∧
    ∀ stored ∈ inbox.rows, GoesFirst prompt stored

/-- What one delivery makes of a prompt that is stored. -/
def redeliver (stored prompt : StoredProactivePrompt) : StoredProactivePrompt :=
  if prompt.key = stored.key then
    { stored with
      prompt := prompt.prompt
      presentedAt := stored.presentedAt.or prompt.presentedAt }
  else stored

theorem key_redeliver (stored prompt : StoredProactivePrompt) :
    (redeliver stored prompt).key = stored.key := by
  unfold redeliver
  split
  · next h => exact h
  · rfl

theorem lastGiven_cons (prompt : StoredProactivePrompt) (prompts : List StoredProactivePrompt)
    (promptId : String) :
    lastGiven (prompt :: prompts) promptId =
      (lastGiven prompts promptId).or (if prompt.key = promptId then some prompt else none) := by
  unfold lastGiven
  rw [List.reverse_cons, List.find?_append]
  by_cases hkey : prompt.key = promptId
  · simp [hkey]
  · simp [hkey]

/-- The first time of presentation that is brought, unless there is one already. -/
def presentation (prompts : List StoredProactivePrompt) (promptId : String)
    (presentedAt : Option DateTime) : Option DateTime :=
  prompts.foldl
    (fun presentedAt prompt =>
      if prompt.key = promptId then presentedAt.or prompt.presentedAt else presentedAt) presentedAt

theorem presentation_some (prompts : List StoredProactivePrompt) (promptId : String)
    (at' : DateTime) : presentation prompts promptId (some at') = some at' := by
  unfold presentation
  induction prompts with
  | nil => rfl
  | cons prompt prompts ih =>
    rw [List.foldl_cons]
    split
    · exact ih
    · exact ih

/-- No presentation is on record when no row of the prompt has one. -/
theorem presentation_none_iff (prompts : List StoredProactivePrompt) (promptId : String) :
    presentation prompts promptId none = none ↔
      ∀ prompt ∈ prompts, prompt.key = promptId → prompt.presentedAt = none := by
  induction prompts with
  | nil => simp [presentation]
  | cons prompt prompts ih =>
    rw [List.forall_mem_cons, ← ih]
    show presentation prompts promptId
      (if prompt.key = promptId then Option.or none prompt.presentedAt else none) = none ↔ _
    by_cases hkey : prompt.key = promptId
    · rw [if_pos hkey, Option.none_or]
      cases hat : prompt.presentedAt with
      | none => simp
      | some at' => simp [presentation_some, hkey]
    · simp [hkey]

/-- **What the deliveries make of a stored prompt.** -/
theorem foldl_redeliver (prompts : List StoredProactivePrompt) (stored : StoredProactivePrompt) :
    prompts.foldl redeliver stored =
      { stored with
        prompt := ((lastGiven prompts stored.key).map (·.prompt)).getD stored.prompt
        presentedAt := presentation prompts stored.key stored.presentedAt } := by
  induction prompts generalizing stored with
  | nil => rfl
  | cons prompt prompts ih =>
    rw [List.foldl_cons, ih, key_redeliver, lastGiven_cons]
    show _ = { stored with
      prompt := _
      presentedAt := presentation prompts stored.key
        (if prompt.key = stored.key then stored.presentedAt.or prompt.presentedAt
          else stored.presentedAt) }
    unfold redeliver
    by_cases hkey : prompt.key = stored.key
    · rw [if_pos hkey, if_pos hkey, if_pos hkey]
      cases lastGiven prompts stored.key with
      | none => rfl
      | some last => rfl
    · rw [if_neg hkey, if_neg hkey, if_neg hkey, Option.or_none]

theorem key_foldl_redeliver (prompts : List StoredProactivePrompt)
    (stored : StoredProactivePrompt) : (prompts.foldl redeliver stored).key = stored.key := by
  induction prompts generalizing stored with
  | nil => rfl
  | cons prompt prompts ih => exact (ih _).trans (key_redeliver stored prompt)

theorem foldl_redeliver_eq_self_iff (prompts : List StoredProactivePrompt)
    (stored : StoredProactivePrompt) :
    prompts.foldl redeliver stored = stored ↔ Untouched prompts stored := by
  obtain ⟨content, receivedAt, status, statusUpdatedAt, presentedAt, dismissReason⟩ := stored
  rw [foldl_redeliver]
  simp only [StoredProactivePrompt.mk.injEq, and_true, true_and, Untouched]
  apply and_congr
  · cases lastGiven prompts _ with
    | none => simp
    | some last => simp
  · cases presentedAt with
    | none => simp only [presentation_none_iff, true_imp_iff]
    | some at' => simp [presentation_some]

variable {inbox : Inbox}

/-- A prompt that is stored already is delivered again, in its place. -/
theorem rows_upsertPrompt_of_stored {prompt existing : StoredProactivePrompt}
    (h : inbox.find? prompt.key = some existing) :
    (inbox.upsertPrompt prompt).rows = inbox.rows.map (redeliver · prompt) := by
  obtain ⟨hmem, hkey⟩ := Table.find?_eq_some_iff.mp h
  have hupsert : inbox.upsertPrompt prompt = inbox.upsert (redeliver existing prompt) := by
    unfold upsertPrompt redeliver
    rw [h, if_pos hkey.symm]
  have hfind : inbox.find? (redeliver existing prompt).key = some existing := by
    rw [key_redeliver, hkey, h]
  rw [hupsert, Table.rows_upsert_of_stored hfind]
  apply List.map_congr_left
  intro row hrow
  by_cases hsame : row.key = existing.key
  · rw [if_pos (hsame.trans (key_redeliver existing prompt).symm),
      Table.eq_of_key_eq hrow hmem hsame]
  · rw [if_neg (fun h => hsame (h.trans (key_redeliver existing prompt)))]
    show row = redeliver row prompt
    rw [redeliver, if_neg (fun h => hsame (h.symm.trans hkey.symm))]

theorem rows_upsertPrompt_of_fresh (h : inbox.find? prompt.key = none) :
    (inbox.upsertPrompt prompt).rows = inbox.rows ++ [prompt] := by
  have hupsert : inbox.upsertPrompt prompt = inbox.upsert prompt := by
    unfold upsertPrompt
    rw [h]
  rw [hupsert, Table.rows_upsert_of_fresh h]

theorem firstGiven_cons_of_ne {prompts : List StoredProactivePrompt} {promptId : String}
    (h : prompt.key ≠ promptId) :
    firstGiven (prompt :: prompts) promptId = firstGiven prompts promptId :=
  List.find?_cons_of_neg (by simpa using h)

theorem firstGiven_cons_self (prompt : StoredProactivePrompt)
    (prompts : List StoredProactivePrompt) :
    firstGiven (prompt :: prompts) prompt.key = some prompt :=
  List.find?_cons_of_pos (by simp)

/-- After an upsert a prompt is missing when it was, and is another one. -/
theorem find?_upsertPrompt_eq_none_iff {promptId : String} :
    (inbox.upsertPrompt prompt).find? promptId = none ↔
      inbox.find? promptId = none ∧ prompt.key ≠ promptId := by
  have hupsert : ∃ row, row.key = prompt.key ∧ inbox.upsertPrompt prompt = inbox.upsert row := by
    unfold upsertPrompt
    split
    · refine ⟨_, ?_, rfl⟩
      rfl
    · exact ⟨prompt, rfl, rfl⟩
  obtain ⟨row, hkey, hupsert⟩ := hupsert
  rw [hupsert, Table.find?_upsert, hkey]
  by_cases hsame : prompt.key = promptId
  · simp [hsame]
  · simp [hsame]

/-- **The inbox after deliveries**: the stored prompts stand where they stood, and the new ones come
    behind them. -/
theorem rows_foldl_upsertPrompt (prompts : List StoredProactivePrompt) (inbox : Inbox) :
    ∃ fresh : List StoredProactivePrompt,
      (prompts.foldl upsertPrompt inbox).rows =
        inbox.rows.map (prompts.foldl redeliver) ++ fresh ∧
      (∀ row ∈ fresh, inbox.find? row.key = none ∧
        ∃ prompt, firstGiven prompts row.key = some prompt ∧
          row.status = prompt.status ∧ row.receivedAt = prompt.receivedAt) ∧
      (∀ prompt, firstGiven prompts prompt.key = some prompt → inbox.find? prompt.key = none →
        ∃ row ∈ fresh, row.key = prompt.key) := by
  induction prompts generalizing inbox with
  | nil => exact ⟨[], by simp, by simp, fun prompt h => absurd h (by simp [firstGiven])⟩
  | cons prompt prompts ih =>
    obtain ⟨fresh, hrows, hfirst, hinserted⟩ := ih (inbox.upsertPrompt prompt)
    cases hfind : inbox.find? prompt.key with
    | some existing =>
      refine ⟨fresh, ?_, ?_, ?_⟩
      · rw [List.foldl_cons, hrows, rows_upsertPrompt_of_stored hfind, List.map_map]
        rfl
      · intro row hrow
        obtain ⟨hnone, first, hgiven, hsame⟩ := hfirst row hrow
        obtain ⟨hnone, hne⟩ := find?_upsertPrompt_eq_none_iff.mp hnone
        exact ⟨hnone, first, (firstGiven_cons_of_ne hne).trans hgiven, hsame⟩
      · intro other hother hnone
        have hne : prompt.key ≠ other.key := by
          intro h
          rw [← h, hfind] at hnone
          exact absurd hnone (by simp)
        rw [firstGiven_cons_of_ne hne] at hother
        exact hinserted other hother (find?_upsertPrompt_eq_none_iff.mpr ⟨hnone, hne⟩)
    | none =>
      -- the new entry comes right behind the stored ones, as the later deliveries leave it
      have hkey := key_foldl_redeliver prompts prompt
      refine ⟨prompts.foldl redeliver prompt :: fresh, ?_, ?_, ?_⟩
      · rw [List.foldl_cons, hrows, rows_upsertPrompt_of_fresh hfind, List.map_append,
          List.append_assoc]
        congr 1
        apply List.map_congr_left
        intro row hrow
        have hne : prompt.key ≠ row.key := (Table.find?_eq_none_iff.mp hfind row hrow).symm
        rw [List.foldl_cons, redeliver, if_neg hne]
      · intro row hrow
        rcases List.mem_cons.mp hrow with rfl | hrow
        · refine ⟨hkey ▸ hfind, prompt, hkey ▸ firstGiven_cons_self prompt prompts, ?_⟩
          rw [foldl_redeliver]
          exact ⟨rfl, rfl⟩
        · obtain ⟨hnone, first, hgiven, hsame⟩ := hfirst row hrow
          obtain ⟨hnone, hne⟩ := find?_upsertPrompt_eq_none_iff.mp hnone
          exact ⟨hnone, first, (firstGiven_cons_of_ne hne).trans hgiven, hsame⟩
      · intro other hother hnone
        by_cases hsame : prompt.key = other.key
        · exact ⟨_, List.mem_cons_self, hkey.trans hsame⟩
        · rw [firstGiven_cons_of_ne hsame] at hother
          obtain ⟨row, hrow, hrowkey⟩ :=
            hinserted other hother (find?_upsertPrompt_eq_none_iff.mpr ⟨hnone, hsame⟩)
          exact ⟨row, List.mem_cons_of_mem _ hrow, hrowkey⟩

/-- The candidates of the pruning, as prompts in the order they are taken. -/
def pruneOrder (inbox : Inbox) : List StoredProactivePrompt :=
  inbox.values.insertionSort fun a b =>
    Candidate.before ⟨a.status == .pending, a.receivedAt, a.key⟩
      ⟨b.status == .pending, b.receivedAt, b.key⟩

theorem pruneOrder_perm (inbox : Inbox) : inbox.pruneOrder.Perm inbox.rows :=
  (List.perm_insertionSort _ _).trans (List.perm_insertionSort _ _)

theorem before_total (a b : Candidate) : a.before b ∨ b.before a := by
  obtain ⟨p, s, i⟩ := a
  obtain ⟨q, t, j⟩ := b
  unfold Candidate.before
  rcases le_total s t with h | h
  · cases p with
    | true => cases q <;> simp [h]
    | false => cases q <;> simp [h]
  · cases p with
    | true => cases q <;> simp [h]
    | false => cases q <;> simp [h]

theorem before_trans (a b c : Candidate) (hab : a.before b) (hbc : b.before c) : a.before c := by
  obtain ⟨p, s, i⟩ := a
  obtain ⟨q, t, j⟩ := b
  obtain ⟨r, u, k⟩ := c
  unfold Candidate.before at hab hbc ⊢
  simp only at hab hbc ⊢
  rcases hab with ⟨hp, hq⟩ | ⟨hpq, hst⟩
  · rcases hbc with ⟨hq', -⟩ | ⟨hqr, -⟩
    · exact absurd (hq.symm.trans hq') (by decide)
    · exact .inl ⟨hp, hqr ▸ hq⟩
  · rcases hbc with ⟨hq, hr⟩ | ⟨hqr, htu⟩
    · exact .inl ⟨hpq.trans hq, hr⟩
    · exact .inr ⟨hpq.trans hqr, le_trans hst htu⟩

/-- **The order of the pruning** is `GoesFirst`: the sort is stable, and the prompts come to it by
    id. -/
theorem pairwise_pruneOrder (inbox : Inbox) : inbox.pruneOrder.Pairwise GoesFirst := by
  have hle : inbox.values.Pairwise fun a b => a.key ≤ b.key := by
    have : Std.Total fun a b : StoredProactivePrompt => a.key ≤ b.key :=
      ⟨fun a b => le_total a.key b.key⟩
    have : IsTrans StoredProactivePrompt fun a b => a.key ≤ b.key :=
      ⟨fun _ _ _ => le_trans⟩
    exact List.pairwise_insertionSort _ _
  have hne : inbox.values.Pairwise fun a b => a.key ≠ b.key := by
    have hnodup : (inbox.values.map (·.key)).Nodup :=
      ((List.perm_insertionSort _ inbox.rows).map _).nodup_iff.mpr inbox.nodup
    exact List.pairwise_map.mp hnodup
  have hkeys : inbox.values.Pairwise fun a b => a.key < b.key :=
    (hle.and hne).imp fun h => lt_of_le_of_ne h.1 h.2
  have hstable := Lib.insertionSort_stable
    (r := fun a b : StoredProactivePrompt =>
      Candidate.before ⟨a.status == .pending, a.receivedAt, a.key⟩
        ⟨b.status == .pending, b.receivedAt, b.key⟩)
    (fun a b => before_total _ _) (fun a b c => before_trans _ _ _) hkeys
  refine hstable.imp ?_
  rintro a b ⟨hpending | ⟨hpending, hreceived⟩, hties⟩
  · exact .inl hpending
  · refine .inr ⟨hpending, ?_⟩
    rcases lt_or_eq_of_le hreceived with hlt | heq
    · exact .inl hlt
    · exact .inr ⟨heq, hties (.inr ⟨hpending.symm, heq.ge⟩)⟩

/-- Of two prompts one goes first. -/
theorem GoesFirst.asymm {a b : StoredProactivePrompt} (hab : GoesFirst a b) : ¬ GoesFirst b a := by
  intro hba
  rcases hab with ⟨ha, hb⟩ | ⟨hpending, hab⟩
  · rcases hba with ⟨hb', -⟩ | ⟨hpending, -⟩
    · exact absurd (hb.symm.trans hb') (by decide)
    · exact absurd (hb.symm.trans (hpending.trans ha)) (by decide)
  · rcases hba with ⟨hb, ha⟩ | ⟨-, hba⟩
    · exact absurd (ha.symm.trans (hpending.trans hb)) (by decide)
    · rcases hab with hab | ⟨hreceived, hab⟩
      · rcases hba with hba | ⟨hreceived, -⟩
        · exact absurd hab (not_lt_of_gt hba)
        · exact absurd hab (hreceived ▸ lt_irrefl _)
      · rcases hba with hba | ⟨-, hba⟩
        · exact absurd hba (hreceived ▸ lt_irrefl _)
        · exact absurd hab (not_lt_of_gt hba)

/-- What is pruned is gone, and the others stay in order. -/
theorem rows_foldl_remove (pruned : List StoredProactivePrompt) (inbox : Inbox) :
    (pruned.foldl (fun inbox prompt => Table.remove inbox prompt.key) inbox).rows =
      inbox.rows.filter fun row => row.key ∉ pruned.map (·.key) := by
  induction pruned generalizing inbox with
  | nil => simp
  | cons prompt pruned ih =>
    rw [List.foldl_cons, ih]
    show (inbox.rows.filter _).filter _ = _
    rw [List.filter_filter]
    apply List.filter_congr
    intro row _
    rw [List.map_cons]
    simp only [List.mem_cons, not_or, ← Bool.decide_and, decide_eq_decide]
    exact and_comm

/-- What the pruning leaves of an inbox that is too long. -/
theorem rows_pruneInboxLocked {policy : IntegrationStateStorePolicy}
    (h : ¬ inbox.rows.length ≤ max policy.maxStoredPrompts 1) :
    (inbox.pruneInboxLocked policy).rows =
      inbox.rows.filter fun row =>
        row.key ∉ (inbox.pruneOrder.take
          (inbox.rows.length - max policy.maxStoredPrompts 1)).map (·.key) := by
  unfold pruneInboxLocked
  simp only
  rw [if_neg h, ← List.map_insertionSort
    (r := fun a b : StoredProactivePrompt =>
      Candidate.before ⟨a.status == .pending, a.receivedAt, a.key⟩
        ⟨b.status == .pending, b.receivedAt, b.key⟩) _ _ _ (fun a _ b _ => Iff.rfl),
    ← List.map_take, List.foldl_map]
  exact rows_foldl_remove _ inbox

/-- As many are left as there may be, and they are the last ones in the order of the pruning. -/
theorem rows_pruneInboxLocked_perm {policy : IntegrationStateStorePolicy}
    (h : ¬ inbox.rows.length ≤ max policy.maxStoredPrompts 1) :
    (inbox.pruneInboxLocked policy).rows.Perm
      (inbox.pruneOrder.drop (inbox.rows.length - max policy.maxStoredPrompts 1)) := by
  rw [rows_pruneInboxLocked h]
  generalize inbox.rows.length - max policy.maxStoredPrompts 1 = overflow
  refine ((pruneOrder_perm inbox).symm.filter _).trans ?_
  have hnodup : (inbox.pruneOrder.map (·.key)).Nodup :=
    ((pruneOrder_perm inbox).map _).nodup_iff.mpr inbox.nodup
  rw [← List.take_append_drop overflow inbox.pruneOrder, List.map_append] at hnodup
  obtain ⟨-, -, hdisjoint⟩ := List.nodup_append.mp hnodup
  have hgone : (inbox.pruneOrder.take overflow).filter
      (fun row => row.key ∉ (inbox.pruneOrder.take overflow).map (·.key)) = [] := by
    apply List.filter_eq_nil_iff.mpr
    intro row hrow
    simp only [decide_eq_true_eq, not_not]
    exact List.mem_map_of_mem hrow
  have hleft : (inbox.pruneOrder.drop overflow).filter
      (fun row => row.key ∉ (inbox.pruneOrder.take overflow).map (·.key)) =
        inbox.pruneOrder.drop overflow := by
    apply List.filter_eq_self.mpr
    intro row hrow
    apply decide_eq_true
    intro hkey
    exact hdisjoint _ hkey _ (List.mem_map_of_mem hrow) rfl
  have hsplit := List.filter_append (p := fun row : StoredProactivePrompt =>
    decide (row.key ∉ (inbox.pruneOrder.take overflow).map (·.key)))
    (inbox.pruneOrder.take overflow) (inbox.pruneOrder.drop overflow)
  rw [List.take_append_drop, hgone, hleft, List.nil_append] at hsplit
  rw [hsplit]

theorem pruneInboxLocked_of_le {policy : IntegrationStateStorePolicy}
    (h : inbox.rows.length ≤ max policy.maxStoredPrompts 1) :
    inbox.pruneInboxLocked policy = inbox := by
  unfold pruneInboxLocked
  simp only
  rw [if_pos h]

section Deliveries

variable {policy : IntegrationStateStorePolicy} {inbox : Inbox}
  {prompts fresh : List StoredProactivePrompt}

/-- The pruning looks at status, time of receipt and id. -/
theorem GoesFirst.of_eq {a a' b : StoredProactivePrompt} (h : GoesFirst a b)
    (hkey : a'.key = a.key) (hstatus : a'.status = a.status)
    (hreceived : a'.receivedAt = a.receivedAt) : GoesFirst a' b := by
  unfold GoesFirst at h ⊢
  rw [hkey, hstatus, hreceived]
  exact h

/-- New entries behind the stored ones that go before all of them go at once. -/
theorem pruneInboxLocked_append {delivered : Inbox} (hrows : delivered.rows = inbox.rows ++ fresh)
    (hfresh : ∀ row ∈ fresh, inbox.find? row.key = none)
    (hlength : inbox.rows.length = max policy.maxStoredPrompts 1)
    (hfirst : ∀ row ∈ fresh, ∀ stored ∈ inbox.rows, GoesFirst row stored) :
    delivered.pruneInboxLocked policy = inbox := by
  have hnew : ∀ row ∈ delivered.rows, (inbox.find? row.key).isNone = true → row ∈ fresh := by
    intro row hrow hnone
    rw [hrows] at hrow
    refine (List.mem_append.mp hrow).resolve_left (fun hold => ?_)
    exact Table.find?_eq_none_iff.mp (Option.isNone_iff_eq_none.mp hnone) row hold rfl
  have hold : ∀ row ∈ delivered.rows, (inbox.find? row.key).isNone = false → row ∈ inbox.rows := by
    intro row hrow hsome
    rw [hrows] at hrow
    refine (List.mem_append.mp hrow).resolve_right (fun hnew => ?_)
    rw [hfresh row hnew] at hsome
    exact absurd hsome (by decide)
  have hperm := pruneOrder_perm delivered
  -- the new entries in front, the stored ones behind them
  have horder : delivered.pruneOrder =
      delivered.pruneOrder.filter (fun row => (inbox.find? row.key).isNone) ++
        delivered.pruneOrder.filter (fun row => !(inbox.find? row.key).isNone) := by
    have hsorted := pairwise_pruneOrder delivered
    refine (List.filter_append_perm _ delivered.pruneOrder).symm.eq_of_pairwise
      (fun a b _ _ hab hba => absurd hba hab.asymm) hsorted
      (List.pairwise_append.mpr ⟨hsorted.filter _, hsorted.filter _, ?_⟩)
    intro row hrow stored hstored
    obtain ⟨hrow, hnone⟩ := List.mem_filter.mp hrow
    obtain ⟨hstored, hsome⟩ := List.mem_filter.mp hstored
    exact hfirst row (hnew row (hperm.mem_iff.mp hrow) hnone) stored
      (hold stored (hperm.mem_iff.mp hstored) (by simpa using hsome))
  have hcount : (delivered.pruneOrder.filter fun row => (inbox.find? row.key).isNone).length =
      fresh.length := by
    rw [(hperm.filter _).length_eq, hrows, List.filter_append, List.filter_eq_nil_iff.mpr,
      List.filter_eq_self.mpr, List.nil_append]
    · intro row hrow
      rw [hfresh row hrow]
      rfl
    · intro row hrow
      rw [Table.find?_key hrow]
      simp
  have hlong : delivered.rows.length = max policy.maxStoredPrompts 1 + fresh.length := by
    rw [hrows, List.length_append, hlength]
  by_cases hle : delivered.rows.length ≤ max policy.maxStoredPrompts 1
  · -- there is no new entry
    have hnil : fresh = [] := List.length_eq_zero_iff.mp (by omega)
    rw [pruneInboxLocked_of_le hle]
    apply Table.ext
    rw [hrows, hnil, List.append_nil]
  · apply Table.ext
    rw [rows_pruneInboxLocked hle, hlong, Nat.add_sub_cancel_left, horder, ← hcount, List.take_left,
      hrows, List.filter_append, List.filter_eq_self.mpr, List.filter_eq_nil_iff.mpr,
      List.append_nil]
    · intro row hrow
      simp only [decide_eq_true_eq, not_not]
      refine List.mem_map_of_mem (List.mem_filter.mpr ⟨?_, ?_⟩)
      · exact hperm.mem_iff.mpr (hrows ▸ List.mem_append_right _ hrow)
      · rw [hfresh row hrow]
        rfl
    · intro row hrow
      apply decide_eq_true
      intro hkey
      obtain ⟨other, hother, hsame⟩ := List.mem_map.mp hkey
      have hnone := (List.mem_filter.mp hother).2
      rw [show other.key = row.key from hsame, Table.find?_key hrow] at hnone
      exact absurd hnone (by simp)

end Deliveries

/-- **When deliveries leave the inbox as it is.** -/
theorem upserted_eq_self_iff (policy : IntegrationStateStorePolicy) (inbox : Inbox)
    (prompts : List StoredProactivePrompt) :
    pruneInboxLocked policy (prompts.foldl upsertPrompt inbox) = inbox ↔
      LeftAlone policy inbox prompts := by
  obtain ⟨fresh, hrows, hfresh, hinserted⟩ := rows_foldl_upsertPrompt prompts inbox
  generalize prompts.foldl upsertPrompt inbox = delivered at hrows
  constructor
  · intro hsame
    by_cases hle : delivered.rows.length ≤ max policy.maxStoredPrompts 1
    · -- nothing is pruned, so nothing came
      rw [pruneInboxLocked_of_le hle] at hsame
      subst hsame
      have hnil : fresh = [] := by
        have hlength := congrArg List.length hrows
        rw [List.length_append, List.length_map] at hlength
        exact List.length_eq_zero_iff.mp (by omega)
      subst hnil
      rw [List.append_nil] at hrows
      refine ⟨hle, fun stored hstored => ?_, fun prompt hgiven hnone => ?_⟩
      · apply (foldl_redeliver_eq_self_iff prompts stored).mp
        refine Table.eq_of_key_eq (t := delivered) ?_ hstored (key_foldl_redeliver prompts stored)
        rw [hrows]
        exact List.mem_map_of_mem hstored
      · obtain ⟨row, hrow, -⟩ := hinserted prompt hgiven hnone
        exact absurd hrow List.not_mem_nil
    · have hperm := rows_pruneInboxLocked_perm hle
      rw [hsame] at hperm
      have hlength : inbox.rows.length = max policy.maxStoredPrompts 1 := by
        rw [hperm.length_eq, List.length_drop, (pruneOrder_perm delivered).length_eq]
        omega
      have hmem : ∀ stored ∈ inbox.rows, stored ∈ delivered.rows := fun stored hstored =>
        (pruneOrder_perm delivered).mem_iff.mp (List.mem_of_mem_drop (hperm.mem_iff.mp hstored))
      refine ⟨hlength.le, fun stored hstored => ?_, fun prompt hgiven hnone => ⟨hlength, ?_⟩⟩
      · apply (foldl_redeliver_eq_self_iff prompts stored).mp
        refine Table.eq_of_key_eq (t := delivered) ?_ (hmem stored hstored)
          (key_foldl_redeliver prompts stored)
        rw [hrows]
        exact List.mem_append_left _ (List.mem_map_of_mem hstored)
      · intro stored hstored
        obtain ⟨row, hrow, hkey⟩ := hinserted prompt hgiven hnone
        obtain ⟨hrownone, first, hfirst, hstatus, hreceived⟩ := hfresh row hrow
        -- the new entry is pruned and the stored one is not
        have htaken : row ∈ delivered.pruneOrder.take
            (delivered.rows.length - max policy.maxStoredPrompts 1) := by
          have horder : row ∈ delivered.pruneOrder :=
            (pruneOrder_perm delivered).mem_iff.mpr (hrows ▸ List.mem_append_right _ hrow)
          rw [← List.take_append_drop (delivered.rows.length - max policy.maxStoredPrompts 1)
            delivered.pruneOrder] at horder
          refine (List.mem_append.mp horder).resolve_right (fun hdrop => ?_)
          exact Table.find?_eq_none_iff.mp hrownone row (hperm.mem_iff.mpr hdrop) rfl
        have hsorted := pairwise_pruneOrder delivered
        rw [← List.take_append_drop (delivered.rows.length - max policy.maxStoredPrompts 1)
          delivered.pruneOrder] at hsorted
        have hbefore := (List.pairwise_append.mp hsorted).2.2 row htaken stored
          (hperm.mem_iff.mp hstored)
        rw [hkey, hgiven] at hfirst
        obtain rfl := Option.some.inj hfirst
        exact hbefore.of_eq hkey.symm hstatus.symm hreceived.symm
  · rintro ⟨hle, huntouched, hnew⟩
    have hkept : inbox.rows.map (prompts.foldl redeliver) = inbox.rows := by
      conv_rhs => rw [← List.map_id inbox.rows]
      exact List.map_congr_left fun stored hstored =>
        (foldl_redeliver_eq_self_iff prompts stored).mpr (huntouched stored hstored)
    rw [hkept] at hrows
    -- what is known of the first prompt given under an id is known of the entry
    have hentry : ∀ row ∈ fresh, inbox.rows.length = max policy.maxStoredPrompts 1 ∧
        ∀ stored ∈ inbox.rows, GoesFirst row stored := by
      intro row hrow
      obtain ⟨hnone, first, hfirst, hstatus, hreceived⟩ := hfresh row hrow
      have hkey : first.key = row.key := by simpa using List.find?_some hfirst
      obtain ⟨hlength, hbefore⟩ := hnew first (hkey ▸ hfirst) (hkey ▸ hnone)
      exact ⟨hlength, fun stored hstored =>
        (hbefore stored hstored).of_eq hkey.symm hstatus hreceived⟩
    cases fresh with
    | nil =>
      have hsame : delivered = inbox := Table.ext (by rw [hrows, List.append_nil])
      rw [hsame, pruneInboxLocked_of_le hle]
    | cons row fresh =>
      exact pruneInboxLocked_append hrows (fun row hrow => (hfresh row hrow).1)
        (hentry row List.mem_cons_self).1 (fun row hrow => (hentry row hrow).2)

end Inbox

/-! ## The condition -/

namespace WriteCall

open FileIntegrationStateInner

/-- **The call has nothing to change** in the registry it finds. -/
def LeavesAlone (self : FileIntegrationStateInner) : WriteCall → Prop
  | storeSession state => self.registry.memory.session = some state
  | clearSession => self.registry.memory.session = none
  | enqueueOutbox .. => False
  | deleteOutbox queueIds => ∀ item ∈ self.registry.memory.outbox, item.queueId ∉ queueIds
  | storeOutboxAckCursor cursor => self.registry.memory.outboxAckCursor = some cursor
  | upsertInbox prompts => self.registry.memory.inbox.LeftAlone self.policy prompts
  | updateInboxStatus now promptId status reason =>
    ∀ prompt, self.registry.memory.inbox.find? promptId = some prompt →
      prompt.status = status ∧ prompt.statusUpdatedAt = now ∧ prompt.dismissReason = reason ∧
        (self.policy.redactCompletedPromptBodies = true → status ≠ .pending →
          prompt.prompt.body = "")
  | recordPromptReceipt _ _ promptId _ receipt =>
    receipt.promptId = promptId →
      ∀ prompt, self.registry.memory.inbox.find? promptId = some prompt → prompt.status ≠ .pending
  | markPresented promptId presentedAt =>
    ∀ prompt, self.registry.memory.inbox.find? promptId = some prompt →
      prompt.presentedAt = some presentedAt
  | expireInbox now => ∀ prompt ∈ self.registry.memory.inbox.rows, hasExpired now prompt = false
  | storeInboxAckCursor cursor => self.registry.memory.inboxAckCursor = some cursor
  | storeCheckpoint checkpoint cursor => self.loadCheckpointSync checkpoint = some cursor
  | recordAudit record =>
    self.registry.memory.auditRecords = List.replicate maxAuditRecords record

variable {self : FileIntegrationStateInner} {e : StorageError}

/-- When the redaction changes nothing. -/
theorem redactPromptBodyIfNeeded_eq_self_iff (policy : IntegrationStateStorePolicy)
    (prompt : StoredProactivePrompt) (status : IntegrationInboxItemStatus) :
    redactPromptBodyIfNeeded policy prompt status = prompt ↔
      (policy.redactCompletedPromptBodies = true → status ≠ .pending →
        prompt.prompt.body = "") := by
  obtain ⟨content, receivedAt, old, statusUpdatedAt, presentedAt, dismissReason⟩ := prompt
  obtain ⟨promptId, category, title, body, priority, expiresAt, provenance⟩ := content
  unfold redactPromptBodyIfNeeded
  cases policy.redactCompletedPromptBodies with
  | false => simp
  | true =>
    by_cases hpending : status = .pending
    · simp [hpending]
    · simp only [Bool.true_and, bne_iff_ne, ne_eq, hpending, not_false_eq_true, if_true,
        StoredProactivePrompt.mk.injEq, ProactivePrompt.mk.injEq, and_true, true_and,
        true_imp_iff]
      exact eq_comm

/-- Another value in a field makes another registry. -/
theorem set_eq_self_iff {α : Type} {memory : FileIntegrationStateRegistry}
    (get : FileIntegrationStateRegistry → α) (set : α → FileIntegrationStateRegistry)
    (hget : ∀ a, get (set a) = a) (hset : set (get memory) = memory) (a : α) :
    set a = memory ↔ get memory = a := by
  constructor
  · intro h
    rw [← h]
    exact hget a
  · rintro rfl
    exact hset

theorem append_singleton_eq_cons {α : Type} {a b : α} {l : List α} (h : l ++ [b] = a :: l) :
    a :: l = List.replicate (l.length + 1) b := by
  induction l generalizing a with
  | nil =>
    obtain ⟨rfl, -⟩ := List.cons.inj h
    rfl
  | cons c l ih =>
    obtain ⟨rfl, htail⟩ := List.cons.inj h
    have hall := ih htail
    obtain ⟨rfl, -⟩ := List.cons.inj (hall.trans List.replicate_succ)
    rw [List.length_cons, List.replicate_succ, ← hall]

/-- A full trail of one record is the only one that a record leaves alone. -/
theorem drop_append_eq_self_iff {α : Type} {records : List α} {record : α} {limit : Nat}
    (hlimit : 0 < limit) :
    (records ++ [record]).drop ((records ++ [record]).length - limit) = records ↔
      records = List.replicate limit record := by
  constructor
  · intro h
    have hlength := congrArg List.length h
    rw [List.length_drop, List.length_append, List.length_singleton] at hlength
    have hfull : records.length = limit := by omega
    rw [List.length_append, List.length_singleton, hfull, Nat.add_sub_cancel_left] at h
    cases records with
    | nil => exact absurd hfull hlimit.ne
    | cons a l =>
      rw [← hfull]
      exact append_singleton_eq_cons h
  · intro h
    rw [h, ← List.replicate_succ', List.length_replicate, List.drop_replicate]
    congr 1
    omega

/-- A call that saves another value in a field. -/
theorem memoryKept_field_iff {α : Type} (call : WriteCall)
    (get : FileIntegrationStateRegistry → α) (set : α → FileIntegrationStateRegistry)
    (hget : ∀ a, get (set a) = a) (hset : set (get self.registry.memory) = self.registry.memory)
    (a : α) (hsaves : Saves self call (set a)) :
    MemoryKept self call e ↔ get self.registry.memory = a :=
  hsaves.memoryKept_iff.trans (set_eq_self_iff get set hget hset a)

/-- A call that saves another inbox. -/
theorem memoryKept_inbox_iff (call : WriteCall) (inbox : Inbox)
    (hsaves : Saves self call { self.registry.memory with inbox := inbox }) :
    MemoryKept self call e ↔ inbox = self.registry.memory.inbox :=
  (memoryKept_field_iff call (·.inbox) (fun inbox => { self.registry.memory with inbox })
    (fun _ => rfl) rfl inbox hsaves).trans eq_comm

/-- A call that saves a change of one stored prompt. -/
theorem memoryKept_prompt_iff {call : WriteCall} {promptId : String}
    (changed : StoredProactivePrompt)
    (hfind : self.registry.memory.inbox.find? promptId = some prompt)
    (hkey : changed.key = prompt.key)
    (hsaves : Saves self call
      { self.registry.memory with inbox := self.registry.memory.inbox.upsert changed }) :
    MemoryKept self call e ↔ changed = prompt := by
  rw [memoryKept_inbox_iff call _ hsaves, Table.upsert_eq_self_iff, hkey,
    (Table.find?_eq_some_iff.mp hfind).2, hfind, Option.some.injEq, eq_comm]

/-- A call on a prompt that is not stored. -/
theorem memoryKept_of_refused {call : WriteCall} {P : Prop} (answer : Except StorageError Unit)
    (hidle : ∀ disk, call.outcome self disk = (answer, self)) (hP : P) :
    MemoryKept self call e ↔ P :=
  iff_of_true (Idle.memoryKept ⟨answer, hidle⟩) hP

/-- When a new status, with its redaction, is no change. -/
theorem updated_eq_self_iff (policy : IntegrationStateStorePolicy)
    (prompt : StoredProactivePrompt) (now : DateTime) (status : IntegrationInboxItemStatus)
    (reason : Option String) :
    redactPromptBodyIfNeeded policy
        { prompt with status := status, statusUpdatedAt := now, dismissReason := reason } status =
      prompt ↔
      prompt.status = status ∧ prompt.statusUpdatedAt = now ∧ prompt.dismissReason = reason ∧
        (policy.redactCompletedPromptBodies = true → status ≠ .pending →
          prompt.prompt.body = "") := by
  constructor
  · intro h
    have hstatus := congrArg StoredProactivePrompt.status h
    have htime := congrArg StoredProactivePrompt.statusUpdatedAt h
    have hreason := congrArg StoredProactivePrompt.dismissReason h
    have hbody := congrArg (fun prompt => prompt.prompt.body) h
    unfold redactPromptBodyIfNeeded at hstatus htime hreason hbody
    split at hbody
    · next hredact =>
      rw [if_pos hredact] at hstatus htime hreason
      exact ⟨hstatus.symm, htime.symm, hreason.symm, fun _ _ => hbody.symm⟩
    · next hkeep =>
      rw [if_neg hkeep] at hstatus htime hreason
      refine ⟨hstatus.symm, htime.symm, hreason.symm, fun hredact hhandled => absurd ?_ hkeep⟩
      simp [hredact, hhandled]
  · rintro ⟨rfl, rfl, rfl, hbody⟩
    exact (redactPromptBodyIfNeeded_eq_self_iff policy prompt prompt.status).mpr hbody

/-- Memory survives a failed change of status only where the status is no change. -/
theorem updateInboxStatus_kept_iff (self : FileIntegrationStateInner) (now : DateTime)
    (promptId : String) (status : IntegrationInboxItemStatus) (reason : Option String)
    (e : StorageError) :
    MemoryKept self (.updateInboxStatus now promptId status reason) e ↔
      LeavesAlone self (.updateInboxStatus now promptId status reason) := by
  simp only [LeavesAlone]
  cases hfind : self.registry.memory.inbox.find? promptId with
  | none =>
    refine memoryKept_of_refused (.error (promptNotFound promptId)) (fun disk => ?_)
      (fun prompt h => absurd h (by simp))
    simp only [outcome, updateInboxStatusSync, hfind]
  | some prompt =>
    rw [memoryKept_prompt_iff _ hfind (key_redactPromptBodyIfNeeded self.policy
      { prompt with status := status, statusUpdatedAt := now, dismissReason := reason } status)]
    · rw [updated_eq_self_iff]
      simp only [Option.some.injEq, forall_eq']
    · intro disk
      simp only [outcome, updateInboxStatusSync, hfind]
      exact commit_eq self disk _

/-- A receipt that cannot be saved is in memory nevertheless, unless it changes nothing. -/
theorem recordPromptReceipt_kept_iff (self : FileIntegrationStateInner) (uuid : String)
    (now : DateTime) (promptId : String) (envelope : IntegrationEnvelope)
    (receipt : IntegrationPromptReceipt) (e : StorageError) :
    MemoryKept self (.recordPromptReceipt uuid now promptId envelope receipt) e ↔
      LeavesAlone self (.recordPromptReceipt uuid now promptId envelope receipt) := by
  simp only [LeavesAlone]
  by_cases hid : receipt.promptId = promptId
  · subst hid
    cases hfind : self.registry.memory.inbox.find? receipt.promptId with
    | none =>
      refine memoryKept_of_refused (.error (promptNotFound receipt.promptId)) (fun disk => ?_)
        (fun _ prompt h => absurd h (by simp))
      simp only [outcome, recordPromptReceiptSync, hfind]
      rw [if_neg (not_not.mpr rfl)]
      rfl
    | some prompt =>
      by_cases hpending : prompt.status = .pending
      · -- the receipt is queued, and that shows
        have hsaves : Saves self (.recordPromptReceipt uuid now receipt.promptId envelope receipt)
            { self.registry.memory with
              inbox := self.registry.memory.inbox.upsert (receiptPrompt self.policy prompt receipt)
              outbox := self.registry.memory.outbox ++
                [⟨queueId uuid, envelope, .promptReceipt receipt, now⟩] } := by
          intro disk
          simp only [outcome, recordPromptReceiptSync, hfind]
          rw [if_neg (not_not.mpr rfl), if_neg (not_not.mpr hpending)]
          exact ended_commit self disk _ _
        rw [hsaves.memoryKept_iff]
        refine iff_of_false (fun h => ?_) (fun h => h rfl prompt rfl hpending)
        have houtbox := congrArg (fun registry => registry.outbox.length) h
        simp only [List.length_append, List.length_singleton] at houtbox
        omega
      · refine memoryKept_of_refused (.error (.validation
          "integration.prompt_receipt.status"
          ("prompt receipts can only be recorded from the pending state, found " ++
            prompt.status.debug))) (fun disk => ?_) (fun _ other h => ?_)
        · simp only [outcome, recordPromptReceiptSync, hfind]
          rw [if_neg (not_not.mpr rfl), if_pos hpending]
          rfl
        · obtain rfl := Option.some.inj h
          exact hpending
  · refine memoryKept_of_refused (.error (.validation
      "integration.prompt_receipt.prompt_id"
      "prompt receipt prompt_id does not match the stored prompt target")) (fun disk => ?_)
      (fun h => absurd h hid)
    simp only [outcome, recordPromptReceiptSync]
    rw [if_pos hid]
    rfl

/-- Memory survives a failed presentation only where it is no change. -/
theorem markPresented_kept_iff (self : FileIntegrationStateInner) (promptId : String)
    (presentedAt : DateTime) (e : StorageError) :
    MemoryKept self (.markPresented promptId presentedAt) e ↔
      LeavesAlone self (.markPresented promptId presentedAt) := by
  simp only [LeavesAlone]
  cases hfind : self.registry.memory.inbox.find? promptId with
  | none =>
    refine memoryKept_of_refused (.error (promptNotFound promptId)) (fun disk => ?_)
      (fun prompt h => absurd h (by simp))
    simp only [outcome, markPresentedSync, hfind]
  | some prompt =>
    rw [memoryKept_prompt_iff { prompt with presentedAt := some presentedAt } hfind rfl]
    · simp only [Option.some.injEq, forall_eq']
      constructor
      · exact fun h => congrArg StoredProactivePrompt.presentedAt h.symm
      · intro h
        rw [← h]
    · intro disk
      simp only [outcome, markPresentedSync, hfind]
      exact commit_eq self disk _

/-- A prompt is left as it is exactly when it has not expired. -/
theorem expirePrompt_eq_self_iff (policy : IntegrationStateStorePolicy) (now : DateTime)
    (prompt : StoredProactivePrompt) :
    expirePrompt policy now prompt = prompt ↔ hasExpired now prompt = false := by
  unfold expirePrompt
  by_cases hexpired : hasExpired now prompt = true
  · rw [if_pos hexpired]
    refine iff_of_false (fun h => ?_) (by simp [hexpired])
    -- the prompt was pending and is expired
    have hpending : prompt.status = .pending := by
      unfold hasExpired at hexpired
      simpa using (Bool.and_eq_true_iff.mp hexpired).1
    have hstatus := (updated_eq_self_iff policy prompt now .expired prompt.dismissReason).mp h
    rw [hpending] at hstatus
    exact absurd hstatus.1 (by decide)
  · rw [if_neg hexpired]
    exact iff_of_true rfl (by simpa using hexpired)

/-- So are the prompts that expire. -/
theorem expireInbox_kept_iff (self : FileIntegrationStateInner) (now : DateTime)
    (e : StorageError) :
    MemoryKept self (.expireInbox now) e ↔ LeavesAlone self (.expireInbox now) := by
  simp only [LeavesAlone]
  by_cases hexpired : (self.registry.memory.inbox.rows.filter (hasExpired now)).length > 0
  · rw [memoryKept_inbox_iff (.expireInbox now) (self.registry.memory.inbox.mapRows
      (expirePrompt self.policy now) (key_expirePrompt self.policy now))]
    · have hrows : self.registry.memory.inbox.mapRows (expirePrompt self.policy now)
          (key_expirePrompt self.policy now) = self.registry.memory.inbox ↔
          self.registry.memory.inbox.rows.map (expirePrompt self.policy now) =
            self.registry.memory.inbox.rows.map id := by
        rw [List.map_id]
        exact ⟨fun h => congrArg Table.rows h, fun h => Table.ext h⟩
      rw [hrows, List.map_inj_left]
      simp only [id, expirePrompt_eq_self_iff]
    · intro disk
      simp only [outcome, expireInboxSync, if_pos hexpired]
      exact ended_commit self disk _ _
  · refine memoryKept_of_refused (.ok ()) (fun disk => ?_) (fun prompt hprompt => ?_)
    · simp only [outcome, expireInboxSync, if_neg hexpired]
      rfl
    · have hnil := List.length_eq_zero_iff.mp (Nat.eq_zero_of_not_pos hexpired)
      simpa using List.filter_eq_nil_iff.mp hnil prompt hprompt

/-- **After a failed save memory is as it was** exactly when the call had nothing to change. -/
theorem memory_kept_iff (self : FileIntegrationStateInner) (call : WriteCall) (e : StorageError) :
    MemoryKept self call e ↔ LeavesAlone self call := by
  cases call with
  | storeSession state =>
    exact memoryKept_field_iff (.storeSession state) (·.session)
      (fun session => { self.registry.memory with session }) (fun _ => rfl) rfl (some state)
      (fun disk => commit_eq self disk _)
  | clearSession =>
    exact memoryKept_field_iff .clearSession (·.session)
      (fun session => { self.registry.memory with session }) (fun _ => rfl) rfl none
      (fun disk => commit_eq self disk _)
  | storeOutboxAckCursor cursor =>
    exact memoryKept_field_iff (.storeOutboxAckCursor cursor) (·.outboxAckCursor)
      (fun outboxAckCursor => { self.registry.memory with outboxAckCursor }) (fun _ => rfl) rfl
      (some cursor)
      (fun disk => commit_eq self disk _)
  | storeInboxAckCursor cursor =>
    exact memoryKept_field_iff (.storeInboxAckCursor cursor) (·.inboxAckCursor)
      (fun inboxAckCursor => { self.registry.memory with inboxAckCursor }) (fun _ => rfl) rfl
      (some cursor)
      (fun disk => commit_eq self disk _)
  | enqueueOutbox uuid now envelope payload =>
    refine (memoryKept_field_iff (.enqueueOutbox uuid now envelope payload) (·.outbox)
      (fun outbox => { self.registry.memory with outbox }) (fun _ => rfl) rfl
      (self.registry.memory.outbox ++
        [QueuedIntegrationEgressMessage.mk (queueId uuid) envelope payload now])
      (fun disk => ended_commit self disk _ _)).trans ?_
    refine iff_of_false (fun h => ?_) id
    have hlength := congrArg List.length h
    rw [List.length_append, List.length_singleton] at hlength
    omega
  | deleteOutbox queueIds =>
    refine (memoryKept_field_iff (.deleteOutbox queueIds) (·.outbox)
      (fun outbox => { self.registry.memory with outbox }) (fun _ => rfl) rfl
      (self.registry.memory.outbox.filter fun item => !queueIds.contains item.queueId)
      (fun disk => commit_eq self disk _)).trans ?_
    rw [eq_comm, List.filter_eq_self]
    simp [LeavesAlone]
  | upsertInbox prompts =>
    refine (memoryKept_inbox_iff (.upsertInbox prompts) (Inbox.pruneInboxLocked self.policy
      (prompts.foldl Inbox.upsertPrompt self.registry.memory.inbox))
      (fun disk => commit_eq self disk _)).trans ?_
    exact Inbox.upserted_eq_self_iff self.policy self.registry.memory.inbox prompts
  | updateInboxStatus now promptId status reason =>
    exact updateInboxStatus_kept_iff self now promptId status reason e
  | recordPromptReceipt uuid now promptId envelope receipt =>
    exact recordPromptReceipt_kept_iff self uuid now promptId envelope receipt e
  | markPresented promptId presentedAt => exact markPresented_kept_iff self promptId presentedAt e
  | expireInbox now => exact expireInbox_kept_iff self now e
  | storeCheckpoint checkpoint cursor =>
    refine (memoryKept_field_iff (.storeCheckpoint checkpoint cursor) (·.producerCheckpoints)
      (fun producerCheckpoints => { self.registry.memory with producerCheckpoints })
      (fun _ => rfl) rfl (self.registry.memory.producerCheckpoints.upsert (checkpoint, cursor))
      (fun disk => commit_eq self disk _)).trans ?_
    rw [eq_comm, Table.upsert_eq_self_iff]
    show self.registry.memory.producerCheckpoints.find? checkpoint = some (checkpoint, cursor) ↔
      (self.registry.memory.producerCheckpoints.find? checkpoint).map Prod.snd = some cursor
    cases hfind : self.registry.memory.producerCheckpoints.find? checkpoint with
    | none => simp
    | some row =>
      -- a row stands under its own key
      obtain ⟨key, stored⟩ := row
      obtain rfl : key = checkpoint := (Table.find?_eq_some_iff.mp hfind).2
      simp
  | recordAudit record =>
    refine (memoryKept_field_iff (.recordAudit record) (·.auditRecords)
      (fun auditRecords => { self.registry.memory with auditRecords }) (fun _ => rfl) rfl
      ((self.registry.memory.auditRecords ++ [record]).drop
        ((self.registry.memory.auditRecords ++ [record]).length - maxAuditRecords))
      (fun disk => commit_eq self disk _)).trans ?_
    rw [eq_comm]
    exact drop_append_eq_self_iff (by decide)

/-- An insight that goes into the outbox. -/
def sampleEnqueue : WriteCall :=
  .enqueueOutbox "uuid" 0
    ⟨"env-001", "integration.envelope.v1", .insightPacket, 0, "nonce-001",
      ⟨"device-1", none, none, "desktop-client"⟩, .insightWrite⟩
    (.insight ⟨"packet-001", "summary", [], ⟨0, 0⟩, .derivedSummary, none⟩)

/-- **A message whose save failed is queued**: the caller has the error, memory has the message. -/
theorem failed_enqueue_stays :
    SaveFails (opened .default none) sampleEnqueue (.io "disk full") ∧
      (sampleEnqueue.outcome (opened .default none) (.error (.io "disk full"))).2.registry.memory ≠
        (opened .default none).registry.memory := by
  refine ⟨⟨rfl, rfl⟩, fun h => ?_⟩
  exact absurd (congrArg (fun registry => registry.outbox.length) h) (by decide)

end WriteCall

end Oneshim.Integration
