/-
  Suggestions across restarts (`src-tauri/src/commands/suggestions.rs`, `app_runtime_launch.rs`,
  `scheduler/loops/suggestions.rs`, `sqlite/edge_intelligence/suggestions.rs`).

  The queue and the deferred suggestions live in memory.  They are written to the table
  `suggestions` now and then, and read back when the program starts.

  1. **Table** — `save_suggestion_with_state` replaces the row of a suggestion; a restart lists the
     rows of the states `pending` and `deferred`.

  2. **Runs** — suggestions arrive, are saved, are accepted, rejected or deferred, come up again, and
     the program restarts.  One move is what a call does between two awaits: a suggestion that is
     being deferred or comes up again is in neither place for a while.

  3. **Decided suggestions** (`decided_stay_decided`) — a suggestion that the user accepted or
     rejected stays away as long as no restart finds a row of it, as when it has none at the decision
     (`gone_of_decidedUnsaved`).  The decision leaves the row, so a suggestion that was saved before
     comes back (`accepted_comes_back`).
-/
import Oneshim.Lib.Calls
import Oneshim.Suggestions.Queue

namespace Oneshim.Suggestions

open Lib

/-! ## The table -/

/-- A row of the table `suggestions`. -/
structure SuggestionRecord where
  suggestionId : String
  suggestionType : String
  content : String
  priority : String
  createdAt : String
  expiresAt : Option String
  state : String
  resurfaceAt : Option String

/-- `enum_to_sql_str` of a `SuggestionType`. -/
def SuggestionType.toSqlStr : SuggestionType → String
  | workGuidance => "WORK_GUIDANCE"
  | emailDraft => "EMAIL_DRAFT"
  | productivityTip => "PRODUCTIVITY_TIP"
  | workflowOptimization => "WORKFLOW_OPTIMIZATION"
  | contextBased => "CONTEXT_BASED"

/-- The types as the table may name them. -/
def SuggestionType.ofSqlStr (s : String) : Option SuggestionType :=
  if s = "WORK_GUIDANCE" ∨ s = "WorkGuidance" then some workGuidance
  else if s = "EMAIL_DRAFT" ∨ s = "EmailDraft" then some emailDraft
  else if s = "PRODUCTIVITY_TIP" ∨ s = "ProductivityTip" then some productivityTip
  else if s = "WORKFLOW_OPTIMIZATION" ∨ s = "WorkflowOptimization" then some workflowOptimization
  else if s = "CONTEXT_BASED" ∨ s = "ContextBased" then some contextBased
  else none

/-- `enum_to_sql_str` of a `Priority`. -/
def Priority.toSqlStr : Priority → String
  | low => "LOW"
  | medium => "MEDIUM"
  | high => "HIGH"
  | critical => "CRITICAL"

/-- The priorities as the table may name them. -/
def Priority.ofSqlStr (s : String) : Priority :=
  if s = "LOW" ∨ s = "Low" then low
  else if s = "HIGH" ∨ s = "High" then high
  else if s = "CRITICAL" ∨ s = "Critical" then critical
  else medium

/-- What the program is given: the configured size of the queue, `str::to_lowercase`, the hash, and
    timestamps as texts. -/
structure Setup where
  maxSuggestions : Nat
  toLowercase : String → String
  hash : SuggestionType → List Char → UInt64
  toRfc3339 : Nat → String
  parseFromRfc3339 : String → Option Nat

/-- The row of a suggestion. -/
def Suggestion.row (setup : Setup) (self : Suggestion) (state : String)
    (resurfaceAt : Option String) : SuggestionRecord where
  suggestionId := self.suggestionId
  suggestionType := self.suggestionType.toSqlStr
  content := self.content
  priority := self.priority.toSqlStr
  createdAt := setup.toRfc3339 self.createdAt
  expiresAt := self.expiresAt.map setup.toRfc3339
  state := state
  resurfaceAt := resurfaceAt

/-- `save_suggestion_with_state`: `INSERT OR REPLACE` by the id. -/
def saveSuggestionWithState (setup : Setup) (rows : List SuggestionRecord) (suggestion : Suggestion)
    (state : String) (resurfaceAt : Option String) : List SuggestionRecord :=
  (rows.filter fun row => row.suggestionId != suggestion.suggestionId) ++
    [suggestion.row setup state resurfaceAt]

/-- `list_suggestions_by_state`: the newest first. -/
def listSuggestionsByState (rows : List SuggestionRecord) (state : String) (limit : Nat) :
    List SuggestionRecord :=
  ((rows.filter fun row => row.state == state).mergeSort
    fun a b => decide (b.createdAt ≤ a.createdAt)).take limit

/-- The listing at the start, `unwrap_or_default`. -/
def listOrDefault (error : Bool) (rows : List SuggestionRecord) (state : String) :
    List SuggestionRecord :=
  if error then [] else listSuggestionsByState rows state 50

/-- `try_into_suggestion`. -/
def SuggestionRecord.tryIntoSuggestion (setup : Setup) (self : SuggestionRecord) :
    Option Suggestion := do
  let suggestionType ← SuggestionType.ofSqlStr self.suggestionType
  let createdAt ← setup.parseFromRfc3339 self.createdAt
  return {
    suggestionId := self.suggestionId
    suggestionType := suggestionType
    content := self.content
    priority := Priority.ofSqlStr self.priority
    createdAt := createdAt
    expiresAt := self.expiresAt.bind setup.parseFromRfc3339 }

/-- The deferred entry of a row. -/
def SuggestionRecord.deferredEntry (setup : Setup) (self : SuggestionRecord) :
    Option DeferredEntry := do
  let resurfaceAt ← self.resurfaceAt.bind setup.parseFromRfc3339
  let createdAt ← setup.parseFromRfc3339 self.createdAt
  let suggestion ← self.tryIntoSuggestion setup
  return ⟨suggestion, createdAt, resurfaceAt⟩

/-! ## The program -/

/-- What is in memory: the parts of the `SuggestionManager`, and the suggestions on the way, those
    that are being deferred and those the maintenance loop has collected. -/
structure Process where
  queue : SuggestionQueue
  deferred : DeferredManager
  history : SuggestionHistory
  deferring : List Suggestion
  resurfacing : List Suggestion

/-- `push` one after the other, and whether there was no panic. -/
def pushAll (setup : Setup) (queue : SuggestionQueue) : List Suggestion → SuggestionQueue × Bool
  | [] => (queue, true)
  | s :: rest =>
    match queue.push setup.toLowercase setup.hash s with
    | (queue, none) => (queue, false)
    | (queue, some _) => pushAll setup queue rest

/-- A process that has restored nothing. -/
def Process.new (setup : Setup) : Process where
  queue := ⟨[], ∅, setup.maxSuggestions⟩
  deferred := ⟨[], 50⟩
  history := ⟨[], 100⟩
  deferring := []
  resurfacing := []

/-- The start of the program; the listings are empty where the storage fails, and a panic ends the
    program. -/
def launch (setup : Setup) (rows : List SuggestionRecord) (now : Nat)
    (pendingError deferredError : Bool) : Process :=
  let queue := pushAll setup (Process.new setup).queue
    ((listOrDefault pendingError rows "pending").filterMap (·.tryIntoSuggestion setup))
  let restored := (Process.new setup).deferred.restore now
    ((listOrDefault deferredError rows "deferred").filterMap (·.deferredEntry setup))
  let requeued := pushAll setup queue.1 restored.2
  if queue.2 && requeued.2 then
    { Process.new setup with queue := requeued.1, deferred := restored.1 }
  else Process.new setup

/-- `handle_suggestion`; `shouldQueue` is the scorer's verdict. -/
def handleSuggestion (setup : Setup) (queue : SuggestionQueue) (suggestion : Suggestion)
    (shouldQueue : Bool) (now : Nat) : SuggestionQueue :=
  if shouldQueue then
    match queue.removeExpired setup.toLowercase setup.hash now with
    | (queue, none) => queue
    | (queue, some _) => (queue.push setup.toLowercase setup.hash suggestion).1
  else queue

/-- The history after a feedback. -/
def recorded (history : SuggestionHistory) (suggestion : Suggestion) (feedback : FeedbackType) :
    SuggestionHistory :=
  (history.add suggestion).recordFeedback suggestion.suggestionId feedback

/-- `submit_suggestion_feedback` after the send, up to the locks of the deferred suggestions. -/
def submitSuggestionFeedback (setup : Setup) (self : Process) (suggestionId action : String) :
    Process :=
  if action = "accept" ∨ action = "reject" then
    match self.queue.removeById setup.toLowercase setup.hash suggestionId with
    | (queue, some (some suggestion)) =>
      { self with
        queue := queue
        history := recorded self.history suggestion
          (if action = "accept" then .accepted else .rejected) }
    | (queue, _) => { self with queue := queue }
  else if action = "defer" then
    match self.queue.removeById setup.toLowercase setup.hash suggestionId with
    | (queue, some (some suggestion)) =>
      { self with
        queue := queue
        history := recorded self.history suggestion .deferred
        deferring := self.deferring ++ [suggestion] }
    | (queue, _) => { self with queue := queue }
  else self

/-! ## Runs -/

/-- The process, the table, and the ids of the suggestions that the user accepted or rejected and the
    server has not sent again since. -/
structure State where
  process : Process
  rows : List SuggestionRecord
  decided : List String

/-- What can happen next. -/
inductive Move where
  | arrive (suggestion : Suggestion) (shouldQueue : Bool) (now : Nat)
  | saveQueue (fails : Suggestion → Bool)
  | saveDeferred (fails : Suggestion → Bool)
  | submit (suggestionId action : String)
  | defer (index snoozeMinutes now : Nat)
  | collect (now : Nat)
  | resurface
  | restart (now : Nat) (pendingError deferredError : Bool)

/-- One move. -/
def step (setup : Setup) (s : State) : Move → State
  | .arrive suggestion shouldQueue now =>
    { s with
      process := { s.process with
        queue := handleSuggestion setup s.process.queue suggestion shouldQueue now }
      decided := s.decided.filter (· != suggestion.suggestionId) }
  -- `save_suggestion_state`, and the same on exit: the queue, then the deferred suggestions.
  | .saveQueue fails =>
    { s with
      rows := s.process.queue.items.foldl (fun rows suggestion =>
        if fails suggestion then rows
        else saveSuggestionWithState setup rows suggestion "pending" none) s.rows }
  | .saveDeferred fails =>
    { s with
      rows := s.process.deferred.items.foldl (fun rows entry =>
        if fails entry.suggestion then rows
        else saveSuggestionWithState setup rows entry.suggestion "deferred"
          (some (setup.toRfc3339 entry.resurfaceAt))) s.rows }
  | .submit suggestionId action =>
    { s with
      process := submitSuggestionFeedback setup s.process suggestionId action
      decided :=
        if action = "accept" ∨ action = "reject" then suggestionId :: s.decided else s.decided }
  | .defer index snoozeMinutes now =>
    match s.process.deferring[index]? with
    | none => s
    | some suggestion =>
      { s with
        process := { s.process with
          deferred := s.process.deferred.defer suggestion (snoozeMinutes * 60) now
          deferring := s.process.deferring.eraseIdx index } }
  -- The maintenance loop: what is due is collected, then queued.
  | .collect now =>
    { s with
      process := { s.process with
        deferred := (s.process.deferred.collectResurfaced now).1
        resurfacing := s.process.resurfacing ++ (s.process.deferred.collectResurfaced now).2 } }
  | .resurface =>
    { s with
      process := { s.process with
        queue := (pushAll setup s.process.queue s.process.resurfacing).1
        resurfacing := [] } }
  | .restart now pendingError deferredError =>
    { s with process := launch setup s.rows now pendingError deferredError }

/-! ## What a move does -/

/-- The suggestions of a process, wherever they are. -/
def Process.all (self : Process) : List Suggestion :=
  self.queue.items ++ self.deferred.items.map DeferredEntry.suggestion ++ self.deferring ++
    self.resurfacing

section

variable {setup : Setup}

theorem Process.mem_all {self : Process} {s : Suggestion} :
    s ∈ self.all ↔ s ∈ self.queue.items ∨ (∃ entry ∈ self.deferred.items, entry.suggestion = s) ∨
      s ∈ self.deferring ∨ s ∈ self.resurfacing := by
  simp only [Process.all, List.mem_append, List.mem_map, or_assoc]

/-- What is queued was pushed, or was there. -/
theorem mem_of_pushAll {queue : SuggestionQueue} {suggestions : List Suggestion} {s : Suggestion}
    (h : s ∈ (pushAll setup queue suggestions).1.items) : s ∈ suggestions ∨ s ∈ queue.items := by
  induction suggestions generalizing queue with
  | nil => exact .inr h
  | cons first rest ih =>
    have hfirst : ∀ {left result}, queue.push setup.toLowercase setup.hash first =
        (left, result) → s ∈ left.items → s = first ∨ s ∈ queue.items :=
      fun heq hleft => SuggestionQueue.mem_of_push (by rw [heq]; exact hleft)
    rw [pushAll] at h
    split at h
    · rename_i hpanic
      rcases hfirst hpanic h with rfl | h
      · exact .inl List.mem_cons_self
      · exact .inr h
    · rename_i hdone
      rcases ih h with h | h
      · exact .inl (List.mem_cons_of_mem first h)
      · rcases hfirst hdone h with rfl | h
        · exact .inl List.mem_cons_self
        · exact .inr h

/-- What is queued has arrived, or was there. -/
theorem mem_of_handleSuggestion {queue : SuggestionQueue} {suggestion s : Suggestion}
    {shouldQueue : Bool} {now : Nat}
    (h : s ∈ (handleSuggestion setup queue suggestion shouldQueue now).items) :
    s = suggestion ∨ s ∈ queue.items := by
  have hexpire : ∀ {left result}, queue.removeExpired setup.toLowercase setup.hash now =
      (left, result) → s ∈ left.items → s ∈ queue.items :=
    fun heq hleft => SuggestionQueue.mem_of_removeExpired (by rw [heq]; exact hleft)
  unfold handleSuggestion at h
  split at h
  · split at h
    · rename_i hpanic
      exact .inr (hexpire hpanic h)
    · rename_i hdone
      exact (SuggestionQueue.mem_of_push h).imp_right (hexpire hdone)
  · exact .inr h

/-- A row becomes a suggestion of its id. -/
theorem SuggestionRecord.tryIntoSuggestion_id {self : SuggestionRecord} {s : Suggestion}
    (h : self.tryIntoSuggestion setup = some s) : s.suggestionId = self.suggestionId := by
  simp only [tryIntoSuggestion, Option.bind_eq_bind, Option.bind_eq_some_iff, Option.pure_def,
    Option.some.injEq] at h
  obtain ⟨_, _, _, _, rfl⟩ := h
  rfl

theorem SuggestionRecord.deferredEntry_id {self : SuggestionRecord} {entry : DeferredEntry}
    (h : self.deferredEntry setup = some entry) :
    entry.suggestion.suggestionId = self.suggestionId := by
  simp only [deferredEntry, Option.bind_eq_bind, Option.bind_eq_some_iff, Option.pure_def,
    Option.some.injEq] at h
  obtain ⟨_, _, _, _, _, hs, rfl⟩ := h
  exact tryIntoSuggestion_id hs

variable {rows : List SuggestionRecord}

theorem mem_of_listOrDefault {error : Bool} {state : String} {row : SuggestionRecord}
    (h : row ∈ listOrDefault error rows state) :
    row ∈ rows ∧ row.state = state := by
  rw [listOrDefault] at h
  split at h
  · cases h
  · have hrow := List.mem_filter.mp (List.mem_mergeSort.mp (List.mem_of_mem_take h))
    exact ⟨hrow.1, beq_iff_eq.mp hrow.2⟩

/-- The row of a suggestion that waits. -/
def WaitingRow (rows : List SuggestionRecord) (suggestionId : String) : Prop :=
  ∃ row ∈ rows, (row.state = "pending" ∨ row.state = "deferred") ∧ row.suggestionId = suggestionId

/-- A start brings in the suggestions of rows that wait, and no other. -/
theorem waitingRow_of_launch {now : Nat} {pendingError deferredError : Bool} {s : Suggestion}
    (h : s ∈ (launch setup rows now pendingError deferredError).all) :
    WaitingRow rows s.suggestionId := by
  have hpending : ∀ {s}, s ∈ (listOrDefault pendingError rows "pending").filterMap
      (·.tryIntoSuggestion setup) → WaitingRow rows s.suggestionId := by
    intro s hs
    obtain ⟨row, hrow, hsome⟩ := List.mem_filterMap.mp hs
    obtain ⟨hmem, hstate⟩ := mem_of_listOrDefault hrow
    exact ⟨row, hmem, .inl hstate, (SuggestionRecord.tryIntoSuggestion_id hsome).symm⟩
  have hdeferred : ∀ {entry}, entry ∈ (listOrDefault deferredError rows "deferred").filterMap
      (·.deferredEntry setup) → WaitingRow rows entry.suggestion.suggestionId := by
    intro entry hentry
    obtain ⟨row, hrow, hsome⟩ := List.mem_filterMap.mp hentry
    obtain ⟨hmem, hstate⟩ := mem_of_listOrDefault hrow
    exact ⟨row, hmem, .inr hstate, (SuggestionRecord.deferredEntry_id hsome).symm⟩
  unfold launch at h
  dsimp only at h
  split at h
  · rcases Process.mem_all.mp h with h | ⟨entry, hentry, rfl⟩ | h | h
    · rcases mem_of_pushAll h with h | h
      · obtain ⟨entry, hentry, rfl⟩ := DeferredManager.mem_of_restore.2 s h
        exact hdeferred hentry
      · rcases mem_of_pushAll h with h | h
        · exact hpending h
        · cases h
    · rcases DeferredManager.mem_of_restore.1 entry hentry with h | h
      · cases h
      · exact hdeferred h
    · cases h
    · cases h
  · rcases Process.mem_all.mp h with h | ⟨entry, hentry, -⟩ | h | h
    · cases h
    · cases hentry
    · cases h
    · cases h

/-- A feedback takes a suggestion out of the queue; one that is deferred is on its way then. -/
theorem mem_all_of_submit {self : Process} {suggestionId action : String} {s : Suggestion}
    (h : s ∈ (submitSuggestionFeedback setup self suggestionId action).all) : s ∈ self.all := by
  have hqueue : ∀ {left result}, self.queue.removeById setup.toLowercase setup.hash suggestionId =
      (left, result) → (∀ x ∈ left.items, x ∈ self.queue.items) ∧
        ∀ x, result = some (some x) → x ∈ self.queue.items := by
    intro left result hresult
    have hspec :=
      @SuggestionQueue.removeById_spec setup.toLowercase setup.hash self.queue suggestionId
    rw [hresult] at hspec
    rcases hspec with ⟨hnone, -⟩ | ⟨found, hfound, -, hitems, hsome⟩
    · cases hnone
      exact ⟨fun x hx => hx, fun x hx => by cases hx⟩
    · refine ⟨fun x hx => ?_, fun x hx => ?_⟩
      · rw [show left.items = _ from hitems] at hx
        exact (mem_removeItem.mp hx).1
      · rw [hsome x hx]
        exact hfound
  unfold submitSuggestionFeedback at h
  split at h
  · split at h
    · rename_i hremoved
      exact Process.mem_all.mpr ((Process.mem_all.mp h).imp_left ((hqueue hremoved).1 s))
    · rename_i hremoved
      exact Process.mem_all.mpr ((Process.mem_all.mp h).imp_left ((hqueue hremoved).1 s))
  · split at h
    · split at h
      · rename_i hremoved
        rcases Process.mem_all.mp h with h | h | h | h
        · exact Process.mem_all.mpr (.inl ((hqueue hremoved).1 s h))
        · exact Process.mem_all.mpr (.inr (.inl h))
        · rcases List.mem_append.mp h with h | h
          · exact Process.mem_all.mpr (.inr (.inr (.inl h)))
          · rw [List.mem_singleton.mp h]
            exact Process.mem_all.mpr (.inl ((hqueue hremoved).2 _ rfl))
        · exact Process.mem_all.mpr (.inr (.inr (.inr h)))
      · rename_i hremoved
        exact Process.mem_all.mpr ((Process.mem_all.mp h).imp_left ((hqueue hremoved).1 s))
    · exact h

/-- **Where suggestions come from.**  A move brings in the suggestion that arrives, or those of rows
    that wait. -/
theorem mem_all_of_step {s : State} {m : Move} {suggestion : Suggestion}
    (h : suggestion ∈ (step setup s m).process.all) :
    suggestion ∈ s.process.all ∨ (∃ shouldQueue now, m = .arrive suggestion shouldQueue now) ∨
      ∃ now pendingError deferredError, m = .restart now pendingError deferredError ∧
        WaitingRow s.rows suggestion.suggestionId := by
  cases m with
  | arrive arriving shouldQueue now =>
    rcases Process.mem_all.mp h with h | h
    · rcases mem_of_handleSuggestion h with rfl | h
      · exact .inr (.inl ⟨shouldQueue, now, rfl⟩)
      · exact .inl (Process.mem_all.mpr (.inl h))
    · exact .inl (Process.mem_all.mpr (.inr h))
  | saveQueue fails => exact .inl h
  | saveDeferred fails => exact .inl h
  | submit suggestionId action => exact .inl (mem_all_of_submit h)
  | defer index snoozeMinutes now =>
    refine .inl ?_
    simp only [step] at h
    split at h
    · exact h
    · rename_i deferring hdeferring
      rcases Process.mem_all.mp h with h | ⟨entry, hentry, rfl⟩ | h | h
      · exact Process.mem_all.mpr (.inl h)
      · rcases DeferredManager.mem_of_defer hentry with hentry | hentry
        · exact Process.mem_all.mpr (.inr (.inl ⟨entry, hentry, rfl⟩))
        · rw [hentry]
          exact Process.mem_all.mpr (.inr (.inr (.inl (List.mem_of_getElem? hdeferring))))
      · exact Process.mem_all.mpr (.inr (.inr (.inl (List.mem_of_mem_eraseIdx h))))
      · exact Process.mem_all.mpr (.inr (.inr (.inr h)))
  | collect now =>
    refine .inl ?_
    rcases Process.mem_all.mp h with h | ⟨entry, hentry, rfl⟩ | h | h
    · exact Process.mem_all.mpr (.inl h)
    · exact Process.mem_all.mpr (.inr (.inl ⟨entry, List.mem_of_mem_filter hentry, rfl⟩))
    · exact Process.mem_all.mpr (.inr (.inr (.inl h)))
    · rcases List.mem_append.mp h with h | h
      · exact Process.mem_all.mpr (.inr (.inr (.inr h)))
      · exact Process.mem_all.mpr (.inr (.inl (DeferredManager.mem_of_collectResurfaced h)))
  | resurface =>
    refine .inl ?_
    rcases Process.mem_all.mp h with h | h | h | h
    · rcases mem_of_pushAll h with h | h
      · exact Process.mem_all.mpr (.inr (.inr (.inr h)))
      · exact Process.mem_all.mpr (.inl h)
    · exact Process.mem_all.mpr (.inr (.inl h))
    · exact Process.mem_all.mpr (.inr (.inr (.inl h)))
    · cases h
  | restart now pendingError deferredError =>
    exact .inr (.inr ⟨now, pendingError, deferredError, rfl, waitingRow_of_launch h⟩)

/-- Saving makes rows of what is saved, and of nothing else. -/
theorem waitingRow_of_saveAll {α : Type} {suggestion : α → Suggestion}
    {save : List SuggestionRecord → α → List SuggestionRecord} {suggestionId : String}
    (hsave : ∀ rows a, ∀ row ∈ save rows a,
      row ∈ rows ∨ row.suggestionId = (suggestion a).suggestionId) {items : List α}
    (h : WaitingRow (items.foldl save rows) suggestionId) :
    WaitingRow rows suggestionId ∨ ∃ a ∈ items, (suggestion a).suggestionId = suggestionId := by
  induction items generalizing rows with
  | nil => exact .inl h
  | cons a items ih =>
    rcases ih h with ⟨row, hrow, hstate, hid⟩ | ⟨b, hb, hid⟩
    · rcases hsave rows a row hrow with hold | hnew
      · exact .inl ⟨row, hold, hstate, hid⟩
      · exact .inr ⟨a, List.mem_cons_self, hnew ▸ hid⟩
    · exact .inr ⟨b, List.mem_cons_of_mem a hb, hid⟩

theorem mem_of_saveSuggestionWithState {suggestion : Suggestion} {state : String}
    {resurfaceAt : Option String} {row : SuggestionRecord}
    (h : row ∈ saveSuggestionWithState setup rows suggestion state resurfaceAt) :
    row ∈ rows ∨ row.suggestionId = suggestion.suggestionId := by
  rcases List.mem_append.mp h with h | h
  · exact .inl (List.mem_of_mem_filter h)
  · rw [List.mem_singleton.mp h]
    exact .inr rfl

/-- **Where rows come from.**  A move makes rows of suggestions of the process. -/
theorem waitingRow_of_step {s : State} {m : Move} {suggestionId : String}
    (h : WaitingRow (step setup s m).rows suggestionId) :
    WaitingRow s.rows suggestionId ∨
      ∃ suggestion ∈ s.process.all, suggestion.suggestionId = suggestionId := by
  cases m with
  | saveQueue fails =>
    refine (waitingRow_of_saveAll (fun rows suggestion row hrow => ?_) h).imp_right
      fun ⟨suggestion, hmem, hid⟩ => ⟨suggestion, Process.mem_all.mpr (.inl hmem), hid⟩
    split at hrow
    · exact .inl hrow
    · exact mem_of_saveSuggestionWithState hrow
  | saveDeferred fails =>
    refine (waitingRow_of_saveAll (fun rows entry row hrow => ?_) h).imp_right
      fun ⟨entry, hmem, hid⟩ =>
        ⟨entry.suggestion, Process.mem_all.mpr (.inr (.inl ⟨entry, hmem, rfl⟩)), hid⟩
    split at hrow
    · exact .inl hrow
    · exact mem_of_saveSuggestionWithState hrow
  | defer index snoozeMinutes now =>
    simp only [step] at h
    split at h
    · exact .inl h
    · exact .inl h
  | _ => exact .inl h

/-! ## Decided suggestions -/

/-- The suggestion is in the queue once at most, and nowhere else. -/
def OnlyQueued (self : Process) (suggestionId : String) : Prop :=
  (∀ a ∈ self.queue.items, ∀ b ∈ self.queue.items,
    a.suggestionId = suggestionId → b.suggestionId = suggestionId → a = b) ∧
  (∀ entry ∈ self.deferred.items, entry.suggestion.suggestionId ≠ suggestionId) ∧
  (∀ s ∈ self.deferring, s.suggestionId ≠ suggestionId) ∧
  ∀ s ∈ self.resurfacing, s.suggestionId ≠ suggestionId

instance (self : Process) (suggestionId : String) : Decidable (OnlyQueued self suggestionId) :=
  inferInstanceAs (Decidable (_ ∧ _))

instance (rows : List SuggestionRecord) (suggestionId : String) :
    Decidable (WaitingRow rows suggestionId) :=
  inferInstanceAs (Decidable (∃ row ∈ rows, _))

/-- A decision is about a suggestion that is nowhere but in the queue, and a restart finds no row of a
    decided suggestion. -/
def Clean (s : State) : Move → Prop
  | .submit suggestionId action =>
    (action = "accept" ∨ action = "reject") → OnlyQueued s.process suggestionId
  | .restart _ _ _ => ∀ suggestionId ∈ s.decided, ¬ WaitingRow s.rows suggestionId
  | _ => True

instance (s : State) (m : Move) : Decidable (Clean s m) :=
  match m with
  | .submit _ _ => inferInstanceAs (Decidable (_ → OnlyQueued _ _))
  | .restart _ _ _ => inferInstanceAs (Decidable (∀ suggestionId ∈ s.decided, _))
  | .arrive _ _ _ | .saveQueue _ | .saveDeferred _ | .defer _ _ _ | .collect _ | .resurface =>
    inferInstanceAs (Decidable True)

/-- The decided suggestions are nowhere in the process. -/
def DecidedAway (s : State) : Prop :=
  ∀ suggestionId ∈ s.decided, ∀ suggestion ∈ s.process.all, suggestion.suggestionId ≠ suggestionId

/-- A decision takes its suggestion away. -/
theorem away_of_submit {self : Process} {suggestionId action : String}
    (haction : action = "accept" ∨ action = "reject") (h : OnlyQueued self suggestionId) :
    ∀ s ∈ (submitSuggestionFeedback setup self suggestionId action).all,
      s.suggestionId ≠ suggestionId := by
  obtain ⟨honce, hdeferred, hdeferring, hresurfacing⟩ := h
  have hqueue : ∀ s ∈ (self.queue.removeById setup.toLowercase setup.hash suggestionId).1.items,
      s.suggestionId ≠ suggestionId := by
    rcases @SuggestionQueue.removeById_spec setup.toLowercase setup.hash self.queue suggestionId
      with ⟨hnone, hnot⟩ | ⟨found, hfound, hid, hitems, -⟩
    · rw [hnone]
      exact hnot
    · rw [hitems]
      intro s hs hsid
      obtain ⟨hmem, hne⟩ := mem_removeItem.mp hs
      exact hne (honce found hfound s hmem hid hsid ▸ Suggestion.cmp_self found)
  have hrest : ∀ {left : SuggestionQueue} {history : SuggestionHistory},
      (∀ s ∈ left.items, s.suggestionId ≠ suggestionId) →
      ∀ s ∈ ({ self with queue := left, history := history } : Process).all,
        s.suggestionId ≠ suggestionId := by
    intro left history hleft s hs
    rcases Process.mem_all.mp hs with hs | ⟨entry, hentry, rfl⟩ | hs | hs
    · exact hleft s hs
    · exact hdeferred entry hentry
    · exact hdeferring s hs
    · exact hresurfacing s hs
  rw [submitSuggestionFeedback, if_pos haction]
  split
  · rename_i hremoved
    rw [hremoved] at hqueue
    exact hrest hqueue
  · rename_i hremoved
    rw [hremoved] at hqueue
    exact hrest hqueue

/-- A suggestion is decided by the user, and until it arrives again. -/
theorem mem_decided_of_step {s : State} {m : Move} {suggestionId : String}
    (h : suggestionId ∈ (step setup s m).decided) :
    (suggestionId ∈ s.decided ∧ ∀ suggestion shouldQueue now,
      m = .arrive suggestion shouldQueue now → suggestion.suggestionId ≠ suggestionId) ∨
    ∃ action, m = .submit suggestionId action ∧ (action = "accept" ∨ action = "reject") := by
  cases m with
  | arrive suggestion shouldQueue now =>
    obtain ⟨hmem, hne⟩ := List.mem_filter.mp h
    refine .inl ⟨hmem, fun _ _ _ harrive => ?_⟩
    cases harrive
    exact Ne.symm (bne_iff_ne.mp hne)
  | submit decidedId action =>
    by_cases haction : action = "accept" ∨ action = "reject"
    · simp only [step, if_pos haction] at h
      rcases List.mem_cons.mp h with rfl | h
      · exact .inr ⟨action, rfl, haction⟩
      · exact .inl ⟨h, fun _ _ _ harrive => by cases harrive⟩
    · simp only [step, if_neg haction] at h
      exact .inl ⟨h, fun _ _ _ harrive => by cases harrive⟩
  | defer index snoozeMinutes now =>
    simp only [step] at h
    split at h
    · exact .inl ⟨h, fun _ _ _ harrive => by cases harrive⟩
    · exact .inl ⟨h, fun _ _ _ harrive => by cases harrive⟩
  | saveQueue fails => exact .inl ⟨h, fun _ _ _ harrive => by cases harrive⟩
  | saveDeferred fails => exact .inl ⟨h, fun _ _ _ harrive => by cases harrive⟩
  | collect now => exact .inl ⟨h, fun _ _ _ harrive => by cases harrive⟩
  | resurface => exact .inl ⟨h, fun _ _ _ harrive => by cases harrive⟩
  | restart now pendingError deferredError =>
    exact .inl ⟨h, fun _ _ _ harrive => by cases harrive⟩

/-- **One move** keeps the decided suggestions away. -/
theorem decidedAway_step {s : State} {m : Move} (hinv : DecidedAway s) (hclean : Clean s m) :
    DecidedAway (step setup s m) := by
  intro suggestionId hdecided suggestion hsuggestion
  rcases mem_decided_of_step hdecided with ⟨hold, harrive⟩ | ⟨action, rfl, haction⟩
  · rcases mem_all_of_step hsuggestion with hmem | ⟨shouldQueue, now, rfl⟩ |
      ⟨now, pendingError, deferredError, rfl, hrow⟩
    · exact hinv suggestionId hold suggestion hmem
    · exact harrive suggestion shouldQueue now rfl
    · rintro rfl
      exact hclean _ hold hrow
  · exact away_of_submit haction (hclean haction) suggestion hsuggestion

/-- The first start, with a table as an earlier program may have left it. -/
def started (setup : Setup) (rows : List SuggestionRecord) (now : Nat) : State :=
  ⟨launch setup rows now false false, rows, []⟩

/-- **Decided suggestions stay away.**  In a run in which every decision is about a suggestion that is
    nowhere but in the queue, and no restart finds a row of a decided suggestion, a suggestion that
    the user accepted or rejected is not queued and not deferred until the server sends it again. -/
theorem decided_stay_decided (setup : Setup) (rows : List SuggestionRecord) (now : Nat)
    (run : List Move) (hrun : Along (step setup) Clean (started setup rows now) run) :
    ∀ s ∈ states (step setup) (started setup rows now) run, ∀ suggestionId ∈ s.decided,
      (∀ suggestion ∈ s.process.queue.items, suggestion.suggestionId ≠ suggestionId) ∧
        ∀ entry ∈ s.process.deferred.items, entry.suggestion.suggestionId ≠ suggestionId := by
  have hstart : DecidedAway (started setup rows now) := fun _ h => absurd h List.not_mem_nil
  intro s hs suggestionId hdecided
  have haway := states_invariant (fun _ _ => decidedAway_step) hstart hrun s hs suggestionId hdecided
  exact ⟨fun suggestion h => haway suggestion (Process.mem_all.mpr (.inl h)),
    fun entry h => haway entry.suggestion (Process.mem_all.mpr (.inr (.inl ⟨entry, h, rfl⟩)))⟩

/-- A decision is about a suggestion that is nowhere but in the queue and has not been saved. -/
def DecidedUnsaved (s : State) : Move → Prop
  | .submit suggestionId action =>
    (action = "accept" ∨ action = "reject") →
      OnlyQueued s.process suggestionId ∧ ¬ WaitingRow s.rows suggestionId
  | _ => True

/-- A decided suggestion is nowhere, and there is no row from which it could come back. -/
def Gone (s : State) : Prop := DecidedAway s ∧ ∀ id ∈ s.decided, ¬ WaitingRow s.rows id

theorem Gone.clean {s : State} {m : Move} (h : Gone s) (hm : DecidedUnsaved s m) : Clean s m := by
  cases m with
  | submit suggestionId action => exact fun haction => (hm haction).1
  | restart now pendingError deferredError => exact h.2
  | arrive _ _ _ | saveQueue _ | saveDeferred _ | defer _ _ _ | collect _ | resurface => trivial

/-- **One move**, when what it decides has not been saved. -/
theorem Gone.step {s : State} {m : Move} (h : Gone s) (hm : DecidedUnsaved s m) :
    Gone (step setup s m) := by
  refine ⟨decidedAway_step h.1 (h.clean hm), fun suggestionId hdecided hrow => ?_⟩
  rcases mem_decided_of_step hdecided with ⟨hold, -⟩ | ⟨action, rfl, haction⟩
  · rcases waitingRow_of_step hrow with hrow | ⟨suggestion, hmem, hid⟩
    · exact h.2 suggestionId hold hrow
    · exact h.1 suggestionId hold suggestion hmem hid
  · exact (hm haction).2 hrow

theorem gone_started (rows : List SuggestionRecord) (now : Nat) : Gone (started setup rows now) :=
  ⟨fun _ h => absurd h List.not_mem_nil, fun _ h => absurd h List.not_mem_nil⟩

/-- **What is decided before it is saved is gone**: it is nowhere in the program and no row of it is
    waiting, through every restart, until the server sends it again. -/
theorem gone_of_decidedUnsaved (rows : List SuggestionRecord) (now : Nat) (run : List Move)
    (hrun : Along (step setup) DecidedUnsaved (started setup rows now) run) :
    ∀ s ∈ states (step setup) (started setup rows now) run, ∀ suggestionId ∈ s.decided,
      (∀ suggestion ∈ s.process.all, suggestion.suggestionId ≠ suggestionId) ∧
        ¬ WaitingRow s.rows suggestionId := by
  intro s hs suggestionId hdecided
  obtain ⟨haway, hrows⟩ :=
    states_invariant (fun _ _ => Gone.step) (gone_started rows now) hrun s hs
  exact ⟨haway suggestionId hdecided, hrows suggestionId hdecided⟩

end

/-- Times as texts with a mark for each second after the first one of 1970. -/
def tallySetup : Setup where
  maxSuggestions := 10
  toLowercase := id
  hash _ _ := 0
  toRfc3339 t := "1970-01-01T00:00:00+00:00" ++ String.ofList (List.replicate t '+')
  parseFromRfc3339 s := some (s.length - 25)

def tip : Suggestion := ⟨"s1", .productivityTip, "Take a break", .medium, 0, none⟩

/-- A suggestion that is accepted before it is ever saved. -/
def acceptedRun : List Move := [.arrive tip true 0, .submit "s1" "accept", .restart 0 false false]

theorem gone_tip :
    let s := acceptedRun.foldl (step tallySetup) (started tallySetup [] 0)
    (∀ suggestion ∈ s.process.all, suggestion.suggestionId ≠ "s1") ∧ ¬ WaitingRow s.rows "s1" :=
  gone_of_decidedUnsaved [] 0 acceptedRun
    ⟨trivial, fun _ => ⟨by decide +kernel, fun ⟨_, hrow, _⟩ => (by cases hrow)⟩, trivial, trivial⟩ _
    (foldl_mem_states _ _) "s1" (by decide +kernel)

theorem decided_stay_decided_tip :
    let s := acceptedRun.foldl (step tallySetup) (started tallySetup [] 0)
    (∀ suggestion ∈ s.process.queue.items, suggestion.suggestionId ≠ "s1") ∧
      ∀ entry ∈ s.process.deferred.items, entry.suggestion.suggestionId ≠ "s1" :=
  decided_stay_decided tallySetup [] 0 acceptedRun
    ⟨trivial, by decide +kernel, by decide +kernel, trivial⟩ _ (foldl_mem_states _ _) "s1"
    (by decide +kernel)

/-- **The row outlives the decision.**  A suggestion is saved, accepted, and queued again by the next
    start. -/
theorem accepted_comes_back :
    ¬ ∀ (setup : Setup) (rows : List SuggestionRecord) (now : Nat) (run : List Move),
      ∀ s ∈ states (step setup) (started setup rows now) run, ∀ suggestionId ∈ s.decided,
        (∀ suggestion ∈ s.process.queue.items, suggestion.suggestionId ≠ suggestionId) ∧
          ∀ entry ∈ s.process.deferred.items, entry.suggestion.suggestionId ≠ suggestionId := by
  intro h
  have hback : tip ∈ ([Move.arrive tip true 0, .saveQueue fun _ => false, .submit "s1" "accept",
      .restart 0 false false].foldl (step tallySetup) (started tallySetup [] 0)).process.queue.items := by
    decide +kernel
  exact (h tallySetup [] 0 _ _ (foldl_mem_states _ _) "s1" (by decide +kernel)).1 tip hback rfl

end Oneshim.Suggestions
