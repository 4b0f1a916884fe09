/-
  Feedback that could not be sent (`oneshim-suggestion/src/feedback_retry.rs`,
  `scheduler/loops/suggestions.rs`, `commands/suggestions.rs`, `app_runtime_launch.rs`,
  `sqlite/edge_intelligence/suggestions.rs`).

  A feedback whose first send fails gets a row in `feedback_retries`, which has one row for a
  suggestion, and goes to a queue in memory.  Every thirty seconds the maintenance loop sends again
  what is ready.  A row goes when its feedback is sent, when it has failed too often, and when it is
  older than seven days; a start fills the queue from the rows.

  1. **Code** — the queue, the table, and what a call does between two awaits, one move each.

  2. **View** — which feedbacks are being sent, wait or have a row, wherever in the program they
     are; `effect_step` says what a move does to it.

  3. **Nothing is lost** (`retries_keep_and_order`) — as long as a suggestion gets no feedback while
     an earlier one of it is on its way: what is neither sent nor failed often enough nor too old
     waits, and the feedbacks of a suggestion are sent in their order.

  Times are in milliseconds.
-/
import Mathlib.Data.List.Perm.Basic
import Oneshim.Lib.Calls
import Oneshim.Suggestions.Queue

namespace Oneshim.Suggestions

open Lib

/-! ## The queue -/

/-- `PendingFeedback`.  The ticket is the number of the user's feedback; the code has none, and no
    function reads it. -/
structure PendingFeedback where
  ticket : Nat
  suggestionId : String
  feedbackType : FeedbackType
  comment : Option String
  attempts : Nat
  nextRetryAt : Nat

/-- `retry_delay`. -/
def retryDelay : Nat → Nat
  | 0 => 5000
  | 1 => 15000
  | 2 => 45000
  | 3 => 120000
  | _ => 300000

/-- `FeedbackRetryQueue`. -/
structure FeedbackRetryQueue where
  items : List PendingFeedback
  maxSize : Nat
  maxAttempts : Nat

namespace FeedbackRetryQueue

/-- The oldest goes where the queue is full. -/
def pushBack (self : FeedbackRetryQueue) (feedback : PendingFeedback) : FeedbackRetryQueue :=
  { self with
    items := (if self.maxSize ≤ self.items.length then self.items.tail else self.items) ++
      [feedback] }

/-- `enqueue`. -/
def enqueue (self : FeedbackRetryQueue) (feedback : PendingFeedback) (now : Nat) :
    FeedbackRetryQueue :=
  self.pushBack { feedback with nextRetryAt := now + retryDelay feedback.attempts }

/-- `collect_ready`. -/
def collectReady (self : FeedbackRetryQueue) (now : Nat) :
    FeedbackRetryQueue × List PendingFeedback :=
  ({ self with items := self.items.filter fun f => !(f.nextRetryAt ≤ now) },
    self.items.filter fun f => f.nextRetryAt ≤ now)

/-- `retry_failed`. -/
def retryFailed (self : FeedbackRetryQueue) (feedback : PendingFeedback) (now : Nat) :
    FeedbackRetryQueue :=
  self.pushBack { feedback with
    attempts := feedback.attempts + 1
    nextRetryAt := now + retryDelay (feedback.attempts + 1) }

/-- `drop_exhausted`. -/
def dropExhausted (self : FeedbackRetryQueue) (suggestionId : String) : FeedbackRetryQueue :=
  { self with items := self.items.filter fun f => f.suggestionId != suggestionId }

/-- `is_exhausted`. -/
def isExhausted (self : FeedbackRetryQueue) (feedback : PendingFeedback) : Bool :=
  self.maxAttempts ≤ feedback.attempts

end FeedbackRetryQueue

/-! ## The table -/

/-- `PendingFeedbackRecord`, a row of `feedback_retries`. -/
structure PendingFeedbackRecord where
  ticket : Nat
  suggestionId : String
  feedbackType : String
  comment : Option String
  attempts : Nat
  nextRetryAt : Nat
  createdAt : Nat

/-- The text of a `FeedbackType` in the table. -/
def FeedbackType.toText : FeedbackType → String
  | accepted => "Accepted"
  | rejected => "Rejected"
  | deferred => "Deferred"

/-- The types as the table may name them. -/
def FeedbackType.ofText (s : String) : Option FeedbackType :=
  if s = "Accepted" ∨ s = "ACCEPTED" then some accepted
  else if s = "Rejected" ∨ s = "REJECTED" then some rejected
  else if s = "Deferred" ∨ s = "DEFERRED" then some deferred
  else none

theorem FeedbackType.ofText_toText (t : FeedbackType) : ofText t.toText = some t := by
  cases t <;> rfl

/-- `new_for_insert`; the time of creation is set by the table. -/
def PendingFeedbackRecord.newForInsert (feedback : PendingFeedback) (now : Nat) :
    PendingFeedbackRecord where
  ticket := feedback.ticket
  suggestionId := feedback.suggestionId
  feedbackType := feedback.feedbackType.toText
  comment := feedback.comment
  attempts := feedback.attempts
  nextRetryAt := feedback.nextRetryAt
  createdAt := now

/-- `into_domain_parts`. -/
def PendingFeedbackRecord.intoDomainParts (self : PendingFeedbackRecord) : Option PendingFeedback :=
  (FeedbackType.ofText self.feedbackType).map fun feedbackType =>
    ⟨self.ticket, self.suggestionId, feedbackType, self.comment, self.attempts, self.nextRetryAt⟩

/-- `delete_pending_feedback`. -/
def deletePendingFeedback (rows : List PendingFeedbackRecord) (suggestionId : String) :
    List PendingFeedbackRecord :=
  rows.filter fun row => row.suggestionId != suggestionId

/-- `save_pending_feedback`: `INSERT OR REPLACE` by the suggestion. -/
def savePendingFeedback (rows : List PendingFeedbackRecord) (record : PendingFeedbackRecord) :
    List PendingFeedbackRecord :=
  deletePendingFeedback rows record.suggestionId ++ [record]

/-- `list_pending_feedbacks`: the oldest first. -/
def listPendingFeedbacks (rows : List PendingFeedbackRecord) (limit : Nat) :
    List PendingFeedbackRecord :=
  (rows.mergeSort fun a b => a.createdAt ≤ b.createdAt).take limit

/-- A day. -/
def dayMillis : Nat := 86400000

/-- `created_at < cutoff` at the start, seven days ago. -/
def PendingFeedbackRecord.orphaned (self : PendingFeedbackRecord) (now : Nat) : Bool :=
  self.createdAt + 7 * dayMillis < now

/-- `created_at < datetime('now', '-7 days')`: a `T` after the date is more than the blank that
    `datetime` writes, so the dates decide. -/
def PendingFeedbackRecord.cleanedUp (self : PendingFeedbackRecord) (now : Nat) : Bool :=
  self.createdAt / dayMillis + 7 < now / dayMillis

/-- The rows that a start goes through: the orphaned ones are deleted, the others queued. -/
def restoreFeedbacks (now : Nat) :
    List PendingFeedbackRecord → FeedbackRetryQueue × List PendingFeedbackRecord →
      FeedbackRetryQueue × List PendingFeedbackRecord
  | [], restored => restored
  | record :: records, (queue, rows) =>
    if record.orphaned now then
      restoreFeedbacks now records (queue, deletePendingFeedback rows record.suggestionId)
    else
      match record.intoDomainParts with
      | some feedback => restoreFeedbacks now records (queue.enqueue feedback now, rows)
      | none => restoreFeedbacks now records (queue, rows)

/-! ## Runs -/

/-- The program and the table, and what has happened: which suggestion each feedback was for, whose
    first send failed, what was sent, which retries failed, whose row was deleted for its age. -/
structure Retries where
  queue : FeedbackRetryQueue
  sending : List PendingFeedback
  spawned : List PendingFeedback
  ready : List PendingFeedback
  failed : Option PendingFeedback
  rows : List PendingFeedbackRecord
  given : List String
  firstFailed : List Nat
  sent : List Nat
  failures : List Nat
  expired : List Nat

/-- What can happen next. -/
inductive RetryMove where
  /-- The user gives a feedback; its first send is on the way. -/
  | submit (suggestionId : String) (feedbackType : FeedbackType)
  /-- A first send returns; one that failed gets its row and a task. -/
  | answer (index : Nat) (ok : Bool) (now : Nat)
  /-- The task of a failed feedback queues it. -/
  | enqueue (index now : Nat)
  /-- A tick of the maintenance loop. -/
  | collect (now : Nat)
  /-- A send of the maintenance loop returns. -/
  | retry (ok : Bool)
  /-- The maintenance loop has the lock of the queue again after a failed send. -/
  | settle (now : Nat)
  /-- The end of a tick. -/
  | cleanUp (now : Nat)
  | restart (now : Nat)

/-- The queue of a new process. -/
def newRetryQueue : FeedbackRetryQueue := ⟨[], 100, 5⟩

/-- Before the first start. -/
def Retries.fresh : Retries := ⟨newRetryQueue, [], [], [], none, [], [], [], [], [], []⟩

/-- One move; the storage is reliable. -/
def retryStep (s : Retries) : RetryMove → Retries
  | .submit suggestionId feedbackType =>
    { s with
      sending := s.sending ++ [⟨s.given.length, suggestionId, feedbackType, none, 0, 0⟩]
      given := s.given ++ [suggestionId] }
  | .answer index ok now =>
    match s.sending[index]? with
    | none => s
    | some feedback =>
      if ok then
        { s with sending := s.sending.eraseIdx index, sent := s.sent ++ [feedback.ticket] }
      else
        { s with
          sending := s.sending.eraseIdx index
          spawned := s.spawned ++ [{ feedback with nextRetryAt := now }]
          rows := savePendingFeedback s.rows (.newForInsert { feedback with nextRetryAt := now } now)
          firstFailed := s.firstFailed ++ [feedback.ticket] }
  | .enqueue index now =>
    match s.spawned[index]? with
    | none => s
    | some feedback =>
      { s with spawned := s.spawned.eraseIdx index, queue := s.queue.enqueue feedback now }
  | .collect now =>
    if s.ready.isEmpty && s.failed.isNone then
      { s with queue := (s.queue.collectReady now).1, ready := (s.queue.collectReady now).2 }
    else s
  | .retry ok =>
    match s.failed, s.ready with
    | none, pending :: ready =>
      if ok then
        { s with
          ready := ready
          rows := deletePendingFeedback s.rows pending.suggestionId
          sent := s.sent ++ [pending.ticket] }
      else
        { s with
          ready := ready
          failed := some pending
          failures := s.failures ++ [pending.ticket] }
    | _, _ => s
  | .settle now =>
    match s.failed with
    | none => s
    | some pending =>
      if s.queue.isExhausted pending then
        { s with
          failed := none
          queue := s.queue.dropExhausted pending.suggestionId
          rows := deletePendingFeedback s.rows pending.suggestionId }
      else { s with failed := none, queue := s.queue.retryFailed pending now }
  | .cleanUp now =>
    if s.ready.isEmpty && s.failed.isNone then
      { s with
        rows := s.rows.filter fun row => !row.cleanedUp now
        expired := s.expired ++
          (s.rows.filter (·.cleanedUp now)).map PendingFeedbackRecord.ticket }
    else s
  | .restart now =>
    let listed := listPendingFeedbacks s.rows 100
    let restored := restoreFeedbacks now listed (newRetryQueue, s.rows)
    { s with
      queue := restored.1
      sending := []
      spawned := []
      ready := []
      failed := none
      rows := restored.2
      expired := s.expired ++ (listed.filter (·.orphaned now)).map PendingFeedbackRecord.ticket }

/-! ## The view -/

/-- A feedback on its way: its number, its suggestion, and how often its retries have failed since the
    last start. -/
structure Wait where
  ticket : Nat
  suggestionId : String
  tries : Nat
  deriving DecidableEq

/-- Which feedbacks are being sent for the first time, wait for a retry, or have a row, and what has
    happened. -/
structure View where
  sending : List Wait
  waiting : List Wait
  rows : List Wait
  given : List String
  firstFailed : List Nat
  sent : List Nat
  failures : List Nat
  expired : List Nat

def PendingFeedback.wait (self : PendingFeedback) : Wait :=
  ⟨self.ticket, self.suggestionId, self.attempts⟩

def PendingFeedbackRecord.wait (self : PendingFeedbackRecord) : Wait :=
  ⟨self.ticket, self.suggestionId, self.attempts⟩

/-- One more retry has failed. -/
def Wait.again (self : Wait) : Wait := { self with tries := self.tries + 1 }

/-- The view of a program. -/
def Retries.view (s : Retries) : View where
  sending := s.sending.map PendingFeedback.wait
  waiting := (s.spawned ++ s.queue.items ++ s.ready).map PendingFeedback.wait ++
    s.failed.toList.map fun f => f.wait.again
  rows := s.rows.map PendingFeedbackRecord.wait
  given := s.given
  firstFailed := s.firstFailed
  sent := s.sent
  failures := s.failures
  expired := s.expired

/-- The rows of the other suggestions. -/
def otherRows (rows : List Wait) (suggestionId : String) : List Wait :=
  rows.filter fun row => row.suggestionId != suggestionId

/-- Some rows go for their age. -/
structure Aged (rows : List Wait) (expired : List Nat) (rows' : List Wait) (expired' : List Nat) :
    Prop where
  sublist : List.Sublist rows' rows
  gone : ∀ row ∈ rows, row ∈ rows' ∨ row.ticket ∈ expired'
  before : ∀ t ∈ expired, t ∈ expired'

/-- What a move can do to a view. -/
inductive Effect (v : View) : View → Prop where
  | regrouped {waiting : List Wait} (h : waiting.Perm v.waiting) :
      Effect v { v with waiting := waiting }
  | submitted {suggestionId : String}
      (h : ∀ w ∈ v.sending ++ v.waiting, w.suggestionId ≠ suggestionId) :
      Effect v { v with
        sending := v.sending ++ [⟨v.given.length, suggestionId, 0⟩]
        given := v.given ++ [suggestionId] }
  | answered {w : Wait} {sending : List Wait} (h : v.sending.Perm (w :: sending)) :
      Effect v { v with sending := sending, sent := v.sent ++ [w.ticket] }
  | refused {w : Wait} {sending waiting : List Wait} (h : v.sending.Perm (w :: sending))
      (hwaiting : waiting.Perm (w :: v.waiting)) (hroom : v.waiting.length < 100) :
      Effect v { v with
        sending := sending
        waiting := waiting
        rows := otherRows v.rows w.suggestionId ++ [w]
        firstFailed := v.firstFailed ++ [w.ticket] }
  | resent {w : Wait} {waiting : List Wait} (h : v.waiting.Perm (w :: waiting)) :
      Effect v { v with
        waiting := waiting
        rows := otherRows v.rows w.suggestionId
        sent := v.sent ++ [w.ticket] }
  | failedAgain {w : Wait} {rest waiting : List Wait} (h : v.waiting.Perm (w :: rest))
      (hwaiting : waiting.Perm (w.again :: rest)) :
      Effect v { v with waiting := waiting, failures := v.failures ++ [w.ticket] }
  | exhausted {w : Wait} {dropped waiting : List Wait}
      (h : v.waiting.Perm (w :: (dropped ++ waiting)))
      (hdropped : ∀ d ∈ dropped, d.suggestionId = w.suggestionId) (htries : 5 < w.tries) :
      Effect v { v with waiting := waiting, rows := otherRows v.rows w.suggestionId }
  | cleaned {rows : List Wait} {expired : List Nat} (h : Aged v.rows v.expired rows expired) :
      Effect v { v with rows := rows, expired := expired }
  | restarted {rows waiting : List Wait} {expired : List Nat}
      (h : Aged v.rows v.expired rows expired) (hwaiting : waiting.Perm rows) :
      Effect v { v with sending := [], waiting := waiting, rows := rows, expired := expired }

/-! ## What holds of a view -/

/-- The feedbacks on their way are of different suggestions, each is the newest of its suggestion, and
    none is lost. -/
structure Sound (v : View) : Prop where
  apart : ((v.sending ++ v.waiting).map Wait.suggestionId).Nodup
  small : v.waiting.length ≤ 100
  newest : ∀ w ∈ v.sending ++ v.waiting, v.given[w.ticket]? = some w.suggestionId ∧
    ∀ t, v.given[t]? = some w.suggestionId → t ≤ w.ticket
  rowsApart : (v.rows.map Wait.suggestionId).Nodup
  rowWaits : ∀ r ∈ v.rows, ∃ w ∈ v.waiting, w.ticket = r.ticket ∧ w.suggestionId = r.suggestionId
  saved : ∀ w ∈ v.waiting,
    (∃ r ∈ v.rows, r.ticket = w.ticket ∧ r.suggestionId = w.suggestionId) ∨ w.ticket ∈ v.expired
  tries : ∀ w ∈ v.sending ++ v.waiting ++ v.rows, w.tries ≤ v.failures.count w.ticket
  kept : ∀ t ∈ v.firstFailed, t ∈ v.sent ∨ 5 < v.failures.count t ∨ t ∈ v.expired ∨
    ∃ w ∈ v.waiting, w.ticket = t
  ordered : v.sent.Pairwise fun a b => v.given[a]? = v.given[b]? → a ≤ b
  sentGiven : ∀ t ∈ v.sent, t < v.given.length

section

variable {v : View}

theorem mem_otherRows {rows : List Wait} {suggestionId : String} {r : Wait} :
    r ∈ otherRows rows suggestionId ↔ r ∈ rows ∧ r.suggestionId ≠ suggestionId := by
  rw [otherRows, List.mem_filter, bne_iff_ne]

/-- One feedback and the others: they are of other suggestions. -/
theorem apart_cons {l rest : List Wait} {w : Wait} (h : (l.map Wait.suggestionId).Nodup)
    (hperm : l.Perm (w :: rest)) :
    (∀ x ∈ rest, x.suggestionId ≠ w.suggestionId) ∧ (rest.map Wait.suggestionId).Nodup := by
  have hcons := (hperm.map Wait.suggestionId).nodup_iff.mp h
  rw [List.map_cons, List.nodup_cons] at hcons
  exact ⟨fun x hx hsame => hcons.1 (hsame ▸ List.mem_map_of_mem hx), hcons.2⟩

/-- A feedback on its way is sent after the earlier ones of its suggestion. -/
theorem Sound.sent_append (h : Sound v) {w : Wait} (hw : w ∈ v.sending ++ v.waiting) :
    ((v.sent ++ [w.ticket]).Pairwise fun a b => v.given[a]? = v.given[b]? → a ≤ b) ∧
      ∀ t ∈ v.sent ++ [w.ticket], t < v.given.length := by
  obtain ⟨hgiven, hnewest⟩ := h.newest w hw
  refine ⟨List.pairwise_append.mpr ⟨h.ordered, List.pairwise_singleton _ _, fun a _ b hb heq => ?_⟩,
    fun t ht => ?_⟩
  · rw [List.mem_singleton.mp hb] at heq ⊢
    exact hnewest a (heq.trans hgiven)
  · rcases List.mem_append.mp ht with ht | ht
    · exact h.sentGiven t ht
    · rw [List.mem_singleton.mp ht]
      exact (List.getElem?_eq_some_iff.mp hgiven).1

/-- The order of what waits does not matter. -/
theorem Sound.regrouped (h : Sound v) {waiting : List Wait} (hperm : waiting.Perm v.waiting) :
    Sound { v with waiting := waiting } where
  apart := ((hperm.append_left v.sending).map _).nodup_iff.mpr h.apart
  small := hperm.length_eq ▸ h.small
  newest w hw := h.newest w ((hperm.append_left v.sending).mem_iff.mp hw)
  rowsApart := h.rowsApart
  rowWaits r hr := by
    obtain ⟨w, hw, hsame⟩ := h.rowWaits r hr
    exact ⟨w, hperm.mem_iff.mpr hw, hsame⟩
  saved w hw := h.saved w (hperm.mem_iff.mp hw)
  tries w hw := h.tries w (((hperm.append_left v.sending).append_right v.rows).mem_iff.mp hw)
  kept t ht := by
    refine (h.kept t ht).imp_right (.imp_right (.imp_right fun ⟨w, hw, hsame⟩ => ?_))
    exact ⟨w, hperm.mem_iff.mpr hw, hsame⟩
  ordered := h.ordered
  sentGiven := h.sentGiven

/-- **A feedback is given**: a call sends it. -/
theorem Sound.submitted (h : Sound v) {suggestionId : String}
    (hnew : ∀ w ∈ v.sending ++ v.waiting, w.suggestionId ≠ suggestionId) :
    Sound { v with
      sending := v.sending ++ [⟨v.given.length, suggestionId, 0⟩]
      given := v.given ++ [suggestionId] } := by
  have hperm : (v.sending ++ [Wait.mk v.given.length suggestionId 0] ++ v.waiting).Perm
      (Wait.mk v.given.length suggestionId 0 :: (v.sending ++ v.waiting)) := by
    rw [List.append_assoc]
    exact List.perm_middle
  have hold : ∀ {t}, t < v.given.length → (v.given ++ [suggestionId])[t]? = v.given[t]? :=
    fun ht => List.getElem?_append_left ht
  refine ⟨?_, h.small, fun w hw => ?_, h.rowsApart, h.rowWaits, h.saved, fun w hw => ?_, h.kept, ?_,
    fun t ht => ?_⟩
  · rw [(hperm.map _).nodup_iff, List.map_cons, List.nodup_cons]
    refine ⟨fun hmem => ?_, h.apart⟩
    obtain ⟨w, hw, hsame⟩ := List.mem_map.mp hmem
    exact hnew w hw hsame
  · rcases List.mem_cons.mp (hperm.mem_iff.mp hw) with rfl | hw
    · refine ⟨List.getElem?_concat_length, fun t ht => ?_⟩
      have hlt := (List.getElem?_eq_some_iff.mp ht).1
      rw [List.length_append, List.length_singleton] at hlt
      exact Nat.le_of_lt_succ hlt
    · obtain ⟨hgiven, hnewest⟩ := h.newest w hw
      refine ⟨(hold (List.getElem?_eq_some_iff.mp hgiven).1).trans hgiven, fun t ht => ?_⟩
      by_cases hlt : t < v.given.length
      · exact hnewest t ((hold hlt).symm.trans ht)
      · have hle := (List.getElem?_eq_some_iff.mp ht).1
        rw [List.length_append, List.length_singleton] at hle
        have hlast : t = v.given.length := by omega
        rw [hlast, List.getElem?_concat_length] at ht
        exact absurd (Option.some.inj ht).symm (hnew w hw)
  · rcases List.mem_append.mp hw with hw | hw
    · rcases List.mem_cons.mp (hperm.mem_iff.mp hw) with rfl | hw
      · exact Nat.zero_le _
      · exact h.tries w (List.mem_append_left _ hw)
    · exact h.tries w (List.mem_append_right _ hw)
  · refine h.ordered.imp_of_mem fun ha hb hle heq => hle ?_
    rw [← hold (h.sentGiven _ ha), ← hold (h.sentGiven _ hb)]
    exact heq
  · rw [List.length_append]
    exact Nat.lt_of_lt_of_le (h.sentGiven t ht) (Nat.le_add_right _ _)

theorem Sound.answered (h : Sound v) {w : Wait} {sending : List Wait}
    (hperm : v.sending.Perm (w :: sending)) :
    Sound { v with sending := sending, sent := v.sent ++ [w.ticket] } := by
  have hall : (v.sending ++ v.waiting).Perm (w :: (sending ++ v.waiting)) :=
    hperm.append_right v.waiting
  have hmem : ∀ x ∈ sending ++ v.waiting, x ∈ v.sending ++ v.waiting :=
    fun x hx => hall.mem_iff.mpr (List.mem_cons_of_mem w hx)
  obtain ⟨hordered, hgiven⟩ := h.sent_append (hall.mem_iff.mpr List.mem_cons_self)
  refine ⟨(apart_cons h.apart hall).2, h.small, fun x hx => h.newest x (hmem x hx), h.rowsApart,
    h.rowWaits, h.saved, fun x hx => h.tries x ?_, fun t ht => ?_, hordered, hgiven⟩
  · exact (List.mem_append.mp hx).elim (fun hx => List.mem_append_left _ (hmem x hx))
      (List.mem_append_right _)
  · exact (h.kept t ht).imp_left (List.mem_append_left _)

/-- **The first send fails**: the feedback waits. -/
theorem Sound.refused (h : Sound v) {w : Wait} {sending waiting : List Wait}
    (hperm : v.sending.Perm (w :: sending)) (hwaiting : waiting.Perm (w :: v.waiting))
    (hroom : v.waiting.length < 100) :
    Sound { v with
      sending := sending
      waiting := waiting
      rows := otherRows v.rows w.suggestionId ++ [w]
      firstFailed := v.firstFailed ++ [w.ticket] } := by
  have hall : (sending ++ waiting).Perm (v.sending ++ v.waiting) :=
    ((hwaiting.append_left sending).trans List.perm_middle).trans (hperm.append_right _).symm
  have hsplit : (v.sending ++ v.waiting).Perm (w :: (sending ++ v.waiting)) :=
    hperm.append_right v.waiting
  have hother : ∀ x ∈ v.waiting, x.suggestionId ≠ w.suggestionId :=
    fun x hx => (apart_cons h.apart hsplit).1 x (List.mem_append_right _ hx)
  have hw : w ∈ v.sending ++ v.waiting := hsplit.mem_iff.mpr List.mem_cons_self
  refine ⟨(hall.map _).nodup_iff.mpr h.apart, ?_, fun x hx => h.newest x (hall.mem_iff.mp hx), ?_,
    fun r hr => ?_, fun x hx => ?_, fun x hx => ?_, fun t ht => ?_, h.ordered, h.sentGiven⟩
  · rw [hwaiting.length_eq, List.length_cons]
    exact hroom
  · rw [List.map_append, List.nodup_append]
    refine ⟨(h.rowsApart.sublist (List.filter_sublist.map _)), List.nodup_singleton _,
      fun a ha b hb => ?_⟩
    obtain ⟨r, hr, rfl⟩ := List.mem_map.mp ha
    rw [List.mem_singleton.mp hb]
    exact (mem_otherRows.mp hr).2
  · rcases List.mem_append.mp hr with hr | hr
    · obtain ⟨x, hx, hsame⟩ := h.rowWaits r (mem_otherRows.mp hr).1
      exact ⟨x, hwaiting.mem_iff.mpr (List.mem_cons_of_mem w hx), hsame⟩
    · rw [List.mem_singleton.mp hr]
      exact ⟨w, hwaiting.mem_iff.mpr List.mem_cons_self, rfl, rfl⟩
  · rcases List.mem_cons.mp (hwaiting.mem_iff.mp hx) with rfl | hx
    · exact .inl ⟨x, List.mem_append_right _ (List.mem_singleton_self x), rfl, rfl⟩
    · refine (h.saved x hx).imp_left fun ⟨r, hr, ht, hs⟩ => ⟨r, List.mem_append_left _ ?_, ht, hs⟩
      exact mem_otherRows.mpr ⟨hr, fun hsame => hother x hx (hs.symm.trans hsame)⟩
  · rcases List.mem_append.mp hx with hx | hx
    · exact h.tries x (List.mem_append_left _ (hall.mem_iff.mp hx))
    · rcases List.mem_append.mp hx with hx | hx
      · exact h.tries x (List.mem_append_right _ (mem_otherRows.mp hx).1)
      · rw [List.mem_singleton.mp hx]
        exact h.tries w (List.mem_append_left _ hw)
  · rcases List.mem_append.mp ht with ht | ht
    · refine (h.kept t ht).imp_right (.imp_right (.imp_right fun ⟨x, hx, hsame⟩ => ?_))
      exact ⟨x, hwaiting.mem_iff.mpr (List.mem_cons_of_mem w hx), hsame⟩
    · rw [List.mem_singleton.mp ht]
      exact .inr (.inr (.inr ⟨w, hwaiting.mem_iff.mpr List.mem_cons_self, rfl⟩))

/-- A feedback that is sent, or has failed often enough, goes with its row. -/
theorem Sound.done (h : Sound v) {w : Wait} {waiting : List Wait} {sent : List Nat}
    (hperm : v.waiting.Perm (w :: waiting)) (hsent : ∀ t ∈ v.sent, t ∈ sent)
    (hdone : w.ticket ∈ sent ∨ 5 < v.failures.count w.ticket)
    (hordered : sent.Pairwise fun a b => v.given[a]? = v.given[b]? → a ≤ b)
    (hgiven : ∀ t ∈ sent, t < v.given.length) :
    Sound { v with
      waiting := waiting
      rows := otherRows v.rows w.suggestionId
      sent := sent } := by
  have hall : (v.sending ++ v.waiting).Perm (w :: (v.sending ++ waiting)) :=
    (hperm.append_left v.sending).trans List.perm_middle
  obtain ⟨hother, hapart⟩ := apart_cons h.apart hall
  have hmem : ∀ x ∈ v.sending ++ waiting, x ∈ v.sending ++ v.waiting :=
    fun x hx => hall.mem_iff.mpr (List.mem_cons_of_mem w hx)
  refine ⟨hapart, ?_, fun x hx => h.newest x (hmem x hx),
    h.rowsApart.sublist (List.filter_sublist.map _), fun r hr => ?_, fun x hx => ?_, fun x hx => ?_,
    fun t ht => ?_, hordered, hgiven⟩
  · have hsmall := h.small
    rw [hperm.length_eq, List.length_cons] at hsmall
    exact Nat.le_of_succ_le hsmall
  · obtain ⟨hrow, hne⟩ := mem_otherRows.mp hr
    obtain ⟨x, hx, ht, hs⟩ := h.rowWaits r hrow
    rcases List.mem_cons.mp (hperm.mem_iff.mp hx) with rfl | hx
    · exact absurd hs.symm hne
    · exact ⟨x, hx, ht, hs⟩
  · refine (h.saved x (hperm.mem_iff.mpr (List.mem_cons_of_mem w hx))).imp_left
      fun ⟨r, hr, ht, hs⟩ => ⟨r, mem_otherRows.mpr ⟨hr, ?_⟩, ht, hs⟩
    rw [hs]
    exact hother x (List.mem_append_right _ hx)
  · rcases List.mem_append.mp hx with hx | hx
    · exact h.tries x (List.mem_append_left _ (hmem x hx))
    · exact h.tries x (List.mem_append_right _ (mem_otherRows.mp hx).1)
  · rcases h.kept t ht with hold | hold | hold | ⟨x, hx, hsame⟩
    · exact .inl (hsent t hold)
    · exact .inr (.inl hold)
    · exact .inr (.inr (.inl hold))
    · rcases List.mem_cons.mp (hperm.mem_iff.mp hx) with rfl | hx
      · rw [← hsame]
        exact hdone.imp_right .inl
      · exact .inr (.inr (.inr ⟨x, hx, hsame⟩))

/-- **A retry fails**: the feedback waits on, with one attempt more. -/
theorem Sound.failedAgain (h : Sound v) {w : Wait} {rest waiting : List Wait}
    (hperm : v.waiting.Perm (w :: rest)) (hwaiting : waiting.Perm (w.again :: rest)) :
    Sound { v with waiting := waiting, failures := v.failures ++ [w.ticket] } := by
  have hcount : ∀ t, v.failures.count t ≤ (v.failures ++ [w.ticket]).count t :=
    fun t => (List.sublist_append_left _ _).count_le t
  have hold : ∀ x ∈ waiting, ∃ y ∈ v.waiting, y.ticket = x.ticket ∧ y.suggestionId = x.suggestionId ∧
      x.tries ≤ (v.failures ++ [w.ticket]).count x.ticket := by
    intro x hx
    rcases List.mem_cons.mp (hwaiting.mem_iff.mp hx) with rfl | hx
    · have hw := hperm.mem_iff.mpr List.mem_cons_self
      refine ⟨w, hw, rfl, rfl, ?_⟩
      have htries := h.tries w (List.mem_append_left _ (List.mem_append_right _ hw))
      rw [Wait.again, List.count_append, List.count_singleton_self]
      exact Nat.succ_le_succ htries
    · have hx := hperm.mem_iff.mpr (List.mem_cons_of_mem w hx)
      exact ⟨x, hx, rfl, rfl,
        (h.tries x (List.mem_append_left _ (List.mem_append_right _ hx))).trans (hcount _)⟩
  have hnow : ∀ y ∈ v.waiting, ∃ x ∈ waiting, x.ticket = y.ticket ∧
      x.suggestionId = y.suggestionId := by
    intro y hy
    rcases List.mem_cons.mp (hperm.mem_iff.mp hy) with rfl | hy
    · exact ⟨y.again, hwaiting.mem_iff.mpr List.mem_cons_self, rfl, rfl⟩
    · exact ⟨y, hwaiting.mem_iff.mpr (List.mem_cons_of_mem _ hy), rfl, rfl⟩
  have hids : (waiting.map Wait.suggestionId).Perm (v.waiting.map Wait.suggestionId) :=
    (hwaiting.map Wait.suggestionId).trans (hperm.map Wait.suggestionId).symm
  refine ⟨?_, ?_, fun x hx => ?_, h.rowsApart, fun r hr => ?_, fun x hx => ?_, fun x hx => ?_,
    fun t ht => ?_, h.ordered, h.sentGiven⟩
  · have happart := h.apart
    rw [List.map_append] at happart ⊢
    exact (hids.append_left _).nodup_iff.mpr happart
  · have hlength := hids.length_eq
    rw [List.length_map, List.length_map] at hlength
    exact hlength ▸ h.small
  · rcases List.mem_append.mp hx with hx | hx
    · exact h.newest x (List.mem_append_left _ hx)
    · obtain ⟨y, hy, ht, hs, -⟩ := hold x hx
      rw [← ht, ← hs]
      exact h.newest y (List.mem_append_right _ hy)
  · obtain ⟨y, hy, ht, hs⟩ := h.rowWaits r hr
    obtain ⟨x, hx, ht', hs'⟩ := hnow y hy
    exact ⟨x, hx, ht'.trans ht, hs'.trans hs⟩
  · obtain ⟨y, hy, ht, hs, -⟩ := hold x hx
    rw [← ht, ← hs]
    exact h.saved y hy
  · rcases List.mem_append.mp hx with hx | hx
    · rcases List.mem_append.mp hx with hx | hx
      · exact (h.tries x (List.mem_append_left _ (List.mem_append_left _ hx))).trans (hcount _)
      · obtain ⟨-, -, -, -, htries⟩ := hold x hx
        exact htries
    · exact (h.tries x (List.mem_append_right _ hx)).trans (hcount _)
  · rcases h.kept t ht with hsent | hfailed | hexpired | ⟨y, hy, hsame⟩
    · exact .inl hsent
    · exact .inr (.inl (hfailed.trans_le (hcount t)))
    · exact .inr (.inr (.inl hexpired))
    · obtain ⟨x, hx, ht', -⟩ := hnow y hy
      exact .inr (.inr (.inr ⟨x, hx, ht'.trans hsame⟩))

theorem Sound.cleaned (h : Sound v) {rows : List Wait} {expired : List Nat}
    (haged : Aged v.rows v.expired rows expired) :
    Sound { v with rows := rows, expired := expired } := by
  refine ⟨h.apart, h.small, h.newest, h.rowsApart.sublist (haged.sublist.map _),
    fun r hr => h.rowWaits r (haged.sublist.subset hr), fun w hw => ?_, fun w hw => ?_,
    fun t ht => ?_, h.ordered, h.sentGiven⟩
  · rcases h.saved w hw with ⟨r, hr, ht, hs⟩ | hexpired
    · exact (haged.gone r hr).imp (fun hr => ⟨r, hr, ht, hs⟩) fun hexpired => ht ▸ hexpired
    · exact .inr (haged.before _ hexpired)
  · rcases List.mem_append.mp hw with hw | hw
    · exact h.tries w (List.mem_append_left _ hw)
    · exact h.tries w (List.mem_append_right _ (haged.sublist.subset hw))
  · exact (h.kept t ht).imp_right (.imp_right (.imp_left (haged.before t)))

/-- **A restart**: what waits is what the rows say, less those that are too old. -/
theorem Sound.restarted (h : Sound v) {rows waiting : List Wait} {expired : List Nat}
    (haged : Aged v.rows v.expired rows expired) (hwaiting : waiting.Perm rows) :
    Sound { v with sending := [], waiting := waiting, rows := rows, expired := expired } := by
  have hrow : ∀ w ∈ waiting, w ∈ v.rows :=
    fun w hw => haged.sublist.subset (hwaiting.mem_iff.mp hw)
  have hids : (waiting.map Wait.suggestionId).Nodup :=
    (hwaiting.map _).nodup_iff.mpr (h.rowsApart.sublist (haged.sublist.map _))
  have hsubset : waiting.map Wait.suggestionId ⊆ v.waiting.map Wait.suggestionId := by
    intro suggestionId hmem
    obtain ⟨w, hw, rfl⟩ := List.mem_map.mp hmem
    obtain ⟨x, hx, -, hs⟩ := h.rowWaits w (hrow w hw)
    exact hs ▸ List.mem_map_of_mem hx
  have hexpired : ∀ w ∈ v.waiting, (∃ x ∈ waiting, x.ticket = w.ticket) ∨ w.ticket ∈ expired := by
    intro w hw
    rcases h.saved w hw with ⟨r, hr, ht, -⟩ | hexpired
    · exact (haged.gone r hr).imp (fun hr => ⟨r, hwaiting.mem_iff.mpr hr, ht⟩)
        fun hexpired => ht ▸ hexpired
    · exact .inr (haged.before _ hexpired)
  refine ⟨hids, ?_, fun w hw => ?_, h.rowsApart.sublist (haged.sublist.map _), fun r hr => ?_,
    fun w hw => .inl ⟨w, hwaiting.mem_iff.mp hw, rfl, rfl⟩, fun w hw => ?_, fun t ht => ?_, h.ordered,
    h.sentGiven⟩
  · have hle := (hids.subperm hsubset).length_le
    rw [List.length_map, List.length_map] at hle
    exact hle.trans h.small
  · obtain ⟨x, hx, ht, hs⟩ := h.rowWaits w (hrow w hw)
    rw [← ht, ← hs]
    exact h.newest x (List.mem_append_right _ hx)
  · exact ⟨r, hwaiting.mem_iff.mpr hr, rfl, rfl⟩
  · rcases List.mem_append.mp hw with hw | hw
    · exact h.tries w (List.mem_append_right _ (hrow w hw))
    · exact h.tries w (List.mem_append_right _ (haged.sublist.subset hw))
  · rcases h.kept t ht with hsent | hfailed | hold | ⟨w, hw, hsame⟩
    · exact .inl hsent
    · exact .inr (.inl hfailed)
    · exact .inr (.inr (.inl (haged.before t hold)))
    · rw [← hsame]
      exact .inr (.inr ((hexpired w hw).symm))

/-- **A move** keeps a view sound. -/
theorem Sound.effect (h : Sound v) {v' : View} (heffect : Effect v v') : Sound v' := by
  cases heffect with
  | regrouped hperm => exact h.regrouped hperm
  | submitted hnew => exact h.submitted hnew
  | answered hperm => exact h.answered hperm
  | refused hperm hwaiting hroom => exact h.refused hperm hwaiting hroom
  | resent hperm =>
    have hw := List.mem_append_right v.sending (hperm.mem_iff.mpr List.mem_cons_self)
    obtain ⟨hordered, hgiven⟩ := h.sent_append hw
    exact h.done hperm (fun t ht => List.mem_append_left _ ht)
      (.inl (List.mem_append_right _ (List.mem_singleton_self _))) hordered hgiven
  | failedAgain hperm hwaiting => exact h.failedAgain hperm hwaiting
  | @exhausted w dropped waiting hperm hdropped htries =>
    have hw := List.mem_append_right v.sending (hperm.mem_iff.mpr List.mem_cons_self)
    have hall := (hperm.append_left v.sending).trans List.perm_middle
    have hnone : dropped = [] := by
      refine List.eq_nil_iff_forall_not_mem.mpr fun d hd => ?_
      exact (apart_cons h.apart hall).1 d
        (List.mem_append_right _ (List.mem_append_left _ hd)) (hdropped d hd)
    rw [hnone, List.nil_append] at hperm
    exact h.done hperm (fun t ht => ht)
      (.inr (htries.trans_le (h.tries w (List.mem_append_left _ hw)))) h.ordered h.sentGiven
  | cleaned haged => exact h.cleaned haged
  | restarted haged hwaiting => exact h.restarted haged hwaiting

end

/-! ## The program and its view -/

/-- The feedbacks whose first send failed and that are still to be sent. -/
def Retries.waiting (s : Retries) : List PendingFeedback :=
  s.spawned ++ s.queue.items ++ s.ready ++ s.failed.toList

/-- At most as many feedbacks wait as the queue holds. -/
def Room (s : Retries) : RetryMove → Prop
  | .answer _ false _ => s.waiting.length < 100
  | _ => True

/-- A suggestion gets no feedback while an earlier one of it is on its way. -/
def OneAtATime (s : Retries) : RetryMove → Prop
  | .submit suggestionId _ => ∀ f ∈ s.sending ++ s.waiting, f.suggestionId ≠ suggestionId
  | _ => True

instance (s : Retries) (m : RetryMove) : Decidable (Room s m ∧ OneAtATime s m) :=
  match m with
  | .submit _ _ => inferInstanceAs (Decidable (True ∧ ∀ f ∈ _, _))
  | .answer _ true _ => inferInstanceAs (Decidable (True ∧ True))
  | .answer _ false _ => inferInstanceAs (Decidable (_ < _ ∧ True))
  | .enqueue _ _ | .collect _ | .retry _ | .settle _ | .cleanUp _ | .restart _ =>
    inferInstanceAs (Decidable (True ∧ True))

/-- The sizes are those of the start, and the rows can be read. -/
structure Formed (s : Retries) : Prop where
  size : s.queue.maxSize = 100
  attempts : s.queue.maxAttempts = 5
  read : ∀ row ∈ s.rows, row.intoDomainParts.isSome

theorem intoDomainParts_wait {row : PendingFeedbackRecord} {f : PendingFeedback}
    (h : row.intoDomainParts = some f) : f.wait = row.wait := by
  obtain ⟨_, _, rfl⟩ := Option.map_eq_some_iff.mp h
  rfl

theorem intoDomainParts_newForInsert (f : PendingFeedback) (now : Nat) :
    (PendingFeedbackRecord.newForInsert f now).intoDomainParts = some f := by
  simp [PendingFeedbackRecord.intoDomainParts, PendingFeedbackRecord.newForInsert,
    FeedbackType.ofText_toText]

theorem pushBack_items (queue : FeedbackRetryQueue) (f : PendingFeedback)
    (h : queue.items.length < queue.maxSize) : (queue.pushBack f).items = queue.items ++ [f] := by
  rw [FeedbackRetryQueue.pushBack, if_neg (Nat.not_le.mpr h)]

/-- What a start makes of the rows that it goes through. -/
theorem restoreFeedbacks_spec {now : Nat} {records rows : List PendingFeedbackRecord}
    {queue : FeedbackRetryQueue} (hroom : queue.items.length + records.length ≤ queue.maxSize)
    (hread : ∀ row ∈ records, row.intoDomainParts.isSome) :
    (restoreFeedbacks now records (queue, rows)).1.items.map PendingFeedback.wait =
        queue.items.map PendingFeedback.wait ++
          (records.filter fun row => !row.orphaned now).map PendingFeedbackRecord.wait ∧
      (restoreFeedbacks now records (queue, rows)).2 = rows.filter (fun row =>
        !records.any fun record => record.orphaned now && record.suggestionId == row.suggestionId) ∧
      (restoreFeedbacks now records (queue, rows)).1.maxSize = queue.maxSize ∧
      (restoreFeedbacks now records (queue, rows)).1.maxAttempts = queue.maxAttempts := by
  induction records generalizing queue rows with
  | nil =>
    refine ⟨(List.append_nil _).symm, ?_, rfl, rfl⟩
    simp [restoreFeedbacks]
  | cons record records ih =>
    rw [List.length_cons] at hroom
    have hrest := fun row hrow => hread row (List.mem_cons_of_mem record hrow)
    rw [restoreFeedbacks]
    by_cases horphaned : record.orphaned now = true
    · rw [if_pos horphaned]
      obtain ⟨hitems, hrows, hsize, hattempts⟩ :=
        @ih (deletePendingFeedback rows record.suggestionId) queue (by omega) hrest
      refine ⟨by simp [hitems, horphaned], ?_, hsize, hattempts⟩
      rw [hrows, deletePendingFeedback, List.filter_filter]
      refine List.filter_congr fun row _ => ?_
      rw [List.any_cons, horphaned, Bool.true_and, Bool.not_or, bne, Bool.and_comm, Bool.beq_comm]
    · rw [if_neg horphaned]
      obtain ⟨f, hf⟩ := Option.isSome_iff_exists.mp (hread record List.mem_cons_self)
      have hpush := pushBack_items queue { f with nextRetryAt := now + retryDelay f.attempts }
        (by omega)
      obtain ⟨hitems, hrows, hsize, hattempts⟩ := @ih rows (queue.enqueue f now)
        (by rw [FeedbackRetryQueue.enqueue, hpush, List.length_append, List.length_singleton]
            exact (by omega : queue.items.length + 1 + records.length ≤ queue.maxSize)) hrest
      rw [hf]
      refine ⟨?_, ?_, hsize, hattempts⟩
      · dsimp only
        rw [hitems, FeedbackRetryQueue.enqueue, hpush]
        simp [horphaned, ← intoDomainParts_wait hf, PendingFeedback.wait]
      · dsimp only
        rw [hrows]
        simp [horphaned]

theorem otherRows_map (rows : List PendingFeedbackRecord) (suggestionId : String) :
    (deletePendingFeedback rows suggestionId).map PendingFeedbackRecord.wait =
      otherRows (rows.map PendingFeedbackRecord.wait) suggestionId := by
  rw [deletePendingFeedback, otherRows, List.filter_map]
  rfl

/-- One of a list of feedbacks and the others. -/
theorem perm_eraseIdx {l : List PendingFeedback} {index : Nat} {f : PendingFeedback}
    (h : l[index]? = some f) :
    (l.map PendingFeedback.wait).Perm (f.wait :: (l.eraseIdx index).map PendingFeedback.wait) := by
  obtain ⟨hlt, rfl⟩ := List.getElem?_eq_some_iff.mp h
  exact (List.getElem_cons_eraseIdx_perm hlt).symm.map PendingFeedback.wait

theorem Retries.waiting_length (s : Retries) : s.view.waiting.length = s.waiting.length := by
  simp [Retries.view, Retries.waiting]

variable {s : Retries}

/-- The first send of a feedback returns. -/
theorem effect_answer {index now : Nat} {ok : Bool} (hroom : Room s (.answer index ok now)) :
    Effect s.view (retryStep s (.answer index ok now)).view := by
  simp only [retryStep]
  split
  · exact .regrouped (.refl _)
  · rename_i f hf
    have hperm := perm_eraseIdx hf
    cases ok with
    | true => exact Effect.answered (v := s.view) hperm
    | false =>
      have hlt : s.view.waiting.length < 100 := s.waiting_length ▸ hroom
      have hrefused := @Effect.refused s.view f.wait _
        ((s.spawned ++ [{ f with nextRetryAt := now }] ++ s.queue.items ++ s.ready).map
          PendingFeedback.wait ++ s.failed.toList.map fun f => f.wait.again) hperm ?_ hlt
      · simp only [Bool.false_eq_true, if_false, Retries.view, savePendingFeedback, List.map_append,
          List.map_cons, List.map_nil, otherRows_map] at hrefused ⊢
        exact hrefused
      · refine List.perm_iff_count.mpr fun x => ?_
        simp only [Retries.view, List.map_append, List.map_cons, List.map_nil, List.count_append,
          List.count_cons, List.count_nil, PendingFeedback.wait]
        omega

/-- A task queues its feedback. -/
theorem effect_enqueue {index now : Nat} (hsize : s.queue.maxSize = 100)
    (hsmall : s.view.waiting.length ≤ 100) :
    Effect s.view (retryStep s (.enqueue index now)).view := by
  simp only [retryStep]
  split
  · exact .regrouped (.refl _)
  · rename_i f hf
    have hperm := perm_eraseIdx hf
    have hlt : s.queue.items.length < s.queue.maxSize := by
      obtain ⟨hindex, -⟩ := List.getElem?_eq_some_iff.mp hf
      rw [s.waiting_length, Retries.waiting] at hsmall
      simp only [List.length_append] at hsmall
      omega
    refine @Effect.regrouped s.view ((s.spawned.eraseIdx index ++ (s.queue.enqueue f now).items ++
      s.ready).map PendingFeedback.wait ++ s.failed.toList.map fun f => f.wait.again) ?_
    rw [FeedbackRetryQueue.enqueue, pushBack_items _ _ hlt]
    refine List.perm_iff_count.mpr fun x => ?_
    have hcount := hperm.count_eq x
    simp only [Retries.view, List.map_append, List.map_cons, List.map_nil, List.count_append,
      List.count_cons, List.count_nil, PendingFeedback.wait] at hcount ⊢
    omega

/-- The maintenance loop takes out what is ready. -/
theorem effect_collect (s : Retries) (now : Nat) :
    Effect s.view (retryStep s (.collect now)).view := by
  simp only [retryStep]
  split
  · rename_i hidle
    have hready : s.ready = [] := by simp at hidle; exact hidle.1
    refine @Effect.regrouped s.view ((s.spawned ++ (s.queue.collectReady now).1.items ++
      (s.queue.collectReady now).2).map PendingFeedback.wait ++
        s.failed.toList.map fun f => f.wait.again) ?_
    have hperm := (List.filter_append_perm (fun f => decide (f.nextRetryAt ≤ now)) s.queue.items).map
      PendingFeedback.wait
    refine List.perm_iff_count.mpr fun x => ?_
    have hcount := hperm.count_eq x
    simp only [Retries.view, FeedbackRetryQueue.collectReady, hready, List.map_append, List.map_nil,
      List.count_append, List.count_nil] at hcount ⊢
    omega
  · exact .regrouped (.refl _)

/-- A retry returns. -/
theorem effect_retry (s : Retries) (ok : Bool) : Effect s.view (retryStep s (.retry ok)).view := by
  simp only [retryStep]
  split
  · rename_i pending ready hfailed hready
    cases ok with
    | true =>
      have hresent := @Effect.resent s.view pending.wait
        ((s.spawned ++ s.queue.items ++ ready).map PendingFeedback.wait ++
          s.failed.toList.map fun f => f.wait.again) ?_
      · simp only [if_true, Retries.view, otherRows_map] at hresent ⊢
        exact hresent
      · refine List.perm_iff_count.mpr fun x => ?_
        simp only [Retries.view, hready, List.map_append, List.map_cons, List.count_append,
          List.count_cons]
        omega
    | false =>
      refine @Effect.failedAgain s.view pending.wait
        ((s.spawned ++ s.queue.items ++ ready).map PendingFeedback.wait)
        ((s.spawned ++ s.queue.items ++ ready).map PendingFeedback.wait ++
          (some pending).toList.map fun f => f.wait.again) ?_ ?_
      · refine List.perm_iff_count.mpr fun x => ?_
        simp only [Retries.view, hready, hfailed, List.map_append, List.map_cons, List.count_append,
          List.count_cons, Option.toList_none, List.map_nil, List.count_nil]
        omega
      · exact List.perm_append_comm
  · exact .regrouped (.refl _)

/-- The maintenance loop settles a failed retry. -/
theorem effect_settle {now : Nat} (hsize : s.queue.maxSize = 100)
    (hattempts : s.queue.maxAttempts = 5) (hsmall : s.view.waiting.length ≤ 100) :
    Effect s.view (retryStep s (.settle now)).view := by
  simp only [retryStep]
  split
  · exact .regrouped (.refl _)
  · rename_i pending hfailed
    by_cases hexhausted : s.queue.isExhausted pending = true
    · rw [if_pos hexhausted]
      have htries : 5 < pending.wait.again.tries := by
        have hle := of_decide_eq_true hexhausted
        rw [hattempts] at hle
        exact Nat.lt_succ_of_le hle
      have hsplit := (List.filter_append_perm (fun f : PendingFeedback =>
        f.suggestionId != pending.suggestionId) s.queue.items).map PendingFeedback.wait
      have heffect := @Effect.exhausted s.view pending.wait.again
        ((s.queue.items.filter fun f => !(f.suggestionId != pending.suggestionId)).map
          PendingFeedback.wait)
        ((s.spawned ++ (s.queue.dropExhausted pending.suggestionId).items ++ s.ready).map
          PendingFeedback.wait ++ (none : Option PendingFeedback).toList.map fun f => f.wait.again)
        ?_ ?_ htries
      · simp only [Retries.view, otherRows_map] at heffect ⊢
        exact heffect
      · refine List.perm_iff_count.mpr fun x => ?_
        have hcount := hsplit.count_eq x
        simp only [Retries.view, hfailed, FeedbackRetryQueue.dropExhausted, List.map_append,
          List.map_cons, List.map_nil, List.count_append, List.count_cons, List.count_nil,
          Option.toList_some, Option.toList_none] at hcount ⊢
        omega
      · intro d hd
        obtain ⟨f, hf, rfl⟩ := List.mem_map.mp hd
        have hsame : f.suggestionId = pending.suggestionId := by simpa using (List.mem_filter.mp hf).2
        exact hsame
    · rw [if_neg hexhausted]
      have hlt : s.queue.items.length < s.queue.maxSize := by
        rw [s.waiting_length, Retries.waiting, hfailed] at hsmall
        simp only [List.length_append, Option.toList_some, List.length_singleton] at hsmall
        omega
      refine @Effect.regrouped s.view ((s.spawned ++ (s.queue.retryFailed pending now).items ++
        s.ready).map PendingFeedback.wait ++
          (none : Option PendingFeedback).toList.map fun f => f.wait.again) ?_
      rw [FeedbackRetryQueue.retryFailed, pushBack_items _ _ hlt]
      refine List.perm_iff_count.mpr fun x => ?_
      simp only [Retries.view, hfailed, List.map_append, List.map_cons, List.map_nil,
        List.count_append, List.count_cons, List.count_nil, Option.toList_some, Option.toList_none,
        PendingFeedback.wait, Wait.again]
      omega

/-- A feedback that is given is one that a call sends. -/
theorem effect_submit {suggestionId : String} {feedbackType : FeedbackType}
    (hone : OneAtATime s (.submit suggestionId feedbackType)) :
    Effect s.view (retryStep s (.submit suggestionId feedbackType)).view := by
  have heffect := @Effect.submitted s.view suggestionId ?_
  · simp only [retryStep, Retries.view, List.map_append, List.map_cons, List.map_nil,
      PendingFeedback.wait] at heffect ⊢
    exact heffect
  · intro w hw
    have hf : ∃ f ∈ s.sending ++ s.waiting, f.suggestionId = w.suggestionId := by
      rcases List.mem_append.mp hw with hw | hw
      · obtain ⟨f, hf, rfl⟩ := List.mem_map.mp hw
        exact ⟨f, List.mem_append_left _ hf, rfl⟩
      · rcases List.mem_append.mp hw with hw | hw
        · obtain ⟨f, hf, rfl⟩ := List.mem_map.mp hw
          exact ⟨f, List.mem_append_right _ (List.mem_append_left _ hf), rfl⟩
        · obtain ⟨f, hf, rfl⟩ := List.mem_map.mp hw
          exact ⟨f, List.mem_append_right _ (List.mem_append_right _ hf), rfl⟩
    obtain ⟨f, hf, hsame⟩ := hf
    exact hsame ▸ hone f hf

/-- The maintenance loop deletes the old rows. -/
theorem effect_cleanUp (s : Retries) (now : Nat) :
    Effect s.view (retryStep s (.cleanUp now)).view := by
  simp only [retryStep]
  split
  · refine Effect.cleaned (v := s.view) ⟨List.filter_sublist.map _, fun r hr => ?_,
      fun t ht => List.mem_append_left _ ht⟩
    obtain ⟨row, hrow, rfl⟩ := List.mem_map.mp hr
    by_cases hold : row.cleanedUp now = true
    · exact .inr (List.mem_append_right _ (List.mem_map_of_mem (f := PendingFeedbackRecord.ticket)
        (List.mem_filter.mpr ⟨hrow, hold⟩)))
    · exact .inl (List.mem_map_of_mem (List.mem_filter.mpr ⟨hrow, by simp [hold]⟩))
  · exact .regrouped (.refl _)

/-- No more rows than feedbacks that wait. -/
theorem Sound.rows_length (h : Sound s.view) : s.rows.length ≤ 100 := by
  have hsubset : s.view.rows.map Wait.suggestionId ⊆ s.view.waiting.map Wait.suggestionId := by
    intro suggestionId hmem
    obtain ⟨r, hr, rfl⟩ := List.mem_map.mp hmem
    obtain ⟨w, hw, -, hs⟩ := h.rowWaits r hr
    exact hs ▸ List.mem_map_of_mem hw
  have hle := (h.rowsApart.subperm hsubset).length_le
  rw [List.length_map, List.length_map] at hle
  simp only [Retries.view, List.length_map] at hle
  exact hle.trans (by simpa [Retries.view] using h.small)

/-- A start queues the rows that are not orphaned. -/
theorem effect_restart {now : Nat} (hsound : Sound s.view)
    (hread : ∀ row ∈ s.rows, row.intoDomainParts.isSome) :
    Effect s.view (retryStep s (.restart now)).view := by
  have hperm : (listPendingFeedbacks s.rows 100).Perm s.rows := by
    rw [listPendingFeedbacks, List.take_of_length_le]
    · exact List.mergeSort_perm _ _
    · rw [List.length_mergeSort]
      exact hsound.rows_length
  have hroom : newRetryQueue.items.length + (listPendingFeedbacks s.rows 100).length ≤
      newRetryQueue.maxSize := by
    rw [hperm.length_eq]
    exact (Nat.zero_add _).symm ▸ hsound.rows_length
  obtain ⟨hitems, hrows, -, -⟩ := @restoreFeedbacks_spec now _ s.rows _ hroom
    fun row hrow => hread row (hperm.mem_iff.mp hrow)
  have happart : (s.rows.map PendingFeedbackRecord.suggestionId).Nodup := by
    have hnodup := hsound.rowsApart
    simp only [Retries.view, List.map_map] at hnodup
    exact hnodup
  -- Only an orphaned row is deleted: it is the only one of its suggestion.
  have hkept : (retryStep s (.restart now)).rows = s.rows.filter fun row => !row.orphaned now := by
    refine hrows.trans (List.filter_congr fun row hrow => congrArg (!·) ?_)
    refine Bool.eq_iff_iff.mpr ⟨fun hany => ?_, fun horphaned => ?_⟩
    · obtain ⟨record, hrecord, hboth⟩ := List.any_eq_true.mp hany
      obtain ⟨horphaned, hsame⟩ := Bool.and_eq_true_iff.mp hboth
      have heq := List.inj_on_of_nodup_map happart (hperm.mem_iff.mp hrecord) hrow
        (beq_iff_eq.mp hsame)
      exact heq ▸ horphaned
    · refine List.any_eq_true.mpr ⟨row, hperm.mem_iff.mpr hrow, ?_⟩
      rw [horphaned, beq_self_eq_true, Bool.and_self]
  have heffect := @Effect.restarted s.view
    ((retryStep s (.restart now)).rows.map PendingFeedbackRecord.wait)
    ((retryStep s (.restart now)).queue.items.map PendingFeedback.wait)
    (retryStep s (.restart now)).expired ⟨?_, fun r hr => ?_, fun t ht => ?_⟩ ?_
  · have hview : (retryStep s (.restart now)).view.waiting =
        (retryStep s (.restart now)).queue.items.map PendingFeedback.wait := by
      simp [Retries.view, retryStep]
    simp only [Retries.view] at hview heffect ⊢
    rw [hview]
    exact heffect
  · rw [hkept]
    exact List.filter_sublist.map _
  · obtain ⟨row, hrow, rfl⟩ := List.mem_map.mp hr
    rw [hkept]
    by_cases hold : row.orphaned now = true
    · exact .inr (List.mem_append_right _ (List.mem_map_of_mem (f := PendingFeedbackRecord.ticket)
        (List.mem_filter.mpr ⟨hperm.mem_iff.mpr hrow, hold⟩)))
    · exact .inl (List.mem_map_of_mem (List.mem_filter.mpr ⟨hrow, by simp [hold]⟩))
  · exact List.mem_append_left _ ht
  · rw [hkept]
    exact (show (retryStep s (.restart now)).queue.items.map PendingFeedback.wait = _ from hitems) ▸
      (hperm.filter _).map _

/-- **A move of the program** is a move of its view. -/
theorem effect_step {m : RetryMove} (hformed : Formed s) (hsound : Sound s.view) (hroom : Room s m)
    (hone : OneAtATime s m) : Effect s.view (retryStep s m).view := by
  cases m with
  | submit suggestionId feedbackType => exact effect_submit hone
  | answer index ok now => exact effect_answer hroom
  | enqueue index now => exact effect_enqueue hformed.size hsound.small
  | collect now => exact effect_collect s now
  | retry ok => exact effect_retry s ok
  | settle now => exact effect_settle hformed.size hformed.attempts hsound.small
  | cleanUp now => exact effect_cleanUp s now
  | restart now => exact effect_restart hsound hformed.read

/-- No move changes the sizes or writes a row that cannot be read. -/
theorem formed_step {m : RetryMove} (h : Formed s) : Formed (retryStep s m) := by
  have hdelete : ∀ {suggestionId : String}, ∀ row ∈ deletePendingFeedback s.rows suggestionId,
      row.intoDomainParts.isSome := fun row hrow => h.read row (List.mem_of_mem_filter hrow)
  cases m with
  | submit suggestionId feedbackType => exact ⟨h.size, h.attempts, h.read⟩
  | answer index ok now =>
    simp only [retryStep]
    split
    · exact h
    · split
      · exact ⟨h.size, h.attempts, h.read⟩
      · refine ⟨h.size, h.attempts, fun row hrow => ?_⟩
        rcases List.mem_append.mp hrow with hrow | hrow
        · exact hdelete row hrow
        · rw [List.mem_singleton.mp hrow, intoDomainParts_newForInsert]
          rfl
  | enqueue index now =>
    simp only [retryStep]
    split
    · exact h
    · exact ⟨h.size, h.attempts, h.read⟩
  | collect now =>
    simp only [retryStep]
    split
    · exact ⟨h.size, h.attempts, h.read⟩
    · exact h
  | retry ok =>
    simp only [retryStep]
    split
    · split
      · exact ⟨h.size, h.attempts, hdelete⟩
      · exact ⟨h.size, h.attempts, h.read⟩
    · exact h
  | settle now =>
    simp only [retryStep]
    split
    · exact h
    · split
      · exact ⟨h.size, h.attempts, hdelete⟩
      · exact ⟨h.size, h.attempts, h.read⟩
  | cleanUp now =>
    simp only [retryStep]
    split
    · exact ⟨h.size, h.attempts, fun row hrow => h.read row (List.mem_of_mem_filter hrow)⟩
    · exact h
  | restart now =>
    have hrestored : ∀ (records : List PendingFeedbackRecord) (queue : FeedbackRetryQueue)
        (rows : List PendingFeedbackRecord),
        (restoreFeedbacks now records (queue, rows)).1.maxSize = queue.maxSize ∧
        (restoreFeedbacks now records (queue, rows)).1.maxAttempts = queue.maxAttempts ∧
        ∀ row ∈ (restoreFeedbacks now records (queue, rows)).2, row ∈ rows := by
      intro records
      induction records with
      | nil => exact fun queue rows => ⟨rfl, rfl, fun row hrow => hrow⟩
      | cons record records ih =>
        intro queue rows
        rw [restoreFeedbacks]
        split
        · obtain ⟨hsize, hattempts, hrows⟩ :=
            ih queue (deletePendingFeedback rows record.suggestionId)
          exact ⟨hsize, hattempts, fun row hrow => List.mem_of_mem_filter (hrows row hrow)⟩
        · split
          · exact ih _ rows
          · exact ih queue rows
    obtain ⟨hsize, hattempts, hrows⟩ :=
      hrestored (listPendingFeedbacks s.rows 100) newRetryQueue s.rows
    exact ⟨hsize, hattempts, fun row hrow => h.read row (hrows row hrow)⟩

/-! ## Ticks -/

/-- The moves of a tick of the maintenance loop; the sends return `ok 0`, `ok 1` and so on. -/
def tickMoves (s : Retries) (now : Nat) (ok : Nat → Bool) : List RetryMove :=
  .collect now :: (List.range (s.queue.collectReady now).2.length).flatMap fun i =>
    [.retry (ok i), .settle now]

/-- Ticks one after the other, with the times and the answers of the sends. -/
def ticks (s : Retries) : List (Nat × (Nat → Bool)) → Retries
  | [] => s
  | (now, ok) :: rest => ticks ((tickMoves s now ok).foldl retryStep s) rest

/-- The ticks are five minutes apart, the first one is not before `start`. -/
def Spaced : Nat → List (Nat × (Nat → Bool)) → Prop
  | _, [] => True
  | start, (now, _) :: rest => start ≤ now ∧ Spaced (now + 300000) rest

/-- The maintenance loop is between two ticks, and no task is to run. -/
structure Idle (s : Retries) : Prop where
  spawned : s.spawned = []
  ready : s.ready = []
  failed : s.failed = none

theorem retryDelay_le (attempt : Nat) : retryDelay attempt ≤ 300000 := by
  rcases attempt with _ | _ | _ | _ | attempt <;> simp [retryDelay]

theorem mem_of_pushBack {queue : FeedbackRetryQueue} {f x : PendingFeedback}
    (h : x ∈ (queue.pushBack f).items) : x ∈ queue.items ∨ x = f := by
  rcases List.mem_append.mp h with h | h
  · split at h
    · exact .inl (List.mem_of_mem_tail h)
    · exact .inl h
  · exact .inr (List.mem_singleton.mp h)

/-- A retry and its settling: the feedback is gone or has failed once more. -/
theorem retry_settle {pending : PendingFeedback} {ready : List PendingFeedback}
    (hready : s.ready = pending :: ready) (hfailed : s.failed = none)
    (hattempts : s.queue.maxAttempts = 5) (ok : Bool) (now : Nat) :
    let s' := retryStep (retryStep s (.retry ok)) (.settle now)
    (s'.ready = ready ∧ s'.failed = none ∧ s'.spawned = s.spawned ∧ s'.queue.maxAttempts = 5) ∧
      ∀ f ∈ s'.queue.items, f ∈ s.queue.items ∨ (f.attempts = pending.attempts + 1 ∧
        f.attempts ≤ 5 ∧ f.nextRetryAt ≤ now + 300000) := by
  cases ok with
  | true =>
    simp only [retryStep, hready, hfailed, if_true]
    exact ⟨⟨trivial, trivial, trivial, hattempts⟩, fun f hf => .inl hf⟩
  | false =>
    simp only [retryStep, hready, hfailed, Bool.false_eq_true, if_false]
    by_cases hexhausted : s.queue.isExhausted pending = true
    · rw [if_pos hexhausted]
      exact ⟨⟨rfl, rfl, rfl, hattempts⟩, fun f hf => .inl (List.mem_of_mem_filter hf)⟩
    · rw [if_neg hexhausted]
      refine ⟨⟨rfl, rfl, rfl, hattempts⟩, fun f hf => (mem_of_pushBack hf).imp_right ?_⟩
      rintro rfl
      have hlt := of_decide_eq_false (Bool.eq_false_iff.mpr hexhausted)
      rw [hattempts] at hlt
      exact ⟨rfl, by dsimp only; omega, Nat.add_le_add_left (retryDelay_le _) now⟩

/-- **One tick** at which everything is due: what still waits has failed once more. -/
theorem tick_spec {now k : Nat} (ok : Nat → Bool) (hidle : Idle s)
    (hattempts : s.queue.maxAttempts = 5)
    (hdue : ∀ f ∈ s.queue.items, f.nextRetryAt ≤ now ∧ k ≤ f.attempts) :
    let s' := (tickMoves s now ok).foldl retryStep s
    Idle s' ∧ s'.queue.maxAttempts = 5 ∧
      ∀ f ∈ s'.queue.items, f.nextRetryAt ≤ now + 300000 ∧ k + 1 ≤ f.attempts ∧ f.attempts ≤ 5 := by
  -- Over the feedbacks that are ready, the first one first.
  have hloop : ∀ (ready : List PendingFeedback) (s : Retries) (start : Nat),
      s.ready = ready → s.failed = none → s.spawned = [] → s.queue.maxAttempts = 5 →
      (∀ f ∈ ready, k ≤ f.attempts) →
      (∀ f ∈ s.queue.items, f.nextRetryAt ≤ now + 300000 ∧ k + 1 ≤ f.attempts ∧ f.attempts ≤ 5) →
      let s' := ((List.range' start ready.length).flatMap fun i =>
        [RetryMove.retry (ok i), .settle now]).foldl retryStep s
      Idle s' ∧ s'.queue.maxAttempts = 5 ∧
        ∀ f ∈ s'.queue.items, f.nextRetryAt ≤ now + 300000 ∧ k + 1 ≤ f.attempts ∧
          f.attempts ≤ 5 := by
    intro ready
    induction ready with
    | nil =>
      exact fun s start hready hfailed hspawned hattempts _ hqueue =>
        ⟨⟨hspawned, hready, hfailed⟩, hattempts, hqueue⟩
    | cons pending ready ih =>
      intro s start hready hfailed hspawned hattempts htries hqueue
      obtain ⟨⟨hready', hfailed', hspawned', hattempts'⟩, hitems⟩ :=
        retry_settle hready hfailed hattempts (ok start) now
      refine ih _ (start + 1) hready' hfailed' (hspawned'.trans hspawned) hattempts'
        (fun f hf => htries f (List.mem_cons_of_mem pending hf)) fun f hf => ?_
      rcases hitems f hf with hold | ⟨hmore, hle, hnext⟩
      · exact hqueue f hold
      · have hk := htries pending List.mem_cons_self
        exact ⟨hnext, by omega, hle⟩
  have hall : s.queue.items.filter (fun f => decide (f.nextRetryAt ≤ now)) = s.queue.items :=
    List.filter_eq_self.mpr fun f hf => decide_eq_true (hdue f hf).1
  have hcollect : retryStep s (.collect now) =
      { s with queue := { s.queue with items := [] }, ready := s.queue.items } := by
    have hnone : s.queue.items.filter (fun f => !decide (f.nextRetryAt ≤ now)) = [] :=
      List.filter_eq_nil_iff.mpr fun f hf => by simp [(hdue f hf).1]
    simp only [retryStep, hidle.ready, hidle.failed, FeedbackRetryQueue.collectReady, hall, hnone,
      List.isEmpty_nil, Option.isNone_none, Bool.and_self, if_true]
  simp only [tickMoves, List.foldl_cons, hcollect, FeedbackRetryQueue.collectReady, hall,
    List.range_eq_range']
  exact hloop s.queue.items _ 0 rfl hidle.failed hidle.spawned hattempts (fun f hf => (hdue f hf).2)
    fun f hf => absurd hf List.not_mem_nil

/-- **Nothing waits for ever**: six ticks, five minutes apart, leave nothing waiting. -/
theorem ticks_drain {start : Nat} {rounds : List (Nat × (Nat → Bool))} (hidle : Idle s)
    (hattempts : s.queue.maxAttempts = 5) (hdue : ∀ f ∈ s.queue.items, f.nextRetryAt ≤ start)
    (hspaced : Spaced start rounds) (hrounds : rounds.length = 6) :
    (ticks s rounds).waiting = [] := by
  have hmany : ∀ (rounds : List (Nat × (Nat → Bool))) (s : Retries) (start k : Nat), Idle s →
      s.queue.maxAttempts = 5 → (∀ f ∈ s.queue.items, f.nextRetryAt ≤ start ∧ k ≤ f.attempts) →
      Spaced start rounds → Idle (ticks s rounds) ∧ (rounds ≠ [] →
        ∀ f ∈ (ticks s rounds).queue.items, k + rounds.length ≤ f.attempts ∧ f.attempts ≤ 5) := by
    intro rounds
    induction rounds with
    | nil => exact fun s start k hidle _ _ _ => ⟨hidle, fun hne => absurd rfl hne⟩
    | cons round rounds ih =>
      intro s start k hidle hattempts hdue hspaced
      obtain ⟨now, ok⟩ := round
      obtain ⟨hidle', hattempts', hitems⟩ := tick_spec ok hidle hattempts
        fun f hf => ⟨(hdue f hf).1.trans hspaced.1, (hdue f hf).2⟩
      obtain ⟨hidle'', hlast⟩ := ih _ (now + 300000) (k + 1) hidle' hattempts'
        (fun f hf => ⟨(hitems f hf).1, (hitems f hf).2.1⟩) hspaced.2
      refine ⟨hidle'', fun _ f hf => ?_⟩
      by_cases hmore : rounds = []
      · subst hmore
        exact (hitems f hf).2
      · obtain ⟨hle, hmax⟩ := hlast hmore f hf
        rw [List.length_cons]
        exact ⟨by omega, hmax⟩
  obtain ⟨hidle', hlast⟩ := hmany rounds s start 0 hidle hattempts
    (fun f hf => ⟨hdue f hf, Nat.zero_le _⟩) hspaced
  have hempty : (ticks s rounds).queue.items = [] := by
    refine List.eq_nil_iff_forall_not_mem.mpr fun f hf => ?_
    have hne : rounds ≠ [] := fun hnil => by simp [hnil] at hrounds
    obtain ⟨hle, hmax⟩ := hlast hne f hf
    omega
  rw [Retries.waiting, hidle'.spawned, hidle'.ready, hidle'.failed, hempty]
  rfl

/-! ## Nothing is lost -/

theorem sound_step {m : RetryMove} (h : Formed s ∧ Sound s.view)
    (hallowed : Room s m ∧ OneAtATime s m) :
    Formed (retryStep s m) ∧ Sound (retryStep s m).view :=
  ⟨formed_step h.1, h.2.effect (effect_step h.1 h.2 hallowed.1 hallowed.2)⟩

theorem sound_fresh : Formed .fresh ∧ Sound Retries.fresh.view := by
  refine ⟨⟨rfl, rfl, fun row hrow => absurd hrow List.not_mem_nil⟩, List.nodup_nil, Nat.zero_le _,
    fun w hw => absurd hw List.not_mem_nil, List.nodup_nil, fun r hr => absurd hr List.not_mem_nil,
    fun w hw => absurd hw List.not_mem_nil, fun w hw => absurd hw List.not_mem_nil,
    fun t ht => absurd ht List.not_mem_nil, List.Pairwise.nil, fun t ht => absurd ht List.not_mem_nil⟩

/-- A first failure stays one. -/
theorem mem_firstFailed_step {t : Nat} (m : RetryMove) (h : t ∈ s.firstFailed) :
    t ∈ (retryStep s m).firstFailed := by
  cases m with
  | answer index ok now =>
    simp only [retryStep]
    split
    · exact h
    · split
      · exact h
      · exact List.mem_append_left _ h
  | submit suggestionId feedbackType => exact h
  | enqueue index now =>
    simp only [retryStep]
    split <;> exact h
  | collect now =>
    simp only [retryStep]
    split <;> exact h
  | retry ok =>
    simp only [retryStep]
    split
    · split <;> exact h
    · exact h
  | settle now =>
    simp only [retryStep]
    split
    · exact h
    · split <;> exact h
  | cleanUp now =>
    simp only [retryStep]
    split <;> exact h
  | restart now => exact h

/-- A move of the maintenance loop during a tick. -/
inductive RetryMove.InTick : RetryMove → Prop where
  | collect (now : Nat) : InTick (.collect now)
  | retry (ok : Bool) : InTick (.retry ok)
  | settle (now : Nat) : InTick (.settle now)

theorem RetryMove.InTick.allowed {m : RetryMove} (h : m.InTick) (s : Retries) :
    Room s m ∧ OneAtATime s m := by
  cases h <;> exact ⟨trivial, trivial⟩

theorem inTick_of_mem_tickMoves {now : Nat} {ok : Nat → Bool} {m : RetryMove}
    (h : m ∈ tickMoves s now ok) : m.InTick := by
  rcases List.mem_cons.mp h with rfl | h
  · exact .collect now
  · obtain ⟨i, -, hm⟩ := List.mem_flatMap.mp h
    rcases List.mem_cons.mp hm with rfl | hm
    · exact .retry (ok i)
    · rw [List.mem_singleton.mp hm]
      exact .settle now

/-- Ticks keep a program sound. -/
theorem sound_ticks {t : Nat} (h : Formed s ∧ Sound s.view) (ht : t ∈ s.firstFailed)
    (rounds : List (Nat × (Nat → Bool))) :
    Sound (ticks s rounds).view ∧ t ∈ (ticks s rounds).firstFailed := by
  have hmoves : ∀ (moves : List RetryMove) (s : Retries), (∀ m ∈ moves, m.InTick) →
      (Formed s ∧ Sound s.view) ∧ t ∈ s.firstFailed →
      (Formed (moves.foldl retryStep s) ∧ Sound (moves.foldl retryStep s).view) ∧
        t ∈ (moves.foldl retryStep s).firstFailed := by
    intro moves
    induction moves with
    | nil => exact fun s _ h => h
    | cons m moves ih =>
      exact fun s hin h => ih _ (fun m' hm' => hin m' (List.mem_cons_of_mem m hm'))
        ⟨sound_step h.1 ((hin m List.mem_cons_self).allowed s), mem_firstFailed_step m h.2⟩
  induction rounds generalizing s with
  | nil => exact ⟨h.2, ht⟩
  | cons round rounds ih =>
    obtain ⟨hsound, hmem⟩ := hmoves (tickMoves s round.1 round.2) s
      (fun m hm => inTick_of_mem_tickMoves hm) ⟨h, ht⟩
    exact ih hsound hmem

/-- The feedback has been sent, has failed more than five further times, or its row was deleted for
    its age. -/
def Retries.Settled (s : Retries) (ticket : Nat) : Prop :=
  ticket ∈ s.sent ∨ 5 < s.failures.count ticket ∨ ticket ∈ s.expired

theorem Sound.settled_or_waits (h : Sound s.view) {t : Nat} (ht : t ∈ s.firstFailed) :
    s.Settled t ∨ ∃ f ∈ s.waiting, f.ticket = t := by
  rcases h.kept t ht with hsent | hfailed | hexpired | ⟨w, hw, rfl⟩
  · exact .inl (.inl hsent)
  · exact .inl (.inr (.inl hfailed))
  · exact .inl (.inr (.inr hexpired))
  · refine .inr ?_
    rcases List.mem_append.mp hw with hw | hw
    · obtain ⟨f, hf, rfl⟩ := List.mem_map.mp hw
      exact ⟨f, List.mem_append_left _ hf, rfl⟩
    · obtain ⟨f, hf, rfl⟩ := List.mem_map.mp hw
      exact ⟨f, List.mem_append_right _ hf, rfl⟩

/-- **Retries lose nothing and keep the order.**  In a run with at most as many waiting feedbacks as
    the queue holds, in which a suggestion gets no feedback while an earlier one of it is on its way:
    a feedback whose first send failed waits, has been sent, has failed more than five further times,
    or was too old; six ticks leave none waiting; and the feedbacks of a suggestion are sent in
    their order. -/
theorem retries_keep_and_order (run : List RetryMove)
    (hrun : Along retryStep (fun s m => Room s m ∧ OneAtATime s m) .fresh run) :
    ∀ s ∈ states retryStep .fresh run,
      (∀ t ∈ s.firstFailed, s.Settled t ∨ ∃ f ∈ s.waiting, f.ticket = t) ∧
      (∀ start rounds, Idle s → (∀ f ∈ s.queue.items, f.nextRetryAt ≤ start) →
        Spaced start rounds → rounds.length = 6 → ∀ t ∈ s.firstFailed, (ticks s rounds).Settled t) ∧
      s.sent.Pairwise fun a b => s.given[a]? = s.given[b]? → a ≤ b := by
  have hall : ∀ s ∈ states retryStep .fresh run, Formed s ∧ Sound s.view :=
    states_invariant (fun _ _ => sound_step) sound_fresh hrun
  intro s hs
  obtain ⟨hformed, hsound⟩ := hall s hs
  refine ⟨fun t ht => hsound.settled_or_waits ht, fun start rounds hidle hdue hspaced hrounds t ht => ?_,
    hsound.ordered⟩
  obtain ⟨hafter, hmem⟩ := sound_ticks ⟨hformed, hsound⟩ ht rounds
  refine (hafter.settled_or_waits hmem).resolve_right fun ⟨f, hf, _⟩ => ?_
  rw [ticks_drain hidle hformed.attempts hdue hspaced hrounds] at hf
  cases hf

/-- A deferral that is sent at the second attempt, and an acceptance after it. -/
def deferredThenAccepted : List RetryMove :=
  [.submit "s1" .deferred, .answer 0 false 0, .enqueue 0 0, .collect 30000, .retry true,
    .submit "s1" .accepted, .answer 0 true 40000]

theorem retries_keep_and_order_twice :
    let s := deferredThenAccepted.foldl retryStep .fresh
    (∀ t ∈ s.firstFailed, s.Settled t ∨ ∃ f ∈ s.waiting, f.ticket = t) ∧
      (∀ start rounds, Idle s → (∀ f ∈ s.queue.items, f.nextRetryAt ≤ start) →
        Spaced start rounds → rounds.length = 6 → ∀ t ∈ s.firstFailed, (ticks s rounds).Settled t) ∧
      s.sent.Pairwise fun a b => s.given[a]? = s.given[b]? → a ≤ b :=
  retries_keep_and_order deferredThenAccepted
    ⟨by decide, by decide, by decide, by decide, by decide, by decide, by decide, trivial⟩ _
    (foldl_mem_states _ _)

/-- With two feedbacks of a suggestion on their way, the older one may be sent last. -/
example : (([.submit "s1" .deferred, .answer 0 false 0, .enqueue 0 0, .submit "s1" .accepted,
    .answer 0 true 10000, .collect 30000, .retry true] : List RetryMove).foldl retryStep
      .fresh).sent = [1, 0] := by
  decide

/-- **Seven days.**  A feedback whose row is too old at a start is dropped, though no retry of it has
    failed. -/
theorem old_feedback_is_dropped :
    ¬ ∀ run : List RetryMove, Along retryStep Room .fresh run → ∀ s ∈ states retryStep .fresh run,
      (∀ t ∈ s.firstFailed,
        t ∈ s.sent ∨ 5 ≤ s.failures.count t ∨ ∃ f ∈ s.waiting, f.ticket = t) ∧
      s.sent.Pairwise fun a b => s.given[a]? = s.given[b]? → a ≤ b := by
  intro h
  have hrun : Along retryStep Room .fresh
      [.submit "s1" .accepted, .answer 0 false 0, .restart (8 * dayMillis)] :=
    ⟨trivial, Nat.zero_lt_succ 99, trivial, trivial⟩
  have hgone := (h _ hrun _ (foldl_mem_states _ _)).1 0 (by decide +kernel)
  revert hgone
  decide +kernel

end Oneshim.Suggestions
