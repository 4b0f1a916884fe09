/-
  Suggestions that wait for the user (`oneshim-suggestion/src/queue.rs`, `deferred.rs`, `history.rs`).

  1. **Queue** — a set ordered by priority, then the newer first, then the id; at most `max_size`
     suggestions, no two of the same content.  Equal contents are found by a fingerprint.

  2. **Deferred** — the suggestions that wait for their time, the oldest is dropped when there are
     too many.

  3. **History** — what the user said about the latest suggestions.

  A `push` or a restore brings in nothing but what it is given (`mem_of_push`, `mem_of_restore`), and
  `remove_by_id` takes out one suggestion (`removeById_spec`).
-/
import Mathlib.Data.Finset.Basic
import Oneshim.Lib.Text

namespace Oneshim.Suggestions

open Lib

/-! ## Suggestions -/

/-- `Priority`, the lowest first. -/
inductive Priority where
  | low | medium | high | critical
  deriving DecidableEq

def Priority.rank : Priority → Nat
  | low => 0
  | medium => 1
  | high => 2
  | critical => 3

/-- `SuggestionType`. -/
inductive SuggestionType where
  | workGuidance | emailDraft | productivityTip | workflowOptimization | contextBased
  deriving DecidableEq

/-- `FeedbackType`. -/
inductive FeedbackType where
  | accepted | rejected | deferred

/-- `Suggestion`. -/
structure Suggestion where
  suggestionId : String
  suggestionType : SuggestionType
  content : String
  priority : Priority
  createdAt : Nat
  expiresAt : Option Nat
  deriving DecidableEq

/-- The order of the queue: the higher priority first, then the newer, then the id. -/
def Suggestion.cmp (self other : Suggestion) : Ordering :=
  (compare other.priority.rank self.priority.rank).then
    ((compare other.createdAt self.createdAt).then (compare self.suggestionId other.suggestionId))

theorem Suggestion.cmp_self (s : Suggestion) : s.cmp s = .eq := by
  simp [Suggestion.cmp]

/-! ## The queue -/

/-- `SuggestionQueue`. -/
structure SuggestionQueue where
  items : List Suggestion
  fingerprints : Finset UInt64
  maxSize : Nat

/-- `BTreeSet::insert`: the set, and whether the item is new. -/
def insertItem (item : Suggestion) : List Suggestion → List Suggestion × Bool
  | [] => ([item], true)
  | first :: rest =>
    match item.cmp first with
    | .lt => (item :: first :: rest, true)
    | .eq => (first :: rest, false)
    | .gt => (first :: (insertItem item rest).1, (insertItem item rest).2)

/-- `BTreeSet::remove`. -/
def removeItem (item : Suggestion) (items : List Suggestion) : List Suggestion :=
  items.filter fun other => item.cmp other != .eq

section

/- `str::to_lowercase`, and what the `DefaultHasher` makes of the type and the text. -/
variable (toLowercase : String → String) (hash : SuggestionType → List Char → UInt64)

/-- `content_fingerprint`; none is the panic of a cut inside a character. -/
def contentFingerprint (suggestion : Suggestion) : Option UInt64 :=
  let normalized :=
    List.intercalate [' '] (Text.splitWhitespace (toLowercase suggestion.content).toList)
  (Text.sliceTo (min (Text.utf8Len normalized) 200) normalized).map (hash suggestion.suggestionType)

namespace SuggestionQueue

/-- The set and the fingerprints after the insertion, and whether the item is new. -/
def withItem (self : SuggestionQueue) (suggestion : Suggestion) (fp : UInt64) :
    SuggestionQueue × Option Bool :=
  ({ self with
    items := (insertItem suggestion self.items).1
    fingerprints := insert fp self.fingerprints }, some (insertItem suggestion self.items).2)

/-- `push`: the queue as it is left, and whether the suggestion is in; none is a panic. -/
def push (self : SuggestionQueue) (suggestion : Suggestion) : SuggestionQueue × Option Bool :=
  match contentFingerprint toLowercase hash suggestion with
  | none => (self, none)
  | some fp =>
    if fp ∈ self.fingerprints then (self, some false)
    else if self.maxSize ≤ self.items.length then
      match self.items.getLast? with
      | none => self.withItem suggestion fp
      | some last =>
        if suggestion.cmp last = .lt then
          let left := { self with items := removeItem last self.items }
          match contentFingerprint toLowercase hash last with
          | none => (left, none)
          | some evicted =>
            { left with fingerprints := left.fingerprints.erase evicted }.withItem suggestion fp
        else (self, some false)
    else self.withItem suggestion fp

/-- `pop`: the queue as it is left, and its first suggestion; none is a panic. -/
def pop (self : SuggestionQueue) : SuggestionQueue × Option (Option Suggestion) :=
  match self.items with
  | [] => (self, some none)
  | first :: _ =>
    let left := { self with items := removeItem first self.items }
    match contentFingerprint toLowercase hash first with
    | none => (left, none)
    | some fp => ({ left with fingerprints := left.fingerprints.erase fp }, some (some first))

/-- `remove_by_id`: the queue as it is left, and the suggestion that was found; none is a panic. -/
def removeById (self : SuggestionQueue) (suggestionId : String) :
    SuggestionQueue × Option (Option Suggestion) :=
  match self.items.find? fun s => s.suggestionId == suggestionId with
  | none => (self, some none)
  | some found =>
    let left := { self with items := removeItem found self.items }
    match contentFingerprint toLowercase hash found with
    | none => (left, none)
    | some fp => ({ left with fingerprints := left.fingerprints.erase fp }, some (some found))

/-- Has the suggestion expired? -/
def expired (now : Nat) (suggestion : Suggestion) : Bool :=
  match suggestion.expiresAt with
  | some expires => expires ≤ now
  | none => false

/-- `remove_expired`: the queue as it is left, and how many went; none is a panic. -/
def removeExpired (self : SuggestionQueue) (now : Nat) : SuggestionQueue × Option Nat :=
  match (self.items.filter (expired now)).mapM (contentFingerprint toLowercase hash) with
  | none => (self, none)
  | some expiredFps =>
    let items := self.items.filter fun s => !expired now s
    ({ self with
      items := items
      fingerprints := expiredFps.foldl (fun fps fp => fps.erase fp) self.fingerprints },
      some (self.items.length - items.length))

end SuggestionQueue

end

/-! ## Deferred suggestions and the history -/

/-- `DeferredEntry`. -/
structure DeferredEntry where
  suggestion : Suggestion
  deferredAt : Nat
  resurfaceAt : Nat

/-- `DeferredManager`. -/
structure DeferredManager where
  items : List DeferredEntry
  maxSize : Nat

namespace DeferredManager

/-- `defer`. -/
def defer (self : DeferredManager) (suggestion : Suggestion) (duration now : Nat) :
    DeferredManager :=
  { self with
    items := (if self.maxSize ≤ self.items.length then self.items.tail else self.items) ++
      [⟨suggestion, now, now + duration⟩] }

/-- `collect_resurfaced`. -/
def collectResurfaced (self : DeferredManager) (now : Nat) : DeferredManager × List Suggestion :=
  ({ self with items := self.items.filter fun entry => !(entry.resurfaceAt ≤ now) },
    (self.items.filter fun entry => entry.resurfaceAt ≤ now).map DeferredEntry.suggestion)

/-- `restore`: the manager and what is already due. -/
def restore (self : DeferredManager) (now : Nat) :
    List DeferredEntry → DeferredManager × List Suggestion
  | [] => (self, [])
  | entry :: entries =>
    if entry.resurfaceAt ≤ now then
      ((restore self now entries).1, entry.suggestion :: (restore self now entries).2)
    else if self.items.length < self.maxSize then
      restore { self with items := self.items ++ [entry] } now entries
    else restore self now entries

end DeferredManager

/-- `HistoryEntry`. -/
structure HistoryEntry where
  suggestion : Suggestion
  feedback : Option FeedbackType

/-- `SuggestionHistory`. -/
structure SuggestionHistory where
  entries : List HistoryEntry
  maxSize : Nat

namespace SuggestionHistory

/-- `add`. -/
def add (self : SuggestionHistory) (suggestion : Suggestion) : SuggestionHistory :=
  { self with
    entries := (if self.maxSize ≤ self.entries.length then self.entries.tail else self.entries) ++
      [⟨suggestion, none⟩] }

/-- The first entry of the suggestion gets the feedback. -/
def recordFirst (suggestionId : String) (feedback : FeedbackType) :
    List HistoryEntry → List HistoryEntry
  | [] => []
  | entry :: entries =>
    if entry.suggestion.suggestionId = suggestionId then
      { entry with feedback := some feedback } :: entries
    else entry :: recordFirst suggestionId feedback entries

/-- `record_feedback`: the newest entry of the suggestion. -/
def recordFeedback (self : SuggestionHistory) (suggestionId : String) (feedback : FeedbackType) :
    SuggestionHistory :=
  { self with entries := (recordFirst suggestionId feedback self.entries.reverse).reverse }

end SuggestionHistory

/-! ## What comes in and what goes out -/

theorem mem_of_insertItem {item s : Suggestion} {items : List Suggestion}
    (h : s ∈ (insertItem item items).1) : s = item ∨ s ∈ items := by
  induction items with
  | nil => exact .inl (List.mem_singleton.mp h)
  | cons first rest ih =>
    rw [insertItem] at h
    split at h
    · exact List.mem_cons.mp h
    · exact .inr h
    · rcases List.mem_cons.mp h with rfl | h
      · exact .inr List.mem_cons_self
      · exact (ih h).imp_right (List.mem_cons_of_mem first)

theorem mem_removeItem {item s : Suggestion} {items : List Suggestion} :
    s ∈ removeItem item items ↔ s ∈ items ∧ item.cmp s ≠ .eq := by
  rw [removeItem, List.mem_filter, bne_iff_ne]

section

variable {toLowercase : String → String} {hash : SuggestionType → List Char → UInt64}

/-- A push brings in nothing but the suggestion. -/
theorem SuggestionQueue.mem_of_push {self : SuggestionQueue} {suggestion s : Suggestion}
    (h : s ∈ (self.push toLowercase hash suggestion).1.items) :
    s = suggestion ∨ s ∈ self.items := by
  unfold push at h
  split at h
  · exact .inr h
  · split at h
    · exact .inr h
    · split at h
      · split at h
        · exact mem_of_insertItem h
        · split at h
          · dsimp only at h
            split at h
            · exact .inr (mem_removeItem.mp h).1
            · exact (mem_of_insertItem h).imp_right fun h => (mem_removeItem.mp h).1
          · exact .inr h
      · exact mem_of_insertItem h

/-- What `remove_by_id` does: nothing without a suggestion of the id, else it takes one out. -/
theorem SuggestionQueue.removeById_spec (self : SuggestionQueue) (suggestionId : String) :
    (self.removeById toLowercase hash suggestionId = (self, some none) ∧
      ∀ s ∈ self.items, s.suggestionId ≠ suggestionId) ∨
    ∃ found ∈ self.items, found.suggestionId = suggestionId ∧
      (self.removeById toLowercase hash suggestionId).1.items = removeItem found self.items ∧
      ∀ s, (self.removeById toLowercase hash suggestionId).2 = some (some s) → s = found := by
  unfold removeById
  cases hfind : self.items.find? fun s => s.suggestionId == suggestionId with
  | none =>
    refine .inl ⟨rfl, fun s hs => ?_⟩
    simpa using List.find?_eq_none.mp hfind s hs
  | some found =>
    have hid : found.suggestionId = suggestionId := by
      simpa using List.find?_some hfind
    refine .inr ⟨found, List.mem_of_find?_eq_some hfind, hid, ?_, fun s hs => ?_⟩
    · dsimp only
      split
      · rfl
      · rfl
    · dsimp only at hs
      split at hs
      · cases hs
      · cases hs
        rfl

/-- Nothing comes in by the expiry. -/
theorem SuggestionQueue.mem_of_removeExpired {self : SuggestionQueue} {now : Nat} {s : Suggestion}
    (h : s ∈ (self.removeExpired toLowercase hash now).1.items) : s ∈ self.items := by
  unfold removeExpired at h
  split at h
  · exact h
  · exact List.mem_of_mem_filter h

end

namespace DeferredManager

theorem mem_of_defer {self : DeferredManager} {suggestion : Suggestion} {duration now : Nat}
    {entry : DeferredEntry} (h : entry ∈ (self.defer suggestion duration now).items) :
    entry ∈ self.items ∨ entry.suggestion = suggestion := by
  rcases List.mem_append.mp h with h | h
  · split at h
    · exact .inl (List.mem_of_mem_tail h)
    · exact .inl h
  · rw [List.mem_singleton.mp h]
    exact .inr rfl

/-- What is collected was deferred. -/
theorem mem_of_collectResurfaced {self : DeferredManager} {now : Nat} {s : Suggestion}
    (h : s ∈ (self.collectResurfaced now).2) : ∃ entry ∈ self.items, entry.suggestion = s := by
  obtain ⟨entry, hentry, rfl⟩ := List.mem_map.mp h
  exact ⟨entry, List.mem_of_mem_filter hentry, rfl⟩

/-- A restore brings in nothing but the entries. -/
theorem mem_of_restore {self : DeferredManager} {now : Nat} {entries : List DeferredEntry} :
    (∀ entry ∈ (self.restore now entries).1.items, entry ∈ self.items ∨ entry ∈ entries) ∧
      ∀ s ∈ (self.restore now entries).2, ∃ entry ∈ entries, entry.suggestion = s := by
  induction entries generalizing self with
  | nil => exact ⟨fun entry h => .inl h, fun s h => absurd h List.not_mem_nil⟩
  | cons first entries ih =>
    have hlater : ∀ {s}, (∃ entry ∈ entries, entry.suggestion = s) →
        ∃ entry ∈ first :: entries, entry.suggestion = s :=
      fun ⟨entry, hentry, hs⟩ => ⟨entry, List.mem_cons_of_mem first hentry, hs⟩
    rw [restore]
    split
    · refine ⟨fun entry h => (ih.1 entry h).imp_right (List.mem_cons_of_mem first), fun s h => ?_⟩
      rcases List.mem_cons.mp h with rfl | h
      · exact ⟨first, List.mem_cons_self, rfl⟩
      · exact hlater (ih.2 s h)
    · split
      · refine ⟨fun entry h => ?_, fun s h => hlater (ih.2 s h)⟩
        rcases ih.1 entry h with h | h
        · rcases List.mem_append.mp h with h | h
          · exact .inl h
          · exact .inr (List.mem_singleton.mp h ▸ List.mem_cons_self)
        · exact .inr (List.mem_cons_of_mem first h)
      · exact ⟨fun entry h => (ih.1 entry h).imp_right (List.mem_cons_of_mem first),
          fun s h => hlater (ih.2 s h)⟩

end DeferredManager

end Oneshim.Suggestions
