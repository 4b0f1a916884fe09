/-
  What the queue of suggestions represents (`oneshim-suggestion/src/queue.rs`).

  The queue keeps its suggestions in a set ordered by priority, time and id, and beside it the
  fingerprints of their contents.

  1. **What it should be** (`Represents`) — the fingerprints are those of the suggestions, each of
     one suggestion; the capacity is kept; the order is strict.

  2. **Taking out** (`Represents.keep`) — every operation that takes suggestions out takes out their
     fingerprints, and no other.

  3. **Pushing** — a suggestion that is let in (`Admits`) has its fingerprint noted whether or not
     the set takes it.  A suggestion of the priority, time and id of a queued one is not taken.  And
     a queue of capacity zero takes the first.

  4. **The result** (`represents_iff`) — the queue is what it should be all along a run exactly when
     no such push is let in.
-/
import Oneshim.Lib.Calls
import Oneshim.Lib.OrderedSet
import Oneshim.Suggestions.Queue

namespace Oneshim.Suggestions

open Lib

/-! ## The order -/

/-- Priority, time and id order suggestions. -/
instance : Std.TransCmp Suggestion.cmp :=
  have _byPriority : Std.TransCmp fun a b : Suggestion => compare b.priority.rank a.priority.rank :=
    @Std.TransCmp.opposite _ (compareOn fun a : Suggestion => a.priority.rank) inferInstance
  have _byTime : Std.TransCmp fun a b : Suggestion => compare b.createdAt a.createdAt :=
    @Std.TransCmp.opposite _ (compareOn fun a : Suggestion => a.createdAt) inferInstance
  inferInstanceAs (Std.TransCmp (compareLex
    (fun a b : Suggestion => compare b.priority.rank a.priority.rank)
    (compareLex (fun a b => compare b.createdAt a.createdAt)
      (compareOn fun a => a.suggestionId))))

/-- Two suggestions are one in the queue when priority, time and id agree. -/
theorem Suggestion.cmp_eq_iff {a b : Suggestion} :
    a.cmp b = .eq ↔ a.priority = b.priority ∧ a.createdAt = b.createdAt ∧
      a.suggestionId = b.suggestionId := by
  have hrank : b.priority.rank = a.priority.rank ↔ a.priority = b.priority := by
    cases a.priority <;> cases b.priority <;> simp [Priority.rank]
  simp only [Suggestion.cmp, Ordering.then_eq_eq, Std.LawfulEqOrd.compare_eq_iff_eq, hrank]
  constructor
  · rintro ⟨hp, ht, hid⟩
    exact ⟨hp, ht.symm, hid⟩
  · rintro ⟨hp, ht, hid⟩
    exact ⟨hp, ht.symm, hid⟩

theorem insertItem_eq (item : Suggestion) (items : List Suggestion) :
    insertItem item items = OrderedSet.insert Suggestion.cmp item items := by
  induction items with
  | nil => rfl
  | cons first rest ih =>
    cases hcmp : item.cmp first <;> simp only [insertItem, OrderedSet.insert, hcmp, ih]

theorem mem_removeItem_iff {item s : Suggestion} {items : List Suggestion}
    (hitems : OrderedSet.Ordered Suggestion.cmp items) (hitem : item ∈ items) :
    s ∈ removeItem item items ↔ s ∈ items ∧ s ≠ item := by
  rw [mem_removeItem]
  constructor
  · rintro ⟨hs, hne⟩
    refine ⟨hs, ?_⟩
    rintro rfl
    exact hne s.cmp_self
  · rintro ⟨hs, hne⟩
    exact ⟨hs, fun heq => hne (OrderedSet.eq_of_cmp_eq hitems hitem hs heq).symm⟩

namespace SuggestionQueue

/-- `new`. -/
def new (maxSize : Nat) : SuggestionQueue := ⟨[], ∅, maxSize⟩

section

variable (toLowercase : String → String) (hash : SuggestionType → List Char → UInt64)

/-- What is called on a queue. -/
inductive Op where
  | push (suggestion : Suggestion)
  | pop
  | removeById (suggestionId : String)
  | removeExpired (now : Nat)

/-- One call. -/
def step (self : SuggestionQueue) : Op → SuggestionQueue
  | .push suggestion => (self.push toLowercase hash suggestion).1
  | .pop => (self.pop toLowercase hash).1
  | .removeById suggestionId => (self.removeById toLowercase hash suggestionId).1
  | .removeExpired now => (self.removeExpired toLowercase hash now).1

/-! ## What it should be -/

/-- What the queue should be at every moment. -/
structure Represents (queue : SuggestionQueue) : Prop where
  /-- The fingerprints are those of the suggestions. -/
  fingerprints : ∀ fp, fp ∈ queue.fingerprints ↔
    ∃ s ∈ queue.items, contentFingerprint toLowercase hash s = some fp
  distinct : queue.items.Pairwise fun a b =>
    contentFingerprint toLowercase hash a ≠ contentFingerprint toLowercase hash b
  bounded : queue.items.length ≤ queue.maxSize
  ordered : OrderedSet.Ordered Suggestion.cmp queue.items

/-- Every queued suggestion has a fingerprint: one whose text is cut inside a character panics
    before it is queued. -/
def Hashed (queue : SuggestionQueue) : Prop :=
  ∀ s ∈ queue.items, ∃ fp, contentFingerprint toLowercase hash s = some fp

/-- A push lets the suggestion in: its content is not queued, and there is room or it comes before
    the last. -/
def Admits (queue : SuggestionQueue) (suggestion : Suggestion) : Prop :=
  (∃ fp, contentFingerprint toLowercase hash suggestion = some fp ∧ fp ∉ queue.fingerprints) ∧
    (queue.maxSize ≤ queue.items.length →
      ∀ last, queue.items.getLast? = some last → suggestion.cmp last = .lt)

/-- No suggestion is let in that has priority, time and id of a queued one, or by a queue of no
    capacity. -/
def AdmitsApart (queue : SuggestionQueue) : Op → Prop
  | .push suggestion => Admits toLowercase hash queue suggestion →
      0 < queue.maxSize ∧ ∀ s ∈ queue.items, ¬ (suggestion.priority = s.priority ∧
        suggestion.createdAt = s.createdAt ∧ suggestion.suggestionId = s.suggestionId)
  | .pop | .removeById _ | .removeExpired _ => True

end

/-! ## Taking out -/

section

variable {toLowercase : String → String} {hash : SuggestionType → List Char → UInt64}
  {self : SuggestionQueue}

theorem represents_new (maxSize : Nat) : Represents toLowercase hash (new maxSize) where
  fingerprints := by
    intro fp
    simp [new]
  distinct := List.Pairwise.nil
  bounded := Nat.zero_le _
  ordered := List.Pairwise.nil

/-- Two queued suggestions with one fingerprint are the same. -/
theorem Represents.eq_of_fingerprint (h : Represents toLowercase hash self) {a b : Suggestion}
    (ha : a ∈ self.items) (hb : b ∈ self.items)
    (hfp : contentFingerprint toLowercase hash a = contentFingerprint toLowercase hash b) :
    a = b := by
  by_contra hne
  have : Std.Symm fun a b : Suggestion =>
      contentFingerprint toLowercase hash a ≠ contentFingerprint toLowercase hash b :=
    ⟨fun _ _ hab => Ne.symm hab⟩
  exact h.distinct.forall ha hb hne hfp

/-- **Taking out** suggestions with their fingerprints, and no other ones. -/
theorem Represents.keep (h : Represents toLowercase hash self) (p : Suggestion → Bool)
    {fps : Finset UInt64} (hfps : ∀ fp, fp ∈ fps ↔ fp ∈ self.fingerprints ∧
      ∀ s ∈ self.items, p s = false → contentFingerprint toLowercase hash s ≠ some fp) :
    Represents toLowercase hash ⟨self.items.filter p, fps, self.maxSize⟩ where
  fingerprints := by
    intro fp
    rw [hfps, h.fingerprints]
    constructor
    · rintro ⟨⟨s, hs, hfp⟩, hout⟩
      have hp : p s = true := by
        by_contra hp
        exact hout s hs (by simpa using hp) hfp
      exact ⟨s, List.mem_filter.mpr ⟨hs, hp⟩, hfp⟩
    · rintro ⟨s, hs, hfp⟩
      obtain ⟨hmem, hp⟩ := List.mem_filter.mp hs
      refine ⟨⟨s, hmem, hfp⟩, fun other hother hout hsame => ?_⟩
      obtain rfl := h.eq_of_fingerprint hmem hother (hfp.trans hsame.symm)
      rw [hp] at hout
      cases hout
  distinct := h.distinct.filter p
  bounded := Nat.le_trans (List.length_filter_le p self.items) h.bounded
  ordered := h.ordered.filter p

/-- Taking out one. -/
theorem Represents.without (h : Represents toLowercase hash self) {s : Suggestion}
    (hs : s ∈ self.items) {fp : UInt64} (hfp : contentFingerprint toLowercase hash s = some fp) :
    Represents toLowercase hash
      ⟨removeItem s self.items, self.fingerprints.erase fp, self.maxSize⟩ := by
  refine h.keep _ fun other => ?_
  rw [Finset.mem_erase]
  constructor
  · rintro ⟨hne, hmem⟩
    refine ⟨hmem, fun t ht hout hsame => ?_⟩
    have heq : s.cmp t = .eq := by simpa using hout
    obtain rfl := OrderedSet.eq_of_cmp_eq h.ordered hs ht heq
    exact hne (Option.some.inj (hsame.symm.trans hfp))
  · rintro ⟨hmem, hout⟩
    refine ⟨?_, hmem⟩
    rintro rfl
    exact hout s hs (by simp [s.cmp_self]) hfp

theorem mem_foldl_erase {fps : List UInt64} {set : Finset UInt64} {fp : UInt64} :
    fp ∈ fps.foldl (fun set fp => set.erase fp) set ↔ fp ∈ set ∧ fp ∉ fps := by
  induction fps generalizing set with
  | nil => simp
  | cons first rest ih =>
    rw [List.foldl_cons, ih, Finset.mem_erase, List.mem_cons, not_or]
    tauto

/-- The fingerprints of suggestions, when all of them have one. -/
theorem mem_of_mapM_fingerprint {suggestions : List Suggestion} {fps : List UInt64}
    (h : suggestions.mapM (contentFingerprint toLowercase hash) = some fps) (fp : UInt64) :
    fp ∈ fps ↔ ∃ s ∈ suggestions, contentFingerprint toLowercase hash s = some fp := by
  induction suggestions generalizing fps with
  | nil =>
    cases h
    simp
  | cons first rest ih =>
    rw [List.mapM_cons] at h
    obtain ⟨head, hhead, h⟩ := Option.bind_eq_some_iff.mp h
    obtain ⟨tail, htail, h⟩ := Option.bind_eq_some_iff.mp h
    cases h
    rw [List.mem_cons, ih htail, List.exists_mem_cons_iff, hhead, Option.some.injEq, eq_comm]

theorem pop_represents (h : Represents toLowercase hash self)
    (hhashed : Hashed toLowercase hash self) :
    Represents toLowercase hash (self.pop toLowercase hash).1 := by
  unfold pop
  split
  case h_1 => exact h
  case h_2 first rest hitems =>
    have hmem : first ∈ self.items := hitems ▸ List.mem_cons_self
    obtain ⟨fp, hfp⟩ := hhashed first hmem
    simp only [hfp]
    exact h.without hmem hfp

theorem removeById_represents (h : Represents toLowercase hash self)
    (hhashed : Hashed toLowercase hash self) (suggestionId : String) :
    Represents toLowercase hash (self.removeById toLowercase hash suggestionId).1 := by
  unfold removeById
  cases hfind : self.items.find? fun s => s.suggestionId == suggestionId with
  | none => exact h
  | some found =>
    have hmem := List.mem_of_find?_eq_some hfind
    obtain ⟨fp, hfp⟩ := hhashed found hmem
    simp only [hfp]
    exact h.without hmem hfp

theorem removeExpired_represents (h : Represents toLowercase hash self) (now : Nat) :
    Represents toLowercase hash (self.removeExpired toLowercase hash now).1 := by
  unfold removeExpired
  split
  case h_1 => exact h
  case h_2 expiredFps hfps =>
    refine h.keep _ fun fp => ?_
    rw [mem_foldl_erase, mem_of_mapM_fingerprint hfps]
    simp only [List.mem_filter, Bool.not_eq_false', not_exists, not_and, and_imp]

/-! ## Pushing -/

variable {suggestion : Suggestion}

/-- The queue without its last suggestion, where it is full. -/
def madeRoom (toLowercase : String → String) (hash : SuggestionType → List Char → UInt64)
    (self : SuggestionQueue) : SuggestionQueue :=
  if self.maxSize ≤ self.items.length then
    match self.items.getLast? with
    | none => self
    | some last =>
      match contentFingerprint toLowercase hash last with
      | none => self
      | some evicted => ⟨removeItem last self.items, self.fingerprints.erase evicted, self.maxSize⟩
  else self

/-- **What a push does**: nothing, or it puts the suggestion where room was made. -/
theorem push_cases (hhashed : Hashed toLowercase hash self) (suggestion : Suggestion) :
    ¬ Admits toLowercase hash self suggestion ∧
        (self.push toLowercase hash suggestion).1 = self ∨
      Admits toLowercase hash self suggestion ∧
        ∃ fp, contentFingerprint toLowercase hash suggestion = some fp ∧ fp ∉ self.fingerprints ∧
          (self.push toLowercase hash suggestion).1 =
            ((self.madeRoom toLowercase hash).withItem suggestion fp).1 := by
  unfold push madeRoom
  cases hfp : contentFingerprint toLowercase hash suggestion with
  | none =>
    refine .inl ⟨?_, rfl⟩
    rintro ⟨⟨fp, hsome, -⟩, -⟩
    rw [hfp] at hsome
    cases hsome
  | some fp =>
    by_cases hknown : fp ∈ self.fingerprints
    · simp only [if_pos hknown]
      refine .inl ⟨?_, trivial⟩
      rintro ⟨⟨fp', hsome, hnew⟩, -⟩
      rw [hfp] at hsome
      cases hsome
      exact hnew hknown
    · simp only [if_neg hknown]
      by_cases hfull : self.maxSize ≤ self.items.length
      · simp only [if_pos hfull]
        cases hlast : self.items.getLast? with
        | none =>
          refine .inr ⟨⟨⟨fp, hfp, hknown⟩, fun _ last h => ?_⟩, fp, rfl, hknown, rfl⟩
          rw [hlast] at h
          cases h
        | some last =>
          obtain ⟨evicted, hevicted⟩ := hhashed last (List.mem_of_getLast? hlast)
          by_cases hbefore : suggestion.cmp last = .lt
          · simp only [if_pos hbefore, hevicted]
            refine .inr ⟨⟨⟨fp, hfp, hknown⟩, fun _ last' h => ?_⟩, fp, rfl, hknown, rfl⟩
            rw [hlast] at h
            cases h
            exact hbefore
          · simp only [if_neg hbefore]
            refine .inl ⟨fun hadmits => hbefore (hadmits.2 hfull last hlast), trivial⟩
      · simp only [if_neg hfull]
        exact .inr ⟨⟨⟨fp, hfp, hknown⟩, fun h => absurd h hfull⟩, fp, rfl, hknown, rfl⟩

/-- What is left when room is made. -/
theorem madeRoom_spec (h : Represents toLowercase hash self)
    (hhashed : Hashed toLowercase hash self) :
    Represents toLowercase hash (self.madeRoom toLowercase hash) ∧
      (self.madeRoom toLowercase hash).maxSize = self.maxSize ∧
      (0 < self.maxSize → (self.madeRoom toLowercase hash).items.length < self.maxSize) ∧
      (∀ s ∈ (self.madeRoom toLowercase hash).items, s ∈ self.items) ∧
      (∀ fp ∈ (self.madeRoom toLowercase hash).fingerprints, fp ∈ self.fingerprints) ∧
      ∀ s ∈ self.items, s ∈ (self.madeRoom toLowercase hash).items ∨
        self.maxSize ≤ self.items.length ∧ self.items.getLast? = some s := by
  unfold madeRoom
  by_cases hfull : self.maxSize ≤ self.items.length
  · simp only [if_pos hfull]
    cases hlast : self.items.getLast? with
    | none =>
      have hnil : self.items = [] := List.getLast?_eq_none_iff.mp hlast
      refine ⟨h, rfl, fun hpos => ?_, fun s hs => hs, fun fp hfp => hfp, fun s hs => .inl hs⟩
      rw [hnil]
      exact hpos
    | some last =>
      have hmem : last ∈ self.items := List.mem_of_getLast? hlast
      obtain ⟨evicted, hevicted⟩ := hhashed last hmem
      simp only [hevicted]
      refine ⟨h.without hmem hevicted, trivial, fun _ => ?_, fun s hs => (mem_removeItem.mp hs).1,
        fun fp hfp => Finset.mem_of_mem_erase hfp, fun s hs => ?_⟩
      · have hshorter : (removeItem last self.items).length < self.items.length := by
          refine List.length_filter_lt_length_iff_exists.mpr ⟨last, hmem, ?_⟩
          simp [last.cmp_self]
        exact Nat.lt_of_lt_of_le hshorter h.bounded
      · by_cases hs' : s = last
        · exact .inr ⟨hfull, hs' ▸ rfl⟩
        · exact .inl ((mem_removeItem_iff h.ordered hmem).mpr ⟨hs, hs'⟩)
  · simp only [if_neg hfull]
    exact ⟨h, trivial, fun _ => by omega, fun s hs => hs, fun fp hfp => hfp, fun s hs => .inl hs⟩

/-- A suggestion that is new to the set comes in with its fingerprint. -/
theorem withItem_represents (h : Represents toLowercase hash self) {fp : UInt64}
    (hfp : contentFingerprint toLowercase hash suggestion = some fp) (hnew : fp ∉ self.fingerprints)
    (hroom : self.items.length < self.maxSize)
    (hapart : ∀ s ∈ self.items, suggestion.cmp s ≠ .eq) :
    Represents toLowercase hash (self.withItem suggestion fp).1 := by
  have hperm : (insertItem suggestion self.items).1.Perm (suggestion :: self.items) := by
    rw [insertItem_eq]
    exact OrderedSet.insert_perm hapart
  refine ⟨fun other => ?_, ?_, ?_, ?_⟩
  · show other ∈ insert fp self.fingerprints ↔ ∃ s ∈ (insertItem suggestion self.items).1, _
    rw [Finset.mem_insert, h.fingerprints]
    simp only [hperm.mem_iff, List.exists_mem_cons_iff, hfp, Option.some.injEq]
    exact or_congr_left eq_comm
  · have hcons : (suggestion :: self.items).Pairwise fun a b =>
        contentFingerprint toLowercase hash a ≠ contentFingerprint toLowercase hash b := by
      refine List.pairwise_cons.mpr ⟨fun s hs hsame => hnew ?_, h.distinct⟩
      exact (h.fingerprints fp).mpr ⟨s, hs, hsame.symm.trans hfp⟩
    exact (hperm.pairwise_iff fun hab => Ne.symm hab).mpr hcons
  · show (insertItem suggestion self.items).1.length ≤ self.maxSize
    rw [hperm.length_eq, List.length_cons]
    exact hroom
  · show OrderedSet.Ordered Suggestion.cmp (insertItem suggestion self.items).1
    rw [insertItem_eq]
    exact OrderedSet.insert_ordered suggestion h.ordered

/-- **A suggestion that the set does not take** leaves a fingerprint behind. -/
theorem withItem_taken {fp : UInt64} (h : Represents toLowercase hash self)
    (hnew : fp ∉ self.fingerprints) {s : Suggestion} (hs : s ∈ self.items)
    (hsame : suggestion.cmp s = .eq) :
    ¬ Represents toLowercase hash (self.withItem suggestion fp).1 := by
  intro hafter
  obtain ⟨t, ht, htfp⟩ := (hafter.fingerprints fp).mp (Finset.mem_insert_self fp self.fingerprints)
  have hitems : (self.withItem suggestion fp).1.items = self.items := by
    show (insertItem suggestion self.items).1 = self.items
    rw [insertItem_eq, OrderedSet.insert_of_mem h.ordered hs hsame]
  rw [hitems] at ht
  exact hnew ((h.fingerprints fp).mpr ⟨t, ht, htfp⟩)

theorem withItem_ne_nil (self : SuggestionQueue) (suggestion : Suggestion) (fp : UInt64) :
    (self.withItem suggestion fp).1.items ≠ [] := by
  show (insertItem suggestion self.items).1 ≠ []
  cases self.items with
  | nil => simp [insertItem]
  | cons first rest =>
    rw [insertItem]
    split <;> simp

/-- **A push** keeps the queue what it should be exactly when it lets in none of the wrong ones. -/
theorem push_represents_iff (h : Represents toLowercase hash self)
    (hhashed : Hashed toLowercase hash self) (suggestion : Suggestion) :
    Represents toLowercase hash (self.push toLowercase hash suggestion).1 ↔
      AdmitsApart toLowercase hash self (.push suggestion) := by
  rcases push_cases hhashed suggestion with ⟨hrefused, heq⟩ | ⟨hadmits, fp, hfp, hnew, heq⟩
  · rw [heq]
    exact ⟨fun _ hadmits => absurd hadmits hrefused, fun _ => h⟩
  · obtain ⟨hroom, hmax, hlength, hitems, hfps, hrest⟩ := madeRoom_spec h hhashed
    have hnewRoom : fp ∉ (self.madeRoom toLowercase hash).fingerprints :=
      fun hin => hnew (hfps fp hin)
    rw [heq]
    constructor
    · intro hafter _
      refine ⟨?_, fun s hs hkey => ?_⟩
      · by_contra hzero
        have hbound := hafter.bounded
        have hne := withItem_ne_nil (self.madeRoom toLowercase hash) suggestion fp
        have hpos := List.length_pos_of_ne_nil hne
        have hcap : ((self.madeRoom toLowercase hash).withItem suggestion fp).1.maxSize =
          self.maxSize := hmax
        omega
      · have hsame : suggestion.cmp s = .eq := Suggestion.cmp_eq_iff.mpr hkey
        rcases hrest s hs with hs' | ⟨hfull, hlast⟩
        · exact withItem_taken hroom hnewRoom hs' hsame hafter
        · -- a full queue lets in what comes before its last suggestion
          have hlt := hadmits.2 hfull s hlast
          rw [hsame] at hlt
          cases hlt
    · intro hapart
      obtain ⟨hpos, hkeys⟩ := hapart hadmits
      refine withItem_represents hroom hfp hnewRoom (hmax.symm ▸ hlength hpos) fun s hs heq => ?_
      exact hkeys s (hitems s hs) (Suggestion.cmp_eq_iff.mp heq)

/-! ## Runs -/

theorem hashed_of_mem {left : SuggestionQueue} (h : Hashed toLowercase hash self)
    (hleft : ∀ s ∈ left.items, s ∈ self.items) : Hashed toLowercase hash left :=
  fun s hs => h s (hleft s hs)

/-- Every operation keeps the fingerprints. -/
theorem step_hashed (h : Hashed toLowercase hash self) (op : Op) :
    Hashed toLowercase hash (self.step toLowercase hash op) := by
  cases op with
  | push suggestion =>
    rcases push_cases h suggestion with ⟨-, heq⟩ | ⟨-, fp, hfp, -, -⟩
    · show Hashed toLowercase hash (self.push toLowercase hash suggestion).1
      rw [heq]
      exact h
    · intro s hs
      rcases mem_of_push hs with rfl | hold
      · exact ⟨fp, hfp⟩
      · exact h s hold
  | pop =>
    refine hashed_of_mem h fun s hs => ?_
    simp only [step, pop] at hs
    split at hs
    · exact hs
    · split at hs
      · exact (mem_removeItem.mp hs).1
      · exact (mem_removeItem.mp hs).1
  | removeById suggestionId =>
    refine hashed_of_mem h fun s hs => ?_
    rcases removeById_spec self suggestionId with ⟨heq, -⟩ | ⟨found, -, -, heq, -⟩
    · rw [step, heq] at hs
      exact hs
    · rw [step, heq] at hs
      exact (mem_removeItem.mp hs).1
  | removeExpired now => exact hashed_of_mem h fun s hs => mem_of_removeExpired hs

/-- What holds between the operations. -/
structure Kept (toLowercase : String → String) (hash : SuggestionType → List Char → UInt64)
    (queue : SuggestionQueue) : Prop where
  represents : Represents toLowercase hash queue
  hashed : Hashed toLowercase hash queue

theorem step_represents_iff (h : Kept toLowercase hash self) (op : Op) :
    Represents toLowercase hash (self.step toLowercase hash op) ↔
      AdmitsApart toLowercase hash self op := by
  cases op with
  | push suggestion => exact push_represents_iff h.represents h.hashed suggestion
  | pop => exact iff_of_true (pop_represents h.represents h.hashed) trivial
  | removeById suggestionId =>
    exact iff_of_true (removeById_represents h.represents h.hashed suggestionId) trivial
  | removeExpired now => exact iff_of_true (removeExpired_represents h.represents now) trivial

theorem step_kept (queue : SuggestionQueue) (op : Op) (h : Kept toLowercase hash queue)
    (hop : AdmitsApart toLowercase hash queue op) :
    Kept toLowercase hash (queue.step toLowercase hash op) :=
  ⟨(step_represents_iff h op).mpr hop, step_hashed h.hashed op⟩

end

/-- **The queue is what it should be** all along a run exactly when every suggestion that is let in
    comes to a queue of some capacity and differs in priority, time or id from the queued ones. -/
theorem represents_iff (toLowercase : String → String) (hash : SuggestionType → List Char → UInt64)
    (maxSize : Nat) (ops : List Op) :
    (∀ queue ∈ states (step toLowercase hash) (new maxSize) ops,
        Represents toLowercase hash queue) ↔
      Along (step toLowercase hash) (AdmitsApart toLowercase hash) (new maxSize) ops := by
  have hstart : Kept toLowercase hash (new maxSize) := by
    refine ⟨represents_new maxSize, fun s hs => ?_⟩
    cases hs
  constructor
  · intro hall
    exact along_of_states step_kept (fun queue op h hgood => (step_represents_iff h op).mp hgood)
      hstart hall
  · intro hrun queue hqueue
    have hkept := states_invariant step_kept hstart hrun queue hqueue
    exact hkept.represents

/-! ## A fingerprint that stays -/

/-- A hash that tells texts of different lengths apart. -/
def exampleHash (_ : SuggestionType) (text : List Char) : UInt64 := UInt64.ofNat text.length

def exampleTip : Suggestion := ⟨"s1", .productivityTip, "Take a break", .medium, 0, none⟩

/-- The tip once more, with another content. -/
def exampleReworded : Suggestion := { exampleTip with content := "Take a short break" }

/-- **A fingerprint stays** without a suggestion: the reworded one is not taken, and its content is
    refused from then on. -/
theorem fingerprint_stays :
    ¬ ∀ queue ∈ states (step (fun text => text) exampleHash) (new 50)
        [.push exampleTip, .push exampleReworded],
      Represents (fun text => text) exampleHash queue := by
  intro h
  have hlast := h _ (foldl_mem_states _ _)
  have hitems : ([Op.push exampleTip, .push exampleReworded].foldl
      (step (fun text => text) exampleHash) (new 50)).items = [exampleTip] := by decide +kernel
  obtain ⟨s, hs, hfp⟩ := (hlast.fingerprints 18).mp (by decide +kernel)
  rw [hitems] at hs
  obtain rfl := List.mem_singleton.mp hs
  revert hfp
  decide +kernel

end SuggestionQueue

end Oneshim.Suggestions
