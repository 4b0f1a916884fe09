/-
  Which suggestions a full queue keeps (`oneshim-suggestion/src/queue.rs`).

  A push into a full queue looks at the last suggestion only: the new one takes its place, or is
  refused.  Where no two suggestions have one id or one fingerprint this is an insertion into an
  ordered set of limited size (`items_push`).  So the suggestions that are pushed into an empty queue
  leave the best of them all, whatever their order (`push_order_independent`).
-/
import Oneshim.Suggestions.QueueInvariant

namespace Oneshim.Suggestions.SuggestionQueue

open Lib

/-- The first `maxSize` of the suggestions, in the order of the queue. -/
def bestOf (maxSize : Nat) (suggestions : List Suggestion) : List Suggestion :=
  (suggestions.mergeSort fun a b => (a.cmp b).isLE).take maxSize

section

variable {toLowercase : String → String} {hash : SuggestionType → List Char → UInt64}
  {self : SuggestionQueue} {suggestion : Suggestion}

/-- A push leaves the capacity as it is. -/
theorem maxSize_push (self : SuggestionQueue) (suggestion : Suggestion) :
    (self.push toLowercase hash suggestion).1.maxSize = self.maxSize := by
  unfold push
  split
  · rfl
  · split
    · rfl
    · split
      · split
        · rfl
        · split
          · dsimp only
            split <;> rfl
          · rfl
      · rfl

/-- **A push of a new content** is an insertion of limited size. -/
theorem items_push (hhashed : Hashed toLowercase hash self) {fp : UInt64}
    (hfp : contentFingerprint toLowercase hash suggestion = some fp)
    (hnew : fp ∉ self.fingerprints) :
    (self.push toLowercase hash suggestion).1.items =
      OrderedSet.insertBounded Suggestion.cmp self.maxSize suggestion self.items := by
  simp only [push, hfp, if_neg hnew, OrderedSet.insertBounded]
  by_cases hfull : self.maxSize ≤ self.items.length
  · simp only [if_pos hfull]
    cases hlast : self.items.getLast? with
    | none => exact congrArg Prod.fst (insertItem_eq suggestion self.items)
    | some last =>
      obtain ⟨evicted, hevicted⟩ := hhashed last (List.mem_of_getLast? hlast)
      by_cases hbefore : suggestion.cmp last = .lt
      · simp only [if_pos hbefore, hevicted]
        exact congrArg Prod.fst (insertItem_eq suggestion (removeItem last self.items))
      · simp only [if_neg hbefore]
  · simp only [if_neg hfull]
    exact congrArg Prod.fst (insertItem_eq suggestion self.items)

/-- Two suggestions differ in their ids and in their fingerprints. -/
def Differ (toLowercase : String → String) (hash : SuggestionType → List Char → UInt64)
    (a b : Suggestion) : Prop :=
  a.suggestionId ≠ b.suggestionId ∧
    contentFingerprint toLowercase hash a ≠ contentFingerprint toLowercase hash b

/-- A suggestion that differs from the queued ones is let in apart from them. -/
theorem admitsApart_of_differ (hsize : 0 < self.maxSize)
    (hdiffer : ∀ s ∈ self.items, Differ toLowercase hash s suggestion) :
    AdmitsApart toLowercase hash self (.push suggestion) :=
  fun _ => ⟨hsize, fun s hs hkey => (hdiffer s hs).1 hkey.2.2.symm⟩

/-- **A run of pushes** of suggestions that differ. -/
theorem foldl_push {order : List Suggestion} (hkept : Kept toLowercase hash self)
    (hsize : 0 < self.maxSize) (hcut : Hashed toLowercase hash ⟨order, ∅, 0⟩)
    (hqueued : ∀ s ∈ self.items, ∀ t ∈ order, Differ toLowercase hash s t)
    (hdiffer : order.Pairwise (Differ toLowercase hash)) :
    Kept toLowercase hash (order.foldl (fun q s => (q.push toLowercase hash s).1) self) ∧
      (order.foldl (fun q s => (q.push toLowercase hash s).1) self).maxSize = self.maxSize ∧
      (order.foldl (fun q s => (q.push toLowercase hash s).1) self).items =
        order.foldl (fun xs s => OrderedSet.insertBounded Suggestion.cmp self.maxSize s xs)
          self.items := by
  induction order generalizing self with
  | nil => exact ⟨hkept, rfl, rfl⟩
  | cons first rest ih =>
    obtain ⟨hfirst, hrest⟩ := List.pairwise_cons.mp hdiffer
    obtain ⟨fp, hfp⟩ := hcut first List.mem_cons_self
    have hnew : fp ∉ self.fingerprints := by
      intro hknown
      obtain ⟨s, hs, hsame⟩ := (hkept.represents.fingerprints fp).mp hknown
      exact (hqueued s hs first List.mem_cons_self).2 (hsame.trans hfp.symm)
    have hapart := admitsApart_of_differ hsize fun s hs => hqueued s hs first List.mem_cons_self
    have hsame := @maxSize_push toLowercase hash self first
    have hafter : Kept toLowercase hash (self.push toLowercase hash first).1 :=
      step_kept self (.push first) hkept hapart
    obtain ⟨hkept', hmax, hitems⟩ := ih hafter (hsame.symm ▸ hsize)
      (fun s hs => hcut s (List.mem_cons_of_mem first hs))
      (fun s hs t ht => by
        rcases mem_of_push hs with rfl | hold
        · exact hfirst t ht
        · exact hqueued s hold t (List.mem_cons_of_mem first ht))
      hrest
    simp only [List.foldl_cons]
    refine ⟨hkept', hmax.trans hsame, ?_⟩
    rw [← items_push hkept.hashed hfp hnew, ← hsame]
    exact hitems

/-- The sorted suggestions are a set, when no two have one id. -/
theorem ordered_mergeSort {suggestions : List Suggestion}
    (hids : (suggestions.map Suggestion.suggestionId).Nodup) :
    OrderedSet.Ordered Suggestion.cmp (suggestions.mergeSort fun a b => (a.cmp b).isLE) := by
  have hsorted := @List.pairwise_mergeSort _ (fun a b : Suggestion => (a.cmp b).isLE)
    (fun a b c hab hbc => Std.TransCmp.isLE_trans hab hbc)
    (fun a b => by
      rw [@Std.OrientedCmp.eq_swap _ Suggestion.cmp _ b]
      cases a.cmp b <;> rfl) suggestions
  have hapart : (suggestions.mergeSort fun a b => (a.cmp b).isLE).Pairwise
      fun a b => a.suggestionId ≠ b.suggestionId :=
    List.pairwise_map.mp ((List.mergeSort_perm suggestions _).map _ |>.nodup_iff.mpr hids)
  refine (hsorted.and hapart).imp fun {a b} ⟨hle, hne⟩ => ?_
  cases hcmp : a.cmp b with
  | lt => rfl
  | eq => exact absurd (Suggestion.cmp_eq_iff.mp hcmp).2.2 hne
  | gt =>
    rw [hcmp] at hle
    cases hle

end

/-- **The queue keeps the best**, in whatever order the suggestions are pushed: those of no two ids or
    fingerprints alike, into an empty queue of some capacity. -/
theorem push_order_independent (toLowercase : String → String)
    (hash : SuggestionType → List Char → UInt64) (maxSize : Nat) (suggestions : List Suggestion)
    (hsize : 1 ≤ maxSize) (hids : (suggestions.map Suggestion.suggestionId).Nodup)
    (hcut : ∀ s ∈ suggestions, (contentFingerprint toLowercase hash s).isSome = true)
    (hfps : (suggestions.map (contentFingerprint toLowercase hash)).Nodup) :
    ∀ order : List Suggestion, order.Perm suggestions →
      order.foldl (fun queue s => (queue.push toLowercase hash s).1) (new maxSize) =
        ⟨bestOf maxSize suggestions,
          ((bestOf maxSize suggestions).filterMap (contentFingerprint toLowercase hash)).toFinset,
          maxSize⟩ := by
  intro order hperm
  have hdiffer : order.Pairwise (Differ toLowercase hash) := by
    have hdistinct := (List.pairwise_map.mp hids).and (List.pairwise_map.mp hfps)
    exact (hperm.pairwise_iff fun h => ⟨h.1.symm, h.2.symm⟩).mpr hdistinct
  have hkept : Kept toLowercase hash (new maxSize) :=
    ⟨represents_new maxSize, fun s hs => absurd hs List.not_mem_nil⟩
  obtain ⟨⟨hrepresents, -⟩, hmax, hitems⟩ := foldl_push hkept hsize
    (fun s hs => Option.isSome_iff_exists.mp (hcut s (hperm.mem_iff.mp hs)))
    (fun s hs => absurd hs List.not_mem_nil) hdiffer
  have hbest : (order.foldl (fun queue s => (queue.push toLowercase hash s).1)
      (new maxSize)).items = bestOf maxSize suggestions := by
    rw [hitems]
    exact OrderedSet.foldl_insertBounded hsize (ordered_mergeSort hids)
      (hperm.trans (List.mergeSort_perm suggestions _).symm)
  have hfingerprints : (order.foldl (fun queue s => (queue.push toLowercase hash s).1)
      (new maxSize)).fingerprints =
        ((bestOf maxSize suggestions).filterMap (contentFingerprint toLowercase hash)).toFinset := by
    ext fp
    rw [hrepresents.fingerprints, List.mem_toFinset, List.mem_filterMap, hbest]
  cases hqueue : order.foldl (fun queue s => (queue.push toLowercase hash s).1) (new maxSize) with
  | mk items fingerprints size =>
    rw [hqueue] at hbest hfingerprints hmax
    exact congr (congr (congrArg SuggestionQueue.mk hbest) hfingerprints) hmax

/-- A tip of another content that is more urgent. -/
def urgentTip : Suggestion := { exampleReworded with suggestionId := "s2", priority := .high }

theorem push_order_independent_sample :
    [exampleTip, urgentTip].foldl
        (fun queue s => (queue.push (fun text => text) exampleHash s).1) (new 1) =
      ⟨[urgentTip], {18}, 1⟩ := by
  rw [push_order_independent (fun text => text) exampleHash 1 [urgentTip, exampleTip] (Nat.le_refl 1)
    (by decide) (by decide +kernel) (by decide +kernel) _ (List.Perm.swap _ _ _), bestOf,
    List.mergeSort_of_pairwise (by decide)]
  have hfps : ([urgentTip, exampleTip].take 1).filterMap
      (contentFingerprint (fun text => text) exampleHash) = [18] := by
    decide +kernel
  rw [hfps]
  rfl

end Oneshim.Suggestions.SuggestionQueue
