/-
  The greatest few of a list, greatest first.

  This is what a query that orders by a key and stops after so many rows answers.  Entries with one
  key come in any order, so it is a relation: what is found is the front of SOME arrangement of all
  entries in which no entry comes before a greater one.

  * `Top` — the relation, and what it says of what is found (`Top.eq_take` where no two keys are the
    same);
  * `top_mergeSort` — sorting and cutting off finds a top;
  * `insertionSort_stable` — what a stable sort leaves in order;
  * `Top.complete` — the crux: where the greatest entries are at hand, those of a top that are not
    among them fill up to a top.  The top is of all entries, so however many of its own entries are
    at hand, as many are left in it as are missing.
-/
import Mathlib.Data.List.Perm.Basic
import Mathlib.Data.List.Sort

namespace Lib

variable {α κ : Type} [LinearOrder κ]

/-- `found` are the first `limit` of the entries, from the greatest on. -/
def Top (key : α → κ) (limit : Nat) (entries found : List α) : Prop :=
  ∃ view : List α, view.Perm entries ∧ view.Pairwise (fun a b => key b ≤ key a) ∧
    found = view.take limit

variable {key : α → κ} {limit : Nat} {entries found : List α}

/-! ## What a top is -/

/-- **Sorted.** -/
theorem Top.pairwise (h : Top key limit entries found) :
    found.Pairwise fun a b => key b ≤ key a := by
  obtain ⟨view, -, hsorted, rfl⟩ := h
  exact hsorted.sublist (List.take_sublist limit view)

/-- **As many as there are to be.** -/
theorem Top.length_eq (h : Top key limit entries found) :
    found.length = min limit entries.length := by
  obtain ⟨view, hperm, -, rfl⟩ := h
  rw [List.length_take, hperm.length_eq]

/-- Only the entries matter, not the order they come in. -/
theorem Top.of_perm {others : List α} (h : Top key limit entries found)
    (hperm : entries.Perm others) : Top key limit others found := by
  obtain ⟨view, hview, hsorted, hfound⟩ := h
  exact ⟨view, hview.trans hperm, hsorted, hfound⟩

/-- What tells the entries apart tells apart what is found. -/
theorem Top.nodup_map {β : Type} {f : α → β} (h : Top key limit entries found)
    (hnodup : (entries.map f).Nodup) : (found.map f).Nodup := by
  obtain ⟨view, hperm, -, rfl⟩ := h
  have hview : (view.map f).Nodup := (hperm.map f).nodup_iff.mpr hnodup
  exact hview.sublist ((List.take_sublist limit view).map f)

/-- A top of entries that stand for others with the same keys. -/
theorem Top.map {β : Type} {f : α → β} {key' : β → κ} (h : Top key limit entries found)
    (hkey : ∀ a ∈ entries, key' (f a) = key a) :
    Top key' limit (entries.map f) (found.map f) := by
  obtain ⟨view, hperm, hsorted, rfl⟩ := h
  refine ⟨view.map f, hperm.map f, ?_, List.map_take⟩
  refine List.pairwise_map.mpr (hsorted.imp_of_mem fun {a b} ha hb hle => ?_)
  rw [hkey a (hperm.mem_iff.mp ha), hkey b (hperm.mem_iff.mp hb)]
  exact hle

/-- Entries with keys of their own have one top. -/
theorem Top.eq_take (h : Top key limit entries found) {view : List α} (hperm : view.Perm entries)
    (hsorted : view.Pairwise fun a b => key b < key a) : found = view.take limit := by
  obtain ⟨other, hother, hpairwise, rfl⟩ := h
  have hsame : other = view := by
    refine (hother.trans hperm.symm).eq_of_pairwise ?_ hpairwise (hsorted.imp le_of_lt)
    intro a b ha hb hab hba
    -- entries of one key are one entry, whichever of the two comes first
    have hone : ∀ ⦃a⦄, a ∈ view → ∀ ⦃b⦄, b ∈ view → key a = key b → a = b :=
      List.Pairwise.forall_of_forall_of_flip (fun a _ _ => rfl)
        (hsorted.imp fun hlt heq => absurd heq hlt.ne')
        (hsorted.imp fun hlt heq => absurd heq hlt.ne)
    exact hone ((hother.trans hperm.symm).mem_iff.mp ha) hb (le_antisymm hba hab)
  rw [hsame]

/-- **A stable sort** by `r` leaves entries of one rank in the order `s` they came in. -/
theorem insertionSort_stable {r s : α → α → Prop} [DecidableRel r]
    (htotal : ∀ a b, r a b ∨ r b a) (htrans : ∀ a b c, r a b → r b c → r a c) {l : List α}
    (hl : l.Pairwise s) : (l.insertionSort r).Pairwise fun a b => r a b ∧ (r b a → s a b) := by
  induction l with
  | nil => exact List.Pairwise.nil
  | cons a l ih =>
    obtain ⟨ha, hl⟩ := List.pairwise_cons.mp hl
    rw [List.insertionSort_cons]
    have hs : ∀ b ∈ l.insertionSort r, s a b := fun b hb => ha b ((List.mem_insertionSort r).mp hb)
    specialize ih hl
    -- the entry goes in front of the first one it does not come after
    revert ih hs
    generalize l.insertionSort r = sorted
    intro ih hs
    induction sorted with
    | nil => exact List.pairwise_singleton _ a
    | cons x xs ihx =>
      obtain ⟨hx, hxs⟩ := List.pairwise_cons.mp ih
      by_cases hax : r a x
      · rw [List.orderedInsert_cons_of_le r xs hax]
        refine List.pairwise_cons.mpr ⟨fun y hy => ⟨?_, fun _ => hs y hy⟩, ih⟩
        rcases List.mem_cons.mp hy with rfl | hy
        · exact hax
        · exact htrans a x y hax (hx y hy).1
      · rw [List.orderedInsert_of_not_le r xs hax]
        refine List.pairwise_cons.mpr
          ⟨fun y hy => ?_, ihx hxs (fun b hb => hs b (List.mem_cons_of_mem x hb))⟩
        rcases (List.mem_orderedInsert r).mp hy with rfl | hy
        · exact ⟨(htotal x y).resolve_right hax, fun h => absurd h hax⟩
        · exact hx y hy

/-- Sorting finds a top. -/
theorem top_mergeSort (key : α → κ) (limit : Nat) (entries : List α) :
    Top key limit entries
      ((entries.mergeSort fun a b => decide (key b ≤ key a)).take limit) := by
  refine ⟨_, List.mergeSort_perm entries _, ?_, rfl⟩
  have hsorted := @List.pairwise_mergeSort α (fun a b => decide (key b ≤ key a))
    (by
      intro a b c hab hbc
      simp only [decide_eq_true_eq] at hab hbc ⊢
      exact hbc.trans hab)
    (by
      intro a b
      simpa only [Bool.or_eq_true, decide_eq_true_eq] using le_total (key b) (key a))
    entries
  exact hsorted.imp fun hle => of_decide_eq_true hle

/-! ## Filling up a top -/

/-- Of the first `n`, leaving out no more than `k`, there are `n - k`, as of all. -/
theorem take_filter_take {p : α → Bool} {l : List α} {n k : Nat} (hk : k ≤ n)
    (hout : (l.filter fun x => !p x).length ≤ k) :
    ((l.take n).filter p).take (n - k) = (l.filter p).take (n - k) := by
  induction l generalizing n k with
  | nil => rw [List.take_nil]
  | cons x l ih =>
    cases n with
    | zero => simp only [Nat.zero_sub, List.take_zero]
    | succ n =>
      rw [List.take_succ_cons]
      cases hx : p x with
      | true =>
        have hrest : (l.filter fun x => !p x).length ≤ k := by
          simpa only [List.filter_cons, hx, Bool.not_true, Bool.false_eq_true, if_false] using hout
        rw [List.filter_cons_of_pos hx, List.filter_cons_of_pos hx]
        by_cases hle : k ≤ n
        · rw [show n + 1 - k = (n - k) + 1 by omega, List.take_succ_cons, List.take_succ_cons,
            ih hle hrest]
        · rw [show n + 1 - k = 0 by omega, List.take_zero, List.take_zero]
      | false =>
        have hlength : (l.filter fun x => !p x).length + 1 ≤ k := by
          simpa only [List.filter_cons, hx, Bool.not_false, if_true, List.length_cons] using hout
        obtain ⟨k, rfl⟩ : ∃ j, k = j + 1 := ⟨k - 1, by omega⟩
        have hneg : ¬ p x = true := by
          rw [hx]
          exact Bool.false_ne_true
        rw [List.filter_cons_of_neg hneg, List.filter_cons_of_neg hneg,
          show n + 1 - (k + 1) = n - k by omega]
        exact ih (by omega) (by omega)

/-- **Filling up.**  `recent` is at hand, greatest first, and nothing of the rest is greater. -/
theorem Top.complete {recent rest found : List α} {p : α → Bool}
    (h : Top key limit (recent ++ rest) found)
    (hrecent : recent.Pairwise fun a b => key b ≤ key a)
    (hle : ∀ a ∈ recent, ∀ b ∈ rest, key b ≤ key a)
    (hin : ∀ a ∈ recent, p a = false) (hout : ∀ b ∈ rest, p b = true)
    (hlength : recent.length ≤ limit) :
    Top key limit (recent ++ rest)
      (recent ++ (found.filter p).take (limit - recent.length)) := by
  obtain ⟨view, hperm, hsorted, rfl⟩ := h
  have hnone : recent.filter p = [] := List.filter_eq_nil_iff.mpr fun a ha => by
    rw [hin a ha]
    exact Bool.false_ne_true
  have hkept : (view.filter p).Perm rest := by
    have hfilter := hperm.filter p
    rwa [List.filter_append, hnone, List.nil_append, List.filter_eq_self.mpr hout] at hfilter
  have hdropped : (view.filter fun x => !p x).length ≤ recent.length := by
    have hnot : rest.filter (fun x => !p x) = [] := List.filter_eq_nil_iff.mpr fun b hb => by
      rw [hout b hb]
      exact Bool.false_ne_true
    rw [(hperm.filter _).length_eq, List.filter_append, hnot, List.append_nil]
    exact List.length_filter_le _ _
  refine ⟨recent ++ view.filter p, hkept.append_left recent, ?_, ?_⟩
  · refine List.pairwise_append.mpr ⟨hrecent, hsorted.filter p, fun a ha b hb => ?_⟩
    exact hle a ha b (hkept.mem_iff.mp hb)
  · rw [take_filter_take hlength hdropped, List.take_append, List.take_of_length_le hlength]

end Lib
