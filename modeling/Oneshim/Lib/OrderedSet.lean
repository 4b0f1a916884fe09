/-
  Sets kept in order by a comparison.

  The elements stand in a list, each before the ones that are greater; elements that compare equal
  are one element, whatever else they differ in.

  * `insert` — the set with the element, and whether it was new;
  * `remove` — the set without what compares equal to the element.

  An insertion adds a new element (`insert_perm`) and does nothing at all for an old one
  (`insert_of_mem`); both keep the order.

  * `insertBounded` — an insertion into a set of limited size, where a new element takes the place of
    the last one or is refused.

  Elements that are inserted one by one into an empty set of limited size leave the first of them all,
  in whatever order they come (`foldl_insertBounded`).
-/
import Mathlib.Data.List.Basic
import Mathlib.Data.List.Pairwise
import Mathlib.Order.Compare

namespace Lib.OrderedSet

variable {α : Type} {cmp : α → α → Ordering}

/-- Each element is before the later ones. -/
def Ordered (cmp : α → α → Ordering) (xs : List α) : Prop := xs.Pairwise fun x y => cmp x y = .lt

/-- The set with an element, and whether it is new. -/
def insert (cmp : α → α → Ordering) (x : α) : List α → List α × Bool
  | [] => ([x], true)
  | y :: ys =>
    match cmp x y with
    | .lt => (x :: y :: ys, true)
    | .eq => (y :: ys, false)
    | .gt => (y :: (insert cmp x ys).1, (insert cmp x ys).2)

/-- The set without what compares equal to an element. -/
def remove (cmp : α → α → Ordering) (x : α) (xs : List α) : List α :=
  xs.filter fun y => cmp x y != .eq

variable {xs : List α}

/-- A new element is added. -/
theorem insert_perm {x : α} (hnew : ∀ y ∈ xs, cmp x y ≠ .eq) :
    (insert cmp x xs).1.Perm (x :: xs) := by
  induction xs with
  | nil => exact List.Perm.refl _
  | cons y ys ih =>
    rw [insert]
    cases hxy : cmp x y with
    | lt => exact List.Perm.refl _
    | eq => exact absurd hxy (hnew y List.mem_cons_self)
    | gt =>
      have htail := ih fun z hz => hnew z (List.mem_cons_of_mem y hz)
      exact (htail.cons y).trans (List.Perm.swap x y ys)

/-- What is in a set after an insertion. -/
theorem mem_of_mem_insert {x z : α} (h : z ∈ (insert cmp x xs).1) :
    z = x ∨ z ∈ xs := by
  induction xs with
  | nil => exact .inl (List.mem_singleton.mp h)
  | cons y ys ih =>
    rw [insert] at h
    cases hxy : cmp x y with
    | lt =>
      rw [hxy] at h
      exact List.mem_cons.mp h
    | eq =>
      rw [hxy] at h
      exact .inr h
    | gt =>
      rw [hxy] at h
      rcases List.mem_cons.mp h with rfl | htail
      · exact .inr List.mem_cons_self
      · exact (ih htail).imp_right (List.mem_cons_of_mem y)

section

variable [Std.TransCmp cmp]

/-- **An old element** is not added again. -/
theorem insert_of_mem {x y : α} (hxs : Ordered cmp xs) (hy : y ∈ xs) (hxy : cmp x y = .eq) :
    insert cmp x xs = (xs, false) := by
  induction xs with
  | nil => exact absurd hy List.not_mem_nil
  | cons z zs ih =>
    obtain ⟨hz, hzs⟩ := List.pairwise_cons.mp hxs
    rw [insert]
    rcases List.mem_cons.mp hy with rfl | htail
    · rw [hxy]
    · -- the equal element comes later, so the walk goes past this one
      have hgt : cmp x z = .gt := by
        rw [Std.OrientedCmp.gt_iff_lt]
        exact Std.TransCmp.lt_of_lt_of_eq (hz y htail) (Std.OrientedCmp.eq_symm hxy)
      rw [hgt]
      simp only [ih hzs htail]

/-- An insert keeps the order. -/
theorem insert_ordered (x : α) (hxs : Ordered cmp xs) :
    Ordered cmp (insert cmp x xs).1 := by
  induction xs with
  | nil => exact List.pairwise_singleton _ _
  | cons y ys ih =>
    obtain ⟨hy, hys⟩ := List.pairwise_cons.mp hxs
    rw [insert]
    cases hxy : cmp x y with
    | lt =>
      refine List.pairwise_cons.mpr ⟨fun z hz => ?_, hxs⟩
      rcases List.mem_cons.mp hz with rfl | htail
      · exact hxy
      · exact Std.TransCmp.lt_trans hxy (hy z htail)
    | eq => exact hxs
    | gt =>
      refine List.pairwise_cons.mpr ⟨fun z hz => ?_, ih hys⟩
      rcases mem_of_mem_insert hz with rfl | hold
      · exact Std.OrientedCmp.gt_iff_lt.mp hxy
      · exact hy z hold

/-- Elements of a set that compare equal are the same. -/
theorem eq_of_cmp_eq {x y : α} (hxs : Ordered cmp xs) (hx : x ∈ xs) (hy : y ∈ xs)
    (h : cmp x y = .eq) : x = y := by
  induction xs with
  | nil => exact absurd hx List.not_mem_nil
  | cons z zs ih =>
    obtain ⟨hz, hzs⟩ := List.pairwise_cons.mp hxs
    rcases List.mem_cons.mp hx with rfl | hx' <;> rcases List.mem_cons.mp hy with rfl | hy'
    · rfl
    · rw [hz y hy'] at h
      cases h
    · rw [Std.OrientedCmp.gt_of_lt (hz x hx')] at h
      cases h
    · exact ih hzs hx' hy'

theorem apart_comm {x y : α} (h : cmp x y ≠ .eq) : cmp y x ≠ .eq :=
  fun heq => h (Std.OrientedCmp.eq_symm heq)

/-- A set is determined by its elements. -/
theorem Ordered.eq_of_perm {xs ys : List α} (hxs : Ordered cmp xs) (hys : Ordered cmp ys)
    (hperm : xs.Perm ys) : xs = ys := by
  refine hperm.eq_of_pairwise (fun a b _ _ hab hba => ?_) hxs hys
  rw [Std.OrientedCmp.gt_of_lt hba] at hab
  cases hab

omit [Std.TransCmp cmp] in
/-- Different elements of a set do not compare equal. -/
theorem Ordered.apart (hxs : Ordered cmp xs) :
    xs.Pairwise fun x y => cmp x y ≠ .eq :=
  hxs.imp fun hlt heq => by
    rw [hlt] at heq
    cases heq

/-- The last element is taken out. -/
theorem remove_last {x : α} (h : Ordered cmp (xs ++ [x])) :
    remove cmp x (xs ++ [x]) = xs := by
  have hbefore : ∀ y ∈ xs, cmp y x = .lt := fun y hy =>
    (List.pairwise_append.mp h).2.2 y hy x (List.mem_singleton_self x)
  have hkeep : xs.filter (fun y => cmp x y != .eq) = xs := by
    refine List.filter_eq_self.mpr fun y hy => ?_
    rw [Std.OrientedCmp.gt_of_lt (hbefore y hy)]
    rfl
  have hself : cmp x x = .eq := Std.ReflCmp.compare_self
  rw [remove, List.filter_append, hkeep]
  simp [hself]

end

/-! ## Sets of limited size -/

/-- An insertion into a set of at most `n` elements: a full one takes a new element for its last, if
    that is greater. -/
def insertBounded (cmp : α → α → Ordering) (n : Nat) (x : α) (xs : List α) : List α :=
  if n ≤ xs.length then
    match xs.getLast? with
    | none => (insert cmp x xs).1
    | some last => if cmp x last = .lt then (insert cmp x (remove cmp last xs)).1 else xs
  else (insert cmp x xs).1

/-- An element that comes before all that is cut off is inserted as without the cut. -/
theorem insert_take {x : α} (n : Nat) (hlater : ∀ y ∈ xs.drop n, cmp x y = .lt)
    (hnew : ∀ y ∈ xs, cmp x y ≠ .eq) :
    (insert cmp x (xs.take n)).1 = (insert cmp x xs).1.take (n + 1) := by
  induction xs generalizing n with
  | nil => simp [insert]
  | cons y ys ih =>
    cases n with
    | zero =>
      have hlt : cmp x y = .lt := hlater y List.mem_cons_self
      simp [insert, hlt]
    | succ n =>
      rw [List.take_succ_cons]
      cases hxy : cmp x y with
      | lt => simp only [insert, hxy, List.take_succ_cons]
      | eq => exact absurd hxy (hnew y List.mem_cons_self)
      | gt =>
        simp only [insert, hxy, List.take_succ_cons]
        rw [ih n hlater fun z hz => hnew z (List.mem_cons_of_mem y hz)]

/-- An element that comes after the first `n` leaves them as they are. -/
theorem take_insert {x : α} {n : Nat} (hn : n ≤ xs.length)
    (hearlier : ∀ y ∈ xs.take n, cmp x y = .gt) : (insert cmp x xs).1.take n = xs.take n := by
  induction xs generalizing n with
  | nil =>
    obtain rfl := Nat.le_zero.mp hn
    rfl
  | cons y ys ih =>
    cases n with
    | zero => rfl
    | succ n =>
      rw [List.take_succ_cons] at hearlier ⊢
      have hgt : cmp x y = .gt := hearlier y List.mem_cons_self
      simp only [insert, hgt, List.take_succ_cons]
      rw [ih (Nat.le_of_succ_le_succ hn) fun z hz => hearlier z (List.mem_cons_of_mem y hz)]

section

variable [Std.TransCmp cmp]

/-- **The first `n` of a set** with a new element, from the first `n` without it. -/
theorem insertBounded_take {n : Nat} (hn : 0 < n) {x : α} (hxs : Ordered cmp xs)
    (hnew : ∀ y ∈ xs, cmp x y ≠ .eq) :
    insertBounded cmp n x (xs.take n) = (insert cmp x xs).1.take n := by
  by_cases hfull : n ≤ xs.length
  · -- the last of the kept elements, and what is before and after it
    obtain ⟨k, rfl⟩ := Nat.exists_eq_succ_of_ne_zero (Nat.ne_of_gt hn)
    have hk : k < xs.length := hfull
    have hkept : xs.take (k + 1) = xs.take k ++ [xs[k]] := List.take_succ_eq_append_getElem hk
    have hrest : xs.drop k = xs[k] :: xs.drop (k + 1) := List.drop_eq_getElem_cons hk
    have hlast : (xs.take (k + 1)).getLast? = some xs[k] := by
      rw [hkept, List.getLast?_concat]
    have hlength : k + 1 ≤ (xs.take (k + 1)).length := by
      exact Nat.le_of_eq (List.length_take_of_le hfull).symm
    have hordered : Ordered cmp (xs.take (k + 1)) := hxs.sublist (List.take_sublist _ _)
    simp only [insertBounded, if_pos hlength, hlast]
    cases hcmp : cmp x xs[k] with
    | lt =>
      have hafter : Ordered cmp (xs[k] :: xs.drop (k + 1)) :=
        hrest ▸ hxs.sublist (List.drop_sublist _ _)
      have hlater : ∀ y ∈ xs.drop k, cmp x y = .lt := by
        intro y hy
        rw [hrest] at hy
        rcases List.mem_cons.mp hy with rfl | htail
        · exact hcmp
        · exact Std.TransCmp.lt_trans hcmp ((List.pairwise_cons.mp hafter).1 y htail)
      rw [hkept] at hordered
      rw [if_pos rfl, hkept, remove_last hordered, insert_take k hlater hnew]
    | eq => exact absurd hcmp (hnew _ (List.getElem_mem hk))
    | gt =>
      rw [if_neg (by decide), take_insert hfull]
      intro y hy
      rw [hkept] at hordered hy
      rcases List.mem_append.mp hy with hbefore | hsame
      · have hlt := (List.pairwise_append.mp hordered).2.2 y hbefore _ (List.mem_singleton_self _)
        exact Std.OrientedCmp.gt_of_lt (Std.TransCmp.lt_trans hlt (Std.OrientedCmp.lt_of_gt hcmp))
      · rw [List.mem_singleton.mp hsame]
        exact hcmp
  · -- there is room, and nothing is cut off before or after
    have hroom : xs.take n = xs := List.take_of_length_le (by omega)
    have hlength : (insert cmp x xs).1.length ≤ n := by
      rw [(insert_perm hnew).length_eq, List.length_cons]
      omega
    rw [hroom, insertBounded, if_neg hfull, List.take_of_length_le hlength]

/-- **The order of the insertions does not matter.**  Into an empty set of at most `n` elements, they
    leave the first `n` of all. -/
theorem foldl_insertBounded {n : Nat} (hn : 0 < n) {order all : List α} (hall : Ordered cmp all)
    (hperm : order.Perm all) :
    order.foldl (fun xs x => insertBounded cmp n x xs) [] = all.take n := by
  -- from any set of elements that are apart from those to come
  have hrun : ∀ (order xs : List α), Ordered cmp xs →
      (xs ++ order).Pairwise (fun x y => cmp x y ≠ .eq) → ∃ ys, Ordered cmp ys ∧
        ys.Perm (xs ++ order) ∧
          order.foldl (fun xs x => insertBounded cmp n x xs) (xs.take n) = ys.take n := by
    intro order
    induction order with
    | nil =>
      intro xs hxs _
      exact ⟨xs, hxs, by rw [List.append_nil], rfl⟩
    | cons x rest ih =>
      intro xs hxs hapart
      have hmiddle : (xs ++ x :: rest).Perm (x :: xs ++ rest) := List.perm_middle
      have hcons := (hmiddle.pairwise_iff apart_comm).mp hapart
      have hnew : ∀ y ∈ xs, cmp x y ≠ .eq := fun y hy =>
        (List.pairwise_cons.mp hcons).1 y (List.mem_append_left rest hy)
      have hinserted : ((insert cmp x xs).1 ++ rest).Perm (xs ++ x :: rest) :=
        ((insert_perm hnew).append_right rest).trans hmiddle.symm
      obtain ⟨ys, hys, hysperm, hfold⟩ := ih (insert cmp x xs).1 (insert_ordered x hxs)
        ((hinserted.pairwise_iff apart_comm).mpr hapart)
      refine ⟨ys, hys, hysperm.trans hinserted, ?_⟩
      rw [List.foldl_cons, insertBounded_take hn hxs hnew]
      exact hfold
  have hapart : order.Pairwise fun x y => cmp x y ≠ .eq :=
    (hperm.pairwise_iff apart_comm).mpr hall.apart
  obtain ⟨ys, hys, hysperm, hfold⟩ := hrun order [] List.Pairwise.nil hapart
  rw [List.take_nil] at hfold
  rw [hfold, hys.eq_of_perm hall (hysperm.trans hperm)]

end

end Lib.OrderedSet
