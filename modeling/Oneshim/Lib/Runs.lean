/-
  Maximal runs of a list.

  `List.splitBy` cuts a list wherever two neighbours do not belong together.

  * `splitBy_refine` — cutting where fewer neighbours belong together cuts the runs again;
  * `splitBy_cons_run` — a run that the next entry does not belong to is the first one;
  * `infix_of_mem_splitBy` — a run is a stretch of the list.

  Stretches of a list that are looked for one after the other come in order and do not meet.

  * `InOrder` — the stretches, and what of the list they leave out.

  A mark on some entries says of which entries nothing marked comes in between.

  * `Between` — every two entries with nothing marked between them are related,
    `between_concat_iff` — one entry more, `Between.stretch` — a stretch of the list.

  Neighbours fix the order of a list without repetitions (`eq_of_neighbours`).
-/
import Mathlib.Data.List.Induction
import Mathlib.Data.List.Nodup
import Mathlib.Data.List.SplitBy

namespace Lib.Runs

variable {α : Type} {r s : α → α → Bool}

/-- A run and what does not belong to it. -/
theorem splitBy_cons_run {run : List α} {entry : α} {rest : List α} (hne : run ≠ [])
    (hrun : run.IsChain fun x y => r x y) (hcut : ∀ x ∈ run.getLast?, r x entry = false) :
    (run ++ entry :: rest).splitBy r = run :: (entry :: rest).splitBy r := by
  rw [List.splitBy_append_cons _ hcut, List.splitBy_of_isChain hne hrun]
  rfl

variable {stretches : List (List α)}

/-- Stretches that are cut apart. -/
theorem splitBy_flatten_of_cut (hne : [] ∉ stretches)
    (hcut : stretches.IsChain fun a b => ∃ ha hb, r (a.getLast ha) (b.head hb) = false) :
    stretches.flatten.splitBy r = stretches.flatMap (·.splitBy r) := by
  induction stretches with
  | nil => rfl
  | cons first rest ih =>
    rw [List.mem_cons, not_or] at hne
    rw [List.flatten_cons, List.flatMap_cons, ← ih hne.2 hcut.tail]
    refine List.splitBy_append fun x hx y hy => ?_
    cases rest with
    | nil => cases hy
    | cons second rest =>
      obtain ⟨hfirst, hsecond, hfalse⟩ := (List.isChain_cons_cons.mp hcut).1
      have hx : x = first.getLast hfirst := (List.mem_getLast?_eq_getLast hx).2
      have hhead : (second :: rest).flatten.head? = some (second.head hsecond) := by
        rw [List.flatten_cons, List.head?_append_of_ne_nil _ hsecond,
          List.head?_eq_some_head hsecond]
      rw [hhead] at hy
      rw [hx, ← Option.some.inj hy]
      exact hfalse

/-- **Runs of runs**: fewer neighbours that belong together cut the runs again. -/
theorem splitBy_refine (hfiner : ∀ x y, s x y = true → r x y = true) (l : List α) :
    l.splitBy s = (l.splitBy r).flatMap (·.splitBy s) := by
  rw [← splitBy_flatten_of_cut (List.nil_notMem_splitBy r l), List.flatten_splitBy]
  refine (List.isChain_getLast_head_splitBy r l).imp fun a b hab => ?_
  obtain ⟨ha, hb, hfalse⟩ := hab
  exact ⟨ha, hb, Bool.eq_false_iff.mpr fun htrue =>
    Bool.eq_false_iff.mp hfalse (hfiner _ _ htrue)⟩

/-- A run is a stretch of the list. -/
theorem infix_of_mem_splitBy {l run : List α} (h : run ∈ l.splitBy r) : run <:+: l := by
  have hstretch := List.infix_of_mem_flatten h
  rwa [List.flatten_splitBy] at hstretch

/-! ## Stretches in order -/

/-- Stretches of a list, one after the other. -/
def InOrder : List (List α) → List α → Prop
  | [], _ => True
  | stretch :: stretches, l =>
    ∃ front back, l = front ++ stretch ++ back ∧ InOrder stretches back

theorem InOrder.append_left {l : List α} (h : InOrder stretches l) (front : List α) :
    InOrder stretches (front ++ l) := by
  cases stretches with
  | nil => trivial
  | cons stretch stretches =>
    obtain ⟨before, back, rfl, hrest⟩ := h
    exact ⟨front ++ before, back, by simp, hrest⟩

theorem InOrder.cons {l : List α} (h : InOrder stretches l) (stretch : List α) :
    InOrder (stretch :: stretches) (stretch ++ l) :=
  ⟨[], l, rfl, h⟩

/-- Each of them is a stretch of the list. -/
theorem InOrder.stretch {l : List α} (h : InOrder stretches l) :
    ∀ stretch ∈ stretches, stretch <:+: l := by
  induction stretches generalizing l with
  | nil => exact fun _ hmem => absurd hmem List.not_mem_nil
  | cons first rest ih =>
    obtain ⟨front, back, rfl, hrest⟩ := h
    intro stretch hmem
    rcases List.mem_cons.mp hmem with rfl | hmem
    · exact ⟨front, back, rfl⟩
    · exact (ih hrest stretch hmem).trans (List.suffix_append _ _).isInfix

/-! ## Entries with nothing marked between them -/

/-- Every two entries with nothing marked between them are related. -/
def Between (marked : α → Bool) (R : α → α → Prop) (l : List α) : Prop :=
  ∀ front x between y back, l = front ++ x :: (between ++ y :: back) →
    (∀ z ∈ between, marked z = false) → R x y

variable {marked : α → Bool} {R : α → α → Prop}

theorem Between.stretch {l part : List α} (h : Between marked R l) (hpart : part <:+: l) :
    Between marked R part := by
  obtain ⟨before, after, rfl⟩ := hpart
  rintro front x between y back rfl
  exact h (before ++ front) x between y (back ++ after) (by simp)

theorem between_singleton (x : α) : Between marked R [x] := by
  intro front a between b back h
  have hlength := congrArg List.length h
  simp only [List.length_append, List.length_cons, List.length_nil] at hlength
  omega

/-- One entry more. -/
theorem between_concat_iff {l : List α} {y : α} : Between marked R (l ++ [y]) ↔
    Between marked R l ∧ ∀ front x between, l = front ++ x :: between →
      (∀ z ∈ between, marked z = false) → R x y := by
  constructor
  · intro h
    refine ⟨h.stretch (List.prefix_append _ _).isInfix, fun front x between hl hbetween => ?_⟩
    exact h front x between y [] (by simp [hl]) hbetween
  · rintro ⟨hl, hlast⟩ front x between z back heq hbetween
    rcases List.eq_nil_or_concat back with rfl | ⟨back, w, rfl⟩
    · -- the second one is the new entry
      have heq : l ++ [y] = (front ++ x :: between) ++ [z] := by simpa using heq
      obtain ⟨hfront, hyz⟩ := List.append_inj' heq rfl
      rw [← List.singleton_inj.mp hyz]
      exact hlast front x between hfront hbetween
    · rw [List.concat_eq_append] at heq
      have heq : l ++ [y] = (front ++ x :: (between ++ z :: back)) ++ [w] := by simpa using heq
      exact hl front x between z back (List.append_inj' heq rfl).1 hbetween

/-- The last marked entry of a list. -/
theorem last_marked_unique {front front' between between' : List α} {x y : α}
    (h : front ++ x :: between = front' ++ y :: between') (hx : marked x = true)
    (hy : marked y = true) (hbetween : ∀ z ∈ between, marked z = false)
    (hbetween' : ∀ z ∈ between', marked z = false) : x = y := by
  rcases List.append_eq_append_iff.mp h with ⟨middle, hfront, hrest⟩ | ⟨middle, hfront, hrest⟩
  · cases middle with
    | nil => exact (List.cons.inj hrest).1
    | cons z middle =>
      have hmem : y ∈ between := by
        rw [(List.cons.inj hrest).2]
        exact List.mem_append_right _ List.mem_cons_self
      rw [hbetween y hmem] at hy
      cases hy
  · cases middle with
    | nil => exact (List.cons.inj hrest).1.symm
    | cons z middle =>
      have hmem : x ∈ between' := by
        rw [(List.cons.inj hrest).2]
        exact List.mem_append_right _ List.mem_cons_self
      rw [hbetween' x hmem] at hx
      cases hx

/-! ## Neighbours -/

/-- **The same neighbours**: a list whose neighbours are neighbours in another one with the same
    entries, in the same order, is that list. -/
theorem eq_of_neighbours {l l' : List α} (hperm : l.Perm l') (hnodup : l'.Nodup)
    (h : ∀ a b, [a, b] <:+: l → [a, b] <:+: l') : l = l' := by
  have hstretch (front : List α) (hfront : front <+: l) : front <:+: l' := by
    induction front using List.reverseRecOn with
    | nil => exact List.nil_infix
    | append_singleton front x ih =>
      have hbefore := ih ((List.prefix_append front [x]).trans hfront)
      rcases List.eq_nil_or_concat front with rfl | ⟨first, y, rfl⟩
      · have hmem : x ∈ l' := hperm.mem_iff.mp (hfront.subset (List.mem_append_right _ (by simp)))
        obtain ⟨before, after, rfl⟩ := List.append_of_mem hmem
        exact ⟨before, after, by simp⟩
      · -- what comes after the last entry of the front is the next one
        rw [List.concat_eq_append] at hfront hbefore ⊢
        have hpair : [y, x] <:+: l' :=
          h y x (List.IsInfix.trans ⟨first, [], by simp⟩ hfront.isInfix)
        obtain ⟨before, after, hl'⟩ := hbefore
        obtain ⟨before', after', hpair'⟩ := hpair
        have hunique : before ++ first ++ y :: after = before' ++ y :: (x :: after') := by
          have heq : before ++ (first ++ [y]) ++ after = before' ++ [y, x] ++ after' := by
            rw [hl', hpair']
          simpa using heq
        have hparts : (before ++ first ++ y :: after).Nodup := by
          rw [← hl'] at hnodup
          simpa using hnodup
        obtain ⟨hy, -⟩ := List.nodup_cons.mp (List.nodup_middle.mp hparts)
        rw [List.mem_append, not_or] at hy
        obtain ⟨-, -, hafter⟩ := (List.append_cons_inj_of_notMem hy.1 hy.2).mp hunique
        exact ⟨before, after', by rw [← hl', hafter]; simp⟩
  exact (hstretch l List.prefix_rfl).eq_of_length hperm.length_eq

end Lib.Runs
