/-
  Orders that nothing fixes.

  A hash map gives its keys in some order, which another map with the same keys does not share.

  * `Arrangement` — a way of putting every list into some order;
  * `Arrangement.giving` — the one that gives a certain order of a certain list;
  * `filter_map_same_iff` — when what is made of the chosen entries is the same in every order;
  * `flatMap_eq_iff` — lists of the same lengths, put together.
-/
import Mathlib.Data.List.Perm.Basic

namespace Lib

variable {α β : Type}

/-- A way of putting every list into some order. -/
structure Arrangement (α : Type) where
  arrange : List α → List α
  perm : ∀ l, (arrange l).Perm l

namespace Arrangement

/-- Every list as it is. -/
def asIs : Arrangement α := ⟨id, .refl⟩

/-- Every list backwards. -/
def backwards : Arrangement α := ⟨List.reverse, List.reverse_perm⟩

section

variable [DecidableEq α]

/-- A certain list in a certain order, every other list as it is. -/
def giving (l l' : List α) (h : l'.Perm l) : Arrangement α where
  arrange k := if k = l then l' else k
  perm k := by
    split
    · next heq => exact heq ▸ h
    · exact .refl k

@[simp] theorem giving_arrange {l l' : List α} (h : l'.Perm l) : (giving l l' h).arrange l = l' :=
  if_pos rfl

/-- **The same in every order**: of all that is arranged. -/
theorem same_iff (f : List α → β) (l : List α) :
    (∀ a b : Arrangement α, f (a.arrange l) = f (b.arrange l)) ↔
      ∀ l₁ l₂, l₁.Perm l → l₂.Perm l → f l₁ = f l₂ := by
  constructor
  · intro h l₁ l₂ h₁ h₂
    have hsame := h (giving l l₁ h₁) (giving l l₂ h₂)
    rwa [giving_arrange, giving_arrange] at hsame
  · exact fun h a b => h _ _ (a.perm l) (b.perm l)

/-- **The same in every order**: of what is made of the chosen entries, if and only if the same is
    made of all of them. -/
theorem filter_map_same_iff (p : α → Bool) (f : α → β) (l : List α) :
    (∀ a b : Arrangement α, ((a.arrange l).filter p).map f = ((b.arrange l).filter p).map f) ↔
      ∀ x ∈ l, ∀ y ∈ l, p x = true → p y = true → f x = f y := by
  rw [same_iff fun k => (k.filter p).map f]
  constructor
  · intro h x hx y hy hpx hpy
    have hsame := h (x :: l.erase x) (y :: l.erase y) (List.perm_cons_erase hx).symm
      (List.perm_cons_erase hy).symm
    rw [List.filter_cons_of_pos hpx, List.filter_cons_of_pos hpy] at hsame
    exact (List.cons.inj hsame).1
  · intro h l₁ l₂ h₁ h₂
    have hchosen := ((h₁.trans h₂.symm).filter p).map f
    cases hfirst : (l₁.filter p).map f with
    | nil =>
      rw [hfirst] at hchosen
      exact hchosen.nil_eq
    | cons value rest =>
      -- all of them are the first one
      have hall (k : List α) (hk : k.Perm l) : ∀ v ∈ (k.filter p).map f, v = value := by
        obtain ⟨x, hx, rfl⟩ := List.mem_map.mp (hfirst ▸ List.mem_cons_self : value ∈ _)
        rintro v hv
        obtain ⟨y, hy, rfl⟩ := List.mem_map.mp hv
        obtain ⟨hxl, hpx⟩ := List.mem_filter.mp hx
        obtain ⟨hyl, hpy⟩ := List.mem_filter.mp hy
        exact h y (hk.mem_iff.mp hyl) x (h₁.mem_iff.mp hxl) hpy hpx
      rw [← hfirst, List.eq_replicate_of_mem (hall l₁ h₁), List.eq_replicate_of_mem (hall l₂ h₂),
        hchosen.length_eq]

end

end Arrangement

/-- Lists of the same lengths put together. -/
theorem flatMap_eq_iff {f g : α → List β} (hlength : ∀ x, (f x).length = (g x).length)
    (l : List α) : l.flatMap f = l.flatMap g ↔ ∀ x ∈ l, f x = g x := by
  induction l with
  | nil => simp
  | cons x rest ih =>
    rw [List.flatMap_cons, List.flatMap_cons, List.forall_mem_cons, ← ih]
    constructor
    · exact fun h => List.append_inj h (hlength x)
    · rintro ⟨hx, hrest⟩
      rw [hx, hrest]

end Lib
