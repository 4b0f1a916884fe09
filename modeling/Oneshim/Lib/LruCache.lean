/-
  Caches that forget the key used longest ago.

  What is known of such a cache is what it has after a key is used: the entry of that key, made
  where it was missing and changed in place, and of the others those that are not forgotten.
-/

namespace Lib

/-- A cache, with what is known of its operations. -/
structure LruCache (κ ν : Type) where
  Cache : Type
  empty : Cache
  /-- From the entry used last to the one used longest ago. -/
  entries : Cache → List (κ × ν)
  /-- A look at a key, which is no use of it. -/
  peek : Cache → κ → Option ν
  /-- The value of a key, made where it is missing, with a change in place. -/
  getOrInsertMut : Cache → κ → ν → (ν → ν) → Cache
  entries_empty : entries empty = []
  mem_of_peek : ∀ cache key value, peek cache key = some value → (key, value) ∈ entries cache
  mem_getOrInsertMut : ∀ cache key init change,
    ∀ entry ∈ entries (getOrInsertMut cache key init change),
      entry = (key, change ((peek cache key).getD init)) ∨ entry ∈ entries cache ∧ entry.1 ≠ key

/-- The list of the entries, with place for `capacity`. -/
def LruCache.listed (κ ν : Type) [DecidableEq κ] (capacity : Nat) : LruCache κ ν where
  Cache := List (κ × ν)
  empty := []
  entries cache := cache
  peek cache key := (cache.find? fun entry => entry.1 = key).map Prod.snd
  getOrInsertMut cache key init change :=
    (key, change (((cache.find? fun entry => entry.1 = key).map Prod.snd).getD init)) ::
      (cache.filter fun entry => entry.1 ≠ key).take (capacity - 1)
  entries_empty := rfl
  mem_of_peek cache key value h := by
    obtain ⟨entry, hfind, rfl⟩ := Option.map_eq_some_iff.mp h
    have hkey : entry.1 = key := by simpa using List.find?_some hfind
    rw [← hkey]
    exact List.mem_of_find?_eq_some hfind
  mem_getOrInsertMut cache key init change entry h := by
    rcases List.mem_cons.mp h with hnew | hold
    · exact .inl hnew
    · have hmem := List.mem_filter.mp (List.mem_of_mem_take hold)
      exact .inr ⟨hmem.1, of_decide_eq_true hmem.2⟩

end Lib
