/-
  When fingerprinting panics (`oneshim-suggestion/src/queue.rs`).

  `content_fingerprint` normalises the content and slices it at byte 200.  A slice that ends inside a
  character is a panic.  A push takes the fingerprint of its suggestion first, so a suggestion without
  one is never queued, and the operations that take suggestions out find a fingerprint for each
  (`op_completes_iff`).  The calls of a run return exactly when every pushed content is cut between two
  characters (`fingerprinting_total_iff`).
-/
import Oneshim.Lib.FailingLoop
import Oneshim.Lib.Utf8
import Oneshim.Suggestions.QueueInvariant

namespace Oneshim.Suggestions.SuggestionQueue

open Lib

variable {toLowercase : String → String} {hash : SuggestionType → List Char → UInt64}

/-- The content in lower case, its words with single spaces. -/
def normalized (toLowercase : String → String) (content : String) : List Char :=
  List.intercalate [' '] (Text.splitWhitespace (toLowercase content).toList)

/-- The normalised content has 200 bytes or fewer, or a character ends at byte 200. -/
def CutsCleanly (toLowercase : String → String) (content : String) : Prop :=
  Text.utf8Len (normalized toLowercase content) ≤ 200 ∨
    Utf8.IsPlace 200 (normalized toLowercase content)

/-- A text is cut at its end without harm. -/
theorem isPlace_utf8Len (s : List Char) : Utf8.IsPlace (Text.utf8Len s) s :=
  ⟨s, [], (List.append_nil s).symm, rfl⟩

/-- **There is a fingerprint** exactly when the cut is between two characters. -/
theorem contentFingerprint_isSome_iff (suggestion : Suggestion) :
    (contentFingerprint toLowercase hash suggestion).isSome = true ↔
      CutsCleanly toLowercase suggestion.content := by
  have hslice : (contentFingerprint toLowercase hash suggestion).isSome = true ↔
      Utf8.IsPlace (min (Text.utf8Len (normalized toLowercase suggestion.content)) 200)
        (normalized toLowercase suggestion.content) := by
    rw [← Utf8.sliceTo_isSome_iff, contentFingerprint, Option.isSome_map]
    rfl
  rw [hslice, CutsCleanly]
  by_cases hshort : Text.utf8Len (normalized toLowercase suggestion.content) ≤ 200
  · rw [Nat.min_eq_left hshort]
    exact iff_of_true (isPlace_utf8Len _) (.inl hshort)
  · rw [Nat.min_eq_right (by omega)]
    exact ⟨.inr, fun h => h.resolve_left hshort⟩

/-- The call returns. -/
def Completes (toLowercase : String → String) (hash : SuggestionType → List Char → UInt64)
    (queue : SuggestionQueue) : Op → Prop
  | .push suggestion => (queue.push toLowercase hash suggestion).2.isSome = true
  | .pop => (queue.pop toLowercase hash).2.isSome = true
  | .removeById suggestionId => (queue.removeById toLowercase hash suggestionId).2.isSome = true
  | .removeExpired now => (queue.removeExpired toLowercase hash now).2.isSome = true

section

variable {self : SuggestionQueue}

/-- A push completes exactly when the cut of its content falls between two characters. -/
theorem push_completes_iff (hhashed : Hashed toLowercase hash self) (suggestion : Suggestion) :
    (self.push toLowercase hash suggestion).2.isSome = true ↔
      CutsCleanly toLowercase suggestion.content := by
  rw [← @contentFingerprint_isSome_iff toLowercase hash]
  cases hfp : contentFingerprint toLowercase hash suggestion with
  | none => simp only [push, hfp, Option.isSome_none]
  | some fp =>
    rw [Option.isSome_some]
    refine iff_of_true ?_ rfl
    simp only [push, hfp]
    split
    · rfl
    · split
      · cases hlast : self.items.getLast? with
        | none => rfl
        | some last =>
          -- the last one was pushed before, and has a fingerprint
          obtain ⟨evicted, hevicted⟩ := hhashed last (List.mem_of_getLast? hlast)
          dsimp only
          split
          · rw [hevicted]
            rfl
          · rfl
      · rfl

theorem pop_completes (hhashed : Hashed toLowercase hash self) :
    (self.pop toLowercase hash).2.isSome = true := by
  unfold pop
  cases hitems : self.items with
  | nil => rfl
  | cons first rest =>
    obtain ⟨fp, hfp⟩ := hhashed first (hitems ▸ List.mem_cons_self)
    simp only [hfp, Option.isSome_some]

theorem removeById_completes (hhashed : Hashed toLowercase hash self) (suggestionId : String) :
    (self.removeById toLowercase hash suggestionId).2.isSome = true := by
  unfold removeById
  cases hfind : self.items.find? fun s => s.suggestionId == suggestionId with
  | none => rfl
  | some found =>
    obtain ⟨fp, hfp⟩ := hhashed found (List.mem_of_find?_eq_some hfind)
    simp only [hfp, Option.isSome_some]

theorem removeExpired_completes (hhashed : Hashed toLowercase hash self) (now : Nat) :
    (self.removeExpired toLowercase hash now).2.isSome = true := by
  have hall : ∀ s ∈ self.items.filter (expired now),
      ∃ fp, contentFingerprint toLowercase hash s = some fp :=
    fun s hs => hhashed s (List.mem_filter.mp hs).1
  obtain ⟨fps, hfps, -⟩ := mapM_of_total hall
  simp only [removeExpired, hfps, Option.isSome_some]

/-- **One call**: only a push can panic. -/
theorem op_completes_iff (hhashed : Hashed toLowercase hash self) (op : Op) :
    Completes toLowercase hash self op ↔
      ∀ suggestion, op = .push suggestion → CutsCleanly toLowercase suggestion.content := by
  cases op with
  | push suggestion =>
    rw [Completes, push_completes_iff hhashed]
    simp
  | pop => simpa [Completes] using pop_completes hhashed
  | removeById suggestionId =>
    simpa [Completes] using removeById_completes hhashed suggestionId
  | removeExpired now => simpa [Completes] using removeExpired_completes hhashed now

/-- **A run**: the pushed contents decide. -/
theorem along_completes_iff (hhashed : Hashed toLowercase hash self) (ops : List Op) :
    Along (step toLowercase hash) (Completes toLowercase hash) self ops ↔
      ∀ suggestion, .push suggestion ∈ ops → CutsCleanly toLowercase suggestion.content := by
  induction ops generalizing self with
  | nil => simp [Along]
  | cons op ops ih =>
    rw [Along, op_completes_iff hhashed, ih (step_hashed hhashed op)]
    simp only [List.mem_cons, eq_comm (a := op)]
    constructor
    · rintro ⟨hop, hops⟩ suggestion (rfl | hmem)
      · exact hop suggestion rfl
      · exact hops suggestion hmem
    · intro h
      exact ⟨fun suggestion heq => h suggestion (.inl heq),
        fun suggestion hmem => h suggestion (.inr hmem)⟩

end

/-- **When fingerprinting is total.**  A content has a fingerprint, and every call of every run of a
    queue returns, exactly when the contents are cut between two characters. -/
theorem fingerprinting_total_iff (toLowercase : String → String)
    (hash : SuggestionType → List Char → UInt64) :
    (∀ suggestion, (contentFingerprint toLowercase hash suggestion).isSome = true ↔
      CutsCleanly toLowercase suggestion.content) ∧
    ∀ maxSize ops, Along (step toLowercase hash) (Completes toLowercase hash) (new maxSize) ops ↔
      ∀ suggestion, .push suggestion ∈ ops → CutsCleanly toLowercase suggestion.content :=
  ⟨contentFingerprint_isSome_iff,
    fun _ ops => along_completes_iff (fun _ hs => absurd hs List.not_mem_nil) ops⟩

/-- Sixty-seven syllables of three bytes each. -/
def hangulTip : Suggestion := { exampleTip with content := String.ofList (List.replicate 67 '가') }

/-- **A push that panics.**  The last syllable begins at byte 198 and ends at byte 201. -/
theorem push_panics :
    contentFingerprint (fun text => text) exampleHash hangulTip = none ∧
      ¬ Completes (fun text => text) exampleHash (new 50) (.push hangulTip) := by
  have hnone : contentFingerprint (fun text => text) exampleHash hangulTip = none := by
    decide +kernel
  refine ⟨hnone, ?_⟩
  simp [Completes, push, hnone]

end Oneshim.Suggestions.SuggestionQueue
