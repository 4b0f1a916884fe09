/-
  A value kept in memory and in a file that is replaced as a whole.

  A small store keeps its state in memory and, on every change, writes it to a temporary file that
  is then renamed over the real one.  A write that fails leaves the file as it was, and the change
  stays in memory; the next write that succeeds persists both.  A restart reads the file.

  * `commit`  — take the new value and try to write it;
  * `restart` — forget memory, start from the file or from a fresh value.

  `Both P` says that memory and file satisfy `P`; it holds after a commit when the new value
  satisfies `P`, whether or not the write succeeds (`Both.commit`), and after a restart when the
  fresh value does (`Both.restart`).  `Persisted P` says besides that there is a file; a commit that
  succeeds establishes it (`persisted_of_ok`), and from then on it needs no fresh value.
-/

namespace Lib

/-- A value in memory, and its file if there is one. -/
structure Durable (α : Type) where
  memory : α
  file : Option α

namespace Durable

variable {α β ε : Type}

/-- Change memory to `memory` and write the file; `disk` is how the write ends. -/
def commit (disk : Except ε Unit) (memory : α) (value : β) (self : Durable α) :
    Except ε β × Durable α :=
  match disk with
  | .ok () => (.ok value, ⟨memory, some memory⟩)
  | .error e => (.error e, ⟨memory, self.file⟩)

/-- A new process: the file is read, or there is none. -/
def restart (fresh : α) (self : Durable α) : Durable α := ⟨self.file.getD fresh, self.file⟩

/-- Memory and file. -/
structure Both (P : α → Prop) (d : Durable α) : Prop where
  memory : P d.memory
  file : ∀ a, d.file = some a → P a

variable {P : α → Prop} {self : Durable α} {disk : Except ε Unit} {memory : α} {value : β}

@[simp] theorem memory_commit : (self.commit disk memory value).2.memory = memory := by
  cases disk <;> rfl

theorem file_commit :
    (self.commit disk memory value).2.file = some memory ∨
      (self.commit disk memory value).2.file = self.file := by
  cases disk with
  | ok _ => exact .inl rfl
  | error _ => exact .inr rfl

/-- A commit that succeeds has written what it was given. -/
theorem commit_eq_ok {value' : β} (h : (self.commit disk memory value).1 = .ok value') :
    value' = value ∧ (self.commit disk memory value).2 = ⟨memory, some memory⟩ := by
  cases disk with
  | ok _ =>
    cases h
    exact ⟨rfl, rfl⟩
  | error _ => nomatch h

theorem Both.commit (h : Both P self) (hmemory : P memory) :
    Both P (self.commit disk memory value).2 := by
  refine ⟨by rw [memory_commit]; exact hmemory, fun a ha => ?_⟩
  rcases @file_commit _ _ _ self disk memory value with hnew | hold
  · cases hnew.symm.trans ha
    exact hmemory
  · exact h.file a (hold.symm.trans ha)

theorem Both.restart {fresh : α} (h : Both P self) (hfresh : P fresh) :
    Both P (self.restart fresh) := by
  refine ⟨?_, h.file⟩
  show P (self.file.getD fresh)
  cases hfile : self.file with
  | none => exact hfresh
  | some a => exact h.file a hfile

/-- Memory and file, and there is a file. -/
structure Persisted (P : α → Prop) (d : Durable α) : Prop where
  memory : P d.memory
  file : ∃ a, d.file = some a ∧ P a

/-- What was written is there. -/
theorem persisted_of_ok {value' : β} (h : (self.commit disk memory value).1 = .ok value')
    (hmemory : P memory) : Persisted P (self.commit disk memory value).2 := by
  rw [(commit_eq_ok h).2]
  exact ⟨hmemory, memory, rfl, hmemory⟩

theorem Persisted.commit (h : Persisted P self) (hmemory : P memory) :
    Persisted P (self.commit disk memory value).2 := by
  refine ⟨by rw [memory_commit]; exact hmemory, ?_⟩
  rcases @file_commit _ _ _ self disk memory value with hnew | hold
  · exact ⟨memory, hnew, hmemory⟩
  · rw [hold]
    exact h.file

theorem Persisted.restart (h : Persisted P self) (fresh : α) : Persisted P (self.restart fresh) := by
  obtain ⟨a, hfile, ha⟩ := h.file
  refine ⟨?_, a, hfile, ha⟩
  show P (self.file.getD fresh)
  rw [hfile]
  exact ha

end Durable

end Lib
