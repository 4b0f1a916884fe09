/-
  Sessions on a database: statements one after the other, some of them in a transaction.

  A session runs on a connection and ends with a value or with an error; either way it leaves the
  connection in some state.  A statement outside a transaction lasts as soon as it has run, those of
  a transaction when it is committed.

  * `execute`     — one statement; one that fails changes nothing;
  * `begins`, `commits` — `BEGIN` and `COMMIT` by hand;
  * `transaction` — a guarded transaction: dropped without a commit, it is rolled back.

  A sequence that fails has its first parts done (`bind_eq_error`, `forM_eq_error`), and a guarded
  transaction that fails has changed nothing (`transaction_eq_error`).
-/

namespace Lib

/-- What the statements see, and what the open transaction would go back to. -/
structure Connection (σ : Type) where
  current : σ
  begun : Option σ

variable {σ ε α β : Type}

namespace Connection

/-- After `BEGIN`. -/
def opened (self : Connection σ) : Connection σ := ⟨self.current, some self.current⟩

/-- After `COMMIT`. -/
def committed (self : Connection σ) : Connection σ := ⟨self.current, none⟩

/-- After `ROLLBACK`. -/
def rolledBack (self : Connection σ) : Connection σ := ⟨self.begun.getD self.current, none⟩

end Connection

/-- A program that runs on a connection. -/
def Session (σ ε α : Type) : Type := Connection σ → Except ε α × Connection σ

instance : Monad (Session σ ε) where
  pure a := fun conn => (.ok a, conn)
  bind x f := fun conn =>
    match x conn with
    | (.ok a, conn) => f a conn
    | (.error e, conn) => (.error e, conn)

namespace Session

/-- How something ends that leaves the connection alone. -/
def check (result : Except ε α) : Session σ ε α := fun conn => (result, conn)

/-- A query. -/
def query (run : σ → α) : Session σ ε α := fun conn => (.ok (run conn.current), conn)

/-- A statement. -/
def execute (run : σ → Except ε σ) : Session σ ε Unit := fun conn =>
  match run conn.current with
  | .ok s => (.ok (), { conn with current := s })
  | .error e => (.error e, conn)

/-- `BEGIN`, where a transaction within a transaction is an error. -/
def begins (nested : ε) : Session σ ε Unit := fun conn =>
  match conn.begun with
  | none => (.ok (), conn.opened)
  | some _ => (.error nested, conn)

/-- `COMMIT`. -/
def commits : Session σ ε Unit := fun conn => (.ok (), conn.committed)

/-- A guard: a failure rolls back. -/
def guarded (x : Session σ ε α) : Session σ ε α := fun conn =>
  match x conn with
  | (.ok a, conn) => (.ok a, conn)
  | (.error e, conn) => (.error e, conn.rolledBack)

/-- A guarded transaction: `BEGIN`, the body and `COMMIT`. -/
def transaction (nested : ε) (body : Session σ ε Unit) : Session σ ε Unit := do
  begins nested
  guarded do
    body
    commits

/-! ## Sequences -/

variable {x : Session σ ε α} {f : α → Session σ ε β} {conn conn' : Connection σ} {e : ε}

theorem bind_eq_ok {b : β} (h : (x >>= f) conn = (.ok b, conn')) :
    ∃ a mid, x conn = (.ok a, mid) ∧ f a mid = (.ok b, conn') := by
  simp only [bind] at h
  cases hx : x conn with
  | mk result mid =>
    rw [hx] at h
    cases result with
    | ok a => exact ⟨a, mid, rfl, h⟩
    | error e => cases h

theorem bind_of_ok {a : α} {mid : Connection σ} (hx : x conn = (.ok a, mid)) :
    (x >>= f) conn = f a mid := by
  simp only [bind, hx]

/-- Where a sequence failed. -/
theorem bind_eq_error (h : (x >>= f) conn = (.error e, conn')) :
    x conn = (.error e, conn') ∨
      ∃ a mid, x conn = (.ok a, mid) ∧ f a mid = (.error e, conn') := by
  simp only [bind] at h
  cases hx : x conn with
  | mk result mid =>
    rw [hx] at h
    cases result with
    | ok a => exact .inr ⟨a, mid, rfl, h⟩
    | error e' =>
      cases h
      exact .inl rfl

section

variable {xs : List α} {g : α → Session σ ε PUnit}

/-- **A loop that fails** has its first turns done. -/
theorem forM_eq_error (h : xs.forM g conn = (.error e, conn')) :
    ∃ done y rest mid, xs = done ++ y :: rest ∧ done.forM g conn = (.ok ⟨⟩, mid) ∧
      g y mid = (.error e, conn') := by
  induction xs generalizing conn with
  | nil => cases h
  | cons y rest ih =>
    rcases bind_eq_error h with hfirst | ⟨_, mid, hfirst, hrest⟩
    · exact ⟨[], y, rest, conn, rfl, rfl, hfirst⟩
    · obtain ⟨done, z, later, next, rfl, hdone, hz⟩ := ih hrest
      refine ⟨y :: done, z, later, next, rfl, ?_, hz⟩
      exact (bind_of_ok hfirst).trans hdone

/-- What each turn keeps, of what is done and the connection. -/
theorem forM_of_kept {P : List α → Connection σ → Prop}
    (hturn : ∀ done y conn conn', P done conn → g y conn = (.ok ⟨⟩, conn') → P (done ++ [y]) conn')
    (done : List α) (hstart : P done conn) (h : xs.forM g conn = (.ok ⟨⟩, conn')) :
    P (done ++ xs) conn' := by
  induction xs generalizing done conn with
  | nil =>
    cases h
    rwa [List.append_nil]
  | cons y rest ih =>
    obtain ⟨_, mid, hfirst, hrest⟩ := bind_eq_ok h
    have hend := ih (done ++ [y]) (hturn done y conn mid hstart hfirst) hrest
    rwa [List.append_assoc] at hend

end

/-! ## Statements -/

theorem execute_eq_ok {run : σ → Except ε σ} (h : execute run conn = (.ok (), conn')) :
    ∃ s, run conn.current = .ok s ∧ conn' = { conn with current := s } := by
  simp only [execute] at h
  cases hrun : run conn.current with
  | ok s =>
    rw [hrun] at h
    cases h
    exact ⟨s, rfl, rfl⟩
  | error e =>
    rw [hrun] at h
    cases h

/-! ## Transactions -/

/-- A session that begins and ends no transaction. -/
def Inside (x : Session σ ε α) : Prop := ∀ conn, (x conn).2.begun = conn.begun

theorem inside_check (result : Except ε α) : Inside (check result : Session σ ε α) := fun _ => rfl

theorem inside_execute (run : σ → Except ε σ) : Inside (execute run) := by
  intro conn
  simp only [execute]
  split <;> rfl

theorem Inside.bind (hx : Inside x) (hf : ∀ a, Inside (f a)) : Inside (x >>= f) := by
  intro conn
  have hfirst := hx conn
  simp only [Bind.bind]
  cases hrun : x conn with
  | mk result mid =>
    rw [hrun] at hfirst
    cases result with
    | ok a => exact (hf a mid).trans hfirst
    | error e => exact hfirst

theorem Inside.forM {xs : List α} {g : α → Session σ ε PUnit} (hg : ∀ y, Inside (g y)) :
    Inside (xs.forM g) := by
  induction xs with
  | nil => exact fun _ => rfl
  | cons y rest ih => exact Inside.bind (hg y) fun _ => ih

theorem begins_eq_ok {nested : ε} (h : begins nested conn = (.ok (), conn')) :
    conn.begun = none ∧ conn' = conn.opened := by
  simp only [begins] at h
  cases hbegun : conn.begun with
  | none =>
    rw [hbegun] at h
    cases h
    exact ⟨rfl, rfl⟩
  | some s =>
    rw [hbegun] at h
    cases h

theorem begins_eq_error {nested : ε} (h : begins nested conn = (.error e, conn')) :
    conn' = conn := by
  simp only [begins] at h
  cases hbegun : conn.begun with
  | none =>
    rw [hbegun] at h
    cases h
  | some s =>
    rw [hbegun] at h
    cases h
    rfl

theorem guarded_eq_ok {a : α} (h : guarded x conn = (.ok a, conn')) : x conn = (.ok a, conn') := by
  cases hx : x conn with
  | mk result last =>
    simp only [guarded, hx] at h
    cases result with
    | ok a' => exact h
    | error e => cases h

theorem guarded_eq_error (h : guarded x conn = (.error e, conn')) :
    ∃ last, x conn = (.error e, last) ∧ conn' = last.rolledBack := by
  cases hx : x conn with
  | mk result last =>
    simp only [guarded, hx] at h
    cases result with
    | ok a => cases h
    | error e' =>
      cases h
      exact ⟨last, rfl, rfl⟩

section

variable {nested : ε} {body : Session σ ε Unit}

/-- **A transaction that fails** has changed nothing. -/
theorem transaction_eq_error (hbody : Inside body)
    (h : transaction nested body conn = (.error e, conn')) : conn' = conn := by
  rcases bind_eq_error h with hbegins | ⟨_, mid, hbegins, hguarded⟩
  · exact begins_eq_error hbegins
  · obtain ⟨hnone, rfl⟩ := begins_eq_ok hbegins
    obtain ⟨last, hlast, rfl⟩ := guarded_eq_error hguarded
    -- `COMMIT` was not reached
    have hbegun : last.begun = some conn.current := by
      rcases bind_eq_error hlast with hfails | ⟨_, written, -, hcommits⟩
      · rw [← show (body conn.opened).2 = last from congrArg Prod.snd hfails]
        exact hbody conn.opened
      · cases hcommits
    rw [Connection.rolledBack, hbegun, Option.getD_some, ← hnone]

/-- One that ends well has done what its body does. -/
theorem transaction_eq_ok (h : transaction nested body conn = (.ok (), conn')) :
    conn.begun = none ∧ ∃ written, body conn.opened = (.ok (), written) ∧
      conn' = written.committed := by
  obtain ⟨_, mid, hbegins, hguarded⟩ := bind_eq_ok h
  obtain ⟨hnone, rfl⟩ := begins_eq_ok hbegins
  obtain ⟨_, written, hwritten, hcommits⟩ := bind_eq_ok (guarded_eq_ok hguarded)
  cases hcommits
  exact ⟨hnone, written, hwritten, rfl⟩

end

end Session

end Lib
