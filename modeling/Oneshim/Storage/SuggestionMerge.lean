/-
  The suggestion merge: a status lattice with a last-writer-wins tie-break.

  A suggestion is ranked by its status first (acted > dismissed > shown > none) and by its
  timestamp second, and the merge keeps the row of the highest rank.  That makes it a register, so
  the stored row does not depend on the order of arrival — in the columns the update writes.
  `created_at` is not one of them: it is set by the INSERT and no update touches it, so it stays
  that of the version that arrived FIRST.

  * `storeSuggestion_monotone` — no step lowers the status, and none changes `created_at`;
  * `storeSuggestions_converge` — all other columns converge.
-/
import Mathlib.Data.List.Induction
import Oneshim.Storage.ApplySpec
import Oneshim.Storage.SyncExtractor

namespace Oneshim

open Lib

/-- A changeset that carries one suggestion. -/
def suggestionChangeSet (origin : String) (row : Json) : ChangeSet :=
  { originDeviceId := origin, suggestions := [row] }

/-- Apply one suggestion row of a peer. -/
def storeSuggestion (me origin : String) (db : Database) (row : Json) : Database :=
  (applyChanges me (suggestionChangeSet origin row) db).2

/-- Apply suggestion rows of a peer one after the other. -/
def storeSuggestions (me origin : String) (db : Database) (rows : List Json) : Database :=
  rows.foldl (storeSuggestion me origin) db

/-- A complete suggestion row for `id`: every required column is there and fits. -/
structure SuggestionOf (id : String) (row : Json) : Prop where
  key : jsonStr row "suggestion_id" = .ok id
  columns : ∃ r, suggestionVersion row = .ok r
  createdAt : ∃ c, jsonStr row "created_at" = .ok c

/-! ## One row -/

variable {db : Database}

/-- Applying a changeset of one suggestion is merging that suggestion. -/
theorem mergeAll_suggestionChangeSet (origin : String) {row : Json} {tx : Tx}
    (h : mergeSuggestion ⟨db, {}⟩ row = .ok tx) :
    ∃ tx', mergeAll db (suggestionChangeSet origin row) = .ok tx' ∧
      tx'.db.suggestions = tx.db.suggestions := by
  refine ⟨⟨tx.db.upsertSyncPeer ⟨origin, "", Int64.ofNat 0, bindU32 0⟩, tx.result⟩, ?_, rfl⟩
  show (do
    let t ← [row].foldlM mergeSuggestion ⟨db, {}⟩
    updateSyncPeers t (suggestionChangeSet origin row)) = _
  rw [List.foldlM_cons, h, ok_bind, List.foldlM_nil]
  rfl

theorem mergeAll_suggestionChangeSet_error {origin : String} {row : Json} {e : StorageError}
    (h : mergeSuggestion ⟨db, {}⟩ row = .error e) :
    mergeAll db (suggestionChangeSet origin row) = .error e := by
  show (do
    let t ← [row].foldlM mergeSuggestion ⟨db, {}⟩
    updateSyncPeers t (suggestionChangeSet origin row)) = _
  rw [List.foldlM_cons, h, error_bind, error_bind]

/-- What applying a row does to the suggestions: the merge, or nothing when it is rejected. -/
theorem storeSuggestion_suggestions {me origin : String} (hother : origin ≠ me) (db : Database)
    (row : Json) :
    (∃ tx, mergeSuggestion ⟨db, {}⟩ row = .ok tx ∧
      (storeSuggestion me origin db row).suggestions = tx.db.suggestions) ∨
    ((∃ e, mergeSuggestion ⟨db, {}⟩ row = .error e) ∧ storeSuggestion me origin db row = db) := by
  cases hm : mergeSuggestion ⟨db, {}⟩ row with
  | ok tx =>
    obtain ⟨tx', htx', hsug⟩ := mergeAll_suggestionChangeSet origin hm
    refine .inl ⟨tx, rfl, ?_⟩
    rw [storeSuggestion, applyChanges_merged rfl hother htx']
    exact hsug
  | error e =>
    refine .inr ⟨⟨e, rfl⟩, ?_⟩
    rw [storeSuggestion, applyChanges_rejected rfl hother (mergeAll_suggestionChangeSet_error hm)]

/-- **No step goes back**: whatever the row, a stored suggestion keeps its `created_at`, and its
    status does not fall. -/
theorem storeSuggestion_monotone {me origin : String} (hother : origin ≠ me) (row : Json)
    {id : String} {r : SuggestionRow} (hr : db.suggestions.find? id = some r) :
    ∃ r', (storeSuggestion me origin db row).suggestions.find? id = some r' ∧
      r.status ≤ r'.status ∧ r'.createdAt = r.createdAt := by
  rcases storeSuggestion_suggestions hother db row with ⟨tx, htx, hsug⟩ | ⟨-, hsame⟩
  · rw [hsug]
    obtain ⟨id', hlc, hid, hx, hcases⟩ := mergeSuggestion_ok htx
    rcases hcases with ⟨-, v, c, db', hv, -, hdb, rfl⟩ | ⟨old, hold, hlt, v, hv, rfl⟩ |
        ⟨old, -, -, rfl⟩
    · -- a fresh key was inserted: another one than `id`
      obtain ⟨t, ht, rfl⟩ := insertSuggestion_ok_iff.mp hdb
      have hfree := (Table.insert?_eq_some_iff.mp ht).1
      have hne : ¬ v.suggestionId = id := by
        rintro rfl
        rw [show db.suggestions.find? v.suggestionId = none from hfree] at hr
        nomatch hr
      refine ⟨r, ?_, le_rfl, rfl⟩
      show t.find? id = some r
      rw [Table.find?_insert? ht, if_neg hne]
      exact hr
    · obtain ⟨hvid, -, hvstatus, -⟩ := suggestionVersion_ok hid hx hv
      have hfind : db.suggestions.find? id' = some old.1 := (readable_eq_some_iff.mp hold).1
      show ∃ r', (db.suggestions.replace { v with createdAt := old.1.createdAt }).find? id
        = some r' ∧ _
      rw [Table.find?_replace]
      by_cases hsame : v.suggestionId = id
      · have heq : old.1 = r := by
          rw [← hvid, hsame, hr] at hfind
          exact (Option.some.inj hfind).symm
        rw [if_pos hsame, hr]
        refine ⟨_, rfl, ?_, by rw [← heq]⟩
        show r.status ≤ v.status
        rw [hvstatus, ← heq]
        rcases Prod.Lex.toLex_lt_toLex.mp hlt with h | ⟨h, -⟩
        · exact h.le
        · exact h.le
      · rw [if_neg hsame]
        exact ⟨r, hr, le_rfl, rfl⟩
    · exact ⟨r, hr, le_rfl, rfl⟩
  · rw [hsame]
    exact ⟨r, hr, le_rfl, rfl⟩

/-- A complete row is accepted wherever the stored timestamp can be read. -/
theorem mergeSuggestion_accepts {tx : Tx} {id : String} {row : Json} (hrow : SuggestionOf id row)
    (hread : ∀ r, tx.db.suggestions.find? id = some r → ∃ h, r.stamp.readHlc = some h) :
    ∃ tx', mergeSuggestion tx row = .ok tx' := by
  obtain ⟨v, hv⟩ := hrow.columns
  obtain ⟨c, hc⟩ := hrow.createdAt
  obtain ⟨_, hid, hv'⟩ := bind_eq_ok_iff.mp hv
  rw [hrow.key] at hid
  cases hid
  obtain ⟨hlc, hx, hv'⟩ := bind_eq_ok_iff.mp hv'
  obtain ⟨⟨columns, h⟩, hp, hs⟩ := bind_eq_ok_iff.mp hv'
  obtain ⟨stamp, hbind, -⟩ := bind_eq_ok_iff.mp hs
  obtain ⟨-, hcid, -, -, hany⟩ := suggestionParams_ok hx hp
  have hbind' := sqlErr_eq_ok_iff.mp hbind
  simp only [mergeSuggestion, hrow.key, hx, ok_bind]
  refine resolve_accepts ?_ ?_
  · intro hnone
    -- a failed typed read would mean an unreadable row
    have hfree : tx.db.suggestions.find? id = none := by
      cases hf : tx.db.suggestions.find? id with
      | none => rfl
      | some r =>
        obtain ⟨h', hr⟩ := hread r hf
        rw [hf, readable, Option.bind_some, hr] at hnone
        cases hnone
    obtain ⟨t, ht, -⟩ := Table.insert?_of_fresh (t := tx.db.suggestions)
      (r := { columns with createdAt := c, stamp := stamp }) (by rw [← hfree, ← hcid])
    simp only [hc, hany, hbind', ok_bind, Database.insertSuggestion, Database.insertUnique, ht]
    exact ⟨_, rfl⟩
  · intro old _ _
    simp only [hany, hbind', ok_bind]
    exact ⟨_, rfl⟩

/-! ## All rows -/

/-- The timestamp stored under `id`, if any, can be read. -/
def SuggestionReadable (db : Database) (id : String) : Prop :=
  ∀ r, db.suggestions.find? id = some r → ∃ h, r.stamp.readHlc = some h

/-- A merged row is readable. -/
theorem mergeSuggestion_readable {tx tx' : Tx} {row : Json} {id : String}
    (hrow : jsonStr row "suggestion_id" = .ok id)
    (h : mergeSuggestion tx row = .ok tx') : SuggestionReadable tx'.db id := by
  obtain ⟨k, v, ho, hreg⟩ := mergeSuggestion_offers h
  obtain ⟨hlc, hx⟩ : ∃ hlc, extractHlc row = .ok hlc := by
    obtain ⟨_, hlc, -, hx, -⟩ := mergeSuggestion_ok h
    exact ⟨hlc, hx⟩
  have hk : k = id := by
    simp only [suggestionOffer, hrow, hx] at ho
    exact (congrArg Prod.fst (Option.some.inj ho)).symm
  -- the register of `id` holds something after an offer, so its row has a rank
  have hcov : Covers (suggestionRegister tx'.db.suggestions id) v.1 := by
    rw [hreg, ← hk, Function.update_self]
    exact covers_accept_self _ v
  obtain ⟨w, hw, -⟩ := hcov
  obtain ⟨r, hfind, hrank⟩ := Option.bind_eq_some_iff.mp hw
  obtain ⟨x, hx', -⟩ := Option.map_eq_some_iff.mp hrank
  obtain ⟨h', hread', -⟩ := Option.map_eq_some_iff.mp hx'
  intro r' hr'
  rw [hfind] at hr'
  cases hr'
  exact ⟨h', hread'⟩

/-- Where the stored timestamp can be read, the payload is what the register holds. -/
theorem payload_eq_register {id : String} (hread : SuggestionReadable db id) :
    (db.suggestions.find? id).map SuggestionRow.payload
      = (suggestionRegister db.suggestions id).bind (fun v => v.2) := by
  cases hf : db.suggestions.find? id with
  | none => rw [suggestionRegister, tableRegister, hf]; rfl
  | some r =>
    obtain ⟨h, hr⟩ := hread r hf
    rw [suggestionRegister, tableRegister, hf, Option.bind_some, SuggestionRow.rank, hr]
    rfl

variable {me origin id : String}

/-- **The run lemma**: complete rows leave the latest version, over any readable start. -/
theorem storeSuggestions_latest (hother : origin ≠ me) (hread : SuggestionReadable db id)
    {rows : List Json} (hrows : ∀ row ∈ rows, SuggestionOf id row) :
    SuggestionReadable (storeSuggestions me origin db rows) id ∧
    LatestOver (suggestionRegister db.suggestions id) (suggestionBank.offered rows id)
      (suggestionRegister (storeSuggestions me origin db rows).suggestions id) := by
  -- induction on the rows from the right: the last row is offered to what the others left
  induction rows using List.reverseRecOn with
  | nil =>
    rw [suggestionBank.offered_nil]
    exact ⟨hread, latestOver_refl _⟩
  | append_singleton rows row ih =>
    obtain ⟨hread', hlatest⟩ := ih (fun r hr => hrows r (List.mem_append_left _ hr))
    have hrow : SuggestionOf id row := hrows row (List.mem_append_right _ List.mem_cons_self)
    have haccept : ∃ tx, mergeSuggestion ⟨storeSuggestions me origin db rows, {}⟩ row = .ok tx :=
      mergeSuggestion_accepts hrow hread'
    obtain ⟨tx, htx⟩ := haccept
    have hstep : (storeSuggestions me origin db (rows ++ [row])).suggestions
        = tx.db.suggestions := by
      rw [storeSuggestions, List.foldl_append]
      rcases storeSuggestion_suggestions hother (storeSuggestions me origin db rows) row with
        ⟨tx', htx', hsug⟩ | ⟨⟨e, he⟩, -⟩
      · rw [htx] at htx'
        cases htx'
        exact hsug
      · rw [htx] at he
        nomatch he
    constructor
    · have := mergeSuggestion_readable hrow.key htx
      unfold SuggestionReadable at this ⊢
      rw [hstep]
      exact this
    · rw [hstep, suggestionBank.offered_append]
      exact suggestionBank.step_latest trivial trivial htx hlatest

/-- An unreadable row blocks its id: every application is rejected. -/
theorem storeSuggestions_unreadable (hother : origin ≠ me) {r : SuggestionRow}
    (hr : db.suggestions.find? id = some r) (hbad : r.stamp.readHlc = none) {rows : List Json}
    (hrows : ∀ row ∈ rows, SuggestionOf id row) :
    storeSuggestions me origin db rows = db := by
  induction rows using List.reverseRecOn with
  | nil => rfl
  | append_singleton rows row ih =>
    have hsame := ih (fun r hr => hrows r (List.mem_append_left _ hr))
    have hrow : SuggestionOf id row := hrows row (List.mem_append_right _ List.mem_cons_self)
    rw [storeSuggestions, List.foldl_append]
    show storeSuggestion me origin (storeSuggestions me origin db rows) row = db
    rw [hsame]
    rcases storeSuggestion_suggestions hother db row with ⟨tx, htx, -⟩ | ⟨-, hdb⟩
    · -- the merge takes the key for free, and the insert finds it taken
      obtain ⟨id', hlc, hid, hx, hcases⟩ := mergeSuggestion_ok htx
      rw [hrow.key] at hid
      cases hid
      have hnone : readable SuggestionRow.stamp (db.suggestions.find? id) = none := by
        rw [hr, readable, Option.bind_some, hbad]
        rfl
      rcases hcases with ⟨-, v, c, db', hv, -, hins, -⟩ | ⟨old, hold, -⟩ | ⟨old, hold, -⟩
      · obtain ⟨hvid, -⟩ := suggestionVersion_ok hrow.key hx hv
        obtain ⟨t, ht, -⟩ := insertSuggestion_ok_iff.mp hins
        have hfree := (Table.insert?_eq_some_iff.mp ht).1
        rw [← hvid, show db.suggestions.find? v.suggestionId = none from hfree] at hr
        cases hr
      · rw [hnone] at hold
        cases hold
      · rw [hnone] at hold
        cases hold
    · exact hdb

/-- Along a whole run the status does not fall and `created_at` does not move. -/
theorem storeSuggestions_monotone (hother : origin ≠ me) {r : SuggestionRow}
    (hr : db.suggestions.find? id = some r) (rows : List Json) :
    ∃ r', (storeSuggestions me origin db rows).suggestions.find? id = some r' ∧
      r.status ≤ r'.status ∧ r'.createdAt = r.createdAt := by
  induction rows generalizing db r with
  | nil => exact ⟨r, hr, le_rfl, rfl⟩
  | cons row rows ih =>
    obtain ⟨r₁, hr₁, hle₁, hc₁⟩ := storeSuggestion_monotone hother row hr
    obtain ⟨r₂, hr₂, hle₂, hc₂⟩ := ih hr₁
    exact ⟨r₂, hr₂, hle₁.trans hle₂, hc₂.trans hc₁⟩

/-- The first complete row of an id is stored with its own `created_at`. -/
theorem storeSuggestion_first (hother : origin ≠ me) (hfree : db.suggestions.find? id = none)
    {row : Json} (hrow : SuggestionOf id row) {c : String} (hc : jsonStr row "created_at" = .ok c) :
    ∃ r, (storeSuggestion me origin db row).suggestions.find? id = some r ∧ r.createdAt = c := by
  have haccept : ∃ tx, mergeSuggestion ⟨db, {}⟩ row = .ok tx :=
    mergeSuggestion_accepts hrow (fun r hr => by rw [hfree] at hr; nomatch hr)
  obtain ⟨tx, htx⟩ := haccept
  rcases storeSuggestion_suggestions hother db row with ⟨tx', htx', hsug⟩ | ⟨⟨e, he⟩, -⟩
  · rw [htx] at htx'
    cases htx'
    rw [hsug]
    obtain ⟨id', hlc, hid, hx, hcases⟩ := mergeSuggestion_ok htx
    rw [hrow.key] at hid
    cases hid
    have hnone : readable SuggestionRow.stamp (db.suggestions.find? id) = none := by
      rw [hfree]
      rfl
    rcases hcases with ⟨-, v, c', db', hv, hc', hins, rfl⟩ | ⟨old, hold, -⟩ | ⟨old, hold, -⟩
    · obtain ⟨hvid, -⟩ := suggestionVersion_ok hrow.key hx hv
      obtain ⟨t, ht, rfl⟩ := insertSuggestion_ok_iff.mp hins
      rw [hc] at hc'
      cases hc'
      refine ⟨{ v with createdAt := c }, ?_, rfl⟩
      show t.find? id = _
      rw [Table.find?_insert? ht, if_pos hvid]
    · rw [hnone] at hold
      nomatch hold
    · rw [hnone] at hold
      nomatch hold
  · rw [htx] at he
    nomatch he

/-- Rows told apart by their timestamps never tie with a different version. -/
theorem suggestionOffers_distinct {id : String} {rows : List Json}
    (hdistinct : ∀ row ∈ rows, ∀ row' ∈ rows, extractHlc row = extractHlc row' → row = row') :
    ∀ v ∈ suggestionBank.offered rows id, ∀ w ∈ suggestionBank.offered rows id,
      v.1 = w.1 → v = w := by
  have hhlc : ∀ {row : Json} {v : (Nat ×ₗ Hlc) × Option SuggestionRow},
      suggestionOffer row = some (id, v) → extractHlc row = .ok (ofLex v.1).2 := by
    intro row v ho
    unfold suggestionOffer at ho
    split at ho
    case h_1 k hlc _ hx =>
      cases ho
      exact hx
    case h_2 => nomatch ho
  rintro v ⟨row, hrow, ho⟩ w ⟨row', hrow', ho'⟩ heq
  have hsame : row = row' := hdistinct row hrow row' hrow' (by rw [hhlc ho, hhlc ho', heq])
  subst hsame
  have hpair := Option.some.inj (ho.symm.trans ho')
  exact congrArg Prod.snd hpair

/-- The `created_at` of the version that arrives first. -/
def firstCreatedAt (rows : List Json) : Option String :=
  rows.head?.bind fun row => (jsonStr row "created_at").toOption

/-- The `created_at` that is stored is that of the version that arrives first. -/
theorem createdAt_storeSuggestions (hother : origin ≠ me) (hfree : db.suggestions.find? id = none)
    {rows : List Json} (hrows : ∀ row ∈ rows, SuggestionOf id row) :
    ((storeSuggestions me origin db rows).suggestions.find? id).map SuggestionRow.createdAt
      = firstCreatedAt rows := by
  cases rows with
  | nil => exact congrArg (Option.map _) hfree
  | cons row rest =>
    have hrow := hrows row List.mem_cons_self
    obtain ⟨c, hc⟩ := hrow.createdAt
    obtain ⟨r, hr, hrc⟩ := storeSuggestion_first hother hfree hrow hc
    obtain ⟨r', hr', -, hc'⟩ := storeSuggestions_monotone hother hr rest
    have hlast : (storeSuggestions me origin db (row :: rest)).suggestions.find? id = some r' := hr'
    rw [hlast, Option.map_some, hc', hrc, firstCreatedAt, List.head?_cons, Option.bind_some, hc]
    rfl

/-- Rows of one payload are equal when they have one `created_at`. -/
theorem eq_iff_of_payload {o o' : Option SuggestionRow}
    (hpayload : o.map SuggestionRow.payload = o'.map SuggestionRow.payload) :
    o = o' ↔ o.map SuggestionRow.createdAt = o'.map SuggestionRow.createdAt := by
  refine ⟨congrArg _, fun hcreated => ?_⟩
  cases o with
  | none =>
    cases o' with
    | none => rfl
    | some r' => cases hpayload
  | some r =>
    cases o' with
    | none => cases hpayload
    | some r' =>
      have hcolumns : r.payload = r'.payload := Option.some.inj hpayload
      have htime : r.createdAt = r'.createdAt := Option.some.inj hcreated
      have hback (x : SuggestionRow) : { x.payload with createdAt := x.createdAt } = x := rfl
      rw [← hback r, ← hback r', hcolumns, htime]

/-- **The suggestion merge**: every order and every repetition of complete rows of one id leaves
    the same columns except `created_at`; no step lowers the status; and `created_at` is that of
    the row that arrived first, so whole rows agree if and only if the first versions do in this. -/
theorem storeSuggestions_converge {me origin id : String} (hother : origin ≠ me) {db : Database}
    {rows₁ rows₂ : List Json} (hset : ∀ row, row ∈ rows₁ ↔ row ∈ rows₂)
    (hrows : ∀ row ∈ rows₁, SuggestionOf id row)
    (hdistinct : ∀ row ∈ rows₁, ∀ row' ∈ rows₁, extractHlc row = extractHlc row' → row = row') :
    (((storeSuggestions me origin db rows₁).suggestions.find? id).map SuggestionRow.payload
      = ((storeSuggestions me origin db rows₂).suggestions.find? id).map SuggestionRow.payload) ∧
    (∀ seen row r, (storeSuggestions me origin db seen).suggestions.find? id = some r →
      ∃ r', (storeSuggestions me origin db (seen ++ [row])).suggestions.find? id = some r' ∧
        r.status ≤ r'.status ∧ r'.createdAt = r.createdAt) ∧
    (∀ row rest c, rows₁ = row :: rest → db.suggestions.find? id = none →
      jsonStr row "created_at" = .ok c →
      ∃ r, (storeSuggestions me origin db rows₁).suggestions.find? id = some r ∧
        r.createdAt = c) ∧
    ((storeSuggestions me origin db rows₁).suggestions.find? id
        = (storeSuggestions me origin db rows₂).suggestions.find? id ↔
      (db.suggestions.find? id = none → firstCreatedAt rows₁ = firstCreatedAt rows₂)) := by
  have hrows₂ : ∀ row ∈ rows₂, SuggestionOf id row := fun row h => hrows row ((hset row).mpr h)
  have hpayload : ((storeSuggestions me origin db rows₁).suggestions.find? id).map
        SuggestionRow.payload
      = ((storeSuggestions me origin db rows₂).suggestions.find? id).map
        SuggestionRow.payload := by
    by_cases hread : SuggestionReadable db id
    · obtain ⟨hread₁, hlatest₁⟩ := storeSuggestions_latest hother hread hrows
      obtain ⟨hread₂, hlatest₂⟩ := storeSuggestions_latest hother hread hrows₂
      have hoffers : suggestionBank.offered rows₁ id = suggestionBank.offered rows₂ id := by
        apply Set.ext
        intro v
        simp only [RegisterBank.offered, Set.mem_ofPred_eq, hset]
      rw [← hoffers] at hlatest₂
      rw [payload_eq_register hread₁, payload_eq_register hread₂,
        LatestOver.unique (suggestionOffers_distinct hdistinct) hlatest₁ hlatest₂]
    · -- a row that cannot be read rejects every application
      simp only [SuggestionReadable, not_forall, not_exists] at hread
      obtain ⟨r, hr, hnone⟩ := hread
      have hbad : r.stamp.readHlc = none := Option.eq_none_iff_forall_not_mem.mpr hnone
      rw [storeSuggestions_unreadable hother hr hbad hrows,
        storeSuggestions_unreadable hother hr hbad hrows₂]
  refine ⟨hpayload, ?_, ?_, ?_⟩
  · intro seen row r hr
    rw [storeSuggestions, List.foldl_append]
    exact storeSuggestion_monotone hother row hr
  · rintro row rest c rfl hfree hc
    obtain ⟨r, hr, hrc⟩ := storeSuggestion_first hother hfree (hrows row List.mem_cons_self) hc
    obtain ⟨r', hr', -, hc'⟩ := storeSuggestions_monotone hother hr rest
    exact ⟨r', hr', hc'.trans hrc⟩
  · rw [eq_iff_of_payload hpayload]
    cases hfind : db.suggestions.find? id with
    | none =>
      rw [createdAt_storeSuggestions hother hfind hrows,
        createdAt_storeSuggestions hother hfind hrows₂]
      exact ⟨fun h _ => h, fun h => h rfl⟩
    | some r =>
      obtain ⟨r₁, h₁, -, hc₁⟩ := storeSuggestions_monotone hother hfind rows₁
      obtain ⟨r₂, h₂, -, hc₂⟩ := storeSuggestions_monotone hother hfind rows₂
      rw [h₁, h₂, Option.map_some, Option.map_some, hc₁, hc₂]
      exact ⟨fun _ h => absurd h (Option.some_ne_none r), fun _ => rfl⟩

/-- A version of the suggestion `s`. -/
def sampleSuggestion (wallMs : Int64) (createdAt : String) : Json :=
  suggestionObject { suggestionId := "s", suggestionType := "break", content := "rest",
                     createdAt, stamp := ⟨wallMs, 0, "a"⟩ } ⟨0⟩ ⟨0⟩

/-- Two complete versions with timestamps of their own. -/
theorem sampleSuggestion_rows :
    (∀ row ∈ [sampleSuggestion 1 "t1", sampleSuggestion 2 "t2"], SuggestionOf "s" row) ∧
    (∀ row ∈ [sampleSuggestion 1 "t1", sampleSuggestion 2 "t2"],
      ∀ row' ∈ [sampleSuggestion 1 "t1", sampleSuggestion 2 "t2"],
        extractHlc row = extractHlc row' → row = row') := by
  have hcomplete : ∀ row ∈ [sampleSuggestion 1 "t1", sampleSuggestion 2 "t2"],
      SuggestionOf "s" row := by
    intro row hrow
    rcases List.mem_pair.mp hrow with rfl | rfl
    · exact ⟨rfl, ⟨_, rfl⟩, ⟨_, rfl⟩⟩
    · exact ⟨rfl, ⟨_, rfl⟩, ⟨_, rfl⟩⟩
  have h₁ : extractHlc (sampleSuggestion 1 "t1") = .ok ⟨1, 0, "a"⟩ := by rfl
  have h₂ : extractHlc (sampleSuggestion 2 "t2") = .ok ⟨2, 0, "a"⟩ := by rfl
  refine ⟨hcomplete, ?_⟩
  intro row hrow row' hrow' heq
  rcases List.mem_pair.mp hrow with rfl | rfl <;> rcases List.mem_pair.mp hrow' with rfl | rfl
  · rfl
  · rw [h₁, h₂] at heq
    simp at heq
  · rw [h₁, h₂] at heq
    simp at heq
  · rfl

theorem storeSuggestions_converge_two :
    ((storeSuggestions "b" "a" (Database.empty true)
        [sampleSuggestion 1 "t1", sampleSuggestion 2 "t2"]).suggestions.find? "s").map
        SuggestionRow.payload
      = ((storeSuggestions "b" "a" (Database.empty true)
        [sampleSuggestion 2 "t2", sampleSuggestion 1 "t1"]).suggestions.find? "s").map
        SuggestionRow.payload := by
  have hset : ∀ row, row ∈ [sampleSuggestion 1 "t1", sampleSuggestion 2 "t2"] ↔
      row ∈ [sampleSuggestion 2 "t2", sampleSuggestion 1 "t1"] := by
    intro row
    rw [List.mem_pair, List.mem_pair, or_comm]
  exact (storeSuggestions_converge (by decide) hset sampleSuggestion_rows.1
    sampleSuggestion_rows.2).1

/-- **`created_at` depends on the order**: it is the one column an update does not write. -/
theorem storeSuggestions_createdAt_diverges :
    ¬ ∀ (me origin id : String) (db : Database) (rows₁ rows₂ : List Json), origin ≠ me →
      (∀ row, row ∈ rows₁ ↔ row ∈ rows₂) → (∀ row ∈ rows₁, SuggestionOf id row) →
      (∀ row ∈ rows₁, ∀ row' ∈ rows₁, extractHlc row = extractHlc row' → row = row') →
      (storeSuggestions me origin db rows₁).suggestions.find? id
        = (storeSuggestions me origin db rows₂).suggestions.find? id := by
  intro hall
  have heq := hall "b" "a" "s" (Database.empty true)
    [sampleSuggestion 1 "t1", sampleSuggestion 2 "t2"]
    [sampleSuggestion 2 "t2", sampleSuggestion 1 "t1"] (by decide)
    (by intro row; rw [List.mem_pair, List.mem_pair, or_comm]) sampleSuggestion_rows.1
    sampleSuggestion_rows.2
  have h₁ : ((storeSuggestions "b" "a" (Database.empty true)
      [sampleSuggestion 1 "t1", sampleSuggestion 2 "t2"]).suggestions.find? "s").map
      SuggestionRow.createdAt = some "t1" := by rfl
  have h₂ : ((storeSuggestions "b" "a" (Database.empty true)
      [sampleSuggestion 2 "t2", sampleSuggestion 1 "t1"]).suggestions.find? "s").map
      SuggestionRow.createdAt = some "t2" := by rfl
  rw [heq, h₂] at h₁
  simp at h₁

end Oneshim
