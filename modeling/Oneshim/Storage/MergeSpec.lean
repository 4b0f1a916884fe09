/-
  What one merge step does.

  Each `merge…` is inverted ONCE here: if it returned `.ok`, which branch ran, what it did to its
  own table, and that it left the other tables alone.  The last-writer-wins tables are then read
  as registers (`Lib.Register`): a table assigns to every key the version it holds, and merging a
  row OFFERS that row's version to its key.

  * `regimeRegister`, `embeddingRegister`, `suggestionRegister` — the registers of a database;
  * `mergeRegime_offers`, `mergeEmbedding_offers`, `mergeSuggestion_offers` — a successful merge
    is `accept` at the row's key and nothing at every other key.

  The rank of a regime or an embedding is its timestamp; the rank of a suggestion is its status
  first and its timestamp second.
-/
import Mathlib.Logic.Function.Basic
import Oneshim.Lib.Register
import Oneshim.Storage.SyncMerger

namespace Oneshim

open Lib

/-! ## Inversion of the building blocks -/

theorem sqlErr_eq_ok_iff {α : Type} {context : String} {x : Except SqlError α} {a : α} :
    sqlErr context x = .ok a ↔ x = .ok a := by
  cases x with
  | error e => exact ⟨fun h => (nomatch h), fun h => (nomatch h)⟩
  | ok b =>
    constructor
    · intro h
      cases h
      rfl
    · intro h
      cases h
      rfl

theorem sqlErr_bind_ok {α β : Type} {context : String} {x : Except SqlError α}
    {f : α → Except SqlError β} {b : β} (h : sqlErr context (x >>= f) = .ok b) :
    ∃ a, x = .ok a ∧ f a = .ok b :=
  bind_eq_ok_iff.mp (sqlErr_eq_ok_iff.mp h)

variable {row : Json}

/-- A timestamp read from JSON has a 32-bit counter. -/
theorem extractHlc_counter_lt {h : Hlc} (hx : extractHlc row = .ok h) :
    h.counter < 2 ^ 32 := by
  simp only [extractHlc, jsonU32, bind_eq_ok_iff] at hx
  obtain ⟨w, -, c, ⟨n, -, hn⟩, d, -, hret⟩ := hx
  cases hn
  cases hret
  exact Nat.mod_lt _ (by omega)

theorem extractHlc_deviceId {h : Hlc} (hx : extractHlc row = .ok h) :
    jsonStr row "origin_device_id" = .ok h.deviceId := by
  simp only [extractHlc, bind_eq_ok_iff] at hx
  obtain ⟨w, -, c, -, d, hd, hret⟩ := hx
  cases hret
  exact hd

variable {tx tx' : Tx}

/-- What an append-only merge does: skip a known key, or insert. -/
theorem mergeAppendOnly_ok {keyField : String} {known : String → Bool}
    {insert : String → Except StorageError Database}
    (h : mergeAppendOnly keyField known insert tx row = .ok tx') :
    ∃ id, jsonStr row keyField = .ok id ∧
      ((known id = true ∧ tx' = ⟨tx.db, tx.result.countSkippedDup⟩) ∨
       (known id = false ∧ ∃ db, insert id = .ok db ∧ tx' = ⟨db, tx.result.countApplied⟩)) := by
  unfold mergeAppendOnly at h
  obtain ⟨id, hid, hrest⟩ := bind_eq_ok_iff.mp h
  refine ⟨id, hid, ?_⟩
  split at hrest
  case isTrue hk =>
    cases hrest
    exact .inl ⟨hk, rfl⟩
  case isFalse hk =>
    obtain ⟨db, hdb, hret⟩ := bind_eq_ok_iff.mp hrest
    cases hret
    exact .inr ⟨by simpa using hk, db, hdb, rfl⟩

/-- What a conflict resolution does: insert, update or skip. -/
theorem resolve_ok {ℓ : Type} {stored : Option ℓ} {remoteWins : ℓ → Bool}
    {insert : Except StorageError Database} {update : ℓ → Except StorageError Database}
    {updated : SyncResult → SyncResult}
    (h : resolve tx stored remoteWins insert update updated = .ok tx') :
    (stored = none ∧ ∃ db, insert = .ok db ∧ tx' = ⟨db, tx.result.countApplied⟩) ∨
    (∃ l, stored = some l ∧ remoteWins l = true ∧
      ∃ db, update l = .ok db ∧ tx' = ⟨db, updated tx.result⟩) ∨
    (∃ l, stored = some l ∧ remoteWins l = false ∧
      tx' = ⟨tx.db, tx.result.countSkippedLww⟩) := by
  unfold resolve at h
  split at h
  case h_1 =>
    obtain ⟨db, hdb, hret⟩ := bind_eq_ok_iff.mp h
    cases hret
    exact .inl ⟨rfl, db, hdb, rfl⟩
  case h_2 l =>
    split at h
    case isTrue hw =>
      obtain ⟨db, hdb, hret⟩ := bind_eq_ok_iff.mp h
      cases hret
      exact .inr (.inl ⟨l, rfl, hw, db, hdb, rfl⟩)
    case isFalse hw =>
      cases h
      exact .inr (.inr ⟨l, rfl, by simpa using hw, rfl⟩)

/-- A resolution succeeds when the statement it may run does. -/
theorem resolve_accepts {ℓ : Type} {tx : Tx} {stored : Option ℓ} {remoteWins : ℓ → Bool}
    {insert : Except StorageError Database} {update : ℓ → Except StorageError Database}
    {updated : SyncResult → SyncResult} (hinsert : stored = none → ∃ db, insert = .ok db)
    (hupdate : ∀ l, stored = some l → remoteWins l = true → ∃ db, update l = .ok db) :
    ∃ tx', resolve tx stored remoteWins insert update updated = .ok tx' := by
  cases stored with
  | none =>
    obtain ⟨db, hdb⟩ := hinsert rfl
    exact ⟨_, by rw [resolve, hdb, ok_bind]; rfl⟩
  | some l =>
    cases hw : remoteWins l with
    | true =>
      obtain ⟨db, hdb⟩ := hupdate l rfl hw
      exact ⟨_, by simp only [resolve, hw, if_true, hdb, ok_bind]; rfl⟩
    | false => exact ⟨_, by simp only [resolve, hw, Bool.false_eq_true, if_false]; rfl⟩

@[simp] theorem total_countUpdate (row : Json) (r : SyncResult) :
    (countUpdate row r).total = r.total + 1 := by
  unfold countUpdate
  split
  · exact SyncResult.total_countTombstoned r
  · exact SyncResult.total_countApplied r

theorem insertUnique_ok_iff {ρ : Type} {key : ρ → String} {column : String} {t t' : Table key}
    {r : ρ} : Database.insertUnique column t r = .ok t' ↔ t.insert? r = some t' := by
  unfold Database.insertUnique
  cases t.insert? r with
  | none => exact ⟨fun h => (nomatch h), fun h => (nomatch h)⟩
  | some u =>
    constructor
    · intro h
      cases h
      rfl
    · intro h
      cases h
      rfl

/-! ## Regimes -/

/-- The row the merger stores for an incoming regime. -/
def regimeVersion (row : Json) : Except StorageError RegimeRow := do
  let id ← jsonStr row "id"
  let remoteHlc ← extractHlc row
  let (columns, hlc) ← regimeParams row id remoteHlc
  let stamp ← sqlErr "insert regime" (Stamp.bind hlc)
  return { columns with stamp }

variable {id : String}

theorem regimeParams_ok {hlc : Hlc} {columns : RegimeRow} {h : Hlc} (hx : extractHlc row = .ok hlc)
    (hp : regimeParams row id hlc = .ok (columns, h)) :
    columns.id = id ∧ h = hlc := by
  have hdev := extractHlc_deviceId hx
  simp only [regimeParams, bind_eq_ok_iff] at hp
  obtain ⟨_, -, _, -, _, -, _, -, _, -, _, -, _, -, _, -, d, hd, hret⟩ := hp
  rw [hdev] at hd
  cases hd
  cases hret
  exact ⟨rfl, rfl⟩

/-- Bound parameters are the row's version. -/
theorem regimeVersion_of {hlc h : Hlc} {columns : RegimeRow} {stamp : Stamp}
    (hid : jsonStr row "id" = .ok id) (hx : extractHlc row = .ok hlc)
    (hp : regimeParams row id hlc = .ok (columns, h)) (hs : Stamp.bind h = .ok stamp) :
    regimeVersion row = .ok { columns with stamp } := by
  simp only [regimeVersion, hid, hx, hp, hs, ok_bind, sqlErr]
  rfl

/-- A version carries the row's key, and its stamp reads as the row's timestamp. -/
theorem regimeVersion_ok {r : RegimeRow} {hlc : Hlc} (hid : jsonStr row "id" = .ok id)
    (hx : extractHlc row = .ok hlc) (hr : regimeVersion row = .ok r) :
    r.id = id ∧ r.stamp.readHlc = some hlc := by
  simp only [regimeVersion, hid, hx, ok_bind, bind_eq_ok_iff] at hr
  obtain ⟨⟨columns, h⟩, hp, stamp, hs, hret⟩ := hr
  obtain ⟨hcid, rfl⟩ := regimeParams_ok hx hp
  cases hret
  exact ⟨hcid, Stamp.readHlc_of_bind (extractHlc_counter_lt hx) (sqlErr_eq_ok_iff.mp hs)⟩

/-- **What `merge_regime` does** when it succeeds. -/
theorem mergeRegime_ok (h : mergeRegime tx row = .ok tx') :
    ∃ id hlc, jsonStr row "id" = .ok id ∧ extractHlc row = .ok hlc ∧
      ((readable RegimeRow.stamp (tx.db.regimes.find? id) = none ∧
          ∃ r db, regimeVersion row = .ok r ∧ tx.db.insertRegime r = .ok db ∧
            tx' = ⟨db, tx.result.countApplied⟩) ∨
       (∃ old, readable RegimeRow.stamp (tx.db.regimes.find? id) = some old ∧ old.2 < hlc ∧
          ∃ r db, regimeVersion row = .ok r ∧ tx.db.updateRegime r = .ok db ∧
            tx' = ⟨db, countUpdate row tx.result⟩) ∨
       (∃ old, readable RegimeRow.stamp (tx.db.regimes.find? id) = some old ∧ hlc ≤ old.2 ∧
          tx' = ⟨tx.db, tx.result.countSkippedLww⟩)) := by
  unfold mergeRegime at h
  obtain ⟨id, hid, h⟩ := bind_eq_ok_iff.mp h
  obtain ⟨hlc, hx, h⟩ := bind_eq_ok_iff.mp h
  refine ⟨id, hlc, hid, hx, ?_⟩
  rcases resolve_ok h with ⟨hnone, db, hdb, rfl⟩ | ⟨old, hold, hw, db, hdb, rfl⟩ |
      ⟨old, hold, hw, rfl⟩
  · obtain ⟨⟨columns, h'⟩, hp, hs⟩ := bind_eq_ok_iff.mp hdb
    obtain ⟨stamp, hs, hi⟩ := sqlErr_bind_ok hs
    exact .inl ⟨hnone, _, db, regimeVersion_of hid hx hp hs, hi, rfl⟩
  · obtain ⟨⟨columns, h'⟩, hp, hs⟩ := bind_eq_ok_iff.mp hdb
    obtain ⟨stamp, hs, hi⟩ := sqlErr_bind_ok hs
    exact .inr (.inl ⟨old, hold, Hlc.isAfter_iff.mp hw, _, db,
      regimeVersion_of hid hx hp hs, hi, rfl⟩)
  · exact .inr (.inr ⟨old, hold, Hlc.isAfter_eq_false_iff.mp hw, rfl⟩)

theorem insertRegime_ok_iff {db db' : Database} {r : RegimeRow} :
    db.insertRegime r = .ok db' ↔ ∃ t, db.regimes.insert? r = some t ∧
      db.checkReference r.paramsSnapshotId db.hasParamSnapshot = .ok () ∧
      db' = { db with regimes := t } := by
  simp only [Database.insertRegime, bind_eq_ok_iff, insertUnique_ok_iff]
  constructor
  · rintro ⟨t, ht, _, href, hret⟩
    cases hret
    exact ⟨t, ht, href, rfl⟩
  · rintro ⟨t, ht, href, rfl⟩
    exact ⟨t, ht, (), href, rfl⟩

theorem updateRegime_ok {db db' : Database} {r : RegimeRow} (h : db.updateRegime r = .ok db') :
    db' = { db with regimes := db.regimes.replace r } := by
  obtain ⟨_, _, hret⟩ := bind_eq_ok_iff.mp h
  cases hret
  rfl

/-- The version a regime table holds under a key: the row, ranked by its timestamp. -/
def regimeRegister (t : Table RegimeRow.id) : String → Option (Hlc × Option RegimeRow) :=
  tableRegister (fun r => r.stamp.readHlc) some t

/-- The key of an incoming regime and the version it offers there. -/
def regimeOffer (row : Json) : Option (String × Hlc × Option RegimeRow) :=
  match jsonStr row "id", extractHlc row with
  | .ok id, .ok hlc => some (id, hlc, (regimeVersion row).toOption)
  | _, _ => none

theorem readable_eq_some_iff {ρ : Type} {stamp : ρ → Stamp} {o : Option ρ} {v : ρ × Hlc} :
    readable stamp o = some v ↔ o = some v.1 ∧ (stamp v.1).readHlc = some v.2 := by
  obtain ⟨r, h⟩ := v
  cases o with
  | none => exact ⟨fun h => (nomatch h), fun h => (nomatch h.1)⟩
  | some x =>
    simp only [readable, Option.bind_some, Option.map_eq_some_iff, Prod.mk.injEq,
      Option.some.injEq]
    constructor
    · rintro ⟨y, hy, rfl, rfl⟩
      exact ⟨rfl, hy⟩
    · rintro ⟨rfl, hy⟩
      exact ⟨h, hy, rfl, rfl⟩

theorem regimeRegister_of_readable {t : Table RegimeRow.id} {old : RegimeRow × Hlc}
    (h : readable RegimeRow.stamp (t.find? id) = some old) :
    regimeRegister t id = some (old.2, some old.1) := by
  obtain ⟨hfind, hread⟩ := readable_eq_some_iff.mp h
  rw [regimeRegister, tableRegister, hfind, Option.bind_some, hread, Option.map_some]

/-- **Merging a regime is an offer** to the register of its id. -/
theorem mergeRegime_offers (h : mergeRegime tx row = .ok tx') :
    ∃ k v, regimeOffer row = some (k, v) ∧
      regimeRegister tx'.db.regimes = Function.update (regimeRegister tx.db.regimes) k
        (accept (regimeRegister tx.db.regimes k) v) := by
  obtain ⟨id, hlc, hid, hx, hcases⟩ := mergeRegime_ok h
  refine ⟨id, (hlc, (regimeVersion row).toOption), by simp only [regimeOffer, hid, hx], ?_⟩
  rcases hcases with ⟨-, r, db, hr, hdb, rfl⟩ | ⟨old, hold, hlt, r, db, hr, hdb, rfl⟩ |
      ⟨old, hold, hle, rfl⟩
  · -- inserted: the key was free, whatever the typed read said
    obtain ⟨hrid, hrank⟩ := regimeVersion_ok hid hx hr
    obtain ⟨t, ht, -, rfl⟩ := insertRegime_ok_iff.mp hdb
    obtain ⟨hfree, hreg⟩ := tableRegister_insert? (fun r => r.stamp.readHlc) some ht hrank
    subst hrid
    rw [hr, show regimeRegister tx.db.regimes r.id = none from hfree]
    exact hreg
  · obtain ⟨hrid, hrank⟩ := regimeVersion_ok hid hx hr
    obtain ⟨hfind, -⟩ := readable_eq_some_iff.mp hold
    have hcur := regimeRegister_of_readable hold
    subst hrid
    rw [updateRegime_ok hdb, hr, hcur, accept_of_lt hlt]
    exact tableRegister_replace (fun r => r.stamp.readHlc) some hfind hrank
  · have hcur := regimeRegister_of_readable hold
    rw [hcur, accept_of_not_lt (not_lt.mpr hle), ← hcur, Function.update_eq_self]

/-- The regimes of a transaction, as a bank of registers. -/
def regimeBank : RegisterBank Tx Json String Hlc (Option RegimeRow) StorageError where
  register := fun tx => regimeRegister tx.db.regimes
  offer := regimeOffer
  step := mergeRegime
  inv := fun _ => True
  fits := fun _ => True
  step_inv := fun _ _ _ => trivial
  step_offers := fun _ _ h => mergeRegime_offers h

/-- A regime whose version is already covered is skipped. -/
theorem mergeRegime_of_covers {tx : Tx} {k : String} {v : Hlc × Option RegimeRow}
    (ho : regimeOffer row = some (k, v)) (hc : Covers (regimeRegister tx.db.regimes k) v.1) :
    mergeRegime tx row = .ok ⟨tx.db, tx.result.countSkippedLww⟩ := by
  unfold regimeOffer at ho
  split at ho
  case h_2 => nomatch ho
  case h_1 id hlc hid hx =>
    cases ho
    obtain ⟨w, hw, hle⟩ := hc
    obtain ⟨r, hfind, hrank⟩ := Option.bind_eq_some_iff.mp hw
    obtain ⟨h', hread, rfl⟩ := Option.map_eq_some_iff.mp hrank
    have hstored : readable RegimeRow.stamp (tx.db.regimes.find? k) = some (r, h') :=
      readable_eq_some_iff.mpr ⟨hfind, hread⟩
    have hlose : hlc.isAfter h' = false := Hlc.isAfter_eq_false_iff.mpr hle
    simp only [mergeRegime, hid, hx, ok_bind, resolve, hstored, hlose]
    rfl

/-! ## Suggestions -/

/-- The row the merger stores for an incoming suggestion, less its `created_at`. -/
def suggestionVersion (row : Json) : Except StorageError SuggestionRow := do
  let id ← jsonStr row "suggestion_id"
  let remoteHlc ← extractHlc row
  let (columns, hlc) ← suggestionParams row id remoteHlc (.ok "")
  let stamp ← sqlErr "insert suggestion" (Stamp.bind hlc)
  return { columns with stamp }

/-- The parameters depend on `created_at` only in that column. -/
theorem suggestionParams_ok {hlc h : Hlc} {columns : SuggestionRow}
    {createdAt : Except StorageError String} (hx : extractHlc row = .ok hlc)
    (hp : suggestionParams row id hlc createdAt = .ok (columns, h)) :
    createdAt = .ok columns.createdAt ∧ columns.suggestionId = id ∧ h = hlc ∧
      columns.status = suggestionStatusOrdinal row ∧
      ∀ d, suggestionParams row id hlc (.ok d) = .ok ({ columns with createdAt := d }, h) := by
  have hdev := extractHlc_deviceId hx
  simp only [suggestionParams, bind_eq_ok_iff] at hp
  obtain ⟨_, h1, _, h2, _, h3, _, h4, _, h5, _, h6, _, h7, c, hc, d, hd, hret⟩ := hp
  rw [hdev] at hd
  cases hd
  cases hret
  refine ⟨hc, rfl, rfl, rfl, ?_⟩
  intro d
  simp only [suggestionParams, h1, h2, h3, h4, h5, h6, h7, hdev, ok_bind]
  rfl

/-- Bound parameters are the row's version with the `created_at` they were given. -/
theorem suggestionVersion_of {hlc h : Hlc} {columns : SuggestionRow}
    {createdAt : Except StorageError String} {stamp : Stamp}
    (hid : jsonStr row "suggestion_id" = .ok id) (hx : extractHlc row = .ok hlc)
    (hp : suggestionParams row id hlc createdAt = .ok (columns, h)) (hs : Stamp.bind h = .ok stamp) :
    suggestionVersion row = .ok { columns with createdAt := "", stamp } := by
  obtain ⟨-, -, -, -, hany⟩ := suggestionParams_ok hx hp
  simp only [suggestionVersion, hid, hx, hany, hs, ok_bind, sqlErr]
  rfl

theorem suggestionVersion_ok {r : SuggestionRow} {hlc : Hlc}
    (hid : jsonStr row "suggestion_id" = .ok id) (hx : extractHlc row = .ok hlc)
    (hr : suggestionVersion row = .ok r) :
    r.suggestionId = id ∧ r.stamp.readHlc = some hlc ∧ r.status = suggestionStatusOrdinal row ∧
      r.createdAt = "" := by
  simp only [suggestionVersion, hid, hx, ok_bind, bind_eq_ok_iff] at hr
  obtain ⟨⟨columns, h⟩, hp, stamp, hs, hret⟩ := hr
  obtain ⟨hc, hcid, rfl, hstatus, -⟩ := suggestionParams_ok hx hp
  cases hret
  exact ⟨hcid, Stamp.readHlc_of_bind (extractHlc_counter_lt hx) (sqlErr_eq_ok_iff.mp hs), hstatus,
    (Except.ok.inj hc).symm⟩

/-- The rank of a suggestion version: status first, timestamp second. -/
def suggestionRank (status : Nat) (hlc : Hlc) : Nat ×ₗ Hlc := toLex (status, hlc)

/-- The source's comparison of two suggestions is the order of their ranks. -/
theorem remoteWins_iff {localStatus remoteStatus : Nat} {localHlc remoteHlc : Hlc} :
    (if remoteStatus != localStatus then decide (localStatus < remoteStatus)
      else remoteHlc.isAfter localHlc) = true ↔
      suggestionRank localStatus localHlc < suggestionRank remoteStatus remoteHlc := by
  rw [suggestionRank, suggestionRank, Prod.Lex.toLex_lt_toLex]
  split
  case isTrue hne =>
    have hne' : remoteStatus ≠ localStatus := by simpa using hne
    rw [decide_eq_true_eq]
    constructor
    · exact fun h => .inl h
    · rintro (h | ⟨h, -⟩)
      · exact h
      · exact absurd h.symm hne'
  case isFalse heq =>
    have heq' : remoteStatus = localStatus := by simpa using heq
    subst heq'
    rw [Hlc.isAfter_iff]
    constructor
    · exact fun h => .inr ⟨rfl, h⟩
    · rintro (h | ⟨-, h⟩)
      · exact absurd h (lt_irrefl _)
      · exact h

/-- **What `merge_suggestion` does** when it succeeds. -/
theorem mergeSuggestion_ok (h : mergeSuggestion tx row = .ok tx') :
    ∃ id hlc, jsonStr row "suggestion_id" = .ok id ∧ extractHlc row = .ok hlc ∧
      ((readable SuggestionRow.stamp (tx.db.suggestions.find? id) = none ∧
          ∃ r created db, suggestionVersion row = .ok r ∧ jsonStr row "created_at" = .ok created ∧
            tx.db.insertSuggestion { r with createdAt := created } = .ok db ∧
            tx' = ⟨db, tx.result.countApplied⟩) ∨
       (∃ old, readable SuggestionRow.stamp (tx.db.suggestions.find? id) = some old ∧
          suggestionRank old.1.status old.2 < suggestionRank (suggestionStatusOrdinal row) hlc ∧
          ∃ r, suggestionVersion row = .ok r ∧
            tx' = ⟨tx.db.updateSuggestion { r with createdAt := old.1.createdAt },
              tx.result.countApplied⟩) ∨
       (∃ old, readable SuggestionRow.stamp (tx.db.suggestions.find? id) = some old ∧
          suggestionRank (suggestionStatusOrdinal row) hlc ≤ suggestionRank old.1.status old.2 ∧
          tx' = ⟨tx.db, tx.result.countSkippedLww⟩)) := by
  unfold mergeSuggestion at h
  obtain ⟨id, hid, h⟩ := bind_eq_ok_iff.mp h
  obtain ⟨hlc, hx, h⟩ := bind_eq_ok_iff.mp h
  refine ⟨id, hlc, hid, hx, ?_⟩
  rcases resolve_ok h with ⟨hnone, db, hdb, rfl⟩ | ⟨old, hold, hw, db, hdb, rfl⟩ |
      ⟨old, hold, hw, rfl⟩
  · obtain ⟨⟨columns, h'⟩, hp, hs⟩ := bind_eq_ok_iff.mp hdb
    obtain ⟨stamp, hs, hi⟩ := sqlErr_bind_ok hs
    obtain ⟨hc, -⟩ := suggestionParams_ok hx hp
    exact .inl ⟨hnone, _, columns.createdAt, db, suggestionVersion_of hid hx hp hs, hc, hi, rfl⟩
  · obtain ⟨⟨columns, h'⟩, hp, hs⟩ := bind_eq_ok_iff.mp hdb
    obtain ⟨stamp, hbind, hret⟩ := sqlErr_bind_ok hs
    obtain ⟨hc, -⟩ := suggestionParams_ok hx hp
    cases hret
    refine .inr (.inl ⟨old, hold, remoteWins_iff.mp hw, _,
      suggestionVersion_of hid hx hp hbind, ?_⟩)
    rw [Except.ok.inj hc]
  · refine .inr (.inr ⟨old, hold, not_lt.mp (fun hlt => ?_), rfl⟩)
    rw [remoteWins_iff.mpr hlt] at hw
    nomatch hw

theorem insertSuggestion_ok_iff {db db' : Database} {r : SuggestionRow} :
    db.insertSuggestion r = .ok db' ↔
      ∃ t, db.suggestions.insert? r = some t ∧ db' = { db with suggestions := t } := by
  simp only [Database.insertSuggestion, bind_eq_ok_iff, insertUnique_ok_iff]
  constructor
  · rintro ⟨t, ht, hret⟩
    cases hret
    exact ⟨t, ht, rfl⟩
  · rintro ⟨t, ht, rfl⟩
    exact ⟨t, ht, rfl⟩

/-- The rank of a stored suggestion, when its timestamp can be read. -/
def SuggestionRow.rank (r : SuggestionRow) : Option (Nat ×ₗ Hlc) :=
  r.stamp.readHlc.map (suggestionRank r.status)

/-- Every synced column of a suggestion but `created_at`. -/
def SuggestionRow.payload (r : SuggestionRow) : SuggestionRow := { r with createdAt := "" }

/-- The version a suggestion table holds under an id. -/
def suggestionRegister (t : Table SuggestionRow.suggestionId) :
    String → Option ((Nat ×ₗ Hlc) × Option SuggestionRow) :=
  tableRegister SuggestionRow.rank (fun r => some r.payload) t

/-- The id of an incoming suggestion and the version it offers there. -/
def suggestionOffer (row : Json) : Option (String × (Nat ×ₗ Hlc) × Option SuggestionRow) :=
  match jsonStr row "suggestion_id", extractHlc row with
  | .ok id, .ok hlc => some (id, suggestionRank (suggestionStatusOrdinal row) hlc,
      (suggestionVersion row).toOption)
  | _, _ => none

theorem suggestionRegister_of_readable {t : Table SuggestionRow.suggestionId}
    {old : SuggestionRow × Hlc} (h : readable SuggestionRow.stamp (t.find? id) = some old) :
    suggestionRegister t id = some (suggestionRank old.1.status old.2, some old.1.payload) := by
  obtain ⟨hfind, hread⟩ := readable_eq_some_iff.mp h
  rw [suggestionRegister, tableRegister, hfind, Option.bind_some, SuggestionRow.rank, hread,
    Option.map_some, Option.map_some]

/-- **Merging a suggestion is an offer** to the register of its id. -/
theorem mergeSuggestion_offers (h : mergeSuggestion tx row = .ok tx') :
    ∃ k v, suggestionOffer row = some (k, v) ∧
      suggestionRegister tx'.db.suggestions = Function.update (suggestionRegister tx.db.suggestions)
        k (accept (suggestionRegister tx.db.suggestions k) v) := by
  obtain ⟨id, hlc, hid, hx, hcases⟩ := mergeSuggestion_ok h
  refine ⟨id, (suggestionRank (suggestionStatusOrdinal row) hlc,
    (suggestionVersion row).toOption), by simp only [suggestionOffer, hid, hx], ?_⟩
  -- a version keeps its rank and its payload whatever `created_at` it is stored with
  have hstored : ∀ {r : SuggestionRow} (c : String), suggestionVersion row = .ok r →
      SuggestionRow.rank { r with createdAt := c }
        = some (suggestionRank (suggestionStatusOrdinal row) hlc) ∧
      SuggestionRow.payload { r with createdAt := c } = r ∧ r.suggestionId = id := by
    intro r c hr
    obtain ⟨hrid, hread, hstatus, hcreated⟩ := suggestionVersion_ok hid hx hr
    refine ⟨?_, ?_, hrid⟩
    · show r.stamp.readHlc.map (suggestionRank r.status) = _
      rw [hread, hstatus, Option.map_some]
    · show { r with createdAt := "" } = r
      rw [← hcreated]
  rcases hcases with ⟨-, r, created, db, hr, -, hdb, rfl⟩ | ⟨old, hold, hlt, r, hr, rfl⟩ |
      ⟨old, hold, hle, rfl⟩
  · obtain ⟨hrank, hpay, rfl⟩ := hstored created hr
    obtain ⟨t, ht, rfl⟩ := insertSuggestion_ok_iff.mp hdb
    obtain ⟨hfree, hreg⟩ :=
      tableRegister_insert? SuggestionRow.rank (fun r => some r.payload) ht hrank
    rw [hr, show suggestionRegister tx.db.suggestions r.suggestionId = none from hfree]
    rw [hpay] at hreg
    exact hreg
  · obtain ⟨hrank, hpay, rfl⟩ := hstored old.1.createdAt hr
    obtain ⟨hfind, -⟩ := readable_eq_some_iff.mp hold
    rw [hr, suggestionRegister_of_readable hold, accept_of_lt hlt]
    have hreg := tableRegister_replace SuggestionRow.rank (fun r => some r.payload)
      (r := { r with createdAt := old.1.createdAt }) hfind hrank
    rw [hpay] at hreg
    exact hreg
  · rw [suggestionRegister_of_readable hold, accept_of_not_lt (not_lt.mpr hle),
      ← suggestionRegister_of_readable hold, Function.update_eq_self]

/-- The suggestions of a transaction, as a bank of registers. -/
def suggestionBank :
    RegisterBank Tx Json String (Nat ×ₗ Hlc) (Option SuggestionRow) StorageError where
  register := fun tx => suggestionRegister tx.db.suggestions
  offer := suggestionOffer
  step := mergeSuggestion
  inv := fun _ => True
  fits := fun _ => True
  step_inv := fun _ _ _ => trivial
  step_offers := fun _ _ h => mergeSuggestion_offers h

/-- A suggestion whose version is already covered is skipped. -/
theorem mergeSuggestion_of_covers {tx : Tx} {k : String} {v : (Nat ×ₗ Hlc) × Option SuggestionRow}
    (ho : suggestionOffer row = some (k, v))
    (hc : Covers (suggestionRegister tx.db.suggestions k) v.1) :
    mergeSuggestion tx row = .ok ⟨tx.db, tx.result.countSkippedLww⟩ := by
  unfold suggestionOffer at ho
  split at ho
  case h_2 => nomatch ho
  case h_1 id hlc hid hx =>
    cases ho
    obtain ⟨w, hw, hle⟩ := hc
    obtain ⟨r, hfind, hrank⟩ := Option.bind_eq_some_iff.mp hw
    obtain ⟨x, hx', rfl⟩ := Option.map_eq_some_iff.mp hrank
    obtain ⟨h', hread, rfl⟩ := Option.map_eq_some_iff.mp hx'
    have hstored : readable SuggestionRow.stamp (tx.db.suggestions.find? k) = some (r, h') :=
      readable_eq_some_iff.mpr ⟨hfind, hread⟩
    have hlose : (if suggestionStatusOrdinal row != r.status then
        decide (r.status < suggestionStatusOrdinal row) else hlc.isAfter h') = false := by
      rw [← Bool.not_eq_true, remoteWins_iff]
      exact not_lt.mpr hle
    simp only [mergeSuggestion, hid, hx, ok_bind, resolve, hstored, hlose]
    rfl

/-! ## Embeddings -/

/-- Does the row carry the embedding key `(segment_id, model_id)`? -/
def hasKey (k : String × String) (r : EmbeddingRow) : Bool :=
  r.segmentId == k.1 && r.modelId == k.2

variable {r : EmbeddingRow}

theorem hasKey_iff {k : String × String} :
    hasKey k r = true ↔ (r.segmentId, r.modelId) = k := by
  obtain ⟨s, m⟩ := k
  simp only [hasKey, Bool.and_eq_true, beq_iff_eq, Prod.mk.injEq]

/-- The columns of an embedding: everything but its number. -/
def EmbeddingRow.columns (r : EmbeddingRow) : EmbeddingRow := { r with id := 0 }

/-- The row the merger stores for an incoming embedding, less its number. -/
def embeddingVersion (row : Json) : Except StorageError EmbeddingRow := do
  let segmentId ← jsonStr row "segment_id"
  let modelId ← jsonStr row "model_id"
  let remoteHlc ← extractHlc row
  let params ← embeddingParams row segmentId modelId remoteHlc
  sqlErr "insert embedding" (bindEmbedding params)

theorem bindEmbedding_ok {p : (String → Stamp → EmbeddingRow) × Option String × Hlc}
    (h : bindEmbedding p = .ok r) :
    ∃ stamp text, Stamp.bind p.2.2 = .ok stamp ∧ p.2.1 = some text ∧ r = p.1 text stamp := by
  obtain ⟨stamp, hs, h⟩ := bind_eq_ok_iff.mp h
  obtain ⟨text, ht, hret⟩ := bind_eq_ok_iff.mp h
  cases hret
  cases hp : p.2.1 with
  | none => rw [hp] at ht; nomatch ht
  | some t =>
    rw [hp] at ht
    cases ht
    exact ⟨stamp, text, hs, rfl, rfl⟩

theorem embeddingParams_ok {segmentId modelId : String} {hlc : Hlc}
    {p : (String → Stamp → EmbeddingRow) × Option String × Hlc} (hx : extractHlc row = .ok hlc)
    (hp : embeddingParams row segmentId modelId hlc = .ok p) :
    p.2.2 = hlc ∧ ∀ text stamp, (p.1 text stamp).id = 0 ∧
      (p.1 text stamp).segmentId = segmentId ∧ (p.1 text stamp).modelId = modelId ∧
      (p.1 text stamp).stamp = stamp := by
  have hdev := extractHlc_deviceId hx
  simp only [embeddingParams, bind_eq_ok_iff] at hp
  obtain ⟨_, -, _, -, _, -, d, hd, hret⟩ := hp
  rw [hdev] at hd
  cases hd
  cases hret
  exact ⟨rfl, fun _ _ => ⟨rfl, rfl, rfl, rfl⟩⟩

theorem embeddingVersion_ok {segmentId modelId : String} {hlc : Hlc}
    (hs : jsonStr row "segment_id" = .ok segmentId) (hm : jsonStr row "model_id" = .ok modelId)
    (hx : extractHlc row = .ok hlc) (hr : embeddingVersion row = .ok r) :
    hasKey (segmentId, modelId) r = true ∧ r.stamp.readHlc = some hlc ∧ r.id = 0 := by
  simp only [embeddingVersion, hs, hm, hx, ok_bind, bind_eq_ok_iff] at hr
  obtain ⟨p, hp, hb⟩ := hr
  obtain ⟨rfl, hcols⟩ := embeddingParams_ok hx hp
  obtain ⟨stamp, text, hbind, -, rfl⟩ := bindEmbedding_ok (sqlErr_eq_ok_iff.mp hb)
  obtain ⟨hid, hseg, hmod, hst⟩ := hcols text stamp
  refine ⟨hasKey_iff.mpr (by rw [hseg, hmod]), ?_, hid⟩
  rw [hst]
  exact Stamp.readHlc_of_bind (extractHlc_counter_lt hx) hbind

/-- **What `merge_embedding` does** when it succeeds. -/
theorem mergeEmbedding_ok (h : mergeEmbedding tx row = .ok tx') :
    ∃ segmentId modelId hlc, jsonStr row "segment_id" = .ok segmentId ∧
      jsonStr row "model_id" = .ok modelId ∧ extractHlc row = .ok hlc ∧
      ((readable EmbeddingRow.stamp (tx.db.embeddingAt segmentId modelId) = none ∧
          ∃ r, embeddingVersion row = .ok r ∧
            tx' = ⟨tx.db.insertEmbedding r, tx.result.countApplied⟩) ∨
       (∃ old, readable EmbeddingRow.stamp (tx.db.embeddingAt segmentId modelId) = some old ∧
          old.2 < hlc ∧ ∃ r, embeddingVersion row = .ok r ∧
            tx' = ⟨tx.db.updateEmbedding { r with id := old.1.id }, countUpdate row tx.result⟩) ∨
       (∃ old, readable EmbeddingRow.stamp (tx.db.embeddingAt segmentId modelId) = some old ∧
          hlc ≤ old.2 ∧ tx' = ⟨tx.db, tx.result.countSkippedLww⟩)) := by
  unfold mergeEmbedding at h
  obtain ⟨seg, hs, h⟩ := bind_eq_ok_iff.mp h
  obtain ⟨model, hm, h⟩ := bind_eq_ok_iff.mp h
  obtain ⟨hlc, hx, h⟩ := bind_eq_ok_iff.mp h
  have hversion : ∀ {p r}, embeddingParams row seg model hlc = .ok p → bindEmbedding p = .ok r →
      embeddingVersion row = .ok r := by
    intro p r hp hb
    simp only [embeddingVersion, hs, hm, hx, hp, hb, ok_bind, sqlErr]
  refine ⟨seg, model, hlc, hs, hm, hx, ?_⟩
  rcases resolve_ok h with ⟨hnone, db, hdb, rfl⟩ | ⟨old, hold, hw, db, hdb, rfl⟩ |
      ⟨old, hold, hw, rfl⟩
  · obtain ⟨p, hp, hins⟩ := bind_eq_ok_iff.mp hdb
    obtain ⟨r, hb, hret⟩ := sqlErr_bind_ok hins
    cases hret
    exact .inl ⟨hnone, r, hversion hp hb, rfl⟩
  · obtain ⟨p, hp, hupd⟩ := bind_eq_ok_iff.mp hdb
    obtain ⟨r, hb, hret⟩ := sqlErr_bind_ok hupd
    cases hret
    exact .inr (.inl ⟨old, hold, Hlc.isAfter_iff.mp hw, r, hversion hp hb, rfl⟩)
  · exact .inr (.inr ⟨old, hold, Hlc.isAfter_eq_false_iff.mp hw, rfl⟩)

/-- The version an embedding table holds under a key: its oldest row there. -/
def embeddingRegister (t : SerialTable EmbeddingRow.id) (k : String × String) :
    Option (Hlc × Option EmbeddingRow) :=
  (t.first? (hasKey k)).bind (fun r => r.stamp.readHlc.map (fun h => (h, some r.columns)))

theorem embeddingRegister_of_readable {db : Database} {s m : String} {old : EmbeddingRow × Hlc}
    (h : readable EmbeddingRow.stamp (db.embeddingAt s m) = some old) :
    embeddingRegister db.embeddings (s, m) = some (old.2, some old.1.columns) := by
  have hfirst : db.embeddings.first? (hasKey (s, m)) = some old.1 := (readable_eq_some_iff.mp h).1
  rw [embeddingRegister, hfirst, Option.bind_some, (readable_eq_some_iff.mp h).2, Option.map_some]

/-- The key of an incoming embedding and the version it offers there. -/
def embeddingOffer (row : Json) : Option ((String × String) × Hlc × Option EmbeddingRow) :=
  match jsonStr row "segment_id", jsonStr row "model_id", extractHlc row with
  | .ok s, .ok m, .ok hlc => some ((s, m), hlc, (embeddingVersion row).toOption)
  | _, _, _ => none

/-- The timestamp of the row the merger looks at under `k` can be read. -/
def ReadableAt (db : Database) (k : String × String) : Prop :=
  ∀ r, db.embeddings.first? (hasKey k) = some r → ∃ h, r.stamp.readHlc = some h

/-- Under a readable key, a failed typed read means that there is no row. -/
theorem first?_eq_none_of_readableAt {db : Database} {s m : String} (hinv : ReadableAt db (s, m))
    (h : readable EmbeddingRow.stamp (db.embeddingAt s m) = none) :
    db.embeddings.first? (hasKey (s, m)) = none := by
  cases hat : db.embeddings.first? (hasKey (s, m)) with
  | none => rfl
  | some r =>
    obtain ⟨hlc, hr⟩ := hinv r hat
    have hat' : db.embeddingAt s m = some r := hat
    rw [hat', readable, Option.bind_some, hr] at h
    nomatch h

/-- Two embedding keys are not on one row. -/
theorem hasKey_eq_false {k k' : String × String} (hne : k ≠ k') (h : hasKey k' r = true) :
    hasKey k r = false := by
  rw [← Bool.not_eq_true]
  intro hk
  exact hne ((hasKey_iff.mp hk).symm.trans (hasKey_iff.mp h))

theorem first?_insertEmbedding {db : Database} {k : String × String} :
    (db.insertEmbedding r).embeddings.first? (hasKey k)
      = (db.embeddings.first? (hasKey k)).or
          (if hasKey k r then some { r with id := db.embeddings.seq + 1 } else none) := by
  have hnew : hasKey k { r with id := db.embeddings.seq + 1 } = hasKey k r := rfl
  show List.find? _ (db.embeddings.rows ++ [_]) = _
  rw [List.find?_append]
  congr 1
  cases hk : hasKey k r with
  | true => exact List.find?_cons_of_pos (hnew.trans hk)
  | false => exact List.find?_cons_of_neg (by rw [hnew, hk]; exact Bool.false_ne_true)

/-- What a merge leaves under each key: the row's own version or the old row at its key, and the
    old row at every other key. -/
theorem mergeEmbedding_first? {segmentId modelId : String} {hlc : Hlc}
    (hs : jsonStr row "segment_id" = .ok segmentId) (hm : jsonStr row "model_id" = .ok modelId)
    (hx : extractHlc row = .ok hlc) (hinv : ReadableAt tx.db (segmentId, modelId))
    (h : mergeEmbedding tx row = .ok tx') :
    (∀ k, k ≠ (segmentId, modelId) →
      tx'.db.embeddings.first? (hasKey k) = tx.db.embeddings.first? (hasKey k)) ∧
    ((∃ r n, embeddingVersion row = .ok r ∧
        (∀ w, embeddingRegister tx.db.embeddings (segmentId, modelId) = some w → w.1 < hlc) ∧
        tx'.db.embeddings.first? (hasKey (segmentId, modelId)) = some { r with id := n }) ∨
     (Covers (embeddingRegister tx.db.embeddings (segmentId, modelId)) hlc ∧ tx'.db = tx.db)) := by
  obtain ⟨s', m', h', hs', hm', hx', hcases⟩ := mergeEmbedding_ok h
  rw [hs] at hs'
  rw [hm] at hm'
  rw [hx] at hx'
  cases hs'
  cases hm'
  cases hx'
  rcases hcases with ⟨hnone, r, hr, rfl⟩ | ⟨old, hold, hlt, r, hr, rfl⟩ | ⟨old, hold, hle, rfl⟩
  · obtain ⟨hkey, -, -⟩ := embeddingVersion_ok hs hm hx hr
    have hfree := first?_eq_none_of_readableAt hinv hnone
    constructor
    · intro k hk
      rw [first?_insertEmbedding, hasKey_eq_false hk hkey]
      simp
    · refine .inl ⟨r, tx.db.embeddings.seq + 1, hr, ?_, ?_⟩
      · intro w hw
        rw [embeddingRegister, hfree] at hw
        nomatch hw
      · rw [first?_insertEmbedding, hfree, hkey]
        rfl
  · obtain ⟨hkey, -, -⟩ := embeddingVersion_ok hs hm hx hr
    have hfirst : tx.db.embeddings.first? (hasKey (segmentId, modelId)) = some old.1 :=
      (readable_eq_some_iff.mp hold).1
    have hkeyOld : hasKey (segmentId, modelId) old.1 = true := List.find?_some hfirst
    have hnum : EmbeddingRow.id { r with id := old.1.id } = EmbeddingRow.id old.1 := rfl
    constructor
    · -- neither the old nor the new row carries another key
      intro k hk
      exact SerialTable.first?_update_of_not (List.mem_of_find?_eq_some hfirst) hnum
        (hasKey_eq_false hk hkeyOld) (hasKey_eq_false hk hkey)
    · refine .inl ⟨r, old.1.id, hr, ?_, SerialTable.first?_update_of_first hfirst hnum hkey⟩
      intro w hw
      rw [embeddingRegister_of_readable hold] at hw
      cases hw
      exact hlt
  · refine ⟨fun _ _ => rfl, .inr ⟨?_, rfl⟩⟩
    exact ⟨_, embeddingRegister_of_readable hold, hle⟩

/-- **Merging an embedding is an offer** to the register of its key, as long as the timestamp
    stored under that key can be read. -/
theorem mergeEmbedding_offers (hinv : ∀ k v, embeddingOffer row = some (k, v) → ReadableAt tx.db k)
    (h : mergeEmbedding tx row = .ok tx') :
    ∃ k v, embeddingOffer row = some (k, v) ∧
      embeddingRegister tx'.db.embeddings = Function.update (embeddingRegister tx.db.embeddings) k
        (accept (embeddingRegister tx.db.embeddings k) v) := by
  obtain ⟨seg, model, hlc, hs, hm, hx, -⟩ := mergeEmbedding_ok h
  have ho : embeddingOffer row = some ((seg, model), hlc, (embeddingVersion row).toOption) := by
    simp only [embeddingOffer, hs, hm, hx]
  refine ⟨(seg, model), (hlc, (embeddingVersion row).toOption), ho, ?_⟩
  obtain ⟨hother, hthis⟩ := mergeEmbedding_first? hs hm hx (hinv _ _ ho) h
  rcases hthis with ⟨r, n, hr, hbeat, hfirst⟩ | ⟨hcov, hdb⟩
  · obtain ⟨-, hread, hid⟩ := embeddingVersion_ok hs hm hx hr
    funext k
    by_cases hk : k = (seg, model)
    · subst hk
      have hacc : accept (embeddingRegister tx.db.embeddings (seg, model)) (hlc, some r)
          = some (hlc, some r) := by
        cases hcur : embeddingRegister tx.db.embeddings (seg, model) with
        | none => rfl
        | some w => exact accept_of_lt (hbeat w hcur)
      have hcols : EmbeddingRow.columns { r with id := n } = r := by
        show { r with id := 0 } = r
        rw [← hid]
      rw [Function.update_self, hr, embeddingRegister, hfirst, Option.bind_some]
      show (r.stamp.readHlc).map _ = _
      rw [hread, Option.map_some, hcols]
      exact hacc.symm
    · rw [Function.update_of_ne hk, embeddingRegister, hother k hk, embeddingRegister]
  · rw [hdb, accept_of_covers hcov, Function.update_eq_self]

/-- A merged embedding leaves a readable timestamp at every key. -/
theorem mergeEmbedding_readableAt {k : String × String}
    (hinv : ∀ k v, embeddingOffer row = some (k, v) → ReadableAt tx.db k) (hk : ReadableAt tx.db k)
    (h : mergeEmbedding tx row = .ok tx') : ReadableAt tx'.db k := by
  obtain ⟨seg, model, hlc, hs, hm, hx, -⟩ := mergeEmbedding_ok h
  have ho : embeddingOffer row = some ((seg, model), hlc, (embeddingVersion row).toOption) := by
    simp only [embeddingOffer, hs, hm, hx]
  obtain ⟨hother, hthis⟩ := mergeEmbedding_first? hs hm hx (hinv _ _ ho) h
  rcases hthis with ⟨r, n, hr, -, hfirst⟩ | ⟨-, hdb⟩
  · obtain ⟨-, hread, -⟩ := embeddingVersion_ok hs hm hx hr
    intro x hxf
    by_cases heq : k = (seg, model)
    · subst heq
      rw [hfirst] at hxf
      cases hxf
      exact ⟨hlc, hread⟩
    · rw [hother k heq] at hxf
      exact hk x hxf
  · rw [hdb]
    exact hk

/-- The embeddings of a transaction under the keys `K`, as a bank of registers. -/
def embeddingBank (K : Set (String × String)) :
    RegisterBank Tx Json (String × String) Hlc (Option EmbeddingRow) StorageError where
  register := fun tx => embeddingRegister tx.db.embeddings
  offer := embeddingOffer
  step := mergeEmbedding
  inv := fun tx => ∀ k ∈ K, ReadableAt tx.db k
  fits := fun row => ∀ k v, embeddingOffer row = some (k, v) → k ∈ K
  step_inv := fun hfit hinv h k hk =>
    mergeEmbedding_readableAt (fun k v ho => hinv k (hfit k v ho)) (hinv k hk) h
  step_offers := fun hfit hinv h => mergeEmbedding_offers (fun k v ho => hinv k (hfit k v ho)) h

/-- An embedding whose version is already covered is skipped. -/
theorem mergeEmbedding_of_covers {tx : Tx} {k : String × String} {v : Hlc × Option EmbeddingRow}
    (ho : embeddingOffer row = some (k, v)) (hc : Covers (embeddingRegister tx.db.embeddings k) v.1) :
    mergeEmbedding tx row = .ok ⟨tx.db, tx.result.countSkippedLww⟩ := by
  unfold embeddingOffer at ho
  split at ho
  case h_2 => nomatch ho
  case h_1 seg model hlc hs hm hx =>
    cases ho
    obtain ⟨w, hw, hle⟩ := hc
    obtain ⟨r, hfind, hrank⟩ := Option.bind_eq_some_iff.mp hw
    obtain ⟨h', hread, rfl⟩ := Option.map_eq_some_iff.mp hrank
    have hstored : readable EmbeddingRow.stamp (tx.db.embeddingAt seg model) = some (r, h') :=
      readable_eq_some_iff.mpr ⟨hfind, hread⟩
    have hlose : hlc.isAfter h' = false := Hlc.isAfter_eq_false_iff.mpr hle
    simp only [mergeEmbedding, hs, hm, hx, ok_bind, resolve, hstored, hlose]
    rfl

end Oneshim
