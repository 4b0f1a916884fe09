/-
  Composite pulls: several changesets answered as ONE.

  Two implementations fold what they hold into a single changeset:

  * `decode_pull_response` (`lan_transport/operations.rs`): the peer sends the list, and the client
    appends the rows of all of them to the FIRST, whose kind and origin it keeps;
  * `handle_pull` (`reference_server.rs`): the server appends them to a fresh data changeset of its
    own origin, `reference-server`.

  The rows survive the fold, table by table and in order.  What does not survive is what belongs to
  one changeset alone: its KIND (a deletion event turns into an empty data changeset, or makes a
  deletion event of all that follow), its ORIGIN (own changesets are skipped by the merger, others
  merged), and its TRANSACTION (one row that cannot be stored refuses the rows of all of them).
  `composite_pull_sequential` says that this is all.
-/
import Oneshim.Storage.Convergence
import Oneshim.Storage.Deletion
import Oneshim.Storage.Locality

namespace Oneshim

open Lib

/-! ## The two folds -/

namespace ChangeSet

/-- The rows of `other` behind those of `self`, table by table (`Vec::extend`). -/
def extendRows (self other : ChangeSet) : ChangeSet :=
  { self with
    segments := self.segments ++ other.segments
    regimes := self.regimes ++ other.regimes
    overrides := self.overrides ++ other.overrides
    embeddings := self.embeddings ++ other.embeddings
    suggestions := self.suggestions ++ other.suggestions
    paramSnapshots := self.paramSnapshots ++ other.paramSnapshots
    preferences := self.preferences ++ other.preferences }

/-- The watermark is after `since` in wall clock and counter. -/
def newerThan (since : Hlc) (cs : ChangeSet) : Bool :=
  decide (since.wallMs < cs.watermark.wallMs) ||
    (cs.watermark.wallMs == since.wallMs && decide (since.counter < cs.watermark.counter))

end ChangeSet

/-- `handle_pull` of a LAN peer: the outbound changesets after `since`. -/
def servedByPeer (outbound : List ChangeSet) (since : Hlc) : List ChangeSet :=
  outbound.filter (ChangeSet.newerThan since)

/-- One round of the loop of `decode_pull_response`. -/
def absorb (merged cs : ChangeSet) : ChangeSet :=
  let extended := merged.extendRows cs
  -- keep the latest watermark
  if cs.newerThan merged.watermark then { extended with watermark := cs.watermark } else extended

/-- `decode_pull_response`: merge all pulled changesets into the first. -/
def decodePullResponse : List ChangeSet → Option ChangeSet
  | [] => none
  | merged :: rest => some (rest.foldl absorb merged)

/-- `pull_from_peer`, over a session that works. -/
def pullFromPeer (outbound : List ChangeSet) (since : Hlc) : Option ChangeSet :=
  decodePullResponse (servedByPeer outbound since)

/-- The changesets of one device in the store of the reference server. -/
structure StoreEntry where
  deviceId : String
  changesets : List ChangeSet
  /-- The store is keyed by the origin of the changeset. -/
  origin : ∀ cs ∈ changesets, cs.originDeviceId = deviceId

/-- The store of the reference server; its rows stand in the order in which the map is iterated. -/
abbrev ReferenceStore := Table StoreEntry.deviceId

/-- `handle_push`: store the changeset under its origin. -/
def handlePush (changeset : ChangeSet) (store : ReferenceStore) : ReferenceStore :=
  match h : store.find? changeset.originDeviceId with
  | none => store.upsert
      { deviceId := changeset.originDeviceId
        changesets := [changeset]
        origin := fun cs hcs => by rw [List.mem_singleton.mp hcs] }
  | some entry => store.upsert
      { deviceId := entry.deviceId
        changesets := entry.changesets ++ [changeset]
        origin := by
          intro cs hcs
          rcases List.mem_append.mp hcs with hknown | hnew
          · exact entry.origin cs hknown
          · rw [List.mem_singleton.mp hnew, (Table.find?_eq_some_iff.mp h).2] }

namespace ReferenceServer

/-- The answer a pull starts from. -/
def emptyAnswer (since : Hlc) : ChangeSet :=
  { originDeviceId := "reference-server", originDeviceName := "Reference Sync Server",
    watermark := { since with deviceId := "reference-server" } }

/-- Merge the rows of a newer changeset into the answer. -/
def mergeRows (merged cs : ChangeSet) : ChangeSet :=
  let extended := merged.extendRows cs
  -- track the highest watermark
  if merged.watermark < cs.watermark then { extended with watermark := cs.watermark } else extended

/-- The body of the inner loop: the answer, and whether a newer changeset was found. -/
def mergeNewer (since : Hlc) (acc : ChangeSet × Bool) (cs : ChangeSet) : ChangeSet × Bool :=
  if cs.newerThan since then (mergeRows acc.1 cs, true) else acc

/-- `handle_pull`: the loop over devices and changesets. -/
def handlePull (requestingDevice : String) (since : Hlc) (store : ReferenceStore) :
    Option ChangeSet :=
  let (merged, foundNewer) := store.rows.foldl (fun acc entry =>
      -- skip the requesting device's own changesets
      if entry.deviceId = requestingDevice then acc
      else entry.changesets.foldl (mergeNewer since) acc) (emptyAnswer since, false)
  if foundNewer then some merged else none

/-- The changesets `handle_pull` merges, in its order. -/
def served (requestingDevice : String) (since : Hlc) (store : ReferenceStore) : List ChangeSet :=
  ((store.rows.filter (fun e => !decide (e.deviceId = requestingDevice))).flatMap
    StoreEntry.changesets).filter (ChangeSet.newerThan since)

theorem foldl_mergeNewer (since : Hlc) (css : List ChangeSet) (acc : ChangeSet × Bool) :
    css.foldl (mergeNewer since) acc =
      ((css.filter (ChangeSet.newerThan since)).foldl mergeRows acc.1,
        acc.2 || !(css.filter (ChangeSet.newerThan since)).isEmpty) := by
  induction css generalizing acc with
  | nil => simp
  | cons cs css ih =>
    rw [List.foldl_cons, ih, mergeNewer, List.filter_cons]
    split
    · simp
    · rfl

/-- The nested loop goes through `served`. -/
theorem handlePull_eq (requestingDevice : String) (since : Hlc) (store : ReferenceStore) :
    handlePull requestingDevice since store =
      if (served requestingDevice since store).isEmpty then none
      else some ((served requestingDevice since store).foldl mergeRows (emptyAnswer since)) := by
  have hloop : store.rows.foldl (fun acc entry =>
      if entry.deviceId = requestingDevice then acc
      else entry.changesets.foldl (mergeNewer since) acc) (emptyAnswer since, false)
      = ((store.rows.filter (fun e => !decide (e.deviceId = requestingDevice))).flatMap
          StoreEntry.changesets).foldl (mergeNewer since) (emptyAnswer since, false) := by
    rw [List.foldl_flatMap, List.foldl_filter]
    congr 1
    funext acc entry
    by_cases hown : entry.deviceId = requestingDevice
    · simp [hown]
    · simp [hown]
  rw [handlePull, hloop, foldl_mergeNewer]
  show (if (false || !(served requestingDevice since store).isEmpty) = true then _ else _) = _
  cases (served requestingDevice since store).isEmpty with
  | true => rfl
  | false => rfl

end ReferenceServer

/-! ## What survives the fold -/

/-- The changeset carries the rows of the listed ones, table by table and in their order, under
    the watermark of one of them. -/
structure CarriesRows (composite : ChangeSet) (css : List ChangeSet) : Prop where
  segments : composite.segments = css.flatMap ChangeSet.segments
  overrides : composite.overrides = css.flatMap ChangeSet.overrides
  paramSnapshots : composite.paramSnapshots = css.flatMap ChangeSet.paramSnapshots
  regimes : composite.regimes = css.flatMap ChangeSet.regimes
  embeddings : composite.embeddings = css.flatMap ChangeSet.embeddings
  suggestions : composite.suggestions = css.flatMap ChangeSet.suggestions
  watermark : ∃ cs ∈ css, composite.watermark = cs.watermark

theorem carriesRows_single (cs : ChangeSet) : CarriesRows cs [cs] where
  segments := (List.append_nil _).symm
  overrides := (List.append_nil _).symm
  paramSnapshots := (List.append_nil _).symm
  regimes := (List.append_nil _).symm
  embeddings := (List.append_nil _).symm
  suggestions := (List.append_nil _).symm
  watermark := ⟨cs, List.mem_singleton_self cs, rfl⟩

theorem CarriesRows.swap {a b : ChangeSet} (h : CarriesRows a [b]) : CarriesRows b [a] where
  segments := by rw [List.flatMap_singleton, h.segments, List.flatMap_singleton]
  overrides := by rw [List.flatMap_singleton, h.overrides, List.flatMap_singleton]
  paramSnapshots := by rw [List.flatMap_singleton, h.paramSnapshots, List.flatMap_singleton]
  regimes := by rw [List.flatMap_singleton, h.regimes, List.flatMap_singleton]
  embeddings := by rw [List.flatMap_singleton, h.embeddings, List.flatMap_singleton]
  suggestions := by rw [List.flatMap_singleton, h.suggestions, List.flatMap_singleton]
  watermark := by
    obtain ⟨c, hc, hw⟩ := h.watermark
    rw [List.mem_singleton.mp hc] at hw
    exact ⟨a, List.mem_singleton_self a, hw.symm⟩

/-- The step appends rows and picks one of the two watermarks. -/
def Extends (step : ChangeSet → ChangeSet → ChangeSet) : Prop :=
  ∀ merged cs, ∃ w, (w = merged.watermark ∨ w = cs.watermark) ∧
    step merged cs = { merged.extendRows cs with watermark := w }

theorem absorb_extends : Extends absorb := by
  intro merged cs
  unfold absorb
  split
  · exact ⟨cs.watermark, .inr rfl, rfl⟩
  · exact ⟨merged.watermark, .inl rfl, rfl⟩

theorem mergeRows_extends : Extends ReferenceServer.mergeRows := by
  intro merged cs
  unfold ReferenceServer.mergeRows
  split
  · exact ⟨cs.watermark, .inr rfl, rfl⟩
  · exact ⟨merged.watermark, .inl rfl, rfl⟩

theorem CarriesRows.extend {step : ChangeSet → ChangeSet → ChangeSet} (hstep : Extends step)
    {merged : ChangeSet} {seen : List ChangeSet} (h : CarriesRows merged seen) (cs : ChangeSet) :
    CarriesRows (step merged cs) (seen ++ [cs]) := by
  obtain ⟨w, hw, heq⟩ := hstep merged cs
  rw [heq]
  constructor
  all_goals simp only [ChangeSet.extendRows, List.flatMap_append, List.flatMap_singleton,
    h.segments, h.overrides, h.paramSnapshots, h.regimes, h.embeddings, h.suggestions]
  rcases hw with rfl | rfl
  · obtain ⟨c, hc, hcw⟩ := h.watermark
    exact ⟨c, List.mem_append_left _ hc, hcw⟩
  · exact ⟨cs, List.mem_append_right _ (List.mem_singleton_self cs), rfl⟩

/-- **The rows survive the fold**; kind and origin are those the fold starts from. -/
theorem foldl_extends {step : ChangeSet → ChangeSet → ChangeSet} (hstep : Extends step)
    (css : List ChangeSet) {merged : ChangeSet} {seen : List ChangeSet}
    (h : CarriesRows merged seen) :
    CarriesRows (css.foldl step merged) (seen ++ css) ∧
      (css.foldl step merged).kind = merged.kind ∧
      (css.foldl step merged).originDeviceId = merged.originDeviceId := by
  induction css generalizing merged seen with
  | nil =>
    rw [List.append_nil]
    exact ⟨h, rfl, rfl⟩
  | cons cs css ih =>
    obtain ⟨hrows, hkind, horigin⟩ := ih (h.extend hstep cs)
    obtain ⟨w, -, heq⟩ := hstep merged cs
    rw [List.append_assoc] at hrows
    refine ⟨hrows, hkind.trans ?_, horigin.trans ?_⟩
    · rw [heq]
      rfl
    · rw [heq]
      rfl

/-! ## One transaction for all the rows -/

/-- The two databases hold the same synced tables. -/
structure SameTables (a b : Database) : Prop where
  segments : a.segments = b.segments
  regimes : a.regimes = b.regimes
  overrides : a.overrides = b.overrides
  embeddings : a.embeddings = b.embeddings
  suggestions : a.suggestions = b.suggestions
  paramSnapshots : a.paramSnapshots = b.paramSnapshots

theorem SameTables.refl (db : Database) : SameTables db db := ⟨rfl, rfl, rfl, rfl, rfl, rfl⟩

/-- The own changesets in the list are skipped by the merger; the fold does not notice when they
    bring nothing. -/
def OwnAreEmpty (me : String) (css : List ChangeSet) : Prop :=
  ∀ cs ∈ css, cs.originDeviceId = me → cs.isEmpty = true ∧ cs.watermark.wallMs < 2 ^ 63

section Sequence

variable {me : String} {db db' : Database} {css : List ChangeSet}
  (hdata : ∀ cs ∈ css, cs.kind = .data) (hown : OwnAreEmpty me css)

include hdata in
/-- A step of an accepted sequence skips an own changeset or merges another's. -/
theorem sequence_step {d d' : Database} {cs : ChangeSet} (hcs : cs ∈ css)
    (hstep : (match applyChanges me cs d with
      | (.ok _, d') => Except.ok d'
      | (.error e, _) => .error e) = (.ok d' : Except CoreError Database)) :
    (cs.originDeviceId = me ∧ d' = d) ∨
      (cs.originDeviceId ≠ me ∧ ∃ tx, Nonempty (MergeRun d cs tx) ∧ d' = tx.db) := by
  obtain ⟨r, hr⟩ := applyStep_ok hstep
  rcases applyChanges_data_ok (hdata cs hcs) hr with ⟨hme, -, hd⟩ | ⟨hne, tx, htx, -, hd⟩
  · exact .inl ⟨hme, hd⟩
  · exact .inr ⟨hne, tx, mergeAll_ok htx, hd⟩

include hdata hown

/-- The rows of one table, merged in one go, leave the table as the sequence does. -/
theorem table_of_sequence {α : Type} {T : Database → α} {rowsOf : ChangeSet → List Json}
    {merge : Tx → Json → Except StorageError Tx}
    (hrepeat : ∀ {d : Database} {cs : ChangeSet} {tx t : Tx}, MergeRun d cs tx → T d = T t.db →
      ∃ t', (rowsOf cs).foldlM merge t = .ok t' ∧ T tx.db = T t'.db)
    (hempty : ∀ cs : ChangeSet, cs.isEmpty = true → rowsOf cs = [])
    (happly : applyAll me db css = .ok db') {t : Tx} (hT : T db = T t.db) :
    ∃ t', (css.flatMap rowsOf).foldlM merge t = .ok t' ∧ T db' = T t'.db := by
  rw [foldlM_flatMap]
  refine foldlM_simulates (R := fun (d : Database) (t : Tx) => T d = T t.db) (Q := fun _ => True)
    (fun _ _ _ _ _ _ => trivial) (fun d t cs d' hcs hR hstep _ => ?_) hT happly trivial
  rcases sequence_step hdata hcs hstep with ⟨hme, rfl⟩ | ⟨-, tx, ⟨run⟩, rfl⟩
  · refine ⟨t, ?_, hR⟩
    rw [hempty cs (hown cs hcs hme).1]
    rfl
  · exact hrepeat run hR

/-- The regimes, where the snapshots of the whole sequence are already there. -/
theorem regimes_of_sequence (happly : applyAll me db css = .ok db') {t : Tx}
    (hT : db.regimes = t.db.regimes) (hfk : db.foreignKeys = t.db.foreignKeys)
    (hsnap : db'.paramSnapshots = t.db.paramSnapshots) :
    ∃ t', (css.flatMap ChangeSet.regimes).foldlM mergeRegime t = .ok t' ∧
      db'.regimes = t'.db.regimes := by
  have hlast : ∀ k, db'.hasParamSnapshot k = true → db'.hasParamSnapshot k = true := fun _ h => h
  rw [foldlM_flatMap]
  -- `Q`: no database of the sequence holds a snapshot that the last one does not
  have hsim := foldlM_simulates
    (R := fun (d : Database) (u : Tx) => d.regimes = u.db.regimes ∧
      d.foreignKeys = u.db.foreignKeys ∧ u.db.hasParamSnapshot = t.db.hasParamSnapshot)
    (Q := fun d : Database => ∀ k, d.hasParamSnapshot k = true → db'.hasParamSnapshot k = true)
    (g := fun (u : Tx) (cs : ChangeSet) => cs.regimes.foldlM mergeRegime u)
    (fun d cs d' hcs hstep hQ k hk => ?_) (fun d u cs d' hcs hR hstep hQ => ?_)
    ⟨hT, hfk, rfl⟩ happly hlast
  · obtain ⟨t', ht', hregimes, -⟩ := hsim
    exact ⟨t', ht', hregimes⟩
  · rcases sequence_step hdata hcs hstep with ⟨-, rfl⟩ | ⟨-, tx, ⟨run⟩, rfl⟩
    · exact hQ k hk
    · exact hQ k (run.hasParamSnapshot_of_before hk)
  · rcases sequence_step hdata hcs hstep with ⟨hme, rfl⟩ | ⟨-, tx, ⟨run⟩, rfl⟩
    · refine ⟨u, ?_, hR⟩
      have hempty := (hown cs hcs hme).1
      rw [List.isEmpty_iff.mp (by simp_all [ChangeSet.isEmpty] : cs.regimes.isEmpty = true)]
      rfl
    · have hready : ∀ k, tx.db.hasParamSnapshot k = true → u.db.hasParamSnapshot k = true := by
        intro k hk
        have hk' : (db'.paramSnapshots.find? k).isSome = true := hQ k hk
        rw [hR.2.2]
        show (t.db.paramSnapshots.find? k).isSome = true
        rwa [← hsnap]
      obtain ⟨u', hu', hregimes, hfk', hsnap'⟩ := run.regimes_repeat hR.1 hR.2.1 hready
      refine ⟨u', hu', hregimes, ?_, hsnap'.trans hR.2.2⟩
      rw [hfk', ← hR.2.1, run.db_eq]

/-- Every watermark of an accepted sequence can be bound. -/
theorem watermark_of_sequence (happly : applyAll me db css = .ok db') :
    ∀ cs ∈ css, cs.watermark.wallMs < 2 ^ 63 := by
  intro cs hcs
  by_cases hme : cs.originDeviceId = me
  · exact (hown cs hcs hme).2
  · obtain ⟨d, d', hstep⟩ := foldlM_mem_ok happly cs hcs
    rcases sequence_step hdata hcs hstep with ⟨hme', -⟩ | ⟨-, tx, ⟨run⟩, -⟩
    · exact absurd hme' hme
    · obtain ⟨wall, hwall, -⟩ := sqlErr_bind_ok run.peers_run
      unfold bindU64 at hwall
      split at hwall
      · assumption
      · nomatch hwall

/-- **One transaction for all the rows**: where the sequence is accepted, so is a data changeset
    that carries its rows, and it leaves the same tables. -/
theorem mergeAll_composite {composite : ChangeSet} (hrows : CarriesRows composite css)
    (happly : applyAll me db css = .ok db') :
    ∃ tx, mergeAll db composite = .ok tx ∧ SameTables tx.db db' := by
  have hempty : ∀ {cs : ChangeSet}, cs.isEmpty = true →
      cs.segments = [] ∧ cs.overrides = [] ∧ cs.paramSnapshots = [] ∧ cs.embeddings = [] ∧
        cs.suggestions = [] := by
    intro cs h
    simp only [ChangeSet.isEmpty, Bool.and_eq_true, List.isEmpty_iff] at h
    tauto
  -- table after table, each run on what the one before left
  obtain ⟨t₁, h₁, e₁⟩ := table_of_sequence hdata hown (T := Database.segments)
    (fun run => run.segments_repeat) (fun _ h => (hempty h).1) happly (t := ⟨db, {}⟩) rfl
  have d₁ := runSegments_db h₁
  obtain ⟨t₂, h₂, e₂⟩ := table_of_sequence hdata hown (T := Database.overrides)
    (fun run => run.overrides_repeat) (fun _ h => (hempty h).2.1) happly (t := t₁) (by rw [d₁])
  have d₂ := runOverrides_db h₂
  obtain ⟨t₃, h₃, e₃⟩ := table_of_sequence hdata hown (T := Database.paramSnapshots)
    (fun run => run.paramSnapshots_repeat) (fun _ h => (hempty h).2.2.1) happly (t := t₂)
    (by rw [d₂, d₁])
  have d₃ := runParamSnapshots_db h₃
  obtain ⟨t₄, h₄, e₄⟩ := regimes_of_sequence hdata hown happly (t := t₃) (by rw [d₃, d₂, d₁])
    (by rw [d₃, d₂, d₁]) e₃
  have d₄ := runRegimes_db h₄
  obtain ⟨t₅, h₅, e₅⟩ := table_of_sequence hdata hown (T := Database.embeddings)
    (fun run => run.embeddings_repeat) (fun _ h => (hempty h).2.2.2.1) happly (t := t₄)
    (by rw [d₄, d₃, d₂, d₁])
  have d₅ := runEmbeddings_db h₅
  obtain ⟨t₆, h₆, e₆⟩ := table_of_sequence hdata hown (T := Database.suggestions)
    (fun run => run.suggestions_repeat) (fun _ h => (hempty h).2.2.2.2) happly (t := t₅)
    (by rw [d₅, d₄, d₃, d₂, d₁])
  obtain ⟨cs, hcs, hwm⟩ := hrows.watermark
  have hwall : composite.watermark.wallMs < 2 ^ 63 := by
    rw [hwm]
    exact watermark_of_sequence hdata hown happly cs hcs
  obtain ⟨tx, hpeers⟩ : ∃ tx, updateSyncPeers t₆ composite = .ok tx := by
    simp only [updateSyncPeers, bindU64, if_pos hwall, ok_bind]
    exact ⟨_, rfl⟩
  let run : MergeRun db composite tx :=
    { afterSegments := t₁, afterOverrides := t₂, afterParamSnapshots := t₃, afterRegimes := t₄,
      afterEmbeddings := t₅, afterSuggestions := t₆,
      segments_run := by rw [hrows.segments]; exact h₁
      overrides_run := by rw [hrows.overrides]; exact h₂
      paramSnapshots_run := by rw [hrows.paramSnapshots]; exact h₃
      regimes_run := by rw [hrows.regimes]; exact h₄
      embeddings_run := by rw [hrows.embeddings]; exact h₅
      suggestions_run := by rw [hrows.suggestions]; exact h₆
      peers_run := hpeers }
  exact ⟨tx, run.mergeAll_eq, run.segments_eq.trans e₁.symm, run.regimes_eq.trans e₄.symm,
    run.overrides_eq.trans e₂.symm, run.embeddings_eq.trans e₅.symm,
    run.suggestions_eq.trans e₆.symm, run.paramSnapshots_eq.trans e₃.symm⟩

end Sequence

/-! ## When a composite pull equals the sequence -/

/-- Apply what a pull returned. -/
def applyPulled (me : String) (pulled : Option ChangeSet) (db : Database) : Database :=
  match pulled with
  | none => db
  | some cs => (applyChanges me cs db).2

/-- A data changeset that cannot change a synced table: an own one, or one without rows. -/
def Idle (me : String) (cs : ChangeSet) : Prop :=
  cs.kind = .data ∧ (cs.originDeviceId = me ∨ cs.isEmpty = true)

/-- Each changeset is accepted in its turn. -/
def AcceptedInTurn (me : String) (db : Database) (css : List ChangeSet) : Prop :=
  ∃ db', applyAll me db css = .ok db'

/-- The fold of `decode_pull_response` loses nothing: at most one changeset is served; or the first
    one decides what happens and those behind it would do nothing else; or all carry data of others
    and are accepted. -/
def PeerComposable (me : String) (db : Database) : List ChangeSet → Prop
  | [] => True
  | [_] => True
  | first :: rest =>
    match first.kind with
    | .deletionEvent => ∀ cs ∈ rest, Idle me cs ∨
        (cs.kind = .deletionEvent ∧ cs.originDeviceId = first.originDeviceId)
    | .data =>
      if first.originDeviceId = me then ∀ cs ∈ rest, Idle me cs
      else (∀ cs ∈ rest, cs.kind = .data) ∧ OwnAreEmpty me rest ∧
        AcceptedInTurn me db (first :: rest)

/-- The fold of the reference server loses nothing: all the served changesets carry data, and they
    are accepted; or there is only one. -/
def ServerComposable (me : String) (db : Database) (css : List ChangeSet) : Prop :=
  css = [] ∨ (me ≠ "reference-server" ∧ (∀ cs ∈ css, cs.kind = .data) ∧
    (css.length = 1 ∨ AcceptedInTurn me db css))

variable {me : String}

/-- A run in which nothing is rejected is the run that goes on after rejections. -/
theorem deliverAll_of_applyAll {css : List ChangeSet} {db db' : Database}
    (h : applyAll me db css = .ok db') : deliverAll me db css = db' := by
  have hP := foldlM_induction
    (P := fun seen d => deliverAll me db seen = d)
    (fun seen cs d d' _ hP hstep => ?_) [] rfl h
  · exact hP
  · obtain ⟨r, hr⟩ := applyStep_ok hstep
    have hcons : deliverAll me db (seen ++ [cs]) = (applyChanges me cs (deliverAll me db seen)).2 := by
      simp only [deliverAll, List.foldl_append, List.foldl_cons, List.foldl_nil]
    rw [hcons, hP, hr]

/-- An idle changeset touches the peer table at most. -/
theorem applyChanges_idle {cs : ChangeSet} (h : Idle me cs) (db : Database) :
    (applyChanges me cs db).2
      = { db with syncPeers := (applyChanges me cs db).2.syncPeers } := by
  obtain ⟨hkind, hown | hempty⟩ := h
  · rw [applyChanges_self hkind hown]
  · by_cases hown : cs.originDeviceId = me
    · rw [applyChanges_self hkind hown]
    · have hmerge : mergeAll db cs = updateSyncPeers ⟨db, {}⟩ cs := by
        simp only [ChangeSet.isEmpty, Bool.and_eq_true, List.isEmpty_iff] at hempty
        obtain ⟨⟨⟨⟨⟨⟨hs, hr⟩, ho⟩, he⟩, hg⟩, hp⟩, -⟩ := hempty
        simp only [mergeAll, hs, hr, ho, he, hg, hp, List.foldlM_nil, pure_bind]
      cases hm : mergeAll db cs with
      | error e => rw [applyChanges_rejected hkind hown hm]
      | ok tx =>
        rw [applyChanges_merged hkind hown hm]
        exact (updateSyncPeers_ok (hmerge.symm.trans hm)).2

/-- Changesets each of which keeps a database in all but the peer table keep it together. -/
theorem deliverAll_keeps {css : List ChangeSet} {base : Database}
    (hkeeps : ∀ cs ∈ css, ∀ d : Database, d = { base with syncPeers := d.syncPeers } →
      (applyChanges me cs d).2 = { base with syncPeers := (applyChanges me cs d).2.syncPeers })
    {d : Database} (hd : d = { base with syncPeers := d.syncPeers }) :
    SameTables base (deliverAll me d css) := by
  induction css generalizing d with
  | nil =>
    rw [deliverAll, List.foldl_nil, hd]
    exact ⟨rfl, rfl, rfl, rfl, rfl, rfl⟩
  | cons cs css ih =>
    exact ih (fun c hc => hkeeps c (List.mem_cons_of_mem _ hc)) (hkeeps cs List.mem_cons_self d hd)

/-- An idle changeset keeps what differs in the peer table only. -/
theorem idle_keeps {cs : ChangeSet} (h : Idle me cs) {base d : Database}
    (hd : d = { base with syncPeers := d.syncPeers }) :
    (applyChanges me cs d).2
      = { base with syncPeers := (applyChanges me cs d).2.syncPeers } := by
  have hidle := applyChanges_idle h d
  rw [hd] at hidle ⊢
  exact hidle

/-- A data changeset with the rows of an accepted sequence leaves the tables of the sequence. -/
theorem applyChanges_composite {css : List ChangeSet} {composite : ChangeSet} {db : Database}
    (hrows : CarriesRows composite css) (hkind : composite.kind = .data)
    (hother : composite.originDeviceId ≠ me) (hdata : ∀ cs ∈ css, cs.kind = .data)
    (hown : OwnAreEmpty me css) (haccepted : AcceptedInTurn me db css) :
    SameTables (applyChanges me composite db).2 (deliverAll me db css) := by
  obtain ⟨db', happly⟩ := haccepted
  obtain ⟨tx, hmerge, hsame⟩ := mergeAll_composite hdata hown hrows happly
  rw [applyChanges_merged hkind hother hmerge, deliverAll_of_applyAll happly]
  exact hsame

/-- The fold over the list a peer serves. -/
theorem decodePullResponse_sequential {db : Database} {css : List ChangeSet}
    (h : PeerComposable me db css) :
    SameTables (applyPulled me (decodePullResponse css) db) (deliverAll me db css) := by
  match css, h with
  | [], _ => exact SameTables.refl db
  | [cs], _ => exact SameTables.refl _
  | first :: second :: rest, h =>
    obtain ⟨hrows, hkind, horigin⟩ :=
      foldl_extends absorb_extends (second :: rest) (carriesRows_single first)
    show SameTables (applyChanges me _ db).2
      (deliverAll me (applyChanges me first db).2 (second :: rest))
    cases hfirst : first.kind with
    | deletionEvent =>
      simp only [PeerComposable, hfirst] at h
      have hsame : (applyChanges me ((second :: rest).foldl absorb first) db).2
          = (applyChanges me first db).2 := by
        simp only [applyChanges, hkind.trans hfirst, hfirst, horigin]
        split
        · rfl
        · rfl
      rw [hsame]
      refine deliverAll_keeps (fun cs hcs d hd => ?_) rfl
      rcases h cs hcs with hidle | ⟨hdeletion, hsameOrigin⟩
      · exact idle_keeps hidle hd
      · rw [applyChanges_deletion_again me hfirst hdeletion hsameOrigin hd]
        exact hd
    | data =>
      simp only [PeerComposable, hfirst] at h
      split at h
      · next hme =>
        rw [applyChanges_self (hkind.trans hfirst) (horigin.trans hme),
          applyChanges_self hfirst hme]
        exact deliverAll_keeps (fun cs hcs d hd => idle_keeps (h cs hcs) hd) rfl
      · next hother =>
        obtain ⟨hdata, hown, haccepted⟩ := h
        refine applyChanges_composite hrows (hkind.trans hfirst) (horigin ▸ hother) ?_ ?_ haccepted
        · intro cs hcs
          rcases List.mem_cons.mp hcs with rfl | hcs
          · exact hfirst
          · exact hdata cs hcs
        · intro cs hcs hme
          rcases List.mem_cons.mp hcs with rfl | hcs
          · exact absurd hme hother
          · exact hown cs hcs hme

namespace ReferenceServer

theorem mem_served {requestingDevice : String} {since : Hlc} {store : ReferenceStore}
    {cs : ChangeSet} (h : cs ∈ served requestingDevice since store) :
    cs.originDeviceId ≠ requestingDevice ∧ cs.newerThan since = true := by
  obtain ⟨hmem, hnew⟩ := List.mem_filter.mp h
  obtain ⟨entry, hentry, hcs⟩ := List.mem_flatMap.mp hmem
  have hother := (List.mem_filter.mp hentry).2
  rw [entry.origin cs hcs]
  exact ⟨by simpa using hother, hnew⟩

/-- The first newer changeset replaces the watermark the answer starts from. -/
theorem carriesRows_emptyAnswer {since : Hlc} {cs : ChangeSet} (hnew : cs.newerThan since = true) :
    CarriesRows (mergeRows (emptyAnswer since) cs) [cs] := by
  have hlt : (emptyAnswer since).watermark < cs.watermark := by
    simp only [ChangeSet.newerThan, Bool.or_eq_true, Bool.and_eq_true, decide_eq_true_eq,
      beq_iff_eq] at hnew
    rw [Hlc.lt_iff]
    rcases hnew with hwall | ⟨hwall, hcounter⟩
    · exact .inl hwall
    · exact .inr ⟨hwall.symm, .inl hcounter⟩
  rw [mergeRows, if_pos hlt]
  have hsingle := carriesRows_single cs
  exact ⟨hsingle.segments, hsingle.overrides, hsingle.paramSnapshots, hsingle.regimes,
    hsingle.embeddings, hsingle.suggestions, hsingle.watermark⟩

/-- One changeset under another name is accepted or rejected as it is. -/
theorem applyChanges_relabelled {cs composite : ChangeSet} {db : Database}
    (hrows : CarriesRows composite [cs]) (hkind : composite.kind = .data)
    (hother : composite.originDeviceId ≠ me) (hkind' : cs.kind = .data)
    (hother' : cs.originDeviceId ≠ me) :
    SameTables (applyChanges me composite db).2 (deliverAll me db [cs]) := by
  have hone : ∀ {c : ChangeSet} {tx : Tx}, c.kind = .data → c.originDeviceId ≠ me →
      mergeAll db c = .ok tx → applyAll me db [c] = .ok tx.db := by
    intro c tx hk ho hm
    simp only [applyAll, List.foldlM_cons, applyChanges_merged hk ho hm, ok_bind, List.foldlM_nil]
    rfl
  have hdata : ∀ {c : ChangeSet}, c.kind = .data → ∀ x ∈ [c], x.kind = .data :=
    fun hk x hx => by rw [List.mem_singleton.mp hx]; exact hk
  have hown : ∀ {c : ChangeSet}, c.originDeviceId ≠ me → OwnAreEmpty me [c] :=
    fun ho x hx hme => absurd hme (by rw [List.mem_singleton.mp hx]; exact ho)
  cases hm : mergeAll db cs with
  | ok tx =>
    exact applyChanges_composite hrows hkind hother (hdata hkind') (hown hother')
      ⟨tx.db, hone hkind' hother' hm⟩
  | error e =>
    -- had the composite merged, so would the changeset
    cases hm' : mergeAll db composite with
    | ok tx =>
      obtain ⟨tx', htx', -⟩ := mergeAll_composite (hdata hkind) (hown hother) hrows.swap
        (hone hkind hother hm')
      rw [hm] at htx'
      nomatch htx'
    | error e' =>
      show SameTables _ (applyChanges me cs db).2
      rw [applyChanges_rejected hkind hother hm', applyChanges_rejected hkind' hother' hm]
      exact SameTables.refl db

/-- The fold of the reference server. -/
theorem handlePull_sequential {db : Database} {since : Hlc} {store : ReferenceStore}
    (h : ServerComposable me db (served me since store)) :
    SameTables (applyPulled me (handlePull me since store) db)
      (deliverAll me db (served me since store)) := by
  rw [handlePull_eq]
  have hmem : ∀ cs ∈ served me since store, cs.originDeviceId ≠ me ∧ cs.newerThan since = true :=
    fun cs hcs => mem_served hcs
  cases hserved : served me since store with
  | nil => exact SameTables.refl db
  | cons first rest =>
    rw [hserved] at h hmem
    obtain ⟨hname, hdata, hrest⟩ := h.resolve_left (List.cons_ne_nil _ _)
    have hfirst := carriesRows_emptyAnswer (hmem first List.mem_cons_self).2
    obtain ⟨hrows, hkind, horigin⟩ := foldl_extends mergeRows_extends rest hfirst
    obtain ⟨w, -, heq⟩ := mergeRows_extends (emptyAnswer since) first
    have hkind' : (mergeRows (emptyAnswer since) first).kind = .data := by
      rw [heq]
      rfl
    have hother : (mergeRows (emptyAnswer since) first).originDeviceId ≠ me := by
      rw [heq]
      exact Ne.symm hname
    show SameTables (applyChanges me (rest.foldl mergeRows (mergeRows (emptyAnswer since) first))
      db).2 _
    rcases hrest with hone | haccepted
    · obtain rfl : rest = [] := List.length_eq_zero_iff.mp (by simpa using hone)
      exact applyChanges_relabelled hfirst hkind' hother (hdata first List.mem_cons_self)
        (hmem first List.mem_cons_self).1
    · refine applyChanges_composite hrows (hkind.trans hkind') (horigin ▸ hother) hdata ?_ haccepted
      exact fun cs hcs hme => absurd hme (hmem cs hcs).1

end ReferenceServer

/-- **When a composite pull equals the sequence**: from a LAN peer, when the first changeset decides
    what all of them do, or all carry data of others and are accepted in turn; from the reference
    server, when all carry data and are accepted in turn, or there is only one. -/
theorem composite_pull_sequential (me : String) (db : Database) (since : Hlc) :
    (∀ outbound, PeerComposable me db (servedByPeer outbound since) →
      SameTables (applyPulled me (pullFromPeer outbound since) db)
        (deliverAll me db (servedByPeer outbound since))) ∧
    (∀ store, ServerComposable me db (ReferenceServer.served me since store) →
      SameTables (applyPulled me (ReferenceServer.handlePull me since store) db)
        (deliverAll me db (ReferenceServer.served me since store))) :=
  ⟨fun _ h => decodePullResponse_sequential h, fun _ h => ReferenceServer.handlePull_sequential h⟩

/-- Device `a`'s snapshot, the regime that refers to it, and the erasure of `a`, as they were
    pushed. -/
def snapshotPushed : ChangeSet := { snapshotChangeSet with watermark := ⟨1, 0, "a"⟩ }

def regimePushed : ChangeSet := { regimeChangeSet with watermark := ⟨2, 0, "a"⟩ }

/-- Two changesets of one author, by folder and by server. -/
theorem composite_pull_two :
    SameTables
      (applyPulled "b" (pullFromPeer [snapshotPushed, regimePushed] Hlc.default)
        (Database.empty true))
      (deliverAll "b" (Database.empty true) [snapshotPushed, regimePushed]) ∧
    SameTables
      (applyPulled "b" (ReferenceServer.handlePull "b" Hlc.default
        (handlePush regimePushed (handlePush snapshotPushed Table.empty))) (Database.empty true))
      (deliverAll "b" (Database.empty true) [snapshotPushed, regimePushed]) := by
  have haccepted : AcceptedInTurn "b" (Database.empty true) [snapshotPushed, regimePushed] :=
    ⟨_, rfl⟩
  obtain ⟨hpeer, hserver⟩ := composite_pull_sequential "b" (Database.empty true) Hlc.default
  refine ⟨hpeer [snapshotPushed, regimePushed] ?_,
    hserver (handlePush regimePushed (handlePush snapshotPushed Table.empty)) (.inr ?_)⟩
  · exact ⟨by decide, by unfold OwnAreEmpty; decide, haccepted⟩
  · exact ⟨by decide, by decide, .inr haccepted⟩

/-- **A deletion event is lost in the fold.** -/
theorem composite_pull_keeps_erased :
    (¬ ∀ me db outbound since,
      SameTables (applyPulled me (pullFromPeer outbound since) db)
        (deliverAll me db (servedByPeer outbound since))) ∧
    (¬ ∀ me db store since,
      SameTables (applyPulled me (ReferenceServer.handlePull me since store) db)
        (deliverAll me db (ReferenceServer.served me since store))) := by
  constructor
  · intro h
    have hsame := (h "b" (Database.empty true) [snapshotPushed, erasureOfA] Hlc.default)
      |>.paramSnapshots
    have hrows := congrArg (fun t => t.rows.length) hsame
    exact absurd hrows (by decide)
  · intro h
    have hsame := (h "b" (Database.empty true)
      (handlePush erasureOfA (handlePush snapshotPushed Table.empty)) Hlc.default).paramSnapshots
    have hrows := congrArg (fun t => t.rows.length) hsame
    exact absurd hrows (by decide)

end Oneshim
