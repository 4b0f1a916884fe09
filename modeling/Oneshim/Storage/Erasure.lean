/-
  Erasing everything (`oneshim-storage/src/migration/`, `sqlite/maintenance.rs`, `delete_all_data`).

  Thirty-two migrations make the tables; the list of tables to erase is written by hand beside them
  and ends with the seventeenth.

  1. **Migrations** — the statements that make a table or a row, version by version; what a migration
     does to columns and indexes does not matter here.  A virtual table is left out where SQLite has
     no such extension, and the migration goes on.

  2. **Erasure** (`deleteAllData`) — one `DELETE` for each table of the list, in one transaction.
     With foreign keys on it takes referring rows with it, or clears their references.

  3. **The result** — ten tables are made after the list was written and survive
     (`erases_everything_iff`).  On an error nothing has changed.

  The rows are of any type, and between the calls anything may be done to them.
-/
import Mathlib.Data.List.Basic

namespace Oneshim.Erasure

/-! ## Migrations -/

/-- A database: the rows of `schema_version`, and those of each other table that exists. -/
structure Database (ρ : Type) where
  versions : List Nat
  table : String → Option (List ρ)

variable {ρ : Type}

/-- A database file before it is opened. -/
def Database.empty : Database ρ := ⟨[], fun _ => none⟩

/-- The statements of a migration that make tables and rows. -/
inductive Statement where
  | createTable (name : String)
  | createVirtualTable (name : String)
  /-- The rows of one table are indexed in another one. -/
  | backfill (source target : String)
deriving DecidableEq

/-- `run_migration_step`: a version and what it does. -/
structure Migration where
  version : Nat
  statements : List Statement

/-- The migrations of `run_migrations`. -/
def migrations : List Migration :=
  [⟨1, [.createTable "events", .createTable "frames"]⟩,
    ⟨2, []⟩,
    ⟨3, [.createTable "system_metrics", .createTable "system_metrics_hourly"]⟩,
    ⟨4, [.createTable "process_snapshots", .createTable "idle_periods",
      .createTable "session_stats"]⟩,
    ⟨5, [.createTable "tags", .createTable "frame_tags"]⟩,
    ⟨6, [.createTable "work_sessions", .createTable "interruptions", .createTable "focus_metrics",
      .createTable "local_suggestions"]⟩,
    ⟨7, []⟩,
    ⟨8, [.createTable "suggestions"]⟩,
    ⟨9, [.createTable "calibration_log", .createTable "trigger_params_snapshots",
      .createTable "regimes", .createTable "activity_segments"]⟩,
    ⟨10, [.createTable "embedding_vectors", .createTable "weekly_digests"]⟩,
    ⟨11, [.createVirtualTable "search_fts", .backfill "activity_segments" "search_fts",
      .createTable "daily_digests"]⟩,
    ⟨12, [.createTable "regime_overrides"]⟩,
    ⟨13, [.createTable "gui_interactions"]⟩,
    ⟨14, [.createTable "sync_peers", .createTable "device_identity"]⟩,
    ⟨15, [.createTable "lan_peer_pins"]⟩,
    ⟨16, [.createTable "vector_binary_codes", .createTable "ivf_centroids",
      .createTable "ivf_assignments", .createTable "vector_index_meta"]⟩,
    ⟨17, [.createTable "coaching_events", .createTable "regime_goals",
      .createTable "coaching_effectiveness"]⟩,
    ⟨18, [.createVirtualTable "search_trigram"]⟩,
    ⟨19, [.createTable "app_meta"]⟩,
    ⟨20, [.createTable "session_audit_log"]⟩,
    ⟨21, [.createTable "ai_sessions", .createTable "ai_conversation_messages"]⟩,
    ⟨22, []⟩,
    ⟨23, []⟩,
    ⟨24, [.createTable "feedback_retries"]⟩,
    ⟨25, [.createTable "audit_log"]⟩,
    ⟨26, []⟩,
    ⟨27, [.createTable "habit_streaks"]⟩,
    ⟨28, []⟩,
    ⟨29, [.createTable "automation_presets"]⟩,
    ⟨30, [.createTable "frame_annotations"]⟩,
    ⟨31, [.createTable "regime_manager_state"]⟩,
    ⟨32, []⟩]

/-- `CURRENT_VERSION`. -/
def currentVersion : Nat := 32

/-- What the environment has to say when a database is opened. -/
structure Opening (ρ : Type) where
  /-- SQLite has the extension of the virtual table. -/
  available : String → Bool
  /-- The migration fails, and is rolled back. -/
  fails : Nat → Bool
  /-- The row of a search index for a row. -/
  indexed : ρ → ρ

/-- `CREATE TABLE IF NOT EXISTS`. -/
def Database.create (db : Database ρ) (name : String) : Database ρ :=
  { db with table := fun other => if other = name then some ((db.table name).getD [])
      else db.table other }

/-- One statement. -/
def Statement.exec (opening : Opening ρ) (db : Database ρ) : Statement → Database ρ
  | .createTable name => db.create name
  | .createVirtualTable name => if opening.available name then db.create name else db
  | .backfill source target =>
    { db with table := fun other =>
        if other = target then
          (db.table target).map (· ++ ((db.table source).getD []).map opening.indexed)
        else db.table other }

/-- The statements of a migration, and its version. -/
def Migration.exec (opening : Opening ρ) (db : Database ρ) (migration : Migration) : Database ρ :=
  let db := migration.statements.foldl (Statement.exec opening) db
  { db with versions := db.versions ++ [migration.version] }

/-- `get_version`. -/
def Database.version (db : Database ρ) : Nat := db.versions.foldl max 0

/-- The migrations that are not done yet, up to one that fails. -/
def runFrom (opening : Opening ρ) (current : Nat) : List Migration → Database ρ → Bool × Database ρ
  | [], db => (true, db)
  | migration :: rest, db =>
    if migration.version ≤ current then runFrom opening current rest db
    else if opening.fails migration.version then (false, db)
    else runFrom opening current rest (migration.exec opening db)

/-- `run_migrations`: whether it succeeds. -/
def runMigrations (opening : Opening ρ) (db : Database ρ) : Bool × Database ρ :=
  if currentVersion < db.version then (false, db)
  else runFrom opening db.version migrations db

/-! ## Erasure -/

/-- `ALL_TABLES`. -/
def allTables : List String :=
  ["events", "frames", "system_metrics", "system_metrics_hourly", "process_snapshots",
    "idle_periods", "session_stats", "work_sessions", "interruptions", "focus_metrics",
    "suggestions", "local_suggestions", "frame_tags", "tags", "activity_segments",
    "calibration_log", "daily_digests", "weekly_digests", "embedding_vectors", "regime_overrides",
    "regimes", "trigger_params_snapshots", "search_fts", "search_trigram", "vector_binary_codes",
    "vector_index_meta", "ivf_centroids", "ivf_assignments", "gui_interactions", "device_identity",
    "sync_peers", "lan_peer_pins", "coaching_events", "regime_goals", "coaching_effectiveness"]

/-- The foreign keys: the table with the reference and the one it refers to. -/
def references : List (String × String) :=
  [("frame_tags", "frames"), ("frame_tags", "tags"), ("interruptions", "frames"),
    ("regimes", "trigger_params_snapshots"), ("activity_segments", "regimes"),
    ("vector_binary_codes", "embedding_vectors"), ("ivf_assignments", "embedding_vectors"),
    ("ivf_assignments", "ivf_centroids"), ("ai_conversation_messages", "ai_sessions")]

/-- What the environment has to say when everything is erased. -/
structure Erasing (ρ : Type) where
  lockPoisoned : Bool
  beginFails : Bool
  /-- The `DELETE` fails, for a reference or anything else. -/
  deleteFails : String → Bool
  commitFails : Bool
  foreignKeys : Bool
  /-- What becomes of a row of a table when those it may refer to are deleted. -/
  onDelete : String → String → ρ → Option ρ

/-- Why `delete_all_data` fails. -/
inductive ErasureError where
  | lock
  | begin
  | table (name : String)
  | commit
deriving DecidableEq

/-- `DELETE FROM`. -/
def deleteFrom (env : Erasing ρ) (db : Database ρ) (name : String) :
    Except ErasureError (Database ρ) :=
  if (db.table name).isNone || env.deleteFails name then .error (.table name)
  else
    .ok { db with table := fun other =>
            if other = name then some []
            else if env.foreignKeys && references.contains (other, name) then
              (db.table other).map (·.filterMap (env.onDelete other name))
            else db.table other }

/-- `delete_all_data`; a transaction that is not committed is rolled back. -/
def deleteAllData (env : Erasing ρ) (db : Database ρ) :
    Except ErasureError Unit × Database ρ :=
  if env.lockPoisoned then (.error .lock, db)
  else if env.beginFails then (.error .begin, db)
  else
    match allTables.foldlM (deleteFrom env) db with
    | .error e => (.error e, db)
    | .ok erased => if env.commitFails then (.error .commit, db) else (.ok (), erased)

/-! ## Runs -/

/-- What can happen to a database file. -/
inductive Move (ρ : Type) where
  | runMigrations (opening : Opening ρ)
  /-- Anything is done to the rows of a table. -/
  | write (name : String) (rows : List ρ)
  | deleteAllData (env : Erasing ρ)

/-- One move. -/
def step (db : Database ρ) : Move ρ → Database ρ
  | .runMigrations opening => (runMigrations opening db).2
  | .write name rows =>
    { db with table := fun other =>
        if other = name then (db.table name).map fun _ => rows else db.table other }
  | .deleteAllData env => (deleteAllData env db).2

/-- A database file after some moves. -/
def run (moves : List (Move ρ)) : Database ρ := moves.foldl step .empty

/-- What erasing everything means: every table is empty, or nothing has changed. -/
def Erases (before : Database ρ) : Except ErasureError Unit × Database ρ → Prop
  | (.ok (), after) => ∀ name rows, after.table name = some rows → rows = []
  | (.error _, after) => after = before

/-! ## The tables of a database -/

/-- The tables that migrations make and the list leaves out. -/
def unlistedTables : List String :=
  ["app_meta", "session_audit_log", "ai_sessions", "ai_conversation_messages", "feedback_retries",
    "audit_log", "habit_streaks", "automation_presets", "frame_annotations", "regime_manager_state"]

/-- The table that a statement makes. -/
def Statement.created : Statement → Option String
  | .createTable name => some name
  | .createVirtualTable name => some name
  | .backfill _ _ => none

/-- Every table that a migration makes is in one of the two lists. -/
theorem created_known : ∀ migration ∈ migrations, ∀ statement ∈ migration.statements,
    ∀ name ∈ statement.created, name ∈ allTables ∨ name ∈ unlistedTables := by
  decide

/-- The table exists. -/
def Database.Has (db : Database ρ) (name : String) : Prop := (db.table name).isSome = true

variable {db : Database ρ}

theorem has_create {name other : String} :
    (db.create name).Has other ↔ other = name ∨ db.Has other := by
  unfold Database.Has Database.create
  by_cases h : other = name
  · simp [h]
  · simp [h]

variable {opening : Opening ρ} {name : String}

/-- **What a statement does to the tables that exist.** -/
theorem has_exec {statement : Statement} :
    (db.Has name → (statement.exec opening db).Has name) ∧
      ((statement.exec opening db).Has name → db.Has name ∨ statement.created = some name) := by
  cases statement with
  | createTable other =>
    simp only [Statement.exec, has_create, Statement.created, Option.some.injEq]
    tauto
  | createVirtualTable other =>
    simp only [Statement.exec, Statement.created, Option.some.injEq]
    split
    · simp only [has_create]
      tauto
    · tauto
  | backfill source target =>
    simp only [Statement.exec, Database.Has, Statement.created]
    by_cases h : name = target
    · simp [h]
    · simp [h]

theorem has_foldl {statements : List Statement} :
    (db.Has name → (statements.foldl (Statement.exec opening) db).Has name) ∧
      ((statements.foldl (Statement.exec opening) db).Has name →
        db.Has name ∨ ∃ statement ∈ statements, statement.created = some name) := by
  induction statements generalizing db with
  | nil => exact ⟨id, .inl⟩
  | cons statement statements ih =>
    refine ⟨fun h => ih.1 (has_exec.1 h), fun h => ?_⟩
    rcases ih.2 h with h | ⟨other, hother, hname⟩
    · rcases has_exec.2 h with h | hname
      · exact .inl h
      · exact .inr ⟨statement, List.mem_cons_self, hname⟩
    · exact .inr ⟨other, List.mem_cons_of_mem _ hother, hname⟩

/-- The tables that are always made by a migration exist. -/
def Done (db : Database ρ) (migration : Migration) : Prop :=
  ∀ name, .createTable name ∈ migration.statements → db.Has name

theorem done_of_foldl {statements : List Statement} (h : .createTable name ∈ statements) :
    (statements.foldl (Statement.exec opening) db).Has name := by
  induction statements generalizing db with
  | nil => exact absurd h List.not_mem_nil
  | cons statement statements ih =>
    rcases List.mem_cons.mp h with rfl | h
    · rw [List.foldl_cons]
      exact has_foldl.1 (has_create.mpr (.inl rfl))
    · exact ih h

/-- A migration brings the version up to its own. -/
theorem version_exec (migration : Migration) :
    (migration.exec opening db).version = max db.version migration.version := by
  have hversions : (migration.statements.foldl (Statement.exec opening) db).versions =
      db.versions := by
    generalize migration.statements = statements
    induction statements generalizing db with
    | nil => rfl
    | cons statement statements ih =>
      rw [List.foldl_cons, ih]
      cases statement with
      | createTable name => rfl
      | createVirtualTable name =>
        simp only [Statement.exec]
        split <;> rfl
      | backfill source target => rfl
  simp only [Database.version, Migration.exec, hversions, List.foldl_append, List.foldl_cons,
    List.foldl_nil]

/-- What holds of every database file: only known tables exist, and those of the migrations up to its
    version do. -/
structure Sound (db : Database ρ) : Prop where
  known : ∀ name, db.Has name → name ∈ allTables ∨ name ∈ unlistedTables
  complete : ∀ migration ∈ migrations, migration.version ≤ db.version → Done db migration

theorem versions_sorted : migrations.Pairwise fun a b => a.version < b.version := by decide

/-- **Migrations keep it.**  `done` are those before: they are done, and a version is never ahead of
    those still to come. -/
theorem sound_runFrom {current : Nat} {done rest : List Migration}
    (hall : migrations = done ++ rest)
    (hknown : ∀ name, db.Has name → name ∈ allTables ∨ name ∈ unlistedTables)
    (hdone : ∀ migration ∈ migrations, migration ∈ done ∨ migration.version ≤ current →
      Done db migration)
    (hahead : ∀ migration ∈ rest, migration.version ≤ db.version → migration.version ≤ current) :
    Sound (runFrom opening current rest db).2 := by
  induction rest generalizing done db with
  | nil => exact ⟨hknown, fun m hm _ => hdone m hm (.inl (by simpa [hall] using hm))⟩
  | cons m rest ih =>
    have hm : m ∈ migrations := hall ▸ List.mem_append_right _ List.mem_cons_self
    have hsplit : migrations = (done ++ [m]) ++ rest := by rw [hall, List.append_assoc]; rfl
    unfold runFrom
    split
    · next hskip =>
      refine ih hsplit hknown (fun other hother h => ?_)
        fun other hother => hahead other (List.mem_cons_of_mem _ hother)
      rcases h with h | h
      · rcases List.mem_append.mp h with h | h
        · exact hdone other hother (.inl h)
        · exact hdone other hother (.inr (List.mem_singleton.mp h ▸ hskip))
      · exact hdone other hother (.inr h)
    · split
      · refine ⟨hknown, fun other hother hversion => hdone other hother ?_⟩
        rcases List.mem_append.mp (hall ▸ hother) with h | h
        · exact .inl h
        · exact .inr (hahead other h hversion)
      · refine ih hsplit (fun name hname => ?_) (fun other hother h => ?_)
          fun other hother hversion => ?_
        · rcases has_foldl.2 hname with hname | ⟨statement, hstatement, hcreated⟩
          · exact hknown name hname
          · exact created_known m hm statement hstatement name hcreated
        · by_cases heq : other = m
          · exact fun name hname => done_of_foldl (heq ▸ hname)
          · refine fun name hname => has_foldl.1 (hdone other hother ?_ name hname)
            rcases h with h | h
            · rcases List.mem_append.mp h with h | h
              · exact .inl h
              · exact absurd (List.mem_singleton.mp h) heq
            · exact .inr h
        · rw [version_exec] at hversion
          have hsorted := (List.pairwise_append.mp (hall ▸ versions_sorted)).2.1
          have hlater := (List.pairwise_cons.mp hsorted).1 other hother
          exact hahead other (List.mem_cons_of_mem _ hother) (by omega)

theorem sound_empty : Sound (.empty : Database ρ) :=
  ⟨fun name h => (by cases h), fun m hm h => absurd h (by
    have hpos : ∀ m ∈ migrations, 0 < m.version := by decide
    exact Nat.not_le.mpr (hpos m hm))⟩

variable {db db' : Database ρ}

/-- Tables are not made or dropped by what is done to rows. -/
theorem Sound.of_has (h : Sound db) (hversion : db'.version = db.version)
    (hhas : ∀ name, db'.Has name ↔ db.Has name) : Sound db' :=
  ⟨fun name hname => h.known name ((hhas name).mp hname),
    fun m hm hle name hname => (hhas name).mpr (h.complete m hm (hversion ▸ hle) name hname)⟩

/-! ## What an erasure does -/

variable {env : Erasing ρ}

/-- A `DELETE` that succeeds. -/
theorem deleteFrom_ok (h : deleteFrom env db name = .ok db') :
    db'.versions = db.versions ∧ db'.table name = some [] ∧
      (∀ other, db'.Has other ↔ db.Has other) ∧
      (∀ other, db.table other = some [] → db'.table other = some []) ∧
      ∀ other, other ≠ name → references.contains (other, name) = false →
        db'.table other = db.table other := by
  unfold deleteFrom at h
  split at h
  · cases h
  · next hexists =>
    cases h
    have hname : db.Has name := by
      cases htable : db.table name with
      | none => simp [htable] at hexists
      | some rows => simp [Database.Has, htable]
    refine ⟨rfl, by simp, fun other => ?_, fun other hempty => ?_, fun other hne href => ?_⟩
    · by_cases heq : other = name
      · subst heq
        exact iff_of_true (by simp [Database.Has]) hname
      · simp only [Database.Has, if_neg heq]
        split <;> simp
    · by_cases heq : other = name
      · simp [heq]
      · simp only [if_neg heq, hempty]
        split <;> rfl
    · simp only [if_neg hne, href, Bool.and_false, Bool.false_eq_true, if_false]

/-- **The `DELETE`s, table by table**: those of the list are empty, and a table that is not in it and
    refers to none of it is as it was. -/
theorem deleteAll_ok {names : List String} (h : names.foldlM (deleteFrom env) db = .ok db') :
    db'.versions = db.versions ∧ (∀ other, db'.Has other ↔ db.Has other) ∧
      (∀ other, db.table other = some [] → db'.table other = some []) ∧
      (∀ name ∈ names, db'.table name = some []) ∧
      ∀ other, other ∉ names → (∀ name ∈ names, references.contains (other, name) = false) →
        db'.table other = db.table other := by
  induction names generalizing db with
  | nil =>
    cases h
    exact ⟨rfl, fun _ => .rfl, fun _ h => h, fun _ h => absurd h List.not_mem_nil, fun _ _ _ => rfl⟩
  | cons name names ih =>
    rw [List.foldlM_cons] at h
    cases hfirst : deleteFrom env db name with
    | error e => rw [hfirst] at h; cases h
    | ok db₁ =>
      rw [hfirst] at h
      obtain ⟨hversions, hname, hhas, hempty, hother⟩ := deleteFrom_ok hfirst
      obtain ⟨hversions', hhas', hempty', hnames, hother'⟩ := ih h
      refine ⟨hversions'.trans hversions, fun other => (hhas' other).trans (hhas other),
        fun other h => hempty' other (hempty other h), fun other hmem => ?_,
        fun other hnot href => ?_⟩
      · rcases List.mem_cons.mp hmem with rfl | hmem
        · exact hempty' _ hname
        · exact hnames other hmem
      · rw [hother' other (fun h => hnot (List.mem_cons_of_mem _ h))
            fun name h => href name (List.mem_cons_of_mem _ h)]
        exact hother other (fun h => hnot (h ▸ List.mem_cons_self)) (href name List.mem_cons_self)

/-- No table that is left out refers to one of the list, and none is in it. -/
theorem unlisted_untouched : ∀ other ∈ unlistedTables, other ∉ allTables ∧
    ∀ name ∈ allTables, references.contains (other, name) = false := by
  decide

/-- The tables of the list that need not exist. -/
theorem listed_made : ∀ name ∈ allTables, name = "search_fts" ∨ name = "search_trigram" ∨
    migrations.any fun migration => migration.statements.contains (.createTable name) := by
  decide +kernel

theorem unlisted_made : ∀ name ∈ unlistedTables,
    migrations.any fun migration => migration.statements.contains (.createTable name) := by
  decide +kernel

/-- A `DELETE` on a table that exists and that nothing prevents. -/
theorem deleteFrom_succeeds (hexists : db.Has name) (hfails : env.deleteFails name = false) :
    ∃ db', deleteFrom env db name = .ok db' := by
  unfold deleteFrom
  rw [if_neg]
  · exact ⟨_, rfl⟩
  · cases htable : db.table name with
    | none => simp [Database.Has, htable] at hexists
    | some rows => simp [hfails]

theorem deleteAll_succeeds {names : List String} (hexists : ∀ name ∈ names, db.Has name)
    (hfails : ∀ name, env.deleteFails name = false) :
    ∃ db', names.foldlM (deleteFrom env) db = .ok db' := by
  induction names generalizing db with
  | nil => exact ⟨db, rfl⟩
  | cons name names ih =>
    obtain ⟨db₁, hfirst⟩ := deleteFrom_succeeds (hexists name List.mem_cons_self) (hfails name)
    have hleft (other) (h : other ∈ names) : db₁.Has other :=
      ((deleteFrom_ok hfirst).2.2.1 other).mpr (hexists other (List.mem_cons_of_mem _ h))
    obtain ⟨db', hrest⟩ := ih hleft
    exact ⟨db', by rw [List.foldlM_cons, hfirst]; exact hrest⟩

/-- A table of the list that is missing stops the erasure. -/
theorem deleteAll_fails {names : List String} (h : names.foldlM (deleteFrom env) db = .ok db')
    (hname : name ∈ names) :
    db.Has name := by
  obtain ⟨-, hhas, -, hempty, -⟩ := deleteAll_ok h
  exact (hhas name).mp (by simp [Database.Has, hempty name hname])

/-- **What `delete_all_data` may leave.** -/
theorem deleteAllData_cases (env : Erasing ρ) (db : Database ρ) :
    (∃ e, deleteAllData env db = (.error e, db)) ∨
      ∃ erased, allTables.foldlM (deleteFrom env) db = .ok erased ∧
        deleteAllData env db = (.ok (), erased) := by
  unfold deleteAllData
  split
  · exact .inl ⟨_, rfl⟩
  · split
    · exact .inl ⟨_, rfl⟩
    · cases hall : allTables.foldlM (deleteFrom env) db with
      | error e => exact .inl ⟨e, rfl⟩
      | ok erased =>
        simp only
        split
        · exact .inl ⟨_, rfl⟩
        · exact .inr ⟨erased, rfl, rfl⟩

/-! ## Every database file -/

theorem version_of_versions (h : db'.versions = db.versions) :
    db'.version = db.version := by
  rw [Database.version, Database.version, h]

/-- **A move keeps it.** -/
theorem Sound.step (h : Sound db) (move : Move ρ) :
    Sound (Erasure.step db move) := by
  cases move with
  | runMigrations opening =>
    simp only [Erasure.step, runMigrations]
    split
    · exact h
    · have hall : migrations = [] ++ migrations := rfl
      refine sound_runFrom hall h.known (fun m hm hle => ?_) fun _ _ hle => hle
      exact h.complete m hm (hle.resolve_left List.not_mem_nil)
  | write name rows =>
    refine h.of_has rfl fun other => ?_
    by_cases heq : other = name
    · simp [Erasure.step, Database.Has, heq]
    · simp [Erasure.step, Database.Has, heq]
  | deleteAllData env =>
    rcases deleteAllData_cases env db with ⟨e, he⟩ | ⟨erased, hall, hok⟩
    · simpa only [Erasure.step, he] using h
    · obtain ⟨hversions, hhas, -⟩ := deleteAll_ok hall
      simpa only [Erasure.step, hok] using h.of_has (version_of_versions hversions) hhas

theorem sound_run (moves : List (Move ρ)) : Sound (run moves) := by
  suffices h : ∀ db : Database ρ, Sound db → Sound (moves.foldl step db) from h _ sound_empty
  induction moves with
  | nil => exact fun _ h => h
  | cons move moves ih => exact fun db h => ih _ (h.step move)

/-- Every version of the migrations is at most the last one. -/
theorem version_le : ∀ migration ∈ migrations, migration.version ≤ currentVersion := by decide

/-- The tables that are always made exist once every migration is done. -/
theorem Sound.has_of_made (h : Sound db) (hversion : db.version = currentVersion)
    (hmade : migrations.any fun migration => migration.statements.contains (.createTable name)) :
    db.Has name := by
  obtain ⟨m, hm, hcontains⟩ := List.any_eq_true.mp hmade
  exact h.complete m hm (hversion ▸ version_le m hm) name (List.contains_iff_mem.mp hcontains)

/-- An environment in which nothing fails. -/
def Erasing.smooth : Erasing ρ :=
  { lockPoisoned := false, beginFails := false, deleteFails := fun _ => false, commitFails := false,
    foreignKeys := true, onDelete := fun _ _ _ => none }

/-- **When an erasure is complete.**  In a database that is migrated to the end, an erasure that
    succeeds empties every table, and one that fails changes nothing, just when a search index that
    SQLite could not make stops every erasure, or the ten tables that the list leaves out have no
    rows anyway. -/
theorem erases_everything_iff (moves : List (Move ρ))
    (hversion : (run moves).version = currentVersion) :
    (∀ env, Erases (run moves) (deleteAllData env (run moves))) ↔
      ((run moves).table "search_fts" = none ∨ (run moves).table "search_trigram" = none) ∨
        ∀ name ∈ unlistedTables, (run moves).table name = some [] := by
  have hsound := sound_run moves
  generalize run moves = db at hversion hsound
  have hunlisted (name) (h : name ∈ unlistedTables) : db.Has name :=
    hsound.has_of_made hversion (unlisted_made name h)
  constructor
  · intro herases
    by_contra hnot
    obtain ⟨hindexes, hrows⟩ := not_or.mp hnot
    -- then every table of the list exists, and nothing stops an erasure where nothing fails
    have hlisted (name) (h : name ∈ allTables) : db.Has name := by
      rcases listed_made name h with rfl | rfl | hmade
      · exact Option.isSome_iff_ne_none.mpr fun h => hindexes (.inl h)
      · exact Option.isSome_iff_ne_none.mpr fun h => hindexes (.inr h)
      · exact hsound.has_of_made hversion hmade
    obtain ⟨erased, hall⟩ : ∃ erased, allTables.foldlM (deleteFrom .smooth) db = .ok erased :=
      deleteAll_succeeds hlisted fun _ => rfl
    have hok : deleteAllData .smooth db = (.ok (), erased) := by
      simp [deleteAllData, Erasing.smooth] at hall ⊢
      rw [hall]
    refine hrows fun name hname => ?_
    obtain ⟨hnot, href⟩ := unlisted_untouched name hname
    have hsame := (deleteAll_ok hall).2.2.2.2 name hnot href
    obtain ⟨rows, htable⟩ := Option.isSome_iff_exists.mp (hunlisted name hname)
    have hempty := herases .smooth
    rw [hok] at hempty
    rw [htable, hempty name rows (hsame.trans htable)]
  · intro hcondition env
    rcases deleteAllData_cases env db with ⟨e, he⟩ | ⟨erased, hall, hok⟩
    · rw [he]
      exact rfl
    · rw [hok]
      intro name rows htable
      rcases hcondition with (hindex | hindex) | hrows
      · have := deleteAll_fails hall (show "search_fts" ∈ allTables by decide)
        simp [Database.Has, hindex] at this
      · have := deleteAll_fails hall (show "search_trigram" ∈ allTables by decide)
        simp [Database.Has, hindex] at this
      · obtain ⟨-, hhas, hempty, hlisted, -⟩ := deleteAll_ok hall
        have hknown := hsound.known name ((hhas name).mp (by simp [Database.Has, htable]))
        have hnil : erased.table name = some [] :=
          hknown.elim (hlisted name) fun h => hempty name (hrows name h)
        exact (Option.some.inj (hnil.symm.trans htable)).symm

/-- A database that is opened, with every extension. -/
def opened : Move String := .runMigrations ⟨fun _ => true, fun _ => false, id⟩

/-- An event is erased. -/
theorem erases_events :
    Erases (run [opened, .write "events" ["window"]])
      (deleteAllData .smooth (run [opened, .write "events" ["window"]])) := by
  have hall := (erases_everything_iff [opened, .write "events" ["window"]] (by decide +kernel)).mpr
    (.inr (by decide +kernel))
  generalize run [opened, .write "events" ["window"]] = db at hall ⊢
  exact hall .smooth

/-- A success that leaves rows in a table is no erasure. -/
theorem not_erases {before : Database ρ} {outcome : Except ErasureError Unit × Database ρ}
    (hok : outcome.1 = .ok ()) {rows : List ρ} (htable : outcome.2.table name = some rows)
    (hrows : rows ≠ []) : ¬ Erases before outcome := by
  obtain ⟨result, after⟩ := outcome
  subst hok
  exact fun herases => hrows (herases name rows htable)

/-- A conversation in a database with every table. -/
def conversation : Database String :=
  run [opened, .write "ai_sessions" ["session"], .write "ai_conversation_messages" ["hello"]]

/-- **A conversation survives.**  The erasure succeeds, and the message is still there. -/
theorem conversation_survives :
    conversation.version = currentVersion ∧
      (deleteAllData .smooth conversation).1 = .ok () ∧
      (deleteAllData .smooth conversation).2.table "ai_conversation_messages" = some ["hello"] ∧
      ¬ Erases conversation (deleteAllData .smooth conversation) := by
  have hok : (deleteAllData .smooth conversation).1 = .ok () := by decide +kernel
  have hkept : (deleteAllData .smooth conversation).2.table "ai_conversation_messages" =
      some ["hello"] := by decide +kernel
  exact ⟨by decide +kernel, hok, hkept, not_erases hok hkept (by decide)⟩

end Oneshim.Erasure
