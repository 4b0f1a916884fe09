/-
  The configuration manager (`oneshim-core/src/config_manager.rs`).

  The configuration is in memory and in a file.  A change is written to the file first and then takes
  its place in memory; a start reads the file.

  1. **Code** — saving, loading and the migration of an old port, `withPath`, and the operations of a
     running manager.  `fs::write` empties the file before it writes: `WriteEnd` says how far it came.

  2. **Loading** (`loadFromFile_of_text`, `loadFromFile_of_cut`) — a file that holds a whole text
     loads as its configuration, one that holds the beginning of a text does not load.

  3. **The result** (`survives_crash_iff`) — a start after an update that was interrupted yields the
     old or the new configuration, except after an interruption between the emptying of the file and
     its last byte: then it yields the defaults.
-/
import Oneshim.Config.AppConfig

namespace Oneshim.Config

variable {zones : Zones} {Rest : Type}

/-! ## The code -/

/-- `CoreError::Config`; every code here is `ConfigCode::Invalid`. -/
structure ConfigError where
  message : String

/-- How an `fs::write` ends: complete, without having touched the file, or stopped when the file has
    been emptied and some bytes have been written.  A process that dies stops, too. -/
inductive WriteEnd where
  | complete
  | refused (error : String)
  | stopped (bytes : Nat) (error : String)

/-- The file after a write. -/
def WriteEnd.file (content : ByteArray) (file : Option ByteArray) : WriteEnd → Option ByteArray
  | .complete => some content
  | .refused _ => file
  | .stopped bytes _ => some (content.extract 0 bytes)

/-- What a write returns. -/
def WriteEnd.result : WriteEnd → Except String Unit
  | .complete => .ok ()
  | .refused error => .error error
  | .stopped _ error => .error error

/-- `fs::read_to_string`; `read` is what the operating system answers. -/
def readToString (read : Except String Unit) (file : Option ByteArray) : Except String String := do
  read
  match file with
  | none => throw "No such file or directory (os error 2)"
  | some content =>
    match String.fromUTF8? content with
    | none => throw "stream did not contain valid UTF-8"
    | some text => return text

/-- `LEGACY_GRPC_DASHBOARD_PORT`. -/
def legacyGrpcDashboardPort : UInt16 := 10091

/-- `DEFAULT_GRPC_DASHBOARD_PORT`. -/
def defaultGrpcDashboardPort : UInt16 := 10080

/-- `migrate_loaded_config`: the configuration, and whether it was changed. -/
def migrateLoadedConfig (config : AppConfig zones Rest) : AppConfig zones Rest × Bool :=
  if config.web.grpcPort = legacyGrpcDashboardPort then
    ({ config with web := { config.web with grpcPort := defaultGrpcDashboardPort } }, true)
  else (config, false)

/-- What a start needs of the operating system: the directory is there or can be made, the file can
    be read, and how the write ends, if there is one. -/
structure Answers where
  createDir : Except String Unit
  read : Except String Unit
  write : WriteEnd

/-- `ConfigManager`: the file, and the value in the `watch` channel. -/
structure ConfigManager (zones : Zones) (Rest : Type) where
  file : Option ByteArray
  memory : AppConfig zones Rest

section

variable (format : ConfigFormat zones Rest) (parent path : String)

/-- `save_to_file`. -/
def saveToFile (write : WriteEnd) (config : AppConfig zones Rest) (file : Option ByteArray) :
    Except ConfigError Unit × Option ByteArray :=
  match format.toStringPretty config with
  | .error e => (.error ⟨s!"Failed to serialize config: {e}"⟩, file)
  | .ok content =>
    match write.result with
    | .error e =>
      (.error ⟨s!"Failed to write config file: {path}: {e}"⟩, write.file content.toByteArray file)
    | .ok () => (.ok (), write.file content.toByteArray file)

/-- `load_from_file`. -/
def loadFromFile (read : Except String Unit) (file : Option ByteArray) :
    Except ConfigError (AppConfig zones Rest) :=
  match readToString read file with
  | .error e => .error ⟨s!"Failed to read config file: {path}: {e}"⟩
  | .ok content =>
    match format.fromStr content with
    | .error e => .error ⟨s!"Failed to parse config file: {path}: {e}"⟩
    | .ok config => .ok config

/-- `load_and_migrate_from_file`; that the migrated configuration is not written is only logged. -/
def loadAndMigrateFromFile (read : Except String Unit) (write : WriteEnd)
    (file : Option ByteArray) : Except ConfigError (AppConfig zones Rest) × Option ByteArray :=
  match loadFromFile format path read file with
  | .error e => (.error e, file)
  | .ok config =>
    let (config, migrated) := migrateLoadedConfig config
    if migrated then (.ok config, (saveToFile format path write config file).2)
    else (.ok config, file)

/-- `with_path`, with the file that it leaves. -/
def withPath (answers : Answers) (file : Option ByteArray) :
    Except ConfigError (ConfigManager zones Rest) × Option ByteArray :=
  match answers.createDir with
  | .error e => (.error ⟨s!"Failed to create config directory: {parent}: {e}"⟩, file)
  | .ok () =>
    if file.isSome then
      match loadAndMigrateFromFile format path answers.read answers.write file with
      | (.ok config, file) => (.ok ⟨file, config⟩, file)
      | (.error _, file) =>
        -- a failure to write the defaults is only logged
        let file := (saveToFile format path answers.write format.defaultConfig file).2
        (.ok ⟨file, format.defaultConfig⟩, file)
    else
      match saveToFile format path answers.write format.defaultConfig file with
      | (.error e, file) => (.error e, file)
      | (.ok (), file) => (.ok ⟨file, format.defaultConfig⟩, file)

namespace ConfigManager

/-- `update`, under the writer lock. -/
def update (write : WriteEnd) (newConfig : AppConfig zones Rest) (self : ConfigManager zones Rest) :
    Except ConfigError Unit × ConfigManager zones Rest :=
  match saveToFile format path write newConfig self.file with
  | (.error e, file) => (.error e, { self with file })
  | (.ok (), file) => (.ok (), ⟨file, newConfig⟩)

/-- `update_with`, under the writer lock from the read to the write. -/
def updateWith (write : WriteEnd)
    (updater : AppConfig zones Rest → Except String (AppConfig zones Rest))
    (self : ConfigManager zones Rest) :
    Except ConfigError (AppConfig zones Rest) × ConfigManager zones Rest :=
  match updater self.memory with
  | .error message => (.error ⟨message⟩, self)
  | .ok newConfig =>
    match saveToFile format path write newConfig self.file with
    | (.error e, file) => (.error e, { self with file })
    | (.ok (), file) => (.ok newConfig, ⟨file, newConfig⟩)

end ConfigManager

end

/-- A change of the configuration. -/
inductive ConfigUpdate (zones : Zones) (Rest : Type) where
  | update (newConfig : AppConfig zones Rest)
  | updateWith (updater : AppConfig zones Rest → Except String (AppConfig zones Rest))

/-- The configuration that a change puts in the place of another. -/
def ConfigUpdate.newConfig (memory : AppConfig zones Rest) :
    ConfigUpdate zones Rest → Except String (AppConfig zones Rest)
  | .update newConfig => .ok newConfig
  | .updateWith updater => updater memory

/-- What a loaded configuration becomes. -/
def loaded (config : AppConfig zones Rest) : AppConfig zones Rest := (migrateLoadedConfig config).1

section

variable (format : ConfigFormat zones Rest) (parent path : String)

/-- The manager after a change; when the process dies in it, only the file is left of it. -/
def ConfigUpdate.run (write : WriteEnd) (self : ConfigManager zones Rest) :
    ConfigUpdate zones Rest → ConfigManager zones Rest
  | .update newConfig => (self.update format path write newConfig).2
  | .updateWith updater => (self.updateWith format path write updater).2

/-- A configuration and its text. -/
structure StoredConfig where
  config : AppConfig zones Rest
  text : String
  written : format.toStringPretty config = .ok text

end

/-! ## Loading -/

section

variable {format : ConfigFormat zones Rest} {parent path : String}

@[simp] theorem fromUTF8?_toByteArray (text : String) :
    String.fromUTF8? text.toByteArray = some text :=
  dif_pos text.isValidUTF8

/-- **A whole text loads.** -/
theorem loadFromFile_of_text {config : AppConfig zones Rest} {text : String}
    (h : format.toStringPretty config = .ok text) :
    loadFromFile format path (.ok ()) (some text.toByteArray) = .ok config := by
  have hread : readToString (.ok ()) (some text.toByteArray) = .ok text := by
    simp only [readToString, fromUTF8?_toByteArray]
    rfl
  simp only [loadFromFile, hread, format.text_reads_back config text h]

/-- **The beginning of a text does not load.** -/
theorem loadFromFile_of_cut {config : AppConfig zones Rest} {text : String} {bytes : Nat}
    (h : format.toStringPretty config = .ok text) (hlt : bytes < text.toByteArray.size) :
    ∃ e, loadFromFile format path (.ok ()) (some (text.toByteArray.extract 0 bytes)) = .error e := by
  cases hdecode : String.fromUTF8? (text.toByteArray.extract 0 bytes) with
  | none =>
    -- the cut is inside a character
    have hread : readToString (.ok ()) (some (text.toByteArray.extract 0 bytes)) =
        .error "stream did not contain valid UTF-8" := by
      simp only [readToString, hdecode]
      rfl
    simp only [loadFromFile, hread]
    exact ⟨_, rfl⟩
  | some cut =>
    have hread : readToString (.ok ()) (some (text.toByteArray.extract 0 bytes)) = .ok cut := by
      simp only [readToString, hdecode]
      rfl
    obtain ⟨e, herror⟩ := format.truncated config text bytes cut h hlt hdecode
    simp only [loadFromFile, hread, herror]
    exact ⟨_, rfl⟩

variable {answers : Answers}

/-- A start finds the configuration whose text is in the file. -/
theorem withPath_of_text {config : AppConfig zones Rest} {text : String}
    (hdir : answers.createDir = .ok ()) (hread : answers.read = .ok ())
    (h : format.toStringPretty config = .ok text) :
    ∃ started, (withPath format parent path answers (some text.toByteArray)).1 = .ok started ∧
      started.memory = loaded config := by
  have hload := @loadFromFile_of_text _ _ _ path _ _ h
  by_cases hmigrated : (migrateLoadedConfig config).2 = true
  · simp only [withPath, hdir, hread, loadAndMigrateFromFile, hload, hmigrated, Option.isSome_some,
      if_true]
    exact ⟨_, rfl, rfl⟩
  · simp only [withPath, hdir, hread, loadAndMigrateFromFile, hload, hmigrated, Option.isSome_some,
      if_true]
    exact ⟨_, rfl, rfl⟩

/-- A start over the beginning of a text yields the defaults. -/
theorem withPath_of_cut {config : AppConfig zones Rest} {text : String} {bytes : Nat}
    (hdir : answers.createDir = .ok ()) (hread : answers.read = .ok ())
    (h : format.toStringPretty config = .ok text) (hlt : bytes < text.toByteArray.size) :
    ∃ started,
      (withPath format parent path answers (some (text.toByteArray.extract 0 bytes))).1 =
        .ok started ∧ started.memory = format.defaultConfig := by
  obtain ⟨e, hload⟩ := @loadFromFile_of_cut _ _ _ path _ _ _ h hlt
  simp only [withPath, hdir, hread, loadAndMigrateFromFile, hload, Option.isSome_some, if_true]
  exact ⟨_, rfl, rfl⟩

/-! ## What an interrupted change leaves -/

/-- **What a save can do to the file**: nothing, write the whole text, or leave the beginning of it. -/
theorem file_saveToFile (write : WriteEnd) (config : AppConfig zones Rest)
    (file : Option ByteArray) :
    (saveToFile format path write config file).2 = file ∨
      ∃ text, format.toStringPretty config = .ok text ∧
        ((saveToFile format path write config file).2 = some text.toByteArray ∨
          ∃ bytes error, write = .stopped bytes error ∧ bytes < text.toByteArray.size ∧
            (saveToFile format path write config file).2 =
              some (text.toByteArray.extract 0 bytes)) := by
  cases htext : format.toStringPretty config with
  | error e => exact .inl (by simp only [saveToFile, htext])
  | ok text =>
    have hfile : (saveToFile format path write config file).2 =
        write.file text.toByteArray file := by
      simp only [saveToFile, htext]
      cases write <;> rfl
    rw [hfile]
    cases write with
    | complete => exact .inr ⟨text, rfl, .inl rfl⟩
    | refused error => exact .inl rfl
    | stopped bytes error =>
      by_cases hlt : bytes < text.toByteArray.size
      · exact .inr ⟨text, rfl, .inr ⟨bytes, error, rfl, hlt, rfl⟩⟩
      · refine .inr ⟨text, rfl, .inl ?_⟩
        show some (text.toByteArray.extract 0 bytes) = some text.toByteArray
        rw [← Nat.max_eq_left (Nat.le_of_not_lt hlt), ByteArray.extract_zero_max_size]

/-- The file after a change is the file after a save, if there is something to save. -/
theorem file_run (write : WriteEnd) (self : ConfigManager zones Rest)
    (upd : ConfigUpdate zones Rest) :
    (upd.run format path write self).file =
      match upd.newConfig self.memory with
      | .error _ => self.file
      | .ok newConfig => (saveToFile format path write newConfig self.file).2 := by
  cases upd with
  | update newConfig =>
    show (self.update format path write newConfig).2.file =
      (saveToFile format path write newConfig self.file).2
    unfold ConfigManager.update
    split
    · next heq => rw [heq]
    · next heq => rw [heq]
  | updateWith updater =>
    show (self.updateWith format path write updater).2.file = _
    simp only [ConfigManager.updateWith, ConfigUpdate.newConfig]
    cases updater self.memory with
    | error message => rfl
    | ok newConfig =>
      dsimp only
      split
      · next heq => rw [heq]
      · next heq => rw [heq]

/-- The write of a change stopped after the file was emptied and before its last byte. -/
def Torn (format : ConfigFormat zones Rest) (memory : AppConfig zones Rest)
    (upd : ConfigUpdate zones Rest) (write : WriteEnd) : Prop :=
  ∃ newConfig text bytes error, upd.newConfig memory = .ok newConfig ∧
    format.toStringPretty newConfig = .ok text ∧ write = .stopped bytes error ∧
    bytes < text.toByteArray.size

/-- The configuration is the old one or the new one, as a start loads them. -/
def OldOrNew (stored : StoredConfig format) (memory : AppConfig zones Rest)
    (upd : ConfigUpdate zones Rest) (config : AppConfig zones Rest) : Prop :=
  config = loaded stored.config ∨
    ∃ newConfig, upd.newConfig memory = .ok newConfig ∧ config = loaded newConfig

/-- **Surviving a crash**: whatever becomes of the write, the next start that can read the file
    yields the old or the new configuration. -/
def SurvivesCrash (parent path : String) (stored : StoredConfig format)
    (memory : AppConfig zones Rest) (upd : ConfigUpdate zones Rest) (write : WriteEnd) : Prop :=
  ∀ answers : Answers, answers.createDir = .ok () → answers.read = .ok () →
    ∃ started,
      (withPath format parent path answers
        (upd.run format path write ⟨some stored.text.toByteArray, memory⟩).file).1 = .ok started ∧
      OldOrNew stored memory upd started.memory

/-- **The configuration survives a crash** exactly when the write is not torn, or the defaults are
    the old or the new configuration anyway. -/
theorem survives_crash_iff (stored : StoredConfig format) (memory : AppConfig zones Rest)
    (upd : ConfigUpdate zones Rest) (write : WriteEnd) :
    SurvivesCrash parent path stored memory upd write ↔
      (Torn format memory upd write → OldOrNew stored memory upd format.defaultConfig) := by
  constructor
  · rintro h ⟨newConfig, text, bytes, error, hnew, htext, rfl, hlt⟩
    obtain ⟨started, hstart, hmemory⟩ := h ⟨.ok (), .ok (), .complete⟩ rfl rfl
    have hfile : (upd.run format path (.stopped bytes error)
        ⟨some stored.text.toByteArray, memory⟩).file = some (text.toByteArray.extract 0 bytes) := by
      rw [file_run]
      simp only [hnew, saveToFile, htext, WriteEnd.result, WriteEnd.file]
    rw [hfile] at hstart
    obtain ⟨started', hstart', hdefault⟩ :=
      @withPath_of_cut _ _ format parent path ⟨.ok (), .ok (), .complete⟩ _ _ _ rfl rfl htext hlt
    cases hstart.symm.trans hstart'
    rw [hdefault] at hmemory
    exact hmemory
  · intro htorn answers hdir hread
    have hold := @withPath_of_text _ _ format parent path answers _ _ hdir hread stored.written
    have hstays : ∃ started,
        (withPath format parent path answers (some stored.text.toByteArray)).1 = .ok started ∧
          OldOrNew stored memory upd started.memory := by
      obtain ⟨started, hstart, hmemory⟩ := hold
      exact ⟨started, hstart, .inl hmemory⟩
    rw [file_run]
    cases hnew : upd.newConfig memory with
    | error message =>
      dsimp only
      exact hstays
    | ok newConfig =>
      dsimp only
      rcases @file_saveToFile _ _ format path write newConfig
        (some stored.text.toByteArray) with hsame | ⟨text, htext, hwhole | hcut⟩
      · rw [hsame]
        exact hstays
      · rw [hwhole]
        obtain ⟨started, hstart, hmemory⟩ :=
          @withPath_of_text _ _ format parent path answers _ _ hdir hread htext
        exact ⟨started, hstart, .inr ⟨newConfig, hnew, hmemory⟩⟩
      · obtain ⟨bytes, error, hwrite, hlt, hfile⟩ := hcut
        rw [hfile]
        obtain ⟨started, hstart, hdefault⟩ :=
          @withPath_of_cut _ _ format parent path answers _ _ _ hdir hread htext hlt
        refine ⟨started, hstart, ?_⟩
        rw [hdefault]
        exact htorn ⟨newConfig, text, bytes, error, hnew, htext, hwrite, hlt⟩

end

/-- A machine on UTC that knows no other zone. -/
def utcOnly : Zones := ⟨fun _ => 0, fun _ => none⟩

/-- A configuration that keeps one application out of everything. -/
def signalExcluded : ExcerptConfig utcOnly := { excerptDefault utcOnly with rest := ["Signal"] }

/-- The same, with a slower poll. -/
def slowerPoll : ExcerptConfig utcOnly :=
  { signalExcluded with monitor := ⟨2000, 10000, 30000⟩ }

/-- The defaults and these two. -/
def signalTexts : ExcerptTexts utcOnly where
  configs := [excerptDefault utcOnly, signalExcluded, slowerPoll]
  apart := by decide +kernel

/-- A text is not empty. -/
theorem excerptText_pos (config : ExcerptConfig zones) :
    0 < (String.ofList (excerptText config)).toByteArray.size := by
  refine Nat.pos_of_ne_zero fun hzero => ?_
  have hempty : String.ofList (excerptText config) = String.ofList [] :=
    String.utf8ByteSize_eq_zero_iff.mp hzero
  cases String.ofList_injective hempty

/-- The process dies when the file has been emptied: the next start knows no excluded application. -/
theorem torn_write_resets :
    ¬ ∀ (zones : Zones) (Rest : Type) (format : ConfigFormat zones Rest) (parent path : String)
      (stored : StoredConfig format) (memory : AppConfig zones Rest)
      (upd : ConfigUpdate zones Rest) (write : WriteEnd),
      SurvivesCrash parent path stored memory upd write := by
  intro h
  have hwritten : ∀ config ∈ signalTexts.configs,
      signalTexts.format.toStringPretty config = .ok (.ofList (excerptText config)) :=
    fun config hmem => if_pos hmem
  have hold := hwritten signalExcluded (List.mem_cons_of_mem _ List.mem_cons_self)
  obtain ⟨started, hstart, hmemory⟩ := h utcOnly (List String) signalTexts.format "/home/u/oneshim"
    "/home/u/oneshim/config.json" ⟨signalExcluded, _, hold⟩ signalExcluded (.update slowerPoll)
    (.stopped 0 "killed") ⟨.ok (), .ok (), .complete⟩ rfl rfl
  have hnew := hwritten slowerPoll
    (List.mem_cons_of_mem _ (List.mem_cons_of_mem _ List.mem_cons_self))
  have hfile : ((ConfigUpdate.update slowerPoll).run signalTexts.format "/home/u/oneshim/config.json"
      (.stopped 0 "killed")
      ⟨some (String.ofList (excerptText signalExcluded)).toByteArray, signalExcluded⟩).file =
        some ((String.ofList (excerptText slowerPoll)).toByteArray.extract 0 0) := by
    rw [file_run]
    simp only [ConfigUpdate.newConfig, saveToFile, hnew, WriteEnd.result, WriteEnd.file]
  rw [hfile] at hstart
  obtain ⟨started', hstart', hdefault⟩ := @withPath_of_cut _ _ signalTexts.format "/home/u/oneshim"
    "/home/u/oneshim/config.json" ⟨.ok (), .ok (), .complete⟩ _ _ 0 rfl rfl hnew
    (excerptText_pos slowerPoll)
  cases hstart.symm.trans hstart'
  rw [hdefault] at hmemory
  have hdiffers : ([] : List String) ≠ ["Signal"] := by decide
  rcases hmemory with hsame | ⟨newConfig, hnewConfig, hsame⟩
  · exact hdiffers (congrArg AppConfig.rest hsame)
  · cases hnewConfig
    exact hdiffers (congrArg AppConfig.rest hsame)

end Oneshim.Config
