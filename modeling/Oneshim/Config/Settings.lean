/-
  Changing settings (`src-tauri/src/commands/{mod,settings,tracking_schedule}.rs`).

  `update_setting` takes a JSON patch: it reads the configuration, merges the patch into it and hands
  the result to the manager's `update`.  `set_tracking_schedule` and other commands go through
  `update_with`, which reads and writes under one lock.

  1. **Code** — `deepMerge`, the checks of a patch, and `SettingsCall`: where a call stands.  An
     `update_setting` takes two turns, the read and the write.

  2. **Merging** (`valueAt_deepMerge`) — a merge leaves what the patch does not touch.

  3. **What a turn does** (`turn_cases`) — it writes a configuration in which nothing but the settings
     of its request differs from the one that it READ.

  4. **The result** (`no_update_lost_iff`) — when all calls return `Ok` and patch disjoint settings,
     the configuration has the effect of every one of them exactly when no `update_setting` writes
     over settings that have changed since it read them.
-/
import Oneshim.Config.ConfigManager
import Oneshim.Lib.Calls

namespace Oneshim.Config

open Lib

variable {zones : Zones} {Rest : Type}

/-! ## The code -/

/-- `IpcError`. -/
structure IpcError where
  code : String
  message : String

/-- `validation_error`. -/
def validationError (message : String) : IpcError := ⟨"validation.invalid_arguments", message⟩

/-- `From<CoreError>`, of a `CoreError::Config`. -/
def IpcError.ofConfigError (e : ConfigError) : IpcError :=
  ⟨"config.invalid", s!"Configuration error [config.invalid]: {e.message}"⟩

/-- `From<serde_json::Error>`. -/
def IpcError.ofSerdeError (e : String) : IpcError :=
  ⟨"internal.serialization", s!"Serialization error [internal.serialization]: {e}"⟩

/-- `insert` into an object. -/
def setField (key : String) (v : Json) : List (String × Json) → List (String × Json)
  | [] => [(key, v)]
  | (k, old) :: fields => if key = k then (k, v) :: fields else (k, old) :: setField key v fields

mutual

/-- `deep_merge`. -/
def deepMerge (base : Json) : Json → Json
  | .obj patchObj =>
    match base with
    | .obj baseObj => .obj (mergeFields baseObj patchObj)
    | _ => .obj patchObj
  | patch => patch

def mergeFields (base : List (String × Json)) : List (String × Json) → List (String × Json)
  | [] => base
  | field :: fields => mergeFields (mergeField base field) fields

/-- One field; `entry(k).or_insert(Null)` is what it is merged into. -/
def mergeField (base : List (String × Json)) : String × Json → List (String × Json)
  | (key, v) => setField key (deepMerge ((base.lookup key).getD .null) v) base

end

/-- `ALLOWED_KEYS`. -/
def allowedKeys : List String :=
  ["monitoring", "capture", "notification", "web", "schedule", "telemetry", "privacy", "update",
    "language", "theme", "analysis", "audio", "coaching", "tracking_schedule"]

/-- `FORBIDDEN_ALLOWED_SUBPATHS`. -/
def forbiddenAllowedSubpaths : List (String × List String) := [("web", ["integration_auth_token"])]

/-- `reject_forbidden_allowed_subpaths`. -/
def rejectForbiddenAllowedSubpaths (patch : Json) : Except String Unit :=
  forbiddenAllowedSubpaths.forM fun (section_, fields) =>
    match patch.get section_ with
    | none => .ok ()
    | some sectionValue => fields.forM fun field =>
      if (valueAt (field.splitOn ".") sectionValue).isSome then
        .error s!"modifying '{section_}.{field}' from the WebView is not permitted"
      else .ok ()

/-- `validate_config_bounds`. -/
def validateConfigBounds (config : AppConfig zones Rest) : Except String Unit := do
  if config.monitor.pollIntervalMs < 1000 then
    throw s!"monitor.poll_interval_ms must be >= 1000 (got {config.monitor.pollIntervalMs})"
  if config.monitor.syncIntervalMs < 1000 then
    throw s!"monitor.sync_interval_ms must be >= 1000 (got {config.monitor.syncIntervalMs})"
  if config.monitor.heartbeatIntervalMs < 5000 then
    throw (s!"monitor.heartbeat_interval_ms must be >= 5000 " ++
      s!"(got {config.monitor.heartbeatIntervalMs})")
  if config.vision.captureThrottleMs < 1000 then
    throw s!"vision.capture_throttle_ms must be >= 1000 (got {config.vision.captureThrottleMs})"
  if config.analysis.maxSuggestions > 200 then
    throw s!"analysis.max_suggestions must be <= 200 (got {config.analysis.maxSuggestions})"
  if config.analysis.throttleSecs < 10 then
    throw s!"analysis.throttle_secs must be >= 10 (got {config.analysis.throttleSecs})"
  if config.notification.idleNotificationMins = 0 then
    throw "notification.idle_notification_mins must be >= 1 (got 0)"

/-- `parse_hhmm_local`: the hour and the minute. -/
def parseHhmmLocal (s : String) (field : String) : Except String (Nat × Nat) :=
  if s.isEmpty then .error s!"'{field}' must not be empty"
  else
    let malformed := s!"'{field}' is not a valid HH:MM value (got '{s}')"
    match Lib.Text.cutAt [':'] s.toList with
    | none => .error malformed
    | some (hours, minutes) =>
      if byteLength hours ≠ 2 ∨ byteLength minutes ≠ 2 then .error malformed
      else
        match Lib.Text.parseUnsigned (2 ^ 32) hours with
        | none => .error s!"'{field}' hour is not a number (got '{s}')"
        | some h =>
          match Lib.Text.parseUnsigned (2 ^ 32) minutes with
          | none => .error s!"'{field}' minute is not a number (got '{s}')"
          | some m =>
            if h < 24 ∧ m < 60 then .ok (h, m) else .error s!"'{field}' is out of range (got '{s}')"

/-- `validate_hhmm`. -/
def validateHhmm (s : String) (field : String) : Except IpcError Unit :=
  match parseHhmmLocal s field with
  | .ok _ => .ok ()
  | .error message => .error (validationError message)

/-- `validate_tracking_schedule`. -/
def validateTrackingSchedule (zones : Zones) (cfg : TrackingScheduleConfig) :
    Except IpcError Unit := do
  cfg.windows.forM fun window => do
    validateHhmm window.start "start"
    validateHhmm window.stop "end"
  if cfg.timezone ≠ "Local" ∧ zones.parse cfg.timezone = none then
    throw (validationError (s!"unknown or unsupported timezone '{cfg.timezone}'; use an IANA name " ++
      "(e.g. 'America/New_York') or 'Local'"))

/-- The loop of `update_setting` over the keys of the patch. -/
def mergePatch (currentVal : Json) (patchObj : List (String × Json)) : Json :=
  match currentVal with
  | .obj base => .obj (mergeFields base patchObj)
  | other => other

/-- The part of `update_setting` before the write: the patch is checked, merged into the current
    configuration and the result is checked; `parse` is `serde_json::from_str`. -/
def mergeSetting (format : ConfigFormat zones Rest) (parse : String → Except String Json)
    (current : AppConfig zones Rest) (configJson : String) :
    Except IpcError (AppConfig zones Rest) :=
  match parse configJson with
  | .error e => .error (validationError e)
  | .ok (.obj patchObj) =>
    match patchObj.find? fun field => !allowedKeys.contains field.1 with
    | some (key, _) =>
      .error (validationError (s!"modifying '{key}' from the WebView is not permitted; " ++
        "allowed: " ++ String.intercalate ", " allowedKeys))
    | none =>
      match rejectForbiddenAllowedSubpaths (.obj patchObj) with
      | .error message => .error (validationError message)
      | .ok () =>
        match format.fromValue (mergePatch (format.toValue current) patchObj) with
        | .error e => .error (.ofSerdeError e)
        | .ok newConfig =>
          match validateConfigBounds newConfig with
          | .error message => .error (validationError message)
          | .ok () => .ok newConfig
  | .ok _ => .error (validationError "expected JSON object")

/-- What another command hands to `update_with`: the change, and the settings that it patches. -/
structure Updater (format : ConfigFormat zones Rest) where
  run : AppConfig zones Rest → Except String (AppConfig zones Rest)
  patches : List String → Prop
  frame : ∀ config config', run config = .ok config' → ∀ path, format.setting path →
    ¬ patches path → format.valueOf path config' = format.valueOf path config

/-- A request. -/
inductive SettingsRequest (format : ConfigFormat zones Rest) where
  | updateSetting (configJson : String)
  | setTrackingSchedule (cfg : AcceptedSchedule zones)
  | updateWith (updater : Updater format)

/-- Where a call stands. -/
inductive SettingsStage (zones : Zones) (Rest : Type) where
  | entered
  /-- `update_setting` has read `current` and is about to write `newConfig`. -/
  | merged (current newConfig : AppConfig zones Rest)
  /-- With the configuration that was written. -/
  | returned (result : Except IpcError (AppConfig zones Rest))

/-- A call. -/
structure SettingsCall (format : ConfigFormat zones Rest) where
  request : SettingsRequest format
  stage : SettingsStage zones Rest

section

variable (format : ConfigFormat zones Rest) (path : String) (parse : String → Except String Json)

/-- `set_tracking_schedule_inner_with_manager`. -/
def setTrackingSchedule (write : WriteEnd) (cfg : AcceptedSchedule zones)
    (manager : ConfigManager zones Rest) :
    Except IpcError (AppConfig zones Rest) × ConfigManager zones Rest :=
  match validateTrackingSchedule zones cfg.cfg with
  | .error e => (.error e, manager)
  | .ok () =>
    let (result, manager) := manager.updateWith format path write fun appCfg =>
      .ok { appCfg with trackingSchedule := cfg }
    (result.mapError .ofConfigError, manager)

/-- A call up to the next point at which others run; `write` is how a save ends. -/
def SettingsCall.turn (manager : ConfigManager zones Rest) (_caller : Nat) (write : WriteEnd)
    (call : SettingsCall format) : ConfigManager zones Rest × SettingsCall format :=
  match call.stage with
  | .entered =>
    match call.request with
    | .updateSetting configJson =>
      match mergeSetting format parse manager.memory configJson with
      | .error e => (manager, { call with stage := .returned (.error e) })
      | .ok newConfig => (manager, { call with stage := .merged manager.memory newConfig })
    | .setTrackingSchedule cfg =>
      let (result, manager) := setTrackingSchedule format path write cfg manager
      (manager, { call with stage := .returned result })
    | .updateWith updater =>
      let (result, manager) := manager.updateWith format path write updater.run
      (manager, { call with stage := .returned (result.mapError .ofConfigError) })
  | .merged _ newConfig =>
    let (result, manager) := manager.update format path write newConfig
    (manager, { call with stage := .returned ((result.mapError .ofConfigError).map fun _ => newConfig) })
  | .returned result => (manager, { call with stage := .returned result })

/-- The calls over the manager. -/
def settingsCalls : CallSystem (ConfigManager zones Rest) (SettingsRequest format) WriteEnd
    (SettingsCall format) where
  enter request := ⟨request, .entered⟩
  turn := SettingsCall.turn format path parse

end

/-- The manager and its callers. -/
abbrev SettingsSystem (format : ConfigFormat zones Rest) :=
  Calls (ConfigManager zones Rest) (SettingsCall format)

/-- What can happen next. -/
abbrev SettingsMove (format : ConfigFormat zones Rest) := CallMove (SettingsRequest format) WriteEnd

/-! ## What a request patches -/

/-- The patch does not reach the place: on the way to it there is an object without the next key. -/
def Untouched : List String → Json → Prop
  | key :: path, .obj fields => ∀ v, (key, v) ∈ fields → Untouched path v
  | _, _ => False

/-- The settings that a request patches. -/
def SettingsRequest.patches {format : ConfigFormat zones Rest}
    (parse : String → Except String Json) (path : List String) : SettingsRequest format → Prop
  | .updateSetting configJson => ∃ patch, parse configJson = .ok patch ∧ ¬ Untouched path patch
  | .setTrackingSchedule _ => path.head? = some "tracking_schedule"
  | .updateWith updater => updater.patches path

/-! ## Merging -/

theorem lookup_cons_ite (key k : String) (v : Json) (fields : List (String × Json)) :
    ((k, v) :: fields).lookup key = if key = k then some v else fields.lookup key := by
  rw [List.lookup_cons]
  by_cases hk : key = k
  · rw [if_pos hk, beq_iff_eq.mpr hk]
  · rw [if_neg hk, beq_eq_false_iff_ne.mpr hk]

/-- A field that is set is found, and the others stay. -/
theorem lookup_setField (key key' : String) (v : Json) (fields : List (String × Json)) :
    (setField key v fields).lookup key' = if key' = key then some v else fields.lookup key' := by
  induction fields with
  | nil => exact lookup_cons_ite key' key v []
  | cons field fields ih =>
    obtain ⟨k, old⟩ := field
    by_cases hk : key = k
    · subst hk
      rw [setField, if_pos rfl, lookup_cons_ite, lookup_cons_ite]
      split
      · rfl
      · rfl
    · rw [setField, if_neg hk, lookup_cons_ite, lookup_cons_ite, ih]
      by_cases hk' : key' = k
      · rw [if_pos hk', if_neg (fun h => hk (h.symm.trans hk')), if_pos hk']
      · rw [if_neg hk', if_neg hk']

theorem exists_obj_of_untouched {path : List String} {patch : Json} (h : Untouched path patch) :
    ∃ key rest fields, path = key :: rest ∧ patch = .obj fields := by
  cases path with
  | nil => cases patch <;> exact h.elim
  | cons key path =>
    cases patch with
    | obj fields => exact ⟨key, path, fields, rfl, rfl⟩
    | _ => exact h.elim

/-- Where a patch does not reach, it has no value. -/
theorem valueAt_of_untouched {path : List String} {patch : Json} (h : Untouched path patch) :
    valueAt path patch = none := by
  induction path generalizing patch with
  | nil =>
    obtain ⟨key, rest, fields, hpath, -⟩ := exists_obj_of_untouched h
    cases hpath
  | cons key path ih =>
    obtain ⟨_, _, fields, hpath, rfl⟩ := exists_obj_of_untouched h
    show (fields.lookup key).bind (valueAt path) = none
    cases hlookup : fields.lookup key with
    | none => rfl
    | some v =>
      obtain ⟨before, after, rfl, -⟩ := List.lookup_eq_some_iff.mp hlookup
      exact ih (h v (List.mem_append_right _ List.mem_cons_self))

/-- An object is merged field by field; anything else has no fields and is replaced. -/
theorem deepMerge_obj_cases (base : Json) (patchObj : List (String × Json)) :
    (∃ baseObj, base = .obj baseObj ∧
      deepMerge base (.obj patchObj) = .obj (mergeFields baseObj patchObj)) ∨
    (deepMerge base (.obj patchObj) = .obj patchObj ∧ ∀ key, base.get key = none) := by
  cases base with
  | obj baseObj => exact .inl ⟨baseObj, rfl, by rw [deepMerge]⟩
  | _ => exact .inr ⟨rfl, fun _ => rfl⟩

/-- **A merge leaves what the patch does not touch.** -/
theorem valueAt_deepMerge {path : List String} {base patch : Json} (h : Untouched path patch) :
    valueAt path (deepMerge base patch) = valueAt path base := by
  induction path generalizing base patch with
  | nil =>
    obtain ⟨key, rest, fields, hpath, -⟩ := exists_obj_of_untouched h
    cases hpath
  | cons key path ih =>
    obtain ⟨_, _, patchObj, hpath, rfl⟩ := exists_obj_of_untouched h
    cases hpath
    have hempty : path ≠ [] → valueAt path .null = none := by
      intro hne
      cases path with
      | nil => exact absurd rfl hne
      | cons k rest => rfl
    -- field by field: a field under another key changes nothing here, one under this key is merged
    have hfields : ∀ (fields baseObj : List (String × Json)),
        (∀ v, (key, v) ∈ fields → Untouched path v) →
        ((mergeFields baseObj fields).lookup key).bind (valueAt path) =
          (baseObj.lookup key).bind (valueAt path) := by
      intro fields
      induction fields with
      | nil => exact fun _ _ => by rw [mergeFields]
      | cons field fields ihfields =>
        intro baseObj hall
        obtain ⟨k, v⟩ := field
        rw [mergeFields, ihfields _ fun v' hv' => hall v' (List.mem_cons_of_mem _ hv'), mergeField,
          lookup_setField]
        by_cases hk : key = k
        · subst hk
          have hv := hall v List.mem_cons_self
          obtain ⟨_, _, _, hne, -⟩ := exists_obj_of_untouched hv
          rw [if_pos rfl]
          show valueAt path (deepMerge _ v) = _
          rw [ih hv]
          cases baseObj.lookup key with
          | none => exact hempty (hne ▸ List.cons_ne_nil _ _)
          | some old => rfl
        · rw [if_neg hk]
    rcases deepMerge_obj_cases base patchObj with ⟨baseObj, rfl, hmerge⟩ | ⟨hmerge, hbase⟩
    · rw [hmerge]
      exact hfields patchObj baseObj h
    · -- the base has no fields and becomes the patch, which has nothing at this place
      rw [hmerge, valueAt_of_untouched h]
      show none = (base.get key).bind (valueAt path)
      rw [hbase key]
      rfl

theorem valueAt_mergePatch {path : List String} {currentVal : Json}
    {patchObj : List (String × Json)} (h : Untouched path (.obj patchObj)) :
    valueAt path (mergePatch currentVal patchObj) = valueAt path currentVal := by
  cases currentVal with
  | obj base =>
    have hmerge := @valueAt_deepMerge path (.obj base) _ h
    rwa [deepMerge] at hmerge
  | _ => rfl

/-! ## What a turn does -/

section

variable {format : ConfigFormat zones Rest} {path : String} {parse : String → Except String Json}

/-- Nothing but what the request patches differs. -/
def OnlyPatches (parse : String → Except String Json) (request : SettingsRequest format)
    (old new : AppConfig zones Rest) : Prop :=
  ∀ place, format.setting place → ¬ request.patches parse place →
    format.valueOf place new = format.valueOf place old

/-- **The merged configuration** differs from the one that was read in what the patch touches. -/
theorem onlyPatches_mergeSetting {current newConfig : AppConfig zones Rest} {configJson : String}
    (h : mergeSetting format parse current configJson = .ok newConfig) :
    @OnlyPatches _ _ format parse (.updateSetting configJson) current newConfig := by
  intro place hsetting hpatches
  unfold mergeSetting at h
  split at h
  · cases h
  · next patchObj hparse =>
    split at h
    · cases h
    · split at h
      · cases h
      · split at h
        · cases h
        · next merged hread =>
          split at h
          · cases h
          · cases h
            have huntouched : Untouched place (.obj patchObj) := by
              by_contra htouched
              exact hpatches ⟨_, hparse, htouched⟩
            exact ConfigFormat.valueOf_fromValue hsetting hread (valueAt_mergePatch huntouched)
  · cases h

theorem onlyPatches_trackingSchedule (cfg : AcceptedSchedule zones)
    (config : AppConfig zones Rest) :
    @OnlyPatches _ _ format parse (.setTrackingSchedule cfg) config
      { config with trackingSchedule := cfg } :=
  fun place hsetting hpatches => format.writes_own config cfg place hsetting hpatches

/-- **What a save can do**: the new configuration is in memory and in the file, or the call fails and
    memory is as it was. -/
theorem update_cases (write : WriteEnd) (newConfig : AppConfig zones Rest)
    (manager : ConfigManager zones Rest) :
    ((manager.update format path write newConfig).1 = .ok () ∧
      (manager.update format path write newConfig).2.memory = newConfig ∧
      loadFromFile format path (.ok ()) (manager.update format path write newConfig).2.file =
        .ok newConfig) ∨
    ((∃ e, (manager.update format path write newConfig).1 = .error e) ∧
      (manager.update format path write newConfig).2.memory = manager.memory) := by
  cases htext : format.toStringPretty newConfig with
  | error e =>
    refine .inr ⟨⟨⟨s!"Failed to serialize config: {e}"⟩, ?_⟩, ?_⟩
    · simp only [ConfigManager.update, saveToFile, htext]
    · simp only [ConfigManager.update, saveToFile, htext]
  | ok text =>
    cases hresult : write.result with
    | error e =>
      refine .inr ⟨⟨⟨s!"Failed to write config file: {path}: {e}"⟩, ?_⟩, ?_⟩
      · simp only [ConfigManager.update, saveToFile, htext, hresult]
      · simp only [ConfigManager.update, saveToFile, htext, hresult]
    | ok _ =>
      obtain rfl : write = .complete := by
        cases write with
        | complete => rfl
        | refused error => cases hresult
        | stopped bytes error => cases hresult
      have hupdate : manager.update format path .complete newConfig =
          (.ok (), ⟨some text.toByteArray, newConfig⟩) := by
        simp only [ConfigManager.update, saveToFile, htext, WriteEnd.result, WriteEnd.file]
      rw [hupdate]
      exact .inl ⟨rfl, rfl, loadFromFile_of_text htext⟩

theorem updateWith_eq {manager : ConfigManager zones Rest} {newConfig : AppConfig zones Rest}
    {updater : AppConfig zones Rest → Except String (AppConfig zones Rest)} (write : WriteEnd)
    (h : updater manager.memory = .ok newConfig) :
    manager.updateWith format path write updater =
      ((manager.update format path write newConfig).1.map fun _ => newConfig,
        (manager.update format path write newConfig).2) := by
  simp only [ConfigManager.updateWith, ConfigManager.update, h]
  split
  · rfl
  · rfl

variable {manager : ConfigManager zones Rest} {caller : Nat} {write : WriteEnd}
  {call : SettingsCall format}

/-- The request of a call never changes. -/
@[simp] theorem request_turn :
    (call.turn format path parse manager caller write).2.request = call.request := by
  unfold SettingsCall.turn
  split
  · split
    · split <;> rfl
    · rfl
    · rfl
  · rfl
  · rfl

/-- A call that has returned stays as it is. -/
theorem turn_of_returned {result : Except IpcError (AppConfig zones Rest)}
    (h : call.stage = .returned result) :
    call.turn format path parse manager caller write = (manager, call) := by
  unfold SettingsCall.turn
  rw [h]
  show (manager, (⟨call.request, .returned result⟩ : SettingsCall format)) = (manager, call)
  rw [← h]

/-- The call has put a configuration in place. -/
structure Wrote (format : ConfigFormat zones Rest) (path : String)
    (after : ConfigManager zones Rest × SettingsCall format) (newConfig : AppConfig zones Rest) :
    Prop where
  memory : after.1.memory = newConfig
  file : loadFromFile format path (.ok ()) after.1.file = .ok newConfig
  stage : after.2.stage = .returned (.ok newConfig)

/-- What an `update` at the end of a call does; `result` is what the call makes of its result. -/
theorem wrote_or_failed {newConfig : AppConfig zones Rest} {request : SettingsRequest format}
    {result : Except ConfigError Unit → Except IpcError (AppConfig zones Rest)}
    (hok : result (.ok ()) = .ok newConfig)
    (herror : ∀ e, ∃ e', result (.error e) = .error e') :
    Wrote format path ((manager.update format path write newConfig).2,
      ⟨request, .returned (result (manager.update format path write newConfig).1)⟩) newConfig ∨
    ∃ e, result (manager.update format path write newConfig).1 = .error e := by
  rcases @update_cases _ _ format path write newConfig manager with
    ⟨hupdate, hmemory, hfile⟩ | ⟨⟨e, hupdate⟩, -⟩
  · rw [hupdate]
    exact .inl ⟨hmemory, hfile, congrArg SettingsStage.returned hok⟩
  · rw [hupdate]
    exact .inr (herror e)

/-- The call returns: it has put in place a configuration that was merged before or that differs from
    the one in memory in what the request patches, or it has failed. -/
def Returns (path : String) (parse : String → Except String Json)
    (manager : ConfigManager zones Rest) (call : SettingsCall format)
    (after : ConfigManager zones Rest × SettingsCall format) : Prop :=
  (∃ newConfig, Wrote format path after newConfig ∧
    ((call.stage = .entered ∧ OnlyPatches parse call.request manager.memory newConfig) ∨
      ∃ current, call.stage = .merged current newConfig)) ∨
  ∃ e, after.2.stage = .returned (.error e)

/-- A call that goes through `update_with`. -/
theorem returns_of_updateWith {request : SettingsRequest format}
    {newConfig : AppConfig zones Rest}
    (honly : OnlyPatches parse request manager.memory newConfig) :
    Returns path parse manager ⟨request, .entered⟩
      ((manager.update format path write newConfig).2, ⟨request, .returned
        (((manager.update format path write newConfig).1.map fun _ => newConfig).mapError
          .ofConfigError)⟩) := by
  rcases @wrote_or_failed _ _ format path manager write newConfig request
    (fun result => (result.map fun _ => newConfig).mapError .ofConfigError) rfl
    (fun e => ⟨_, rfl⟩) with hwrote | ⟨e, herror⟩
  · exact .inl ⟨newConfig, hwrote, .inl ⟨rfl, honly⟩⟩
  · exact .inr ⟨e, congrArg SettingsStage.returned herror⟩

/-- **What a turn can do**: nothing to a call that has returned; read and merge; or return. -/
theorem turn_cases (call : SettingsCall format) (manager : ConfigManager zones Rest) (caller : Nat)
    (write : WriteEnd) :
    ((∃ result, call.stage = .returned result) ∧
      call.turn format path parse manager caller write = (manager, call)) ∨
    (call.stage = .entered ∧ ∃ newConfig, OnlyPatches parse call.request manager.memory newConfig ∧
      call.turn format path parse manager caller write =
        (manager, { call with stage := .merged manager.memory newConfig })) ∨
    Returns path parse manager call (call.turn format path parse manager caller write) := by
  obtain ⟨request, stage⟩ := call
  cases stage with
  | returned result => exact .inl ⟨⟨result, rfl⟩, turn_of_returned rfl⟩
  | merged current newConfig =>
    refine .inr (.inr ?_)
    rcases @wrote_or_failed _ _ format path manager write newConfig request
      (fun result => (result.mapError .ofConfigError).map fun _ => newConfig) rfl
      (fun e => ⟨_, rfl⟩) with hwrote | ⟨e, herror⟩
    · exact .inl ⟨newConfig, hwrote, .inr ⟨current, rfl⟩⟩
    · exact .inr ⟨e, congrArg SettingsStage.returned herror⟩
  | entered =>
    cases request with
    | updateSetting configJson =>
      cases hmerge : mergeSetting format parse manager.memory configJson with
      | error e =>
        refine .inr (.inr (.inr ⟨e, ?_⟩))
        simp only [SettingsCall.turn, hmerge]
      | ok newConfig =>
        refine .inr (.inl ⟨rfl, newConfig, onlyPatches_mergeSetting hmerge, ?_⟩)
        simp only [SettingsCall.turn, hmerge]
    | setTrackingSchedule cfg =>
      cases hvalid : validateTrackingSchedule zones cfg.cfg with
      | error e =>
        refine .inr (.inr (.inr ⟨e, ?_⟩))
        simp only [SettingsCall.turn, setTrackingSchedule, hvalid]
      | ok _ =>
        have hwith := @updateWith_eq _ _ format path manager _
          (fun appCfg => .ok { appCfg with trackingSchedule := cfg }) write rfl
        simp only [SettingsCall.turn, setTrackingSchedule, hvalid, hwith]
        exact .inr (.inr (returns_of_updateWith (onlyPatches_trackingSchedule cfg manager.memory)))
    | updateWith updater =>
      cases hrun : updater.run manager.memory with
      | error message =>
        refine .inr (.inr (.inr ⟨.ofConfigError ⟨message⟩, ?_⟩))
        simp only [SettingsCall.turn, ConfigManager.updateWith, hrun]
        rfl
      | ok newConfig =>
        have honly : OnlyPatches parse (.updateWith updater) manager.memory newConfig :=
          updater.frame _ _ hrun
        simp only [SettingsCall.turn, updateWith_eq write hrun]
        exact .inr (.inr (returns_of_updateWith honly))

/-! ## No update is lost -/

/-- A configuration has the effect of a call that returned: every setting that the request patches
    is as the call wrote it. -/
def SettingsCall.HasEffect (parse : String → Except String Json) (call : SettingsCall format)
    (written config : AppConfig zones Rest) : Prop :=
  ∀ place, format.setting place → call.request.patches parse place →
    format.valueOf place config = format.valueOf place written

/-- **No update is lost**: memory and file have the effect of every call that has returned `Ok`. -/
def KeepsUpdates (path : String) (parse : String → Except String Json) (s : SettingsSystem format) :
    Prop :=
  ∀ (i : Nat) call written, s.calls[i]? = some call → call.stage = .returned (.ok written) →
    call.HasEffect parse written s.shared.memory ∧
      ∃ saved, loadFromFile format path (.ok ()) s.shared.file = .ok saved ∧
        call.HasEffect parse written saved

/-- No call has failed. -/
def AllOk (s : SettingsSystem format) : Prop :=
  ∀ (i : Nat) call e, s.calls[i]? = some call → call.stage ≠ .returned (.error e)

/-- No two calls patch the same setting. -/
def DisjointSettings (parse : String → Except String Json) (s : SettingsSystem format) : Prop :=
  ∀ (i j : Nat) call other, i ≠ j → s.calls[i]? = some call → s.calls[j]? = some other →
    ∀ place, format.setting place → call.request.patches parse place →
      ¬ other.request.patches parse place

/-- A merged configuration is written over the settings that it was merged into. -/
def UnmovedSinceRead (manager : ConfigManager zones Rest) (_caller : Nat) (_write : WriteEnd)
    (call : SettingsCall format) : Prop :=
  ∀ current newConfig, call.stage = .merged current newConfig →
    format.SameSettings current manager.memory

/-- A call that has returned `Ok` has patched this setting. -/
def Patched (parse : String → Except String Json) (s : SettingsSystem format)
    (place : List String) : Prop :=
  ∃ (j : Nat) (other : SettingsCall format) (written : AppConfig zones Rest),
    s.calls[j]? = some other ∧ other.stage = .returned (.ok written) ∧
    other.request.patches parse place

/-- A merged configuration that waits to be written: it differs from the one that was read in what
    its request patches, and that one from memory in what others have patched. -/
def MergedFromMemory (parse : String → Except String Json) (s : SettingsSystem format) : Prop :=
  ∀ (i : Nat) call current newConfig, s.calls[i]? = some call →
    call.stage = .merged current newConfig →
      OnlyPatches parse call.request current newConfig ∧
      ∀ place, format.setting place →
        format.valueOf place current = format.valueOf place s.shared.memory ∨ Patched parse s place

/-- What holds in an undisturbed run, as long as no call has failed. -/
def SettingsInvariant (path : String) (parse : String → Except String Json)
    (s : SettingsSystem format) : Prop :=
  AllOk s → DisjointSettings parse s → KeepsUpdates path parse s ∧ MergedFromMemory parse s

variable {s : SettingsSystem format} {m : SettingsMove format}

/-- A call that has returned stays where it is. -/
theorem getElem?_of_returned {i : Nat} {call : SettingsCall format}
    {result : Except IpcError (AppConfig zones Rest)} (hcall : s.calls[i]? = some call)
    (hstage : call.stage = .returned result) :
    ((settingsCalls format path parse).step s m).calls[i]? = some call := by
  have hlt := (List.getElem?_eq_some_iff.mp hcall).1
  rcases (settingsCalls format path parse).step_cases s m with
    ⟨request, -, hs⟩ | ⟨index, write, -, ⟨-, hs⟩ | ⟨mover, hmover, hs⟩⟩
  · rw [hs]
    exact (List.getElem?_append_left hlt).trans hcall
  · rw [hs]
    exact hcall
  · rw [hs]
    by_cases hi : index = i
    · subst hi
      cases hmover.symm.trans hcall
      have hsame : ((settingsCalls format path parse).turn s.shared index write call).2 = call :=
        congrArg Prod.snd (@turn_of_returned _ _ format path parse s.shared index write call _ hstage)
      show (s.calls.set index _)[index]? = _
      rw [hsame, List.getElem?_set_self hlt]
    · exact (List.getElem?_set_ne hi).trans hcall

theorem Patched.step {place : List String} (h : Patched parse s place) :
    Patched parse ((settingsCalls format path parse).step s m) place := by
  obtain ⟨j, other, written, hj, hreturned, hpatches⟩ := h
  exact ⟨j, other, written, getElem?_of_returned hj hreturned, hreturned, hpatches⟩

/-- Every call keeps its number and its request. -/
theorem exists_request_step {i : Nat} {call : SettingsCall format} (hcall : s.calls[i]? = some call) :
    ∃ call', ((settingsCalls format path parse).step s m).calls[i]? = some call' ∧
      call'.request = call.request := by
  have hlt := (List.getElem?_eq_some_iff.mp hcall).1
  rcases (settingsCalls format path parse).step_cases s m with
    ⟨request, -, hs⟩ | ⟨index, write, -, ⟨-, hs⟩ | ⟨mover, hmover, hs⟩⟩
  · rw [hs]
    exact ⟨call, (List.getElem?_append_left hlt).trans hcall, rfl⟩
  · rw [hs]
    exact ⟨call, hcall, rfl⟩
  · rw [hs]
    by_cases hi : index = i
    · subst hi
      cases hmover.symm.trans hcall
      exact ⟨_, List.getElem?_set_self hlt,
        @request_turn _ _ format path parse s.shared index write call⟩
    · exact ⟨call, (List.getElem?_set_ne hi).trans hcall, rfl⟩

theorem AllOk.of_step (h : AllOk ((settingsCalls format path parse).step s m)) : AllOk s :=
  fun i call e hcall hstage => h i call e (getElem?_of_returned hcall hstage) hstage

theorem DisjointSettings.of_step
    (h : DisjointSettings parse ((settingsCalls format path parse).step s m)) :
    DisjointSettings parse s := by
  intro i j call other hne hcall hother place hsetting hpatches
  obtain ⟨call', hcall', hrequest⟩ := exists_request_step hcall
  obtain ⟨other', hother', hrequest'⟩ := exists_request_step hother
  rw [← hrequest']
  exact h i j call' other' hne hcall' hother' place hsetting (hrequest ▸ hpatches)

/-- A call that writes changes memory in what its request patches, if nothing has moved since it
    read. -/
theorem onlyPatches_of_unmoved {index : Nat} {call : SettingsCall format} {write : WriteEnd}
    {newConfig : AppConfig zones Rest} (hmerged : MergedFromMemory parse s)
    (hcall : s.calls[index]? = some call)
    (hallowed : UnmovedSinceRead s.shared index write call)
    (hfrom : (call.stage = .entered ∧ OnlyPatches parse call.request s.shared.memory newConfig) ∨
      ∃ current, call.stage = .merged current newConfig) :
    OnlyPatches parse call.request s.shared.memory newConfig := by
  rcases hfrom with ⟨-, honly⟩ | ⟨current, hstage⟩
  · exact honly
  · intro place hsetting hpatches
    have hnew := (hmerged index call current newConfig hcall hstage).1 place hsetting hpatches
    exact hnew.trans (hallowed current newConfig hstage place hsetting)

/-- **One move** of an undisturbed run keeps the invariant. -/
theorem SettingsInvariant.step (h : SettingsInvariant path parse s)
    (hallowed : CallSystem.OnTurn UnmovedSinceRead s m) :
    SettingsInvariant path parse ((settingsCalls format path parse).step s m) := by
  intro hok hdisjoint
  obtain ⟨hkeep, hmerged⟩ := h hok.of_step hdisjoint.of_step
  have hlater := fun place => @Patched.step _ _ format path parse s m place
  rcases (settingsCalls format path parse).step_cases s m with
    ⟨request, rfl, hs⟩ | ⟨index, write, rfl, ⟨-, hs⟩ | ⟨call, hcall, hs⟩⟩
  · rw [hs] at hlater ⊢
    refine ⟨fun i call written hi hstage => ?_, fun i call current newConfig hi hstage => ?_⟩
    · rcases CallSystem.getElem?_concat_cases hi with ⟨-, rfl⟩ | hold
      · cases hstage
      · exact hkeep i call written hold hstage
    · rcases CallSystem.getElem?_concat_cases hi with ⟨-, rfl⟩ | hold
      · cases hstage
      · obtain ⟨honly, hread⟩ := hmerged i call current newConfig hold hstage
        exact ⟨honly, fun place hsetting => (hread place hsetting).imp_right (hlater place)⟩
  · rw [hs]
    exact ⟨hkeep, hmerged⟩
  · have hlt := (List.getElem?_eq_some_iff.mp hcall).1
    have hrequest := @request_turn _ _ format path parse s.shared index write call
    have hset : (settingsCalls format path parse).step s (.turn index write) =
        ⟨(call.turn format path parse s.shared index write).1,
          s.calls.set index (call.turn format path parse s.shared index write).2⟩ := hs
    rcases @turn_cases _ _ format path parse call s.shared index write with
      ⟨-, hturn⟩ | ⟨hentered, newConfig, honly, hturn⟩ | ⟨newConfig, hwrote, hfrom⟩ | ⟨e, herror⟩
    · -- a call that has returned: nothing changes
      have hsame : (settingsCalls format path parse).step s (.turn index write) = s := by
        have hat : s.calls[index] = call := (List.getElem?_eq_some_iff.mp hcall).2
        rw [hset, hturn, ← hat, List.set_getElem_self]
      rw [hsame]
      exact ⟨hkeep, hmerged⟩
    · -- the call has read and merged
      have hmove : (settingsCalls format path parse).step s (.turn index write) =
          ⟨s.shared, s.calls.set index { call with stage := .merged s.shared.memory newConfig }⟩ := by
        rw [hset, hturn]
      rw [hmove] at hlater ⊢
      refine ⟨fun i other written hi hstage => ?_, fun i other current new hi hstage => ?_⟩
      · rcases CallSystem.getElem?_set_cases hi with ⟨-, rfl⟩ | ⟨-, hold⟩
        · cases hstage
        · exact hkeep i other written hold hstage
      · rcases CallSystem.getElem?_set_cases hi with ⟨-, rfl⟩ | ⟨-, hold⟩
        · cases hstage
          exact ⟨honly, fun place _ => .inl rfl⟩
        · obtain ⟨honly', hread⟩ := hmerged i other current new hold hstage
          exact ⟨honly', fun place hsetting => (hread place hsetting).imp_right (hlater place)⟩
    · -- the call has written
      have honly := onlyPatches_of_unmoved hmerged hcall (hallowed call hcall) hfrom
      have hmemory : ((settingsCalls format path parse).turn s.shared index write call).1.memory =
          newConfig := hwrote.memory
      have hfile : loadFromFile format path (.ok ())
          ((settingsCalls format path parse).turn s.shared index write call).1.file =
            .ok newConfig := hwrote.file
      have hreturns : ((settingsCalls format path parse).turn s.shared index write call).2.stage =
          .returned (.ok newConfig) := hwrote.stage
      rw [hs] at hlater ⊢
      refine ⟨fun i other written hi hstage => ?_, fun i other current new hi hstage => ?_⟩
      · have heffect : other.HasEffect parse written newConfig := by
          rcases CallSystem.getElem?_set_cases hi with ⟨-, rfl⟩ | ⟨hne, hold⟩
          · cases hreturns.symm.trans hstage
            exact fun _ _ _ => rfl
          · intro place hsetting hpatches
            have hnot := hdisjoint.of_step i index other call hne hold hcall place hsetting hpatches
            rw [honly place hsetting hnot]
            exact (hkeep i other written hold hstage).1 place hsetting hpatches
        refine ⟨?_, newConfig, hfile, heffect⟩
        rw [hmemory]
        exact heffect
      · rcases CallSystem.getElem?_set_cases hi with ⟨-, rfl⟩ | ⟨-, hold⟩
        · cases hreturns.symm.trans hstage
        · obtain ⟨honly', hread⟩ := hmerged i other current new hold hstage
          refine ⟨honly', fun place hsetting => ?_⟩
          rw [hmemory]
          by_cases hpatched : call.request.patches parse place
          · exact .inr ⟨index, _, newConfig, List.getElem?_set_self hlt, hreturns,
              hrequest.symm ▸ hpatched⟩
          · rw [honly place hsetting hpatched]
            exact (hread place hsetting).imp_right (hlater place)
    · exact absurd herror (hok index _ e (by rw [hs]; exact List.getElem?_set_self hlt))

/-- Where settings have moved, writing over them loses an update. -/
theorem unmoved_of_kept (h : SettingsInvariant path parse s)
    (hok : AllOk ((settingsCalls format path parse).step s m))
    (hdisjoint : DisjointSettings parse ((settingsCalls format path parse).step s m))
    (hkept : KeepsUpdates path parse ((settingsCalls format path parse).step s m)) :
    CallSystem.OnTurn UnmovedSinceRead s m := by
  obtain ⟨hkeep, hmerged⟩ := h hok.of_step hdisjoint.of_step
  have hstays := fun {i call result} => @getElem?_of_returned _ _ format path parse s m i call result
  cases m with
  | request request => trivial
  | turn index write =>
    intro call hcall current newConfig hstage place hsetting
    have hlt := (List.getElem?_eq_some_iff.mp hcall).1
    obtain ⟨honly, hread⟩ := hmerged index call current newConfig hcall hstage
    rcases hread place hsetting with hsame | ⟨j, other, written, hj, hreturned, hpatches⟩
    · exact hsame
    · -- another call has patched the setting; after this turn it must still be as that call wrote it
      have hs : (settingsCalls format path parse).step s (.turn index write) =
          ⟨((settingsCalls format path parse).turn s.shared index write call).1,
            s.calls.set index ((settingsCalls format path parse).turn s.shared index write call).2⟩ := by
        simp only [CallSystem.step, hcall]
      have hne : j ≠ index := by
        rintro rfl
        cases hj.symm.trans hcall
        cases hreturned.symm.trans hstage
      have hnot := hdisjoint.of_step j index other call hne hj hcall place hsetting hpatches
      have hafter := (hkept j other written (hstays hj hreturned) hreturned).1 place hsetting hpatches
      have hbefore := (hkeep j other written hj hreturned).1 place hsetting hpatches
      have hmemory : ((settingsCalls format path parse).step s (.turn index write)).shared.memory =
          newConfig := by
        rw [hs]
        rcases @turn_cases _ _ format path parse call s.shared index write with
          ⟨⟨result, hreturned'⟩, -⟩ | ⟨hentered, -⟩ | ⟨new, hwrote, hfrom⟩ | ⟨e, herror⟩
        · cases hreturned'.symm.trans hstage
        · cases hentered.symm.trans hstage
        · rcases hfrom with ⟨hentered, -⟩ | ⟨current', hstage'⟩
          · cases hentered.symm.trans hstage
          · cases hstage'.symm.trans hstage
            exact hwrote.memory
        · exact absurd herror (hok index _ e (by rw [hs]; exact List.getElem?_set_self hlt))
      rw [hmemory] at hafter
      calc format.valueOf place current = format.valueOf place newConfig :=
            (honly place hsetting hnot).symm
        _ = format.valueOf place written := hafter
        _ = format.valueOf place s.shared.memory := hbefore.symm

end

/-- **No update is lost** in a run whose calls all return `Ok` and patch disjoint settings, exactly
    when every `update_setting` writes over settings that are as it read them. -/
theorem no_update_lost_iff (format : ConfigFormat zones Rest) (path : String)
    (parse : String → Except String Json) (manager : ConfigManager zones Rest)
    (moves : List (SettingsMove format))
    (hok : AllOk (moves.foldl (settingsCalls format path parse).step ⟨manager, []⟩))
    (hdisjoint :
      DisjointSettings parse (moves.foldl (settingsCalls format path parse).step ⟨manager, []⟩)) :
    (∀ s ∈ states (settingsCalls format path parse).step ⟨manager, []⟩ moves,
      KeepsUpdates path parse s) ↔
    Along (settingsCalls format path parse).step (CallSystem.OnTurn UnmovedSinceRead)
      ⟨manager, []⟩ moves := by
  have hstart : SettingsInvariant path parse (⟨manager, []⟩ : SettingsSystem format) :=
    fun _ _ => ⟨fun _ _ _ hcall => (by cases hcall), fun _ _ _ _ hcall => (by cases hcall)⟩
  have hoks : ∀ s ∈ states (settingsCalls format path parse).step ⟨manager, []⟩ moves, AllOk s :=
    states_of_last (fun _ _ h => h.of_step) hok
  have hdisjoints : ∀ s ∈ states (settingsCalls format path parse).step ⟨manager, []⟩ moves,
      DisjointSettings parse s :=
    states_of_last (fun _ _ h => h.of_step) hdisjoint
  constructor
  · intro hkeeps
    exact @along_of_states _ _ (settingsCalls format path parse).step _ (SettingsInvariant path parse)
      (fun s => AllOk s ∧ DisjointSettings parse s ∧ KeepsUpdates path parse s) _
      (fun s m h hallowed => h.step hallowed)
      (fun s m h hgood => unmoved_of_kept h hgood.1 hgood.2.1 hgood.2.2) _ hstart
      (fun s hs => ⟨hoks s hs, hdisjoints s hs, hkeeps s hs⟩)
  · intro hrun s hs
    have hinv : SettingsInvariant path parse s :=
      states_invariant (fun _ _ h hallowed => h.step hallowed) hstart hrun s hs
    exact (hinv (hoks s hs) (hdisjoints s hs)).1

/-! ## Two patches that overlap -/

/-- A patch of the analysis settings. -/
def moreSuggestions : String := "\x7b\"analysis\":\x7b\"max_suggestions\":50\x7d\x7d"

/-- A patch of the notification settings. -/
def earlierNotification : String := "\x7b\"notification\":\x7b\"idle_notification_mins\":10\x7d\x7d"

/-- What the two patches parse as. -/
def parsePatch (text : String) : Except String Json :=
  if text = moreSuggestions then .ok (.obj [("analysis", .obj [("max_suggestions", .int 50)])])
  else if text = earlierNotification then
    .ok (.obj [("notification", .obj [("idle_notification_mins", .int 10)])])
  else .error "expected value at line 1 column 1"

/-- The defaults with the first patch. -/
def withMoreSuggestions : ExcerptConfig utcOnly :=
  { excerptDefault utcOnly with analysis := ⟨120, 50⟩ }

/-- The defaults with the second patch. -/
def withEarlierNotification : ExcerptConfig utcOnly :=
  { excerptDefault utcOnly with notification := ⟨10⟩ }

/-- The defaults and these two. -/
def patchTexts : ExcerptTexts utcOnly where
  configs := [excerptDefault utcOnly, withMoreSuggestions, withEarlierNotification]
  apart := by decide +kernel


/-- Both calls read before either writes. -/
def overlappingPatches : List (SettingsMove patchTexts.format) :=
  [.request (.updateSetting moreSuggestions), .request (.updateSetting earlierNotification),
    .turn 0 .complete, .turn 1 .complete, .turn 0 .complete, .turn 1 .complete]

/-- Both calls have returned; what the first one wrote is gone. -/
def afterOverlap : SettingsSystem patchTexts.format :=
  ⟨⟨some (String.ofList (excerptText withEarlierNotification)).toByteArray, withEarlierNotification⟩,
    [⟨.updateSetting moreSuggestions, .returned (.ok withMoreSuggestions)⟩,
      ⟨.updateSetting earlierNotification, .returned (.ok withEarlierNotification)⟩]⟩

theorem mergeSetting_of_toOption {format : ConfigFormat utcOnly (List String)}
    {parse : String → Except String Json} {current newConfig : ExcerptConfig utcOnly} {text : String}
    (h : (mergeSetting format parse current text).toOption = some newConfig) :
    mergeSetting format parse current text = .ok newConfig := by
  cases hmerge : mergeSetting format parse current text with
  | error e => rw [hmerge] at h; cases h
  | ok merged =>
    rw [hmerge] at h
    cases h
    rfl

/-- How the two patches end that overlap. -/
theorem foldl_overlappingPatches :
    overlappingPatches.foldl (settingsCalls patchTexts.format "config.json" parsePatch).step
      ⟨⟨none, excerptDefault utcOnly⟩, []⟩ = afterOverlap := by
  have hfirst : mergeSetting patchTexts.format parsePatch (excerptDefault utcOnly) moreSuggestions =
      .ok withMoreSuggestions := mergeSetting_of_toOption (by decide +kernel)
  have hsecond : mergeSetting patchTexts.format parsePatch (excerptDefault utcOnly)
      earlierNotification = .ok withEarlierNotification :=
    mergeSetting_of_toOption (by decide +kernel)
  have htext : ∀ config ∈ patchTexts.configs,
      patchTexts.format.toStringPretty config = .ok (.ofList (excerptText config)) :=
    fun config hmem => if_pos hmem
  have hfirstText := htext withMoreSuggestions (List.mem_cons_of_mem _ List.mem_cons_self)
  have hsecondText := htext withEarlierNotification
    (List.mem_cons_of_mem _ (List.mem_cons_of_mem _ List.mem_cons_self))
  simp only [overlappingPatches, List.foldl, CallSystem.step, settingsCalls, List.nil_append,
    List.cons_append, List.getElem?_cons_zero, List.getElem?_cons_succ, SettingsCall.turn, hfirst,
    hsecond, List.set_cons_zero, List.set_cons_succ, ConfigManager.update, saveToFile, hfirstText,
    hsecondText, WriteEnd.result, WriteEnd.file, afterOverlap]
  rfl

theorem allOk_afterOverlap : AllOk afterOverlap := by
  intro i call e hcall hstage
  rcases i with _ | _ | i
  · cases hcall
    cases hstage
  · cases hcall
    cases hstage
  · cases hcall

/-- A patch of one field reaches one setting. -/
theorem eq_of_touched {place : List String} {section_ key : String} {v : Json}
    (hsetting : place ∈ excerptSettings utcOnly)
    (h : ¬ Untouched place (.obj [(section_, .obj [(key, v)])])) : place = [section_, key] := by
  have hlength : place.length = 2 := by
    revert place
    simp [excerptSettings, excerptFields]
  obtain ⟨a, b, rfl⟩ := List.length_eq_two.mp hlength
  by_contra hne
  refine h fun sectionPatch hsection => ?_
  cases List.mem_singleton.mp hsection
  intro fieldPatch hfield
  cases List.mem_singleton.mp hfield
  exact hne rfl

/-- They patch different settings. -/
theorem disjointSettings_afterOverlap : DisjointSettings parsePatch afterOverlap := by
  have happart : ∀ place ∈ excerptSettings utcOnly,
      (SettingsRequest.updateSetting moreSuggestions :
        SettingsRequest patchTexts.format).patches parsePatch place →
      ¬ (SettingsRequest.updateSetting earlierNotification :
        SettingsRequest patchTexts.format).patches parsePatch place := by
    rintro place hsetting ⟨patch, hparse, htouched⟩ ⟨patch', hparse', htouched'⟩
    cases hparse
    cases hparse'
    have hplaces := (eq_of_touched hsetting htouched).symm.trans (eq_of_touched hsetting htouched')
    exact absurd hplaces (by decide)
  intro i j call other hne hcall hother place hsetting hpatches hpatches'
  rcases i with _ | _ | i
  · rcases j with _ | _ | j
    · exact hne rfl
    · cases hcall
      cases hother
      exact happart place hsetting hpatches hpatches'
    · cases hother
  · rcases j with _ | _ | j
    · cases hcall
      cases hother
      exact happart place hsetting hpatches' hpatches
    · exact hne rfl
    · cases hother
  · cases hcall

/-- Two overlapping patches of different settings: the hypotheses hold. -/
theorem no_update_lost_overlapping :
    (∀ s ∈ states (settingsCalls patchTexts.format "config.json" parsePatch).step
        ⟨⟨none, excerptDefault utcOnly⟩, []⟩ overlappingPatches,
      KeepsUpdates "config.json" parsePatch s) ↔
    Along (settingsCalls patchTexts.format "config.json" parsePatch).step
      (CallSystem.OnTurn UnmovedSinceRead) ⟨⟨none, excerptDefault utcOnly⟩, []⟩
      overlappingPatches :=
  no_update_lost_iff patchTexts.format "config.json" parsePatch ⟨none, excerptDefault utcOnly⟩
    overlappingPatches (foldl_overlappingPatches ▸ allOk_afterOverlap)
    (foldl_overlappingPatches ▸ disjointSettings_afterOverlap)

/-- Both calls return `Ok`, and what the first one wrote is gone. -/
theorem overlapping_patch_is_lost :
    ¬ ∀ (zones : Zones) (Rest : Type) (format : ConfigFormat zones Rest) (path : String)
      (parse : String → Except String Json) (manager : ConfigManager zones Rest)
      (moves : List (SettingsMove format)),
      AllOk (moves.foldl (settingsCalls format path parse).step ⟨manager, []⟩) →
      DisjointSettings parse (moves.foldl (settingsCalls format path parse).step ⟨manager, []⟩) →
      KeepsUpdates path parse (moves.foldl (settingsCalls format path parse).step ⟨manager, []⟩) := by
  intro h
  have hkeeps := h utcOnly (List String) patchTexts.format "config.json" parsePatch
    ⟨none, excerptDefault utcOnly⟩ overlappingPatches
    (foldl_overlappingPatches ▸ allOk_afterOverlap)
    (foldl_overlappingPatches ▸ disjointSettings_afterOverlap)
  rw [foldl_overlappingPatches] at hkeeps
  have hsetting : ["analysis", "max_suggestions"] ∈ excerptSettings utcOnly := by decide
  have heffect := (hkeeps 0 _ withMoreSuggestions rfl rfl).1 _ hsetting
    ⟨_, rfl, by simp [Untouched]⟩
  have hvalues : some (Json.int 3) = some (Json.int 50) := heffect
  exact absurd (Json.int.inj (Option.some.inj hvalues)) (by decide)

end Oneshim.Config
