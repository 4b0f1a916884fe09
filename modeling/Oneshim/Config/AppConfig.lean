/-
  The application's configuration (`oneshim-core/src/config`).

  1. **AppConfig** — a record of sections.  The sections and fields that the configuration manager and
     the settings commands look into have their names; all the others together are `rest`.

  2. **ConfigFormat** — the code that serde generates for it: a JSON value, a JSON text, and back.  It
     says three things: what is written reads back; a text that is cut off does not parse; and a
     SETTING, the place of one field, is read from its own place and written to it.

  3. **An excerpt** — the named fields and the list of excluded applications, as a format.

  `update.include_prerelease` is read from old files and never written; it is no part of the
  configuration here.
-/
import Mathlib.Data.List.Pairwise
import Oneshim.Config.TrackingSchedule
import Oneshim.Core.Json

namespace Oneshim.Config

/-! ## The configuration -/

/-- `MonitorConfig`. -/
structure MonitorConfig where
  pollIntervalMs : UInt64
  syncIntervalMs : UInt64
  heartbeatIntervalMs : UInt64
  deriving DecidableEq

/-- `VisionConfig`. -/
structure VisionConfig where
  captureThrottleMs : UInt64
  deriving DecidableEq

/-- `WebConfig`. -/
structure WebConfig where
  grpcPort : UInt16
  deriving DecidableEq

/-- `NotificationConfig`. -/
structure NotificationConfig where
  idleNotificationMins : UInt32
  deriving DecidableEq

/-- `AnalysisConfig`; `usize` is 64 bits wide. -/
structure AnalysisConfig where
  throttleSecs : UInt64
  maxSuggestions : UInt64
  deriving DecidableEq

instance {zones : Zones} : DecidableEq (AcceptedSchedule zones) := fun a b =>
  decidable_of_iff (a.cfg = b.cfg) ⟨fun h => by cases a; cases b; cases h; rfl, fun h => h ▸ rfl⟩

/-- `AppConfig`. -/
structure AppConfig (zones : Zones) (Rest : Type) where
  monitor : MonitorConfig
  vision : VisionConfig
  web : WebConfig
  notification : NotificationConfig
  analysis : AnalysisConfig
  trackingSchedule : AcceptedSchedule zones
  rest : Rest
  deriving DecidableEq

/-- `Weekday` as serde writes it. -/
def Weekday.name : Weekday → String
  | .mon => "Mon"
  | .tue => "Tue"
  | .wed => "Wed"
  | .thu => "Thu"
  | .fri => "Fri"
  | .sat => "Sat"
  | .sun => "Sun"

/-- `TrackingWindow` as serde writes it. -/
def TrackingWindow.toValue (window : TrackingWindow) : Json :=
  .obj [("start", .str window.start), ("end", .str window.stop),
    ("days_of_week", .arr (window.daysOfWeek.map fun d => .str d.name)), ("label", .str window.label)]

/-- `TrackingScheduleConfig` as serde writes it. -/
def TrackingScheduleConfig.toValue (cfg : TrackingScheduleConfig) : Json :=
  .obj [("enabled", .bool cfg.enabled), ("windows", .arr (cfg.windows.map TrackingWindow.toValue)),
    ("timezone", .str cfg.timezone)]

/-- The value at a place inside a JSON value. -/
def valueAt : List String → Json → Option Json
  | [], v => some v
  | key :: path, v => (v.get key).bind (valueAt path)

/-! ## What serde generates -/

/-- `Serialize` and `Deserialize` of `AppConfig`, through values (`to_value`, `from_value`) and
    through texts (`to_string_pretty`, `from_str`). -/
structure ConfigFormat (zones : Zones) (Rest : Type) where
  /-- `AppConfig::default_config`. -/
  defaultConfig : AppConfig zones Rest
  toValue : AppConfig zones Rest → Json
  fromValue : Json → Except String (AppConfig zones Rest)
  toStringPretty : AppConfig zones Rest → Except String String
  fromStr : String → Except String (AppConfig zones Rest)
  /-- The places of the fields. -/
  setting : List String → Prop
  value_reads_back : ∀ config, fromValue (toValue config) = .ok config
  text_reads_back : ∀ config text, toStringPretty config = .ok text → fromStr text = .ok config
  /-- A text ends with the brace that closes it. -/
  truncated : ∀ config text n cut, toStringPretty config = .ok text → n < text.toByteArray.size →
    String.fromUTF8? (text.toByteArray.extract 0 n) = some cut → ∃ error, fromStr cut = .error error
  /-- A field is read from its own place. -/
  reads_own : ∀ path, setting path → ∀ v v' config config', fromValue v = .ok config →
    fromValue v' = .ok config' → valueAt path v = valueAt path v' →
    valueAt path (toValue config) = valueAt path (toValue config')
  /-- The tracking schedule is written to its own place. -/
  writes_own : ∀ config schedule path, setting path → path.head? ≠ some "tracking_schedule" →
    valueAt path (toValue { config with trackingSchedule := schedule }) =
      valueAt path (toValue config)

namespace ConfigFormat

variable {zones : Zones} {Rest : Type} (format : ConfigFormat zones Rest)

/-- The value of a setting. -/
def valueOf (path : List String) (config : AppConfig zones Rest) : Option Json :=
  valueAt path (format.toValue config)

/-- Two configurations agree on every setting. -/
def SameSettings (config config' : AppConfig zones Rest) : Prop :=
  ∀ path, format.setting path → format.valueOf path config = format.valueOf path config'

variable {format}

/-- Reading a value that differs from a configuration elsewhere keeps the setting. -/
theorem valueOf_fromValue {path : List String} {v : Json} {config config' : AppConfig zones Rest}
    (hsetting : format.setting path) (hread : format.fromValue v = .ok config')
    (hsame : valueAt path v = format.valueOf path config) :
    format.valueOf path config' = format.valueOf path config :=
  format.reads_own path hsetting v (format.toValue config) config' config hread
    (format.value_reads_back config) hsame

end ConfigFormat

/-! ## An excerpt -/

/-- The excerpt: of the other fields, `privacy.excluded_apps`. -/
abbrev ExcerptConfig (zones : Zones) := AppConfig zones (List String)

/-- A section of numbers. -/
def numbers (fields : List (String × Nat)) : Json :=
  .obj (fields.map fun field => (field.1, .int field.2))

/-- `to_value` of the excerpt. -/
def excerptValue {zones : Zones} (config : ExcerptConfig zones) : Json :=
  .obj [
    ("monitor", numbers [("poll_interval_ms", config.monitor.pollIntervalMs.toNat),
      ("sync_interval_ms", config.monitor.syncIntervalMs.toNat),
      ("heartbeat_interval_ms", config.monitor.heartbeatIntervalMs.toNat)]),
    ("vision", numbers [("capture_throttle_ms", config.vision.captureThrottleMs.toNat)]),
    ("web", numbers [("grpc_port", config.web.grpcPort.toNat)]),
    ("notification",
      numbers [("idle_notification_mins", config.notification.idleNotificationMins.toNat)]),
    ("privacy", .obj [("excluded_apps", .arr (config.rest.map .str))]),
    ("analysis", numbers [("throttle_secs", config.analysis.throttleSecs.toNat),
      ("max_suggestions", config.analysis.maxSuggestions.toNat)]),
    ("tracking_schedule", config.trackingSchedule.cfg.toValue)]

/-- An unsigned number below `bound`. -/
def readNumber {α : Type} (bound : Nat) (ofNat : Nat → α) : Json → Option α
  | .int n => if 0 ≤ n ∧ n < bound then some (ofNat n.toNat) else none
  | _ => none

def readBool : Json → Option Bool
  | .bool b => some b
  | _ => none

def readList {α : Type} (read : Json → Option α) : Json → Option (List α)
  | .arr xs => xs.mapM read
  | _ => none

def readWeekday : Json → Option Weekday
  | .str "Mon" => some .mon
  | .str "Tue" => some .tue
  | .str "Wed" => some .wed
  | .str "Thu" => some .thu
  | .str "Fri" => some .fri
  | .str "Sat" => some .sat
  | .str "Sun" => some .sun
  | _ => none

def readWindow (v : Json) : Option TrackingWindow := do
  return ⟨← (← v.get "start").asStr, ← (← v.get "end").asStr,
    ← readList readWeekday (← v.get "days_of_week"), ← (← v.get "label").asStr⟩

/-- The value at a place, read. -/
def readAt {α : Type} (path : List String) (read : Json → Option α) (v : Json) : Option α :=
  (valueAt path v).bind read

/-- `from_value` of the excerpt; the schedule is validated as `TryFrom` does. -/
def readExcerpt (zones : Zones) (v : Json) : Option (ExcerptConfig zones) := do
  let pollIntervalMs ← readAt ["monitor", "poll_interval_ms"] (readNumber (2 ^ 64) .ofNat) v
  let syncIntervalMs ← readAt ["monitor", "sync_interval_ms"] (readNumber (2 ^ 64) .ofNat) v
  let heartbeatMs ← readAt ["monitor", "heartbeat_interval_ms"] (readNumber (2 ^ 64) .ofNat) v
  let captureThrottleMs ← readAt ["vision", "capture_throttle_ms"] (readNumber (2 ^ 64) .ofNat) v
  let grpcPort ← readAt ["web", "grpc_port"] (readNumber (2 ^ 16) .ofNat) v
  let idleMins ← readAt ["notification", "idle_notification_mins"] (readNumber (2 ^ 32) .ofNat) v
  let excludedApps ← readAt ["privacy", "excluded_apps"] (readList Json.asStr) v
  let throttleSecs ← readAt ["analysis", "throttle_secs"] (readNumber (2 ^ 64) .ofNat) v
  let maxSuggestions ← readAt ["analysis", "max_suggestions"] (readNumber (2 ^ 64) .ofNat) v
  let enabled ← readAt ["tracking_schedule", "enabled"] readBool v
  let windows ← readAt ["tracking_schedule", "windows"] (readList readWindow) v
  let timezone ← readAt ["tracking_schedule", "timezone"] Json.asStr v
  let cfg : TrackingScheduleConfig := ⟨enabled, windows, timezone⟩
  if h : (∀ window ∈ cfg.windows, window.validate = .ok ()) ∧ cfg.validate zones = .ok () then
    some ⟨⟨pollIntervalMs, syncIntervalMs, heartbeatMs⟩, ⟨captureThrottleMs⟩, ⟨grpcPort⟩,
      ⟨idleMins⟩, ⟨throttleSecs, maxSuggestions⟩, ⟨cfg, h.1, h.2⟩, excludedApps⟩
  else none

theorem readNumber_int {α : Type} {bound n : Nat} {ofNat : Nat → α} (h : n < bound) :
    readNumber bound ofNat (.int n) = some (ofNat n) :=
  if_pos ⟨Int.natCast_nonneg n, by exact_mod_cast h⟩

/-- A list reads back when its items do. -/
theorem readList_map {α : Type} {read : Json → Option α} {write : α → Json}
    (h : ∀ x, read (write x) = some x) (xs : List α) :
    readList read (.arr (xs.map write)) = some xs := by
  show (xs.map write).mapM read = some xs
  induction xs with
  | nil => rfl
  | cons x xs ih => simp only [List.map_cons, List.mapM_cons, h, ih, Option.bind_eq_bind,
      Option.bind_some, Option.pure_def]

theorem readWeekday_name (d : Weekday) : readWeekday (.str d.name) = some d := by
  cases d <;> rfl

theorem readWindow_toValue (window : TrackingWindow) : readWindow window.toValue = some window := by
  have hdays := readList_map readWeekday_name window.daysOfWeek
  show (do
    let days ← readList readWeekday (.arr (window.daysOfWeek.map fun d => .str d.name))
    return (⟨window.start, window.stop, days, window.label⟩ : TrackingWindow)) = some window
  rw [hdays]
  rfl

/-- A field of the excerpt, which reads back. -/
structure ExcerptField (zones : Zones) where
  {α : Type}
  place : List String
  read : Json → Option α
  write : α → Json
  get : ExcerptConfig zones → α
  reads_back : ∀ a, read (write a) = some a

section

variable {zones : Zones}

abbrev u64Field (place : List String) (get : ExcerptConfig zones → UInt64) : ExcerptField zones :=
  ⟨place, readNumber (2 ^ 64) .ofNat, fun n => .int n.toNat, get, fun n => by
    rw [readNumber_int n.toNat_lt, UInt64.ofNat_toNat]⟩

/-- The fields of the excerpt. -/
def excerptFields (zones : Zones) : List (ExcerptField zones) :=
  [u64Field ["monitor", "poll_interval_ms"] (·.monitor.pollIntervalMs),
    u64Field ["monitor", "sync_interval_ms"] (·.monitor.syncIntervalMs),
    u64Field ["monitor", "heartbeat_interval_ms"] (·.monitor.heartbeatIntervalMs),
    u64Field ["vision", "capture_throttle_ms"] (·.vision.captureThrottleMs),
    ⟨["web", "grpc_port"], readNumber (2 ^ 16) .ofNat, fun n => .int n.toNat, (·.web.grpcPort),
      fun n => by rw [readNumber_int n.toNat_lt, UInt16.ofNat_toNat]⟩,
    ⟨["notification", "idle_notification_mins"], readNumber (2 ^ 32) .ofNat,
      fun n => .int n.toNat, (·.notification.idleNotificationMins),
      fun n => by rw [readNumber_int n.toNat_lt, UInt32.ofNat_toNat]⟩,
    ⟨["privacy", "excluded_apps"], readList Json.asStr, fun apps => .arr (apps.map .str), (·.rest),
      readList_map fun _ => rfl⟩,
    u64Field ["analysis", "throttle_secs"] (·.analysis.throttleSecs),
    u64Field ["analysis", "max_suggestions"] (·.analysis.maxSuggestions),
    ⟨["tracking_schedule", "enabled"], readBool, .bool, (·.trackingSchedule.cfg.enabled),
      fun _ => rfl⟩,
    ⟨["tracking_schedule", "windows"], readList readWindow,
      fun windows => .arr (windows.map TrackingWindow.toValue), (·.trackingSchedule.cfg.windows),
      readList_map readWindow_toValue⟩,
    ⟨["tracking_schedule", "timezone"], Json.asStr, .str, (·.trackingSchedule.cfg.timezone),
      fun _ => rfl⟩]

/-- The places of the fields. -/
def excerptSettings (zones : Zones) : List (List String) :=
  (excerptFields zones).map ExcerptField.place

/-- Every field is read from its place. -/
def ReadsExcerpt (v : Json) (config : ExcerptConfig zones) : Prop :=
  ∀ field ∈ excerptFields zones, readAt field.place field.read v = some (field.get config)

/-- Every field is written to its place. -/
theorem valueAt_excerptValue (config : ExcerptConfig zones) {field : ExcerptField zones}
    (h : field ∈ excerptFields zones) :
    valueAt field.place (excerptValue config) = some (field.write (field.get config)) := by
  simp only [excerptFields, List.mem_cons, List.not_mem_nil, or_false] at h
  rcases h with rfl | rfl | rfl | rfl | rfl | rfl | rfl | rfl | rfl | rfl | rfl | rfl
  all_goals rfl

theorem readsExcerpt_excerptValue (config : ExcerptConfig zones) :
    ReadsExcerpt (excerptValue config) config := by
  intro field h
  rw [readAt, valueAt_excerptValue config h]
  exact field.reads_back _

/-- A configuration is read exactly when each of its fields is. -/
theorem readExcerpt_iff {v : Json} {config : ExcerptConfig zones} :
    readExcerpt zones v = some config ↔ ReadsExcerpt v config := by
  simp only [ReadsExcerpt, excerptFields, List.forall_mem_cons, List.not_mem_nil, false_implies,
    implies_true, and_true]
  constructor
  · intro h
    unfold readExcerpt at h
    -- one field after the other
    obtain ⟨poll, hpoll, h⟩ := Option.bind_eq_some_iff.mp h
    obtain ⟨sync, hsync, h⟩ := Option.bind_eq_some_iff.mp h
    obtain ⟨heartbeat, hheartbeat, h⟩ := Option.bind_eq_some_iff.mp h
    obtain ⟨capture, hcapture, h⟩ := Option.bind_eq_some_iff.mp h
    obtain ⟨port, hport, h⟩ := Option.bind_eq_some_iff.mp h
    obtain ⟨idle, hidle, h⟩ := Option.bind_eq_some_iff.mp h
    obtain ⟨apps, happs, h⟩ := Option.bind_eq_some_iff.mp h
    obtain ⟨throttle, hthrottle, h⟩ := Option.bind_eq_some_iff.mp h
    obtain ⟨suggestions, hsuggestions, h⟩ := Option.bind_eq_some_iff.mp h
    obtain ⟨enabled, henabled, h⟩ := Option.bind_eq_some_iff.mp h
    obtain ⟨windows, hwindows, h⟩ := Option.bind_eq_some_iff.mp h
    obtain ⟨timezone, htimezone, hconfig⟩ := Option.bind_eq_some_iff.mp h
    dsimp only at hconfig
    split at hconfig
    · cases hconfig
      exact ⟨hpoll, hsync, hheartbeat, hcapture, hport, hidle, happs, hthrottle, hsuggestions,
        henabled, hwindows, htimezone⟩
    · cases hconfig
  · rintro ⟨hpoll, hsync, hheartbeat, hcapture, hport, hidle, happs, hthrottle, hsuggestions,
      henabled, hwindows, htimezone⟩
    simp only [readExcerpt, hpoll, hsync, hheartbeat, hcapture, hport, hidle, happs, hthrottle,
      hsuggestions, henabled, hwindows, htimezone, Option.bind_eq_bind, Option.bind_some]
    exact dif_pos ⟨config.trackingSchedule.windows, config.trackingSchedule.zone⟩

/-- Every field of the excerpt is read from its own place. -/
theorem ReadsExcerpt.reads_own {v v' : Json} {config config' : ExcerptConfig zones}
    (h : ReadsExcerpt v config) (h' : ReadsExcerpt v' config') {path : List String}
    (hpath : path ∈ excerptSettings zones) (hsame : valueAt path v = valueAt path v') :
    valueAt path (excerptValue config) = valueAt path (excerptValue config') := by
  obtain ⟨field, hfield, rfl⟩ := List.mem_map.mp hpath
  have hread := h' field hfield
  rw [readAt, ← hsame, ← readAt, h field hfield] at hread
  rw [valueAt_excerptValue config hfield, valueAt_excerptValue config' hfield,
    Option.some.inj hread]

end

mutual

/-- `to_string_pretty` of a value; the strings of the excerpt need no escapes. -/
def pretty (indent : List Char) : Json → List Char
  | .null => "null".toList
  | .bool b => if b then "true".toList else "false".toList
  | .int n => (if n < 0 then ['-'] else []) ++ Nat.toDigits 10 n.natAbs
  | .float x => Nat.toDigits 10 x.bits.toNat
  | .str s => '"' :: s.toList ++ ['"']
  | .arr [] => ['[', ']']
  | .arr (x :: xs) => '[' :: prettyItems (' ' :: ' ' :: indent) [] (x :: xs) ++ '\n' :: indent ++ [']']
  | .obj fields =>
    '\x7b' :: prettyFields (' ' :: ' ' :: indent) [] fields ++ '\n' :: indent ++ ['\x7d']

def prettyItems (indent comma : List Char) : List Json → List Char
  | [] => []
  | x :: xs => comma ++ '\n' :: indent ++ pretty indent x ++ prettyItems indent [','] xs

def prettyFields (indent comma : List Char) : List (String × Json) → List Char
  | [] => []
  | field :: fields =>
    comma ++ '\n' :: indent ++ prettyField indent field ++ prettyFields indent [','] fields

def prettyField (indent : List Char) : String × Json → List Char
  | (key, v) => '"' :: key.toList ++ '"' :: ':' :: ' ' :: pretty indent v

end

/-- The text of an excerpt. -/
def excerptText {zones : Zones} (config : ExcerptConfig zones) : List Char :=
  pretty [] (excerptValue config)

/-- `AppConfig::default_config`, the excerpt. -/
def excerptDefault (zones : Zones) : ExcerptConfig zones where
  monitor := ⟨1000, 10000, 30000⟩
  vision := ⟨5000⟩
  web := ⟨10080⟩
  notification := ⟨30⟩
  analysis := ⟨120, 3⟩
  trackingSchedule := ⟨⟨false, [], "Local"⟩, fun _ h => absurd h List.not_mem_nil, rfl⟩
  rest := []

theorem toByteArray_of_fromUTF8? {bytes : ByteArray} {text : String}
    (h : String.fromUTF8? bytes = some text) : text.toByteArray = bytes := by
  unfold String.fromUTF8? at h
  split at h
  · cases h
    rfl
  · cases h

/-- Cutting off bytes cuts off characters. -/
theorem prefix_of_extract {short long : List Char} {n : Nat}
    (h : (String.ofList short).toByteArray = (String.ofList long).toByteArray.extract 0 n) :
    short <+: long := by
  rw [String.toByteArray_ofList, String.toByteArray_ofList] at h
  have hwhole : short.utf8Encode ++ long.utf8Encode.extract n long.utf8Encode.size =
      long.utf8Encode := by
    rw [h, ByteArray.extract_append_extract, Nat.zero_min, ByteArray.extract_zero_max_size]
  exact List.isPrefix_of_utf8Encode_append_eq_utf8Encode _ hwhole

/-- Neither of two texts is the beginning of the other. -/
def Apart {zones : Zones} (config config' : ExcerptConfig zones) : Prop :=
  ¬ excerptText config <+: excerptText config' ∧ ¬ excerptText config' <+: excerptText config

instance {zones : Zones} : DecidableRel (@Apart zones) := fun _ _ => inferInstanceAs (Decidable (_ ∧ _))

instance {zones : Zones} : Std.Symm (@Apart zones) := ⟨fun _ _ h => ⟨h.2, h.1⟩⟩

/-- Configurations of which no text is the beginning of another. -/
structure ExcerptTexts (zones : Zones) where
  configs : List (ExcerptConfig zones)
  apart : configs.Pairwise Apart

theorem ExcerptTexts.eq_of_beginning {zones : Zones} (texts : ExcerptTexts zones)
    {config config' : ExcerptConfig zones} (h : config ∈ texts.configs)
    (h' : config' ∈ texts.configs) (hbeginning : excerptText config' <+: excerptText config) :
    config' = config := by
  by_contra hne
  exact (texts.apart.forall h' h hne).1 hbeginning

/-- The excerpt, for these configurations. -/
def ExcerptTexts.format {zones : Zones} (texts : ExcerptTexts zones) :
    ConfigFormat zones (List String) where
  defaultConfig := excerptDefault zones
  toValue := excerptValue
  fromValue v :=
    match readExcerpt zones v with
    | some config => .ok config
    | none => .error "invalid type or missing field"
  toStringPretty config :=
    if config ∈ texts.configs then .ok (.ofList (excerptText config)) else .error "not in the excerpt"
  fromStr text :=
    match texts.configs.find? (fun config => .ofList (excerptText config) = text) with
    | some config => .ok config
    | none => .error "EOF while parsing an object"
  setting path := path ∈ excerptSettings zones
  value_reads_back config := by
    rw [readExcerpt_iff.mpr (readsExcerpt_excerptValue config)]
  text_reads_back config text h := by
    split at h
    · next hmem =>
      obtain rfl := Except.ok.inj h
      cases hfind : texts.configs.find?
          (fun c => String.ofList (excerptText c) = String.ofList (excerptText config)) with
      | none => exact absurd (decide_eq_true rfl) (List.find?_eq_none.mp hfind config hmem)
      | some found =>
        have hsame : String.ofList (excerptText found) = String.ofList (excerptText config) := by
          simpa only [decide_eq_true_eq] using List.find?_some hfind
        have htexts : excerptText found = excerptText config := String.ofList_injective hsame
        rw [texts.eq_of_beginning hmem (List.mem_of_find?_eq_some hfind)
          (htexts ▸ List.prefix_refl _)]
    · cases h
  truncated config text n cut h hn hcut := by
    split at h
    · next hmem =>
      obtain rfl := Except.ok.inj h
      cases hfind : texts.configs.find? (fun c => String.ofList (excerptText c) = cut) with
      | none => exact ⟨_, rfl⟩
      | some found =>
        have hfound : String.ofList (excerptText found) = cut := by
          simpa only [decide_eq_true_eq] using List.find?_some hfind
        rw [← hfound] at hcut
        have hbytes := toByteArray_of_fromUTF8? hcut
        have hsame := texts.eq_of_beginning hmem (List.mem_of_find?_eq_some hfind)
          (prefix_of_extract hbytes)
        have hsize := congrArg ByteArray.size hbytes
        rw [hsame, ByteArray.size_extract] at hsize
        omega
    · cases h
  reads_own path hpath v v' config config' h h' hsame := by
    have hreads : ∀ (v : Json) config, (match readExcerpt zones v with
        | some config => Except.ok config
        | none => .error "invalid type or missing field") = .ok config → ReadsExcerpt v config := by
      intro v config h
      cases hread : readExcerpt zones v with
      | none => rw [hread] at h; cases h
      | some found =>
        rw [hread] at h
        cases h
        exact readExcerpt_iff.mp hread
    exact (hreads v config h).reads_own (hreads v' config' h') hpath hsame
  writes_own config schedule path hpath hhead := by
    simp only [excerptSettings, excerptFields, List.map_cons, List.map_nil, List.mem_cons,
      List.not_mem_nil, or_false] at hpath
    rcases hpath with rfl | rfl | rfl | rfl | rfl | rfl | rfl | rfl | rfl | rfl | rfl | rfl
    all_goals first | rfl | exact absurd rfl hhead

end Oneshim.Config
