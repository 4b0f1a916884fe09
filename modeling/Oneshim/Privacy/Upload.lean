/-
  What leaves the device (`src-tauri/src/scheduler/config.rs`, `oneshim-vision/src/privacy.rs`).

  The user excludes applications by name and windows by title; applications with a sensitive word in
  their name are excluded by default.  Before an event is uploaded it passes the egress policy, which
  drops the events of excluded applications and filters or hides window titles.

  1. **Code** — `shouldExclude` with its patterns, and `prepareEventForUpload`, one case for each kind
     of event.  Lowering the case and masking personal data are parameters: what is proved holds for
     any of them.

  2. **Specification** — `KeepsOut`: no string of the uploaded event contains the name or the title
     of an application that is rejected.

  3. **The result** — only the application in front is looked at.  The names of other applications
     (the previous one, the one an input event is about, every process) and the free texts go out as
     they are (`excluded_apps_kept_out_iff`).
-/
import Oneshim.Core.Event
import Oneshim.Lib.Text

namespace Oneshim

open Lib

/-! ## The code -/

/-- `PiiFilterLevel`. -/
inductive PiiFilterLevel where
  | off
  | basic
  | standard
  | strict
deriving DecidableEq

/-- `ExternalDataPolicy`. -/
inductive ExternalDataPolicy where
  | piiFilterStrict
  | piiFilterStandard
  | allowFiltered

/-- `PrivacyConfig`. -/
structure PrivacyConfig where
  excludedApps : List String
  excludedAppPatterns : List String
  excludedTitlePatterns : List String
  autoExcludeSensitive : Bool
  piiFilterLevel : PiiFilterLevel

/-- `PrivacyConfig::default`. -/
def PrivacyConfig.default : PrivacyConfig := ⟨[], [], [], true, .standard⟩

/-- `SENSITIVE_APP_KEYWORDS`. -/
def sensitiveAppKeywords : List String :=
  ["1password", "lastpass", "bitwarden", "dashlane", "keepass", "enpass", "nordpass", "bank",
    "banking", "wallet", "trading", "crypto", "coinbase", "binance", "authenticator", "2fa", "otp",
    "vault", "keychain", "signal"]

/-- `str::strip_prefix` with a character. -/
def stripPrefix (c : Char) : List Char → Option (List Char)
  | [] => none
  | first :: rest => if first = c then some rest else none

/-- `str::strip_suffix` with a character. -/
def stripSuffix (c : Char) (s : List Char) : Option (List Char) :=
  if s.getLast? = some c then some s.dropLast else none

/-- A pattern with a `*` at either end, or none. -/
def matchesPattern (lower pat : List Char) : Bool :=
  match stripPrefix '*' pat with
  | some rest =>
    match stripSuffix '*' rest with
    | some keyword => Text.contains lower keyword
    | none => rest.isSuffixOf lower
  | none =>
    match stripSuffix '*' pat with
    | some start => start.isPrefixOf lower
    | none => lower == pat

/-- `REDACTED_WINDOW_TITLE`. -/
def redactedWindowTitle : String := "[REDACTED_WINDOW_TITLE]"

section

/- `str::to_lowercase` and `sanitize_title_with_level`. -/
variable (toLowercase : String → String)
  (sanitizeTitleWithLevel : String → PiiFilterLevel → String)

/-- `is_sensitive_app`. -/
def isSensitiveApp (appName : String) : Bool :=
  sensitiveAppKeywords.any fun kw => Text.contains (toLowercase appName).toList kw.toList

/-- `matches_exclusion_pattern`. -/
def matchesExclusionPattern (appName : String) (patterns : List String) : Bool :=
  patterns.any fun pattern =>
    matchesPattern (toLowercase appName).toList (toLowercase pattern).toList

/-- `should_exclude`. -/
def shouldExclude (appName windowTitle : String)
    (excludedApps excludedAppPatterns excludedTitlePatterns : List String)
    (autoExcludeSensitive : Bool) : Bool :=
  if excludedApps.any fun app => toLowercase app == toLowercase appName then true
  else if matchesExclusionPattern toLowercase appName excludedAppPatterns then true
  else if matchesExclusionPattern toLowercase windowTitle excludedTitlePatterns then true
  else if autoExcludeSensitive && isSensitiveApp toLowercase appName then true
  else false

/-- `PlatformEgressPolicy`. -/
structure PlatformEgressPolicy where
  enabled : Bool
  externalDataPolicy : ExternalDataPolicy
  privacyConfig : PrivacyConfig

namespace PlatformEgressPolicy

/-- `should_skip`. -/
def shouldSkip (self : PlatformEgressPolicy) (appName windowTitle : String) : Bool :=
  shouldExclude toLowercase appName windowTitle self.privacyConfig.excludedApps
    self.privacyConfig.excludedAppPatterns self.privacyConfig.excludedTitlePatterns
    self.privacyConfig.autoExcludeSensitive

/-- `sanitize_title`. -/
def sanitizeTitle (self : PlatformEgressPolicy) (title : String) : String :=
  match self.externalDataPolicy with
  | .allowFiltered => sanitizeTitleWithLevel title self.privacyConfig.piiFilterLevel
  | .piiFilterStrict => redactedWindowTitle
  | .piiFilterStandard => redactedWindowTitle

/-- `prepare_event_for_upload`. -/
def prepareEventForUpload (self : PlatformEgressPolicy) (event : Event) : Option Event :=
  if !self.enabled then none
  else
    match event with
    | .context ctx =>
      if self.shouldSkip toLowercase ctx.appName ctx.windowTitle then none
      else
        some (.context { ctx with
          windowTitle := self.sanitizeTitle sanitizeTitleWithLevel ctx.windowTitle })
    | .window layout =>
      if self.shouldSkip toLowercase layout.window.appName layout.window.windowTitle then none
      else
        some (.window { layout with
          window := { layout.window with
            windowTitle := self.sanitizeTitle sanitizeTitleWithLevel layout.window.windowTitle } })
    | .user user =>
      if self.shouldSkip toLowercase user.appName user.windowTitle then none
      else
        some (.user { user with
          windowTitle := self.sanitizeTitle sanitizeTitleWithLevel user.windowTitle })
    | .system event => some (.system event)
    | .input event => some (.input event)
    | .process event => some (.process event)
    | .clipboard event => some (.clipboard event)
    | .fileAccess event => some (.fileAccess event)

/-! ## Specification -/

/-- An application with this name is rejected, whatever the title of its window. -/
def RejectsName (policy : PlatformEgressPolicy) (name : String) : Prop :=
  ∀ title, policy.shouldSkip toLowercase name title = true

/-- A window with this title is rejected, whatever its application. -/
def RejectsTitle (policy : PlatformEgressPolicy) (title : String) : Prop :=
  ∀ name, policy.shouldSkip toLowercase name title = true

/-- Such a name or title stands somewhere in the text. -/
def Mentions (policy : PlatformEgressPolicy) (text : String) : Prop :=
  ∃ word, word.toList <:+: text.toList ∧
    (policy.RejectsName toLowercase word ∨ policy.RejectsTitle toLowercase word)

/-- The uploaded event contains no name and no title of a rejected application: not of the one the
    event is about, not of another one it names, and in a text of no application at all. -/
structure KeepsOut (policy : PlatformEgressPolicy) (event uploaded : Event) : Prop where
  inFront : ∀ app title, event.inFront = some (app, title) →
    policy.shouldSkip toLowercase app title = true →
    ∀ s ∈ uploaded.strings, ¬ app.toList <:+: s.toList ∧ ¬ title.toList <:+: s.toList
  others : ∀ name ∈ event.otherNames, policy.RejectsName toLowercase name →
    ∀ s ∈ uploaded.strings, ¬ name.toList <:+: s.toList
  texts : ∀ text ∈ uploaded.texts, ¬ policy.Mentions toLowercase text

/-- What the event may not have in it when it is uploaded: the name of a rejected application next
    to the one in front, and a rejected name or title in a free text or in the title that goes out. -/
structure Harmless (policy : PlatformEgressPolicy) (event : Event) : Prop where
  others : ∀ name ∈ event.otherNames, ¬ policy.RejectsName toLowercase name
  freeTexts : ∀ text ∈ event.freeTexts, ¬ policy.Mentions toLowercase text
  title : ∀ app title, event.inFront = some (app, title) →
    ¬ policy.Mentions toLowercase (policy.sanitizeTitle sanitizeTitleWithLevel title)

/-! ## What the policy does to an event -/

variable {toLowercase sanitizeTitleWithLevel} {policy : PlatformEgressPolicy} {event : Event}

/-- One statement for all kinds of events: with the application in front, when there is one. -/
theorem prepareEventForUpload_of_enabled (henabled : policy.enabled = true) :
    policy.prepareEventForUpload toLowercase sanitizeTitleWithLevel event =
      match event.inFront with
      | some (app, title) =>
        if policy.shouldSkip toLowercase app title then none
        else some (event.withTitle (policy.sanitizeTitle sanitizeTitleWithLevel title))
      | none => some event := by
  unfold prepareEventForUpload
  rw [henabled]
  cases event with
  | user event => rfl
  | system event => rfl
  | context event => rfl
  | input event => rfl
  | process event => rfl
  | window event => rfl
  | clipboard event => rfl
  | fileAccess event => rfl

/-- An event that goes out was not rejected, and only its title has changed. -/
theorem prepareEventForUpload_eq_some {uploaded : Event}
    (h : policy.prepareEventForUpload toLowercase sanitizeTitleWithLevel event = some uploaded) :
    policy.enabled = true ∧
      ((∃ app title, event.inFront = some (app, title) ∧
          policy.shouldSkip toLowercase app title = false ∧
          uploaded = event.withTitle (policy.sanitizeTitle sanitizeTitleWithLevel title)) ∨
        (event.inFront = none ∧ uploaded = event)) := by
  cases henabled : policy.enabled with
  | false =>
    unfold prepareEventForUpload at h
    rw [henabled] at h
    nomatch h
  | true =>
    refine ⟨rfl, ?_⟩
    rw [prepareEventForUpload_of_enabled henabled] at h
    split at h
    · next app title hfront =>
      split at h
      · nomatch h
      · next hskip =>
        exact .inl ⟨app, title, hfront, Bool.eq_false_iff.mpr hskip, (Option.some.inj h).symm⟩
    · next hfront => exact .inr ⟨hfront, (Option.some.inj h).symm⟩

end PlatformEgressPolicy

end

namespace Event

variable (event : Event) (title : String)

theorem inFront_withTitle :
    (event.withTitle title).inFront = event.inFront.map fun front => (front.1, title) := by
  cases event with
  | user event => rfl
  | context event => rfl
  | window event => rfl
  | _ => rfl

@[simp] theorem otherNames_withTitle : (event.withTitle title).otherNames = event.otherNames := by
  cases event with
  | context event => rfl
  | _ => rfl

@[simp] theorem freeTexts_withTitle : (event.withTitle title).freeTexts = event.freeTexts := by
  cases event with
  | process event => rfl
  | _ => rfl

theorem mem_strings_of_mem_otherNames {event : Event} {name : String}
    (h : name ∈ event.otherNames) : name ∈ event.strings :=
  List.mem_append_left _ (List.mem_append_right _ h)

end Event

/-! ## What is rejected -/

namespace PlatformEgressPolicy

section

variable (toLowercase : String → String)

/-- The part of `should_exclude` that looks at the name. -/
def excludesName (policy : PlatformEgressPolicy) (appName : String) : Bool :=
  (policy.privacyConfig.excludedApps.any fun app => toLowercase app == toLowercase appName) ||
    matchesExclusionPattern toLowercase appName policy.privacyConfig.excludedAppPatterns ||
    (policy.privacyConfig.autoExcludeSensitive && isSensitiveApp toLowercase appName)

/-- The name and the title are looked at separately. -/
theorem shouldSkip_eq (policy : PlatformEgressPolicy) (appName windowTitle : String) :
    policy.shouldSkip toLowercase appName windowTitle =
      (policy.excludesName toLowercase appName ||
        matchesExclusionPattern toLowercase windowTitle policy.privacyConfig.excludedTitlePatterns) := by
  unfold shouldSkip shouldExclude excludesName
  split
  · next hlisted => simp [hlisted]
  · next hlisted =>
    split
    · next hpattern => simp [hpattern]
    · next hpattern =>
      split
      · next htitle => simp [htitle]
      · next htitle =>
        split
        · next hsensitive => simp [hsensitive]
        · next hsensitive => simp [hlisted, hpattern, htitle, hsensitive]

/-- A name is rejected by itself when a rule about names matches it, or when the rules about titles
    match every title. -/
theorem rejectsName_iff (policy : PlatformEgressPolicy) (name : String) :
    policy.RejectsName toLowercase name ↔
      policy.excludesName toLowercase name = true ∨
        ∀ title, matchesExclusionPattern toLowercase title
          policy.privacyConfig.excludedTitlePatterns = true := by
  unfold RejectsName
  constructor
  · intro h
    cases hname : policy.excludesName toLowercase name with
    | true => exact .inl rfl
    | false =>
      refine .inr fun title => ?_
      have htitle := h title
      rwa [shouldSkip_eq, hname, Bool.false_or] at htitle
  · rintro (hname | htitles) title
    · rw [shouldSkip_eq, hname, Bool.true_or]
    · rw [shouldSkip_eq, htitles title, Bool.or_true]

end

/-! ## When excluded applications are kept out -/

section

variable {toLowercase : String → String}
  {sanitizeTitleWithLevel : String → PiiFilterLevel → String} {policy : PlatformEgressPolicy}
  {event uploaded : Event}

/-- An event that goes out and is harmless keeps them out. -/
theorem keepsOut_of_harmless
    (hupload : policy.prepareEventForUpload toLowercase sanitizeTitleWithLevel event = some uploaded)
    (h : policy.Harmless toLowercase sanitizeTitleWithLevel event) :
    policy.KeepsOut toLowercase event uploaded := by
  obtain ⟨-, ⟨app, title, hfront, hkept, rfl⟩ | ⟨hfront, rfl⟩⟩ :=
    prepareEventForUpload_eq_some hupload
  · refine ⟨fun _ _ hfront' hskip => ?_, fun name hname hrejects => ?_, fun text htext => ?_⟩
    · rw [hfront] at hfront'
      cases hfront'
      rw [hkept] at hskip
      nomatch hskip
    · exact absurd hrejects (h.others name hname)
    · rw [Event.texts, Event.inFront_withTitle, hfront, Event.freeTexts_withTitle] at htext
      rcases List.mem_cons.mp htext with rfl | htext
      · exact h.title app title hfront
      · exact h.freeTexts text htext
  · refine ⟨fun app title hfront' => ?_, fun name hname hrejects => ?_, fun text htext => ?_⟩
    · rw [hfront] at hfront'
      nomatch hfront'
    · exact absurd hrejects (h.others name hname)
    · rw [Event.texts, hfront] at htext
      exact h.freeTexts text htext

/-- An event that goes out and keeps them out is harmless: the other names and the free texts are
    in it as they were. -/
theorem harmless_of_keepsOut
    (hupload : policy.prepareEventForUpload toLowercase sanitizeTitleWithLevel event = some uploaded)
    (h : policy.KeepsOut toLowercase event uploaded) :
    policy.Harmless toLowercase sanitizeTitleWithLevel event := by
  have hsame : uploaded.otherNames = event.otherNames ∧ uploaded.freeTexts = event.freeTexts := by
    obtain ⟨-, ⟨app, title, hfront, hkept, rfl⟩ | ⟨hfront, rfl⟩⟩ :=
      prepareEventForUpload_eq_some hupload
    · exact ⟨event.otherNames_withTitle _, event.freeTexts_withTitle _⟩
    · exact ⟨rfl, rfl⟩
  refine ⟨fun name hname hrejects => ?_, fun text htext => ?_, fun app title hfront => ?_⟩
  · have hstring := Event.mem_strings_of_mem_otherNames (hsame.1 ▸ hname)
    exact h.others name hname hrejects name hstring List.infix_rfl
  · exact h.texts text (List.mem_append_right _ (hsame.2 ▸ htext))
  · obtain ⟨-, ⟨app', title', hfront', hkept, rfl⟩ | ⟨hfront', -⟩⟩ :=
      prepareEventForUpload_eq_some hupload
    · rw [hfront] at hfront'
      cases hfront'
      refine h.texts _ (List.mem_append_left _ ?_)
      rw [Event.inFront_withTitle, hfront]
      exact List.mem_singleton_self _
    · rw [hfront] at hfront'
      nomatch hfront'

end

end PlatformEgressPolicy

/-- **Excluded applications are kept out of an upload exactly when** upload is off, or the
    application in front is rejected and the event dropped, or no other application that the event
    names is rejected and neither its free texts nor the title that goes out mention a rejected name
    or title.  Any event, any configuration, any case mapping and any filter of titles. -/
theorem excluded_apps_kept_out_iff (toLowercase : String → String)
    (sanitizeTitleWithLevel : String → PiiFilterLevel → String) (policy : PlatformEgressPolicy)
    (event : Event) :
    (∀ uploaded,
        policy.prepareEventForUpload toLowercase sanitizeTitleWithLevel event = some uploaded →
        policy.KeepsOut toLowercase event uploaded) ↔
      policy.enabled = false ∨
        (∃ app title, event.inFront = some (app, title) ∧
          policy.shouldSkip toLowercase app title = true) ∨
        policy.Harmless toLowercase sanitizeTitleWithLevel event := by
  constructor
  · intro h
    cases hupload : policy.prepareEventForUpload toLowercase sanitizeTitleWithLevel event with
    | some uploaded =>
      exact .inr (.inr (PlatformEgressPolicy.harmless_of_keepsOut hupload (h uploaded hupload)))
    | none =>
      -- nothing goes out: upload is off, or the application in front is rejected
      cases henabled : policy.enabled with
      | false => exact .inl rfl
      | true =>
        rw [PlatformEgressPolicy.prepareEventForUpload_of_enabled henabled] at hupload
        split at hupload
        · next app title hfront =>
          split at hupload
          · next hskip => exact .inr (.inl ⟨app, title, hfront, hskip⟩)
          · nomatch hupload
        · nomatch hupload
  · rintro (hoff | ⟨app, title, hfront, hskip⟩ | hharmless) uploaded hupload
    · have henabled := (PlatformEgressPolicy.prepareEventForUpload_eq_some hupload).1
      rw [hoff] at henabled
      nomatch henabled
    · obtain ⟨-, ⟨app', title', hfront', hkept, -⟩ | ⟨hfront', -⟩⟩ :=
        PlatformEgressPolicy.prepareEventForUpload_eq_some hupload
      · rw [hfront] at hfront'
        cases hfront'
        rw [hskip] at hkept
        nomatch hkept
      · rw [hfront] at hfront'
        nomatch hfront'
    · exact PlatformEgressPolicy.keepsOut_of_harmless hupload hharmless

/-- The default privacy settings with upload on; titles are hidden. -/
def strictPolicy : PlatformEgressPolicy := ⟨true, .piiFilterStrict, .default⟩

/-- The user has come to the browser from a password manager. -/
def afterPasswordManager : Event :=
  .context ⟨"Safari", "News", some "1Password", 0, ⟨0⟩⟩

/-- The event goes out with the password manager's name in it. -/
theorem previous_app_is_uploaded :
    ¬ ∀ uploaded,
      strictPolicy.prepareEventForUpload (fun s => .ofList (Text.lower s.toList))
          (fun title _ => title) afterPasswordManager = some uploaded →
        strictPolicy.KeepsOut (fun s => .ofList (Text.lower s.toList)) afterPasswordManager
          uploaded := by
  intro h
  have hupload : strictPolicy.prepareEventForUpload (fun s => .ofList (Text.lower s.toList))
      (fun title _ => title) afterPasswordManager =
        some (.context ⟨"Safari", redactedWindowTitle, some "1Password", 0, ⟨0⟩⟩) := by
    rw [PlatformEgressPolicy.prepareEventForUpload_of_enabled rfl]
    exact if_neg (by decide +kernel)
  have hrejects : strictPolicy.RejectsName (fun s => .ofList (Text.lower s.toList)) "1Password" :=
    (PlatformEgressPolicy.rejectsName_iff _ _ _).mpr (.inl (by decide +kernel))
  exact (h _ hupload).others "1Password" List.mem_cons_self hrejects "1Password"
    (Event.mem_strings_of_mem_otherNames List.mem_cons_self) List.infix_rfl

end Oneshim
