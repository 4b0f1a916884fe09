/-
  Checking for an update (`src-tauri/src/updater/mod.rs`, `github.rs`).

  The updater asks the releases API for one release, compares its version with the running one,
  applies the version floor and the staged rollout, and picks ONE asset of the release: the delta
  patch from the running version if there is one, else the first asset whose name mentions the
  platform.

  1. **Code** — `checkForUpdatesFrom` and what it calls.  Version numbers come from the `semver`
     crate: parsing and printing them are parameters, and so is their order.

  2. **Which asset** — a release also lists patches, checksums, signatures and files for other
     platforms, and a pattern may occur in their names too.  A full asset is known by its whole name
     (`IsFullAsset`); `SelectsFull` is the condition on the release's asset list under which the
     selection lands on one (`selectsFull_iff_of_available`).
-/
import Oneshim.Lib.Text

namespace Oneshim

open Lib

/-! ## Data -/

/-- `UpdateError`. -/
inductive UpdateError where
  | apiRequest (e : String)
  | parseResponse (e : String)
  | versionParse (e : String)
  | download (e : String)
  | install (e : String)
  | unsupportedPlatform (e : String)
  | filesystem (e : String)
  | disabled
  | alreadyLatest
  | noSuitableAsset
  | integrity (e : String)

/-- The `#[error]` texts. -/
def UpdateError.display : UpdateError → String
  | .apiRequest e => "GitHub API request failed: " ++ e
  | .parseResponse e => "Failed to parse API response: " ++ e
  | .versionParse e => "Failed to parse version: " ++ e
  | .download e => "Download failed: " ++ e
  | .install e => "Installation failed: " ++ e
  | .unsupportedPlatform e => "Unsupported platform: " ++ e
  | .filesystem e => "Filesystem error: " ++ e
  | .disabled => "Auto-update is disabled"
  | .alreadyLatest => "Already on latest version"
  | .noSuitableAsset => "No suitable release asset found for current platform"
  | .integrity e => "Integrity verification failed: " ++ e

/-- `ReleaseAsset`; `content_type` is read by nobody. -/
structure ReleaseAsset where
  name : String
  browserDownloadUrl : String
  size : Nat
deriving DecidableEq

/-- `ReleaseInfo`; `prerelease` is read by nobody. -/
structure ReleaseInfo where
  tagName : String
  name : Option String
  body : Option String
  assets : List ReleaseAsset
  htmlUrl : String
  publishedAt : Option String

/-- `UpdateAssetType`. -/
inductive UpdateAssetType where
  | fullBinary
  | deltaPatch (fromVersion : String)

/-- `UpdateCheckResult`. -/
inductive UpdateCheckResult (Version : Type) where
  | available (current latest : Version) (release : ReleaseInfo) (downloadUrl : String)
      (downloadSize : Option Nat) (assetType : UpdateAssetType)
  | upToDate (current : Version)

/-- `UpdateChannel`. -/
inductive UpdateChannel where
  | stable
  | preRelease
  | nightly
deriving DecidableEq

/-- `UpdateConfig`, the fields the updater reads. -/
structure UpdateConfig where
  enabled : Bool
  repoOwner : String
  repoName : String
  channel : UpdateChannel
  includePrerelease : Bool
  installationId : Option String
  requireSignatureVerification : Bool
  signaturePublicKey : String
  minAllowedVersion : Option String

/-- `target_os`. -/
inductive TargetOs where
  | macos
  | windows
  | linux
  | other (name : String)
deriving DecidableEq

/-- `target_arch`. -/
inductive TargetArch where
  | aarch64
  | x86_64
  | other (name : String)
deriving DecidableEq

/-- The platform the running binary was built for. -/
structure Platform where
  os : TargetOs
  arch : TargetArch
deriving DecidableEq

/-- What the updater uses of the `semver` crate, besides the order of versions. -/
structure Semver (Version : Type) where
  parse : String → Except String Version
  display : Version → String

/-- `Updater`, with what is fixed when it is compiled: the platform, `CURRENT_VERSION` and the
    version numbers. -/
structure Updater (Version : Type) where
  config : UpdateConfig
  platform : Platform
  currentVersion : String
  semver : Semver Version

/-- The status line of an HTTP response. -/
structure HttpStatus where
  code : Nat
  reason : String

/-- `is_success`. -/
def HttpStatus.isSuccess (status : HttpStatus) : Bool :=
  decide (200 ≤ status.code ∧ status.code < 300)

/-- `Display`. -/
def HttpStatus.display (status : HttpStatus) : String :=
  toString status.code ++ " " ++ status.reason

/-- A response of the releases API: its body read as one release, and as a list of them. -/
structure ApiResponse where
  status : HttpStatus
  release : Except String ReleaseInfo
  releases : Except String (List ReleaseInfo)

/-- The releases API: what a `GET` of a URL gives. -/
abbrev ReleasesApi := String → Except String ApiResponse

/-! ## Platforms -/

/-- `std::env::consts::OS`. -/
def TargetOs.name : TargetOs → String
  | .macos => "macos"
  | .windows => "windows"
  | .linux => "linux"
  | .other name => name

/-- `std::env::consts::ARCH`. -/
def TargetArch.name : TargetArch → String
  | .aarch64 => "aarch64"
  | .x86_64 => "x86_64"
  | .other name => name

/-- The architecture in a platform tag. -/
def TargetArch.tag : TargetArch → String
  | .aarch64 => "arm64"
  | .x86_64 => "x64"
  | .other name => name

/-- `get_platform_tag`. -/
def getPlatformTag (platform : Platform) : String :=
  platform.os.name ++ "-" ++ platform.arch.tag

/-- `get_platform_patterns`. -/
def getPlatformPatterns (platform : Platform) : Except UpdateError (List String) :=
  match platform.os, platform.arch with
  | .macos, .aarch64 =>
    .ok ["macos-arm64", "darwin-arm64", "macos-aarch64", "darwin-aarch64"]
  | .macos, .x86_64 => .ok ["macos-x64", "darwin-x64", "macos-x86_64", "darwin-x86_64"]
  | .windows, .x86_64 => .ok ["windows-x64", "windows-x86_64", "win64", "win-x64"]
  | .windows, .aarch64 => .ok ["windows-arm64", "windows-aarch64", "win-arm64"]
  | .linux, .x86_64 => .ok ["linux-x64", "linux-x86_64", "linux-amd64"]
  | .linux, .aarch64 => .ok ["linux-arm64", "linux-aarch64"]
  | os, arch => .error (.unsupportedPlatform (os.name ++ "-" ++ arch.name))

/-! ## Choosing an asset -/

/-- The name a delta patch has. -/
def patchName (platform currentVersion targetVersion : String) : String :=
  "oneshim-" ++ platform ++ "-" ++ currentVersion ++ "-to-" ++ targetVersion ++ ".patch"

/-- `find_patch_asset`. -/
def findPatchAsset (assets : List ReleaseAsset) (platform currentVersion targetVersion : String) :
    Option (String × Nat) :=
  (assets.find? fun a => a.name = patchName platform currentVersion targetVersion).map
    fun a => (a.browserDownloadUrl, a.size)

/-- Does the name, in lower case, contain one of the patterns?  The patterns are ASCII, and no
    letter outside ASCII has a lower case that makes up one of them. -/
def matchesPatterns (patterns : List String) (name : String) : Bool :=
  patterns.any fun pattern => Text.contains (Text.lower name.toList) pattern.toList

/-- `find_platform_asset`: the first asset that matches. -/
def findPlatformAsset (platform : Platform) (release : ReleaseInfo) :
    Except UpdateError (String × Nat) :=
  match getPlatformPatterns platform with
  | .error e => .error e
  | .ok patterns =>
    match release.assets.find? fun a => matchesPatterns patterns a.name with
    | some a => .ok (a.browserDownloadUrl, a.size)
    | none => .error .noSuitableAsset

/-! ## Staged rollout -/

/-- `fnv1a_hash`. -/
def fnv1aHash (data : List UInt8) : UInt64 :=
  data.foldl (fun hash byte => (hash ^^^ byte.toUInt64) * 0x100000001b3) 0xcbf29ce484222325

/-- `is_eligible_for_rollout`. -/
def isEligibleForRollout (installationId version : String) (rolloutPercent : Nat) : Bool :=
  if 100 ≤ rolloutPercent then true
  else if rolloutPercent = 0 then false
  else
    let data := installationId.toUTF8.data.toList ++ version.toUTF8.data.toList
    decide ((fnv1aHash data).toNat % 100 < rolloutPercent)

/-- `parse_rollout_percent`: 100 when the comment is absent or invalid. -/
def parseRolloutPercent (body : Option String) : Nat :=
  match body with
  | none => 100
  | some body =>
    match Text.cutAt "<!-- rollout:".toList body.toList with
    | none => 100
    | some (_, after) =>
      match Text.cutAt "-->".toList after with
      | none => 100
      | some (number, _) =>
        match Text.parseUnsigned 256 (Text.trim number) with
        | some percent => min percent 100
        | none => 100

/-! ## The check -/

/-- `includes_prerelease`. -/
def UpdateChannel.includesPrerelease : UpdateChannel → Bool
  | .stable => false
  | .preRelease => true
  | .nightly => true

/-- `effective_channel`. -/
def UpdateConfig.effectiveChannel (config : UpdateConfig) : UpdateChannel :=
  if config.channel = .stable ∧ config.includePrerelease then .preRelease else config.channel

/-- Where `check_for_updates` asks. -/
def releasesApiUrl : String := "https://api.github.com"

namespace Updater

variable {Version : Type}

/-- `fetch_target_release`. -/
def fetchTargetRelease (updater : Updater Version) (baseUrl : String) (api : ReleasesApi) :
    Except UpdateError ReleaseInfo :=
  let wantsPrerelease := updater.config.effectiveChannel.includesPrerelease
  let repo := baseUrl ++ "/repos/" ++ updater.config.repoOwner ++ "/" ++ updater.config.repoName
  let url := if wantsPrerelease then repo ++ "/releases?per_page=1" else repo ++ "/releases/latest"
  match api url with
  | .error e => .error (.apiRequest e)
  | .ok response =>
    if !response.status.isSuccess then
      .error (.parseResponse ("API response status: " ++ response.status.display))
    else if wantsPrerelease then
      match response.releases with
      | .error e => .error (.apiRequest e)
      | .ok [] => .error (.parseResponse "No releases found")
      | .ok (release :: _) => .ok release
    else
      match response.release with
      | .error e => .error (.apiRequest e)
      | .ok release => .ok release

/-- The version a release's tag spells: without its leading `v`s. -/
def latestTag (release : ReleaseInfo) : String :=
  String.ofList (release.tagName.toList.dropWhile (· == 'v'))

/-- `semver::Version::parse`, with the error as the updater reports it. -/
def parseVersion (updater : Updater Version) (version : String) : Except UpdateError Version :=
  match updater.semver.parse version with
  | .ok v => .ok v
  | .error e => .error (.versionParse e)

variable [LT Version] [DecidableLT Version]

/-- `enforce_version_floor`: a blank minimum is none. -/
def enforceVersionFloor (updater : Updater Version) (latest : Version) :
    Except UpdateError Unit :=
  match updater.config.minAllowedVersion with
  | none => .ok ()
  | some minAllowed =>
    if (Text.trim minAllowed.toList).isEmpty then .ok ()
    else
      match updater.semver.parse minAllowed with
      | .error e => .error (.integrity ("Invalid min_allowed_version: " ++ e))
      | .ok minAllowed =>
        if latest < minAllowed then
          .error (.integrity ("Release version " ++ updater.semver.display latest ++
            " is below configured minimum " ++ updater.semver.display minAllowed))
        else .ok ()

/-- The asset of a newer release: the delta patch first, then the full binary. -/
def offer (updater : Updater Version) (current latest : Version) (release : ReleaseInfo) :
    Except UpdateError (UpdateCheckResult Version) :=
  let latestStr := updater.semver.display latest
  let currentStr := updater.semver.display current
  match findPatchAsset release.assets (getPlatformTag updater.platform) currentStr latestStr with
  | some (patchUrl, patchSize) =>
    .ok (.available current latest release patchUrl (some patchSize) (.deltaPatch currentStr))
  | none =>
    match findPlatformAsset updater.platform release with
    | .error e => .error e
    | .ok (downloadUrl, assetSize) =>
      .ok (.available current latest release downloadUrl (some assetSize) .fullBinary)

/-- Is this installation in the release's rollout?  Without an installation id it is not. -/
def inRollout (updater : Updater Version) (latest : Version) (release : ReleaseInfo) : Bool :=
  match updater.config.installationId with
  | none => false
  | some installationId =>
    isEligibleForRollout installationId (updater.semver.display latest)
      (parseRolloutPercent release.body)

/-- `check_for_updates_from`. -/
def checkForUpdatesFrom (updater : Updater Version) (baseUrl : String) (api : ReleasesApi) :
    Except UpdateError (UpdateCheckResult Version) :=
  if !updater.config.enabled then .error .disabled
  else
    match updater.parseVersion updater.currentVersion with
    | .error e => .error e
    | .ok current =>
      match updater.fetchTargetRelease baseUrl api with
      | .error e => .error e
      | .ok release =>
        match updater.parseVersion (latestTag release) with
        | .error e => .error e
        | .ok latest =>
          match updater.enforceVersionFloor latest with
          | .error e => .error e
          | .ok () =>
            if current < latest then
              if updater.inRollout latest release then updater.offer current latest release
              else .ok (.upToDate current)
            else .ok (.upToDate current)

/-- `check_for_updates`. -/
def checkForUpdates (updater : Updater Version) (api : ReleasesApi) :
    Except UpdateError (UpdateCheckResult Version) :=
  updater.checkForUpdatesFrom releasesApiUrl api

end Updater

/-! ## What a check offers -/

/-- What an operating system is called in the names of assets. -/
def TargetOs.assetNames : TargetOs → List String
  | .macos => ["macos", "darwin"]
  | .windows => ["windows", "win"]
  | .linux => ["linux"]
  | .other name => [name]

/-- What an architecture is called there. -/
def TargetArch.assetNames : TargetArch → List String
  | .aarch64 => ["arm64", "aarch64"]
  | .x86_64 => ["x64", "x86_64", "amd64"]
  | .other name => [name]

/-- What a platform is called there. -/
def Platform.assetNames (platform : Platform) : List String :=
  (platform.os.assetNames.flatMap fun os => platform.arch.assetNames.map fun arch =>
    os ++ "-" ++ arch) ++ if platform = ⟨.windows, .x86_64⟩ then ["win64"] else []

/-- How a full asset ends: an archive, or a binary. -/
def TargetOs.assetEndings (os : TargetOs) : List String :=
  [".tar.gz", ".tgz", ".zip", ""] ++ if os = .windows then [".exe"] else []

/-- The names of full assets: program, platform and ending, and nothing in between. -/
def fullAssetNames (platform : Platform) : List String :=
  platform.assetNames.flatMap fun name => platform.os.assetEndings.map fun ending =>
    "oneshim-" ++ name ++ ending

/-- Does the name contain one of the platform's patterns? -/
def matchesPlatform (platform : Platform) (name : String) : Bool :=
  match getPlatformPatterns platform with
  | .error _ => false
  | .ok patterns => matchesPatterns patterns name

/-- A full binary or archive for the platform, by its whole name. -/
def IsFullAsset (platform : Platform) (a : ReleaseAsset) : Prop := a.name ∈ fullAssetNames platform

instance (platform : Platform) (a : ReleaseAsset) : Decidable (IsFullAsset platform a) :=
  inferInstanceAs (Decidable (a.name ∈ fullAssetNames platform))

theorem mem_of_findPatchAsset {assets : List ReleaseAsset} {platform current target url : String}
    {size : Nat} (h : findPatchAsset assets platform current target = some (url, size)) :
    ∃ a ∈ assets, a.name = patchName platform current target ∧ a.browserDownloadUrl = url := by
  obtain ⟨a, hfind, heq⟩ := Option.map_eq_some_iff.mp h
  have hname := List.find?_some hfind
  exact ⟨a, List.mem_of_find?_eq_some hfind, of_decide_eq_true hname, congrArg Prod.fst heq⟩

theorem ne_of_findPatchAsset {assets : List ReleaseAsset} {platform current target : String}
    (h : findPatchAsset assets platform current target = none) :
    ∀ a ∈ assets, a.name ≠ patchName platform current target := by
  intro a ha hname
  have hnone := List.find?_eq_none.mp (Option.map_eq_none_iff.mp h) a ha
  exact hnone (decide_eq_true hname)

variable {release : ReleaseInfo}

/-- `find_platform_asset` is the first asset that mentions the platform. -/
theorem find?_of_findPlatformAsset {platform : Platform} {url : String} {size : Nat}
    (h : findPlatformAsset platform release = .ok (url, size)) :
    ∃ a, release.assets.find? (fun a => matchesPlatform platform a.name) = some a ∧
      a.browserDownloadUrl = url := by
  unfold findPlatformAsset at h
  unfold matchesPlatform
  split at h
  · nomatch h
  · split at h
    · next a hfind =>
      refine ⟨a, hfind, ?_⟩
      injection h with h
      exact congrArg Prod.fst h
    · nomatch h

namespace Updater

variable {Version : Type}

/-- The release is newer than the running binary. -/
def IsNewer [LT Version] (updater : Updater Version) (release : ReleaseInfo)
    (current latest : Version) : Prop :=
  updater.semver.parse updater.currentVersion = .ok current ∧
    updater.semver.parse (latestTag release) = .ok latest ∧ current < latest

/-- A delta patch of the release for the running binary. -/
structure IsDeltaPatch (updater : Updater Version) (current latest : Version) (a : ReleaseAsset) :
    Prop where
  name : a.name = patchName (getPlatformTag updater.platform) (updater.semver.display current)
    (updater.semver.display latest)

/-- **The condition on a release**, when it is newer: none of its assets is the delta patch from the
    running version, and the first asset whose name contains a pattern of the platform is a full
    asset for it. -/
def SelectsFull [LT Version] (updater : Updater Version) (release : ReleaseInfo) : Prop :=
  ∀ current latest, updater.IsNewer release current latest →
    (∀ a ∈ release.assets, ¬updater.IsDeltaPatch current latest a) ∧
      ∀ a, release.assets.find? (fun a => matchesPlatform updater.platform a.name) = some a →
        IsFullAsset updater.platform a

variable {updater : Updater Version}

theorem parseVersion_ok {s : String} {v : Version} (h : updater.parseVersion s = .ok v) :
    updater.semver.parse s = .ok v := by
  unfold parseVersion at h
  split at h
  · next heq =>
    injection h with h
    rw [heq, h]
  · nomatch h

/-- What an offer is: the delta patch if there is one, else the first asset for the platform. -/
theorem offer_ok {current latest : Version} {result : UpdateCheckResult Version}
    (h : updater.offer current latest release = .ok result) :
    ∃ url size kind, result = .available current latest release url size kind ∧
      ((kind = .deltaPatch (updater.semver.display current) ∧
        ∃ a ∈ release.assets, updater.IsDeltaPatch current latest a ∧ a.browserDownloadUrl = url) ∨
      (kind = .fullBinary ∧ (∀ a ∈ release.assets, ¬updater.IsDeltaPatch current latest a) ∧
        ∃ a, a.browserDownloadUrl = url ∧
          release.assets.find? (fun a => matchesPlatform updater.platform a.name) = some a)) := by
  unfold offer at h
  simp only at h
  split at h
  · next url size hpatch =>
    obtain ⟨a, hmem, hname, hurl⟩ := mem_of_findPatchAsset hpatch
    injection h with h
    exact ⟨url, some size, _, h.symm, .inl ⟨rfl, a, hmem, ⟨hname⟩, hurl⟩⟩
  · next hnone =>
    split at h
    · nomatch h
    · next url size hplatform =>
      obtain ⟨a, hfind, hurl⟩ := find?_of_findPlatformAsset hplatform
      have hpatch : ∀ a ∈ release.assets, ¬updater.IsDeltaPatch current latest a :=
        fun a ha hdelta => ne_of_findPatchAsset hnone a ha hdelta.name
      injection h with h
      exact ⟨url, some size, _, h.symm, .inr ⟨rfl, hpatch, a, hurl, hfind⟩⟩

variable [LT Version] [DecidableLT Version]

/-- An available update comes from the release the API answered with, and that release is newer. -/
theorem available_of_check {baseUrl : String} {api : ReleasesApi} {current latest : Version}
    {url : String} {size : Option Nat} {kind : UpdateAssetType}
    (h : updater.checkForUpdatesFrom baseUrl api =
      .ok (.available current latest release url size kind)) :
    updater.fetchTargetRelease baseUrl api = .ok release ∧
      updater.IsNewer release current latest ∧
      updater.offer current latest release =
        .ok (.available current latest release url size kind) := by
  unfold checkForUpdatesFrom at h
  split at h
  · nomatch h
  split at h
  · nomatch h
  next current' hcurrent =>
  split at h
  · nomatch h
  next release' hfetch =>
  split at h
  · nomatch h
  next latest' hlatest =>
  split at h
  · nomatch h
  split at h
  swap
  · nomatch h
  next hlt =>
  split at h
  swap
  · nomatch h
  obtain ⟨_, _, _, heq, _⟩ := offer_ok h
  injection heq with hc hl hr
  subst hc hl hr
  exact ⟨hfetch, ⟨parseVersion_ok hcurrent, parseVersion_ok hlatest, hlt⟩, h⟩

/-- **Exactly under the condition, a check offers a full asset**: the first one of the release for
    the platform. -/
theorem selectsFull_iff_of_available {baseUrl : String} {api : ReleasesApi}
    {current latest : Version} {url : String} {size : Option Nat} {kind : UpdateAssetType}
    (h : updater.checkForUpdatesFrom baseUrl api =
      .ok (.available current latest release url size kind)) :
    updater.SelectsFull release ↔
      kind = .fullBinary ∧
        ∃ a, release.assets.find? (fun a => matchesPlatform updater.platform a.name) = some a ∧
          IsFullAsset updater.platform a ∧ a.browserDownloadUrl = url := by
  obtain ⟨_, hnewer, hoffer⟩ := available_of_check h
  obtain ⟨url', size', kind', heq, hkind⟩ := offer_ok hoffer
  injection heq with _ _ _ hurl _ hkind'
  subst hurl hkind'
  constructor
  · intro hfull
    obtain ⟨hpatch, hfirst⟩ := hfull current latest hnewer
    rcases hkind with ⟨_, a, hmem, hdelta, _⟩ | ⟨hkind, _, a, hurl, hfind⟩
    · exact absurd hdelta (hpatch a hmem)
    · exact ⟨hkind, a, hfind, hfirst a hfind, hurl⟩
  · rintro ⟨hfull, a, hfind, hasset, _⟩ current' latest' hnewer'
    -- the versions are those of the check
    obtain rfl : current = current' := Except.ok.inj (hnewer.1.symm.trans hnewer'.1)
    obtain rfl : latest = latest' := Except.ok.inj (hnewer.2.1.symm.trans hnewer'.2.1)
    refine ⟨?_, fun b hb => ?_⟩
    · rcases hkind with ⟨hdelta, _⟩ | ⟨_, hpatch, _⟩
      · rw [hdelta] at hfull
        nomatch hfull
      · exact hpatch
    · rw [Option.some.inj (hb.symm.trans hfind)]
      exact hasset

/-- On Windows the archive for macOS is picked when it comes first: `darwin-x64` contains
    `win-x64`. -/
example :
    let assets := ["oneshim-darwin-x64.tar.gz", "oneshim-windows-x64.zip"]
    assets.find? (matchesPlatform ⟨.windows, .x86_64⟩) = some "oneshim-darwin-x64.tar.gz" ∧
      "oneshim-darwin-x64.tar.gz" ∉ fullAssetNames ⟨.windows, .x86_64⟩ := by
  decide +kernel

end Updater

end Oneshim
