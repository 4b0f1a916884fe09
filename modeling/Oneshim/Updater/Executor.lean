/-
  The updater behind the coordinator: which file is installed.

  `impl UpdateExecutor for Updater` plugs the check, the download and the install into the
  coordinator's loop.  One process is an `Installation`; what the network, the clock and the file
  system do during one event is a `UpdateWorld`.

  A check picks an asset AND says what kind of file it is, full binary or delta patch; the
  coordinator keeps the URL and forgets the kind, and nothing between the check and the installer
  looks at the file's name again.  So the file that becomes the executable is a full binary exactly
  as far as the asset selection makes sure of it: `installs_only_full` says so for every run in
  which every release the API answers with meets `SelectsFull`, and `patch_is_installed` is the run
  in which a release with a delta patch does not.
-/
import Oneshim.Updater.Coordinator

namespace Oneshim

open Lib

/-! ## The executor -/

/-- A running copy of the program: its updater, its libraries and the name of its executable. -/
structure Installation (Version : Type) where
  updater : Updater Version
  crates : Crates
  currentExe : String

/-- What is outside of the program during one event.  Each result of the startup check comes from
    an answer of the releases API of its own. -/
structure UpdateWorld where
  shouldCheck : Bool
  api : ReleasesApi
  network : Network
  temp : TempDir
  ops : InstallOps
  startup : Landings ReleasesApi

/-- The landings with a result. -/
def Landings.filterMap {α β : Type} (f : α → Option β) (landings : Landings α) : Landings β where
  before := landings.before.bind f
  beforeDownload := landings.beforeDownload.bind f
  duringDownload := landings.duringDownload.bind f
  duringInstall := landings.duringInstall.bind f

/-- No startup check comes in. -/
def Landings.none {α : Type} : Landings α := ⟨.none, .none, .none, .none⟩

theorem Landings.holds_filterMap {α β : Type} {f : α → Option β} {landings : Landings α} {y : β}
    (h : (landings.filterMap f).Holds y) : ∃ x, landings.Holds x ∧ f x = some y := by
  rcases h with h | h | h | h
  all_goals obtain ⟨x, hx, hy⟩ := Option.bind_eq_some_iff.mp h
  · exact ⟨x, .inl hx, hy⟩
  · exact ⟨x, .inr (.inl hx), hy⟩
  · exact ⟨x, .inr (.inr (.inl hx)), hy⟩
  · exact ⟨x, .inr (.inr (.inr hx)), hy⟩

/-- The answers of the releases API that a world holds. -/
def UpdateWorld.Asks (world : UpdateWorld) (api : ReleasesApi) : Prop :=
  api = world.api ∨ world.startup.Holds api

namespace Installation

variable {Version : Type} [LT Version] [DecidableLT Version]

/-- `impl UpdateExecutor for Updater`. -/
def executor (self : Installation Version) (world : UpdateWorld) :
    UpdateExecutor Version InstallDir where
  display := self.updater.semver.display
  shouldCheckForUpdates := self.updater.config.enabled && world.shouldCheck
  checkForUpdates := self.updater.checkForUpdates world.api
  downloadUpdateWithProgress :=
    downloadUpdateWithProgress self.crates self.updater.config world.network world.temp
  installAndRestart := self.updater.installAndRestart self.currentExe world.ops

/-- The startup check ignores its errors. -/
def turn (self : Installation Version) (world : UpdateWorld) : Turn Version InstallDir where
  executor := self.executor world
  landed := world.startup.filterMap fun api => (self.updater.checkForUpdates api).toOption

/-- A process: the coordinator from its start, over any events. -/
def coordinate (self : Installation Version) (autoInstall : Bool) (dir : InstallDir)
    (first : UpdateWorld) (events : List (UpdateWorld × CoordinatorEvent)) :
    Coordinator InstallDir :=
  (Coordinator.initial dir).runUpdateCoordinator self.updater.config autoInstall (self.turn first)
    (events.map fun event => (self.turn event.1, event.2))

/-! ## What may be installed -/

/-- The turns of a process are those of its worlds. -/
theorem exists_world {self : Installation Version} {first : UpdateWorld}
    {events : List (UpdateWorld × CoordinatorEvent)} {turn : Turn Version InstallDir}
    (h : turn ∈ self.turn first ::
      (events.map fun event => (self.turn event.1, event.2)).map Prod.fst) :
    ∃ world ∈ first :: events.map Prod.fst, turn = self.turn world := by
  rcases List.mem_cons.mp h with rfl | h
  · exact ⟨first, List.mem_cons_self, rfl⟩
  · rw [List.map_map] at h
    obtain ⟨event, hevent, rfl⟩ := List.mem_map.mp h
    exact ⟨event.1, List.mem_cons_of_mem _ (List.mem_map_of_mem hevent), rfl⟩

/-- The API answered with this release, to the coordinator or to the startup check. -/
def Fetched (self : Installation Version) (worlds : List UpdateWorld) (release : ReleaseInfo) :
    Prop :=
  ∃ world ∈ worlds, ∃ api, world.Asks api ∧
    self.updater.fetchTargetRelease releasesApiUrl api = .ok release

/-- A file that may become the executable: a full asset of a newer release, or what a delta patch
    of such a release makes of the running binary. -/
def MayInstall (self : Installation Version) (release : ReleaseInfo) (file : TempFile) : Prop :=
  ∃ current latest, self.updater.IsNewer release current latest ∧
    ∃ a ∈ release.assets,
      (IsFullAsset self.updater.platform a ∧ file.origin = .downloaded a.browserDownloadUrl) ∨
      (self.updater.IsDeltaPatch current latest a ∧
        file.origin = .patched (.downloaded a.browserDownloadUrl))

/-- The URL of a full asset of a newer release. -/
def OffersFull (self : Installation Version) (worlds : List UpdateWorld) (url : String) : Prop :=
  ∃ release, self.Fetched worlds release ∧ ∃ current latest,
    self.updater.IsNewer release current latest ∧
    ∃ a ∈ release.assets, IsFullAsset self.updater.platform a ∧ a.browserDownloadUrl = url

/-- A result that reaches the status comes from a check. -/
theorem check_of_answers {self : Installation Version} {world : UpdateWorld}
    {result : UpdateCheckResult Version} (h : (self.turn world).Answers result) :
    ∃ api, world.Asks api ∧ self.updater.checkForUpdates api = .ok result := by
  rcases h with h | h
  · exact ⟨world.api, .inl rfl, h⟩
  · obtain ⟨api, hapi, hresult⟩ := Landings.holds_filterMap h
    refine ⟨api, .inr hapi, ?_⟩
    cases hcheck : self.updater.checkForUpdates api with
    | error e => rw [hcheck] at hresult; nomatch hresult
    | ok r => rw [hcheck] at hresult; exact congrArg _ (Option.some.inj hresult)

/-- When the releases meet the condition, a turn offers full assets only. -/
theorem offersOnly_turn {self : Installation Version} {worlds : List UpdateWorld}
    (hfull : ∀ release, self.Fetched worlds release → self.updater.SelectsFull release)
    {world : UpdateWorld} (hworld : world ∈ worlds) :
    Coordinator.OffersOnly (self.OffersFull worlds) (self.turn world) where
  offers current latest release downloadUrl downloadSize assetType h := by
    obtain ⟨api, hasks, hcheck⟩ := check_of_answers h
    obtain ⟨hfetch, hnewer, -⟩ := Updater.available_of_check hcheck
    have hfetched : self.Fetched worlds release := ⟨world, hworld, api, hasks, hfetch⟩
    obtain ⟨-, a, hfind, hasset⟩ :=
      (Updater.selectsFull_iff_of_available hcheck).mp (hfull release hfetched)
    exact ⟨release, hfetched, current, latest, hnewer, a, List.mem_of_find?_eq_some hfind, hasset⟩
  fetches _ _ h := (download_ok h).1

/-- **Only full binaries are installed**, in every run in which every release that the API answers
    with meets `SelectsFull`: whatever is handed to the installer is a full asset of one of these
    releases, for the running platform. -/
theorem installs_only_full (self : Installation Version) (autoInstall : Bool) (dir : InstallDir)
    (first : UpdateWorld) (events : List (UpdateWorld × CoordinatorEvent))
    (hfull : ∀ release, self.Fetched (first :: events.map Prod.fst) release →
      self.updater.SelectsFull release) :
    ∀ file ∈ (self.coordinate autoInstall dir first events).installed,
      ∃ release, self.Fetched (first :: events.map Prod.fst) release ∧
        self.MayInstall release file := by
  intro file hfile
  have hturns : ∀ turn ∈ self.turn first ::
      (events.map fun event => (self.turn event.1, event.2)).map Prod.fst,
      Coordinator.OffersOnly (self.OffersFull (first :: events.map Prod.fst)) turn := by
    intro turn hturn
    obtain ⟨world, hworld, rfl⟩ := exists_world hturn
    exact offersOnly_turn hfull hworld
  obtain ⟨url, hoffer, horigin⟩ := (Coordinator.carries_run hturns).installed file hfile
  obtain ⟨release, hfetched, current, latest, hnewer, a, ha, hasset, rfl⟩ := hoffer
  exact ⟨release, hfetched, current, latest, hnewer, a, ha, .inl ⟨hasset, horigin⟩⟩

/-! ## A release with a delta patch -/

/-- The digest of the bytes every sample asset has. -/
def sampleDigest : List UInt8 :=
  [7, 226, 243, 38, 136, 195, 59, 107, 253, 170, 125, 227, 15, 255, 71, 20, 214, 43, 123, 164, 107,
    117, 134, 149, 17, 133, 116, 186, 223, 154, 76, 46]

/-- `BSDIFF40`. -/
def sampleBytes : List UInt8 := [66, 83, 68, 73, 70, 70, 52, 48]

/-- Version 0.4.0 on Linux; a version is its minor number. -/
def sampleInstallation : Installation Nat where
  updater :=
    { config :=
        { enabled := true, repoOwner := "o", repoName := "r", channel := .stable
          includePrerelease := false, installationId := some "id"
          requireSignatureVerification := false, signaturePublicKey := ""
          minAllowedVersion := none }
      platform := ⟨.linux, .x86_64⟩
      currentVersion := "0.4.0"
      semver :=
        { parse := fun s =>
            if s = "0.4.0" then .ok 4 else if s = "0.5.0" then .ok 5 else .error "unexpected"
          display := fun n => "0." ++ toString n ++ ".0" } }
  crates :=
    { parseUrl := fun s =>
        let name := (Text.splitLast '/' s.toList).map fun cut => String.ofList cut.2
        .ok ⟨s, "https", some "github.com", name.map fun name => ["o", "r", name]⟩
      sha256 := fun bytes => if bytes = sampleBytes then sampleDigest else []
      base64Decode := fun _ => .error "unexpected"
      ed25519Verify := fun _ _ _ => false
      utf8Error := fun _ => "unexpected" }
  currentExe := "oneshim"

/-- An asset of the sample release. -/
def sampleAsset (name : String) : ReleaseAsset :=
  ⟨name, "https://github.com/o/r/" ++ name, 8⟩

/-- Release 0.5.0 with these assets. -/
def sampleRelease (names : List String) : ReleaseInfo :=
  ⟨"v0.5.0", none, none, names.map sampleAsset, "https://github.com/o/r", none⟩

/-- A network that serves every asset with the checksum beside it, and installs that succeed. -/
def sampleWorld (names : List String) : UpdateWorld where
  shouldCheck := true
  api := fun _ => .ok ⟨⟨200, "OK"⟩, .ok (sampleRelease names), .error "unexpected"⟩
  network := fun url =>
    if ".sha256".toList.isSuffixOf url.toList then
      .ok ⟨⟨200, "OK"⟩, .ok (Hex.encodeLower sampleDigest).toUTF8.data.toList⟩
    else .ok ⟨⟨200, "OK"⟩, .ok sampleBytes⟩
  temp := ⟨1, .ok ()⟩
  ops :=
    { timestamp := 1, copy := .written
      extractTarGz := fun bytes => .ok bytes, extractZip := fun bytes => .ok bytes
      replaceBinary := .ok (), now := 1, writePending := .written, restartApp := .ok ()
      replaceBack := .ok () }
  startup := Landings.none

/-- The install directory before the update. -/
def sampleDir : InstallDir := Table.empty.upsert ⟨"oneshim", .bytes [1]⟩

/-- A check at the start, then two approvals: download, install. -/
def sampleCoordinate (names : List String) : Coordinator InstallDir :=
  sampleInstallation.coordinate false sampleDir (sampleWorld names)
    [(sampleWorld names, .approve), (sampleWorld names, .approve)]

/-- The sample run sees one release. -/
theorem eq_sampleRelease {names : List String} {worlds : List UpdateWorld} {release : ReleaseInfo}
    (hworlds : ∀ world ∈ worlds, world = sampleWorld names)
    (h : sampleInstallation.Fetched worlds release) : release = sampleRelease names := by
  obtain ⟨world, hworld, api, hasks, hfetch⟩ := h
  rw [hworlds world hworld] at hasks
  obtain rfl : api = (sampleWorld names).api := by
    rcases hasks with h | h | h | h | h
    · exact h
    all_goals nomatch h
  exact (Except.ok.inj hfetch).symm

/-- Full archives for two platforms, and the checksum and signature of one. -/
def fullAssets : List String :=
  ["oneshim-macos-arm64.tar.gz", "oneshim-linux-x64.tar.gz", "oneshim-linux-x64.tar.gz.sha256",
    "oneshim-linux-x64.tar.gz.sig"]

/-- The first asset for Linux is its archive. -/
theorem selectsFull_fullAssets :
    sampleInstallation.updater.SelectsFull (sampleRelease fullAssets) := by
  rintro current latest ⟨hcurrent, hlatest, -⟩
  obtain rfl : 4 = current := Except.ok.inj (hcurrent : Except.ok 4 = Except.ok current)
  obtain rfl : 5 = latest := Except.ok.inj (hlatest : Except.ok 5 = Except.ok latest)
  refine ⟨fun a ha hdelta => ?_, fun a ha => ?_⟩
  · have hnames : ∀ a ∈ (sampleRelease fullAssets).assets,
        a.name ≠ "oneshim-linux-x64-0.4.0-to-0.5.0.patch" := by decide
    exact hnames a ha hdelta.name
  · have hfind : (sampleRelease fullAssets).assets.find?
        (fun a => matchesPlatform sampleInstallation.updater.platform a.name) =
        some (sampleAsset "oneshim-linux-x64.tar.gz") := by decide
    rw [Option.some.inj (ha.symm.trans hfind)]
    decide

theorem sampleCoordinate_installs : ∃ file ∈ (sampleCoordinate fullAssets).installed,
    file.origin = .downloaded "https://github.com/o/r/oneshim-linux-x64.tar.gz" := by
  decide +kernel

/-- The archive is installed, and nothing else. -/
theorem installs_only_full_archive :
    (∃ file ∈ (sampleCoordinate fullAssets).installed,
      file.origin = .downloaded "https://github.com/o/r/oneshim-linux-x64.tar.gz") ∧
      ∀ file ∈ (sampleCoordinate fullAssets).installed,
        ∃ release, sampleInstallation.MayInstall release file := by
  constructor
  · exact sampleCoordinate_installs
  · intro file hfile
    have hfull : ∀ release, sampleInstallation.Fetched
        (List.replicate 3 (sampleWorld fullAssets)) release →
        sampleInstallation.updater.SelectsFull release := by
      intro release h
      rw [eq_sampleRelease (fun world hworld => List.eq_of_mem_replicate hworld) h]
      exact selectsFull_fullAssets
    obtain ⟨release, -, hmay⟩ := installs_only_full sampleInstallation false sampleDir
      (sampleWorld fullAssets)
      [(sampleWorld fullAssets, .approve), (sampleWorld fullAssets, .approve)] hfull file hfile
    exact ⟨release, hmay⟩

/-- The delta patch from the running version, and the full archive. -/
def patchAssets : List String :=
  ["oneshim-linux-x64.tar.gz", "oneshim-linux-x64-0.4.0-to-0.5.0.patch"]

/-- **A delta patch is installed as the executable**, although the full archive is there too. -/
theorem patch_is_installed :
    ¬∀ file ∈ (sampleCoordinate patchAssets).installed,
      ∃ release, sampleInstallation.Fetched (List.replicate 3 (sampleWorld patchAssets)) release ∧
        sampleInstallation.MayInstall release file := by
  intro h
  have hinstalled : ∃ file ∈ (sampleCoordinate patchAssets).installed, file.origin =
      .downloaded "https://github.com/o/r/oneshim-linux-x64-0.4.0-to-0.5.0.patch" := by
    decide +kernel
  obtain ⟨file, hfile, horigin⟩ := hinstalled
  obtain ⟨release, hfetched, current, latest, -, a, ha, hmay⟩ := h file hfile
  rw [eq_sampleRelease (fun world hworld => List.eq_of_mem_replicate hworld) hfetched] at ha
  rcases hmay with ⟨hfull, hurl⟩ | ⟨-, hpatched⟩
  · -- the only asset with that URL is the patch
    have hpatch : ∀ a ∈ (sampleRelease patchAssets).assets, a.browserDownloadUrl =
        "https://github.com/o/r/oneshim-linux-x64-0.4.0-to-0.5.0.patch" →
        ¬IsFullAsset sampleInstallation.updater.platform a := by decide +kernel
    exact hpatch a ha (Origin.downloaded.inj (hurl.symm.trans horigin)) hfull
  · nomatch horigin.symm.trans hpatched

end Installation

end Oneshim
