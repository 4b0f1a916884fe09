/-
  The update coordinator (`src-tauri/src/update_coordinator.rs`, `update_runtime.rs`).

  One task owns the update: it checks, waits for an approval, downloads, waits for another approval
  and installs; with `auto_install` it does not wait.  What a check found is kept in the status
  (`pending`), what a download wrote in `downloaded_path`.

  1. **Code** — `runCheck`, `runDownload`, `runInstall` and the loop around them, as state passing.
     The `UpdateExecutor` trait is a record with the outcome of each call; a `Turn` is the executor
     during one event.

  2. **Interleaving** — a second task, the startup check, writes its result into the same status at
     a moment of its own.  `Landings` are the points between the coordinator's lock acquisitions at
     which that write can land and is not overwritten at once; it may land at any of them.

  3. **Effects** — every turn is a sequence of a few primitive `Effect`s (`step_effects`), so an
     invariant is checked against those and not against the code again.

  4. **Provenance** — `Carries` says that the pending URL, the downloaded file and everything handed
     to the installer go back to an offer of a check, in every run (`carries_run`).
-/
import Mathlib.Logic.Relation
import Oneshim.Updater.Install

namespace Oneshim

open Lib

/-! ## Data -/

/-- `UpdatePhase`. -/
inductive UpdatePhase where
  | idle
  | checking
  | pendingApproval
  | downloading
  | readyToInstall
  | installing
  | updated
  | deferred
  | error
  | rolledBack

/-- `PendingUpdateInfo`. -/
structure PendingUpdateInfo where
  currentVersion : String
  latestVersion : String
  releaseUrl : String
  releaseName : Option String
  publishedAt : Option String
  downloadUrl : String
  releaseNotes : Option String
  downloadSizeBytes : Option Nat

/-- `UpdateStatus`, without the download progress and what the coordinator does not write. -/
structure UpdateStatus where
  phase : UpdatePhase
  message : Option String
  pending : Option PendingUpdateInfo

/-- `UpdateAction`, and the other thing the loop selects on. -/
inductive CoordinatorEvent where
  | checkNow
  | approve
  | defer
  | recheckTimer

/-- The outcomes of the calls of `UpdateExecutor`; `σ` is what an install changes. -/
structure UpdateExecutor (Version σ : Type) where
  /-- `Version::to_string`. -/
  display : Version → String
  shouldCheckForUpdates : Bool
  checkForUpdates : Except UpdateError (UpdateCheckResult Version)
  downloadUpdateWithProgress : String → Except UpdateError TempFile
  installAndRestart : TempFile → σ → Except UpdateError Unit × σ

/-- Where the result of the startup check can land during a turn. -/
structure Landings (α : Type) where
  before : Option α
  beforeDownload : Option α
  duringDownload : Option α
  duringInstall : Option α

/-- One event of the coordinator: the executor, and the startup check if it comes in. -/
structure Turn (Version σ : Type) where
  executor : UpdateExecutor Version σ
  landed : Landings (UpdateCheckResult Version)

/-- The coordinator: the shared status, its own `downloaded_path`, and the device.  `installed` and
    `published` are logs: the files handed to `install_and_restart`, and every status written. -/
structure Coordinator (σ : Type) where
  status : UpdateStatus
  downloadedPath : Option TempFile
  device : σ
  installed : List TempFile
  published : List UpdateStatus

/-! ## The code -/

variable {Version σ : Type}

/-- `initial_status`, when nothing has happened yet. -/
def Coordinator.initial (device : σ) : Coordinator σ := ⟨⟨.idle, none, none⟩, none, device, [], []⟩

/-- What a check found, for the status. -/
def pendingUpdateInfo (display : Version → String) (current latest : Version)
    (release : ReleaseInfo) (downloadUrl : String) (downloadSize : Option Nat) :
    PendingUpdateInfo where
  currentVersion := display current
  latestVersion := display latest
  releaseUrl := release.htmlUrl
  releaseName := release.name
  publishedAt := release.publishedAt
  downloadUrl := downloadUrl
  releaseNotes := release.body
  downloadSizeBytes := downloadSize

namespace Coordinator

/-- Write the status and broadcast it. -/
def publish (self : Coordinator σ) (phase : UpdatePhase) (message : String)
    (pending : Option PendingUpdateInfo) : Coordinator σ :=
  let status : UpdateStatus := ⟨phase, some message, pending⟩
  { self with status := status, published := self.published ++ [status] }

/-- The status after an update was found. -/
def offer (self : Coordinator σ) (display : Version → String) (current latest : Version)
    (release : ReleaseInfo) (downloadUrl : String) (downloadSize : Option Nat) : Coordinator σ :=
  self.publish .pendingApproval
    ("New version detected: " ++ display current ++ " -> " ++ display latest)
    (some (pendingUpdateInfo display current latest release downloadUrl downloadSize))

/-- The startup check writes what it found; an `UpToDate` is only logged. -/
def land (self : Coordinator σ) (turn : Turn Version σ)
    (landed : Option (UpdateCheckResult Version)) : Coordinator σ :=
  match landed with
  | some (.available current latest release downloadUrl downloadSize _) =>
    self.offer turn.executor.display current latest release downloadUrl downloadSize
  | _ => self

/-- `emit_error`. -/
def emitError (self : Coordinator σ) (message : String) : Coordinator σ :=
  self.publish .error message self.status.pending

/-- `run_download`. -/
def runDownload (self : Coordinator σ) (turn : Turn Version σ) :
    Except UpdateError Unit × Coordinator σ :=
  let self := self.land turn turn.landed.beforeDownload
  match self.status.pending with
  | none => (.ok (), self.publish .idle "No pending update to download" none)
  | some pending =>
    let self := self.publish .downloading ("Downloading version " ++ pending.latestVersion)
      (some pending)
    let self := self.land turn turn.landed.duringDownload
    match turn.executor.downloadUpdateWithProgress pending.downloadUrl with
    | .ok path =>
      let self := { self with downloadedPath := some path }
      (.ok (), self.publish .readyToInstall
        ("Download complete. Ready to install version " ++ pending.latestVersion)
        self.status.pending)
    | .error e => (.error e, { self with downloadedPath := none })

/-- `run_install`. -/
def runInstall (self : Coordinator σ) (turn : Turn Version σ) :
    Except UpdateError Unit × Coordinator σ :=
  match self.downloadedPath with
  | none => (.error (.install "No downloaded file available for installation"), self)
  | some path =>
    let self := { self with downloadedPath := none }
    let versionLabel := (self.status.pending.map (·.latestVersion)).getD "unknown"
    let self := self.publish .installing ("Installing version " ++ versionLabel)
      self.status.pending
    let (result, device) := turn.executor.installAndRestart path self.device
    let self := { self with device := device, installed := self.installed ++ [path] }
    let self := self.land turn turn.landed.duringInstall
    match result with
    | .ok () => (.ok (), self.publish .updated ("Updated to version " ++ versionLabel) none)
    | .error e =>
      (.error e, self.publish .error ("Update installation failed: " ++ e.display)
        self.status.pending)

/-- Install what was downloaded, and report a failure. -/
def installOrReport (self : Coordinator σ) (turn : Turn Version σ) (failure : String) :
    Coordinator σ :=
  match self.runInstall turn with
  | (.error e, self) => self.emitError (failure ++ e.display)
  | (.ok (), self) => self

/-- `run_check`.  The asset type of the result is not read. -/
def runCheck (self : Coordinator σ) (turn : Turn Version σ) (autoInstall : Bool) :
    Coordinator σ :=
  let self := self.publish .checking "Checking for new version" none
  match turn.executor.checkForUpdates with
  | .ok (.upToDate current) =>
    self.publish .idle ("Already on latest version: " ++ turn.executor.display current) none
  | .ok (.available current latest release downloadUrl downloadSize _) =>
    let self := self.offer turn.executor.display current latest release downloadUrl downloadSize
    if autoInstall then
      match self.runDownload turn with
      | (.error e, self) => self.emitError ("Auto-download failed: " ++ e.display)
      | (.ok (), self) => self.installOrReport turn "Auto-install failed: "
    else self
  | .error .disabled => self.publish .idle "Update feature is disabled" none
  | .error e => self.publish .error ("Failed to check for updates: " ++ e.display) none

/-- `UpdateAction::Approve`. -/
def handleApprove (self : Coordinator σ) (turn : Turn Version σ) (autoInstall : Bool) :
    Coordinator σ :=
  match self.status.phase with
  | .pendingApproval =>
    match self.runDownload turn with
    | (.error e, self) => self.emitError ("Download failed: " ++ e.display)
    | (.ok (), self) =>
      if autoInstall then self.installOrReport turn "Auto-install failed: " else self
  | .readyToInstall => self.installOrReport turn "Installation failed: "
  | _ => self

/-- `UpdateAction::Defer`. -/
def handleDefer (self : Coordinator σ) : Coordinator σ :=
  match self.status.phase with
  | .pendingApproval | .readyToInstall =>
    { self with downloadedPath := none }.publish .deferred "Update was deferred" none
  | _ => self

/-- The periodic re-check: not while an update is pending, downloading or installing. -/
def handleRecheck (self : Coordinator σ) (turn : Turn Version σ) (autoInstall : Bool) :
    Coordinator σ :=
  match self.status.phase with
  | .idle | .deferred | .error => self.runCheck turn autoInstall
  | _ => self

/-- One round of the loop. -/
def step (autoInstall : Bool) (self : Coordinator σ)
    (event : Turn Version σ × CoordinatorEvent) : Coordinator σ :=
  let self := self.land event.1 event.1.landed.before
  match event.2 with
  | .checkNow => self.runCheck event.1 autoInstall
  | .approve => self.handleApprove event.1 autoInstall
  | .defer => self.handleDefer
  | .recheckTimer => self.handleRecheck event.1 autoInstall

/-- The check on startup. -/
def start (autoInstall : Bool) (self : Coordinator σ) (turn : Turn Version σ) : Coordinator σ :=
  let self := self.land turn turn.landed.before
  if turn.executor.shouldCheckForUpdates then self.runCheck turn autoInstall else self

/-- `run_update_coordinator_with_executor`. -/
def runUpdateCoordinatorWithExecutor (autoInstall : Bool) (self : Coordinator σ)
    (first : Turn Version σ) (events : List (Turn Version σ × CoordinatorEvent)) :
    Coordinator σ :=
  events.foldl (step autoInstall) (self.start autoInstall first)

/-- `run_update_coordinator`: nothing runs when updates are disabled. -/
def runUpdateCoordinator (config : UpdateConfig) (autoInstall : Bool) (self : Coordinator σ)
    (first : Turn Version σ) (events : List (Turn Version σ × CoordinatorEvent)) :
    Coordinator σ :=
  if !config.enabled then self.publish .idle "Update feature is disabled" none
  else self.runUpdateCoordinatorWithExecutor autoInstall first events

end Coordinator

/-! ## Effects -/

/-- It lands at one of the points. -/
def Landings.Holds {α : Type} (landings : Landings α) (x : α) : Prop :=
  landings.before = some x ∨ landings.beforeDownload = some x ∨
    landings.duringDownload = some x ∨ landings.duringInstall = some x

/-- The results a turn can put into the status: of its check, or of the startup check. -/
def Turn.Answers (turn : Turn Version σ) (result : UpdateCheckResult Version) : Prop :=
  turn.executor.checkForUpdates = .ok result ∨ turn.landed.Holds result

namespace Coordinator

/-- What a turn can do to the coordinator, one primitive step at a time. -/
inductive Effect (turn : Turn Version σ) : Coordinator σ → Coordinator σ → Prop where
  /-- A new phase, with the same pending update or none. -/
  | publish {c : Coordinator σ} (phase : UpdatePhase) (message : String)
      {pending : Option PendingUpdateInfo} (h : pending = c.status.pending ∨ pending = none) :
      Effect turn c (c.publish phase message pending)
  /-- A check found an update. -/
  | offer {c : Coordinator σ} {current latest : Version} {release : ReleaseInfo}
      {downloadUrl : String} {downloadSize : Option Nat} {assetType : UpdateAssetType}
      (h : turn.Answers (.available current latest release downloadUrl downloadSize assetType)) :
      Effect turn c
        (c.offer turn.executor.display current latest release downloadUrl downloadSize)
  | forget {c : Coordinator σ} : Effect turn c { c with downloadedPath := none }
  /-- The pending update was downloaded. -/
  | download {c : Coordinator σ} {pending : PendingUpdateInfo} {path : TempFile}
      (hpending : c.status.pending = some pending)
      (h : turn.executor.downloadUpdateWithProgress pending.downloadUrl = .ok path) :
      Effect turn c { c with downloadedPath := some path }
  /-- The downloaded file is handed to the installer. -/
  | install {c : Coordinator σ} {path : TempFile} (h : c.downloadedPath = some path) :
      Effect turn c
        { c with
          downloadedPath := none
          device := (turn.executor.installAndRestart path c.device).2
          installed := c.installed ++ [path] }

/-- Any number of effects of a turn. -/
abbrev Effects (turn : Turn Version σ) : Coordinator σ → Coordinator σ → Prop :=
  Relation.ReflTransGen (Effect turn)

variable {turn : Turn Version σ}

theorem Effects.single {c c' : Coordinator σ} (h : Effect turn c c') : Effects turn c c' :=
  Relation.ReflTransGen.single h

theorem land_effects (c : Coordinator σ) {landed : Option (UpdateCheckResult Version)}
    (h : ∀ result, landed = some result → turn.landed.Holds result) :
    Effects turn c (c.land turn landed) := by
  unfold land
  split
  · exact .single (.offer (.inr (h _ rfl)))
  · exact .refl

theorem emitError_effects (c : Coordinator σ) (message : String) :
    Effects turn c (c.emitError message) :=
  .single (.publish .error message (.inl rfl))

/-- A download does what the phases allow. -/
theorem runDownload_effects (c : Coordinator σ) : Effects turn c (c.runDownload turn).2 := by
  have hbefore : Effects turn c (c.land turn turn.landed.beforeDownload) :=
    land_effects c (fun _ h => .inr (.inl h))
  refine hbefore.trans ?_
  unfold runDownload
  simp only
  generalize c.land turn turn.landed.beforeDownload = c
  split
  · exact .single (.publish .idle _ (.inr rfl))
  · next pending hpending =>
    have hstart : Effects turn c
        (c.publish .downloading ("Downloading version " ++ pending.latestVersion) (some pending)) :=
      .single (.publish .downloading _ (.inl hpending.symm))
    refine hstart.trans ?_
    generalize hc : c.publish .downloading _ (some pending) = c'
    have hpending' : c'.status.pending = some pending := by rw [← hc]; rfl
    have hduring (d : Coordinator σ) : Effects turn d (d.land turn turn.landed.duringDownload) :=
      land_effects d (fun _ h => .inr (.inr (.inl h)))
    split
    · next path hpath =>
      -- storing the file and the landing commute, so the file may be stored first
      have hstore : Effects turn c' { c' with downloadedPath := some path } :=
        .single (.download hpending' hpath)
      have hswap : { c' with downloadedPath := some path }.land turn turn.landed.duringDownload =
          { c'.land turn turn.landed.duringDownload with downloadedPath := some path } := by
        unfold land
        split <;> rfl
      refine hstore.trans ((hswap ▸ hduring _).trans ?_)
      exact .single (.publish .readyToInstall _ (.inl rfl))
    · exact (hduring c').trans (.single .forget)

/-- What an installation can do. -/
theorem runInstall_effects (c : Coordinator σ) : Effects turn c (c.runInstall turn).2 := by
  unfold runInstall
  split
  · exact .refl
  · next path hpath =>
    simp only
    generalize (c.status.pending.map (·.latestVersion)).getD "unknown" = versionLabel
    have hstart : Effects turn c
        (c.publish .installing ("Installing version " ++ versionLabel) c.status.pending) :=
      .single (.publish .installing _ (.inl rfl))
    have hinstall : Effect turn
        (c.publish .installing ("Installing version " ++ versionLabel) c.status.pending) _ :=
      .install hpath
    refine hstart.trans (.head hinstall ?_)
    have hduring (d : Coordinator σ) : Effects turn d (d.land turn turn.landed.duringInstall) :=
      land_effects d (fun _ h => .inr (.inr (.inr h)))
    refine (hduring _).trans ?_
    split
    · exact .single (.publish .updated _ (.inr rfl))
    · exact .single (.publish .error _ (.inl rfl))

theorem installOrReport_effects (c : Coordinator σ) (failure : String) :
    Effects turn c (c.installOrReport turn failure) := by
  have hinstall : Effects turn c (c.runInstall turn).2 := runInstall_effects c
  unfold installOrReport
  split
  · next e c' heq =>
    rw [heq] at hinstall
    exact hinstall.trans (emitError_effects c' _)
  · next c' heq =>
    rw [heq] at hinstall
    exact hinstall

/-- A check does what the phases allow. -/
theorem runCheck_effects (c : Coordinator σ) (autoInstall : Bool) :
    Effects turn c (c.runCheck turn autoInstall) := by
  unfold runCheck
  simp only
  have hchecking : Effects turn c (c.publish .checking "Checking for new version" none) :=
    .single (.publish .checking _ (.inr rfl))
  refine hchecking.trans ?_
  generalize c.publish .checking "Checking for new version" none = c
  split
  · exact .single (.publish .idle _ (.inr rfl))
  · next current latest release downloadUrl downloadSize assetType hcheck =>
    refine (Effects.single (.offer (.inl hcheck))).trans ?_
    split
    · have hdownload : Effects turn _ (runDownload _ turn).2 := runDownload_effects
        (c.offer turn.executor.display current latest release downloadUrl downloadSize)
      split
      · next e c' heq =>
        rw [heq] at hdownload
        exact hdownload.trans (emitError_effects c' _)
      · next c' heq =>
        rw [heq] at hdownload
        exact hdownload.trans (installOrReport_effects c' _)
    · exact .refl
  · exact .single (.publish .idle _ (.inr rfl))
  · exact .single (.publish .error _ (.inr rfl))

/-- What an approval can do. -/
theorem handleApprove_effects (c : Coordinator σ) (autoInstall : Bool) :
    Effects turn c (c.handleApprove turn autoInstall) := by
  unfold handleApprove
  split
  · have hdownload : Effects turn c (c.runDownload turn).2 := runDownload_effects c
    split
    · next e c' heq =>
      rw [heq] at hdownload
      exact hdownload.trans (emitError_effects c' _)
    · next c' heq =>
      rw [heq] at hdownload
      refine hdownload.trans ?_
      split
      · exact installOrReport_effects c' _
      · exact .refl
  · exact installOrReport_effects c _
  · exact .refl

theorem handleDefer_effects (c : Coordinator σ) : Effects turn c c.handleDefer := by
  have hdefer : Effects turn c
      ({ c with downloadedPath := none }.publish .deferred "Update was deferred" none) :=
    .head .forget (.single (.publish .deferred _ (.inr rfl)))
  unfold handleDefer
  split
  · exact hdefer
  · exact hdefer
  · exact .refl

theorem handleRecheck_effects (c : Coordinator σ) (autoInstall : Bool) :
    Effects turn c (c.handleRecheck turn autoInstall) := by
  unfold handleRecheck
  split
  · exact runCheck_effects c autoInstall
  · exact runCheck_effects c autoInstall
  · exact runCheck_effects c autoInstall
  · exact .refl

/-- **A round of the loop is a sequence of effects.** -/
theorem step_effects (autoInstall : Bool) (c : Coordinator σ) (turn : Turn Version σ)
    (event : CoordinatorEvent) : Effects turn c (c.step autoInstall (turn, event)) := by
  have hbefore : Effects turn c (c.land turn turn.landed.before) :=
    land_effects c (fun _ h => .inl h)
  refine hbefore.trans ?_
  cases event with
  | checkNow => exact runCheck_effects _ autoInstall
  | approve => exact handleApprove_effects _ autoInstall
  | defer => exact handleDefer_effects _
  | recheckTimer => exact handleRecheck_effects _ autoInstall

theorem start_effects (autoInstall : Bool) (c : Coordinator σ) (turn : Turn Version σ) :
    Effects turn c (c.start autoInstall turn) := by
  have hbefore : Effects turn c (c.land turn turn.landed.before) :=
    land_effects c (fun _ h => .inl h)
  refine hbefore.trans ?_
  unfold start
  simp only
  split
  · exact runCheck_effects _ autoInstall
  · exact .refl

/-- **The invariant rule**: what every effect of every turn preserves holds after every run. -/
theorem run_invariant {P : Coordinator σ → Prop} {config : UpdateConfig} {autoInstall : Bool}
    {c : Coordinator σ} {first : Turn Version σ}
    {events : List (Turn Version σ × CoordinatorEvent)} (hinit : P c)
    (hturns : ∀ turn ∈ first :: events.map Prod.fst, ∀ c c', Effect turn c c' → P c → P c') :
    P (c.runUpdateCoordinator config autoInstall first events) := by
  have heffects {turn : Turn Version σ} (hturn : ∀ c c', Effect turn c c' → P c → P c')
      {c c' : Coordinator σ} (h : Effects turn c c') (hc : P c) : P c' := by
    induction h with
    | refl => exact hc
    | tail _ heffect ih => exact hturn _ _ heffect ih
  have hfirst := hturns first List.mem_cons_self
  have hevents := fun turn h => hturns turn (List.mem_cons_of_mem first h)
  unfold runUpdateCoordinator
  split
  · exact hfirst _ _ (.publish .idle _ (.inr rfl)) hinit
  · unfold runUpdateCoordinatorWithExecutor
    have hstart := heffects hfirst (start_effects autoInstall c first) hinit
    generalize c.start autoInstall first = c at hstart
    clear hfirst hturns
    induction events generalizing c with
    | nil => exact hstart
    | cons event events ih =>
      obtain ⟨turn, event⟩ := event
      have hturn := hevents turn List.mem_cons_self
      have hstep := heffects hturn (step_effects autoInstall c turn event) hstart
      exact ih (fun turn h => hevents turn (List.mem_cons_of_mem _ h)) _ hstep

/-! ## Where an installed file comes from -/

/-- The bytes were downloaded from a URL that a check offered. -/
def FromOffer (Offered : String → Prop) (file : TempFile) : Prop :=
  ∃ url, Offered url ∧ file.origin = .downloaded url

/-- The coordinator carries nothing but what checks offered. -/
structure Carries (Offered : String → Prop) (c : Coordinator σ) : Prop where
  pending : ∀ pending, c.status.pending = some pending → Offered pending.downloadUrl
  downloaded : ∀ file, c.downloadedPath = some file → FromOffer Offered file
  installed : ∀ file ∈ c.installed, FromOffer Offered file

/-- A turn whose checks offer only such URLs, and whose downloads fetch what they are asked for. -/
structure OffersOnly (Offered : String → Prop) (turn : Turn Version σ) : Prop where
  offers : ∀ current latest release downloadUrl downloadSize assetType,
    turn.Answers (.available current latest release downloadUrl downloadSize assetType) →
    Offered downloadUrl
  fetches : ∀ url file, turn.executor.downloadUpdateWithProgress url = .ok file →
    file.origin = .downloaded url

theorem carries_initial (Offered : String → Prop) (device : σ) :
    Carries Offered (initial device) where
  pending := nofun
  downloaded := nofun
  installed := nofun

/-- One effect: an offer, a download or an install moves a URL on, and nothing else does. -/
theorem Effect.carries {Offered : String → Prop} (hturn : OffersOnly Offered turn)
    {c c' : Coordinator σ} (h : Effect turn c c') (hc : Carries Offered c) :
    Carries Offered c' := by
  cases h with
  | publish phase message hpending =>
    refine ⟨fun pending h => ?_, hc.downloaded, hc.installed⟩
    rcases hpending with rfl | rfl
    · exact hc.pending pending h
    · nomatch h
  | offer hanswer =>
    refine ⟨fun pending h => ?_, hc.downloaded, hc.installed⟩
    injection h with h
    subst h
    exact hturn.offers _ _ _ _ _ _ hanswer
  | forget => exact ⟨hc.pending, nofun, hc.installed⟩
  | @download pending path hpending hpath =>
    refine ⟨hc.pending, fun file h => ?_, hc.installed⟩
    injection h with h
    subst h
    exact ⟨_, hc.pending pending hpending, hturn.fetches _ _ hpath⟩
  | install hpath =>
    refine ⟨hc.pending, nofun, fun file h => ?_⟩
    rcases List.mem_append.mp h with hold | hnew
    · exact hc.installed file hold
    · exact List.mem_singleton.mp hnew ▸ hc.downloaded _ hpath

/-- **Every file handed to the installer is the download of an offer**, in every run. -/
theorem carries_run {Offered : String → Prop} {config : UpdateConfig} {autoInstall : Bool}
    {device : σ} {first : Turn Version σ} {events : List (Turn Version σ × CoordinatorEvent)}
    (h : ∀ turn ∈ first :: events.map Prod.fst, OffersOnly Offered turn) :
    Carries Offered ((initial device).runUpdateCoordinator config autoInstall first events) :=
  run_invariant (carries_initial Offered device)
    (fun turn hturn _ _ heffect => heffect.carries (h turn hturn))

end Coordinator

end Oneshim
