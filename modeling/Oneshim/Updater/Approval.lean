/-
  Two approvals for an install (`src-tauri/src/update_coordinator.rs`).

  With `auto_install` off the coordinator downloads after one approval and installs after another.
  The status and `downloaded_path` are separate variables: a check replaces the pending release and
  leaves the path of an older download where it is.

  1. **Rounds** — `Did` says once what a round of the loop can do when the coordinator is the only
     writer (`step_did`): nothing, a check that finds a release or none, a download, an install, or a
     stop.

  2. **The invariant** — `Waiting` links the phase to the events: `PendingApproval` comes from a check
     with only idle timer ticks since, and `ReadyToInstall` from such a check, one approval whose
     download succeeded, and idle timer ticks (`waiting_run`).

  3. **The result** — whenever a round installs, it is the second approval
     (`install_needs_two_approvals`).
-/
import Oneshim.Updater.Executor

namespace Oneshim

variable {Version σ : Type}

/-- A round in which nobody but the coordinator writes the status. -/
def Turn.alone (executor : UpdateExecutor Version σ) : Turn Version σ := ⟨executor, Landings.none⟩

/-- The check finds the release. -/
def UpdateExecutor.Offers (executor : UpdateExecutor Version σ) (pending : PendingUpdateInfo) :
    Prop :=
  ∃ current latest release downloadUrl downloadSize assetType,
    executor.checkForUpdates =
      .ok (.available current latest release downloadUrl downloadSize assetType) ∧
    pending =
      pendingUpdateInfo executor.display current latest release downloadUrl downloadSize

/-- The phases in which the user is asked. -/
def UpdatePhase.asks : UpdatePhase → Bool
  | .pendingApproval | .readyToInstall => true
  | _ => false

/-- While the user is asked, there is a release. -/
def UpdateStatus.Named (status : UpdateStatus) : Prop :=
  status.phase.asks = true → status.pending.isSome = true

/-- The events that can start a check. -/
def CoordinatorEvent.mayCheck : CoordinatorEvent → Bool
  | .checkNow | .recheckTimer => true
  | _ => false

namespace Coordinator

/-- The coordinator with `auto_install` off, and nobody else writing the status. -/
def runAlone (device : σ) (first : UpdateExecutor Version σ)
    (events : List (UpdateExecutor Version σ × CoordinatorEvent)) : Coordinator σ :=
  (initial device).runUpdateCoordinatorWithExecutor false (Turn.alone first)
    (events.map fun event => (Turn.alone event.1, event.2))

/-- One round of it. -/
def stepAlone (c : Coordinator σ) (event : UpdateExecutor Version σ × CoordinatorEvent) :
    Coordinator σ :=
  c.step false (Turn.alone event.1, event.2)

theorem runAlone_concat (device : σ) (first : UpdateExecutor Version σ)
    (events : List (UpdateExecutor Version σ × CoordinatorEvent))
    (event : UpdateExecutor Version σ × CoordinatorEvent) :
    runAlone device first (events ++ [event]) = (runAlone device first events).stepAlone event := by
  unfold runAlone runUpdateCoordinatorWithExecutor stepAlone
  rw [List.map_append, List.foldl_append]
  rfl

/-! ## What a round does -/

/-- Everything written on the way, except the last status, is in a phase in which the user is not
    asked. -/
def Shows (c c' : Coordinator σ) : Prop :=
  ∀ status ∈ c'.published, status ∈ c.published ∨ status.phase.asks = false ∨ status = c'.status

theorem Shows.refl (c : Coordinator σ) : Shows c c := fun _ h => .inl h

theorem shows_publish (c : Coordinator σ) (phase : UpdatePhase) (message : String)
    (pending : Option PendingUpdateInfo) : Shows c (c.publish phase message pending) := by
  intro status hmem
  rcases List.mem_append.mp hmem with hold | hnew
  · exact .inl hold
  · exact .inr (.inr (List.mem_singleton.mp hnew))

theorem Shows.publish {c c' : Coordinator σ} (h : Shows c c')
    (hquiet : c'.status.phase.asks = false) (phase : UpdatePhase) (message : String)
    (pending : Option PendingUpdateInfo) : Shows c (c'.publish phase message pending) := by
  intro status hmem
  rcases shows_publish c' phase message pending status hmem with hold | hrest
  · rcases h status hold with hold | hasks | rfl
    · exact .inl hold
    · exact .inr (.inl hasks)
    · exact .inr (.inl hquiet)
  · exact .inr hrest

/-- What a round of the loop can do. -/
inductive Did (executor : UpdateExecutor Version σ) (event : CoordinatorEvent) (c : Coordinator σ) :
    Coordinator σ → Prop where
  /-- Nothing; while the user is asked, only a timer tick comes to nothing. -/
  | nothing (h : c.status.phase.asks = true → event = .recheckTimer) : Did executor event c c
  /-- A check found the release. -/
  | found {c' : Coordinator σ} {pending : PendingUpdateInfo} (hevent : event.mayCheck = true)
      (hcheck : c' = c.runCheck (Turn.alone executor) false) (hoffers : executor.Offers pending)
      (hphase : c'.status.phase = .pendingApproval) (hpending : c'.status.pending = some pending)
      (hinstalled : c'.installed = c.installed) (hshows : Shows c c') : Did executor event c c'
  /-- The pending release was downloaded. -/
  | downloaded {c' : Coordinator σ} {pending : PendingUpdateInfo} {path : TempFile}
      (hevent : event = .approve) (hasked : c.status.phase = .pendingApproval)
      (hpending : c.status.pending = some pending)
      (hpath : executor.downloadUpdateWithProgress pending.downloadUrl = .ok path)
      (hphase : c'.status.phase = .readyToInstall) (hpending' : c'.status.pending = some pending)
      (hpath' : c'.downloadedPath = some path) (hinstalled : c'.installed = c.installed)
      (hshows : Shows c c') : Did executor event c c'
  /-- The downloaded file was handed to the installer. -/
  | installed {c' : Coordinator σ} {path : TempFile} (hevent : event = .approve)
      (hasked : c.status.phase = .readyToInstall) (hpath : c.downloadedPath = some path)
      (hphase : c'.status.phase.asks = false) (hinstalled : c'.installed = c.installed ++ [path])
      (hshows : Shows c c') : Did executor event c c'
  /-- Anything else ends in a phase in which the user is not asked. -/
  | stopped {c' : Coordinator σ} (hphase : c'.status.phase.asks = false)
      (hinstalled : c'.installed = c.installed) (hshows : Shows c c') : Did executor event c c'

/-- Every check first says that it is checking. -/
theorem shows_after_checking (c : Coordinator σ) (phase : UpdatePhase) (message : String)
    (pending : Option PendingUpdateInfo) :
    Shows c ((c.publish .checking "Checking for new version" none).publish phase message pending) :=
  (shows_publish c .checking _ none).publish rfl phase message pending

/-- What a check does on its own. -/
theorem runCheck_did (executor : UpdateExecutor Version σ) {event : CoordinatorEvent}
    (hevent : event.mayCheck = true) (c : Coordinator σ) :
    Did executor event c (c.runCheck (Turn.alone executor) false) := by
  generalize hc' : c.runCheck (Turn.alone executor) false = c'
  have hrun := hc'.symm
  unfold runCheck at hc'
  simp only at hc'
  split at hc'
  · subst hc'
    exact .stopped rfl rfl (shows_after_checking c _ _ _)
  · next current latest release downloadUrl downloadSize assetType hcheck =>
    subst hc'
    exact .found hevent hrun
      ⟨current, latest, release, downloadUrl, downloadSize, assetType, hcheck, rfl⟩
      rfl rfl rfl (shows_after_checking c _ _ _)
  · subst hc'
    exact .stopped rfl rfl (shows_after_checking c _ _ _)
  · subst hc'
    exact .stopped rfl rfl (shows_after_checking c _ _ _)

variable {c : Coordinator σ}

/-- The approval of a download. -/
theorem approve_pending_did (executor : UpdateExecutor Version σ)
    (hasked : c.status.phase = .pendingApproval) :
    Did executor .approve c (c.handleApprove (Turn.alone executor) false) := by
  unfold handleApprove runDownload
  rw [hasked]
  simp only [Turn.alone, Landings.none, land]
  cases hpending : c.status.pending with
  | none => exact .stopped rfl rfl (shows_publish c _ _ _)
  | some pending =>
    have hstart := shows_publish c .downloading ("Downloading version " ++ pending.latestVersion)
      (some pending)
    cases hpath : executor.downloadUpdateWithProgress pending.downloadUrl with
    | ok path =>
      simp only [hpath]
      exact .downloaded rfl hasked hpending hpath rfl rfl rfl rfl (hstart.publish rfl _ _ _)
    | error e =>
      simp only [hpath]
      exact .stopped rfl rfl (hstart.publish rfl _ _ _)

/-- An install hands over the file, and the user is not asked after it. -/
theorem runInstall_alone (executor : UpdateExecutor Version σ) {path : TempFile}
    (hpath : c.downloadedPath = some path) :
    (c.runInstall (Turn.alone executor)).2.installed = c.installed ++ [path] ∧
      (c.runInstall (Turn.alone executor)).2.status.phase.asks = false ∧
      Shows c (c.runInstall (Turn.alone executor)).2 := by
  unfold runInstall
  rw [hpath]
  simp only
  have hstart := shows_publish c .installing
    ("Installing version " ++ (c.status.pending.map (·.latestVersion)).getD "unknown")
    c.status.pending
  split
  · exact ⟨rfl, rfl, hstart.publish rfl _ _ _⟩
  · exact ⟨rfl, rfl, hstart.publish rfl _ _ _⟩

/-- The approval of an installation. -/
theorem approve_ready_did (executor : UpdateExecutor Version σ)
    (hasked : c.status.phase = .readyToInstall) :
    Did executor .approve c (c.handleApprove (Turn.alone executor) false) := by
  unfold handleApprove
  rw [hasked]
  simp only
  unfold installOrReport
  cases hpath : c.downloadedPath with
  | none =>
    unfold runInstall
    rw [hpath]
    exact .stopped rfl rfl (shows_publish c _ _ _)
  | some path =>
    obtain ⟨hinstalled, hphase, hshows⟩ := runInstall_alone executor hpath
    split
    · next heq =>
      rw [heq] at hinstalled hphase hshows
      exact .installed rfl hasked hpath rfl hinstalled (hshows.publish hphase _ _ _)
    · next heq =>
      rw [heq] at hinstalled hphase hshows
      exact .installed rfl hasked hpath hphase hinstalled hshows

/-- **What a round does.** -/
theorem step_did (executor : UpdateExecutor Version σ) (event : CoordinatorEvent)
    (c : Coordinator σ) : Did executor event c (c.stepAlone (executor, event)) := by
  cases event with
  | checkNow => exact runCheck_did executor rfl c
  | approve =>
    show Did executor .approve c (c.handleApprove (Turn.alone executor) false)
    cases hphase : c.status.phase with
    | pendingApproval => exact approve_pending_did executor hphase
    | readyToInstall => exact approve_ready_did executor hphase
    | _ =>
      unfold handleApprove
      rw [hphase]
      exact .nothing (fun hasks => by rw [hphase] at hasks; nomatch hasks)
  | defer =>
    show Did executor .defer c c.handleDefer
    unfold handleDefer
    cases hphase : c.status.phase with
    | pendingApproval => exact .stopped rfl rfl (shows_publish _ _ _ _)
    | readyToInstall => exact .stopped rfl rfl (shows_publish _ _ _ _)
    | _ => exact .nothing (fun hasks => by rw [hphase] at hasks; nomatch hasks)
  | recheckTimer =>
    show Did executor .recheckTimer c (c.handleRecheck (Turn.alone executor) false)
    unfold handleRecheck
    split
    · exact runCheck_did executor rfl c
    · exact runCheck_did executor rfl c
    · exact runCheck_did executor rfl c
    · exact .nothing (fun _ => rfl)

/-- The start is a check or nothing. -/
theorem start_did (device : σ) (first : UpdateExecutor Version σ) :
    runAlone device first [] = initial device ∨
      first.shouldCheckForUpdates = true ∧
        Did first .checkNow (initial device) (runAlone device first []) := by
  have hdid : Did first .checkNow (initial device)
      ((initial device).runCheck (Turn.alone first) false) :=
    runCheck_did first rfl (initial device)
  show (initial device).start false (Turn.alone first) = _ ∨
    _ ∧ Did first .checkNow (initial device) ((initial device).start false (Turn.alone first))
  unfold start
  simp only
  split
  · next hcheck => exact .inr ⟨hcheck, hdid⟩
  · exact .inl rfl

/-! ## The invariant -/

section History

variable (device : σ) (first : UpdateExecutor Version σ)

/-- The run ended with the check that found the release. -/
def FoundBy (events : List (UpdateExecutor Version σ × CoordinatorEvent))
    (pending : PendingUpdateInfo) : Prop :=
  (events = [] ∧ first.shouldCheckForUpdates = true ∧ first.Offers pending) ∨
    ∃ earlier executor event, events = earlier ++ [(executor, event)] ∧ event.mayCheck = true ∧
      executor.Offers pending ∧
      runAlone device first events =
        (runAlone device first earlier).runCheck (Turn.alone executor) false

/-- After `before` only timer ticks came, and they did nothing (a check would have published). -/
def Idled (before ticks : List (UpdateExecutor Version σ × CoordinatorEvent)) : Prop :=
  (∀ event ∈ ticks, event.2 = .recheckTimer) ∧
    runAlone device first (before ++ ticks) = runAlone device first before

/-- The last thing that happened was the check that found the release. -/
def AskedToDownload (events : List (UpdateExecutor Version σ × CoordinatorEvent))
    (pending : PendingUpdateInfo) : Prop :=
  ∃ checked ticks, events = checked ++ ticks ∧ FoundBy device first checked pending ∧
    Idled device first checked ticks

/-- The last thing that happened after that was an approval, and the release was downloaded. -/
def AskedToInstall (events : List (UpdateExecutor Version σ × CoordinatorEvent))
    (pending : PendingUpdateInfo) (path : TempFile) : Prop :=
  ∃ asked downloader ticks, events = asked ++ [(downloader, .approve)] ++ ticks ∧
    AskedToDownload device first asked pending ∧
    downloader.downloadUpdateWithProgress pending.downloadUrl = .ok path ∧
    Idled device first (asked ++ [(downloader, .approve)]) ticks

/-- The phases in which the user is asked, and how the run came there. -/
structure Waiting (events : List (UpdateExecutor Version σ × CoordinatorEvent))
    (c : Coordinator σ) : Prop where
  toDownload : c.status.phase = .pendingApproval →
    ∃ pending, c.status.pending = some pending ∧ AskedToDownload device first events pending
  toInstall : c.status.phase = .readyToInstall →
    ∃ pending path, c.status.pending = some pending ∧ c.downloadedPath = some path ∧
      AskedToInstall device first events pending path

variable {device first}

variable {events : List (UpdateExecutor Version σ × CoordinatorEvent)}

theorem Waiting.of_not_asks (h : c.status.phase.asks = false) : Waiting device first events c where
  toDownload hphase := by
    rw [hphase] at h
    nomatch h
  toInstall hphase := by
    rw [hphase] at h
    nomatch h

theorem Idled.nil (before : List (UpdateExecutor Version σ × CoordinatorEvent)) :
    Idled device first before [] :=
  ⟨fun _ h => absurd h List.not_mem_nil, by rw [List.append_nil]⟩

variable {executor : UpdateExecutor Version σ}

theorem Idled.concat {before ticks : List (UpdateExecutor Version σ × CoordinatorEvent)}
    (h : Idled device first before ticks)
    (hstep : (runAlone device first (before ++ ticks)).stepAlone (executor, .recheckTimer) =
      runAlone device first (before ++ ticks)) :
    Idled device first before (ticks ++ [(executor, .recheckTimer)]) := by
  refine ⟨fun event hmem => ?_, ?_⟩
  · rcases List.mem_append.mp hmem with hold | hnew
    · exact h.1 event hold
    · rw [List.mem_singleton.mp hnew]
  · rw [← List.append_assoc, runAlone_concat, hstep, h.2]

/-- A tick that does nothing is one more tick. -/
theorem Waiting.tick (h : Waiting device first events (runAlone device first events))
    (hstep : (runAlone device first events).stepAlone (executor, .recheckTimer) =
      runAlone device first events) :
    Waiting device first (events ++ [(executor, .recheckTimer)]) (runAlone device first events) where
  toDownload hphase := by
    obtain ⟨pending, hpending, checked, ticks, rfl, hfound, hidled⟩ := h.toDownload hphase
    exact ⟨pending, hpending, checked, _, List.append_assoc .., hfound, hidled.concat hstep⟩
  toInstall hphase := by
    obtain ⟨pending, path, hpending, hpath, asked, downloader, ticks, rfl, hasked, hdownload,
      hidled⟩ := h.toInstall hphase
    exact ⟨pending, path, hpending, hpath, asked, downloader, _, List.append_assoc .., hasked,
      hdownload, hidled.concat hstep⟩

/-- A start waits for its first approval. -/
theorem waiting_start : Waiting device first [] (runAlone device first []) := by
  rcases start_did device first with hstart | ⟨hcheck, hdid⟩
  · rw [hstart]
    exact .of_not_asks rfl
  · generalize runAlone device first [] = c at hdid
    cases hdid with
    | nothing => exact .of_not_asks rfl
    | found _ _ hoffers hphase hpending =>
      refine ⟨fun _ => ⟨_, hpending, [], [], rfl, .inl ⟨rfl, hcheck, hoffers⟩, .nil []⟩,
        fun hready => ?_⟩
      nomatch hphase.symm.trans hready
    | downloaded hevent => nomatch hevent
    | installed hevent => nomatch hevent
    | stopped hphase => exact .of_not_asks hphase

/-- One round: what asked the user before it is taken up or dropped. -/
theorem waiting_step (h : Waiting device first events (runAlone device first events))
    (event : UpdateExecutor Version σ × CoordinatorEvent) :
    Waiting device first (events ++ [event]) (runAlone device first (events ++ [event])) := by
  obtain ⟨executor, event⟩ := event
  have hrun := runAlone_concat device first events (executor, event)
  have hdid := step_did executor event (runAlone device first events)
  rw [← hrun] at hdid
  generalize hc' : runAlone device first (events ++ [(executor, event)]) = c' at hdid hrun
  cases hdid with
  | nothing hquiet =>
    cases hasks : (runAlone device first events).status.phase.asks with
    | false => exact .of_not_asks hasks
    | true =>
      cases hquiet hasks
      exact h.tick hrun.symm
  | @found _ pending hevent hcheck hoffers hphase hpending =>
    have hfound : FoundBy device first (events ++ [(executor, event)]) pending :=
      .inr ⟨events, executor, event, rfl, hevent, hoffers, hc'.trans hcheck⟩
    refine ⟨fun _ => ⟨_, hpending, _, [], (List.append_nil _).symm, hfound, .nil _⟩,
      fun hready => ?_⟩
    nomatch hphase.symm.trans hready
  | downloaded hevent hasked hpending hpath hphase hpending' hpath' =>
    subst hevent
    obtain ⟨asked, hasked', hfound⟩ := h.toDownload hasked
    cases hpending.symm.trans hasked'
    refine ⟨fun hask => ?_, fun _ => ⟨_, _, hpending', hpath', events, executor, [],
      (List.append_nil _).symm, hfound, hpath, .nil _⟩⟩
    nomatch hphase.symm.trans hask
  | installed _ _ _ hphase => exact .of_not_asks hphase
  | stopped hphase => exact .of_not_asks hphase

/-- **The invariant holds after every run.** -/
theorem waiting_run (events : List (UpdateExecutor Version σ × CoordinatorEvent)) :
    Waiting device first events (runAlone device first events) := by
  induction events using List.reverseRecOn with
  | nil => exact waiting_start
  | append_singleton events event ih => exact waiting_step ih event

/-! ## The result -/

theorem Waiting.named (h : Waiting device first events c) : c.status.Named := by
  intro hasks
  cases hphase : c.status.phase with
  | pendingApproval =>
    obtain ⟨pending, hpending, _⟩ := h.toDownload hphase
    rw [hpending]
    rfl
  | readyToInstall =>
    obtain ⟨pending, _, hpending, _⟩ := h.toInstall hphase
    rw [hpending]
    rfl
  | _ =>
    rw [hphase] at hasks
    nomatch hasks

theorem Did.shows {event : CoordinatorEvent} {c c' : Coordinator σ} (h : Did executor event c c') :
    Shows c c' := by
  cases h with
  | nothing => exact .refl c
  | found _ _ _ _ _ _ hshows => exact hshows
  | downloaded _ _ _ _ _ _ _ _ hshows => exact hshows
  | installed _ _ _ _ _ hshows => exact hshows
  | stopped _ _ hshows => exact hshows

/-- Only an approval of a finished download installs. -/
theorem Did.of_installed {event : CoordinatorEvent} {c c' : Coordinator σ}
    (h : Did executor event c c') (hgrew : c'.installed ≠ c.installed) :
    ∃ path, event = .approve ∧ c.status.phase = .readyToInstall ∧ c.downloadedPath = some path ∧
      c'.installed = c.installed ++ [path] := by
  cases h with
  | nothing => exact absurd rfl hgrew
  | found _ _ _ _ _ hinstalled => exact absurd hinstalled hgrew
  | downloaded _ _ _ _ _ _ _ hinstalled => exact absurd hinstalled hgrew
  | @installed _ path hevent hasked hpath _ hinstalled =>
    exact ⟨path, hevent, hasked, hpath, hinstalled⟩
  | stopped _ hinstalled => exact absurd hinstalled hgrew

theorem start_installed : (runAlone device first []).installed = [] := by
  rcases start_did device first with hstart | ⟨_, hdid⟩
  · rw [hstart]
    rfl
  · by_contra hgrew
    obtain ⟨_, hevent, _⟩ := hdid.of_installed hgrew
    nomatch hevent

/-- Every status that was ever written names a release when it asks the user. -/
theorem named_run (events : List (UpdateExecutor Version σ × CoordinatorEvent)) :
    ∀ status ∈ (runAlone device first events).published, status.Named := by
  induction events using List.reverseRecOn with
  | nil =>
    intro status hmem
    rcases start_did device first with hstart | ⟨_, hdid⟩
    · rw [hstart] at hmem
      exact absurd hmem List.not_mem_nil
    · rcases hdid.shows status hmem with hold | hquiet | rfl
      · exact absurd hold List.not_mem_nil
      · exact fun hasks => absurd hasks (by rw [hquiet]; decide)
      · exact (waiting_run []).named
  | append_singleton events event ih =>
    intro status hmem
    have hdid := step_did event.1 event.2 (runAlone device first events)
    have hnamed := (@waiting_run _ _ device first (events ++ [event])).named
    rw [runAlone_concat] at hmem hnamed
    rcases hdid.shows status hmem with hold | hquiet | rfl
    · exact ih status hold
    · exact fun hasks => absurd hasks (by rw [hquiet]; decide)
    · exact hnamed

end History

end Coordinator

/-- **No install without two approvals of that release.**  Take any run of the coordinator with
    `auto_install` off and any next event, with any outcomes.  Whatever is handed to the installer
    is handed over by an `Approve`, and it is the download of the release that the status then
    names: a check found that release, an earlier `Approve` downloaded it, and besides these only
    timer ticks came, which did nothing.  The start installs nothing, and every status that asks the
    user names a release. -/
theorem install_needs_two_approvals (device : σ) (first : UpdateExecutor Version σ)
    (events : List (UpdateExecutor Version σ × CoordinatorEvent))
    (executor : UpdateExecutor Version σ) (event : CoordinatorEvent) :
    let c := Coordinator.runAlone device first events
    let next := Coordinator.runAlone device first (events ++ [(executor, event)])
    (Coordinator.runAlone device first []).installed = [] ∧
      (next.installed = c.installed ∨
        ∃ pending path, next.installed = c.installed ++ [path] ∧ event = .approve ∧
          c.status.phase = .readyToInstall ∧ c.status.pending = some pending ∧
          Coordinator.AskedToInstall device first events pending path) ∧
      c.status.Named ∧
      ∀ status ∈ c.published, status.Named := by
  intro c next
  have hwaiting := @Coordinator.waiting_run _ _ device first events
  refine ⟨Coordinator.start_installed, ?_, hwaiting.named, Coordinator.named_run events⟩
  have hnext : next = c.stepAlone (executor, event) := Coordinator.runAlone_concat ..
  have hdid := Coordinator.step_did executor event c
  rw [← hnext] at hdid
  by_cases hgrew : next.installed = c.installed
  · exact .inl hgrew
  · obtain ⟨path, hevent, hasked, hpath, hinstalled⟩ := hdid.of_installed hgrew
    obtain ⟨pending, path', hpending, hpath', hasked'⟩ := hwaiting.toInstall hasked
    cases hpath.symm.trans hpath'
    exact .inr ⟨pending, path, hinstalled, hevent, hasked, hpending, hasked'⟩

end Oneshim
