/-
  Is a consent revocation propagated?

  A run interleaves grants, revocations, process restarts and sync cycles over any transport.  A
  revocation is OWED from the moment `revoke_consent` returns until a deletion event has been pushed
  successfully, and every cycle that starts while one is owed should push the deletion event and no
  data (`Honours`).

  The engine does not do that in every run.  Three things come in between:

  * the consent gate stands BEFORE the deletion branch, so nothing is pushed while consent is away;
  * `deletion_pushed` is never reset, so an engine pushes one deletion event in its lifetime;
  * the pending flag is not written to disk, so a restart forgets it.

  `Allowed` excludes exactly the steps that run into one of them.
-/
import Mathlib.Logic.Relation
import Oneshim.Engine.SyncEngine

namespace Oneshim

variable {σ : Type}

/-! ## Runs -/

/-- The world, and whether a revocation is waiting for its deletion event. -/
structure History (σ : Type) where
  world : World σ
  owed : Bool

/-- What can happen to a device. -/
inductive ConsentAction where
  | grant (consentId : String) (now : Nat) (permissions : ConsentPermissions)
      (dataRetentionDays : Nat) (ioError : Option CoreError)
  | revoke (now : Nat) (ioError : Option CoreError)
  | restart
  | cycle (fuel now : Nat)

/-- Was a deletion event pushed successfully? -/
def SyncEvent.deletionSucceeded : SyncEvent → Bool
  | .pushed changes true => changes.kind == .deletionEvent
  | _ => false

/-- A revocation that returned. -/
def revoked (result : Except CoreError Unit) : Bool :=
  match result with
  | .ok () => true
  | .error _ => false

/-- The world with its consent manager replaced. -/
def World.withManager (w : World σ) (cm : Option ConsentManager) : World σ :=
  { w with consentManager := cm }

/-- The process restarts: a new engine and a new manager, over what is on disk. -/
def restarted (engine : SyncEngine σ) (w : World σ) : World σ :=
  engine.new w.db (w.consentManager.map (fun cm => ConsentManager.new cm.file)) w.net

/-- One step, with the events of a cycle. -/
def act (engine : SyncEngine σ) (h : History σ) :
    ConsentAction → Option (History σ × List SyncEvent)
  | .grant consentId now permissions days ioError =>
    let cm := h.world.consentManager.map
      (fun cm => (cm.grantConsent consentId now permissions days ioError).2)
    some (⟨h.world.withManager cm, h.owed⟩, [])
  | .revoke now ioError =>
    match h.world.consentManager with
    | none => some (h, [])
    | some cm =>
      let (result, cm') := cm.revokeConsent now ioError
      some (⟨h.world.withManager (some cm'), h.owed || revoked result⟩, [])
  | .restart => some (⟨restarted engine h.world, h.owed⟩, [])
  | .cycle fuel now =>
    match engine.runCycle fuel now h.world with
    | none => none
    | some (_, world, events) =>
      some (⟨world, h.owed && !events.any SyncEvent.deletionSucceeded⟩, events)

/-- A cycle that starts with a revocation owed pushes no data and attempts the deletion event of
    this device. -/
structure Honours (deviceId : String) (owed : Bool) (events : List SyncEvent) : Prop where
  noData : owed = true → ∀ changes succeeded, SyncEvent.pushed changes succeeded ∈ events →
    changes.kind ≠ .data
  attempts : owed = true → ∃ changes succeeded, SyncEvent.pushed changes succeeded ∈ events ∧
    changes.kind = .deletionEvent ∧ changes.originDeviceId = deviceId

/-- The steps that do not run into a defect: a cycle with a revocation owed needs consent, a
    restart needs that none is owed, and a revocation that takes effect needs an engine that has
    not yet pushed a deletion event. -/
def Allowed (h : History σ) : ConsentAction → Prop
  | .grant _ _ _ _ _ => True
  | .revoke now ioError => ∀ cm, h.world.consentManager = some cm →
      revoked (cm.revokeConsent now ioError).1 = true → h.world.deletionPushed = false
  | .restart => h.owed = false
  | .cycle _ _ => h.owed = true → SyncEngine.syncPermitted h.world = true

/-- One allowed step. -/
def AllowedStep (engine : SyncEngine σ) (h h' : History σ) : Prop :=
  ∃ a events, Allowed h a ∧ act engine h a = some (h', events)

/-! ## The invariant -/

/-- While a revocation is owed, the manager says so and the engine still listens. -/
def Pending (h : History σ) : Prop :=
  h.owed = true → h.world.deletionPushed = false ∧
    ∃ cm, h.world.consentManager = some cm ∧ cm.pendingDeletion = true

/-- A pending, permitted deletion is what the cycle does, and all it does. -/
theorem cycle_of_owed {engine : SyncEngine σ} {h h' : History σ} {fuel now : Nat}
    {events : List SyncEvent} (hpend : Pending h) (howed : h.owed = true)
    (hperm : SyncEngine.syncPermitted h.world = true)
    (hstep : act engine h (.cycle fuel now) = some (h', events)) :
    ∃ succeeded, events = [.pushed (engine.deletionChangeSet now) succeeded] ∧
      h'.owed = !succeeded ∧ h'.world.consentManager = h.world.consentManager ∧
      h'.world.deletionPushed = succeeded := by
  obtain ⟨hnot, cm, hcm, hflag⟩ := hpend howed
  have hdue : SyncEngine.deletionDue h.world = true := by
    rw [SyncEngine.deletionDue, hnot, hcm, Option.map_some, Option.getD_some,
      ConsentManager.hasPendingDeletion_of_flag hflag]
    rfl
  simp only [act] at hstep
  split at hstep
  case h_1 => nomatch hstep
  case h_2 r world ev hrun =>
    cases hstep
    rcases engine.runCycle_cases hrun with ⟨hgate, -⟩ | ⟨-, -, w₁, hpush, hsame⟩ | ⟨-, hno, -⟩
    · rw [hperm] at hgate
      nomatch hgate
    · rcases engine.pushDeletionEvent_cases hpush with ⟨_, _, -, rfl, rfl, rfl⟩ | ⟨_, -, rfl, rfl, rfl⟩
      · refine ⟨false, rfl, ?_, hsame.consentManager, hsame.deletionPushed.trans hnot⟩
        show (h.owed && true) = true
        rw [howed]
        rfl
      · exact ⟨true, rfl, Bool.and_false _, hsame.consentManager, hsame.deletionPushed⟩
    · rw [hdue] at hno
      nomatch hno

/-- **The step lemma**: allowed steps keep the pending revocation pending. -/
theorem pending_step {engine : SyncEngine σ} {h h' : History σ} {a : ConsentAction}
    {events : List SyncEvent} (hpend : Pending h) (hallowed : Allowed h a)
    (hstep : act engine h a = some (h', events)) : Pending h' := by
  cases a with
  | grant consentId now permissions days ioError =>
    cases hstep
    intro howed
    obtain ⟨hnot, cm, hcm, hflag⟩ := hpend howed
    refine ⟨hnot, (cm.grantConsent consentId now permissions days ioError).2, ?_, ?_⟩
    · show h.world.consentManager.map _ = _
      rw [hcm]
      rfl
    · rw [ConsentManager.grantConsent_pendingDeletion]
      exact hflag
  | revoke now ioError =>
    simp only [act] at hstep
    split at hstep
    case h_1 =>
      cases hstep
      exact hpend
    case h_2 cm hcm =>
      cases hstep
      intro howed
      rcases Bool.or_eq_true_iff.mp howed with hbefore | hnow
      · obtain ⟨hnot, cm₀, hcm₀, hflag⟩ := hpend hbefore
        rw [hcm] at hcm₀
        cases hcm₀
        exact ⟨hnot, _, rfl, ConsentManager.pendingDeletion_revokeConsent hflag⟩
      · refine ⟨hallowed cm hcm hnow, _, rfl, ConsentManager.revokeConsent_ok ?_⟩
        cases hres : (cm.revokeConsent now ioError).1 with
        | ok _ => rfl
        | error e =>
          rw [hres] at hnow
          nomatch hnow
  | restart =>
    cases hstep
    intro howed
    have hnone : h.owed = false := hallowed
    rw [show h.owed = true from howed] at hnone
    nomatch hnone
  | cycle fuel now =>
    intro howed
    have hbefore : h.owed = true := by
      simp only [act] at hstep
      split at hstep
      case h_1 => nomatch hstep
      case h_2 r world ev _ =>
        cases hstep
        exact (Bool.and_eq_true_iff.mp howed).1
    obtain ⟨succeeded, -, hafter, hcm', hpushed⟩ :=
      cycle_of_owed hpend hbefore (hallowed hbefore) hstep
    obtain ⟨-, cm, hcm, hflag⟩ := hpend hbefore
    have hfailed : succeeded = false := by
      rw [hafter] at howed
      simpa using howed
    exact ⟨hpushed.trans hfailed, cm, hcm'.trans hcm, hflag⟩

/-- **The run lemma**. -/
theorem pending_of_run {engine : SyncEngine σ} {h₀ h : History σ} (h0 : h₀.owed = false)
    (hrun : Relation.ReflTransGen (AllowedStep engine) h₀ h) : Pending h := by
  induction hrun with
  | refl =>
    intro howed
    rw [h0] at howed
    nomatch howed
  | tail _ hstep ih =>
    obtain ⟨a, events, hallowed, hact⟩ := hstep
    exact pending_step ih hallowed hact

/-- **A revocation is propagated along every allowed run**: each cycle that starts with one owed
    attempts the deletion event and pushes no data. -/
theorem revocation_propagated {engine : SyncEngine σ} {h₀ h h' : History σ} {fuel now : Nat}
    {events : List SyncEvent} (h0 : h₀.owed = false)
    (hrun : Relation.ReflTransGen (AllowedStep engine) h₀ h)
    (hallowed : Allowed h (.cycle fuel now))
    (hstep : act engine h (.cycle fuel now) = some (h', events)) :
    Honours engine.deviceId h.owed events := by
  have hpend := pending_of_run h0 hrun
  constructor
  · intro howed changes succeeded hin
    obtain ⟨s, rfl, -⟩ := cycle_of_owed hpend howed (hallowed howed) hstep
    obtain ⟨rfl, -⟩ := SyncEvent.pushed.inj (List.mem_singleton.mp hin)
    show ChangeSetKind.deletionEvent ≠ .data
    decide
  · intro howed
    obtain ⟨s, rfl, -⟩ := cycle_of_owed hpend howed (hallowed howed) hstep
    exact ⟨_, s, List.mem_singleton.mpr rfl, rfl, rfl⟩

/-! ## Runs of one device -/

/-- A transport that accepts every push and never has anything to pull. -/
def quietTransport : SyncTransport Unit where
  push := fun _ _ => (.ok (), ())
  pull := fun _ _ => (.ok none, ())

/-- Device `a` over the quiet transport. -/
def quietEngine : SyncEngine Unit where
  jsonReal := some
  extractor := { deviceId := "a", deviceName := "A" }
  mergerDeviceId := "a"
  transport := quietTransport
  deviceId := "a"
  deviceName := "A"

/-- A manager that has granted cross-device sync. -/
def grantedManager : ConsentManager :=
  ((ConsentManager.new none).grantConsent "c-1" 0 { crossDeviceSync := true } 30 none).2

/-- Device `a` right after its start, with consent. -/
def consentedHistory : History Unit :=
  { world := quietEngine.new (Database.empty true) (some grantedManager) (), owed := false }

/-- After the revocation. -/
def revokedHistory : History Unit :=
  ⟨consentedHistory.world.withManager (some (grantedManager.revokeConsent 1 none).2), true⟩

/-- Revoked and granted again. -/
def regrantedManager : ConsentManager :=
  ((grantedManager.revokeConsent 1 none).2.grantConsent "c-2" 2 { crossDeviceSync := true } 30
    none).2

/-- After the new grant. -/
def regrantedHistory : History Unit :=
  ⟨consentedHistory.world.withManager (some regrantedManager), true⟩

/-- Revoke, grant again, cycle: the deletion event goes out. -/
theorem revocation_propagated_regranted :
    Honours "a" true [.pushed (quietEngine.deletionChangeSet 3) true] := by
  have hrevoke : AllowedStep quietEngine consentedHistory revokedHistory :=
    ⟨.revoke 1 none, [], fun _ _ _ => rfl, rfl⟩
  have hgrant : AllowedStep quietEngine revokedHistory regrantedHistory :=
    ⟨.grant "c-2" 2 { crossDeviceSync := true } 30 none, [], trivial, rfl⟩
  have hrun : Relation.ReflTransGen (AllowedStep quietEngine) consentedHistory regrantedHistory :=
    (Relation.ReflTransGen.single hrevoke).tail hgrant
  have hstart : consentedHistory.owed = false := rfl
  exact revocation_propagated hstart hrun (fun _ => rfl)
    (show act quietEngine regrantedHistory (.cycle 1 3) = some (_, _) from rfl)

/-- Revoked, and consent not granted: the cycle attempts nothing. -/
theorem revocation_not_propagated :
    ¬ ∀ (engine : SyncEngine Unit) (h₀ h h' : History Unit) (fuel now : Nat)
      (events : List SyncEvent), h₀.owed = false →
      Relation.ReflTransGen (fun x y => ∃ a ev, act engine x a = some (y, ev)) h₀ h →
      act engine h (.cycle fuel now) = some (h', events) →
      Honours engine.deviceId h.owed events := by
  intro hall
  have hrevoke : ∃ a ev, act quietEngine consentedHistory a = some (revokedHistory, ev) :=
    ⟨.revoke 1 none, [], rfl⟩
  obtain ⟨_, _, hin, -⟩ := (hall quietEngine consentedHistory revokedHistory _ 1 2 [] rfl
    (Relation.ReflTransGen.single hrevoke) rfl).attempts rfl
  nomatch hin

end Oneshim
