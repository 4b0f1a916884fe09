/-
  The consent manager (`oneshim-core/src/consent.rs`).

  The manager keeps the current record in memory and a copy in a file; a revocation also raises the
  in-memory flag `pending_deletion`.  The file's content is part of the state here, so that a
  process restart is `ConsentManager.new` over the same file — and that is where the flag is lost:
  it is not written, and a record that asks for deletion is not loaded.

  Times are readings of the clock in milliseconds; identifiers are drawn by the caller.
-/
import Oneshim.Core.Sync

namespace Oneshim

/-- `CURRENT_POLICY_VERSION`. -/
def currentPolicyVersion : String := "1.0.0"

/-- `ConsentPermissions`; everything is off by default. -/
structure ConsentPermissions where
  screenCapture : Bool := false
  ocrProcessing : Bool := false
  telemetry : Bool := false
  processMonitoring : Bool := false
  inputActivity : Bool := false
  windowTitleCollection : Bool := false
  appUsageAnalytics : Bool := false
  clipboardMonitoring : Bool := false
  fileAccessMonitoring : Bool := false
  activityPatternLearning : Bool := false
  crossDeviceSync : Bool := false
  fullTextExtraction : Bool := false

/-- `ConsentRecord`. -/
structure ConsentRecord where
  consentId : String
  version : String
  grantedAt : Nat
  expiresAt : Option Nat := none
  revokedAt : Option Nat := none
  dataDeletionRequested : Bool := false
  permissions : ConsentPermissions
  dataRetentionDays : Nat

/-- `ConsentManager`, with the content of its file (`none`: missing, or not a record). -/
structure ConsentManager where
  file : Option ConsentRecord
  currentConsent : Option ConsentRecord
  pendingDeletion : Bool

namespace ConsentManager

/-- `load_from_file`: a revoked record counts as absent. -/
def loadFromFile (file : Option ConsentRecord) : Option ConsentRecord :=
  match file with
  | none => none
  | some record => if record.dataDeletionRequested then none else some record

/-- `new`: the pending flag starts out false. -/
def new (file : Option ConsentRecord) : ConsentManager where
  file := file
  currentConsent := loadFromFile file
  pendingDeletion := false

/-- `grant_consent`; `ioError` is the error of the write, if it fails. -/
def grantConsent (self : ConsentManager) (consentId : String) (now : Nat)
    (permissions : ConsentPermissions) (dataRetentionDays : Nat) (ioError : Option CoreError) :
    Except CoreError Unit × ConsentManager :=
  let record : ConsentRecord :=
    { consentId, version := currentPolicyVersion, grantedAt := now, permissions,
      dataRetentionDays }
  match ioError with
  | some e => (.error e, self)
  | none => (.ok (), { self with file := some record, currentConsent := some record })

/-- The record of a revocation. -/
def ConsentRecord.revoked (record : ConsentRecord) (now : Nat) : ConsentRecord :=
  { record with revokedAt := some now, dataDeletionRequested := true }

/-- `revoke_consent`.  The record is marked BEFORE it is written, so a failed write leaves the
    marked record in memory. -/
def revokeConsent (self : ConsentManager) (now : Nat) (ioError : Option CoreError) :
    Except CoreError Unit × ConsentManager :=
  match self.currentConsent with
  | none => (.ok (), { self with pendingDeletion := true })
  | some record =>
    match ioError with
    | some e => (.error e, { self with currentConsent := some (ConsentRecord.revoked record now) })
    | none =>
      (.ok (), { file := some (ConsentRecord.revoked record now), currentConsent := none,
                 pendingDeletion := true })

/-- `has_pending_deletion`. -/
def hasPendingDeletion (self : ConsentManager) : Bool :=
  self.pendingDeletion ||
    (self.currentConsent.map (fun r => r.dataDeletionRequested)).getD false

/-- `is_permitted`. -/
def isPermitted (self : ConsentManager) (check : ConsentPermissions → Bool) : Bool :=
  (self.currentConsent.map (fun r => check r.permissions)).getD false

/-- A grant leaves the pending flag as it is. -/
@[simp] theorem grantConsent_pendingDeletion (self : ConsentManager) (consentId : String)
    (now : Nat) (permissions : ConsentPermissions) (days : Nat) (ioError : Option CoreError) :
    (self.grantConsent consentId now permissions days ioError).2.pendingDeletion
      = self.pendingDeletion := by
  cases ioError with
  | none => rfl
  | some e => rfl

/-- A revocation never lowers the pending flag. -/
theorem pendingDeletion_revokeConsent {self : ConsentManager} {now : Nat}
    {ioError : Option CoreError} (h : self.pendingDeletion = true) :
    (self.revokeConsent now ioError).2.pendingDeletion = true := by
  unfold revokeConsent
  cases self.currentConsent with
  | none => rfl
  | some record =>
    cases ioError with
    | none => rfl
    | some e => exact h

/-- A revocation that returns raises it. -/
theorem revokeConsent_ok {self : ConsentManager} {now : Nat} {ioError : Option CoreError}
    (h : (self.revokeConsent now ioError).1 = .ok ()) :
    (self.revokeConsent now ioError).2.pendingDeletion = true := by
  unfold revokeConsent at h ⊢
  cases hc : self.currentConsent with
  | none => rfl
  | some record =>
    cases ioError with
    | none => rfl
    | some e =>
      rw [hc] at h
      nomatch h

theorem hasPendingDeletion_of_flag {self : ConsentManager} (h : self.pendingDeletion = true) :
    self.hasPendingDeletion = true := by
  rw [hasPendingDeletion, h, Bool.true_or]

end ConsentManager
end Oneshim
