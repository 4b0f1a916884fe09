/-
  The remote transport (`oneshim-network/src/sync/remote_transport.rs`): a push is one POST, tried
  again after failures that may pass.

  The destination is an oracle: for the n-th request of a push it says how the request ended and
  whether the destination then HAS the rows of its body.  The two are independent: an answer can be
  lost after the body was stored, and a conflict says nothing about it.  Only what a push does to
  the sending side is computed here.
-/
import Oneshim.Core.Sync

namespace Oneshim

/-- How a request ended; `retryAfter` is the header as `extract_retry_after` reads it. -/
inductive SendResult where
  | response (status : Nat) (statusText : String) (retryAfter : Nat) (body : String)
  | timeout
  | failed (message : String)

/-- One request: how it ended, and whether the destination has stored the rows of its body, at this
    request or before it. -/
structure Exchange where
  result : SendResult
  stored : Bool

/-- `RemoteSyncTransport`; `encrypt` serializes and encrypts. -/
structure RemoteSyncTransport (β : Type) where
  encrypt : ChangeSet → Except CoreError β
  /-- `MAX_RETRIES`. -/
  maxRetries : Nat := 3
  /-- `REQUEST_TIMEOUT_SECS`, in milliseconds. -/
  timeoutMs : Nat := 30000

namespace RemoteSyncTransport

variable {β : Type} (self : RemoteSyncTransport β)

/-- `check_response_status`. -/
def checkResponseStatus (status : Nat) (statusText body : String) : Except CoreError Unit :=
  if status = 200 ∨ status = 204 then .ok ()
  else if status = 401 ∨ status = 403 then .error (.auth ("Sync auth failed: " ++ body))
  else if status = 404 then .error (.notFound "SyncEndpoint" body)
  -- conflict: the comment expects the engine to pull again
  else if status = 409 then .ok ()
  else if status = 408 ∨ status = 504 then .error (.requestTimeout .timeout 0)
  else if status = 429 then .error (.rateLimit .rateLimit 60)
  else if status = 502 ∨ status = 503 then .error (.serviceUnavailable body)
  else .error (.network .generic ("Sync API error (" ++ statusText ++ "): " ++ body))

/-- `is_retryable`. -/
def isRetryable : CoreError → Bool
  | .network _ _ => true
  | .requestTimeout .timeout _ => true
  | .serviceUnavailable _ => true
  | .rateLimit .rateLimit _ => true
  | _ => false

/-- What one round of the retry loop makes of an answer: the push returns, or there is a new
    `last_error`. -/
def answer (lastError : CoreError) : SendResult → Except CoreError Unit
  | .response status statusText retryAfter body =>
    if status = 200 ∨ status = 204 then .ok ()
    else if status = 409 then .ok ()
    else if status = 429 then .error (.rateLimit .rateLimit retryAfter)
    else
      match checkResponseStatus status statusText body with
      | .error e => .error e
      | .ok () => .error lastError
  | .timeout => .error (.requestTimeout .timeout self.timeoutMs)
  | .failed message => .error (.network .generic ("remote push: " ++ message))

/-- The retry loop, with `remaining` further attempts: the result, and the number of requests. -/
def pushLoop (server : Nat → Exchange) : Nat → Nat → CoreError → Except CoreError Unit × Nat
  | 0, attempt, lastError => (self.answer lastError (server attempt).result, attempt + 1)
  | remaining + 1, attempt, lastError =>
    match self.answer lastError (server attempt).result with
    | .ok () => (.ok (), attempt + 1)
    | .error e =>
      if isRetryable e then pushLoop server remaining (attempt + 1) e
      else (.error e, attempt + 1)

/-- `push`: the result, and the number of requests that were made. -/
def push (changes : ChangeSet) (server : Nat → Exchange) : Except CoreError Unit × Nat :=
  match self.encrypt changes with
  | .error e => (.error e, 0)
  | .ok _ => self.pushLoop server self.maxRetries 0 (.internal "push failed")

/-! ## Which answer decides -/

/-- The destination acknowledges. -/
def acknowledged : SendResult → Bool
  | .response status _ _ _ => status == 200 || status == 204
  | _ => false

/-- The destination reports a conflict. -/
def conflict : SendResult → Bool
  | .response status _ _ _ => status == 409
  | _ => false

/-- The request is tried again, if attempts remain. -/
def retried (result : SendResult) : Bool :=
  match self.answer (.internal "push failed") result with
  | .ok () => false
  | .error e => isRetryable e

/-- Every status but success and conflict is an error. -/
theorem checkResponseStatus_error {status : Nat} (statusText body : String)
    (hok : ¬ (status = 200 ∨ status = 204)) (hconflict : status ≠ 409) :
    ∃ e, checkResponseStatus status statusText body = .error e := by
  unfold checkResponseStatus
  rw [if_neg hok]
  split
  · exact ⟨_, rfl⟩
  split
  · exact ⟨_, rfl⟩
  split
  · exact ⟨_, rfl⟩
  split
  · exact ⟨_, rfl⟩
  split
  · exact ⟨_, rfl⟩
  · exact ⟨_, rfl⟩

/-- The previous error is never reported again. -/
theorem answer_lastError (lastError e : CoreError) (result : SendResult) :
    self.answer lastError result = self.answer e result := by
  cases result with
  | timeout => rfl
  | failed message => rfl
  | response status statusText retryAfter body =>
    simp only [answer]
    by_cases hok : status = 200 ∨ status = 204
    · rw [if_pos hok, if_pos hok]
    by_cases hconflict : status = 409
    · rw [if_neg hok, if_neg hok, if_pos hconflict, if_pos hconflict]
    obtain ⟨err, herr⟩ := checkResponseStatus_error statusText body hok hconflict
    rw [herr]

/-- A push returns on an acknowledgement, and on a conflict. -/
theorem answer_ok_iff {lastError : CoreError} {result : SendResult} :
    self.answer lastError result = .ok () ↔
      acknowledged result = true ∨ conflict result = true := by
  cases result with
  | timeout => exact ⟨fun h => (nomatch h), fun h => h.elim (nomatch ·) (nomatch ·)⟩
  | failed message => exact ⟨fun h => (nomatch h), fun h => h.elim (nomatch ·) (nomatch ·)⟩
  | response status statusText retryAfter body =>
    simp only [answer, acknowledged, conflict, Bool.or_eq_true, beq_iff_eq]
    split
    · next hok => exact ⟨fun _ => .inl hok, fun _ => rfl⟩
    · next hok =>
      split
      · next hconflict => exact ⟨fun _ => .inr hconflict, fun _ => rfl⟩
      · next hconflict =>
        refine ⟨fun h => ?_, fun h => h.elim (absurd · hok) (absurd · hconflict)⟩
        split at h
        · nomatch h
        · split at h
          · nomatch h
          · nomatch h

theorem retried_eq_false_of_ok {lastError : CoreError} {result : SendResult}
    (h : self.answer lastError result = .ok ()) : self.retried result = false := by
  rw [self.answer_lastError lastError (.internal "push failed")] at h
  rw [retried, h]

/-- **Which answer decides**: the push ends at the first answer that is not tried again, or at the
    last attempt, and it returns `Ok` exactly when that answer lets it. -/
theorem pushLoop_decided (server : Nat → Exchange) (remaining attempt : Nat)
    (lastError : CoreError) :
    ∃ k ≤ remaining, (∀ i < k, self.retried (server (attempt + i)).result = true) ∧
      (k = remaining ∨ self.retried (server (attempt + k)).result = false) ∧
      self.pushLoop server remaining attempt lastError
        = (self.answer (.internal "push failed") (server (attempt + k)).result,
            attempt + k + 1) := by
  induction remaining generalizing attempt lastError with
  | zero =>
    refine ⟨0, Nat.le_refl 0, fun i hi => (nomatch hi), .inl rfl, ?_⟩
    rw [pushLoop, self.answer_lastError lastError (.internal "push failed")]
    rfl
  | succ remaining ih =>
    have hsame := self.answer_lastError lastError (.internal "push failed")
      (server attempt).result
    cases hans : self.answer (.internal "push failed") (server attempt).result with
    | ok u =>
      refine ⟨0, Nat.zero_le _, fun i hi => (nomatch hi),
        Or.inr (self.retried_eq_false_of_ok hans), ?_⟩
      rw [pushLoop, hsame, hans]
      simp only [Nat.add_zero, hans]
    | error e =>
      have hretried : self.retried (server attempt).result = isRetryable e := by
        rw [retried, hans]
      cases hr : isRetryable e with
      | false =>
        refine ⟨0, Nat.zero_le _, fun i hi => (nomatch hi), .inr (hretried.trans hr), ?_⟩
        rw [pushLoop, hsame, hans]
        simp only [hr, Bool.false_eq_true, if_false, Nat.add_zero, hans]
      | true =>
        obtain ⟨k, hk, hbefore, hstop, heq⟩ := ih (attempt + 1) e
        have hshift : ∀ i, attempt + 1 + i = attempt + (i + 1) := fun i => by omega
        refine ⟨k + 1, Nat.succ_le_succ hk, ?_, ?_, ?_⟩
        · intro i hi
          cases i with
          | zero => exact hretried.trans hr
          | succ i =>
            rw [← hshift i]
            exact hbefore i (Nat.lt_of_succ_lt_succ hi)
        · rw [← hshift k]
          exact hstop.imp_left (congrArg Nat.succ)
        · rw [pushLoop, hsame, hans]
          simp only [hr, if_true]
          rw [heq, hshift k]

end RemoteSyncTransport
end Oneshim
