/-
  Tokens of the server (`oneshim-network/src/auth.rs`).

  Login, refresh and logout write one state behind a lock.  A refresh reads it under one lock, talks
  to the server, up to four times, and writes under another.

  1. **Code** — the calls between two locks or awaits (`tokenCalls`), any number of them interleaved.
     The writes are numbered, which the code does not do.

  2. **Logout and login win** (`logout_and_login_win_iff`) — in every state of a run exactly when every
     refresh that gets tokens finds the state that it started from.

  Times are in nanoseconds.
-/
import Mathlib.Algebra.Group.Int.Defs
import Mathlib.Data.List.Basic
import Oneshim.Lib.Calls
import Oneshim.Lib.Text

namespace Oneshim.Auth

open Lib

/-! ## Tokens and answers -/

/-- `TokenResponse`. -/
structure TokenResponse where
  accessToken : String
  refreshToken : Option String
  expiresIn : Option Int

/-- `TokenState`. -/
structure TokenState where
  accessToken : String
  refreshToken : Option String
  expiresAt : Int

/-- `CoreError`, the variants that are built here; each of them has one code. -/
inductive CoreError where
  | network (message : String)
  | requestTimeout (timeoutMs : Nat)
  | rateLimit (retryAfterSecs : Nat)
  | serviceUnavailable (message : String)
  | auth (message : String)

/-- `Display` of an error. -/
def CoreError.text : CoreError → String
  | .network message => "Network error [network.generic]: " ++ message
  | .requestTimeout timeoutMs =>
    "Request timed out [network.timeout] after " ++ toString timeoutMs ++ "ms"
  | .rateLimit retryAfterSecs =>
    "Request rate limit exceeded [network.rate_limit], retry after " ++ toString retryAfterSecs ++ "s"
  | .serviceUnavailable message =>
    "Service temporarily unavailable [service.unavailable]: " ++ message
  | .auth message => "Authentication error [auth.failed]: " ++ message

/-- An HTTP status, with its text. -/
structure Status where
  code : Nat
  text : String

/-- What comes back from the server: the body as text, and what it is read as. -/
inductive Reply where
  | failed (isTimeout : Bool) (error : String)
  | response (status : Status) (retryAfter : Option String) (text : String)
      (json : Except String TokenResponse)

/-- What a call sees at its turn: the clock, and the server where it has been asked. -/
structure Answer where
  now : Int
  reply : Reply

/-- A second. -/
def second : Int := 1000000000

/-- `DateTime::MIN_UTC` and `DateTime::MAX_UTC`. -/
def minUtc : Int := -8334601228800 * second

@[inherit_doc minUtc]
def maxUtc : Int := 8210266876800 * second - 1

/-- `Utc::now() + Duration::seconds(expires_in.unwrap_or(3600))`, which panics out of range. -/
def expiryOf (now : Int) (expiresIn : Option Int) : Option Int :=
  let expiresAt := now + expiresIn.getD 3600 * second
  if minUtc ≤ expiresAt ∧ expiresAt ≤ maxUtc then some expiresAt else none

/-- `parse_retry_after`. -/
def parseRetryAfter (header : Option String) : Option Nat :=
  header.bind fun value => (Text.parseUnsigned (2 ^ 64) value.toList).map (min 60)

/-- The error for a status that is no success. -/
def statusError (status : Nat) (message : String) : CoreError :=
  if status = 408 ∨ status = 504 then .requestTimeout 0
  else if status = 429 then .rateLimit 60
  else if status = 502 ∨ status = 503 then .serviceUnavailable message
  else .auth message

/-! ## Code -/

/-- A write of the state.  The number of a refresh is that of the writes when it read the state. -/
inductive Write where
  | login
  | refresh (started : Nat)
  | logout
deriving DecidableEq

/-- `TokenManager`, and the writes so far. -/
structure TokenManager where
  state : Option TokenState
  writes : List Write

/-- `*state = ...`. -/
def TokenManager.write (self : TokenManager) (kind : Write) (state : Option TokenState) :
    TokenManager :=
  ⟨state, self.writes ++ [kind]⟩

/-- `is_authenticated`. -/
def TokenManager.isAuthenticated (self : TokenManager) (now : Int) : Bool :=
  self.state.any fun token => now < token.expiresAt

inductive Request where
  | login
  | refresh
  | getToken
  | logout

/-- Who has called `get_token`. -/
inductive TokenCaller where
  | getToken
  | logout

/-- Who has called `refresh`. -/
inductive RefreshCaller where
  | refresh
  | token (caller : TokenCaller)

inductive Result where
  | unit (result : Except CoreError Unit)
  | token (result : Except CoreError String)

/-- Where a call stands. -/
inductive Stage where
  | login
  | installLogin (token : TokenState)
  | readToken (caller : TokenCaller)
  | readRefresh (caller : RefreshCaller)
  | refreshing (caller : RefreshCaller) (refreshToken : String) (attempt : Nat)
      (lastErr : CoreError) (started : Nat)
  | installRefresh (caller : RefreshCaller) (token : TokenState) (started : Nat)
  | readBack (caller : TokenCaller)
  | revoke
  | clear
  | returned (result : Result)
  | panicked

def Request.enter : Request → Stage
  | .login => .login
  | .refresh => .readRefresh .refresh
  | .getToken => .readToken .getToken
  | .logout => .readToken .logout

/-- After `get_token`: `logout` has the token revoked, or goes on without one. -/
def tokenDone : TokenCaller → Except CoreError String → Stage
  | .getToken, result => .returned (.token result)
  | .logout, .ok _ => .revoke
  | .logout, .error _ => .clear

/-- After `refresh`: `get_token` reads the state again. -/
def refreshDone : RefreshCaller → Except CoreError Unit → Stage
  | .refresh, result => .returned (.unit result)
  | .token caller, .ok () => .readBack caller
  | .token caller, .error e =>
    tokenDone caller (.error (.auth ("Automatic token refresh failed: " ++ e.text)))

def notAuthenticated : CoreError := .auth "Not authenticated"

/-- `login_with_org`, with what the server said. -/
def loginReply (now : Int) : Reply → Stage
  | .failed _ error => .returned (.unit (.error (.auth ("login request failure: " ++ error))))
  | .response status _ text json =>
    if ¬(200 ≤ status.code ∧ status.code < 300) then
      .returned (.unit (.error (statusError status.code
        ("login failure (" ++ status.text ++ "): " ++ text))))
    else match json with
      | .error e => .returned (.unit (.error (.auth ("Token parsing failed: " ++ e))))
      | .ok response =>
        match expiryOf now response.expiresIn with
        | none => .panicked
        | some expiresAt => .installLogin ⟨response.accessToken, response.refreshToken, expiresAt⟩

/-- `MAX_RETRIES`. -/
def maxRetries : Nat := 3

/-- `refresh`, with what the server said to one attempt. -/
def refreshReply (now : Int) (caller : RefreshCaller) (refreshToken : String) (attempt : Nat)
    (lastErr : CoreError) (started : Nat) : Reply → Stage
  | .failed isTimeout error =>
    again (if isTimeout then .requestTimeout 0
      else .network ("token refresh request failure: " ++ error))
  | .response status retryAfter text json =>
    if 200 ≤ status.code ∧ status.code < 300 then
      match json with
      | .error e => refreshDone caller (.error (.auth ("refresh Token parsing failed: " ++ e)))
      | .ok response =>
        match expiryOf now response.expiresIn with
        | none => .panicked
        | some expiresAt =>
          .installRefresh caller
            ⟨response.accessToken, response.refreshToken <|> some refreshToken, expiresAt⟩ started
    -- after the time of the header; the error is the one of the attempt before
    else if status.code = 429 ∧ (parseRetryAfter retryAfter).isSome then again lastErr
    else
      let error := statusError status.code
        ("token refresh failure (" ++ status.text ++ "): " ++ text)
      if (500 ≤ status.code ∧ status.code < 600) ∨ status.code = 429 then again error
      else refreshDone caller (.error error)
where
  /-- The next attempt, if there is one. -/
  again (error : CoreError) : Stage :=
    if attempt < maxRetries then .refreshing caller refreshToken (attempt + 1) error started
    else refreshDone caller (.error error)

/-- What a call does at its turn. -/
def Stage.turn (self : TokenManager) (_index : Nat) (answer : Answer) :
    Stage → TokenManager × Stage
  | .login => (self, loginReply answer.now answer.reply)
  | .installLogin token => (self.write .login (some token), .returned (.unit (.ok ())))
  | .readToken caller =>
    (self, match self.state with
      | some token =>
        if token.expiresAt ≤ answer.now + 5 * 60 * second then .readRefresh (.token caller)
        else .readBack caller
      | none => tokenDone caller (.error notAuthenticated))
  | .readRefresh caller =>
    (self, match self.state with
      | none => refreshDone caller (.error notAuthenticated)
      | some token =>
        match token.refreshToken with
        | none => refreshDone caller (.error (.auth "Refresh token is missing"))
        | some refreshToken =>
          .refreshing caller refreshToken 0 (.auth "token refresh failed") self.writes.length)
  | .refreshing caller refreshToken attempt lastErr started =>
    (self, refreshReply answer.now caller refreshToken attempt lastErr started answer.reply)
  | .installRefresh caller token started =>
    (self.write (.refresh started) (some token), refreshDone caller (.ok ()))
  | .readBack caller =>
    (self, tokenDone caller (match self.state with
      | some token => .ok token.accessToken
      | none => .error notAuthenticated))
  | .revoke => (self, .clear)
  | .clear => (self.write .logout none, .returned (.unit (.ok ())))
  | .returned result => (self, .returned result)
  | .panicked => (self, .panicked)

/-- The calls of one manager. -/
def tokenCalls : CallSystem TokenManager Request Answer Stage := ⟨Request.enter, Stage.turn⟩

abbrev TokenSystem := Calls TokenManager Stage

abbrev TokenMove := CallMove Request Answer

/-- A manager that nobody has called. -/
def TokenSystem.start : TokenSystem := ⟨⟨none, []⟩, []⟩

/-! ## What a turn does to the state -/

/-- The number of the refresh that a call is in, once it has read the state. -/
def Stage.started? : Stage → Option Nat
  | .refreshing _ _ _ _ started => some started
  | .installRefresh _ _ started => some started
  | _ => none

@[simp] theorem started?_tokenDone (caller : TokenCaller) (result : Except CoreError String) :
    (tokenDone caller result).started? = none := by
  cases caller with
  | getToken => rfl
  | logout => cases result <;> rfl

@[simp] theorem started?_refreshDone (caller : RefreshCaller) (result : Except CoreError Unit) :
    (refreshDone caller result).started? = none := by
  cases caller with
  | refresh => rfl
  | token caller =>
    cases result with
    | ok _ => rfl
    | error e => exact started?_tokenDone caller _

theorem started?_loginReply (now : Int) (reply : Reply) :
    (loginReply now reply).started? = none := by
  cases reply with
  | failed isTimeout error => rfl
  | response status retryAfter text json =>
    simp only [loginReply]
    split
    · rfl
    · split
      · rfl
      · split <;> rfl

/-- An attempt leaves its refresh, or stays in it. -/
theorem started?_refreshReply (now : Int) (caller : RefreshCaller) (refreshToken : String)
    (attempt : Nat) (lastErr : CoreError) (started : Nat) (reply : Reply) :
    (refreshReply now caller refreshToken attempt lastErr started reply).started? = none ∨
      (refreshReply now caller refreshToken attempt lastErr started reply).started? =
        some started := by
  have hagain (error : CoreError) :
      (refreshReply.again caller refreshToken attempt started error).started? = none ∨
        (refreshReply.again caller refreshToken attempt started error).started? = some started := by
    simp only [refreshReply.again]
    split
    · exact .inr rfl
    · exact .inl (started?_refreshDone caller _)
  cases reply with
  | failed isTimeout error => exact hagain _
  | response status retryAfter text json =>
    simp only [refreshReply]
    split
    · split
      · exact .inl (started?_refreshDone caller _)
      · split
        · exact .inl rfl
        · exact .inr rfl
    · split
      · exact hagain _
      · split
        · exact hagain _
        · exact .inl (started?_refreshDone caller _)

/-- **What a turn can do**: it leaves the state as it is, and can only go into a refresh that finds
    a token there; or it writes, and is in no refresh any more. -/
theorem Stage.turn_cases (self : TokenManager) (index : Nat) (answer : Answer) (stage : Stage) :
    ((stage.turn self index answer).1 = self ∧
      ∀ started, (stage.turn self index answer).2.started? = some started →
        stage.started? = some started ∨ (started = self.writes.length ∧ self.state.isSome)) ∨
    ((stage.turn self index answer).2.started? = none ∧
      ((∃ token, stage = .installLogin token ∧
          (stage.turn self index answer).1 = self.write .login (some token)) ∨
        (∃ caller token started, stage = .installRefresh caller token started ∧
          (stage.turn self index answer).1 = self.write (.refresh started) (some token)) ∨
        (stage = .clear ∧ (stage.turn self index answer).1 = self.write .logout none))) := by
  cases stage with
  | login =>
    refine .inl ⟨rfl, fun started h => ?_⟩
    cases (started?_loginReply answer.now answer.reply).symm.trans h
  | installLogin token => exact .inr ⟨rfl, .inl ⟨token, rfl, rfl⟩⟩
  | readToken caller =>
    refine .inl ⟨rfl, fun started h => ?_⟩
    simp only [Stage.turn] at h
    split at h
    · split at h <;> cases h
    · rw [started?_tokenDone] at h
      cases h
  | readRefresh caller =>
    refine .inl ⟨rfl, fun started h => ?_⟩
    simp only [Stage.turn] at h
    split at h
    · rw [started?_refreshDone] at h
      cases h
    · next token hstate =>
      split at h
      · rw [started?_refreshDone] at h
        cases h
      · cases h
        exact .inr ⟨rfl, by rw [hstate]; rfl⟩
  | refreshing caller refreshToken attempt lastErr started =>
    refine .inl ⟨rfl, fun started' h => .inl ?_⟩
    rcases started?_refreshReply answer.now caller refreshToken attempt lastErr started
      answer.reply with hnone | hsame
    · cases hnone.symm.trans h
    · exact hsame.symm.trans h
  | installRefresh caller token started =>
    exact .inr ⟨started?_refreshDone caller _, .inr (.inl ⟨caller, token, started, rfl, rfl⟩)⟩
  | readBack caller =>
    refine .inl ⟨rfl, fun started h => ?_⟩
    cases (started?_tokenDone caller _).symm.trans h
  | revoke => exact .inl ⟨rfl, fun started h => by cases h⟩
  | clear => exact .inr ⟨rfl, .inr (.inr ⟨rfl, rfl⟩)⟩
  | returned result => exact .inl ⟨rfl, fun started h => by cases h⟩
  | panicked => exact .inl ⟨rfl, fun started h => by cases h⟩

/-! ## Who wins -/

/-- **Logout and login have won**: after a logout nobody is authenticated as long as no login has
    succeeded, and every write that is older than that of a refresh was there when the refresh
    started. -/
structure TokenManager.Won (manager : TokenManager) : Prop where
  loggedOut : ∀ before after, manager.writes = before ++ .logout :: after → .login ∉ after →
    ∀ now, manager.isAuthenticated now = false
  notOverwritten : ∀ i j started, manager.writes[i]? = some (Write.refresh started) →
    j < i → j < started

theorem TokenManager.isAuthenticated_eq_false_iff {self : TokenManager} :
    (∀ now, self.isAuthenticated now = false) ↔ self.state = none := by
  cases hstate : self.state with
  | none => simp [isAuthenticated, hstate]
  | some token =>
    simp only [isAuthenticated, hstate, Option.any_some, reduceCtorEq, iff_false, not_forall]
    exact ⟨token.expiresAt - 1, fun h =>
      of_decide_eq_false h (Int.sub_lt_self token.expiresAt Int.one_pos)⟩

/-- A refresh that has got tokens finds the state it started from: nothing has been written since it
    read it. -/
def FindsItsState (self : TokenManager) (_index : Nat) (_answer : Answer) (stage : Stage) : Prop :=
  ∀ caller token started, stage = .installRefresh caller token started →
    started = self.writes.length

/-- A refresh under way has read one of the states so far, and a token when it is the last one. -/
def Stage.ReadState (self : TokenManager) (stage : Stage) : Prop :=
  ∀ started, stage.started? = some started →
    started ≤ self.writes.length ∧ (started = self.writes.length → self.state.isSome)

/-- A write leaves the refreshes under way behind. -/
theorem Stage.ReadState.write {self : TokenManager} {stage : Stage} (h : stage.ReadState self)
    (kind : Write) (state : Option TokenState) : stage.ReadState (self.write kind state) := by
  intro started hstarted
  have hle := (h started hstarted).1
  simp only [TokenManager.write, List.length_append, List.length_singleton]
  exact ⟨by omega, fun heq => by omega⟩

/-- The writes before the last one, when it is not the logout that is looked at. -/
theorem append_cons_of_concat {α : Type} {xs before after : List α} {x y : α}
    (h : xs ++ [x] = before ++ y :: after) (hne : x ≠ y) :
    ∃ rest, after = rest ++ [x] ∧ xs = before ++ y :: rest := by
  rcases List.eq_nil_or_concat after with rfl | ⟨rest, last, rfl⟩
  · exact absurd (List.append_inj' h rfl).2 (by simpa using hne)
  · rw [List.concat_eq_append, ← List.cons_append, ← List.append_assoc] at h
    obtain ⟨hinit, hlast⟩ := List.append_inj' h rfl
    exact ⟨rest, by rw [List.concat_eq_append, hlast], hinit⟩

/-- A write keeps both promises, when a refresh that writes finds a token and nothing written since
    it started. -/
theorem TokenManager.Won.write {self : TokenManager} (h : self.Won) {kind : Write}
    {state : Option TokenState} (hlogout : kind = .logout → state = none)
    (hrefresh : ∀ started, kind = .refresh started →
      started = self.writes.length ∧ self.state.isSome) : (self.write kind state).Won where
  loggedOut before after hwrites hlogin := by
    rw [isAuthenticated_eq_false_iff]
    cases kind with
    | logout => exact hlogout rfl
    | login =>
      obtain ⟨rest, rfl, -⟩ := append_cons_of_concat hwrites (by simp)
      exact absurd (List.mem_append_right rest (List.mem_singleton_self _)) hlogin
    | refresh started =>
      obtain ⟨rest, rfl, hold⟩ := append_cons_of_concat hwrites (by simp)
      have hnone := isAuthenticated_eq_false_iff.mp
        (h.loggedOut before rest hold fun hmem => hlogin (List.mem_append_left _ hmem))
      have hsome := (hrefresh started rfl).2
      rw [hnone] at hsome
      cases hsome
  notOverwritten i j started hi hj := by
    rcases CallSystem.getElem?_concat_cases hi with ⟨rfl, hlast⟩ | hold
    · rw [(hrefresh started hlast.symm).1]
      exact hj
    · exact h.notOverwritten i j started hold hj

/-- **One turn** that finds its state keeps the promises, its own part and that of every other
    call. -/
theorem Stage.turn_keeps {self : TokenManager} {index : Nat} {answer : Answer} {stage : Stage}
    (hwon : self.Won) (hread : stage.ReadState self)
    (hfinds : FindsItsState self index answer stage) :
    (stage.turn self index answer).1.Won ∧
      (stage.turn self index answer).2.ReadState (stage.turn self index answer).1 ∧
      ∀ other : Stage, other.ReadState self →
        other.ReadState (stage.turn self index answer).1 := by
  rcases Stage.turn_cases self index answer stage with
    ⟨hsame, hstarted⟩ | ⟨hnone, hwrites⟩
  · rw [hsame]
    refine ⟨hwon, fun started hnow => ?_, fun _ hother => hother⟩
    -- a refresh that starts here has found a token
    rcases hstarted started hnow with hbefore | ⟨rfl, hsome⟩
    · exact hread started hbefore
    · exact ⟨Nat.le_refl _, fun _ => hsome⟩
  · have hread' : (stage.turn self index answer).2.ReadState (stage.turn self index answer).1 :=
      fun started hnow => (by cases hnone.symm.trans hnow)
    rcases hwrites with ⟨token, -, hwrite⟩ | ⟨caller, token, started, rfl, hwrite⟩ | ⟨-, hwrite⟩
    · refine ⟨?_, hread', fun other hother => hwrite ▸ hother.write _ _⟩
      rw [hwrite]
      exact hwon.write (fun hkind => by cases hkind) fun started hkind => by cases hkind
    · have hstarted := hfinds caller token started rfl
      refine ⟨?_, hread', fun other hother => hwrite ▸ hother.write _ _⟩
      rw [hwrite]
      refine hwon.write (fun hkind => by cases hkind) fun started' hkind => ?_
      cases hkind
      exact ⟨hstarted, (hread started rfl).2 hstarted⟩
    · refine ⟨?_, hread', fun other hother => hwrite ▸ hother.write _ _⟩
      rw [hwrite]
      exact hwon.write (fun _ => rfl) fun started hkind => by cases hkind

/-- What holds all along a run in which refreshes find their state. -/
def TokenSystem.Invariant (s : TokenSystem) : Prop :=
  s.shared.Won ∧ ∀ (i : Nat) stage, s.calls[i]? = some stage → stage.ReadState s.shared

/-- **One move** of such a run. -/
theorem TokenSystem.Invariant.step {s : TokenSystem} {m : TokenMove} (h : s.Invariant)
    (hfinds : CallSystem.OnTurn FindsItsState s m) :
    TokenSystem.Invariant (tokenCalls.step s m) := by
  refine tokenCalls.step_invariant (P := fun manager _ => manager.Won)
    (Q := fun manager _ stage => stage.ReadState manager) (fun request hwon => ⟨hwon, ?_⟩) ?_ h.1 h.2
  · intro started hstarted
    cases request <;> cases hstarted
  · rintro index answer stage rfl hstage
    obtain ⟨hwon, hread, hothers⟩ :=
      Stage.turn_keeps h.1 (h.2 index stage hstage) (hfinds stage hstage)
    exact ⟨hwon, hread, fun _ other _ _ hother => hothers other hother⟩

/-- A refresh that overwrites what it has not seen breaks the promise. -/
theorem findsItsState_of_won {s : TokenSystem} {m : TokenMove} (h : s.Invariant)
    (hwon : (tokenCalls.step s m).shared.Won) : CallSystem.OnTurn FindsItsState s m := by
  cases m with
  | request request => trivial
  | turn index answer =>
    rintro stage hstage caller token started rfl
    have hle := (h.2 index _ hstage started rfl).1
    have hshared : (tokenCalls.step s (.turn index answer)).shared =
        s.shared.write (.refresh started) (some token) := by
      simp only [CallSystem.step, hstage]
      rfl
    rw [hshared] at hwon
    by_contra hne
    have hlast : (s.shared.write (.refresh started) (some token)).writes[s.shared.writes.length]? =
        some (Write.refresh started) := List.getElem?_concat_length
    exact Nat.lt_irrefl started (hwon.notOverwritten _ started started hlast (by omega))

theorem TokenSystem.invariant_start : TokenSystem.start.Invariant := by
  refine ⟨⟨fun before after hwrites => ?_, fun i j started hi => ?_⟩, fun i stage hi => by cases hi⟩
  · cases before <;> cases hwrites
  · cases hi

/-- **When logout and login win over a refresh in flight.**  For every interleaving of logins,
    refreshes, token reads and logouts, and all answers of the server: in all states of the run
    exactly when every refresh that gets tokens finds the state that it started from. -/
theorem logout_and_login_win_iff (moves : List TokenMove) :
    (∀ s ∈ states tokenCalls.step TokenSystem.start moves, s.shared.Won) ↔
      Along tokenCalls.step (CallSystem.OnTurn FindsItsState) TokenSystem.start moves := by
  have hstep : ∀ (s : TokenSystem) (m : TokenMove), s.Invariant →
      CallSystem.OnTurn FindsItsState s m → TokenSystem.Invariant (tokenCalls.step s m) :=
    fun _ _ h => h.step
  have hstart := TokenSystem.invariant_start
  constructor
  · exact along_of_states hstep (fun s m => findsItsState_of_won) hstart
  · intro hrun s hs
    exact (states_invariant hstep hstart hrun s hs).1

/-- The server answers with tokens that are good for an hour. -/
def grant (accessToken : String) : Answer :=
  ⟨0, .response ⟨200, "200 OK"⟩ none ""
    (.ok ⟨accessToken, some "refresh-token", some 3600⟩)⟩

/-- A turn without the server. -/
def alone : Answer := ⟨0, .failed false ""⟩

/-- A login; a refresh reads the state and asks the server; a logout runs from beginning to end; the
    refresh gets its tokens. -/
def logoutDuringRefresh : List TokenMove :=
  [.request .login, .turn 0 (grant "first"), .turn 0 alone,
    .request .refresh, .turn 1 alone,
    .request .logout, .turn 2 alone, .turn 2 alone, .turn 2 alone, .turn 2 alone,
    .turn 1 (grant "second"), .turn 1 alone]

/-- The logout is the last but one write, and the tokens of the refresh are installed. -/
theorem refresh_undoes_logout :
    ¬ ∀ (moves : List TokenMove), ∀ s ∈ states tokenCalls.step TokenSystem.start moves,
      s.shared.Won := by
  intro hall
  have hwon := hall logoutDuringRefresh _ (foldl_mem_states _ _)
  have hwrites : (logoutDuringRefresh.foldl tokenCalls.step TokenSystem.start).shared.writes =
      [.login] ++ .logout :: [.refresh 1] := by decide +kernel
  have hin : (logoutDuringRefresh.foldl tokenCalls.step TokenSystem.start).shared.isAuthenticated 0 =
      true := by decide +kernel
  have hout := hwon.loggedOut _ _ hwrites (by decide) 0
  cases hin.symm.trans hout

end Oneshim.Auth
