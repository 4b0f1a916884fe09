/-
  The audit logger (`oneshim-automation/src/audit.rs`).

  An entry goes to the persistence callback and into a buffer that drops its oldest entry when it is
  full; a drain takes the oldest as well.  The entries of a command are looked up in the buffer
  first, and, where it has too few, in the storage.

  1. **Pushes** — what each function of the logger records, and what it does to the buffer
     (`run_spec`): the buffer is the end of the history, the callback has been given all of it.

  2. **Lookup** — the storage answers with the newest rows of the command, as many as are asked for
     and not as many as are missing (`AuditQuery.Answers`); those that are in the buffer as well are
     passed over (`fill_eq`).

  3. **The history** (`entriesByCommandId_top`) — the answer is the newest entries of the command of
     the whole history, each once.  NEWEST is by timestamp, as the storage has it: entries of one
     instant come in any order.
-/
import Oneshim.Automation.Policy
import Oneshim.Lib.Top

namespace Oneshim.Automation

open Lib

/-! ## Entries -/

/-- `AuditStatus`. -/
inductive AuditStatus where
  | started
  | completed
  | failed
  | denied
  | timeout
deriving DecidableEq

/-- `AuditEntry`; the timestamp is in nanoseconds since the epoch. -/
structure AuditEntry where
  entryId : String
  timestamp : Int
  sessionId : String
  commandId : String
  actionType : String
  status : AuditStatus
  details : Option String
  executionTimeMs : Option UInt64

/-- What `push_entry` and `push_entry_with_time` are told. -/
structure AuditRecord where
  commandId : String
  sessionId : String
  actionType : String
  status : AuditStatus
  details : Option String := none
  executionTimeMs : Option UInt64 := none

/-- A call of the logger that records something. -/
inductive AuditCall where
  | logStart (commandId sessionId actionType : String)
  | logComplete (commandId sessionId details : String)
  | logDenied (commandId sessionId actionType : String)
  | logFailed (commandId sessionId error : String)
  /-- With the uuid that becomes its command. -/
  | logEvent (uuid actionType sessionId details : String)
  | logStartIf (level : AuditLevel) (commandId sessionId actionType : String)
  | logCompleteWithTime (level : AuditLevel) (commandId sessionId details : String)
      (executionTimeMs : UInt64)
  | logTimeout (commandId sessionId : String) (timeoutMs : UInt64)

/-- What it records; nothing where the policy asks for no audit. -/
def AuditCall.record : AuditCall → Option AuditRecord
  | .logStart commandId sessionId actionType =>
    some { commandId, sessionId, actionType, status := .started }
  | .logComplete commandId sessionId details =>
    some { commandId, sessionId, actionType := "complete", status := .completed, details }
  | .logDenied commandId sessionId actionType =>
    some { commandId, sessionId, actionType, status := .denied }
  | .logFailed commandId sessionId error =>
    some { commandId, sessionId, actionType := "failed", status := .failed, details := error }
  | .logEvent uuid actionType sessionId details =>
    some { commandId := "event-" ++ uuid, sessionId, actionType, status := .completed, details }
  | .logStartIf level commandId sessionId actionType =>
    if level = .none then none else some { commandId, sessionId, actionType, status := .started }
  | .logCompleteWithTime level commandId sessionId details executionTimeMs =>
    if level = .none then none
    else some
      { commandId, sessionId, actionType := "complete", status := .completed, details,
        executionTimeMs }
  | .logTimeout commandId sessionId timeoutMs =>
    some
      { commandId, sessionId, actionType := "timeout", status := .timeout
        details := s!"Exceeded {timeoutMs}ms", executionTimeMs := timeoutMs }

/-! ## The logger -/

/-- `AuditLogger`, its buffer from the oldest on. -/
structure AuditLogger where
  buffer : List AuditEntry
  maxBufferSize : Nat
  batchSize : Nat
  /-- The persistence callback, where there is one, by the entries it has been given. -/
  persistence : Option (List AuditEntry)
  piiSanitizer : Option (String → String)

namespace AuditLogger

/-- `new`. -/
def new (maxBufferSize batchSize : Nat) : AuditLogger := ⟨[], maxBufferSize, batchSize, none, none⟩

/-- `with_persistence`. -/
def withPersistence (self : AuditLogger) : AuditLogger := { self with persistence := some [] }

/-- `sanitize_details`. -/
def sanitizeDetails (self : AuditLogger) (details : Option String) : Option String :=
  details.map fun raw => (self.piiSanitizer.map fun sanitize => sanitize raw).getD raw

/-- The entry of a record, with a new uuid and the time. -/
def entry (self : AuditLogger) (entryId : String) (now : Int) (record : AuditRecord) : AuditEntry :=
  ⟨entryId, now, record.sessionId, record.commandId, record.actionType, record.status,
    self.sanitizeDetails record.details, record.executionTimeMs⟩

/-- `push_entry` and `push_entry_with_time`. -/
def pushEntry (self : AuditLogger) (entry : AuditEntry) : AuditLogger :=
  { self with
    buffer := (if self.maxBufferSize ≤ self.buffer.length then self.buffer.drop 1 else self.buffer)
      ++ [entry]
    persistence := self.persistence.map (· ++ [entry]) }

/-- `drain_batch`, less the entries it returns. -/
def drainBatch (self : AuditLogger) : AuditLogger :=
  { self with buffer := self.buffer.drop (min self.buffer.length self.batchSize) }

/-- `drain_all`, less the entries it returns. -/
def drainAll (self : AuditLogger) : AuditLogger := { self with buffer := [] }

end AuditLogger

/-- What can happen to a logger; a push has a new uuid and a time. -/
inductive AuditMove where
  | log (entryId : String) (now : Int) (call : AuditCall)
  | drainBatch
  | drainAll

namespace AuditLogger

/-- One move. -/
def step (self : AuditLogger) : AuditMove → AuditLogger
  | .log entryId now call =>
    match call.record with
    | some record => self.pushEntry (self.entry entryId now record)
    | none => self
  | .drainBatch => self.drainBatch
  | .drainAll => self.drainAll

/-- The entry a move pushes. -/
def pushed (self : AuditLogger) : AuditMove → List AuditEntry
  | .log entryId now call => (call.record.map (self.entry entryId now)).toList
  | .drainBatch => []
  | .drainAll => []

/-- All that is pushed, from the first on. -/
def history (self : AuditLogger) (moves : List AuditMove) : List AuditEntry :=
  moves.flatMap self.pushed

/-! ## Lookup -/

/-- The loop over the rows of the storage, which ends when there are enough. -/
def fill (limit : Nat) (bufferIds : List String) : List AuditEntry → List AuditEntry →
    List AuditEntry
  | results, [] => results
  | results, entry :: rest =>
    if limit ≤ results.length then results
    else if bufferIds.contains entry.entryId then fill limit bufferIds results rest
    else fill limit bufferIds (results ++ [entry]) rest

/-- `sort_by_key(|e| Reverse(e.timestamp))`, which keeps the order of equals. -/
def newestFirst (results : List AuditEntry) : List AuditEntry :=
  results.mergeSort fun a b => decide (b.timestamp ≤ a.timestamp)

/-- What the buffer has of a command, newest first. -/
def buffered (self : AuditLogger) (commandId : String) (limit : Nat) : List AuditEntry :=
  (self.buffer.reverse.filter (·.commandId == commandId)).take limit

/-- `entries_by_command_id`; `query` is the storage, where it is attached, as it answers now. -/
def entriesByCommandId (self : AuditLogger) (query : Option (String → Nat → List AuditEntry))
    (commandId : String) (limit : Nat) : List AuditEntry :=
  if limit = 0 then []
  else
    let results := self.buffered commandId limit
    let results :=
      if results.length < limit then
        match query with
        | some query => fill limit (results.map (·.entryId)) results (query commandId limit)
        | none => results
      else results
    (newestFirst results).take limit

end AuditLogger

/-- `AuditQuery` over a storage that has these entries: the newest of the command, exactly as many
    as are asked for where there are so many. -/
def AuditQuery.Answers (query : String → Nat → List AuditEntry) (stored : List AuditEntry) : Prop :=
  ∀ commandId limit,
    Top AuditEntry.timestamp limit (stored.filter (·.commandId == commandId))
      (query commandId limit)

namespace AuditLogger

/-! ## What a run does -/

/-- **One move** pushes at the end of the buffer and takes from its beginning. -/
theorem step_spec (self : AuditLogger) (move : AuditMove) :
    (self.step move).piiSanitizer = self.piiSanitizer ∧
      (self.step move).persistence = self.persistence.map (· ++ self.pushed move) ∧
      (self.step move).buffer <:+ self.buffer ++ self.pushed move := by
  have hsame : self.persistence = self.persistence.map (· ++ []) := by
    cases self.persistence with
    | none => rfl
    | some given => rw [Option.map_some, List.append_nil]
  cases move with
  | drainBatch =>
    refine ⟨rfl, hsame, ?_⟩
    rw [pushed, List.append_nil]
    exact List.drop_suffix _ _
  | drainAll =>
    refine ⟨rfl, hsame, ?_⟩
    exact List.nil_suffix
  | log entryId now call =>
    cases hrecord : call.record with
    | none =>
      simp only [step, pushed, hrecord, Option.map_none, Option.toList_none, List.append_nil]
      exact ⟨trivial, by simpa only [List.append_nil] using hsame, List.suffix_rfl⟩
    | some record =>
      simp only [step, pushed, hrecord, Option.map_some, Option.toList_some]
      refine ⟨rfl, rfl, ?_⟩
      unfold pushEntry
      split
      · obtain ⟨gone, hgone⟩ := List.drop_suffix 1 self.buffer
        refine ⟨gone, ?_⟩
        rw [← List.append_assoc, hgone]
      · exact List.suffix_rfl

/-- What is pushed depends on the sanitizer alone. -/
theorem pushed_congr {self other : AuditLogger} (h : self.piiSanitizer = other.piiSanitizer) :
    self.pushed = other.pushed := by
  have hentry : self.entry = other.entry := by
    funext entryId now record
    simp only [entry, sanitizeDetails, h]
  funext move
  cases move with
  | log entryId now call => simp only [pushed, hentry]
  | drainBatch => rfl
  | drainAll => rfl

/-- **A run**: the buffer is the end of the history, and the callback has been given all of it. -/
theorem run_spec (self : AuditLogger) (moves : List AuditMove) :
    (moves.foldl step self).persistence = self.persistence.map (· ++ self.history moves) ∧
      (moves.foldl step self).buffer <:+ self.buffer ++ self.history moves := by
  induction moves generalizing self with
  | nil =>
    constructor
    · cases hpersistence : self.persistence with
      | none => rw [List.foldl_nil, hpersistence, Option.map_none]
      | some given =>
        rw [List.foldl_nil, hpersistence, Option.map_some]
        simp only [history, List.flatMap_nil, List.append_nil]
    · simp only [List.foldl_nil, history, List.flatMap_nil, List.append_nil]
      exact List.suffix_rfl
  | cons move moves ih =>
    obtain ⟨hsanitizer, hpersistence, hbuffer⟩ := self.step_spec move
    obtain ⟨hgiven, hsuffix⟩ := ih (self.step move)
    have hhistory : self.history (move :: moves) =
        self.pushed move ++ (self.step move).history moves := by
      simp only [history, List.flatMap_cons, pushed_congr hsanitizer]
    rw [List.foldl_cons, hhistory, ← List.append_assoc]
    constructor
    · rw [hgiven, hpersistence, Option.map_map]
      congr 1
      funext given
      exact List.append_assoc _ _ _
    · obtain ⟨gone, hgone⟩ := hbuffer
      refine hsuffix.trans ⟨gone, ?_⟩
      rw [← List.append_assoc, hgone]

/-! ## What a lookup finds -/

/-- A row of the storage that the buffer has not given. -/
def unbuffered (bufferIds : List String) (entry : AuditEntry) : Bool :=
  !bufferIds.contains entry.entryId

/-- The rows that are not in the buffer, until there are enough. -/
theorem fill_eq (limit : Nat) (bufferIds : List String) (stored : List AuditEntry)
    {results : List AuditEntry} (h : results.length ≤ limit) :
    fill limit bufferIds results stored = results ++
      (stored.filter (unbuffered bufferIds)).take (limit - results.length) := by
  induction stored generalizing results with
  | nil => rw [fill, List.filter_nil, List.take_nil, List.append_nil]
  | cons entry rest ih =>
    rw [fill]
    by_cases hfull : limit ≤ results.length
    · rw [if_pos hfull, show limit - results.length = 0 by omega, List.take_zero, List.append_nil]
    · rw [if_neg hfull]
      cases hdup : bufferIds.contains entry.entryId with
      | true =>
        have hnot : ¬ unbuffered bufferIds entry = true := by
          rw [unbuffered, hdup]
          decide
        rw [if_pos rfl, ih h, List.filter_cons_of_neg hnot]
      | false =>
        have hnew : unbuffered bufferIds entry = true := by
          rw [unbuffered, hdup]
          rfl
        have hlength : (results ++ [entry]).length = results.length + 1 := List.length_append
        rw [if_neg Bool.false_ne_true, ih (by omega), List.filter_cons_of_pos hnew, hlength,
          show limit - results.length = limit - (results.length + 1) + 1 by omega,
          List.take_succ_cons, List.append_assoc, List.singleton_append]

/-- Sorting and cutting off leaves a top as it is. -/
theorem newestFirst_take {limit : Nat} {entries found : List AuditEntry}
    (h : Top AuditEntry.timestamp limit entries found) :
    (newestFirst found).take limit = found := by
  have hsorted : newestFirst found = found :=
    List.mergeSort_of_pairwise (h.pairwise.imp fun hle => decide_eq_true hle)
  have hlength := h.length_eq
  rw [hsorted, List.take_of_length_le (by omega)]

/-- Entries that come as time goes on are newest first from the end. -/
theorem reverse_filter_pairwise {entries : List AuditEntry} (commandId : String)
    (htimes : entries.Pairwise fun a b => a.timestamp ≤ b.timestamp) :
    (entries.reverse.filter (·.commandId == commandId)).Pairwise
      fun a b => b.timestamp ≤ a.timestamp :=
  (List.pairwise_reverse.mpr htimes).filter _

/-- What the buffer has of a command is enough, or it is all the buffer has. -/
theorem buffered_cases (self : AuditLogger) (commandId : String) (limit : Nat) :
    (limit ≤ (self.buffer.reverse.filter (·.commandId == commandId)).length ∧
        (self.buffered commandId limit).length = limit) ∨
      self.buffered commandId limit = self.buffer.reverse.filter (·.commandId == commandId) ∧
        (self.buffered commandId limit).length < limit := by
  unfold buffered
  rw [List.length_take]
  by_cases hle : limit ≤ (self.buffer.reverse.filter (·.commandId == commandId)).length
  · exact .inl ⟨hle, by omega⟩
  · exact .inr ⟨List.take_of_length_le (by omega), by omega⟩

/-- **A buffer that is the end of what is stored** finds the newest entries of all. -/
theorem entriesByCommandId_of_suffix {self : AuditLogger} {history : List AuditEntry}
    {query : String → Nat → List AuditEntry} (hbuffer : self.buffer <:+ history)
    (hids : (history.map (·.entryId)).Nodup)
    (htimes : history.Pairwise fun a b => a.timestamp ≤ b.timestamp)
    (hquery : AuditQuery.Answers query history) (commandId : String) (limit : Nat) :
    Top AuditEntry.timestamp limit (history.filter (·.commandId == commandId))
      (self.entriesByCommandId (some query) commandId limit) := by
  obtain ⟨gone, rfl⟩ := hbuffer
  have hrecent := reverse_filter_pairwise commandId (List.pairwise_append.mp htimes).2.1
  have hperm : ((gone ++ self.buffer).filter (·.commandId == commandId)).Perm
      (self.buffer.reverse.filter (·.commandId == commandId) ++
        gone.filter (·.commandId == commandId)) := by
    rw [List.filter_append]
    exact List.perm_append_comm.trans
      (((List.reverse_perm self.buffer).symm.filter _).append_right _)
  unfold entriesByCommandId
  by_cases hzero : limit = 0
  · rw [if_pos hzero, hzero]
    exact top_mergeSort AuditEntry.timestamp 0 _
  rw [if_neg hzero]
  rcases self.buffered_cases commandId limit with ⟨hle, hlength⟩ | ⟨hall, hlength⟩
  · -- the buffer has enough: what is older comes behind it
    have htop : Top AuditEntry.timestamp limit
        ((gone ++ self.buffer).filter (·.commandId == commandId))
        (self.buffered commandId limit) := by
      refine ⟨(gone ++ self.buffer).reverse.filter (·.commandId == commandId),
        (List.reverse_perm _).filter _, reverse_filter_pairwise commandId htimes, ?_⟩
      rw [List.reverse_append, List.filter_append, List.take_append_of_le_length hle]
      rfl
    simp only [show ¬ (self.buffered commandId limit).length < limit by omega, if_false]
    rw [newestFirst_take htop]
    exact htop
  · -- the buffer has too little: the storage fills up
    have hin : ∀ a ∈ self.buffer.reverse.filter (·.commandId == commandId),
        unbuffered ((self.buffer.reverse.filter (·.commandId == commandId)).map (·.entryId)) a =
          false := by
      intro a ha
      rw [unbuffered, Bool.not_eq_false', List.contains_iff_mem]
      exact List.mem_map_of_mem ha
    have hout : ∀ b ∈ gone.filter (·.commandId == commandId),
        unbuffered ((self.buffer.reverse.filter (·.commandId == commandId)).map (·.entryId)) b =
          true := by
      intro b hb
      rw [unbuffered, Bool.not_eq_true', ← Bool.not_eq_true, List.contains_iff_mem]
      intro hmem
      obtain ⟨a, ha, heq⟩ := List.mem_map.mp hmem
      rw [List.map_append] at hids
      exact (List.nodup_append.mp hids).2.2 b.entryId
        (List.mem_map_of_mem (List.mem_of_mem_filter hb)) a.entryId
        (List.mem_map_of_mem (List.mem_reverse.mp (List.mem_of_mem_filter ha))) heq.symm
    have htop := ((hquery commandId limit).of_perm hperm).complete hrecent
      (fun a ha b hb => (List.pairwise_append.mp htimes).2.2 b (List.mem_of_mem_filter hb) a
        (List.mem_reverse.mp (List.mem_of_mem_filter ha))) hin hout (by rw [← hall]; omega)
    simp only [hlength, if_true]
    rw [fill_eq limit _ _ (Nat.le_of_lt hlength), hall, newestFirst_take htop]
    exact htop.of_perm hperm.symm

/-- **Lookup over the whole history.**  Whatever is pushed, evicted and drained, the entries of a
    command are the newest of all that were pushed, each once, newest first; where no two of them
    are of one instant, they are the last pushed, from the last on. -/
theorem entriesByCommandId_top (maxBufferSize batchSize : Nat)
    (sanitizer : Option (String → String)) (moves : List AuditMove)
    (query : String → Nat → List AuditEntry) (commandId : String) (limit : Nat) :
    let start : AuditLogger :=
      { (AuditLogger.new maxBufferSize batchSize).withPersistence with piiSanitizer := sanitizer }
    let logger := moves.foldl step start
    let ofCommand := (start.history moves).filter (·.commandId == commandId)
    let found := logger.entriesByCommandId (some query) commandId limit
    ((start.history moves).map (·.entryId)).Nodup →
    (start.history moves).Pairwise (fun a b => a.timestamp ≤ b.timestamp) →
    (∀ stored, logger.persistence = some stored → AuditQuery.Answers query stored) →
    Top AuditEntry.timestamp limit ofCommand found ∧ (found.map (·.entryId)).Nodup ∧
      (ofCommand.Pairwise (fun a b => a.timestamp < b.timestamp) →
        found = ofCommand.reverse.take limit) := by
  intro start logger ofCommand found hids htimes hquery
  obtain ⟨hpersistence, hbuffer⟩ := start.run_spec moves
  have hanswers : AuditQuery.Answers query (start.history moves) := hquery _ hpersistence
  have htop : Top AuditEntry.timestamp limit ofCommand found :=
    entriesByCommandId_of_suffix hbuffer hids htimes hanswers commandId limit
  refine ⟨htop, ?_, ?_⟩
  · exact htop.nodup_map (hids.sublist (List.filter_sublist.map _))
  · intro hstrict
    exact htop.eq_take (List.reverse_perm ofCommand) (List.pairwise_reverse.mpr hstrict)

/-- A storage that keeps the entries as they are: filter, sort, cut off. -/
def storedQuery (stored : List AuditEntry) (commandId : String) (limit : Nat) : List AuditEntry :=
  (newestFirst (stored.filter (·.commandId == commandId))).take limit

theorem storedQuery_answers (stored : List AuditEntry) :
    AuditQuery.Answers (storedQuery stored) stored :=
  fun _ limit => top_mergeSort AuditEntry.timestamp limit _

/-- Four pushes for two commands, two of them in one instant. -/
def sampleMoves : List AuditMove :=
  [.log "a" 1 (.logStart "x" "s" "click"), .log "b" 1 (.logDenied "y" "s" "key"),
    .log "c" 2 (.logComplete "x" "s" "ok"), .log "d" 3 (.logStart "x" "s" "click")]

/-- A buffer for one entry has the last of them, the storage gives the one before. -/
theorem entriesByCommandId_top_example :
    ((sampleMoves.foldl step (new 1 50).withPersistence).entriesByCommandId
        (some (storedQuery ((new 1 50).withPersistence.history sampleMoves))) "x" 2).map
      (·.entryId) = ["d", "c"] := by
  obtain ⟨-, -, hfound⟩ := entriesByCommandId_top 1 50 none sampleMoves
    (storedQuery ((new 1 50).withPersistence.history sampleMoves)) "x" 2 (by decide) (by decide)
    (by
      intro stored hstored
      cases hstored
      exact storedQuery_answers _)
  exact congrArg (List.map (·.entryId)) (hfound (by decide))

end AuditLogger

end Oneshim.Automation
