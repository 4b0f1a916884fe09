/-
  Bursts of communication (`pattern_miner/detectors.rs`).

  A burst is a time in communication apps of five minutes or more, in which other apps may be in
  front for up to half a minute.  The detector goes over the events once, keeps an open burst, and
  closes it at an event of another app that comes too late after the last communication.

  1. **Code** — the loop, one event at a time; the instant at which another app came first is
     remembered too, but nothing reads it.

  2. **What is reported** (`reported_spec`) — stretches in order, five minutes or more, in which no
     event of another app comes too late.

  3. **What is found** (`emitted_of_infix`) — every stretch of communication that is tolerated is in
     a burst that the loop closes.

  4. **The result** (`bursts_sound_iff`) — other apps may be in front for longer: nothing is looked
     at when communication is taken up again.
-/
import Mathlib.Data.List.Infix
import Oneshim.Analysis.DeepWork

namespace Oneshim.Analysis

open Focus (AppCategory second)
open Lib.Runs (Between InOrder between_concat_iff between_singleton last_marked_unique)

/-! ## Code -/

/-- `COMM_BURST_MIN_SECS`. -/
def commBurstMinSecs : Int := 300

/-- `BURST_GAP_TOLERANCE_SECS`. -/
def burstGapToleranceSecs : Int := 30

/-- An open burst: its events up to the last one in a communication app, that one, and the events
    since. -/
structure OpenBurst where
  events : List Switch
  lastComm : Switch
  since : List Switch

/-- `emit_burst`: two events or more, for long enough. -/
def emitBurst (events : List Switch) : List (List Switch) :=
  match events with
  | start :: next :: rest =>
    if commBurstMinSecs ≤ gapSecs ((next :: rest).getLast (List.cons_ne_nil next rest)) start then
      [events]
    else []
  | _ => []

section

variable (toLowercase : String → String)

/-- `is_communication_app` of an app in lower case. -/
def isCommunicationApp (app : String) : Bool :=
  AppCategory.fromAppName toLowercase (toLowercase app) == .communication

/-- A context event in a communication app. -/
def isComm (entry : Switch) : Bool := isCommunicationApp toLowercase entry.app

/-- One event: the burst that is open after it, and what it has emitted. -/
def burstStep (burst : Option OpenBurst) (entry : Switch) :
    Option OpenBurst × List (List Switch) :=
  if isComm toLowercase entry then
    match burst with
    | none => (some ⟨[entry], entry, []⟩, [])
    | some burst => (some ⟨burst.events ++ burst.since ++ [entry], entry, []⟩, [])
  else
    match burst with
    | none => (none, [])
    | some burst =>
      if burstGapToleranceSecs < gapSecs entry burst.lastComm then (none, emitBurst burst.events)
      else (some { burst with since := burst.since ++ [entry] }, [])

/-- The loop; at the end the open burst is emitted. -/
def burstLoop : Option OpenBurst → List Switch → List (List Switch)
  | none, [] => []
  | some burst, [] => emitBurst burst.events
  | burst, entry :: rest =>
    (burstStep toLowercase burst entry).2 ++ burstLoop (burstStep toLowercase burst entry).1 rest

/-- The bursts of `detect_communication_bursts`. -/
def communicationBursts (switches : List Switch) : List (List Switch) :=
  if switches.length < 2 then [] else burstLoop toLowercase none switches

/-! ## What is reported -/

/-- Five minutes from the first event to the last. -/
def Spans (run : List Switch) : Prop :=
  ∃ first last, run.head? = some first ∧ run.getLast? = some last ∧
    300 * second ≤ last.time - first.time

/-- No event of another app comes more than the tolerance after the last communication. -/
def Tolerated (run : List Switch) : Prop :=
  Between (isComm toLowercase) (fun comm other => isComm toLowercase comm = true →
    isComm toLowercase other = false → gapSecs other comm ≤ burstGapToleranceSecs) run

/-- It begins and ends with communication. -/
def CommEnds (run : List Switch) : Prop :=
  (∃ first ∈ run.head?, isComm toLowercase first = true) ∧
    ∃ last ∈ run.getLast?, isComm toLowercase last = true

/-- **The tolerance**: no other apps are in front for more than half a minute before communication
    is taken up again. -/
def NoLongGap (run : List Switch) : Prop :=
  Between (isComm toLowercase) (fun other comm => isComm toLowercase other = false →
    isComm toLowercase comm = true → comm.time - other.time ≤ burstGapToleranceSecs * second) run

variable {toLowercase}

theorem mem_emitBurst {events run : List Switch} (h : run ∈ emitBurst events) :
    run = events ∧ Spans events := by
  rcases events with _ | ⟨start, _ | ⟨next, rest⟩⟩
  · cases h
  · cases h
  · simp only [emitBurst] at h
    split at h
    · next hspan =>
      refine ⟨List.mem_singleton.mp h, start, _, rfl, rfl, ?_⟩
      exact (le_gapSecs_iff (by decide : (0 : Int) < 300) _ _).mp hspan
    · cases h

/-- Events that span a burst are emitted as one. -/
theorem emitBurst_of_spans {events : List Switch} (h : Spans events) :
    emitBurst events = [events] := by
  obtain ⟨first, last, hfirst, hlast, hspan⟩ := h
  rcases events with _ | ⟨start, _ | ⟨next, rest⟩⟩
  · cases hfirst
  · obtain rfl : start = first := Option.some.inj hfirst
    obtain rfl : start = last := Option.some.inj hlast
    rw [second] at hspan
    omega
  · obtain rfl : start = first := Option.some.inj hfirst
    have hlast : (next :: rest).getLast (List.cons_ne_nil next rest) = last :=
      Option.some.inj hlast
    simp only [emitBurst, hlast]
    exact if_pos ((le_gapSecs_iff (by decide : (0 : Int) < 300) _ _).mpr hspan)

variable (toLowercase) in
/-- **The open burst**: it begins with communication and goes on to the last one, and no event of
    another app has come too late. -/
structure OpenBurst.Valid (burst : OpenBurst) : Prop where
  head : ∃ first ∈ burst.events.head?, isComm toLowercase first = true
  last : burst.events.getLast? = some burst.lastComm
  comm : isComm toLowercase burst.lastComm = true
  since : ∀ entry ∈ burst.since, isComm toLowercase entry = false
  tolerated : Tolerated toLowercase (burst.events ++ burst.since)

variable {burst : OpenBurst}

theorem OpenBurst.Valid.ne_nil (h : burst.Valid toLowercase) :
    burst.events ≠ [] := by
  intro hnil
  have := h.last
  rw [hnil] at this
  cases this

theorem valid_single {entry : Switch} (h : isComm toLowercase entry = true) :
    OpenBurst.Valid toLowercase ⟨[entry], entry, []⟩ :=
  ⟨⟨entry, rfl, h⟩, rfl, h, fun _ hmem => absurd hmem List.not_mem_nil, between_singleton entry⟩

/-- Communication is taken up again. -/
theorem OpenBurst.Valid.resume (hvalid : burst.Valid toLowercase) {entry : Switch}
    (h : isComm toLowercase entry = true) :
    OpenBurst.Valid toLowercase ⟨burst.events ++ burst.since ++ [entry], entry, []⟩ where
  head := by
    rw [List.append_assoc, List.head?_append_of_ne_nil _ hvalid.ne_nil]
    exact hvalid.head
  last := List.getLast?_concat
  comm := h
  since _ hmem := absurd hmem List.not_mem_nil
  tolerated := by
    rw [List.append_nil]
    refine between_concat_iff.mpr ⟨hvalid.tolerated, fun _ _ _ _ _ _ hother => ?_⟩
    rw [h] at hother
    cases hother

/-- Another app comes to the front, early enough. -/
theorem OpenBurst.Valid.interrupt (hvalid : burst.Valid toLowercase) {entry : Switch}
    (h : isComm toLowercase entry = false)
    (hgap : gapSecs entry burst.lastComm ≤ burstGapToleranceSecs) :
    OpenBurst.Valid toLowercase { burst with since := burst.since ++ [entry] } where
  head := hvalid.head
  last := hvalid.last
  comm := hvalid.comm
  since other hother := by
    rcases List.mem_append.mp hother with hold | hnew
    · exact hvalid.since other hold
    · rw [List.mem_singleton.mp hnew]
      exact h
  tolerated := by
    rw [← List.append_assoc]
    refine between_concat_iff.mpr ⟨hvalid.tolerated, fun front x between hsplit hbetween hx _ => ?_⟩
    -- the last communication is the one that is remembered
    obtain ⟨before, hbefore⟩ := List.getLast?_eq_some_iff.mp hvalid.last
    have heq : front ++ x :: between = before ++ burst.lastComm :: burst.since := by
      rw [← hsplit, hbefore, List.append_assoc, List.singleton_append]
    rw [last_marked_unique heq hx hvalid.comm hbetween hvalid.since]
    exact hgap

theorem OpenBurst.Valid.commEnds (hvalid : burst.Valid toLowercase) :
    CommEnds toLowercase burst.events :=
  ⟨hvalid.head, burst.lastComm, hvalid.last, hvalid.comm⟩

/-- What has been read since the burst was opened. -/
def pending : Option OpenBurst → List Switch
  | none => []
  | some burst => burst.events ++ burst.since

variable (toLowercase) in
/-- **One event**: the burst stays valid, and what is emitted is the burst that was open. -/
theorem burstStep_cases (burst : Option OpenBurst) (entry : Switch)
    (hvalid : ∀ current ∈ burst, current.Valid toLowercase) :
    (∃ next, burstStep toLowercase burst entry = (some next, []) ∧ next.Valid toLowercase ∧
      pending (some next) = pending burst ++ [entry]) ∨
    (burst = none ∧ burstStep toLowercase burst entry = (none, [])) ∨
    ∃ closed, burst = some closed ∧
      burstStep toLowercase burst entry = (none, emitBurst closed.events) := by
  unfold burstStep
  cases hcomm : isComm toLowercase entry with
  | true =>
    cases burst with
    | none => exact .inl ⟨_, rfl, valid_single hcomm, rfl⟩
    | some current =>
      refine .inl ⟨_, rfl, (hvalid current rfl).resume hcomm, ?_⟩
      exact List.append_nil _
  | false =>
    cases burst with
    | none => exact .inr (.inl ⟨rfl, rfl⟩)
    | some current =>
      by_cases hgap : burstGapToleranceSecs < gapSecs entry current.lastComm
      · exact .inr (.inr ⟨current, rfl, by simp [hgap]⟩)
      · refine .inl ⟨_, by simp only [hgap]; rfl, ?_, ?_⟩
        · exact (hvalid current rfl).interrupt hcomm (Int.not_lt.mp hgap)
        · exact (List.append_assoc _ _ _).symm

theorem burstLoop_cons (burst : Option OpenBurst) (entry : Switch) (rest : List Switch) :
    burstLoop toLowercase burst (entry :: rest) = (burstStep toLowercase burst entry).2 ++
      burstLoop toLowercase (burstStep toLowercase burst entry).1 rest := by
  cases burst <;> rfl

/-- **What is reported**: stretches of communication in order, long enough. -/
theorem reported_spec (burst : Option OpenBurst) (rest : List Switch)
    (hvalid : ∀ current ∈ burst, current.Valid toLowercase) :
    InOrder (burstLoop toLowercase burst rest) (pending burst ++ rest) ∧
      ∀ run ∈ burstLoop toLowercase burst rest,
        Spans run ∧ CommEnds toLowercase run ∧ Tolerated toLowercase run := by
  have hemit (closed : OpenBurst) (hclosed : closed.Valid toLowercase) (run : List Switch)
      (hrun : run ∈ emitBurst closed.events) :
      Spans run ∧ CommEnds toLowercase run ∧ Tolerated toLowercase run := by
    obtain ⟨rfl, hspans⟩ := mem_emitBurst hrun
    exact ⟨hspans, hclosed.commEnds, hclosed.tolerated.stretch (List.prefix_append _ _).isInfix⟩
  have hemitted (closed : OpenBurst) (bursts : List (List Switch)) (l : List Switch)
      (h : InOrder bursts l) :
      InOrder (emitBurst closed.events ++ bursts) (closed.events ++ l) := by
    by_cases hspans : Spans closed.events
    · rw [emitBurst_of_spans hspans]
      exact h.cons closed.events
    · have hnone : emitBurst closed.events = [] :=
        List.eq_nil_iff_forall_not_mem.mpr fun run hrun => by
          obtain ⟨rfl, hrunSpans⟩ := mem_emitBurst hrun
          exact hspans hrunSpans
      rw [hnone]
      exact h.append_left closed.events
  induction rest generalizing burst with
  | nil =>
    cases burst with
    | none => exact ⟨trivial, fun _ hmem => absurd hmem List.not_mem_nil⟩
    | some closed =>
      refine ⟨?_, hemit closed (hvalid closed rfl)⟩
      have h := hemitted closed [] (closed.since ++ []) trivial
      rwa [List.append_nil, ← List.append_assoc] at h
  | cons entry rest ih =>
    rw [burstLoop_cons]
    rcases burstStep_cases toLowercase burst entry hvalid with
      ⟨next, hstep, hnext, hpending⟩ | ⟨rfl, hstep⟩ | ⟨closed, rfl, hstep⟩
    · obtain ⟨horder, hruns⟩ := ih (some next) fun _ h => Option.some.inj h ▸ hnext
      rw [hpending, List.append_assoc] at horder
      rw [hstep]
      exact ⟨horder, hruns⟩
    · obtain ⟨horder, hruns⟩ := ih none (by simp)
      rw [hstep]
      exact ⟨horder.append_left [entry], hruns⟩
    · obtain ⟨horder, hruns⟩ := ih none (by simp)
      rw [hstep]
      refine ⟨?_, fun run hrun => ?_⟩
      · have h := hemitted closed _ _ (horder.append_left (closed.since ++ [entry]))
        simpa [pending] using h
      · rcases List.mem_append.mp hrun with hrun | hrun
        · exact hemit closed (hvalid closed rfl) run hrun
        · exact hruns run hrun

/-! ## What is found -/

/-- A stretch that begins with communication and ends the events since the burst was opened takes in
    the last communication. -/
theorem OpenBurst.Valid.suffix (hvalid : burst.Valid toLowercase) {done : List Switch}
    (hsuffix : done <:+ burst.events ++ burst.since)
    (hhead : ∃ first ∈ done.head?, isComm toLowercase first = true) :
    ∃ front, done = front ++ burst.lastComm :: burst.since := by
  obtain ⟨before, hbefore⟩ := List.getLast?_eq_some_iff.mp hvalid.last
  obtain ⟨left, hleft⟩ := hsuffix
  have heq : left ++ done = before ++ burst.lastComm :: burst.since := by
    rw [hleft, hbefore, List.append_assoc, List.singleton_append]
  rcases List.append_eq_append_iff.mp heq with ⟨middle, -, hdone⟩ | ⟨middle, -, hrest⟩
  · exact ⟨middle, hdone⟩
  · cases middle with
    | nil => exact ⟨[], hrest.symm⟩
    | cons x middle =>
      -- it would begin after the last communication
      obtain ⟨first, hfirst, hcomm⟩ := hhead
      have hmem : first ∈ burst.since := by
        rw [(List.cons.inj hrest).2]
        exact List.mem_append_right _ (List.mem_of_mem_head? hfirst)
      rw [hvalid.since first hmem] at hcomm
      cases hcomm

/-- What an open burst has is in what is emitted when it is closed. -/
theorem emitted_of_open (burst : OpenBurst) (hvalid : burst.Valid toLowercase)
    (rest : List Switch) : ∃ events, burst.events <+: events ∧
      events <+: pending (some burst) ++ rest ∧
        ∀ run ∈ emitBurst events, run ∈ burstLoop toLowercase (some burst) rest := by
  have hkept (l : List Switch) : burst.events <+: pending (some burst) ++ l := by
    rw [pending, List.append_assoc]
    exact List.prefix_append _ _
  induction rest generalizing burst with
  | nil => exact ⟨burst.events, List.prefix_rfl, hkept [], fun _ hrun => hrun⟩
  | cons entry rest ih =>
    rw [burstLoop_cons]
    unfold burstStep
    cases hcomm : isComm toLowercase entry with
    | true =>
      obtain ⟨events, hbegins, hof, hin⟩ := ih _ (hvalid.resume hcomm) (by simp [pending])
      refine ⟨events, List.IsPrefix.trans ?_ hbegins, ?_, hin⟩
      · rw [List.append_assoc]
        exact List.prefix_append _ _
      · simpa [pending] using hof
    | false =>
      by_cases hgap : burstGapToleranceSecs < gapSecs entry burst.lastComm
      · refine ⟨burst.events, List.prefix_rfl, hkept _, fun run hrun => ?_⟩
        simp only [hgap, Bool.false_eq_true, if_true, if_false]
        exact List.mem_append_left _ hrun
      · obtain ⟨events, hbegins, hof, hin⟩ :=
          ih _ (hvalid.interrupt hcomm (Int.not_lt.mp hgap)) (by simp [pending])
        refine ⟨events, hbegins, by simpa [pending] using hof, fun run hrun => ?_⟩
        simp only [hgap, Bool.false_eq_true, if_false]
        exact hin run hrun

/-- **A tolerated stretch** stays in the burst that is open when it begins. -/
theorem emitted_of_tolerated (burst : OpenBurst) (hvalid : burst.Valid toLowercase)
    {done : List Switch} (hsuffix : done <:+ pending (some burst)) (todo : List Switch)
    (hends : CommEnds toLowercase (done ++ todo))
    (htolerated : Tolerated toLowercase (done ++ todo))
    (hhead : ∃ first ∈ done.head?, isComm toLowercase first = true) (rest : List Switch) :
    ∃ events, (done ++ todo) <:+: events ∧ events <+: pending (some burst) ++ (todo ++ rest) ∧
      ∀ run ∈ emitBurst events, run ∈ burstLoop toLowercase (some burst) (todo ++ rest) := by
  induction todo generalizing burst done with
  | nil =>
    rw [List.append_nil] at hends ⊢
    obtain ⟨front, hdone⟩ := hvalid.suffix hsuffix hhead
    -- it ends with communication, so nothing has come since
    have hsince : burst.since = [] := by
      rcases List.eq_nil_or_concat burst.since with hnil | ⟨since, other, hsince⟩
      · exact hnil
      · obtain ⟨last, hlast, hcomm⟩ := hends.2
        rw [hdone, hsince, List.concat_eq_append, ← List.cons_append, ← List.append_assoc,
          List.getLast?_concat] at hlast
        have hother := hvalid.since other (by simp [hsince])
        rw [Option.some.inj hlast, hcomm] at hother
        cases hother
    rw [pending, hsince, List.append_nil] at hsuffix
    obtain ⟨events, hbegins, hof, hin⟩ := emitted_of_open burst hvalid rest
    exact ⟨events, hsuffix.isInfix.trans hbegins.isInfix, hof, hin⟩
  | cons entry todo ih =>
    have hheadMore : ∃ first ∈ (done ++ [entry]).head?, isComm toLowercase first = true := by
      obtain ⟨first, hfirst, hcomm⟩ := hhead
      exact ⟨first, List.mem_head?_append_of_mem_head? hfirst, hcomm⟩
    have hgoes (hcomm : isComm toLowercase entry = false) :
        gapSecs entry burst.lastComm ≤ burstGapToleranceSecs := by
      obtain ⟨front, hdone⟩ := hvalid.suffix hsuffix hhead
      refine htolerated front burst.lastComm burst.since entry todo ?_ hvalid.since hvalid.comm
        hcomm
      rw [hdone, List.append_assoc, List.cons_append]
    have hmore : done ++ [entry] <:+ pending (some burst) ++ [entry] :=
      List.suffix_append_self_iff.mpr hsuffix
    rw [List.append_cons] at hends htolerated ⊢
    rw [List.cons_append, burstLoop_cons, List.append_cons (pending (some burst))]
    unfold burstStep
    cases hcomm : isComm toLowercase entry with
    | true =>
      obtain ⟨events, hstretch, hof, hin⟩ := ih _ (hvalid.resume hcomm)
        (by rw [pending, List.append_nil]; exact hmore) hends htolerated hheadMore
      exact ⟨events, hstretch, by simpa [pending] using hof, hin⟩
    | false =>
      obtain ⟨events, hstretch, hof, hin⟩ := ih _ (hvalid.interrupt hcomm (hgoes hcomm))
        (by rw [pending, ← List.append_assoc]; exact hmore) hends htolerated hheadMore
      refine ⟨events, hstretch, by simpa [pending] using hof, fun run hrun => ?_⟩
      simp only [Int.not_lt.mpr (hgoes hcomm), Bool.false_eq_true, if_false]
      exact hin run hrun

/-- The same from any point of the events. -/
theorem emitted_of_infix (burst : Option OpenBurst)
    (hvalid : ∀ current ∈ burst, current.Valid toLowercase) (before : List Switch)
    {run : List Switch} (hends : CommEnds toLowercase run) (htolerated : Tolerated toLowercase run)
    (after : List Switch) :
    ∃ events, run <:+: events ∧ events <:+: pending burst ++ (before ++ (run ++ after)) ∧
      ∀ emitted ∈ emitBurst events,
        emitted ∈ burstLoop toLowercase burst (before ++ (run ++ after)) := by
  induction before generalizing burst with
  | nil =>
    obtain ⟨first, hfirst, hcomm⟩ := hends.1
    obtain ⟨tail, rfl⟩ : ∃ tail, run = first :: tail := List.head?_eq_some_iff.mp hfirst
    rw [List.nil_append, List.cons_append, burstLoop_cons]
    rcases burstStep_cases toLowercase burst first hvalid with
      ⟨next, hstep, hnext, hpending⟩ | ⟨rfl, hstep⟩ | ⟨closed, rfl, hstep⟩
    · obtain ⟨events, hstretch, hof, hin⟩ := @emitted_of_tolerated toLowercase next
        hnext [first] (by rw [hpending]; exact List.suffix_append _ _) tail hends htolerated
        ⟨first, rfl, hcomm⟩ after
      rw [hpending, List.append_assoc] at hof
      rw [hstep]
      exact ⟨events, hstretch, hof.isInfix, hin⟩
    · simp [burstStep, hcomm] at hstep
    · simp [burstStep, hcomm] at hstep
  | cons entry before ih =>
    rw [List.cons_append, burstLoop_cons]
    rcases burstStep_cases toLowercase burst entry hvalid with
      ⟨next, hstep, hnext, hpending⟩ | ⟨rfl, hstep⟩ | ⟨closed, rfl, hstep⟩
    · obtain ⟨events, hstretch, hof, hin⟩ := ih (some next) fun _ h => Option.some.inj h ▸ hnext
      rw [hpending, List.append_assoc] at hof
      rw [hstep]
      exact ⟨events, hstretch, hof, hin⟩
    · obtain ⟨events, hstretch, hof, hin⟩ := ih none (by simp)
      rw [hstep]
      exact ⟨events, hstretch, hof.trans (List.suffix_cons entry _).isInfix, hin⟩
    · obtain ⟨events, hstretch, hof, hin⟩ := ih none (by simp)
      rw [hstep]
      refine ⟨events, hstretch, hof.trans ?_, fun emitted h => List.mem_append_right _ (hin _ h)⟩
      rw [List.append_cons]
      exact (List.suffix_append _ _).isInfix

/-- Fewer than two events do not last. -/
theorem not_spans_of_short {run switches : List Switch} (hshort : switches.length < 2)
    (h : run <:+: switches) : ¬ Spans run := by
  rintro ⟨first, last, hfirst, hlast, hspan⟩
  rcases run with _ | ⟨start, _ | ⟨next, rest⟩⟩
  · cases hfirst
  · obtain rfl : start = first := Option.some.inj hfirst
    obtain rfl : start = last := Option.some.inj hlast
    rw [second] at hspan
    omega
  · have := h.length_le
    simp only [List.length_cons] at this
    omega

/-- A longer stretch spans what a shorter one does. -/
theorem Spans.widen {run events : List Switch} (hchron : Chronological events)
    (h : run <:+: events) (hspans : Spans run) : Spans events := by
  obtain ⟨first, last, hfirst, hlast, hspan⟩ := hspans
  have hne : events ≠ [] := List.ne_nil_of_mem (h.subset (List.mem_of_mem_head? hfirst))
  have hstart := List.head?_eq_some_head hne
  have hfinish := List.getLast?_eq_some_getLast hne
  obtain ⟨hbefore, hafter⟩ := hchron.infix_within h hfirst hlast hstart hfinish
  exact ⟨_, _, hstart, hfinish, by omega⟩

variable (toLowercase) in
/-- **When bursts respect the tolerance.**  Of events in the order of time the reported bursts are
    disjoint and in order, span five minutes or more and have no other apps in front for more than
    half a minute, if and only if communication is taken up again within half a minute of every
    other app, in all stretches of five minutes or more that begin and end with communication and in
    which no event of another app comes more than half a minute, in whole seconds, after the last
    communication. -/
theorem bursts_sound_iff (switches : List Switch) (hchron : Chronological switches) :
    (InOrder (communicationBursts toLowercase switches) switches ∧
      ∀ burst ∈ communicationBursts toLowercase switches,
        Spans burst ∧ NoLongGap toLowercase burst) ↔
      ∀ run, run <:+: switches → CommEnds toLowercase run → Tolerated toLowercase run →
        Spans run → NoLongGap toLowercase run := by
  unfold communicationBursts
  split
  · next hshort =>
    constructor
    · intro _ run hrun _ _ hspans
      exact absurd hspans (not_spans_of_short hshort hrun)
    · exact fun _ => ⟨trivial, fun _ hmem => absurd hmem List.not_mem_nil⟩
  · obtain ⟨horder, hreported⟩ := @reported_spec toLowercase none switches (by simp)
    constructor
    · rintro ⟨-, hsound⟩ run ⟨before, after, rfl⟩ hends htolerated hspans
      obtain ⟨events, hstretch, hof, hin⟩ :=
        emitted_of_infix none (by simp) before hends htolerated after
      rw [List.append_assoc] at hsound hchron
      -- the burst that takes the stretch in is long enough
      have heventsSpan : Spans events :=
        hspans.widen (List.Pairwise.sublist hof.sublist hchron) hstretch
      have hemitted : events ∈ emitBurst events := by
        rw [emitBurst_of_spans heventsSpan]
        exact List.mem_singleton_self events
      exact (hsound events (hin events hemitted)).2.stretch hstretch
    · intro hcond
      refine ⟨horder, fun burst hburst => ?_⟩
      obtain ⟨hspans, hends, htolerated⟩ := hreported burst hburst
      exact ⟨hspans, hcond burst (horder.stretch burst hburst) hends htolerated hspans⟩

end

/-- Ten minutes of Slack, with ten seconds of Finder. -/
def slackAndFinder : List Switch :=
  [⟨0, "slack"⟩, ⟨10 * second, "finder"⟩, ⟨20 * second, "slack"⟩, ⟨600 * second, "slack"⟩]

theorem bursts_sound_slackAndFinder :
    (InOrder (communicationBursts id slackAndFinder) slackAndFinder ∧
      ∀ burst ∈ communicationBursts id slackAndFinder, Spans burst ∧ NoLongGap id burst) ↔
      ∀ run, run <:+: slackAndFinder → CommEnds id run → Tolerated id run →
        Spans run → NoLongGap id run :=
  bursts_sound_iff id slackAndFinder (by decide)

/-- Finder is in front for a minute and a half. -/
def slackLongAfterFinder : List Switch :=
  [⟨0, "slack"⟩, ⟨10 * second, "finder"⟩, ⟨100 * second, "slack"⟩, ⟨400 * second, "slack"⟩]

/-- Nothing is looked at when Slack is taken up again. -/
theorem a_long_gap_is_reported :
    ¬ ∀ (toLowercase : String → String) (switches : List Switch), Chronological switches →
      InOrder (communicationBursts toLowercase switches) switches ∧
        ∀ burst ∈ communicationBursts toLowercase switches,
          Spans burst ∧ NoLongGap toLowercase burst := by
  intro hall
  obtain ⟨-, hsound⟩ := hall id slackLongAfterFinder (by decide)
  have hburst : slackLongAfterFinder ∈ communicationBursts id slackLongAfterFinder := by
    decide +kernel
  have hgap := (hsound _ hburst).2 [⟨0, "slack"⟩] ⟨10 * second, "finder"⟩ []
    ⟨100 * second, "slack"⟩ [⟨400 * second, "slack"⟩] rfl (fun _ h => absurd h List.not_mem_nil)
    (by decide +kernel) (by decide +kernel)
  revert hgap
  decide

end Oneshim.Analysis
