/-
  The two loops that read the input counters (`scheduler/loops/monitor.rs`, `loops/events.rs`).

  The monitor loop and the event loop share one collector.  Each takes snapshots at its own period,
  and a snapshot resets the counters: what the monitor loop reads goes to the analysis and the GUI
  pipelines, and only what is left for the event loop is stored as an input event.

  1. **Code** — the calls that record and the two loops, interleaved between any two operations.

  2. **One counter** (`View`, `Effect`) — what a turn does to a single counter.  The inputs in stored
     events, in the snapshot under way and in the counter are distinct and in order, always
     (`counted_at_most_once`).

  3. **All inputs** (`inputs_counted`) — none is missing as long as the monitor loop finds the
     counters at zero, every event is stored and no counter overflows.
-/
import Mathlib.Data.List.Nodup
import Oneshim.Lib.Calls
import Oneshim.Monitor.InputActivity

namespace Oneshim.InputActivity

/-! ## The loops -/

/-- The collector, the calls and snapshots under way, the stored events, and how many inputs the last
    snapshot of the event loop was preceded by. -/
structure World where
  collector : InputActivityCollector
  recording : List (List Op)
  monitor : Option Taking
  events : Option Taking
  saved : List InputActivityEvent
  seen : Counter → Nat

/-- When the scheduler starts. -/
def World.new (now : Int) : World where
  collector := .new now
  recording := []
  monitor := none
  events := none
  saved := []
  seen := fun _ => 0

/-- What can happen next. -/
inductive Turn where
  | setCurrentApp (appName : String)
  | takeRecentShortcuts
  /-- A call begins. -/
  | record (call : Call)
  /-- A call does its next operation. -/
  | recordTurn (index nowMs : Nat)
  /-- The monitor loop begins a snapshot, or goes on with it. -/
  | monitorTick (now : Int)
  | monitorTurn
  /-- A tick of the event loop, and whether the capture gate is open. -/
  | eventTick (permitted : Bool) (now : Int)
  /-- It goes on; whether an event that has to be stored can be. -/
  | eventTurn (saves : Bool)

/-- The end of a snapshot of the event loop. -/
def World.finish (world : World) (saves : Bool) (event : InputActivityEvent) : World :=
  { world with
    events := none
    saved := if event.HasInput ∧ saves then world.saved ++ [event] else world.saved
    seen := event.before }

/-- One turn. -/
def turn (world : World) : Turn → World
  | .setCurrentApp appName => { world with collector := world.collector.setCurrentApp appName }
  | .takeRecentShortcuts => { world with collector := world.collector.takeRecentShortcuts.2 }
  | .record call => { world with recording := world.recording ++ [call.ops] }
  | .recordTurn index nowMs =>
    match world.recording[index]? with
    | some (op :: ops) =>
      let (collector, more) := world.collector.exec nowMs op
      { world with collector, recording := world.recording.set index (ops ++ more) }
    | _ => world
  | .monitorTick now =>
    if world.monitor.isSome then world else { world with monitor := some (.begin now) }
  | .monitorTurn =>
    match world.monitor with
    | some ⟨reading :: todo, event⟩ =>
      let (collector, event) := world.collector.read event reading
      { world with collector, monitor := some ⟨todo, event⟩ }
    | _ => { world with monitor := none }
  | .eventTick permitted now =>
    if world.events.isSome || !permitted then world
    else { world with events := some (.begin now) }
  | .eventTurn saves =>
    match world.events with
    | some ⟨reading :: todo, event⟩ =>
      let (collector, event) := world.collector.read event reading
      { world with collector, events := some ⟨todo, event⟩ }
    | some ⟨[], event⟩ => world.finish saves event
    | none => world

/-- The counters of keystrokes, clicks and scrolls. -/
def inputCounters : List Counter := [.clicks, .keystrokes, .scrolls]

/-- What the statement asks of a turn: the monitor loop finds the counter at zero, an event with input
    is stored, and the counter does not overflow. -/
def Meets (world : World) : Turn → Prop
  | .recordTurn index _ =>
    match world.recording[index]? with
    | some (.add counter count :: _) =>
      counter ∈ inputCounters → (world.collector.counter counter).value + count < 2 ^ 32
    | _ => True
  | .monitorTurn =>
    match world.monitor with
    | some ⟨.swap counter :: _, _⟩ =>
      counter ∈ inputCounters → (world.collector.counter counter).value = 0
    | _ => True
  | .eventTurn saves =>
    match world.events with
    | some ⟨[], event⟩ => event.HasInput → saves = true
    | _ => True
  | _ => True

instance : ∀ world t, Decidable (Meets world t)
  | _, .setCurrentApp _ => .isTrue trivial
  | _, .takeRecentShortcuts => .isTrue trivial
  | _, .record _ => .isTrue trivial
  | _, .recordTurn _ _ => by unfold Meets; dsimp only; split <;> infer_instance
  | _, .monitorTick _ => .isTrue trivial
  | _, .monitorTurn => by unfold Meets; dsimp only; split <;> infer_instance
  | _, .eventTick _ _ => .isTrue trivial
  | _, .eventTurn _ => by unfold Meets; dsimp only; split <;> infer_instance

/-- The inputs that stored events have counted on a counter. -/
def World.counted (world : World) (counter : Counter) : List Nat :=
  world.saved.flatMap fun event => (event.count counter).inputs

/-! ## One counter -/

/-- What the world says about one counter: the stored counts, what the snapshot of the event loop has
    read and how many inputs there were then, the counter itself, and two tallies. -/
structure View where
  saved : List Cell
  taken : Option (Cell × Nat)
  cell : Cell
  recorded : Nat
  seen : Nat

/-- A counter that the snapshot has not read yet, or no snapshot under way. -/
def takenOf (counter : Counter) : Option Taking → Option (Cell × Nat)
  | none => none
  | some taking =>
    if .swap counter ∈ taking.todo then none
    else some (taking.event.count counter, taking.event.before counter)

/-- The view of a counter. -/
def World.view (counter : Counter) (world : World) : View where
  saved := world.saved.map (·.count counter)
  taken := takenOf counter world.events
  cell := world.collector.counter counter
  recorded := world.collector.recorded counter
  seen := world.seen counter

/-- **What a turn can do to a counter**, and what is known of it when the turn meets the condition. -/
inductive Effect (meets : Prop) (v : View) : View → Prop where
  | stay : Effect meets v v
  | add (count : Nat) (h : meets → v.cell.value + count < 2 ^ 32) :
    Effect meets v
      { v with cell := v.cell.fetchAdd v.recorded count, recorded := v.recorded + count }
  /-- The monitor loop reads it. -/
  | drain (h : meets → v.cell.value = 0) : Effect meets v { v with cell := .empty }
  /-- The event loop reads it. -/
  | take (h : v.taken = none) :
    Effect meets v { v with taken := some (v.cell, v.recorded), cell := .empty }
  | save (cell : Cell) (before : Nat) (h : v.taken = some (cell, before)) :
    Effect meets v { v with saved := v.saved ++ [cell], taken := none, seen := before }
  | lose (cell : Cell) (before : Nat) (h : v.taken = some (cell, before))
    (hzero : meets → cell.value = 0) :
    Effect meets v { v with taken := none, seen := before }

/-- The snapshot of the event loop reads no counter twice. -/
def ReadOnce (world : World) : Prop := ∀ taking ∈ world.events, taking.todo.Nodup

theorem readings_nodup : readings.Nodup := by decide

theorem swap_mem_readings (counter : Counter) : .swap counter ∈ readings := by
  cases counter <;> decide

theorem takenOf_begin (counter : Counter) (now : Int) :
    takenOf counter (some (.begin now)) = none :=
  if_pos (swap_mem_readings counter)

/-- What an operation of a call does to a counter. -/
theorem exec_counter (collector : InputActivityCollector) (nowMs : Nat) (op : Op)
    (counter : Counter) :
    ((collector.exec nowMs op).1.counter counter = collector.counter counter ∧
        (collector.exec nowMs op).1.recorded counter = collector.recorded counter) ∨
      ∃ count, op = .add counter count ∧
        (collector.exec nowMs op).1.counter counter =
          (collector.counter counter).fetchAdd (collector.recorded counter) count ∧
        (collector.exec nowMs op).1.recorded counter = collector.recorded counter + count := by
  cases op with
  | add other count =>
    by_cases heq : counter = other
    · subst heq
      exact .inr ⟨count, rfl, by simp [InputActivityCollector.exec]⟩
    · exact .inl (by simp [InputActivityCollector.exec, Function.update_of_ne heq])
  | _ => exact .inl ⟨rfl, rfl⟩

theorem read_recorded (collector : InputActivityCollector) (event : InputActivityEvent)
    (reading : Reading) : (collector.read event reading).1.recorded = collector.recorded := by
  cases reading <;> rfl

variable {counter : Counter}

theorem read_other {collector : InputActivityCollector} {event : InputActivityEvent}
    {reading : Reading} (h : reading ≠ .swap counter) :
    (collector.read event reading).1.counter counter = collector.counter counter ∧
      (collector.read event reading).2.count counter = event.count counter ∧
      (collector.read event reading).2.before counter = event.before counter := by
  cases reading with
  | period => exact ⟨rfl, rfl, rfl⟩
  | app => exact ⟨rfl, rfl, rfl⟩
  | swap other =>
    have hne : counter ≠ other := fun heq => h (heq ▸ rfl)
    simp [InputActivityCollector.read, Function.update_of_ne hne]
  | swapX => exact ⟨rfl, rfl, rfl⟩
  | swapY => exact ⟨rfl, rfl, rfl⟩

/-- A turn of a recorder adds to the counter of its input. -/
theorem effect_recordTurn {world : World} (hinput : counter ∈ inputCounters) (index nowMs : Nat) :
    Effect (Meets world (.recordTurn index nowMs)) (world.view counter)
      ((turn world (.recordTurn index nowMs)).view counter) := by
  simp only [turn]
  rcases hcall : world.recording[index]? with _ | _ | ⟨op, ops⟩
  · exact .stay
  · exact .stay
  · rcases exec_counter world.collector nowMs op counter with
      ⟨hcell, hrecorded⟩ | ⟨count, rfl, hcell, hrecorded⟩
    · simp only [World.view, hcell, hrecorded]
      exact .stay
    · simp only [World.view, hcell, hrecorded]
      refine .add count fun hmeets => ?_
      simp only [Meets, hcall] at hmeets
      exact hmeets hinput

/-- A turn of the monitor loop drains the counter it reads, or leaves it. -/
theorem effect_monitorTurn {world : World} (hinput : counter ∈ inputCounters) :
    Effect (Meets world .monitorTurn) (world.view counter)
      ((turn world .monitorTurn).view counter) := by
  simp only [turn]
  rcases htaking : world.monitor with _ | ⟨_ | ⟨reading, todo⟩, event⟩
  · exact .stay
  · exact .stay
  · by_cases heq : reading = .swap counter
    · subst heq
      have h : Effect (Meets world .monitorTurn) (world.view counter)
          { world.view counter with cell := .empty } := by
        refine .drain fun hmeets => ?_
        simp only [Meets, htaking] at hmeets
        exact hmeets hinput
      simpa [World.view, InputActivityCollector.read] using h
    · simp only [World.view, read_other heq, read_recorded]
      exact .stay

/-- **A turn of the event loop**, as one counter sees it. -/
theorem effect_eventTurn {world : World} (hread : ReadOnce world) (hinput : counter ∈ inputCounters)
    (saves : Bool) :
    Effect (Meets world (.eventTurn saves)) (world.view counter)
      ((turn world (.eventTurn saves)).view counter) := by
  simp only [turn]
  rcases htaking : world.events with _ | ⟨_ | ⟨reading, todo⟩, event⟩
  · exact .stay
  · have htaken : (world.view counter).taken =
        some (event.count counter, event.before counter) := by
      simp [World.view, htaking, takenOf]
    by_cases hsaved : event.HasInput ∧ saves = true
    · have h : Effect (Meets world (.eventTurn saves)) _ _ := .save _ _ htaken
      simpa [World.view, World.finish, hsaved, takenOf] using h
    · have h : Effect (Meets world (.eventTurn saves)) _ _ := .lose _ _ htaken fun hmeets => by
        simp only [Meets, htaking] at hmeets
        have hnone : ¬ event.HasInput := fun h => hsaved ⟨h, hmeets h⟩
        simp only [InputActivityEvent.HasInput, not_or, Nat.not_lt, Nat.le_zero] at hnone
        simp only [inputCounters, List.mem_cons, List.not_mem_nil, or_false] at hinput
        rcases hinput with rfl | rfl | rfl
        · exact hnone.1
        · exact hnone.2.1
        · exact hnone.2.2
      simpa [World.view, World.finish, hsaved, takenOf] using h
  · have hnodup := List.nodup_cons.mp (hread _ htaking)
    by_cases heq : reading = .swap counter
    · subst heq
      have htaken : (world.view counter).taken = none := by
        simp [World.view, htaking, takenOf]
      have h : Effect (Meets world (.eventTurn saves)) _ _ := .take htaken
      simpa [World.view, InputActivityCollector.read, takenOf, hnodup.1] using h
    · have hsame : takenOf counter (some ⟨todo, (world.collector.read event reading).2⟩) =
          takenOf counter world.events := by
        simp [takenOf, htaking, read_other heq, Ne.symm heq]
      simp only [World.view, read_other heq, read_recorded, hsame]
      exact .stay

/-- **Every turn has one of the effects.** -/
theorem effect_turn {world : World} (hread : ReadOnce world) (hinput : counter ∈ inputCounters)
    (t : Turn) :
    Effect (Meets world t) (world.view counter) ((turn world t).view counter) := by
  cases t with
  | setCurrentApp appName => exact .stay
  | takeRecentShortcuts => exact .stay
  | record call => exact .stay
  | recordTurn index nowMs => exact effect_recordTurn hinput index nowMs
  | monitorTick now =>
    simp only [turn]
    split
    · exact .stay
    · exact .stay
  | monitorTurn => exact effect_monitorTurn hinput
  | eventTick permitted now =>
    simp only [turn]
    split
    · exact .stay
    · next hstart =>
      have hnone : world.events = none := by
        cases h : world.events with
        | none => rfl
        | some taking => simp [h] at hstart
      simp only [World.view, takenOf_begin, hnone]
      exact .stay
  | eventTurn saves => exact effect_eventTurn hread hinput saves

/-- No turn makes a snapshot read a counter again. -/
theorem readOnce_turn {world : World} (h : ReadOnce world) (t : Turn) :
    ReadOnce (turn world t) := by
  cases t with
  | setCurrentApp appName => exact h
  | takeRecentShortcuts => exact h
  | record call => exact h
  | recordTurn index nowMs =>
    simp only [turn]
    split
    · exact h
    · exact h
  | monitorTick now =>
    simp only [turn]
    split
    · exact h
    · exact h
  | monitorTurn =>
    simp only [turn]
    split
    · exact h
    · exact h
  | eventTick permitted now =>
    simp only [turn]
    split
    · exact h
    · intro taking htaking
      cases htaking
      exact readings_nodup
  | eventTurn saves =>
    simp only [turn]
    split
    · next hsome =>
      intro taking htaking
      cases htaking
      exact (List.nodup_cons.mp (h _ hsome)).2
    · intro taking htaking
      cases htaking
    · exact h

/-! ## Counting -/

namespace View

/-- The inputs in stored events. -/
def counted (v : View) : List Nat := v.saved.flatMap (·.inputs)

/-- The inputs that the snapshot of the event loop has read. -/
def reading (v : View) : List Nat := v.taken.elim [] (·.1.inputs)

/-- All the inputs that a stored event counts or may still count. -/
def flow (v : View) : List Nat := v.counted ++ v.reading ++ v.cell.inputs

/-- When every input is accounted for: stored events count those before the last snapshot, the
    snapshot under way goes on from there, and no value has overflowed. -/
structure Whole (v : View) : Prop where
  flow : v.flow = List.range v.recorded
  counted : v.counted = List.range v.seen
  taken : ∀ cell before, v.taken = some (cell, before) → v.counted ++ cell.inputs = List.range before
  savedValue : ∀ cell ∈ v.saved, cell.value = cell.inputs.length
  takenValue : ∀ cell before, v.taken = some (cell, before) → cell.value = cell.inputs.length
  value : v.cell.value = v.cell.inputs.length

end View

theorem range_add (first count : Nat) :
    List.range first ++ List.range' first count = List.range (first + count) := by
  rw [List.range_eq_range', List.range_eq_range', ← List.range'_append_1, Nat.zero_add]

/-- **No effect repeats an input, or puts it out of order.** -/
theorem Effect.sublist {meets : Prop} {v v' : View} (h : Effect meets v v')
    (hflow : v.flow.Sublist (List.range v.recorded)) :
    v'.flow.Sublist (List.range v'.recorded) := by
  cases h with
  | stay => exact hflow
  | add count _ =>
    rw [← range_add]
    simpa [View.flow, View.counted, View.reading, Cell.fetchAdd] using
      hflow.append (List.Sublist.refl (List.range' v.recorded count))
  | drain _ =>
    refine List.Sublist.trans ?_ hflow
    simp [View.flow, View.counted, View.reading, Cell.empty]
  | take h => simpa [View.flow, View.counted, View.reading, Cell.empty, h] using hflow
  | save cell before h => simpa [View.flow, View.counted, View.reading, h] using hflow
  | lose cell before h _ =>
    refine List.Sublist.trans ?_ hflow
    simp [View.flow, View.counted, View.reading, h]

/-- **An effect of a turn that meets the condition loses nothing.** -/
theorem Effect.whole {v v' : View} (h : Effect True v v') (hv : v.Whole) : v'.Whole := by
  cases h with
  | stay => exact hv
  | add count hfits =>
    refine ⟨?_, hv.counted, hv.taken, hv.savedValue, hv.takenValue, ?_⟩
    · rw [← range_add, ← hv.flow]
      simp [View.flow, View.counted, View.reading, Cell.fetchAdd]
    · simp only [Cell.fetchAdd, if_pos (hfits trivial), List.length_append, List.length_range']
      rw [hv.value]
  | drain hzero =>
    have hnil : v.cell.inputs = [] := List.length_eq_zero_iff.mp (hv.value ▸ hzero trivial)
    refine ⟨?_, hv.counted, hv.taken, hv.savedValue, hv.takenValue, rfl⟩
    rw [← hv.flow]
    simp [View.flow, View.counted, View.reading, Cell.empty, hnil]
  | take h =>
    have hflow := hv.flow
    refine ⟨?_, hv.counted, ?_, hv.savedValue, ?_, rfl⟩
    · simpa [View.flow, View.counted, View.reading, Cell.empty, h] using hflow
    · rintro cell before ⟨⟩
      simpa [View.flow, View.counted, View.reading, h] using hflow
    · rintro cell before ⟨⟩
      exact hv.value
  | save cell before h =>
    have hflow := hv.flow
    refine ⟨?_, ?_, fun _ _ h => (by cases h), ?_, fun _ _ h => (by cases h), hv.value⟩
    · simpa [View.flow, View.counted, View.reading, h] using hflow
    · simpa [View.counted] using hv.taken cell before h
    · intro other hother
      rcases List.mem_append.mp hother with hother | hother
      · exact hv.savedValue other hother
      · exact List.mem_singleton.mp hother ▸ hv.takenValue cell before h
  | lose cell before h hzero =>
    have hnil : cell.inputs = [] :=
      List.length_eq_zero_iff.mp (hv.takenValue cell before h ▸ hzero trivial)
    have hflow := hv.flow
    refine ⟨?_, ?_, fun _ _ h => (by cases h), hv.savedValue, fun _ _ h => (by cases h), hv.value⟩
    · simpa [View.flow, View.counted, View.reading, h, hnil] using hflow
    · simpa [View.counted, hnil] using hv.taken cell before h

theorem counted_view (counter : Counter) (world : World) :
    (world.view counter).counted = world.counted counter := by
  simp [View.counted, World.view, World.counted, List.flatMap_map]

/-- **No input is counted twice**, in any run. -/
theorem counted_at_most_once (now : Int) (turns : List Turn) {counter : Counter}
    (hinput : counter ∈ inputCounters) :
    ∀ world ∈ Lib.states turn (.new now) turns, ∀ input,
      (world.counted counter).count input ≤ 1 := by
  have hinv : ∀ world ∈ Lib.states turn (.new now) turns, ReadOnce world ∧
      (world.view counter).flow.Sublist (List.range (world.view counter).recorded) :=
    Lib.states_always
      (fun world t h => ⟨readOnce_turn h.1 t, (effect_turn h.1 hinput t).sublist h.2⟩)
      ⟨fun _ h => (by cases h), .slnil⟩
  intro world hworld input
  obtain ⟨_, hflow⟩ := hinv world hworld
  have hcounted : (world.counted counter).Sublist (List.range (world.view counter).recorded) := by
    rw [← counted_view]
    exact (List.sublist_append_left _ _).trans ((List.sublist_append_left _ _).trans hflow)
  exact List.nodup_iff_count_le_one.mp (List.nodup_range.sublist hcounted) input

/-- **Every input is counted once.**  In a run in which the monitor loop finds the counters of clicks,
    keystrokes and scrolls at zero, every event with input is stored and no such counter overflows,
    each input that the last snapshot of the event loop was preceded by is in exactly one stored
    event, once, and the number in an event is that of its inputs. -/
theorem inputs_counted (now : Int) (turns : List Turn) (h : Lib.Along turn Meets (.new now) turns) :
    ∀ world ∈ Lib.states turn (.new now) turns, ∀ counter ∈ inputCounters,
      (∀ input < world.seen counter, (world.counted counter).count input = 1) ∧
        ∀ event ∈ world.saved,
          (event.count counter).value = (event.count counter).inputs.length := by
  intro world hworld counter hinput
  have hinv : ∀ world ∈ Lib.states turn (.new now) turns,
      ReadOnce world ∧ (world.view counter).Whole :=
    Lib.states_invariant (fun world t h hmeets => ⟨readOnce_turn h.1 t, by
      have heffect := effect_turn h.1 hinput t
      rw [eq_true hmeets] at heffect
      exact heffect.whole h.2⟩)
    ⟨fun _ h => (by cases h), ⟨rfl, rfl, fun _ _ h => (by cases h), fun _ h => (by cases h),
      fun _ _ h => (by cases h), rfl⟩⟩ h
  obtain ⟨_, hwhole⟩ := hinv world hworld
  refine ⟨fun input hlt => ?_, fun event hevent => ?_⟩
  · rw [← counted_view, hwhole.counted]
    exact List.count_eq_one_of_mem List.nodup_range (List.mem_range.mpr hlt)
  · exact hwhole.savedValue _ (List.mem_map_of_mem hevent)

/-- A snapshot of the monitor loop, without anything in between. -/
def monitorSnapshot (now : Int) : List Turn :=
  .monitorTick now :: List.replicate (readings.length + 1) .monitorTurn

/-- A snapshot of the event loop, without anything in between. -/
def eventSnapshot (now : Int) : List Turn :=
  .eventTick true now :: List.replicate (readings.length + 1) (.eventTurn true)

/-- A click that the event loop reads first, and a key during its snapshot. -/
def clickAndKey : List Turn :=
  [.record .click, .recordTurn 0 5] ++ (eventSnapshot 10).take 4 ++
    [.record (.keystroke false false), .recordTurn 1 7] ++ (eventSnapshot 10).drop 4 ++
    monitorSnapshot 20

theorem inputs_counted_click :
    let world := clickAndKey.foldl turn (.new 0)
    (∀ input < world.seen .clicks, (world.counted .clicks).count input = 1) ∧
      ∀ event ∈ world.saved, (event.count .clicks).value = (event.count .clicks).inputs.length :=
  inputs_counted 0 clickAndKey (by decide +kernel) _ (Lib.foldl_mem_states _ _) .clicks (by decide)

theorem counted_at_most_once_click :
    ((clickAndKey.foldl turn (.new 0)).counted .clicks).count 0 ≤ 1 :=
  counted_at_most_once 0 clickAndKey (by decide) _ (Lib.foldl_mem_states _ _) 0

/-- A click that the monitor loop reads first. -/
def clickForMonitor : List Turn :=
  [.record .click, .recordTurn 0 5] ++ monitorSnapshot 10 ++ eventSnapshot 20

/-- **A click that the monitor loop reads is lost.**  It precedes the snapshot of the event loop, and
    no stored event counts it. -/
theorem click_lost :
    let world := clickForMonitor.foldl turn (.new 0)
    0 < world.seen .clicks ∧ world.saved.length = 0 ∧
      ¬ ∀ counter ∈ inputCounters, ∀ input < world.seen counter,
        (world.counted counter).count input = 1 := by
  decide +kernel

end Oneshim.InputActivity
