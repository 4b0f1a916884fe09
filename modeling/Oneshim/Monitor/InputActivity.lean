/-
  Input activity (`oneshim-monitor/src/input_activity.rs`).

  The input hooks count clicks, scrolls and keystrokes in atomic counters; a snapshot reads every
  counter and resets it.  There is no lock over all of them: each operation below is atomic on its
  own, and calls run interleaved between any two.

  1. **Recording** (`Call.ops`) — the operations of each `record_*` function, in order.

  2. **Snapshots** (`readings`, `read`) — the operations of `take_snapshot`, in order.

  A counter also carries the numbers of the inputs that it has counted since it was reset, which the
  program does not have: they are for statements only.  The distance the pointer has moved and the
  ratios of the keystroke profile are floating-point numbers and are left out.
-/
import Mathlib.Algebra.GroupWithZero.Nat
import Mathlib.Data.List.Basic

namespace Oneshim.InputActivity

/-! ## The collector -/

/-- The counters of an `InputActivityCollector`. -/
inductive Counter where
  | clicks | scrolls | doubleClicks | rightClicks
  | keystrokes | bursts | shortcuts | corrections
  | enters | tabs | arrows | backspaces | specials
deriving DecidableEq

/-- An `AtomicU32`, with the inputs it has counted. -/
structure Cell where
  value : Nat
  inputs : List Nat

namespace Cell

/-- A counter that is reset. -/
def empty : Cell := ⟨0, []⟩

/-- `fetch_add`, which wraps around; the inputs are numbered from `first` on. -/
def fetchAdd (self : Cell) (first count : Nat) : Cell where
  value := if self.value + count < 2 ^ 32 then self.value + count else self.value + count - 2 ^ 32
  inputs := self.inputs ++ List.range' first count

end Cell

/-- `InputActivityCollector`, and how many inputs each counter has counted since it was made. -/
structure InputActivityCollector where
  periodStart : Int
  currentApp : String
  counter : Counter → Cell
  lastClickX : Int
  lastClickY : Int
  recentShortcuts : List String
  lastActivityMs : Nat
  recorded : Counter → Nat

/-- `i32::MIN`: no position. -/
def noPosition : Int := -2147483648

/-- `burst_threshold_ms`. -/
def burstThresholdMs : Nat := 2000

/-- `InputActivityCollector::new`. -/
def InputActivityCollector.new (now : Int) : InputActivityCollector where
  periodStart := now
  currentApp := ""
  counter := fun _ => .empty
  lastClickX := noPosition
  lastClickY := noPosition
  recentShortcuts := []
  lastActivityMs := 0
  recorded := fun _ => 0

/-! ## Recording -/

/-- An atomic operation of a call that records. -/
inductive Op where
  | add (counter : Counter) (count : Nat)
  | storeX (x : Int)
  | storeY (y : Int)
  /-- Under the lock of the shortcut names. -/
  | pushShortcut (name : String)
  /-- `record_activity`, up to what it adds to the typing bursts. -/
  | activity

/-- `KeyCategory`. -/
inductive KeyCategory where
  | enter | tab | arrow | backspace | special | regular
deriving DecidableEq

/-- `record_click`. -/
def recordClick : List Op := [.add .clicks 1, .activity]

/-- `record_double_click`. -/
def recordDoubleClick : List Op := [.add .doubleClicks 1, .activity]

/-- `record_right_click`. -/
def recordRightClick : List Op := [.add .rightClicks 1, .activity]

/-- `record_click_at`. -/
def recordClickAt (x y : Int) : List Op := [.add .clicks 1, .storeX x, .storeY y, .activity]

/-- `record_scroll`. -/
def recordScroll : List Op := [.add .scrolls 1, .activity]

/-- `record_keystroke`. -/
def recordKeystroke (isShortcut isCorrection : Bool) : List Op :=
  [Op.add .keystrokes 1] ++ (if isShortcut then [Op.add .shortcuts 1] else []) ++
    (if isCorrection then [Op.add .corrections 1] else []) ++ [Op.activity]

/-- `record_shortcut_name`. -/
def recordShortcutName (name : String) : List Op :=
  [.add .keystrokes 1, .add .shortcuts 1, .pushShortcut name, .activity]

/-- `record_categorized_keystroke`. -/
def recordCategorizedKeystroke (category : KeyCategory) (isShortcut isCorrection : Bool) : List Op :=
  [Op.add .keystrokes 1] ++
    (match category with
    | .enter => [Op.add .enters 1]
    | .tab => [.add .tabs 1]
    | .arrow => [.add .arrows 1]
    | .backspace => [.add .backspaces 1, .add .corrections 1]
    | .special => [.add .specials 1]
    | .regular => []) ++
    (if isCorrection && category ≠ .backspace then [Op.add .corrections 1] else []) ++
    (if isShortcut then [Op.add .shortcuts 1] else []) ++ [Op.activity]

/-- `estimate_from_idle_change`. -/
def estimateFromIdleChange (prevIdleSecs currIdleSecs : Nat) : List Op :=
  if currIdleSecs < prevIdleSecs then
    [.add .keystrokes (min (prevIdleSecs - currIdleSecs) 10), .activity]
  else []

/-- A call that records. -/
inductive Call where
  | click
  | doubleClick
  | rightClick
  | clickAt (x y : Int)
  | scroll
  | keystroke (isShortcut isCorrection : Bool)
  | shortcutName (name : String)
  | categorizedKeystroke (category : KeyCategory) (isShortcut isCorrection : Bool)
  | idleChange (prevIdleSecs currIdleSecs : Nat)

/-- What it does. -/
def Call.ops : Call → List Op
  | .click => recordClick
  | .doubleClick => recordDoubleClick
  | .rightClick => recordRightClick
  | .clickAt x y => recordClickAt x y
  | .scroll => recordScroll
  | .keystroke isShortcut isCorrection => recordKeystroke isShortcut isCorrection
  | .shortcutName name => recordShortcutName name
  | .categorizedKeystroke category isShortcut isCorrection =>
    recordCategorizedKeystroke category isShortcut isCorrection
  | .idleChange prev curr => estimateFromIdleChange prev curr

namespace InputActivityCollector

/-- One operation at a time of the clock, and what the call has to do in addition. -/
def exec (self : InputActivityCollector) (nowMs : Nat) : Op → InputActivityCollector × List Op
  | .add counter count =>
    ({ self with
        counter := Function.update self.counter counter
          ((self.counter counter).fetchAdd (self.recorded counter) count)
        recorded := Function.update self.recorded counter (self.recorded counter + count) }, [])
  | .storeX x => ({ self with lastClickX := x }, [])
  | .storeY y => ({ self with lastClickY := y }, [])
  | .pushShortcut name =>
    let kept := if 16 ≤ self.recentShortcuts.length then self.recentShortcuts.tail
      else self.recentShortcuts
    ({ self with recentShortcuts := kept ++ [name] }, [])
  | .activity =>
    ({ self with lastActivityMs := nowMs },
      if 0 < self.lastActivityMs ∧ burstThresholdMs < nowMs - self.lastActivityMs then
        [.add .bursts 1]
      else [])

/-- `set_current_app`. -/
def setCurrentApp (self : InputActivityCollector) (appName : String) : InputActivityCollector :=
  { self with currentApp := appName }

/-- `take_recent_shortcuts`. -/
def takeRecentShortcuts (self : InputActivityCollector) : List String × InputActivityCollector :=
  (self.recentShortcuts, { self with recentShortcuts := [] })

end InputActivityCollector

/-! ## Snapshots -/

/-- `InputActivityEvent`, with how many inputs had been recorded when each counter was read. -/
structure InputActivityEvent where
  timestamp : Int
  periodSecs : Nat
  appName : String
  count : Counter → Cell
  lastClickX : Int
  lastClickY : Int
  before : Counter → Nat

/-- An operation of `take_snapshot`. -/
inductive Reading where
  | period
  | app
  | swap (counter : Counter)
  | swapX
  | swapY
deriving DecidableEq

/-- The operations of `take_snapshot`. -/
def readings : List Reading :=
  [.period, .app, .swap .clicks, .swap .scrolls, .swap .doubleClicks, .swap .rightClicks,
    .swap .keystrokes, .swap .bursts, .swap .shortcuts, .swap .corrections, .swap .enters,
    .swap .tabs, .swap .arrows, .swap .backspaces, .swap .specials, .swapX, .swapY]

/-- A snapshot under way: what is still to be read, and the event as far as it is known. -/
structure Taking where
  todo : List Reading
  event : InputActivityEvent

/-- The beginning of `take_snapshot`. -/
def Taking.begin (now : Int) : Taking :=
  ⟨readings, ⟨now, 1, "", fun _ => .empty, noPosition, noPosition, fun _ => 0⟩⟩

/-- One of the operations. -/
def InputActivityCollector.read (self : InputActivityCollector) (event : InputActivityEvent) :
    Reading → InputActivityCollector × InputActivityEvent
  | .period =>
    ({ self with periodStart := event.timestamp },
      { event with periodSecs :=
          (max ((event.timestamp - self.periodStart).tdiv 1000000000) 1).toNat % 2 ^ 32 })
  | .app => (self, { event with appName := self.currentApp })
  | .swap counter =>
    ({ self with counter := Function.update self.counter counter .empty },
      { event with
        count := Function.update event.count counter (self.counter counter)
        before := Function.update event.before counter (self.recorded counter) })
  | .swapX => ({ self with lastClickX := noPosition }, { event with lastClickX := self.lastClickX })
  | .swapY => ({ self with lastClickY := noPosition }, { event with lastClickY := self.lastClickY })

/-- The condition under which the event loop saves a snapshot. -/
def InputActivityEvent.HasInput (self : InputActivityEvent) : Prop :=
  0 < (self.count .clicks).value ∨ 0 < (self.count .keystrokes).value ∨
    0 < (self.count .scrolls).value

instance (self : InputActivityEvent) : Decidable self.HasInput :=
  inferInstanceAs (Decidable (_ ∨ _))

end Oneshim.InputActivity
