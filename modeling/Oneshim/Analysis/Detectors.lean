/-
  The pattern miner as a whole (`oneshim-analysis/src/pattern_miner/`).

  Six detectors go over the apps of the context events, and their patterns are put one after the
  other.  Three of them collect in a hash map or a hash set, which gives its keys in an order of its
  own.

  1. **Orders** (`MapOrders`) — one for every map: that of the switches, those of the sequences of
     each length, and those of the apps of each burst.

  2. **Detectors** — switches between two apps, the dominant mode, apps that are used together, and
     bursts of communication, beside the sequences and the deep work there are already.

  3. **The miner** (`PatternMiner.detect`).

  What depends on floating-point numbers is the environment's (`Fractions`).
-/
import Mathlib.Data.List.Sort
import Oneshim.Analysis.Analyzer
import Oneshim.Analysis.CommunicationBursts
import Oneshim.Lib.Arrange

namespace Oneshim.Analysis

open Focus (AppCategory second)
open Lib (Arrangement)

/-! ## Orders -/

/-- The orders in which the maps and sets of one run give their keys. -/
structure MapOrders where
  transitions : Arrangement (String × String)
  sequences : Nat → Arrangement (List String)
  involved : Nat → Arrangement String

/-- What the detectors compute with fractions. -/
structure Fractions where
  /-- `count as f32 / total > 0.4`. -/
  dominates : Nat → Nat → Bool
  /-- `count / total_windows >= MIN_SUPPORT`. -/
  isSupported : Nat → Nat → Bool
  /-- `{:.0}` of the percentage. -/
  percent : Nat → Nat → String
  /-- `as f32 as u32`. -/
  rounded : Nat → Nat

/-! ## Switches between two apps -/

/-- The switches from one app to another. -/
def transitions (switches : List Switch) : List (String × String) :=
  ((switches.zip switches.tail).map fun pair => (pair.1.app, pair.2.app)).filter
    fun key => key.1 ≠ key.2

/-- How often there is a switch from one app to another. -/
def transitionCount (switches : List Switch) (key : String × String) : Nat :=
  (transitions switches).count key

/-- The switches that are reported. -/
def isFrequent (switches : List Switch) (key : String × String) : Bool :=
  decide (3 ≤ transitionCount switches key)

/-- How they are reported. -/
def transitionText (switches : List Switch) (key : String × String) : String :=
  key.1 ++ "↔" ++ key.2 ++ " " ++ toString (transitionCount switches key) ++ " times"

/-- `detect_context_switching`. -/
def detectContextSwitching (order : Arrangement (String × String)) (switches : List Switch) :
    List ActivityPattern :=
  if switches.length < 4 then []
  else
    ((order.arrange (transitions switches).dedup).filter (isFrequent switches)).map fun key =>
      { patternType := .contextSwitch
        description := transitionText switches key
        frequency := transitionCount switches key
        start := switches.head?.map (·.time)
        finish := switches.getLast?.map (·.time)
        involvedApps := [key.1, key.2] }

section

variable (toLowercase : String → String)

/-! ## The dominant mode -/

/-- `is_browser_app` of an app in lower case. -/
def isBrowserApp (app : String) : Bool :=
  AppCategory.fromAppName toLowercase (toLowercase app) == .browser

/-- The mode that an app counts for. -/
def workModeOf (app : String) : Option String :=
  if isCodingApp toLowercase app then some "coding"
  else if isCommunicationApp toLowercase app then some "communication"
  else if isBrowserApp toLowercase app then some "browsing"
  else none

/-- A mode and how often it counts. -/
def modeCount (switches : List Switch) (mode : String) : String × Nat :=
  (mode, switches.countP fun entry => decide (workModeOf toLowercase entry.app = some mode))

/-- `max_by_key`: of two that count the same the later one. -/
def laterMax (a b : String × Nat) : String × Nat := if b.2 < a.2 then a else b

/-- `detect_work_modes`. -/
def detectWorkModes (fractions : Fractions) (switches : List Switch) : List ActivityPattern :=
  if switches.isEmpty then []
  else
    let dominant := laterMax (laterMax (modeCount toLowercase switches "coding")
      (modeCount toLowercase switches "communication")) (modeCount toLowercase switches "browsing")
    if fractions.dominates dominant.2 switches.length then
      [{ patternType := .workMode
         description := "Dominant mode: " ++ dominant.1 ++ " (" ++ toString dominant.2 ++ "/" ++
          toString switches.length ++ " events)"
         frequency := dominant.2
         start := switches.head?.map (·.time)
         finish := switches.getLast?.map (·.time)
         involvedApps := [] }]
    else []

/-! ## Bursts -/

/-- The communication apps of a burst. -/
def involvedApps (burst : List Switch) : List String :=
  ((burst.filter (isComm toLowercase)).map (·.app)).dedup

/-- How a burst is reported, its apps in some order. -/
def burstText (first last : Switch) (involved : List String) : String :=
  "Communication burst: " ++ toString ((gapSecs last first).tdiv 60) ++ " min of " ++
    String.intercalate ", " involved

/-- A burst as it is reported. -/
def burstPattern (order : Arrangement String) (burst : List Switch) : Option ActivityPattern := do
  let start ← burst.head?
  let last ← burst.getLast?
  return {
    patternType := .communicationBurst
    description := burstText start last (order.arrange (involvedApps toLowercase burst))
    frequency := burst.length
    start := some start.time
    finish := some last.time
    involvedApps := order.arrange (involvedApps toLowercase burst) }

/-- The bursts as they are reported, each with a set of its own. -/
def burstPatterns (order : Nat → Arrangement String) : List (List Switch) → List ActivityPattern
  | [] => []
  | burst :: rest =>
    (burstPattern toLowercase (order 0) burst).toList ++ burstPatterns (fun i => order (i + 1)) rest

/-- `detect_communication_bursts`. -/
def detectCommunicationBursts (order : Nat → Arrangement String) (switches : List Switch) :
    List ActivityPattern :=
  burstPatterns toLowercase order (communicationBursts toLowercase switches)

end

/-! ## Apps that are used together -/

/-- `WINDOW_MINS`, as a span of time. -/
def windowSpan : Int := 30 * 60 * second

/-- The choices of a number of entries, in the order of nested loops. -/
def choices {α : Type} : Nat → List α → List (List α)
  | 0, _ => [[]]
  | _ + 1, [] => []
  | n + 1, a :: rest => (choices n rest).map (a :: ·) ++ choices (n + 1) rest

/-- The apps between two times. -/
def appsWithin (sorted : List Switch) (winStart : Int) : List String :=
  ((sorted.filter fun entry => winStart ≤ entry.time ∧ entry.time < winStart + windowSpan).map
    (·.app)).dedup

/-- The windows from the first time to the last, those with no app left out. -/
def appWindows (sorted : List Switch) (firstTime lastTime : Int) : List (List String) :=
  ((List.range ((lastTime - firstTime) / windowSpan + 1).toNat).map fun i : Nat =>
    appsWithin sorted (firstTime + i * windowSpan)).filter fun apps => !apps.isEmpty

/-- In how many windows all of them are used. -/
def togetherCount (windows : List (List String)) (apps : List String) : Nat :=
  windows.countP fun window => apps.all window.contains

/-- Apps that are used together, if it is often enough. -/
def coOccurrence (fractions : Fractions) (windows : List (List String)) (first last : Switch)
    (apps : List String) : Option ActivityPattern :=
  if fractions.isSupported (togetherCount windows apps) windows.length then
    some {
      patternType := .coOccurrence
      description := "\x7b" ++ String.intercalate ", " apps ++ "\x7d co-occur in " ++
        fractions.percent (togetherCount windows apps) windows.length ++ "% of windows"
      frequency := fractions.rounded (togetherCount windows apps)
      start := some first.time
      finish := some last.time
      involvedApps := apps }
  else none

/-- `detect_co_occurrence_patterns`: pairs, then triples. -/
def detectCoOccurrencePatterns (fractions : Fractions) (switches : List Switch) :
    List ActivityPattern :=
  if switches.length < 2 then []
  else
    let sorted := switches.insertionSort fun a b => a.time ≤ b.time
    match sorted.head?, sorted.getLast? with
    | some first, some last =>
      let windows := appWindows sorted first.time last.time
      if windows.length < 2 then []
      else
        let appList := windows.flatten.dedup.insertionSort (· ≤ ·)
        (choices 2 appList ++ choices 3 appList).filterMap
          (coOccurrence fractions windows first last)
    | _, _ => []

/-! ## The miner -/

/-- `PatternMiner::detect`. -/
def PatternMiner.detect (toLowercase : String → String) (fractions : Fractions)
    (orders : MapOrders) (events : List Event) : List ActivityPattern :=
  let switches := extractAppSequence events
  detectContextSwitching orders.transitions switches ++
    detectWorkModes toLowercase fractions switches ++
    detectDeepWorkBlocks toLowercase switches ++
    detectSequentialPatterns orders.sequences switches ++
    detectCoOccurrencePatterns fractions switches ++
    detectCommunicationBursts toLowercase orders.involved switches

end Oneshim.Analysis
