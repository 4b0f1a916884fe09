/-
  The window layout (`oneshim-monitor/src/window_layout.rs`).

  The tracker keeps the window it has seen last and reports what has become of it: another window,
  full screen or back, another size, another place.  Small changes are not reported, and neither is a
  window without bounds.

  Differences are those of 32-bit integers and wrap around.  The share of the screen is a
  floating-point number; its computation is a parameter.
-/
import Oneshim.Core.Event

namespace Oneshim.Monitor

/-! ## The code -/

/-- `WindowBounds`. -/
structure WindowBounds where
  x : Int32
  y : Int32
  width : UInt32
  height : UInt32

/-- `PreviousWindowState`. -/
structure PreviousWindowState where
  appName : String
  windowTitle : String
  position : Int32 × Int32
  size : UInt32 × UInt32
  isFullscreen : Bool

/-- `WindowLayoutTracker`. -/
structure WindowLayoutTracker where
  prevState : Option PreviousWindowState
  screenResolution : UInt32 × UInt32
  positionThreshold : Int32
  sizeThreshold : UInt32

namespace WindowLayoutTracker

/-- `WindowLayoutTracker::new`. -/
def new : WindowLayoutTracker := ⟨none, (1920, 1080), 5, 10⟩

/-- `is_fullscreen`; a menu bar or a dock may be left. -/
def isFullscreen (self : WindowLayoutTracker) (bounds : WindowBounds) : Bool :=
  let widthMatch :=
    decide ((bounds.width.toInt32 - self.screenResolution.1.toInt32).abs < 50)
  let heightMatch :=
    decide ((bounds.height.toInt32 - self.screenResolution.2.toInt32).abs < 100)
  let posMatch := decide (bounds.x.abs < 50) && decide (bounds.y.abs < 100)
  widthMatch && heightMatch && posMatch

/-- The state of a window with bounds. -/
def current (self : WindowLayoutTracker) (appName windowTitle : String) (bounds : WindowBounds) :
    PreviousWindowState :=
  ⟨appName, windowTitle, (bounds.x, bounds.y), (bounds.width, bounds.height),
    self.isFullscreen bounds⟩

/-- The difference of two sizes, `unsigned_abs`. -/
def sizeDiff (a b : UInt32) : UInt32 := (a.toInt32 - b.toInt32).abs.toUInt32

/-- `detect_change`. -/
def detectChange (self : WindowLayoutTracker) (prev : Option PreviousWindowState)
    (current : PreviousWindowState) : Option WindowLayoutEventType :=
  match prev with
  | none => some .focus
  | some prev =>
    if prev.appName ≠ current.appName ∨ prev.windowTitle ≠ current.windowTitle then some .focus
    else if !prev.isFullscreen && current.isFullscreen then some .maximize
    else if prev.isFullscreen && !current.isFullscreen then some .restore
    else if self.sizeThreshold < sizeDiff current.size.1 prev.size.1 ∨
        self.sizeThreshold < sizeDiff current.size.2 prev.size.2 then some .resize
    else if self.positionThreshold < (current.position.1 - prev.position.1).abs ∨
        self.positionThreshold < (current.position.2 - prev.position.2).abs then some .move
    else none

/-- `update`, at a time. -/
def update (screenRatio : UInt32 × UInt32 → UInt32 × UInt32 → F32) (self : WindowLayoutTracker)
    (now : Int) (appName windowTitle : String) (bounds : Option WindowBounds) :
    WindowLayoutTracker × Option WindowLayoutEvent :=
  match bounds with
  | none => (self, none)
  | some bounds =>
    let current := self.current appName windowTitle bounds
    ({ self with prevState := some current },
      (self.detectChange self.prevState current).map fun eventType =>
        { timestamp := now
          eventType
          window :=
            { appName := current.appName
              windowTitle := current.windowTitle
              position := current.position
              size := current.size
              screenRatio := screenRatio current.size self.screenResolution
              isFullscreen := current.isFullscreen
              zOrder := 0 }
          screenResolution := self.screenResolution
          monitorIndex := 0 })

end WindowLayoutTracker

end Oneshim.Monitor
