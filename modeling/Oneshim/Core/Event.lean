/-
  The events a device collects (`oneshim-core/src/models/event.rs`).

  An event is about the window in front (`User`, `Context`, `Window`), about input, processes, the
  clipboard or files, or it is a system event with any JSON in it.  Identifiers and times are
  opaque; floats are bit patterns, they are only moved.
-/
import Oneshim.Core.F32
import Oneshim.Core.Json

namespace Oneshim

/-- `ClipboardContentType`. -/
inductive ClipboardContentType where
  | text
  | image
  | other

/-- `ClipboardEvent`. -/
structure ClipboardEvent where
  timestamp : Int
  contentType : ClipboardContentType
  charCount : Nat
  preview : Option String

/-- `FileEventType`. -/
inductive FileEventType where
  | created
  | modified
  | deleted
  | renamed

/-- `FileAccessEvent`. -/
structure FileAccessEvent where
  timestamp : Int
  relativePath : String
  eventType : FileEventType
  extension : Option String

/-- `UserEventType`. -/
inductive UserEventType where
  | windowChange
  | appSwitch
  | significantAction
  | formSubmission

/-- `UserEvent`; `event_id` is the 128 bits of a `Uuid`. -/
structure UserEvent where
  eventId : BitVec 128
  eventType : UserEventType
  timestamp : Int
  appName : String
  windowTitle : String

/-- `SystemEventType`. -/
inductive SystemEventType where
  | metricsUpdate
  | alert
  | networkChange

/-- `SystemEvent`. -/
structure SystemEvent where
  eventId : BitVec 128
  eventType : SystemEventType
  timestamp : Int
  data : Json

/-- `ContextEvent`. -/
structure ContextEvent where
  appName : String
  windowTitle : String
  prevAppName : Option String
  timestamp : Int
  inputActivityLevel : F32

/-- `MouseActivity`. -/
structure MouseActivity where
  clickCount : UInt32
  moveDistance : F64
  scrollCount : UInt32
  lastPosition : Option (F32 × F32)
  doubleClickCount : UInt32
  rightClickCount : UInt32

/-- `KeyboardActivity`. -/
structure KeyboardActivity where
  keystrokesPerMin : UInt32
  totalKeystrokes : UInt32
  typingBursts : UInt32
  shortcutCount : UInt32
  correctionCount : UInt32

/-- `KeystrokeProfile`. -/
structure KeystrokeProfile where
  enterRatio : F32
  tabRatio : F32
  arrowRatio : F32
  backspaceRatio : F32
  specialRatio : F32
  totalKeystrokes : UInt32

/-- `InputActivityEvent`. -/
structure InputActivityEvent where
  timestamp : Int
  periodSecs : UInt32
  mouse : MouseActivity
  keyboard : KeyboardActivity
  appName : String
  keystrokeProfile : Option KeystrokeProfile

/-- `ProcessDetail`. -/
structure ProcessDetail where
  name : String
  pid : UInt32
  cpuPercent : F32
  memoryMb : F64
  windowCount : UInt32
  isForeground : Bool
  runningSecs : UInt64
  executablePath : Option String

/-- `ProcessSnapshotEvent`. -/
structure ProcessSnapshotEvent where
  timestamp : Int
  processes : List ProcessDetail
  totalProcessCount : UInt32

/-- `WindowLayoutEventType`. -/
inductive WindowLayoutEventType where
  | focus
  | resize
  | move
  | maximize
  | minimize
  | restore
deriving DecidableEq

/-- `WindowInfo`. -/
structure WindowInfo where
  appName : String
  windowTitle : String
  position : Int32 × Int32
  size : UInt32 × UInt32
  screenRatio : F32
  isFullscreen : Bool
  zOrder : UInt32

/-- `WindowLayoutEvent`. -/
structure WindowLayoutEvent where
  timestamp : Int
  eventType : WindowLayoutEventType
  window : WindowInfo
  screenResolution : UInt32 × UInt32
  monitorIndex : UInt32

/-- `Event`. -/
inductive Event where
  | user (event : UserEvent)
  | system (event : SystemEvent)
  | context (event : ContextEvent)
  | input (event : InputActivityEvent)
  | process (event : ProcessSnapshotEvent)
  | window (event : WindowLayoutEvent)
  | clipboard (event : ClipboardEvent)
  | fileAccess (event : FileAccessEvent)

/-! ## The strings of an event -/

mutual

/-- The strings in a JSON value, keys included. -/
def Json.strings : Json → List String
  | .str s => [s]
  | .arr xs => elementStrings xs
  | .obj fields => fieldStrings fields
  | _ => []

/-- Those of the elements of an array. -/
def Json.elementStrings : List Json → List String
  | [] => []
  | x :: xs => x.strings ++ elementStrings xs

/-- Those of the fields of an object. -/
def Json.fieldStrings : List (String × Json) → List String
  | [] => []
  | (key, x) :: fields => key :: x.strings ++ fieldStrings fields

end

namespace Event

/-- The application an event is about, and the title of its window. -/
def inFront : Event → Option (String × String)
  | .user event => some (event.appName, event.windowTitle)
  | .context event => some (event.appName, event.windowTitle)
  | .window event => some (event.window.appName, event.window.windowTitle)
  | _ => none

/-- The event with this window title, where it has one. -/
def withTitle (title : String) : Event → Event
  | .user event => .user { event with windowTitle := title }
  | .context event => .context { event with windowTitle := title }
  | .window event => .window { event with window := { event.window with windowTitle := title } }
  | event => event

/-- The names of the other applications in it; the event has no title for them. -/
def otherNames : Event → List String
  | .context event => event.prevAppName.toList
  | .input event => [event.appName]
  | .process event => event.processes.map (·.name)
  | _ => []

/-- The strings that are neither an application's name nor a window title. -/
def freeTexts : Event → List String
  | .system event => event.data.strings
  | .process event => event.processes.flatMap (·.executablePath.toList)
  | .clipboard event => event.preview.toList
  | .fileAccess event => event.relativePath :: event.extension.toList
  | _ => []

/-- The strings in which anything may stand: the window title and the free texts. -/
def texts (event : Event) : List String :=
  event.inFront.toList.map Prod.snd ++ event.freeTexts

/-- Every string in the event. -/
def strings (event : Event) : List String :=
  event.inFront.toList.map Prod.fst ++ event.otherNames ++ event.texts

end Event

end Oneshim
