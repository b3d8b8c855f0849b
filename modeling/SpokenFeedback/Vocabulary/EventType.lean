import SpokenFeedback.Text.Blank

/-!
# Event types

The named types of events and the codes that events carry for them.  Each code is a bit of its
own, so that sets of types are masks.
-/

namespace SpokenFeedback

/-- The event types that have a name. -/
inductive EventType where
  | viewClicked
  | viewLongClicked
  | viewSelected
  | viewFocused
  | viewTextChanged
  | windowStateChanged
  | notificationStateChanged
  | viewHoverEnter
  | viewHoverExit
  | touchExplorationGestureStart
  | touchExplorationGestureEnd
  | windowContentChanged
  | viewScrolled
  | viewTextSelectionChanged
  | announcement
  | viewAccessibilityFocused
  | viewAccessibilityFocusCleared
  | viewTextTraversedAtMovementGranularity
  | gestureDetectionStart
  | gestureDetectionEnd
  | touchInteractionStart
  | touchInteractionEnd
deriving DecidableEq, Repr

namespace EventType

/-- Every event type, in the order of the codes. -/
def all : List EventType :=
  [.viewClicked, .viewLongClicked, .viewSelected, .viewFocused, .viewTextChanged,
   .windowStateChanged, .notificationStateChanged, .viewHoverEnter, .viewHoverExit,
   .touchExplorationGestureStart, .touchExplorationGestureEnd, .windowContentChanged,
   .viewScrolled, .viewTextSelectionChanged, .announcement, .viewAccessibilityFocused,
   .viewAccessibilityFocusCleared, .viewTextTraversedAtMovementGranularity,
   .gestureDetectionStart, .gestureDetectionEnd, .touchInteractionStart, .touchInteractionEnd]

/-- The name that rules use. -/
def name : EventType → String
  | .viewClicked => "TYPE_VIEW_CLICKED"
  | .viewLongClicked => "TYPE_VIEW_LONG_CLICKED"
  | .viewSelected => "TYPE_VIEW_SELECTED"
  | .viewFocused => "TYPE_VIEW_FOCUSED"
  | .viewTextChanged => "TYPE_VIEW_TEXT_CHANGED"
  | .windowStateChanged => "TYPE_WINDOW_STATE_CHANGED"
  | .notificationStateChanged => "TYPE_NOTIFICATION_STATE_CHANGED"
  | .viewHoverEnter => "TYPE_VIEW_HOVER_ENTER"
  | .viewHoverExit => "TYPE_VIEW_HOVER_EXIT"
  | .touchExplorationGestureStart => "TYPE_TOUCH_EXPLORATION_GESTURE_START"
  | .touchExplorationGestureEnd => "TYPE_TOUCH_EXPLORATION_GESTURE_END"
  | .windowContentChanged => "TYPE_WINDOW_CONTENT_CHANGED"
  | .viewScrolled => "TYPE_VIEW_SCROLLED"
  | .viewTextSelectionChanged => "TYPE_VIEW_TEXT_SELECTION_CHANGED"
  | .announcement => "TYPE_ANNOUNCEMENT"
  | .viewAccessibilityFocused => "TYPE_VIEW_ACCESSIBILITY_FOCUSED"
  | .viewAccessibilityFocusCleared => "TYPE_VIEW_ACCESSIBILITY_FOCUS_CLEARED"
  | .viewTextTraversedAtMovementGranularity => "TYPE_VIEW_TEXT_TRAVERSED_AT_MOVEMENT_GRANULARITY"
  | .gestureDetectionStart => "TYPE_GESTURE_DETECTION_START"
  | .gestureDetectionEnd => "TYPE_GESTURE_DETECTION_END"
  | .touchInteractionStart => "TYPE_TOUCH_INTERACTION_START"
  | .touchInteractionEnd => "TYPE_TOUCH_INTERACTION_END"

/-- The code that events carry. -/
def code : EventType → Int64
  | .viewClicked => 0x1
  | .viewLongClicked => 0x2
  | .viewSelected => 0x4
  | .viewFocused => 0x8
  | .viewTextChanged => 0x10
  | .windowStateChanged => 0x20
  | .notificationStateChanged => 0x40
  | .viewHoverEnter => 0x80
  | .viewHoverExit => 0x100
  | .touchExplorationGestureStart => 0x200
  | .touchExplorationGestureEnd => 0x400
  | .windowContentChanged => 0x800
  | .viewScrolled => 0x1000
  | .viewTextSelectionChanged => 0x2000
  | .announcement => 0x4000
  | .viewAccessibilityFocused => 0x8000
  | .viewAccessibilityFocusCleared => 0x10000
  | .viewTextTraversedAtMovementGranularity => 0x20000
  | .gestureDetectionStart => 0x40000
  | .gestureDetectionEnd => 0x80000
  | .touchInteractionStart => 0x100000
  | .touchInteractionEnd => 0x200000

/-- The event type with this name; blanks around the name do not count. -/
def ofName? (name : String) : Option EventType :=
  all.find? fun eventType => eventType.name = Text.trim name

/-- The event type with this code. -/
def ofCode? (code : Int64) : Option EventType := all.find? fun eventType => eventType.code = code

end EventType

end SpokenFeedback
