import Casement.Geometry
import Casement.Host.Handle
import Casement.Input.Cursor
import Casement.Input.Keys
import Casement.Platform

/-!
# An in-memory window system

A host owns native windows and the views nested in them, timers, the windows that listen for
accelerators, the cursor, the mouse capture, the keys held down and the theme.
-/

namespace Casement

structure View where
  handle : NativeHandle
  title : String := ""
  rect : Rect
  visible : Bool := true
  parent : Option NativeHandle := none
  deriving DecidableEq, Repr

inductive ThemeColor where
  | windowBackground
  | windowText
  deriving DecidableEq, Repr, Inhabited

/-- Views stand in the order of their handles, which are never used twice. -/
structure Host where
  platform : Platform := .fallback
  nextHandle : Nat := 1
  nextTimer : Nat := 1
  views : List View := []
  timers : List TimerId := []
  accelerators : List NativeHandle := []
  cursor : Option NativeCursor := some .arrow
  pointer : Point := ⟨-1, -1⟩
  capture : Option NativeHandle := none
  keysDown : List KeyCode := []
  background : UInt32 := 0x00332211
  foreground : UInt32 := 0x00EEDDCC
  errors : List String := []
  refusesWindows : Bool := false
  deriving DecidableEq, Repr, Inhabited

namespace Host

def view? (s : Host) (h : NativeHandle) : Option View := s.views.find? (·.handle = h)

def isWindow (s : Host) (h : NativeHandle) : Bool := (s.view? h).isSome

def isVisible (s : Host) (h : NativeHandle) : Bool := (s.view? h).any (·.visible)

def title (s : Host) (h : NativeHandle) : String := ((s.view? h).map (·.title)).getD ""

def rect (s : Host) (h : NativeHandle) : Rect := ((s.view? h).map (·.rect)).getD .empty

/-- Windows at the top of the view hierarchy. -/
def windowCount (s : Host) : Nat := (s.views.filter (·.parent.isNone)).length

def modifyView (s : Host) (h : NativeHandle) (f : View → View) : Host :=
  { s with views := s.views.map fun v => if v.handle = h then f v else v }

def setTitle (s : Host) (h : NativeHandle) (title : String) : Host :=
  s.modifyView h ({ · with title })

def setRect (s : Host) (h : NativeHandle) (rect : Rect) : Host := s.modifyView h ({ · with rect })

def setVisible (s : Host) (h : NativeHandle) (visible : Bool) : Host :=
  s.modifyView h ({ · with visible })

/-- The handle the next view gets. -/
def freshHandle (s : Host) : NativeHandle := ⟨s.nextHandle⟩

def addView (s : Host) (view : NativeHandle → View) : Host :=
  { s with nextHandle := s.nextHandle + 1, views := s.views ++ [view s.freshHandle] }

def addWindow (s : Host) (title : String) (rect : Rect) : Host :=
  s.addView fun handle => { handle, title, rect }

/-- Any parent is taken, also one that is not a view. -/
def addChild (s : Host) (parent : NativeHandle) (rect : Rect) : Host :=
  s.addView fun handle => { handle, rect, parent := some parent }

/-- Forgets a view with the views directly in it, and its capture. -/
def removeView (s : Host) (h : NativeHandle) : Host :=
  { s with
    views := s.views.filter fun v => v.handle ≠ h ∧ v.parent ≠ some h
    capture := if s.capture = some h then none else s.capture }

/-- The timer the next registration gets. -/
def freshTimer (s : Host) : TimerId := ⟨s.nextTimer⟩

def addTimer (s : Host) : Host :=
  { s with nextTimer := s.nextTimer + 1, timers := s.timers ++ [s.freshTimer] }

def removeTimer (s : Host) (t : TimerId) : Host := { s with timers := s.timers.filter (· ≠ t) }

def hasAccelerator (s : Host) (h : NativeHandle) : Bool := s.accelerators.contains h

def addAccelerator (s : Host) (h : NativeHandle) : Host :=
  if s.hasAccelerator h then s else { s with accelerators := s.accelerators ++ [h] }

def removeAccelerator (s : Host) (h : NativeHandle) : Host :=
  { s with accelerators := s.accelerators.filter (· ≠ h) }

def setCapture (s : Host) (h : NativeHandle) : Host := { s with capture := some h }

def releaseCapture (s : Host) : Host := { s with capture := none }

def isKeyDown (s : Host) (key : KeyCode) : Bool := s.keysDown.contains key

def setKey (s : Host) (key : KeyCode) (down : Bool) : Host :=
  let others := s.keysDown.filter (· ≠ key)
  { s with keysDown := if down then key :: others else others }

def themeColor (s : Host) : ThemeColor → UInt32
  | .windowBackground => s.background
  | .windowText => s.foreground

def setThemeColor (s : Host) (value : UInt32) : ThemeColor → Host
  | .windowBackground => { s with background := value }
  | .windowText => { s with foreground := value }

def reportError (s : Host) (text : String) : Host := { s with errors := s.errors ++ [text] }

/-- The topmost visible view at a point: views are in front of those made before them. -/
def viewAt? (s : Host) (p : Point) : Option NativeHandle :=
  (s.views.reverse.find? fun v => v.visible && v.rect.contains p).map (·.handle)

/-- A point as seen from a view; a view that has gone counts as standing at the origin. -/
def toClient (s : Host) (h : NativeHandle) (p : Point) : Point := p.relativeTo (s.rect h).origin

def parent? (s : Host) (h : NativeHandle) : Option NativeHandle := (s.view? h).bind (·.parent)

/-- Climbs from view to parent until it meets `target` or leaves the hierarchy; gives up after
`n` steps. -/
def climb (s : Host) (target : NativeHandle) : Nat → Option NativeHandle → Option Bool
  | _, none => some false
  | 0, some _ => none
  | n + 1, some h => if h = target then some true else s.climb target n (s.parent? h)

/-- Whether a view lies in another one, directly or not; nothing if the chain of its parents comes
back to itself without meeting that one, as the climb does not end then. Any other chain has no more
steps than there are views. -/
def liesIn? (s : Host) (parent child : NativeHandle) : Option Bool :=
  s.climb parent (s.views.length + 1) (s.parent? child)

/-- A climb that does not end counts as a no for windows that ask. -/
def isChild (s : Host) (parent child : NativeHandle) : Bool := (s.liesIn? parent child).getD false

end Host

end Casement
