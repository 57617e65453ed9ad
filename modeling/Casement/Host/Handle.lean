namespace Casement

/-- A native window or child view by the number its host gave it. -/
structure NativeHandle where
  val : Nat
  deriving DecidableEq, Repr, Inhabited

def NativeHandle.text (h : NativeHandle) : String := s!"NativeHandle({h.val})"

/-- A timer by the number its host gave it. -/
structure TimerId where
  val : Nat
  deriving DecidableEq, Repr, Inhabited

def TimerId.text (t : TimerId) : String := s!"TimerId({t.val})"

end Casement
