namespace Casement

/-- The character of a code point, if it is a scalar value. -/
def scalar? (codepoint : UInt32) : Option Char :=
  if h : codepoint.isValidChar then some ⟨codepoint, h⟩ else none

/-- The character typed by a code point; control characters are no text. -/
def typed? (codepoint : UInt32) : Option Char :=
  if codepoint < 32 || (127 ≤ codepoint && codepoint < 160) then none else scalar? codepoint

end Casement
