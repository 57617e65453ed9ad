import Casement.Number.Single
import Casement.Platform

/-!
# Colours

Packed colours hold one byte a channel: blue, green and red from the lowest byte up, or alpha
below them when the packing has it.
-/

namespace Casement

structure Color where
  r : Single
  g : Single
  b : Single
  a : Single
  deriving DecidableEq, Repr, Inhabited

namespace Color

def black : Color := ⟨.zero, .zero, .zero, .one⟩

/-- The channel of a byte. -/
def channel (byte : Nat) : Single := Single.ofInt byte / Single.ofInt 255

/-- The byte of a channel, rounded; channels beyond the unit interval are clamped to it. -/
def toByte (value : Single) : Nat := (Single.clamp .zero .one value * Single.ofInt 255).roundToNat

/-- Byte `i` of a word, counted from the lowest. -/
def byte (word : UInt32) (i : Nat) : Nat := (word.toNat >>> (8 * i)) % 256

def unpack (packed : UInt32) (alpha : Bool) : Color :=
  let at' (i : Nat) := channel (byte packed i)
  if alpha then ⟨at' 3, at' 2, at' 1, at' 0⟩ else ⟨at' 2, at' 1, at' 0, .one⟩

/-- The word of bytes given from the lowest up. -/
def word : List Nat → Nat
  | [] => 0
  | b :: bs => b + 256 * word bs

/-- Packs the channels; without alpha the highest byte is taken from `extra`. -/
def pack (c : Color) (alpha : Bool) (extra : UInt32) : UInt32 :=
  if alpha then UInt32.ofNat (word [toByte c.a, toByte c.b, toByte c.g, toByte c.r])
  else UInt32.ofNat (word [toByte c.b, toByte c.g, toByte c.r, byte extra 3])

/-- A theme colour of the window system: one platform keeps red in the lowest byte. -/
def ofTheme (native : UInt32) (platform : Platform) : Color :=
  match platform with
  | .windows => unpack (UInt32.ofNat (word [byte native 2, byte native 1, byte native 0])) false
  | .macOs | .linux => unpack native false

/-- Reverses the bytes of a word. -/
def reverseBytes (rgba : UInt32) : UInt32 :=
  UInt32.ofNat (word [byte rgba 3, byte rgba 2, byte rgba 1, byte rgba 0])

/-- Channels given in order; without alpha the colour is opaque. -/
def ofChannels (r g b a : Single) (alpha : Bool) : Color := ⟨r, g, b, if alpha then a else .one⟩

end Color

end Casement
