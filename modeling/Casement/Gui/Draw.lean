import Casement.Number.Single

/-!
# Draw data

What a GUI hands to a renderer: lists of vertices, indices into them and commands over the
indices.
-/

namespace Casement

structure Vertex where
  pos : Vec2
  uv : Vec2
  col : UInt32
  deriving DecidableEq, Repr

namespace Vertex

/-- The bytes of a word, the lowest first. -/
def wordBytes (w : UInt32) : List UInt8 :=
  [w.toUInt8, (w >>> 8).toUInt8, (w >>> 16).toUInt8, (w >>> 24).toUInt8]

def bytes (v : Vertex) : List UInt8 :=
  [v.pos.x.word, v.pos.y.word, v.uv.x.word, v.uv.y.word, v.col].flatMap wordBytes

end Vertex

structure ClipRect where
  left : Single
  top : Single
  right : Single
  bottom : Single
  deriving DecidableEq, Repr

structure DrawCommand where
  count : UInt32
  offset : UInt32
  clip : ClipRect
  texture : UInt64
  deriving DecidableEq, Repr

structure DrawList where
  vertices : List Vertex := []
  indices : List UInt16 := []
  commands : List DrawCommand := []
  deriving DecidableEq, Repr

def DrawList.vertexBytes (l : DrawList) : List UInt8 := l.vertices.flatMap Vertex.bytes

structure DrawData where
  pos : Vec2 := .zero
  size : Vec2 := .zero
  scale : Vec2 := .one
  lists : List DrawList := []
  deriving DecidableEq, Repr, Inhabited

namespace DrawData

def vertexCount (d : DrawData) : Nat := d.lists.foldr (·.vertices.length + ·) 0

def indexCount (d : DrawData) : Nat := d.lists.foldr (·.indices.length + ·) 0

def isEmpty (d : DrawData) : Bool := d.lists.all (·.commands.isEmpty)

/-- One quad over the whole display. -/
def quad (size scale : Vec2) (texture : UInt64) : DrawData :=
  let white := 0xFFFFFFFF
  { size, scale
    lists := [{
      vertices := [
        ⟨⟨.zero, .zero⟩, ⟨.zero, .zero⟩, white⟩,
        ⟨⟨size.x, .zero⟩, ⟨.one, .zero⟩, white⟩,
        ⟨⟨size.x, size.y⟩, ⟨.one, .one⟩, white⟩,
        ⟨⟨.zero, size.y⟩, ⟨.zero, .one⟩, white⟩]
      indices := [0, 1, 2, 0, 2, 3]
      commands := [⟨6, 0, ⟨.zero, .zero, size.x, size.y⟩, texture⟩] }] }

end DrawData

end Casement
