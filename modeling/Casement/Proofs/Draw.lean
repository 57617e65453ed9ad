import Casement.Gui.Draw
import Casement.Proofs.Color
import Mathlib.Algebra.BigOperators.Group.List.Basic

namespace Casement

section Blocks

variable {α β : Type} {f : α → List β} {n : Nat}

theorem length_flatMap_block (hf : ∀ a, (f a).length = n) (l : List α) :
    (l.flatMap f).length = n * l.length := by
  simp [List.length_flatMap, hf, Nat.mul_comm]

theorem getElem?_flatMap_block (hf : ∀ a, (f a).length = n) (l : List α) (k : Nat) {j : Nat} (hj : j < n) :
    (l.flatMap f)[n * k + j]? = l[k]?.bind fun a => (f a)[j]? := by
  induction l generalizing k with
  | nil => rfl
  | cons a l ih =>
    rw [List.flatMap_cons]
    cases k with
    | zero =>
      rw [Nat.mul_zero, Nat.zero_add, List.getElem?_append_left ((hf a).symm ▸ hj)]
      rfl
    | succ k =>
      have hplace : n * (k + 1) + j - (f a).length = n * k + j := by
        rw [hf, Nat.mul_succ]
        omega
      rw [List.getElem?_append_right, hplace, ih]
      · rfl
      · rw [hf, Nat.mul_succ]
        omega

end Blocks

namespace Vertex

def words (v : Vertex) : List UInt32 := [v.pos.x.word, v.pos.y.word, v.uv.x.word, v.uv.y.word, v.col]

theorem length_wordBytes (w : UInt32) : (wordBytes w).length = 4 := rfl

theorem bytes_eq (v : Vertex) : v.bytes = v.words.flatMap wordBytes := rfl

theorem getElem?_wordBytes (w : UInt32) {j : Nat} (hj : j < 4) :
    (wordBytes w)[j]?.map UInt8.toNat = some (Color.byte w j) := by
  interval_cases j <;> simp [wordBytes, Color.byte]

theorem length_bytes (v : Vertex) : v.bytes.length = 20 := length_flatMap_block length_wordBytes v.words

def wordAt (bytes : List UInt8) (i : Nat) : UInt32 :=
  UInt32.ofNat (Color.word ((List.range 4).map fun j => (bytes[i + j]?.getD 0).toNat))

def readAt (bytes : List UInt8) (i : Nat) : Vertex where
  pos := ⟨⟨wordAt bytes i⟩, ⟨wordAt bytes (i + 4)⟩⟩
  uv := ⟨⟨wordAt bytes (i + 8)⟩, ⟨wordAt bytes (i + 12)⟩⟩
  col := wordAt bytes (i + 16)

def readAll (bytes : List UInt8) : List Vertex :=
  (List.range (bytes.length / 20)).map fun k => readAt bytes (20 * k)

theorem wordAt_eq {bytes : List UInt8} {i : Nat} {w : UInt32}
    (h : ∀ j < 4, bytes[i + j]?.map UInt8.toNat = some (Color.byte w j)) : wordAt bytes i = w := by
  apply Color.eq_of_byte
  intro j hj
  rw [wordAt, Color.byte_ofNat_word]
  · obtain ⟨b, hb, hbyte⟩ := Option.map_eq_some_iff.mp (h j hj)
    simp [hj, hb, hbyte]
  · simp
  · simp only [List.mem_map]
    rintro n ⟨j, -, rfl⟩
    exact UInt8.toNat_lt _

end Vertex

namespace DrawList

variable {l : DrawList} {k i j : Nat} {v : Vertex} {w : UInt32}

theorem length_vertexBytes (l : DrawList) : l.vertexBytes.length = 20 * l.vertices.length :=
  length_flatMap_block Vertex.length_bytes l.vertices

theorem getElem?_vertexBytes (hv : l.vertices[k]? = some v) (hw : v.words[i]? = some w) (hj : j < 4) :
    l.vertexBytes[20 * k + 4 * i + j]?.map UInt8.toNat = some (Color.byte w j) := by
  have hi : i < 5 := (List.getElem?_eq_some_iff.mp hw).1
  have hvertex : l.vertexBytes[20 * k + (4 * i + j)]? = v.bytes[4 * i + j]? := by
    rw [vertexBytes, getElem?_flatMap_block Vertex.length_bytes _ _ (by omega), hv, Option.bind_some]
  have hword : v.bytes[4 * i + j]? = (Vertex.wordBytes w)[j]? := by
    rw [Vertex.bytes_eq, getElem?_flatMap_block Vertex.length_wordBytes _ _ hj, hw, Option.bind_some]
  rw [Nat.add_assoc, hvertex, hword, Vertex.getElem?_wordBytes w hj]

theorem wordAt_vertexBytes (hv : l.vertices[k]? = some v) (hw : v.words[i]? = some w) :
    Vertex.wordAt l.vertexBytes (20 * k + 4 * i) = w := by
  apply Vertex.wordAt_eq
  intro j hj
  exact getElem?_vertexBytes hv hw hj

theorem readAt_vertexBytes (hv : l.vertices[k]? = some v) : Vertex.readAt l.vertexBytes (20 * k) = v := by
  have h₀ := wordAt_vertexBytes (i := 0) hv rfl
  have h₁ := wordAt_vertexBytes (i := 1) hv rfl
  have h₂ := wordAt_vertexBytes (i := 2) hv rfl
  have h₃ := wordAt_vertexBytes (i := 3) hv rfl
  have h₄ := wordAt_vertexBytes (i := 4) hv rfl
  simp only [Nat.reduceMul, Nat.add_zero] at h₀ h₁ h₂ h₃ h₄
  rw [Vertex.readAt, h₀, h₁, h₂, h₃, h₄]

theorem readAll_vertexBytes (l : DrawList) : Vertex.readAll l.vertexBytes = l.vertices := by
  apply List.ext_getElem?
  intro k
  rw [Vertex.readAll, length_vertexBytes, Nat.mul_div_cancel_left _ (by decide), List.getElem?_map]
  cases hv : l.vertices[k]? with
  | none =>
    rw [List.getElem?_eq_none_iff] at hv
    simpa using hv
  | some v =>
    have hk : k < l.vertices.length := (List.getElem?_eq_some_iff.mp hv).1
    rw [List.getElem?_range hk, Option.map_some, readAt_vertexBytes hv]

/-- A buffer has twenty bytes for each vertex: its words one after the other, each from its lowest byte
up. So the vertices can be read back, and no other vertices have the same bytes. -/
theorem vertexBytes_exact (l : DrawList) :
    l.vertexBytes.length = 20 * l.vertices.length ∧
    (∀ k v, l.vertices[k]? = some v → ∀ i w, v.words[i]? = some w → ∀ j < 4,
      l.vertexBytes[20 * k + 4 * i + j]?.map UInt8.toNat = some (w.toNat / 256 ^ j % 256)) ∧
    Vertex.readAll l.vertexBytes = l.vertices ∧
    ∀ l' : DrawList, l'.vertexBytes = l.vertexBytes → l'.vertices = l.vertices := by
  refine ⟨length_vertexBytes l, ?_, readAll_vertexBytes l, ?_⟩
  · intro k v hv i w hw j hj
    have hbyte : Color.byte w j = w.toNat / 256 ^ j % 256 := by
      rw [Color.byte, Nat.shiftRight_eq_div_pow, Nat.pow_mul]
    rw [getElem?_vertexBytes hv hw hj, hbyte]
  · intro l' heq
    rw [← readAll_vertexBytes l', heq, readAll_vertexBytes]

/-- The second of two vertices, which differ in the sign of a zero and have words that are no numbers. -/
theorem vertexBytes_exact_payload :
    let odd : Single := ⟨0x7fc01234⟩
    let l : DrawList := { vertices := [⟨⟨odd, .zero⟩, ⟨.one, odd⟩, 0x11223344⟩,
      ⟨⟨odd, ⟨0x80000000⟩⟩, ⟨.one, odd⟩, 0x11223344⟩] }
    l.vertexBytes.length = 40 ∧ l.vertexBytes[27]?.map UInt8.toNat = some 0x80 ∧
      Vertex.readAll l.vertexBytes = l.vertices := by
  intro odd l
  obtain ⟨hlength, hbyte, hread, -⟩ := vertexBytes_exact l
  exact ⟨hlength, (hbyte 1 _ rfl 1 _ rfl 3 (by decide)).trans (by decide), hread⟩

end DrawList

end Casement
