import Casement.Host.Basic
import Mathlib.Data.Int.ConditionallyCompleteOrder
import Mathlib.Order.ConditionallyCompleteLattice.Basic
import Mathlib.Order.Interval.Set.UnorderedInterval

namespace Casement

def saturated (n : Int) : Int := max Int32.minValue.toInt (min Int32.maxValue.toInt n)

theorem toInt_ofIntClamp_eq (n : Int) : (Int32.ofIntClamp n).toInt = saturated n := by
  have hends : Int32.minValue.toInt ≤ Int32.maxValue.toInt := by decide
  unfold Int32.ofIntClamp saturated
  split
  · split
    · rw [Int32.toInt_ofIntLE]
      omega
    · omega
  · omega

theorem toInt_satAdd (a b : Int32) : (satAdd a b).toInt = saturated (a.toInt + b.toInt) := toInt_ofIntClamp_eq _

theorem toInt_satSub (a b : Int32) : (satSub a b).toInt = saturated (a.toInt - b.toInt) := toInt_ofIntClamp_eq _

theorem toInt_bounds (a : Int32) : Int32.minValue.toInt ≤ a.toInt ∧ a.toInt ≤ Int32.maxValue.toInt := by
  have hlow := a.le_toInt
  have hhigh := a.toInt_lt
  rw [Int32.toInt_minValue, Int32.toInt_maxValue]
  omega

theorem toInt_satSub_of_mem {a b c : Int32} (h : a.toInt - b.toInt ∈ Set.uIcc 0 c.toInt) :
    (satSub a b).toInt = a.toInt - b.toInt := by
  have hc := toInt_bounds c
  have hzero := toInt_bounds 0
  rw [Int32.toInt_zero] at hzero
  rw [Set.mem_uIcc] at h
  rw [toInt_satSub, saturated]
  omega

section Extent

variable (a b : Int32)

theorem satAdd_sub_mem : (satAdd a b).toInt - a.toInt ∈ Set.uIcc 0 b.toInt := by
  have ha := toInt_bounds a
  rw [Set.mem_uIcc, toInt_satAdd, saturated]
  omega

theorem toInt_extent : (satSub (satAdd a b) a).toInt = (satAdd a b).toInt - a.toInt :=
  toInt_satSub_of_mem (satAdd_sub_mem a b)

theorem extent_mem : (satSub (satAdd a b) a).toInt ∈ Set.uIcc 0 b.toInt := by
  rw [toInt_extent]
  exact satAdd_sub_mem a b

theorem extent_eq_iff : satSub (satAdd a b) a = b ↔
    a.toInt + b.toInt ∈ Set.Icc Int32.minValue.toInt Int32.maxValue.toInt := by
  rw [← Int32.toInt_inj, toInt_extent, toInt_satAdd, saturated, Set.mem_Icc]
  have hends : Int32.minValue.toInt ≤ Int32.maxValue.toInt := by decide
  omega

/-- The extent that was read off leads to the same far edge. -/
theorem satAdd_extent : satAdd a (satSub (satAdd a b) a) = satAdd a b := by
  have hfar := toInt_bounds (satAdd a b)
  apply Int32.toInt_inj.mp
  rw [toInt_satAdd a (satSub (satAdd a b) a), toInt_extent, saturated]
  omega

variable {a b} {p : Int32}

theorem toInt_satSub_of_between (hnear : a ≤ p) (hfar : p < satAdd a b) :
    (satSub p a).toInt = p.toInt - a.toInt := by
  apply toInt_satSub_of_mem (c := satSub (satAdd a b) a)
  rw [Int32.le_iff_toInt_le] at hnear
  rw [Int32.lt_iff_toInt_lt] at hfar
  rw [toInt_extent, Set.mem_uIcc]
  omega

theorem satSub_mem_of_between (hnear : a ≤ p) (hfar : p < satAdd a b) :
    (satSub p a).toInt ∈ Set.Ico 0 (satSub (satAdd a b) a).toInt := by
  rw [toInt_satSub_of_between hnear hfar, toInt_extent, Set.mem_Ico]
  rw [Int32.le_iff_toInt_le] at hnear
  rw [Int32.lt_iff_toInt_lt] at hfar
  omega

end Extent

namespace Rect

theorem contains_iff {r : Rect} {p : Point} : r.contains p = true ↔
    (r.left ≤ p.x ∧ p.x < r.right) ∧ r.top ≤ p.y ∧ p.y < r.bottom := by
  simp only [contains, Bool.and_eq_true, decide_eq_true_eq, and_assoc]

/-- Whatever the place and the size asked for, the size of a rectangle is what lies between its edges,
never more than was asked for, and all of it exactly if the far edge is in range. Building a rectangle
from its place and size gives it back. Points inside are seen from a window there at their true
distances from its origin. -/
theorem saturation_exact (x y w h : Int32) (s : Host) (native : NativeHandle) (p : Point) :
    let r := ofPosSize x y w h
    let range := Set.Icc Int32.minValue.toInt Int32.maxValue.toInt
    (r.left.toInt + r.width.toInt = r.right.toInt ∧ r.top.toInt + r.height.toInt = r.bottom.toInt) ∧
    (r.width.toInt ∈ Set.uIcc 0 w.toInt ∧ r.height.toInt ∈ Set.uIcc 0 h.toInt) ∧
    ((r.width = w ↔ x.toInt + w.toInt ∈ range) ∧ (r.height = h ↔ y.toInt + h.toInt ∈ range)) ∧
    ofPosSize r.left r.top r.width r.height = r ∧
    (s.rect native = r → r.contains p = true →
      let q := s.toClient native p
      (q.x.toInt = p.x.toInt - r.left.toInt ∧ q.y.toInt = p.y.toInt - r.top.toInt) ∧
      q.x.toInt ∈ Set.Ico 0 r.width.toInt ∧ q.y.toInt ∈ Set.Ico 0 r.height.toInt) := by
  intro r range
  have hwidth : r.width.toInt = r.right.toInt - r.left.toInt := toInt_extent x w
  have hheight : r.height.toInt = r.bottom.toInt - r.top.toInt := toInt_extent y h
  refine ⟨⟨by omega, by omega⟩, ⟨extent_mem x w, extent_mem y h⟩, ⟨extent_eq_iff x w, extent_eq_iff y h⟩,
    ?_, ?_⟩
  · have hright : satAdd r.left r.width = r.right := satAdd_extent x w
    have hbottom : satAdd r.top r.height = r.bottom := satAdd_extent y h
    rw [ofPosSize, hright, hbottom]
  · intro hrect hinside q
    have hq : q = p.relativeTo r.origin := by rw [← hrect]; rfl
    obtain ⟨⟨hleft, hright⟩, htop, hbottom⟩ := contains_iff.mp hinside
    rw [hq]
    exact ⟨⟨toInt_satSub_of_between hleft hright, toInt_satSub_of_between htop hbottom⟩,
      satSub_mem_of_between hleft hright, satSub_mem_of_between htop hbottom⟩

/-- A window over the right end of the range, at the top end. -/
theorem saturation_exact_corner :
    let r := ofPosSize 2147483637 (-2147483648) 400 300
    let s := ({} : Host).addWindow "edge" r
    let p : Point := ⟨2147483646, -2147483643⟩
    s.rect ⟨1⟩ = r ∧ r.contains p = true ∧ r.width ≠ 400 ∧ r.height = 300 ∧
      (s.toClient ⟨1⟩ p).x.toInt = 9 ∧ (s.toClient ⟨1⟩ p).y.toInt = 5 := by
  intro r s p
  have hrect : s.rect ⟨1⟩ = r := by decide
  have hinside : r.contains p = true := by decide
  obtain ⟨-, -, ⟨hwidth, hheight⟩, -, hclient⟩ := saturation_exact 2147483637 (-2147483648) 400 300 s ⟨1⟩ p
  obtain ⟨⟨hx, hy⟩, -⟩ := hclient hrect hinside
  refine ⟨hrect, hinside, fun hfull ↦ absurd (hwidth.mp hfull).2 (by decide), hheight.mpr ⟨by decide, by decide⟩,
    hx.trans (by decide), hy.trans (by decide)⟩

end Rect

end Casement
