import Mathlib.Data.List.TakeWhile
import Casement.Input.Text
import Casement.Number.Read
import Casement.Proofs.Number.Text

namespace Casement

open Number

theorem takeWhile_word {p : Char → Bool} {cs rest : List Char} (h : ∀ c ∈ cs, p c = true)
    (hrest : ∀ c ∈ rest.head?, p c = false) : (cs ++ rest).takeWhile p = cs := by
  rw [List.takeWhile_append_of_pos h]
  cases rest with
  | nil => exact List.append_nil cs
  | cons c rest => rw [List.takeWhile_cons_of_neg (by simp [hrest c rfl]), List.append_nil]

theorem dropWhile_word {p : Char → Bool} {cs rest : List Char} (h : ∀ c ∈ cs, p c = true)
    (hrest : ∀ c ∈ rest.head?, p c = false) : (cs ++ rest).dropWhile p = rest := by
  rw [List.dropWhile_append_of_pos h]
  cases rest with
  | nil => rfl
  | cons c rest => exact List.dropWhile_cons_of_neg (by simp [hrest c rfl])

theorem scalar?_toNat (c : Char) : scalar? (UInt32.ofNat c.toNat) = some c := by
  have hword : UInt32.ofNat c.toNat = c.val := UInt32.ofNat_toNat
  unfold scalar?
  rw [hword, dif_pos c.valid]

theorem isDigit_iff {c : Char} : isDigit 10 c = true ↔ '0' ≤ c ∧ c ≤ '9' := by
  unfold isDigit digit?
  dsimp only
  constructor
  · intro h
    by_contra hnot
    rw [if_neg hnot] at h
    have hvalue : (if 'a' ≤ c ∧ c ≤ 'z' then c.toNat - 'a'.toNat + 10
        else if 'A' ≤ c ∧ c ≤ 'Z' then c.toNat - 'A'.toNat + 10 else 10) < 10 := by
      by_contra hge
      rw [if_neg hge] at h
      cases h
    split at hvalue
    · omega
    · split at hvalue <;> omega
  · intro h
    have hle : c.toNat ≤ 57 := h.2
    have hzero : '0'.toNat = 48 := rfl
    rw [if_pos h, if_pos (by omega)]
    rfl

theorem ne_of_isDigit {c d : Char} (hc : isDigit 10 c = true) (hd : isDigit 10 d = false) : c ≠ d := by
  rintro rfl
  rw [hc] at hd
  cases hd

theorem toList_toString (n : Int) :
    (toString n).toList = Format.signText (decide (n < 0)) ++ Nat.toDigits 10 n.natAbs := by
  cases n with
  | ofNat n =>
    have hneg : decide (Int.ofNat n < 0) = false := decide_eq_false (by simp)
    rw [hneg]
    simp [Format.signText, toString, Int.repr]
  | negSucc n =>
    have hneg : decide (Int.negSucc n < 0) = true := decide_eq_true (Int.negSucc_lt_zero n)
    rw [hneg]
    simp [Format.signText, toString, Int.repr]

theorem not_mem_intText {c : Char} {n : Int} (hdigit : isDigit 10 c = false) (hminus : c ≠ '-') :
    c ∉ (toString n).toList := by
  rw [toList_toString, List.mem_append]
  rintro (hc | hc)
  · unfold Format.signText at hc
    split at hc
    · exact hminus (List.mem_singleton.mp hc)
    · cases hc
  · exact ne_of_isDigit (isDigit_of_mem_toDigits (by decide) (by decide) hc) hdigit rfl

theorem head?_toDigits (n : Nat) : (Nat.toDigits 10 n).head?.all (isDigit 10) = true := by
  cases hds : Nat.toDigits 10 n with
  | nil => rfl
  | cons c cs =>
    refine isDigit_of_mem_toDigits (by decide) (by decide) (n := n) ?_
    rw [hds]
    exact List.mem_cons_self

theorem signed_natAbs (n : Int) : (if decide (n < 0) = true then -(n.natAbs : Int) else n.natAbs) = n := by
  split
  · next h =>
    have := of_decide_eq_true h
    omega
  · next h =>
    have : ¬ n < 0 := fun hlt ↦ h (decide_eq_true hlt)
    omega

theorem splitSign_signText (negative : Bool) {cs : List Char} (h : cs.head?.all (isDigit 10) = true) (hne : cs ≠ []) :
    splitSign (Format.signText negative ++ cs) = (negative, cs) := by
  cases negative with
  | true => rfl
  | false =>
    cases cs with
    | nil => exact absurd rfl hne
    | cons c cs =>
      have hminus : c ≠ '-' := ne_of_isDigit h rfl
      have hplus : c ≠ '+' := ne_of_isDigit h rfl
      change splitSign (c :: cs) = _
      rw [splitSign]
      all_goals simp_all

theorem splitAt?_eq_none {p : Char → Bool} {cs : List Char} (h : ∀ c ∈ cs, p c = false) :
    splitAt? p cs = (cs, none) := by
  have hdrop : cs.dropWhile (!p ·) = [] := List.dropWhile_eq_nil_iff.mpr fun c hc ↦ by simp [h c hc]
  unfold splitAt?
  rw [hdrop]

theorem splitAt?_append {p : Char → Bool} {cs : List Char} {d : Char} (h : ∀ c ∈ cs, p c = false) (hd : p d = true)
    (rest : List Char) : splitAt? p (cs ++ d :: rest) = (cs, some rest) := by
  have hpass : ∀ c ∈ cs, (!p c) = true := fun c hc ↦ by simp [h c hc]
  have hstop : ∀ c ∈ (d :: rest).head?, (!p c) = false := by
    intro c hc
    cases hc
    simp [hd]
  have hdrop := dropWhile_word hpass hstop
  have htake := takeWhile_word hpass hstop
  unfold splitAt?
  rw [hdrop, htake]

namespace Number.Pointed

variable {whole places : List Char}

theorem head?_all (h : Pointed whole places) : (whole ++ '.' :: places).head?.all (isDigit 10) = true := by
  cases whole with
  | nil => exact absurd rfl h.whole_ne
  | cons c whole => exact h.digits c List.mem_cons_self

theorem isDigit_of_mem (h : Pointed whole places) {c : Char} (hc : c ∈ whole ++ '.' :: places) (hpoint : c ≠ '.') :
    isDigit 10 c = true := by
  refine h.digits c ?_
  simp only [List.mem_append, List.mem_cons] at hc ⊢
  rcases hc with hc | hc | hc
  · exact .inl hc
  · exact absurd hc hpoint
  · exact .inr hc

theorem splitSign (h : Pointed whole places) (negative : Bool) :
    Number.splitSign (Format.signText negative ++ (whole ++ '.' :: places)) = (negative, whole ++ '.' :: places) :=
  splitSign_signText negative h.head?_all (by simp)

theorem splitAt?_mark (h : Pointed whole places) :
    splitAt? isExponentMark (whole ++ '.' :: places) = (whole ++ '.' :: places, none) := by
  refine splitAt?_eq_none fun c hc ↦ ?_
  by_cases hpoint : c = '.'
  · rw [hpoint]
    rfl
  · have hdigit := h.isDigit_of_mem hc hpoint
    simp [isExponentMark, ne_of_isDigit hdigit (d := 'e') rfl, ne_of_isDigit hdigit (d := 'E') rfl]

theorem splitAt?_point (h : Pointed whole places) :
    splitAt? (· = '.') (whole ++ '.' :: places) = (whole, some places) := by
  refine splitAt?_append (fun c hc ↦ ?_) (by simp) places
  have hdigit := h.digits c (List.mem_append_left _ hc)
  simp [ne_of_isDigit hdigit (d := '.') rfl]

theorem not_mem (h : Pointed whole places) {negative : Bool} {c : Char} (hdigit : isDigit 10 c = false)
    (hpoint : c ≠ '.') (hminus : c ≠ '-') : c ∉ Format.signText negative ++ (whole ++ '.' :: places) := by
  rw [List.mem_append]
  rintro (hc | hc)
  · unfold Format.signText at hc
    split at hc
    · exact hminus (List.mem_singleton.mp hc)
    · cases hc
  · rw [h.isDigit_of_mem hc hpoint] at hdigit
    cases hdigit

theorem not_mem_tail (h : Pointed whole places) (negative : Bool) :
    ∀ c ∈ (Format.signText negative ++ (whole ++ '.' :: places)).tail, c ≠ '-' := by
  rintro c hc rfl
  have hmem : '-' ∈ whole ++ '.' :: places := by
    cases negative with
    | true => exact hc
    | false => exact List.mem_of_mem_tail hc
  have := h.isDigit_of_mem hmem (by decide)
  cases this

end Number.Pointed

end Casement
