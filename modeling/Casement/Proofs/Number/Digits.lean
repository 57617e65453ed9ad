import Mathlib.Data.List.Basic
import Mathlib.Tactic.IntervalCases
import Mathlib.Tactic.Ring
import Casement.Number.Read

namespace Casement.Number

variable {base : Nat}

theorem digit?_digitChar {n : Nat} (hn : n < base) (hbase : base ≤ 16) : digit? base n.digitChar = some n := by
  have hlt : n < 16 := by omega
  unfold digit?
  interval_cases n <;> exact if_pos hn

theorem isDigit_digitChar {n : Nat} (hn : n < base) (hbase : base ≤ 16) : isDigit base n.digitChar = true := by
  rw [isDigit, digit?_digitChar hn hbase]
  rfl

theorem ofDigits_append (base : Nat) (cs ds : List Char) :
    ofDigits base (cs ++ ds) = ofDigits base cs * base ^ ds.length + ofDigits base ds := by
  have hfold (n : Nat) (ds : List Char) : ds.foldl (fun n c => base * n + (digit? base c).getD 0) n =
      n * base ^ ds.length + ofDigits base ds := by
    induction ds generalizing n with
    | nil => simp [ofDigits]
    | cons c ds ih =>
      have hcons : ofDigits base (c :: ds) =
        (base * 0 + (digit? base c).getD 0) * base ^ ds.length + ofDigits base ds := ih _
      rw [List.foldl_cons, ih, hcons, List.length_cons, pow_succ]
      ring
  rw [ofDigits, List.foldl_append, hfold]
  rfl

theorem ofDigits_singleton {n : Nat} (hn : n < base) (hbase : base ≤ 16) : ofDigits base [n.digitChar] = n := by
  simp [ofDigits, digit?_digitChar hn hbase]

/-- The digits of a number by their last one. -/
theorem toDigits_induction (hbase : 1 < base) (motive : Nat → List Char → Prop)
    (single : ∀ n, n < base → motive n [n.digitChar])
    (digit : ∀ n, base ≤ n → motive (n / base) (Nat.toDigits base (n / base)) →
      motive n (Nat.toDigits base (n / base) ++ [(n % base).digitChar])) (n : Nat) :
    motive n (Nat.toDigits base n) := by
  induction n using Nat.strong_induction_on with
  | _ n ih =>
    rw [Nat.toDigits_eq_if hbase]
    split
    · next hlt => exact single n hlt
    · next hge => exact digit n (by omega) (ih _ (Nat.div_lt_self (by omega) hbase))

theorem ofDigits_toDigits (hbase : 1 < base) (hle : base ≤ 16) (n : Nat) : ofDigits base (Nat.toDigits base n) = n := by
  refine toDigits_induction hbase (fun n cs => ofDigits base cs = n) (fun n hn ↦ ofDigits_singleton hn hle)
    (fun n hn ih ↦ ?_) n
  rw [ofDigits_append, ih, ofDigits_singleton (Nat.mod_lt n (by omega)) hle, List.length_singleton, pow_one]
  exact Nat.div_add_mod' n base

theorem isDigit_of_mem_toDigits (hbase : 1 < base) (hle : base ≤ 16) {n : Nat} {c : Char}
    (h : c ∈ Nat.toDigits base n) : isDigit base c = true := by
  revert c
  refine toDigits_induction hbase (fun _ cs => ∀ {c}, c ∈ cs → isDigit base c = true) (fun n hn c h ↦ ?_)
    (fun n hn ih c h ↦ ?_) n
  · rw [List.mem_singleton.mp h]
    exact isDigit_digitChar hn hle
  · rcases List.mem_append.mp h with h | h
    · exact ih h
    · rw [List.mem_singleton.mp h]
      exact isDigit_digitChar (Nat.mod_lt n (by omega)) hle

theorem readNat?_toDigits (hbase : 1 < base) (hle : base ≤ 16) (n : Nat) :
    readNat? base (Nat.toDigits base n) = some n := by
  have hne : (Nat.toDigits base n).isEmpty = false := by
    rw [List.isEmpty_eq_false_iff]
    exact Nat.toDigits_ne_nil
  have hall : (Nat.toDigits base n).all (isDigit base) = true :=
    List.all_eq_true.mpr fun _ h ↦ isDigit_of_mem_toDigits hbase hle h
  rw [readNat?, hne, hall, ofDigits_toDigits hbase hle]
  rfl

theorem head_toDigits {n : Nat} (hn : n ≠ 0) : (Nat.toDigits 10 n).head? ≠ some '0' := by
  revert hn
  refine toDigits_induction (by decide) (fun n cs => n ≠ 0 → cs.head? ≠ some '0') (fun n hn hne ↦ ?_)
    (fun n hn ih hne ↦ ?_) n
  · interval_cases n <;> first | exact absurd rfl hne | decide
  · rw [List.head?_append_of_ne_nil _ Nat.toDigits_ne_nil]
    exact ih (by omega)

theorem toDigits_mul_pow {n : Nat} (hn : n ≠ 0) (k : Nat) :
    Nat.toDigits 10 (n * 10 ^ k) = Nat.toDigits 10 n ++ List.replicate k '0' := by
  induction k with
  | zero => simp
  | succ k ih =>
    have hpos : 0 < n * 10 ^ k := Nat.mul_pos (Nat.pos_of_ne_zero hn) (Nat.pow_pos (by decide))
    have hstep := Nat.toDigits_append_toDigits (b := 10) (by decide) hpos (show 0 < 10 by decide)
    rw [ih, Nat.toDigits_zero, List.append_assoc, ← List.replicate_succ', Nat.add_zero] at hstep
    rw [hstep, pow_succ]
    congr 1
    ring

theorem digits_bounds {n : Nat} (h : n ≠ 0) :
    10 ^ ((Nat.toDigits 10 n).length - 1) ≤ n ∧ n < 10 ^ (Nat.toDigits 10 n).length := by
  have hpos : 0 < (Nat.toDigits 10 n).length := Nat.length_toDigits_pos
  refine ⟨?_, (Nat.length_toDigits_le_iff (by decide) hpos).mp le_rfl⟩
  by_cases hone : (Nat.toDigits 10 n).length = 1
  · rw [hone]
    exact Nat.pos_of_ne_zero h
  · by_contra hlt
    have := (Nat.length_toDigits_le_iff (by decide : 1 < 10) (by omega)).mpr (Nat.lt_of_not_le hlt)
    omega

end Casement.Number
