import Casement.Config.Toml.Reader
import Casement.Proofs.Number.Words
import Casement.Proofs.Toml.Quoting

namespace Casement.Toml

open Number

variable {c : Char} {cs rest : List Char}

theorem groupedDigits?_eq (hne : cs ≠ []) (h : ∀ c ∈ cs, isDigit 10 c = true) : groupedDigits? 10 cs = some cs := by
  induction cs with
  | nil => exact absurd rfl hne
  | cons c cs ih =>
    obtain ⟨hc, hcs⟩ := List.forall_mem_cons.mp h
    cases cs with
    | nil => rw [groupedDigits?, if_pos hc]
    | cons d cs =>
      have hd : d ≠ '_' := ne_of_isDigit (hcs d List.mem_cons_self) rfl
      rw [groupedDigits?, if_pos hc, ih (by simp) hcs]
      · rfl
      all_goals simp_all

theorem groupedDigits?_eq_none (hc : c ∈ cs) (hdigit : isDigit 10 c = false) (hmark : c ≠ '_') :
    groupedDigits? 10 cs = none := by
  fun_induction groupedDigits? 10 cs with
  | case1 => cases hc
  | case2 d hd =>
    rw [List.mem_singleton.mp hc, hd] at hdigit
    cases hdigit
  | case3 => rfl
  | case4 d cs hd ih =>
    rw [ih, Option.map_none]
    simp only [List.mem_cons] at hc
    rcases hc with rfl | hc | hc
    · rw [hd] at hdigit
      cases hdigit
    · exact absurd hc hmark
    · exact hc
  | case5 => rfl
  | case6 d cs hcs hunder hd ih =>
    rw [ih, Option.map_none]
    rcases List.mem_cons.mp hc with rfl | hc
    · rw [hd] at hdigit
      cases hdigit
    · exact hc
  | case7 => rfl

theorem wholeDigits?_eq (hne : cs ≠ []) (h : ∀ c ∈ cs, isDigit 10 c = true)
    (hlead : cs = ['0'] ∨ cs.head? ≠ some '0') : wholeDigits? cs = some cs := by
  unfold wholeDigits?
  rw [groupedDigits?_eq hne h]
  split
  · next d ds heq =>
    cases heq
    rcases hlead with hlead | hlead
    · cases hlead
    · exact absurd rfl hlead
  · rfl

theorem integer?_eq {word : List Char} (hx : 'x' ∉ word) (ho : 'o' ∉ word) (hb : 'b' ∉ word) :
    integer? word = (((wholeDigits? (splitSign word).2).map fun ds =>
      if (splitSign word).1 then -(ofDigits 10 ds : Int) else ofDigits 10 ds).filter inRange) := by
  unfold integer?
  dsimp only
  split
  · simp at hx
  · simp at ho
  · simp at hb
  · rfl

theorem wholeDigits?_toDigits (n : Nat) : wholeDigits? (Nat.toDigits 10 n) = some (Nat.toDigits 10 n) := by
  refine wholeDigits?_eq Nat.toDigits_ne_nil (fun c hc ↦ isDigit_of_mem_toDigits (by decide) (by decide) hc) ?_
  by_cases hn : n = 0
  · subst hn
    exact .inl (Nat.toDigits_zero 10)
  · exact .inr (head_toDigits hn)

theorem integer?_intText {n : Int} (hn : inRange n = true) : integer? (toString n).toList = some n := by
  rw [integer?_eq (not_mem_intText rfl (by decide)) (not_mem_intText rfl (by decide))
    (not_mem_intText rfl (by decide)), toList_toString, splitSign_signText _ (head?_toDigits _) Nat.toDigits_ne_nil]
  dsimp only
  rw [wholeDigits?_toDigits, Option.map_some, ofDigits_toDigits (by decide) (by decide)]
  rw [signed_natAbs, Option.filter_some, if_pos hn]

theorem isTime_eq_false {tail : List Char → Bool} (h : ':' ∉ cs) : isTime tail cs = false := by
  unfold isTime
  split
  · simp at h
  · rfl

theorem isDate_eq_false (h : ∀ c ∈ cs.tail, c ≠ '-') : isDate cs = false := by
  unfold isDate
  split
  · simp at h
  · rfl

/-- A word without colons, and without a minus but in front, is no point in time. -/
theorem isMoment_eq_false (hcolon : ':' ∉ cs) (hminus : ∀ c ∈ cs.tail, c ≠ '-') : isMoment cs = false := by
  unfold isMoment
  rw [isTime_eq_false hcolon, Bool.false_or]
  split
  · exact isDate_eq_false hminus
  · rw [isDate_eq_false, Bool.false_and, Bool.false_and]
    intro c hc
    cases cs with
    | nil => simp at hc
    | cons d cs => exact hminus c (List.mem_of_mem_take (by simpa using hc))

theorem scientific?_pointed {whole places : List Char} (h : Pointed whole places) (negative : Bool) :
    scientific? (Format.signText negative ++ (whole ++ '.' :: places)) =
      some ⟨negative, ofDigits 10 (whole ++ places), -(places.length : Int)⟩ := by
  have hwhole := wholeDigits?_eq h.whole_ne (fun c hc ↦ h.digits c (List.mem_append_left _ hc)) h.lead
  have hplaces := groupedDigits?_eq h.places_ne fun c hc ↦ h.digits c (List.mem_append_right _ hc)
  unfold scientific?
  rw [h.splitSign]
  dsimp only
  rw [h.splitAt?_mark]
  dsimp only
  rw [h.splitAt?_point]
  dsimp only
  rw [hwhole]
  simp [hplaces]

theorem integer?_pointed {whole places : List Char} (h : Pointed whole places) (negative : Bool) :
    integer? (Format.signText negative ++ (whole ++ '.' :: places)) = none := by
  have hpoint : groupedDigits? 10 (whole ++ '.' :: places) = none :=
    groupedDigits?_eq_none (c := '.') (by simp) rfl (by decide)
  rw [integer?_eq (h.not_mem rfl (by decide) (by decide)) (h.not_mem rfl (by decide) (by decide))
    (h.not_mem rfl (by decide) (by decide)), h.splitSign, wholeDigits?, hpoint]
  rfl

theorem float?_pointed {whole places : List Char} (h : Pointed whole places) {negative : Bool} {word : Nat}
    (hvalue : Format.double.ofDecimal negative (ofDigits 10 (whole ++ places)) (-(places.length : Int)) = word)
    (hfin : word ≠ Format.double.infinity) :
    float? (Format.signText negative ++ (whole ++ '.' :: places)) = some word := by
  have hlead {c : Char} {cs : List Char} (hc : isDigit 10 c = false) : whole ++ '.' :: places ≠ c :: cs := by
    intro heq
    have hhead := h.head?_all
    rw [heq] at hhead
    change isDigit 10 c = true at hhead
    rw [hc] at hhead
    cases hhead
  unfold float?
  rw [h.splitSign]
  dsimp only
  rw [if_neg (hlead rfl), if_neg (hlead rfl), scientific?_pointed h, Option.map_some, Scientific.round, hvalue,
    Option.filter_some, if_pos (by simpa using hfin)]

theorem scalar?_pointed {whole places : List Char} (h : Pointed whole places) {negative : Bool} {word : Nat}
    (hvalue : Format.double.ofDecimal negative (ofDigits 10 (whole ++ places)) (-(places.length : Int)) = word)
    (hfin : word ≠ Format.double.infinity) :
    scalar? (Format.signText negative ++ (whole ++ '.' :: places)) = some (.float word) := by
  have hpoint : '.' ∈ Format.signText negative ++ (whole ++ '.' :: places) := by simp
  unfold scalar?
  rw [if_neg, if_neg, isMoment_eq_false (h.not_mem rfl (by decide) (by decide)) (h.not_mem_tail negative),
    if_neg (by simp), integer?_pointed h, float?_pointed h hvalue hfin]
  · intro heq
    rw [heq] at hpoint
    simp at hpoint
  · intro heq
    rw [heq] at hpoint
    simp at hpoint

theorem scalar?_intText {n : Int} (hn : inRange n = true) : scalar? (toString n).toList = some (.integer n) := by
  have hminus : ∀ c ∈ (toString n).toList.tail, c ≠ '-' := by
    rintro c hc rfl
    rw [toList_toString] at hc
    have hmem : '-' ∈ Nat.toDigits 10 n.natAbs := by
      cases hneg : decide (n < 0) with
      | true =>
        rw [hneg] at hc
        exact hc
      | false =>
        rw [hneg] at hc
        exact List.mem_of_mem_tail hc
    have := isDigit_of_mem_toDigits (by decide) (by decide) hmem
    cases this
  have hletter : 't' ∉ (toString n).toList ∧ 'f' ∉ (toString n).toList :=
    ⟨not_mem_intText rfl (by decide), not_mem_intText rfl (by decide)⟩
  unfold scalar?
  rw [if_neg, if_neg, isMoment_eq_false (not_mem_intText rfl (by decide)) hminus, if_neg (by simp), integer?_intText hn]
  · intro heq
    rw [heq] at hletter
    simp at hletter
  · intro heq
    rw [heq] at hletter
    simp at hletter

theorem scalar?_floatText {word : Nat} (h : Format.double.IsNumber word) :
    scalar? (Format.double.write floats word).toList = some (.float word) := by
  cases hdecode : Format.double.decode word with
  | nan negative => exact absurd hdecode (h.not_nan negative)
  | finite negative units =>
    obtain ⟨whole, places, htext, hpointed, hvalue⟩ := Format.write_pointed Format.ordinary_double "nan" h.lt hdecode
    have hfin : word ≠ Format.double.infinity := by
      rintro rfl
      have hinfinite : Format.double.decode Format.double.infinity = .infinite false := by decide +kernel
      rw [hinfinite] at hdecode
      cases hdecode
    rw [floats, htext]
    exact scalar?_pointed hpointed hvalue hfin
  | infinite negative =>
    rw [Format.write_infinite .double floats hdecode, h.eq_infinity hdecode]
    cases negative <;> rfl

theorem isWordChar_of_isDigit (h : isDigit 10 c = true) : isWordChar c = true := by
  obtain ⟨hlow, hhigh⟩ := isDigit_iff.mp h
  have hdigit : c.isDigit = true := by
    simp only [Char.isDigit, Bool.and_eq_true, decide_eq_true_eq]
    exact ⟨hlow, hhigh⟩
  simp [isWordChar, Char.isAlphanum, hdigit]

theorem isWordChar_of_mem_signText {negative : Bool} (h : c ∈ Format.signText negative) : isWordChar c = true := by
  unfold Format.signText at h
  split at h
  · rw [List.mem_singleton.mp h]
    rfl
  · cases h

theorem isWordChar_intText (n : Int) : ∀ c ∈ (toString n).toList, isWordChar c = true := by
  intro c hc
  rw [toList_toString, List.mem_append] at hc
  rcases hc with hc | hc
  · exact isWordChar_of_mem_signText hc
  · exact isWordChar_of_isDigit (isDigit_of_mem_toDigits (by decide) (by decide) hc)

theorem isWordChar_floatText {word : Nat} (h : Format.double.IsNumber word) :
    ∀ c ∈ (Format.double.write floats word).toList, isWordChar c = true := by
  intro c hc
  cases hdecode : Format.double.decode word with
  | nan negative => exact absurd hdecode (h.not_nan negative)
  | finite negative units =>
    obtain ⟨whole, places, htext, hpointed, -⟩ := Format.write_pointed Format.ordinary_double "nan" h.lt hdecode
    rw [floats, htext, List.mem_append] at hc
    rcases hc with hc | hc
    · exact isWordChar_of_mem_signText hc
    · by_cases hpoint : c = '.'
      · rw [hpoint]
        rfl
      · exact isWordChar_of_isDigit (hpointed.isDigit_of_mem hc hpoint)
  | infinite negative =>
    rw [Format.write_infinite .double floats hdecode, List.mem_append] at hc
    rcases hc with hc | hc
    · exact isWordChar_of_mem_signText hc
    · simp only [List.mem_cons, List.not_mem_nil, or_false] at hc
      rcases hc with rfl | rfl | rfl <;> rfl

theorem splitWord_eq (h : ∀ c ∈ cs, isWordChar c = true) (rest : List Char) :
    splitWord (cs ++ '\n' :: rest) = (cs, '\n' :: rest) := by
  have hstop : ∀ c ∈ ('\n' :: rest).head?, isWordChar c = false := by
    intro c hc
    cases hc
    rfl
  have hdrop := dropWhile_word h hstop
  have htake := takeWhile_word h hstop
  unfold splitWord
  rw [hdrop, htake]
  rfl

inductive Plain : Value → Prop
  | string (s : String) : Plain (.string s)
  | integer {n : Int} (h : inRange n = true) : Plain (.integer n)
  | float {word : Nat} (h : Format.double.IsNumber word) : Plain (.float word)
  | empty : Plain (.array [])

theorem ne_nil_of_scalar? {v : Value} (h : scalar? cs = some v) : cs ≠ [] := by
  rintro rfl
  cases h

theorem value?_word {v : Value} (hword : ∀ c ∈ cs, isWordChar c = true) (h : scalar? cs = some v)
    (n depth : Nat) (rest : List Char) : value? (n + 1) depth (cs ++ '\n' :: rest) = some (v, '\n' :: rest) := by
  have hlead {d : Char} {more : List Char} (hd : isWordChar d = false) : cs ++ '\n' :: rest ≠ d :: more := by
    intro heq
    cases cs with
    | nil => exact ne_nil_of_scalar? h rfl
    | cons c cs =>
      rw [List.cons_append, List.cons.injEq] at heq
      have hc := hword c List.mem_cons_self
      rw [heq.1, hd] at hc
      cases hc
  have hsplit := splitWord_eq hword rest
  generalize cs ++ '\n' :: rest = text at hlead hsplit ⊢
  unfold value?
  split
  · exact absurd rfl (hlead rfl)
  · exact absurd rfl (hlead rfl)
  · exact absurd rfl (hlead rfl)
  · exact absurd rfl (hlead rfl)
  · rw [hsplit]
    dsimp only
    rw [h]
    rfl

theorem exists_quote (cs : List Char) : ∃ c more, quote cs = c :: more ∧ (c = '"' ∨ c = '\'') := by
  unfold quote
  cases quoting cs with
  | basic => exact ⟨_, _, rfl, .inl rfl⟩
  | literal => exact ⟨_, _, rfl, .inr rfl⟩
  | multiBasic => exact ⟨_, _, rfl, .inl rfl⟩
  | multiLiteral => exact ⟨_, _, rfl, .inr rfl⟩

theorem Plain.value?_line {v : Value} (h : Plain v) (n depth : Nat) (rest : List Char) :
    value? (n + 2) (depth + 1) (v.line ++ '\n' :: rest) = some (v, '\n' :: rest) := by
  cases h with
  | string s =>
    have hread : string? (quote s.toList ++ '\n' :: rest) = some (s.toList, '\n' :: rest) :=
      string?_quote s.toList (by simp) (by simp)
    obtain ⟨c, more, hquote, hc⟩ := exists_quote s.toList
    rw [Value.line]
    rw [hquote, List.cons_append] at hread ⊢
    unfold value?
    rcases hc with rfl | rfl
    · rw [hread, Option.map_some]
      exact congrArg (fun text => some (Value.string text, '\n' :: rest)) String.ofList_toList
    · rw [hread, Option.map_some]
      exact congrArg (fun text => some (Value.string text, '\n' :: rest)) String.ofList_toList
  | integer h => exact value?_word (isWordChar_intText _) (scalar?_intText h) _ _ _
  | float h => exact value?_word (isWordChar_floatText h) (scalar?_floatText h) _ _ _
  | empty => rfl

theorem skipBlanks_of_word (hne : cs ≠ []) (h : ∀ c ∈ cs, isWordChar c = true) (rest : List Char) :
    skipBlanks (cs ++ rest) = cs ++ rest := by
  cases cs with
  | nil => exact absurd rfl hne
  | cons c cs =>
    have hc := h c List.mem_cons_self
    refine List.dropWhile_cons_of_neg ?_
    simp only [isBlank, Bool.or_eq_true, decide_eq_true_eq]
    rintro (rfl | rfl) <;> cases hc

theorem Plain.skipBlanks_line {v : Value} (h : Plain v) (rest : List Char) :
    skipBlanks (v.line ++ rest) = v.line ++ rest := by
  cases h with
  | string s =>
    obtain ⟨c, more, hquote, hc⟩ := exists_quote s.toList
    rw [Value.line, hquote]
    refine List.dropWhile_cons_of_neg ?_
    rcases hc with rfl | rfl <;> decide
  | integer h => exact skipBlanks_of_word (ne_nil_of_scalar? (scalar?_intText h)) (isWordChar_intText _) rest
  | float h => exact skipBlanks_of_word (ne_nil_of_scalar? (scalar?_floatText h)) (isWordChar_floatText h) rest
  | empty => rfl

end Casement.Toml
