import Casement.Config.Records
import Casement.Config.Ron.Writer
import Casement.Proofs.Number.Words

namespace Casement.Ron

open Number

variable {c : Char} {cs rest : List Char}

theorem space?_append (blanks : List Char) (h : ∀ c ∈ blanks, isSpace c = true)
    (hrest : ∀ c ∈ rest.head?, isSpace c = false ∧ c ≠ '/') : space? (blanks ++ rest) = some rest := by
  have hdrop := dropWhile_word h fun c hc ↦ (hrest c hc).1
  rw [space?, skipSpace?, hdrop]
  split
  · exact absurd rfl (hrest '/' rfl).2
  · exact absurd rfl (hrest '/' rfl).2
  · exact absurd rfl (hrest '/' rfl).2
  · rfl

theorem space?_cons (hspace : isSpace c = false) (hslash : c ≠ '/') (cs : List Char) :
    space? (c :: cs) = some (c :: cs) := by
  refine space?_append [] (by simp) ?_
  intro d hd
  cases hd
  exact ⟨hspace, hslash⟩

theorem head?_any_eq_false {p : Char → Bool} (h : ∀ c ∈ rest.head?, p c = false) : rest.head?.any p = false := by
  cases hhead : rest.head? with
  | none => rfl
  | some c => exact h c hhead

structure IsName (name : String) : Prop where
  start : ∀ c ∈ name.toList.head?, isNameStart c = true ∧ c ≠ 'r'
  all : ∀ c ∈ name.toList, isNameChar c = true
  ne_nil : name.toList ≠ []

def isName (name : String) : Bool :=
  name.toList.head?.any (fun c => isNameStart c && c != 'r') && name.toList.all isNameChar

theorem isName_of_check {name : String} (h : isName name = true) : IsName name := by
  rw [isName, Bool.and_eq_true] at h
  obtain ⟨hhead, hall⟩ := h
  refine ⟨fun c hc ↦ ?_, List.all_eq_true.mp hall, fun hnil ↦ ?_⟩
  · rw [Option.mem_def.mp hc] at hhead
    simpa using hhead
  · rw [hnil] at hhead
    cases hhead

theorem IsName.exists_cons {name : String} (h : IsName name) :
    ∃ c cs, name.toList = c :: cs ∧ isNameStart c = true ∧ c ≠ 'r' := by
  have hstart := h.start
  cases hname : name.toList with
  | nil => exact absurd hname h.ne_nil
  | cons c cs =>
    rw [hname] at hstart
    exact ⟨c, cs, rfl, hstart c rfl⟩

theorem name?_append {name : String} (h : IsName name) (hrest : ∀ c ∈ rest.head?, isRawChar c = false) :
    name? (name.toList ++ rest) = some (name, rest) := by
  have hplain : ∀ c ∈ rest.head?, isNameChar c = false := by
    intro c hc
    have hraw := hrest c hc
    simp only [isRawChar, Bool.or_eq_false_iff] at hraw
    exact hraw.1.1.1
  have hdrop := dropWhile_word h.all hplain
  have htake := takeWhile_word h.all hplain
  have hany := head?_any_eq_false hrest
  obtain ⟨c, cs, hname, hstart, hr⟩ := h.exists_cons
  have htext : name.toList ++ rest = c :: (cs ++ rest) := by rw [hname, List.cons_append]
  generalize name.toList ++ rest = text at hdrop htake htext ⊢
  subst htext
  rw [name?]
  · simp only [hstart, if_true]
    rw [hdrop, htake, hany, String.ofList_toList]
    rfl
  all_goals simp_all

theorem toDigits_length_le (c : Char) : (Nat.toDigits 16 c.toNat).length ≤ 6 := by
  have hlt : c.toNat < 16 ^ 6 := by
    have hvalid := c.valid
    have hval : c.toNat = c.val.toNat := rfl
    rcases hvalid with h | ⟨-, h⟩ <;> omega
  exact (Nat.length_toDigits_le_iff (by decide) (by decide)).mpr hlt

theorem scalarOfHex?_toDigits (c : Char) : scalarOfHex? (Nat.toDigits 16 c.toNat) = some c := by
  rw [scalarOfHex?, readNat?_toDigits (by decide) (by decide), Option.bind_some, scalar?_toNat]

theorem escape?_code (c : Char) (rest : List Char) :
    escape? ('u' :: '\x7b' :: (Nat.toDigits 16 c.toNat ++ '\x7d' :: rest)) = some (c, rest) := by
  have hdigits : ∀ d ∈ Nat.toDigits 16 c.toNat, decide (d ≠ '\x7d') = true := by
    intro d hd
    have hdigit : isDigit 16 d = true := isDigit_of_mem_toDigits (by decide) (by decide) hd
    refine decide_eq_true ?_
    rintro rfl
    cases hdigit
  have htake : (Nat.toDigits 16 c.toNat ++ '\x7d' :: rest).takeWhile (· ≠ '\x7d') = Nat.toDigits 16 c.toNat := by
    refine takeWhile_word hdigits ?_
    intro d hd
    cases hd
    rfl
  rw [escape?]
  simp only [htake, List.drop_left, toDigits_length_le, scalarOfHex?_toDigits, if_true, Option.map_some]

theorem text?_escape (n : Nat) (c : Char) (rest : List Char) :
    text? (n + 1) (escape c ++ rest) = (text? n rest).map fun read => (c :: read.1, read.2) := by
  unfold escape
  split
  · rfl
  · rfl
  · rfl
  · rfl
  · rfl
  · rfl
  · rfl
  · next hquote hslash =>
    split
    · change text? (n + 1) ('\\' :: 'u' :: '\x7b' :: ((Nat.toDigits 16 c.toNat ++ ['\x7d']) ++ rest)) = _
      rw [List.append_assoc, text?, List.cons_append, List.nil_append, escape?_code]
      rfl
    · rw [List.cons_append, List.nil_append, text?]
      · exact hquote
      · exact hslash

theorem length_le_flatMap_escape (cs : List Char) : cs.length ≤ (cs.flatMap escape).length := by
  induction cs with
  | nil => exact Nat.le_refl _
  | cons c cs ih =>
    have hne : 0 < (escape c).length := by
      unfold escape
      split <;> try exact Nat.succ_pos _
      split <;> exact Nat.succ_pos _
    rw [List.flatMap_cons, List.length_append, List.length_cons]
    omega

theorem text?_quote {n : Nat} (hn : cs.length < n) (rest : List Char) :
    text? n (cs.flatMap escape ++ '"' :: rest) = some (cs, rest) := by
  induction cs generalizing n with
  | nil =>
    obtain ⟨n, rfl⟩ := Nat.exists_eq_succ_of_ne_zero (Nat.ne_of_gt hn)
    rfl
  | cons c cs ih =>
    obtain ⟨n, rfl⟩ := Nat.exists_eq_succ_of_ne_zero (by omega : n ≠ 0)
    rw [List.flatMap_cons, List.append_assoc, text?_escape, ih (by simpa using hn)]
    rfl

theorem string?_quote (s : String) (rest : List Char) : string? (quote s.toList ++ rest) = some (s, rest) := by
  have hlength := length_le_flatMap_escape s.toList
  rw [quote, List.cons_append, List.cons_append, List.append_assoc, List.cons_append, List.nil_append, string?,
    text?_quote]
  · rw [Option.map_some]
    exact congrArg (fun text => some (text, rest)) String.ofList_toList
  · rw [List.length_append]
    omega

def Ends (rest : List Char) : Prop := ∀ c ∈ rest.head?, c = ',' ∨ c = ')'

theorem ends_nil : Ends [] := by
  intro c hc
  cases hc

theorem ends_comma (rest : List Char) : Ends (',' :: rest) := by
  intro c hc
  cases hc
  exact .inl rfl

theorem ends_close (rest : List Char) : Ends (')' :: rest) := by
  intro c hc
  cases hc
  exact .inr rfl

theorem Ends.head? (h : Ends rest) {p : Char → Bool} (hcomma : p ',' = false) (hclose : p ')' = false) :
    ∀ c ∈ rest.head?, p c = false := by
  intro c hc
  rcases h c hc with rfl | rfl
  · exact hcomma
  · exact hclose

theorem isDigitChar_of_isDigit (h : isDigit 10 c = true) : isDigitChar c = true := by
  obtain ⟨hlow, hhigh⟩ := isDigit_iff.mp h
  have hle : c.toNat ≤ 57 := hhigh
  have hzero : '0'.toNat = 48 := rfl
  have hdigit : isDigit 16 c = true := by
    have hvalue : digit? 16 c = some (c.toNat - '0'.toNat) := by
      unfold digit?
      simp only [hlow, hhigh, and_self, if_true]
      exact if_pos (by omega)
    rw [isDigit, hvalue]
    rfl
  rw [isDigitChar, hdigit, Bool.true_or]

theorem isDigit_of_mem_decimal {n : Nat} (h : c ∈ Nat.toDigits 10 n) : isDigit 10 c = true :=
  isDigit_of_mem_toDigits (by decide) (by decide) h

theorem second_toDigits {n : Nat} (hrest : Ends rest) {d : Char} {more : List Char}
    (h : Nat.toDigits 10 n ++ rest = c :: d :: more) : isDigit 10 d = true ∨ d = ',' ∨ d = ')' := by
  have hdigits : ∀ c ∈ Nat.toDigits 10 n, isDigit 10 c = true := fun c hc ↦ isDigit_of_mem_decimal hc
  have hne : Nat.toDigits 10 n ≠ [] := Nat.toDigits_ne_nil
  generalize Nat.toDigits 10 n = digits at h hdigits hne
  cases digits with
  | nil => exact absurd rfl hne
  | cons first digits =>
    cases digits with
    | nil =>
      obtain rfl := (List.cons.inj h).2
      exact .inr (hrest d rfl)
    | cons second digits =>
      obtain rfl := (List.cons.inj (List.cons.inj h).2).1
      exact .inl (hdigits second (by simp))

theorem magnitude?_toDigits (n : Nat) : magnitude? (Nat.toDigits 10 n) = some n := by
  have hother {d : Char} (hd : isDigit 10 d = false) : d ∉ Nat.toDigits 10 n := fun hmem ↦
    ne_of_isDigit (isDigit_of_mem_decimal hmem) hd rfl
  have hread : readNat? 10 (Nat.toDigits 10 n) = some n := readNat?_toDigits (by decide) (by decide) n
  have hx := hother (d := 'x') rfl
  have hb := hother (d := 'b') rfl
  have ho := hother (d := 'o') rfl
  have hmark := hother (d := '_') rfl
  generalize Nat.toDigits 10 n = digits at hread hx hb ho hmark
  have hfilter : digits.filter (· ≠ '_') = digits := by
    refine List.filter_eq_self.mpr fun c hc ↦ decide_eq_true ?_
    rintro rfl
    exact hmark hc
  have hhead : digits.head? ≠ some '_' := fun h ↦ hmark (List.mem_of_mem_head? h)
  unfold magnitude?
  split
  next base ds heq =>
    split at heq
    · simp at hx
    · simp at hb
    · simp at ho
    · cases heq
      rw [if_neg hhead, hfilter, hread]

theorem naturalWord?_toDigits (n : Nat) (hrest : Ends rest) :
    naturalWord? (Nat.toDigits 10 n ++ rest) = some (Nat.toDigits 10 n, rest) := by
  have hsecond {d : Char} {more : List Char} (hd : isDigit 10 d = false) (hcomma : d ≠ ',') (hclose : d ≠ ')') :
      Nat.toDigits 10 n ++ rest ≠ '0' :: d :: more := by
    intro heq
    rcases second_toDigits hrest heq with h | h | h
    · rw [hd] at h
      cases h
    · exact hcomma h
    · exact hclose h
  have htake : (Nat.toDigits 10 n ++ rest).takeWhile isDigitChar = Nat.toDigits 10 n :=
    takeWhile_word (fun c hc ↦ isDigitChar_of_isDigit (isDigit_of_mem_decimal hc)) (hrest.head? rfl rfl)
  have hdrop : (Nat.toDigits 10 n ++ rest).drop (Nat.toDigits 10 n).length = rest := List.drop_left
  have hmagnitude := magnitude?_toDigits n
  generalize Nat.toDigits 10 n ++ rest = text at hsecond htake hdrop
  unfold naturalWord?
  split
  · exact absurd rfl (hsecond rfl (by decide) (by decide))
  · exact absurd rfl (hsecond rfl (by decide) (by decide))
  · exact absurd rfl (hsecond rfl (by decide) (by decide))
  · simp only [List.take_zero, List.nil_append, List.drop_zero, htake, hmagnitude, hdrop, Option.isSome_some, if_true]

theorem integerWord?_intText (n : Int) (hrest : Ends rest) :
    integerWord? ((toString n).toList ++ rest) = some ((toString n).toList, rest) := by
  have hnatural := naturalWord?_toDigits n.natAbs hrest
  rw [toList_toString, List.append_assoc]
  cases decide (n < 0) with
  | true =>
    change integerWord? ('-' :: (Nat.toDigits 10 n.natAbs ++ rest)) = _
    rw [integerWord?, hnatural]
    rfl
  | false =>
    have hhead := head?_toDigits n.natAbs
    have hne : Nat.toDigits 10 n.natAbs ≠ [] := Nat.toDigits_ne_nil
    change integerWord? (Nat.toDigits 10 n.natAbs ++ rest) = some (Nat.toDigits 10 n.natAbs, rest)
    generalize Nat.toDigits 10 n.natAbs = digits at hnatural hhead hne ⊢
    cases digits with
    | nil => exact absurd rfl hne
    | cons c digits =>
      have hplus : c ≠ '+' := ne_of_isDigit hhead rfl
      have hminus : c ≠ '-' := ne_of_isDigit hhead rfl
      rw [List.cons_append, integerWord?]
      · exact hnatural
      · intro more heq
        exact hplus (List.cons.inj heq).1
      · intro more heq
        exact hminus (List.cons.inj heq).1

theorem integer?_intText (n : Int) : integer? (toString n).toList = some n := by
  rw [toList_toString, integer?, splitSign_signText _ (head?_toDigits _) Nat.toDigits_ne_nil]
  dsimp only
  rw [magnitude?_toDigits]
  exact congrArg some (signed_natAbs n)

theorem readScientific?_pointed {whole places : List Char} (h : Pointed whole places) (negative : Bool) :
    readScientific? (Format.signText negative ++ (whole ++ '.' :: places)) =
      some ⟨negative, ofDigits 10 (whole ++ places), -(places.length : Int)⟩ := by
  have hread : readNat? 10 (whole ++ places) = some (ofDigits 10 (whole ++ places)) := by
    have hall : (whole ++ places).all (isDigit 10) = true := List.all_eq_true.mpr h.digits
    rw [readNat?, hall]
    simp [h.whole_ne]
  unfold readScientific?
  rw [h.splitSign]
  dsimp only
  rw [h.splitAt?_mark]
  dsimp only
  rw [h.splitAt?_point]
  dsimp only
  rw [Option.getD_some, hread]
  simp

theorem oneOf?_specials {d : Char} (hd : isDigit 10 d = true) (negative : Bool) (more : List Char) :
    oneOf? specials (Format.signText negative ++ d :: more) = none := by
  have hi : d ≠ 'i' := ne_of_isDigit hd rfl
  have hn : d ≠ 'N' := ne_of_isDigit hd rfl
  have hplus : d ≠ '+' := ne_of_isDigit hd rfl
  have hminus : d ≠ '-' := ne_of_isDigit hd rfl
  cases negative <;> simp [Format.signText, oneOf?, specials, word?, take?, hi, hn, hplus, hminus]

theorem isFloatChar_of_isDigit (h : isDigit 10 c = true) : isFloatChar c = true := by
  obtain ⟨hlow, hhigh⟩ := isDigit_iff.mp h
  have hdigit : c.isDigit = true := by
    simp only [Char.isDigit, Bool.and_eq_true, decide_eq_true_eq]
    exact ⟨hlow, hhigh⟩
  simp [isFloatChar, hdigit]

theorem isFloatChar_pointed {whole places : List Char} (h : Pointed whole places) (negative : Bool) :
    ∀ c ∈ Format.signText negative ++ (whole ++ '.' :: places), isFloatChar c = true := by
  intro c hc
  by_cases hfloat : isFloatChar c = true
  · exact hfloat
  · refine absurd hc (h.not_mem ?_ ?_ ?_)
    · exact Bool.eq_false_iff.mpr fun hdigit ↦ hfloat (isFloatChar_of_isDigit hdigit)
    · rintro rfl
      exact hfloat rfl
    · rintro rfl
      exact hfloat rfl

theorem not_mem_specials {whole places : List Char} (negative : Bool) :
    String.ofList (Format.signText negative ++ (whole ++ '.' :: places)) ∉ specials := by
  intro hmem
  have hpoint : '.' ∈ (String.ofList (Format.signText negative ++ (whole ++ '.' :: places))).toList := by simp
  generalize String.ofList (Format.signText negative ++ (whole ++ '.' :: places)) = word at hmem hpoint
  have hnone : ∀ word ∈ specials, '.' ∉ word.toList := by decide
  exact hnone word hmem hpoint

theorem float?_pointed {whole places : List Char} (f : Format) (h : Pointed whole places) (negative : Bool) :
    float? f (Format.signText negative ++ (whole ++ '.' :: places)) =
      some (f.ofDecimal negative (ofDigits 10 (whole ++ places)) (-(places.length : Int))) := by
  rw [float?, if_neg (by simpa using not_mem_specials negative), readScientific?_pointed h]
  rfl

theorem floatWord?_pointed {whole places : List Char} (h : Pointed whole places) (negative : Bool) (hrest : Ends rest) :
    floatWord? (Format.signText negative ++ (whole ++ '.' :: places) ++ rest) =
      some (Format.signText negative ++ (whole ++ '.' :: places), rest) := by
  have hspecial : oneOf? specials (Format.signText negative ++ (whole ++ '.' :: places) ++ rest) = none := by
    have hhead := h.head?_all
    rw [List.append_assoc]
    cases hwhole : whole ++ '.' :: places with
    | nil => simp at hwhole
    | cons d more =>
      rw [hwhole] at hhead
      exact oneOf?_specials hhead negative (more ++ rest)
  have htake := takeWhile_word (isFloatChar_pointed h negative) (hrest.head? rfl rfl)
  rw [floatWord?, hspecial]
  simp only [htake, float?_pointed .double h negative, Option.isSome_some, if_true, List.drop_left]

/-- A number with a fraction is split off as it was written, and so is an infinity. -/
theorem floatWord?_floatText {word : Nat} (h : Format.single.IsNumber word) (hrest : Ends rest) :
    floatWord? ((Format.single.write floats word).toList ++ rest) =
      some ((Format.single.write floats word).toList, rest) := by
  cases hdecode : Format.single.decode word with
  | nan negative => exact absurd hdecode (h.not_nan negative)
  | finite negative units =>
    obtain ⟨whole, places, htext, hpointed, -⟩ := Format.write_pointed Format.ordinary_single "NaN" h.lt hdecode
    rw [floats, htext]
    exact floatWord?_pointed hpointed negative hrest
  | infinite negative =>
    have hplain : ∀ c ∈ rest.head?, isNameChar c = false := hrest.head? rfl rfl
    have hend := head?_any_eq_false hplain
    rw [Format.write_infinite .single floats hdecode]
    cases negative <;> simp [Format.signText, floatWord?, oneOf?, specials, word?, take?, Option.filter_some, hend]

theorem float?_floatText {word : Nat} (h : Format.single.IsNumber word) :
    float? .single (Format.single.write floats word).toList = some word := by
  cases hdecode : Format.single.decode word with
  | nan negative => exact absurd hdecode (h.not_nan negative)
  | finite negative units =>
    obtain ⟨whole, places, htext, hpointed, hvalue⟩ := Format.write_pointed Format.ordinary_single "NaN" h.lt hdecode
    rw [floats, htext, float?_pointed .single hpointed, hvalue]
  | infinite negative =>
    rw [Format.write_infinite .single floats hdecode, h.eq_infinity hdecode]
    cases negative <;> rfl

end Casement.Ron
