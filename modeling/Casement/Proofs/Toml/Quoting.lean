import Mathlib.Data.Char
import Casement.Config.Toml.Quoted
import Casement.Config.Toml.Writer
import Casement.Proofs.Number.Words

namespace Casement.Toml

open Number

variable {c d : Char} {cs rest : List Char}

theorem digit?_hexDigit (n : Nat) : digit? 16 (hexDigit n) = some (n % 16) := by
  have hlt := Nat.mod_lt n (show 0 < 16 by decide)
  unfold hexDigit
  generalize n % 16 = m at hlt ⊢
  interval_cases m <;> rfl

theorem escaped?_hex (h : c.toNat < 65536) :
    escaped? [hexDigit (c.toNat / 4096), hexDigit (c.toNat / 256), hexDigit (c.toNat / 16), hexDigit c.toNat] =
      some c := by
  have hread : readNat? 16 [hexDigit (c.toNat / 4096), hexDigit (c.toNat / 256), hexDigit (c.toNat / 16),
      hexDigit c.toNat] = some c.toNat := by
    simp only [readNat?, ofDigits, isDigit, List.isEmpty_cons, List.all_cons, List.all_nil, List.foldl_cons,
      List.foldl_nil, digit?_hexDigit, Option.isSome_some, Option.getD_some, Bool.and_true, Bool.not_false, if_true]
    congr 1
    omega
  have hsize : c.toNat < UInt32.size := h.trans (by decide)
  rw [escaped?, hread, Option.bind_some, if_pos hsize, scalar?_toNat]

/-- What the two readers of text with escapes have in common. -/
structure ReadsEscapes (isMulti : Bool) (read : List Char → Option (List Char × List Char)) : Prop where
  plain : ∀ {c}, c ≠ '"' → c ≠ '\\' → c ≠ '\n' → c ≠ '\r' → isTextChar c = true →
    ∀ rest, read (c :: rest) = push c (read rest)
  simple : ∀ {c d}, simpleEscape? c = some d → ∀ rest, read ('\\' :: c :: rest) = push d (read rest)
  code : ∀ a b c d rest, read ('\\' :: 'u' :: a :: b :: c :: d :: rest) =
    pushChar? (escaped? [a, b, c, d]) (read rest)
  lineBreak : isMulti = true → ∀ rest, read ('\n' :: rest) = push '\n' (read rest)

theorem readsEscapes_basic : ReadsEscapes false basic? where
  plain hquote hslash _ _ htext rest := by
    rw [basic?.eq_def]
    split <;> simp_all
  simple h rest := by
    unfold simpleEscape? at h
    split at h <;> cases h <;> simp [basic?, pushChar?, simpleEscape?]
  code a b c d rest := by rw [basic?]
  lineBreak h := by cases h

theorem readsEscapes_multiBasic : ReadsEscapes true (multiBasic? .text) where
  plain hquote hslash hbreak hreturn htext rest := by
    rw [multiBasic?.eq_def]
    split <;> simp_all
  simple h rest := by
    unfold simpleEscape? at h
    split at h <;> cases h <;> simp [multiBasic?, pushChar?, simpleEscape?]
  code a b c d rest := by
    rw [multiBasic?]
    all_goals simp
  lineBreak _ rest := by
    rw [multiBasic?]
    all_goals simp

theorem isTextChar_of_not_isCoded (hcoded : isCoded c = false) (hbreak : c ≠ '\n') : isTextChar c = true := by
  simp only [isCoded, isTextChar, Bool.or_eq_false_iff, Bool.and_eq_false_iff, decide_eq_false_iff_not, Bool.or_eq_true,
    Bool.and_eq_true, decide_eq_true_eq, ne_eq, not_not] at hcoded ⊢
  obtain ⟨(hlow | htab) | hline, hdelete⟩ := hcoded
  · exact .inr ⟨not_lt.mp hlow, hdelete⟩
  · exact .inl htab
  · exact absurd hline hbreak

theorem toNat_lt_of_isCoded (h : isCoded c = true) : c.toNat < 128 := by
  simp only [isCoded, Bool.or_eq_true, Bool.and_eq_true, decide_eq_true_eq] at h
  rcases h with ⟨⟨hlow, -⟩, -⟩ | rfl
  · have : c.toNat < ' '.toNat := hlow
    have : ' '.toNat = 32 := rfl
    omega
  · decide

theorem ReadsEscapes.read_escape {isMulti : Bool} {read : List Char → Option (List Char × List Char)}
    (h : ReadsEscapes isMulti read) (hquote : c ≠ '"') (rest : List Char) :
    read (escape isMulti c ++ rest) = push c (read rest) := by
  unfold escape
  split
  · exact h.simple rfl rest
  · exact h.simple rfl rest
  · cases isMulti with
    | false => exact h.simple rfl rest
    | true => exact h.lineBreak rfl rest
  · exact h.simple rfl rest
  · exact h.simple rfl rest
  · exact h.simple rfl rest
  · split
    · next hcoded =>
      have hlt := toNat_lt_of_isCoded hcoded
      dsimp only
      rw [List.cons_append, List.cons_append, List.cons_append, List.cons_append, List.cons_append, List.cons_append,
        List.nil_append, h.code, escaped?_hex (by omega)]
      rfl
    · next hbs htab hline hff hcr hslash hcoded =>
      exact h.plain hquote hslash hline hcr (isTextChar_of_not_isCoded (Bool.eq_false_iff.mpr hcoded) hline) rest

theorem basic?_escapeAll (run : Nat) (cs rest : List Char) :
    basic? (escapeAll false run cs ++ '"' :: rest) = some (cs, rest) := by
  induction cs generalizing run with
  | nil => rfl
  | cons c cs ih =>
    rw [escapeAll]
    split
    · next hquote =>
      rw [Bool.false_and, if_neg (by simp)]
      have hread := readsEscapes_basic.simple (c := '"') rfl (escapeAll false 0 cs ++ '"' :: rest)
      rw [ih] at hread
      rw [hquote]
      exact hread
    · next hquote => rw [List.append_assoc, readsEscapes_basic.read_escape hquote, ih, push]

theorem head?_escape (isMulti : Bool) (hquote : c ≠ '"') : (escape isMulti c).head? ≠ some '"' := by
  unfold escape
  split
  · simp
  · simp
  · cases isMulti <;> simp
  · simp
  · simp
  · simp
  · split
    · simp
    · simpa using hquote

theorem escape_ne_nil (isMulti : Bool) (c : Char) : escape isMulti c ≠ [] := by
  unfold escape
  split
  · simp
  · simp
  · cases isMulti <;> simp
  · simp
  · simp
  · simp
  · split <;> simp

theorem head?_escapeAll (isMulti : Bool) (run : Nat) (h : c ≠ '"' ∨ isMulti = false ∨ 2 ≤ run)
    (cs rest : List Char) : (escapeAll isMulti run (c :: cs) ++ rest).head? ≠ some '"' := by
  rw [escapeAll]
  split
  · next hquote =>
    have hcoded : (isMulti && decide (run < 2)) = false := by
      rcases h with h | rfl | h
      · exact absurd hquote h
      · rfl
      · rw [decide_eq_false (by omega), Bool.and_false]
    rw [hcoded, if_neg (by simp)]
    simp
  · next hquote =>
    rw [List.append_assoc, List.head?_append_of_ne_nil _ (escape_ne_nil isMulti c)]
    exact head?_escape isMulti hquote

theorem multiBasic?_quote (h : ∀ more, rest ≠ '"' :: '"' :: more) :
    multiBasic? .text ('"' :: rest) = push '"' (multiBasic? .text rest) := by
  rw [multiBasic?]
  all_goals simp_all [isTextChar]

theorem multiBasic?_end (hrest : rest.head? ≠ some '"') :
    multiBasic? .text ('"' :: '"' :: '"' :: rest) = some ([], rest) := by
  have hnone (more : List Char) : rest ≠ '"' :: more := by
    rintro rfl
    exact hrest rfl
  rw [multiBasic?]
  all_goals simp_all

theorem multiBasic?_end_one (hrest : rest.head? ≠ some '"') :
    multiBasic? .text ('"' :: '"' :: '"' :: '"' :: rest) = some (['"'], rest) := by
  have hnone (more : List Char) : rest ≠ '"' :: more := by
    rintro rfl
    exact hrest rfl
  rw [multiBasic?]
  all_goals simp_all

theorem multiBasic?_end_two (rest : List Char) :
    multiBasic? .text ('"' :: '"' :: '"' :: '"' :: '"' :: rest) = some (['"', '"'], rest) := by
  rw [multiBasic?]
  all_goals simp

/-- The cases are those of the text behind a quotation mark: at most one more mark follows that
stands for itself, and then either the closing marks or a character that is none. -/
theorem multiBasic?_escapeAll (hrest : rest.head? ≠ some '"') (run : Nat) (cs : List Char) :
    multiBasic? .text (escapeAll true run cs ++ '"' :: '"' :: '"' :: rest) = some (cs, rest) := by
  induction cs generalizing run with
  | nil => exact multiBasic?_end hrest
  | cons c cs ih =>
    rw [escapeAll]
    split
    · next hquote =>
      subst hquote
      by_cases hrun : run < 2
      · rw [decide_eq_true hrun, Bool.and_self, if_pos rfl, List.cons_append]
        cases cs with
        | nil => exact multiBasic?_end_one hrest
        | cons d cs =>
          by_cases hend : d = '"' ∧ cs = [] ∧ run = 0
          · obtain ⟨rfl, rfl, rfl⟩ := hend
            exact multiBasic?_end_two rest
          · rw [multiBasic?_quote, ih, push]
            intro more heq
            by_cases hd : d = '"' ∧ run = 0
            · obtain ⟨rfl, rfl⟩ := hd
              cases cs with
              | nil => exact hend ⟨rfl, rfl, rfl⟩
              | cons e cs =>
                have hhead := head?_escapeAll (c := e) true 2 (.inr (.inr le_rfl)) cs ('"' :: '"' :: '"' :: rest)
                rw [escapeAll, if_pos rfl, if_pos (by simp), List.cons_append, List.cons.injEq] at heq
                rw [heq.2] at hhead
                exact hhead rfl
            · have hopen : d ≠ '"' ∨ true = false ∨ 2 ≤ run + 1 := by
                by_cases hmark : d = '"'
                · have : run ≠ 0 := fun h ↦ hd ⟨hmark, h⟩
                  exact .inr (.inr (by omega))
                · exact .inl hmark
              have hhead := head?_escapeAll true (run + 1) hopen cs ('"' :: '"' :: '"' :: rest)
              rw [heq] at hhead
              exact hhead rfl
      · rw [decide_eq_false hrun, Bool.and_false, if_neg (by simp)]
        have hread := readsEscapes_multiBasic.simple (c := '"') rfl (escapeAll true 0 cs ++ '"' :: '"' :: '"' :: rest)
        rw [ih] at hread
        exact hread
    · next hquote => rw [List.append_assoc, readsEscapes_multiBasic.read_escape hquote, ih, push]

theorem literal?_append (h : ∀ c ∈ cs, isTextChar c = true ∧ c ≠ '\'') (rest : List Char) :
    literal? (cs ++ '\'' :: rest) = some (cs, rest) := by
  induction cs with
  | nil => rfl
  | cons c cs ih =>
    obtain ⟨⟨htext, hmark⟩, hcs⟩ := List.forall_mem_cons.mp h
    rw [List.cons_append, literal?, if_pos htext, ih hcs, push]
    simpa using hmark

theorem multiLiteral?_cons (h : ∀ more, c :: rest ≠ '\'' :: '\'' :: '\'' :: more) (hreturn : c ≠ '\r')
    (htext : c = '\n' ∨ isTextChar c = true) : multiLiteral? (c :: rest) = push c (multiLiteral? rest) := by
  rw [multiLiteral?.eq_def]
  split <;> simp_all

theorem hasTriple_tail {mark : Char} (h : hasTriple mark (c :: cs) = false) : hasTriple mark cs = false := by
  rcases cs with _ | ⟨d, _ | ⟨e, cs⟩⟩
  · rfl
  · rfl
  · rw [hasTriple, Bool.or_eq_false_iff] at h
    exact h.2

theorem multiLiteral?_append (h : ∀ c ∈ cs, c ≠ '\r' ∧ (c = '\n' ∨ isTextChar c = true))
    (htriple : hasTriple '\'' cs = false) (hrest : rest.head? ≠ some '\'') :
    multiLiteral? (cs ++ '\'' :: '\'' :: '\'' :: rest) = some (cs, rest) := by
  induction cs with
  | nil =>
    have hnone (more : List Char) : rest ≠ '\'' :: more := by
      rintro rfl
      exact hrest rfl
    rw [List.nil_append, multiLiteral?]
    all_goals simp_all
  | cons c cs ih =>
    obtain ⟨⟨hreturn, htext⟩, hcs⟩ := List.forall_mem_cons.mp h
    have hnone (more : List Char) : rest ≠ '\'' :: more := by
      rintro rfl
      exact hrest rfl
    have hstep (hopen : ∀ more, c :: (cs ++ '\'' :: '\'' :: '\'' :: rest) ≠ '\'' :: '\'' :: '\'' :: more) :
        multiLiteral? (c :: cs ++ '\'' :: '\'' :: '\'' :: rest) = some (c :: cs, rest) := by
      rw [List.cons_append, multiLiteral?_cons hopen hreturn htext, ih hcs (hasTriple_tail htriple), push]
    rcases cs with _ | ⟨d, _ | ⟨e, cs⟩⟩
    · by_cases hmark : c = '\''
      · subst hmark
        rw [List.cons_append, List.nil_append, multiLiteral?]
        all_goals simp_all
      · exact hstep (by simp [hmark])
    · by_cases hmarks : c = '\'' ∧ d = '\''
      · obtain ⟨rfl, rfl⟩ := hmarks
        rw [List.cons_append, List.cons_append, List.nil_append, multiLiteral?]
      · refine hstep fun more heq ↦ hmarks ?_
        simp only [List.cons_append, List.cons.injEq] at heq
        exact ⟨heq.1, heq.2.1⟩
    · refine hstep fun more heq ↦ ?_
      simp only [List.cons_append, List.cons.injEq] at heq
      simp [hasTriple, heq.1, heq.2.1, heq.2.2.1] at htriple

def Quoting.Suits (cs : List Char) : Quoting → Prop
  | .basic | .multiBasic => True
  | .literal => ∀ c ∈ cs, isTextChar c = true ∧ c ≠ '\''
  | .multiLiteral => cs.any isCoded = false ∧ hasTriple '\'' cs = false

theorem suits_plainQuoting? {q : Quoting} (h : plainQuoting? cs = some q) : q.Suits cs := by
  unfold plainQuoting? at h
  split at h
  · cases h
  · next hplain =>
    split at h
    · cases h
      trivial
    · split at h
      · next hmark =>
        cases h
        simp only [Bool.or_eq_true, not_or, Bool.not_eq_true, List.any_eq_false, List.contains_iff_mem,
          Bool.not_eq_true'] at hplain hmark
        intro c hc
        refine ⟨isTextChar_of_not_isCoded (hplain.1 c hc) ?_, ?_⟩
        · rintro rfl
          exact hplain.2 hc
        · rintro rfl
          simp [hc] at hmark
      · cases h

theorem suits_quoting (cs : List Char) : (quoting cs).Suits cs := by
  unfold quoting
  split
  · next h => exact suits_plainQuoting? h
  · split
    · split <;> trivial
    · next hcoded =>
      split
      · trivial
      · split
        · next htriple => exact ⟨Bool.eq_false_iff.mpr hcoded, by simpa using htriple⟩
        · split <;> trivial

theorem skipBreak_opening {text : List Char} (hbreak : '\n' ∉ cs → text.head? ≠ some '\n')
    (hreturn : text.head? ≠ some '\r') : skipBreak (opening cs ++ text) = text := by
  unfold opening
  split
  · rfl
  · next hnone =>
    have hbreak := hbreak (by simpa using hnone)
    rw [List.nil_append]
    unfold skipBreak
    split
    · exact absurd rfl hbreak
    · exact absurd rfl hreturn
    · rfl

theorem string?_basic (h : ∀ more, rest ≠ '"' :: '"' :: more) : string? ('"' :: rest) = basic? rest := by
  rw [string?]
  · rfl
  all_goals simp_all

theorem string?_literal (h : ∀ more, rest ≠ '\'' :: '\'' :: more) : string? ('\'' :: rest) = literal? rest := by
  rw [string?]
  · rfl
  all_goals simp_all

theorem head?_escape_cases (isMulti : Bool) (h : (escape isMulti c).head? = some d) : d = '\\' ∨ d = c ∧ c ≠ '\r' := by
  unfold escape at h
  split at h
  · exact .inl (by simpa using h.symm)
  · exact .inl (by simpa using h.symm)
  · cases isMulti with
    | false => exact .inl (by simpa using h.symm)
    | true => exact .inr ⟨by simpa using h.symm, by decide⟩
  · exact .inl (by simpa using h.symm)
  · exact .inl (by simpa using h.symm)
  · exact .inl (by simpa using h.symm)
  · next hreturn _ =>
    split at h
    · exact .inl (by simpa using h.symm)
    · exact .inr ⟨by simpa using h.symm, hreturn⟩

theorem head?_escapeAll_cases {run : Nat} (h : (escapeAll true run cs ++ '"' :: rest).head? = some d) :
    d = '\\' ∨ d = '"' ∨ d ∈ cs ∧ d ≠ '\r' := by
  cases cs with
  | nil => exact .inr (.inl (by simpa [escapeAll] using h.symm))
  | cons c cs =>
    rw [escapeAll] at h
    split at h
    · split at h
      · exact .inr (.inl (by simpa using h.symm))
      · exact .inl (by simpa using h.symm)
    · rw [List.append_assoc, List.head?_append_of_ne_nil _ (escape_ne_nil true c)] at h
      rcases head?_escape_cases true h with hslash | ⟨rfl, hreturn⟩
      · exact .inl hslash
      · exact .inr (.inr ⟨List.mem_cons_self, hreturn⟩)

theorem string?_write_basic (cs : List Char) (hquote : rest.head? ≠ some '"') :
    string? (Quoting.basic.write cs ++ rest) = some (cs, rest) := by
  rw [Quoting.write, List.cons_append, List.cons_append, List.append_assoc, List.singleton_append, string?_basic,
    basic?_escapeAll]
  -- the text does not look like an opening of three marks
  intro more heq
  cases cs with
  | nil =>
    rw [escapeAll, List.nil_append, List.cons.injEq] at heq
    rw [heq.2] at hquote
    exact hquote rfl
  | cons c cs =>
    have hhead := head?_escapeAll (c := c) false 0 (.inr (.inl rfl)) cs ('"' :: rest)
    rw [heq] at hhead
    exact hhead rfl

theorem string?_write_literal (h : Quoting.literal.Suits cs) (hmark : rest.head? ≠ some '\'') :
    string? (Quoting.literal.write cs ++ rest) = some (cs, rest) := by
  rw [Quoting.write, List.cons_append, List.cons_append, List.append_assoc, List.singleton_append, string?_literal,
    literal?_append h]
  intro more heq
  cases cs with
  | nil =>
    rw [List.nil_append, List.cons.injEq] at heq
    rw [heq.2] at hmark
    exact hmark rfl
  | cons c cs =>
    rw [List.cons_append, List.cons.injEq] at heq
    exact (h c List.mem_cons_self).2 heq.1

theorem string?_write_multiBasic (cs : List Char) (hquote : rest.head? ≠ some '"') :
    string? (Quoting.multiBasic.write cs ++ rest) = some (cs, rest) := by
  have htext : Quoting.multiBasic.write cs ++ rest =
      '"' :: '"' :: '"' :: (opening cs ++ (escapeAll true 0 cs ++ '"' :: '"' :: '"' :: rest)) := by
    simp [Quoting.write]
  rw [htext, string?, skipBreak_opening, multiBasic?_escapeAll hquote]
  · intro hbreak hhead
    rcases head?_escapeAll_cases hhead with h | h | ⟨h, -⟩
    · cases h
    · cases h
    · exact hbreak h
  · intro hhead
    rcases head?_escapeAll_cases hhead with h | h | ⟨-, h⟩
    · cases h
    · cases h
    · exact h rfl

theorem string?_write_multiLiteral (h : Quoting.multiLiteral.Suits cs) (hmark : rest.head? ≠ some '\'') :
    string? (Quoting.multiLiteral.write cs ++ rest) = some (cs, rest) := by
  obtain ⟨hcoded, htriple⟩ := h
  have hplain : ∀ c ∈ cs, c ≠ '\r' ∧ (c = '\n' ∨ isTextChar c = true) := by
    intro c hc
    have hc := List.any_eq_false.mp hcoded c hc
    refine ⟨?_, ?_⟩
    · rintro rfl
      exact hc rfl
    · by_cases hbreak : c = '\n'
      · exact .inl hbreak
      · exact .inr (isTextChar_of_not_isCoded (Bool.eq_false_iff.mpr hc) hbreak)
  have htext : Quoting.multiLiteral.write cs ++ rest =
      '\'' :: '\'' :: '\'' :: (opening cs ++ (cs ++ '\'' :: '\'' :: '\'' :: rest)) := by
    simp [Quoting.write]
  rw [htext, string?, skipBreak_opening, multiLiteral?_append hplain htriple hmark]
  · intro hbreak
    cases cs with
    | nil => simp
    | cons c cs =>
      rw [List.cons_append, List.head?_cons, ne_eq, Option.some.injEq]
      rintro rfl
      exact hbreak List.mem_cons_self
  · cases cs with
    | nil => simp
    | cons c cs =>
      rw [List.cons_append, List.head?_cons, ne_eq, Option.some.injEq]
      exact (hplain c List.mem_cons_self).1

/-- Whatever its way of quoting, a text reads back. -/
theorem string?_quote (cs : List Char) (hquote : rest.head? ≠ some '"') (hmark : rest.head? ≠ some '\'') :
    string? (quote cs ++ rest) = some (cs, rest) := by
  have hsuits := suits_quoting cs
  unfold quote
  cases hq : quoting cs with
  | basic => exact string?_write_basic cs hquote
  | literal =>
    rw [hq] at hsuits
    exact string?_write_literal hsuits hmark
  | multiBasic => exact string?_write_multiBasic cs hquote
  | multiLiteral =>
    rw [hq] at hsuits
    exact string?_write_multiLiteral hsuits hmark

end Casement.Toml
