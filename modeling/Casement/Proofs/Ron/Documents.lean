import Casement.Proofs.Ron.Words

namespace Casement.Ron

open Number

variable {c d : Char} {cs rest : List Char} {depth k n : Nat} {shape : Shape} {v : Value}

def isOpening (c : Char) : Bool := isNameStart c || isDigit 10 c || c = '-' || c = '"' || c = '[' || c = '('

theorem ne_of_isOpening (hc : isOpening c = true) (hd : isOpening d = false) : c ≠ d := by
  rintro rfl
  rw [hc] at hd
  cases hd

theorem isSpace_of_isOpening (h : isOpening c = true) : isSpace c = false := by
  simp [isSpace, ne_of_isOpening h (d := ' ') rfl, ne_of_isOpening h (d := '\t') rfl, ne_of_isOpening h (d := '\n') rfl,
    ne_of_isOpening h (d := '\r') rfl]

def Opens (cs : List Char) : Prop := ∃ c more, cs = c :: more ∧ isOpening c = true

theorem Opens.append (h : Opens cs) (rest : List Char) : Opens (cs ++ rest) := by
  obtain ⟨c, more, rfl, hc⟩ := h
  exact ⟨c, more ++ rest, rfl, hc⟩

theorem Opens.space? (h : Opens cs) (blanks : List Char) (hblanks : ∀ c ∈ blanks, isSpace c = true) :
    space? (blanks ++ cs) = some cs := by
  obtain ⟨c, more, rfl, hc⟩ := h
  refine space?_append blanks hblanks ?_
  intro d hd
  cases hd
  exact ⟨isSpace_of_isOpening hc, ne_of_isOpening hc rfl⟩

theorem Opens.head?_ne (h : Opens cs) (hd : isOpening d = false) : cs.head? ≠ some d := by
  obtain ⟨c, more, rfl, hc⟩ := h
  intro heq
  cases heq
  rw [hc] at hd
  cases hd

theorem opens_name {name : String} (h : IsName name) : Opens name.toList := by
  obtain ⟨c, cs, hname, hstart, -⟩ := h.exists_cons
  exact ⟨c, cs, hname, by simp [isOpening, hstart]⟩

theorem natText (n : Nat) : (toString (n : Int)).toList = Nat.toDigits 10 n := by
  rw [toList_toString, decide_eq_false (by omega)]
  rfl

theorem opens_intText (n : Int) : Opens (toString n).toList := by
  rw [toList_toString]
  cases decide (n < 0) with
  | true => exact ⟨'-', _, rfl, rfl⟩
  | false =>
    have hhead := head?_toDigits n.natAbs
    cases hdigits : Nat.toDigits 10 n.natAbs with
    | nil => exact absurd hdigits Nat.toDigits_ne_nil
    | cons c digits =>
      rw [hdigits] at hhead
      have hdigit : isDigit 10 c = true := hhead
      exact ⟨c, digits, rfl, by simp [isOpening, hdigit]⟩

theorem opens_floatText {word : Nat} (h : Format.single.IsNumber word) :
    Opens (Format.single.write floats word).toList := by
  cases hdecode : Format.single.decode word with
  | nan negative => exact absurd hdecode (h.not_nan negative)
  | finite negative units =>
    obtain ⟨whole, places, htext, hpointed, -⟩ := Format.write_pointed Format.ordinary_single "NaN" h.lt hdecode
    rw [floats, htext]
    cases negative with
    | true => exact ⟨'-', _, rfl, rfl⟩
    | false =>
      have hhead := hpointed.head?_all
      change Opens (whole ++ '.' :: places)
      cases hwhole : whole ++ '.' :: places with
      | nil => simp at hwhole
      | cons c more =>
        rw [hwhole] at hhead
        have hdigit : isDigit 10 c = true := hhead
        exact ⟨c, more, rfl, by simp [isOpening, hdigit]⟩
  | infinite negative =>
    rw [Format.write_infinite .single floats hdecode]
    cases negative with
    | true => exact ⟨'-', _, rfl, rfl⟩
    | false => exact ⟨'i', _, rfl, rfl⟩

inductive Fits : (depth : Nat) → Shape → Value → Prop
  | name {depth : Nat} {name : String} (h : IsName name) : Fits depth .name (.name name)
  | text {depth : Nat} (s : String) : Fits depth .text (.text s)
  | float {depth : Nat} {x : Single} (h : Format.single.IsNumber x.word.toNat) : Fits depth .float (ofSingle x)
  | integer {depth : Nat} (n : Int) : Fits depth .integer (ofInt n)
  | natural {depth : Nat} (n : Nat) : Fits depth .natural (ofInt n)
  | none {depth : Nat} {shape : Shape} : Fits depth (.option shape) .none
  | some {depth : Nat} {shape : Shape} {v : Value} (h : Fits depth shape v) : Fits (depth + 1) (.option shape) (.some v)
  | list {depth : Nat} {shape : Shape} {vs : List Value} (h : ∀ v ∈ vs, Fits depth shape v) :
    Fits (depth + 2) (.list shape) (.list vs)
  | record {depth : Nat} {name : String} {shapes : List (String × Shape)} {fields : List (String × Value)}
    (names : ∀ f ∈ fields, IsName f.1)
    (h : ∀ f ∈ fields, Fits depth ((shapes.lookup f.1).getD .any) f.2) :
    Fits (depth + 2) (.record name shapes) (.record none fields)

/-- A value is read back as a shape, whatever stands around it. -/
structure Reads (depth : Nat) (shape : Shape) (v : Value) : Prop where
  opens : ∀ k, Opens (v.layOut k)
  value? : ∀ {n k rest}, (v.layOut k).length < n → Ends rest →
    value? false n depth shape (v.layOut k ++ rest) = some (v, rest)

def lines (k : Nat) (texts : List (List Char)) : List Char :=
  texts.flatMap fun text => indent (k + 1) ++ text ++ [',', '\n']

theorem isSpace_indent (k : Nat) : ∀ c ∈ '\n' :: indent k, isSpace c = true := by
  intro c hc
  rcases List.mem_cons.mp hc with rfl | hc
  · rfl
  · rw [List.eq_of_mem_replicate hc]
    rfl

theorem enclose_eq (k : Nat) (first last : Char) {texts : List (List Char)} (h : texts ≠ []) :
    enclose k first last texts = first :: '\n' :: (lines k texts ++ (indent k ++ [last])) := by
  rw [enclose, if_neg (by simpa using h), lines, List.cons_append, List.cons_append, List.cons_append, List.cons_append,
    List.append_assoc]

theorem Reads.line (h : Reads depth shape v) (hn : (v.layOut (k + 1)).length < n) (more : List Char) :
    space? ('\n' :: (indent (k + 1) ++ (v.layOut (k + 1) ++ ',' :: more))) = some (v.layOut (k + 1) ++ ',' :: more) ∧
      Ron.value? false n depth shape (v.layOut (k + 1) ++ ',' :: more) = some (v, ',' :: more) :=
  ⟨((h.opens (k + 1)).append _).space? ('\n' :: indent (k + 1)) (isSpace_indent (k + 1)), h.value? hn (ends_comma more)⟩

theorem lines_cons (k : Nat) (text : List Char) (texts : List (List Char)) (rest : List Char) :
    lines k (text :: texts) ++ rest = indent (k + 1) ++ (text ++ ',' :: '\n' :: (lines k texts ++ rest)) := by
  simp [lines]

theorem space?_indent (k : Nat) (hspace : isSpace c = false) (hslash : c ≠ '/') (rest : List Char) :
    space? ('\n' :: (indent k ++ c :: rest)) = some (c :: rest) := by
  refine space?_append ('\n' :: indent k) (isSpace_indent k) ?_
  intro d hd
  cases hd
  exact ⟨hspace, hslash⟩

theorem space?_comma (more : List Char) : space? (',' :: more) = some (',' :: more) :=
  space?_cons rfl (by decide) more

theorem items?_close (h : space? cs = some (']' :: rest)) :
    items? false (n + 1) depth shape ']' cs = some ([], rest) := by
  rw [items?, h]
  rfl

theorem items?_item {body more : List Char} (hspace : space? cs = some body) (hopen : Opens body)
    (hv : value? false n depth shape body = some (v, ',' :: more)) :
    items? false (n + 1) (depth + 1) shape ']' cs =
      (items? false n (depth + 1) shape ']' more).map fun read => (v :: read.1, read.2) := by
  rw [items?, hspace]
  dsimp only
  rw [if_neg (hopen.head?_ne rfl), hv, Option.bind_some]
  dsimp only
  rw [space?_comma]
  rfl

theorem items?_lines {vs : List Value} (h : ∀ v ∈ vs, Reads depth shape v)
    (hn : (lines k (itemTexts (k + 1) vs)).length < n) (rest : List Char) :
    items? false n (depth + 1) shape ']' ('\n' :: (lines k (itemTexts (k + 1) vs) ++ (indent k ++ ']' :: rest))) =
      some (vs, rest) := by
  induction vs generalizing n with
  | nil =>
    obtain ⟨n, rfl⟩ := Nat.exists_eq_succ_of_ne_zero (by omega : n ≠ 0)
    rw [itemTexts]
    exact items?_close (space?_indent k rfl (by decide) rest)
  | cons v vs ih =>
    obtain ⟨hv, hvs⟩ := List.forall_mem_cons.mp h
    obtain ⟨n, rfl⟩ := Nat.exists_eq_succ_of_ne_zero (by omega : n ≠ 0)
    rw [itemTexts] at hn ⊢
    have hlength := congrArg List.length (lines_cons k (v.layOut (k + 1)) (itemTexts (k + 1) vs) [])
    simp only [List.append_nil, List.length_append, List.length_cons] at hlength
    obtain ⟨hspace, hread⟩ := hv.line (n := n) (k := k) (by omega)
      ('\n' :: (lines k (itemTexts (k + 1) vs) ++ (indent k ++ ']' :: rest)))
    rw [lines_cons, items?_item hspace ((hv.opens (k + 1)).append _) hread, ih hvs (by omega)]
    rfl

theorem reads_list {vs : List Value} (h : ∀ v ∈ vs, Reads depth shape v) :
    Reads (depth + 2) (.list shape) (.list vs) where
  opens k := by
    rw [Value.layOut, enclose]
    split
    · exact ⟨'[', _, rfl, rfl⟩
    · exact ⟨'[', _, rfl, rfl⟩
  value? {n k rest} hn _ := by
    obtain ⟨n, rfl⟩ := Nat.exists_eq_succ_of_ne_zero (by omega : n ≠ 0)
    rw [Value.layOut] at hn ⊢
    cases vs with
    | nil =>
      obtain ⟨n, rfl⟩ := Nat.exists_eq_succ_of_ne_zero (n := n) (by rintro rfl; simp [enclose, itemTexts] at hn)
      have hclose : items? false (n + 1) (depth + 1) shape ']' (']' :: rest) = some ([], rest) :=
        items?_close (space?_cons rfl (by decide) rest)
      rw [itemTexts, enclose, List.isEmpty_nil, if_pos rfl, List.cons_append, List.cons_append, List.nil_append,
        Ron.value?]
      dsimp only
      rw [hclose]
      rfl
    | cons v vs =>
      have hne : itemTexts (k + 1) (v :: vs) ≠ [] := by
        rw [itemTexts]
        exact List.cons_ne_nil _ _
      rw [enclose_eq k '[' ']' hne] at hn ⊢
      simp only [List.length_append, List.length_cons] at hn
      have hitems := items?_lines h (n := n) (k := k) (by omega) rest
      rw [List.cons_append, List.cons_append, List.append_assoc, List.append_assoc, Ron.value?]
      dsimp only
      rw [List.cons_append, List.nil_append, hitems]
      rfl

theorem fields?_close {shapes : List (String × Shape)} (h : space? cs = some (')' :: rest)) :
    fields? false (n + 1) depth shapes cs = some ([], rest) := by
  unfold fields?
  rw [h]
  rfl

theorem fields?_field {shapes : List (String × Shape)} {name : String} {body more : List Char} (hname : IsName name)
    (hspace : space? cs = some (name.toList ++ ':' :: ' ' :: body)) (hopen : Opens body)
    (hv : value? false n depth ((shapes.lookup name).getD .any) body = some (v, ',' :: more)) :
    fields? false (n + 1) (depth + 1) shapes cs =
      (fields? false n (depth + 1) shapes more).map fun read => ((name, v) :: read.1, read.2) := by
  have hread : name? (name.toList ++ ':' :: ' ' :: body) = some (name, ':' :: ' ' :: body) := by
    refine name?_append hname ?_
    intro c hc
    cases hc
    rfl
  have hcolon : space? (':' :: ' ' :: body) = some (':' :: ' ' :: body) := space?_cons rfl (by decide) _
  have hblank : space? (' ' :: body) = some body := hopen.space? [' '] (by simp [isSpace])
  obtain ⟨c, text, hbody, hc⟩ := (opens_name hname).append (':' :: ' ' :: body)
  rw [hbody] at hspace hread
  generalize hmore : fields? false n (depth + 1) shapes more = read
  unfold fields?
  rw [hspace]
  split
  · next heq => cases heq
  · next heq => exact absurd (List.cons.inj (Option.some.inj heq)).1 (ne_of_isOpening hc rfl)
  · next heq => cases heq
  · next heq hdepth =>
    cases heq
    cases hdepth
    simp only [hread, hcolon, hblank, Option.bind_some, hv, space?_comma, hmore]

theorem fields?_lines {shapes : List (String × Shape)} {fields : List (String × Value)}
    (hnames : ∀ f ∈ fields, IsName f.1) (h : ∀ f ∈ fields, Reads depth ((shapes.lookup f.1).getD .any) f.2)
    (hn : (lines k (fieldTexts (k + 1) fields)).length < n) (rest : List Char) :
    fields? false n (depth + 1) shapes ('\n' :: (lines k (fieldTexts (k + 1) fields) ++ (indent k ++ ')' :: rest))) =
      some (fields, rest) := by
  induction fields generalizing n with
  | nil =>
    obtain ⟨n, rfl⟩ := Nat.exists_eq_succ_of_ne_zero (by omega : n ≠ 0)
    rw [fieldTexts]
    exact fields?_close (space?_indent k rfl (by decide) rest)
  | cons f fields ih =>
    obtain ⟨name, v⟩ := f
    obtain ⟨hv, hvs⟩ := List.forall_mem_cons.mp h
    obtain ⟨hname, hothers⟩ := List.forall_mem_cons.mp hnames
    change Reads depth ((shapes.lookup name).getD .any) v at hv
    obtain ⟨n, rfl⟩ := Nat.exists_eq_succ_of_ne_zero (by omega : n ≠ 0)
    rw [fieldTexts] at hn ⊢
    have hlength := congrArg List.length
      (lines_cons k (name.toList ++ ':' :: ' ' :: v.layOut (k + 1)) (fieldTexts (k + 1) fields) [])
    simp only [List.append_nil, List.length_append, List.length_cons] at hlength
    rw [lines_cons, List.append_assoc, List.cons_append, List.cons_append]
    refine (fields?_field hname (((opens_name hname).append _).space? ('\n' :: indent (k + 1)) (isSpace_indent (k + 1)))
      ((hv.opens (k + 1)).append _) (hv.value? (by omega) (ends_comma _))).trans ?_
    rw [ih hothers hvs (by omega)]
    rfl

theorem recordStart?_open (name : String) (rest : List Char) : recordStart? name ('(' :: rest) = some rest := by
  have hspace : space? ('(' :: rest) = some ('(' :: rest) := space?_cons rfl (by decide) rest
  have hplain : isNameChar '(' = false := rfl
  simp [recordStart?, hplain, hspace]

theorem value?_record {name : String} {shapes : List (String × Shape)} (cs : List Char) :
    value? false (n + 1) (depth + 1) (.record name shapes) ('(' :: cs) =
      (fields? false n depth shapes cs).map fun read => (.record none read.1, read.2) := by
  unfold value?
  simp only [recordStart?_open]

theorem reads_record {name : String} {shapes : List (String × Shape)} {fields : List (String × Value)}
    (hnames : ∀ f ∈ fields, IsName f.1) (h : ∀ f ∈ fields, Reads depth ((shapes.lookup f.1).getD .any) f.2) :
    Reads (depth + 2) (.record name shapes) (.record none fields) where
  opens k := by
    change Opens (enclose k '(' ')' (fieldTexts (k + 1) fields))
    rw [enclose]
    split
    · exact ⟨'(', _, rfl, rfl⟩
    · exact ⟨'(', _, rfl, rfl⟩
  value? {n k rest} hn _ := by
    obtain ⟨n, rfl⟩ := Nat.exists_eq_succ_of_ne_zero (by omega : n ≠ 0)
    have htext : (Value.record none fields).layOut k = enclose k '(' ')' (fieldTexts (k + 1) fields) := by
      rw [Value.layOut]
      rfl
    rw [htext] at hn ⊢
    cases fields with
    | nil =>
      obtain ⟨n, rfl⟩ := Nat.exists_eq_succ_of_ne_zero (n := n) (by rintro rfl; simp [enclose, fieldTexts] at hn)
      have hclose : fields? false (n + 1) (depth + 1) shapes (')' :: rest) = some ([], rest) :=
        fields?_close (space?_cons rfl (by decide) rest)
      rw [fieldTexts, enclose, List.isEmpty_nil, if_pos rfl, List.cons_append, List.cons_append, List.nil_append,
        value?_record, hclose]
      rfl
    | cons f fields =>
      have hne : fieldTexts (k + 1) (f :: fields) ≠ [] := by
        rw [fieldTexts]
        exact List.cons_ne_nil _ _
      rw [enclose_eq k '(' ')' hne] at hn ⊢
      simp only [List.length_append, List.length_cons] at hn
      have hfields := fields?_lines hnames h (n := n) (k := k) (by omega) rest
      rw [List.cons_append, List.cons_append, List.append_assoc, List.append_assoc, value?_record, List.cons_append,
        List.nil_append, hfields]
      rfl

theorem reads_none : Reads depth (.option shape) .none where
  opens k := by
    rw [Value.layOut]
    exact ⟨'N', ['o', 'n', 'e'], rfl, rfl⟩
  value? {n k rest} hn _ := by
    obtain ⟨n, rfl⟩ := Nat.exists_eq_succ_of_ne_zero (by omega : n ≠ 0)
    have hword : take? "None" ("None".toList ++ rest) = some rest := rfl
    rw [Value.layOut, Ron.value?, hword]

theorem reads_some (h : Reads depth shape v) : Reads (depth + 1) (.option shape) (.some v) where
  opens k := by
    rw [Value.layOut]
    exact ⟨'S', _, rfl, rfl⟩
  value? {n k rest} hn _ := by
    have htext : (Value.some v).layOut k ++ rest = 'S' :: 'o' :: 'm' :: 'e' :: '(' :: (v.layOut k ++ ')' :: rest) := by
      rw [Value.layOut, List.append_assoc, List.append_assoc]
      rfl
    have hlength : (v.layOut k).length + 6 < n := by
      rw [Value.layOut] at hn
      simp only [List.length_append] at hn
      have hmark : "Some(".toList.length = 5 := rfl
      simp only [hmark, List.length_cons, List.length_nil] at hn
      omega
    obtain ⟨n, rfl⟩ := Nat.exists_eq_add_of_le (show 2 ≤ n by omega)
    have hvalue := h.value? (n := n) (k := k) (by omega) (ends_close rest)
    have hopen : space? ('(' :: (v.layOut k ++ ')' :: rest)) = some ('(' :: (v.layOut k ++ ')' :: rest)) :=
      space?_cons rfl (by decide) _
    have hinner := ((h.opens k).append (')' :: rest)).space? [] (by simp)
    have hclose : closing? ')' (')' :: rest) = some rest := by
      rw [closing?, space?_cons rfl (by decide)]
      rfl
    rw [List.nil_append] at hinner
    have hword : take? "Some" ('S' :: 'o' :: 'm' :: 'e' :: '(' :: (v.layOut k ++ ')' :: rest)) =
      some ('(' :: (v.layOut k ++ ')' :: rest)) := rfl
    have hother : take? "None" ('S' :: 'o' :: 'm' :: 'e' :: '(' :: (v.layOut k ++ ')' :: rest)) = none := rfl
    rw [htext, Nat.add_comm, Ron.value?, hother]
    dsimp only
    unfold some?
    rw [hword, Option.map_some, hopen]
    change ((space? (v.layOut k ++ ')' :: rest)).bind (Ron.value? false n depth shape)).bind
      (fun read => (closing? ')' read.2).map fun rest => (Value.some read.1, rest)) = _
    rw [hinner, Option.bind_some, hvalue, Option.bind_some, hclose]
    rfl

theorem reads_word {text : List Char} (htext : ∀ k, v.layOut k = text) (hopens : Opens text)
    (hread : ∀ n rest, Ends rest → value? false (n + 1) depth shape (text ++ rest) = some (v, rest)) :
    Reads depth shape v where
  opens k := by
    rw [htext]
    exact hopens
  value? {n k rest} hn hrest := by
    obtain ⟨n, rfl⟩ := Nat.exists_eq_succ_of_ne_zero (by omega : n ≠ 0)
    rw [htext]
    exact hread n rest hrest

theorem Fits.reads (h : Fits depth shape v) : Reads depth shape v := by
  induction h with
  | name h =>
    refine reads_word (fun k ↦ by rw [Value.layOut]) (opens_name h) fun n rest hrest ↦ ?_
    rw [value?, name?_append h (hrest.head? rfl rfl)]
    rfl
  | text s =>
    have hopens : Opens (quote s.toList) := ⟨'"', _, rfl, rfl⟩
    refine reads_word (fun k ↦ by rw [Value.layOut]) hopens fun n rest hrest ↦ ?_
    rw [value?, string?_quote]
    rfl
  | float h =>
    refine reads_word (fun k ↦ by rw [ofSingle, Value.layOut]) (opens_floatText h) fun n rest hrest ↦ ?_
    rw [ofSingle, value?, floatWord?_floatText h hrest]
    rfl
  | integer m =>
    refine reads_word (fun k ↦ by rw [ofInt, Value.layOut]) (opens_intText m) fun n rest hrest ↦ ?_
    rw [ofInt, value?, integerWord?_intText m hrest]
    rfl
  | natural m =>
    refine reads_word (fun k ↦ by rw [ofInt, Value.layOut]) (opens_intText m) fun n rest hrest ↦ ?_
    rw [ofInt, value?, natText, naturalWord?_toDigits m hrest]
    rfl
  | none => exact reads_none
  | some h ih => exact reads_some ih
  | list h ih => exact reads_list ih
  | record names h ih => exact reads_record names ih

/-- Documents read back. -/
theorem read?_write (h : Fits depthLimit shape v) : read? shape (write v) = some v := by
  have hopens := h.reads.opens 0
  have hspace : space? (v.layOut 0) = some (v.layOut 0) := hopens.space? [] (by simp)
  have hlines : extensionLines? ((v.layOut 0).length + 1) (v.layOut 0) = some (false, v.layOut 0) := by
    have hhead := hopens.head?_ne (d := '#') rfl
    generalize v.layOut 0 = text at hhead
    unfold extensionLines?
    split
    · exact absurd rfl hhead
    · rfl
  have hvalue := h.reads.value? (n := fuel (v.layOut 0)) (k := 0) (by rw [fuel]; omega) ends_nil
  rw [List.append_nil] at hvalue
  have hend : space? [] = some [] := rfl
  rw [read?, write, String.toList_ofList]
  dsimp only
  rw [hspace, Option.bind_some, hlines, Option.bind_some]
  dsimp only
  rw [hvalue]
  exact if_pos hend

end Casement.Ron
