import Mathlib.Tactic.ByContra
import Mathlib.Tactic.SplitIfs
import RpcClients.Proto.Token

/-! # Where tokens end

A token is found from its own text and the character behind it: whatever else stands there, the same
token is read as long as that character cannot go on with it. -/

namespace RpcClients.Proto

/-- No word and no number goes on with this character. -/
def isStop (c : Char) : Bool := !isNameChar c && c ≠ '.' && c ≠ '+' && c ≠ '-'

theorem isNameChar_of_isDigit {c : Char} (h : c.isDigit = true) : isNameChar c = true := by
  unfold isNameChar Char.isAlphanum
  rw [h, Bool.or_true, Bool.true_or]

theorem isNameChar_of_isHexDigit {c : Char} (h : isHexDigit c = true) : isNameChar c = true := by
  unfold isNameChar Char.isAlphanum Char.isAlpha Char.isUpper Char.isLower
  simp only [isHexDigit, Bool.or_eq_true, Bool.and_eq_true, decide_eq_true_eq, Char.le_def, UInt32.le_iff_toNat_le] at h
  simp only [Bool.or_eq_true, Bool.and_eq_true, decide_eq_true_eq, ge_iff_le, UInt32.le_iff_toNat_le]
  rcases h with (h | h) | h
  · exact Or.inl (Or.inr h)
  · exact Or.inl (Or.inl (Or.inr ⟨h.1, Nat.le_trans h.2 (by decide)⟩))
  · exact Or.inl (Or.inl (Or.inl ⟨h.1, Nat.le_trans h.2 (by decide)⟩))

/-- A text is empty or starts with a character that is not of the given class. -/
def Past (p : Char → Bool) (text : List Char) : Prop := ∀ c ∈ text.head?, p c = false

theorem Past.mono {p q : Char → Bool} {text : List Char} (h : Past q text) (hpq : ∀ c, p c = true → q c = true) :
    Past p text := by
  intro c hc
  cases hp : p c with
  | false => rfl
  | true => exact absurd (hpq c hp) (by simp [h c hc])

/-- Neither a word nor a number goes on with the text. -/
abbrev Stopped (text : List Char) : Prop := Past (fun c => !isStop c) text

theorem Stopped.name {text : List Char} (h : Stopped text) : Past isNameChar text :=
  h.mono fun c hc => by simp [isStop, hc]

theorem Stopped.digit {text : List Char} (h : Stopped text) : Past Char.isDigit text :=
  h.name.mono fun _ => isNameChar_of_isDigit

theorem Stopped.hexDigit {text : List Char} (h : Stopped text) : Past isHexDigit text :=
  h.name.mono fun _ => isNameChar_of_isHexDigit

theorem Stopped.ne {c : Char} {text : List Char} (h : Stopped (c :: text)) {d : Char} (hd : isStop d = false) :
    c ≠ d := by
  rintro rfl
  have := h c (by simp)
  simp [hd] at this

/-! ## Runs of characters -/

theorem takeWhile_of_past {p : Char → Bool} {text : List Char} (h : Past p text) : text.takeWhile p = [] := by
  cases text with
  | nil => rfl
  | cons c rest => exact List.takeWhile_cons_of_neg (by simp [h c (by simp)])

theorem takeWhile_swap {p : Char → Bool} {u v w : List Char} (hlength : ((u ++ v).takeWhile p).length ≤ u.length)
    (hw : Past p w) : (u ++ w).takeWhile p = (u ++ v).takeWhile p := by
  induction u with
  | nil =>
    have hv : v.takeWhile p = [] := List.length_eq_zero_iff.mp (Nat.le_zero.mp hlength)
    rw [List.nil_append, List.nil_append, hv, takeWhile_of_past hw]
  | cons c u ih =>
    by_cases hc : p c = true
    · rw [List.cons_append, List.takeWhile_cons_of_pos hc, List.length_cons, List.length_cons] at hlength
      rw [List.cons_append, List.cons_append, List.takeWhile_cons_of_pos hc, List.takeWhile_cons_of_pos hc,
        ih (by omega)]
    · rw [List.cons_append, List.cons_append, List.takeWhile_cons_of_neg hc, List.takeWhile_cons_of_neg hc]

/-! ## Numbers -/

/-- The text starts with a hexadecimal number. -/
def startsHex (text : List Char) : Bool :=
  text[0]? = some '0' && (text[1]? = some 'x' || text[1]? = some 'X') && text[2]?.any isHexDigit

theorem integerText_eq (text : List Char) :
    integerText text =
      if startsHex text then text.take 2 ++ (text.drop 2).takeWhile isHexDigit else text.takeWhile Char.isDigit := by
  unfold integerText startsHex
  split
  · rename_i x rest
    have hhead : rest[0]? = rest.head? := by cases rest <;> rfl
    simp only [List.getElem?_cons_zero, List.getElem?_cons_succ, Option.some.injEq, decide_true, Bool.true_and, hhead]
    split_ifs
    · rfl
    · rfl
  · rename_i hshape
    rw [if_neg]
    intro hhex
    rcases text with _ | ⟨c, _ | ⟨x, rest⟩⟩
    · simp at hhex
    · simp at hhex
    · simp only [List.getElem?_cons_zero, Option.some.injEq, Bool.and_eq_true, decide_eq_true_eq] at hhex
      exact hshape x rest (by rw [hhex.1.1])

theorem three_le_of_startsHex {text : List Char} (h : startsHex text = true) : 3 ≤ (integerText text).length := by
  rw [integerText_eq, if_pos h]
  rcases text with _ | ⟨c, _ | ⟨x, _ | ⟨digit, rest⟩⟩⟩
  · simp [startsHex] at h
  · simp [startsHex] at h
  · simp [startsHex] at h
  · have hdigit : isHexDigit digit = true := by simp_all [startsHex]
    simp [List.takeWhile_cons_of_pos hdigit]

theorem startsHex_swap {u v w : List Char} (hlength : (integerText (u ++ v)).length ≤ u.length) (hw : Stopped w) :
    startsHex (u ++ w) = startsHex (u ++ v) := by
  by_cases hthree : 3 ≤ u.length
  · unfold startsHex
    simp only [List.getElem?_append_left (show 0 < u.length by omega),
      List.getElem?_append_left (show 1 < u.length by omega), List.getElem?_append_left (show 2 < u.length by omega)]
  · have hv : startsHex (u ++ v) = false := by
      cases hhex : startsHex (u ++ v) with
      | false => rfl
      | true => exact absurd (three_le_of_startsHex hhex) (by omega)
    -- the character behind `u` is one of the first three, and no digit or mark of a hexadecimal number
    rw [hv]
    rcases u with _ | ⟨a, _ | ⟨b, _ | ⟨c, u⟩⟩⟩
    · cases w with
      | nil => rfl
      | cons c w => simp [startsHex, hw.ne (d := '0') (by decide)]
    · cases w with
      | nil => simp [startsHex]
      | cons c w => simp [startsHex, hw.ne (d := 'x') (by decide), hw.ne (d := 'X') (by decide)]
    · cases w with
      | nil => simp [startsHex]
      | cons c w => simp [startsHex, hw.hexDigit c (by simp)]
    · simp at hthree

theorem integerText_swap {u v w : List Char} (hlength : (integerText (u ++ v)).length ≤ u.length) (hw : Stopped w) :
    integerText (u ++ w) = integerText (u ++ v) := by
  have hhex := startsHex_swap hlength hw
  rw [integerText_eq (u ++ w), hhex, integerText_eq (u ++ v)]
  cases h : startsHex (u ++ v) with
  | true =>
    have hthree : 3 ≤ u.length := Nat.le_trans (three_le_of_startsHex h) hlength
    rw [integerText_eq, if_pos h, List.take_append_of_le_length (by omega),
      List.drop_append_of_le_length (by omega), List.length_append, List.length_take] at hlength
    have hdigits : ((u.drop 2 ++ v).takeWhile isHexDigit).length ≤ (u.drop 2).length := by
      rw [List.length_drop]
      omega
    rw [if_pos rfl, if_pos rfl, List.take_append_of_le_length (by omega), List.take_append_of_le_length (by omega),
      List.drop_append_of_le_length (by omega), List.drop_append_of_le_length (by omega),
      takeWhile_swap hdigits hw.hexDigit]
  | false =>
    rw [integerText_eq, h] at hlength
    exact takeWhile_swap hlength hw.digit

def signText (text : List Char) : List Char := text.head?.toList.filter fun c => c = '+' || c = '-'

def digitsAfterSign (text : List Char) : List Char := (text.drop (signText text).length).takeWhile Char.isDigit

theorem exponentText_of_ne {e : Char} (h : ¬ (e = 'e' ∨ e = 'E')) (rest : List Char) :
    exponentText (e :: rest) = [] := by
  rw [exponentText, if_neg h]

theorem exponentText_of_eq {e : Char} (h : e = 'e' ∨ e = 'E') (rest : List Char) :
    exponentText (e :: rest) =
      if digitsAfterSign rest = [] then [] else e :: signText rest ++ digitsAfterSign rest := by
  rw [exponentText, if_pos h]
  simp only [List.isEmpty_iff]
  rfl

theorem exponentText_of_stopped {text : List Char} (h : Stopped text) : exponentText text = [] := by
  cases text with
  | nil => rfl
  | cons c rest =>
    refine exponentText_of_ne ?_ rest
    rintro (he | he)
    · exact h.ne (d := 'e') (by decide) he
    · exact h.ne (d := 'E') (by decide) he

theorem signText_of_stopped {text : List Char} (h : Stopped text) : signText text = [] := by
  cases text with
  | nil => rfl
  | cons c rest => simp [signText, h.ne (d := '+') (by decide), h.ne (d := '-') (by decide)]

theorem signText_append {u : List Char} (hu : u ≠ []) (v w : List Char) : signText (u ++ w) = signText (u ++ v) := by
  cases u with
  | nil => exact absurd rfl hu
  | cons c u => rfl

theorem digitsAfterSign_swap {u v w : List Char} (hdigits : digitsAfterSign (u ++ v) = [] ∨
      (signText (u ++ v)).length + (digitsAfterSign (u ++ v)).length ≤ u.length) (hw : Stopped w) :
    digitsAfterSign (u ++ w) = digitsAfterSign (u ++ v) := by
  cases u with
  | nil =>
    have hv : digitsAfterSign v = [] := by
      rcases hdigits with hnil | hlength
      · exact hnil
      · exact List.length_eq_zero_iff.mp (Nat.le_zero.mp (Nat.le_trans (Nat.le_add_left _ _) hlength))
    rw [List.nil_append, List.nil_append, hv]
    unfold digitsAfterSign
    rw [signText_of_stopped hw, List.length_nil, List.drop_zero, takeWhile_of_past hw.digit]
  | cons s u =>
    have hsign : ∀ rest, signText (s :: u ++ rest) = signText [s] := fun rest => rfl
    have hsignLength : (signText [s]).length ≤ 1 := List.length_filter_le _ [s]
    have hdrop : ∀ rest, (s :: u ++ rest).drop (signText [s]).length = (s :: u).drop (signText [s]).length ++ rest :=
      fun rest => List.drop_append_of_le_length (by rw [List.length_cons]; omega)
    simp only [digitsAfterSign, hsign, hdrop] at hdigits ⊢
    refine takeWhile_swap ?_ hw.digit
    rw [List.length_drop]
    rcases hdigits with hnil | hlength
    · rw [hnil, List.length_nil]
      exact Nat.zero_le _
    · omega

theorem exponentText_swap {u v w : List Char} (hlength : (exponentText (u ++ v)).length ≤ u.length) (hw : Stopped w) :
    exponentText (u ++ w) = exponentText (u ++ v) := by
  cases u with
  | nil =>
    have hv : exponentText v = [] := List.length_eq_zero_iff.mp (Nat.le_zero.mp hlength)
    rw [List.nil_append, List.nil_append, hv, exponentText_of_stopped hw]
  | cons e u =>
    simp only [List.cons_append] at hlength ⊢
    by_cases he : e = 'e' ∨ e = 'E'
    · rw [exponentText_of_eq he] at hlength
      rw [exponentText_of_eq he, exponentText_of_eq he]
      by_cases hdigits : digitsAfterSign (u ++ v) = []
      · rw [digitsAfterSign_swap (Or.inl hdigits) hw, if_pos hdigits, if_pos hdigits]
      · rw [if_neg hdigits, List.length_append, List.length_cons, List.length_cons] at hlength
        have hpos := List.length_pos_iff.mpr hdigits
        have hu : u ≠ [] := List.length_pos_iff.mp (by omega)
        have hsame : digitsAfterSign (u ++ w) = digitsAfterSign (u ++ v) := digitsAfterSign_swap (Or.inr (by omega)) hw
        rw [hsame, signText_append hu v w]
    · rw [exponentText_of_ne he, exponentText_of_ne he]

/-- The number with a fraction or an exponent that has the given whole part, if the text behind it goes on
with one. -/
def fractionAfter? (whole text : List Char) : Option (List Char) :=
  if text.head? = some '.' then
    some (whole ++ '.' :: text.tail.takeWhile Char.isDigit ++
      exponentText (text.tail.drop (text.tail.takeWhile Char.isDigit).length))
  else if exponentText text = [] then none
  else some (whole ++ exponentText text)

theorem fractionText?_eq (text : List Char) :
    fractionText? text =
      fractionAfter? (text.takeWhile Char.isDigit) (text.drop (text.takeWhile Char.isDigit).length) := by
  unfold fractionText? fractionAfter?
  simp only
  split
  · rename_i rest hrest
    rw [if_pos (by rw [hrest]; rfl), hrest, List.tail_cons]
  · rename_i rest hrest
    rw [if_neg]
    · split
      · rename_i hnone
        rw [if_pos hnone]
      · rename_i exponent hsome
        rw [if_neg hsome]
    · intro hhead
      obtain ⟨more, hmore⟩ := List.head?_eq_some_iff.mp hhead
      exact hrest more hmore

theorem fractionAfter?_swap {whole rest v w : List Char} (hlength : ∀ text,
      fractionAfter? whole (rest ++ v) = some text → text.length ≤ whole.length + rest.length) (hw : Stopped w) :
    fractionAfter? whole (rest ++ w) = fractionAfter? whole (rest ++ v) := by
  unfold fractionAfter? at hlength ⊢
  cases rest with
  | nil =>
    have hdot : w.head? ≠ some '.' := by
      intro hhead
      have := hw '.' hhead
      simp [isStop] at this
    simp only [List.nil_append, List.length_nil, Nat.add_zero] at hlength ⊢
    rw [if_neg hdot, if_pos (exponentText_of_stopped hw)]
    by_cases hv : v.head? = some '.'
    · have := hlength _ (if_pos hv)
      simp only [List.length_append, List.length_cons] at this
      omega
    · rw [if_neg hv] at hlength ⊢
      by_cases hexponent : exponentText v = []
      · rw [if_pos hexponent]
      · have hpos := List.length_pos_iff.mpr hexponent
        have := hlength _ (if_neg hexponent)
        rw [List.length_append] at this
        omega
  | cons c rest =>
    simp only [List.cons_append, List.head?_cons, Option.some.injEq, List.tail_cons, List.length_cons] at hlength ⊢
    by_cases hc : c = '.'
    · have htext := hlength _ (if_pos hc)
      simp only [List.length_append, List.length_cons] at htext
      have hdigits : (rest ++ w).takeWhile Char.isDigit = (rest ++ v).takeWhile Char.isDigit :=
        takeWhile_swap (by omega) hw.digit
      rw [List.drop_append_of_le_length (by omega)] at htext
      have hexponent : exponentText (rest.drop ((rest ++ v).takeWhile Char.isDigit).length ++ w) =
          exponentText (rest.drop ((rest ++ v).takeWhile Char.isDigit).length ++ v) :=
        exponentText_swap (by rw [List.length_drop]; omega) hw
      rw [if_pos hc, if_pos hc, hdigits, List.drop_append_of_le_length (by omega),
        List.drop_append_of_le_length (by omega), hexponent]
    · rw [if_neg hc] at hlength
      have hexponent : exponentText (c :: rest ++ w) = exponentText (c :: rest ++ v) := by
        refine exponentText_swap ?_ hw
        by_cases hnil : exponentText (c :: rest ++ v) = []
        · rw [hnil]
          exact Nat.zero_le _
        · have := hlength _ (if_neg hnil)
          rw [List.length_append] at this
          simp only [List.cons_append, List.length_cons] at this ⊢
          omega
      rw [if_neg hc, if_neg hc, ← List.cons_append, ← List.cons_append, hexponent]

theorem fractionText?_swap {u v w : List Char} (hwhole : ((u ++ v).takeWhile Char.isDigit).length ≤ u.length)
    (hlength : ∀ text, fractionText? (u ++ v) = some text → text.length ≤ u.length) (hw : Stopped w) :
    fractionText? (u ++ w) = fractionText? (u ++ v) := by
  rw [fractionText?_eq, List.drop_append_of_le_length hwhole] at hlength
  have hsame := takeWhile_swap hwhole hw.digit
  rw [fractionText?_eq, fractionText?_eq, hsame, List.drop_append_of_le_length hwhole,
    List.drop_append_of_le_length hwhole]
  refine fractionAfter?_swap ?_ hw
  intro text htext
  have := hlength text htext
  rw [List.length_drop]
  omega

theorem digits_le_integerText (text : List Char) :
    (text.takeWhile Char.isDigit).length ≤ (integerText text).length := by
  rw [integerText_eq]
  split_ifs with hhex
  · rcases text with _ | ⟨c, _ | ⟨x, rest⟩⟩
    · simp
    · simp [startsHex] at hhex
    · have hx : x.isDigit = false := by
        simp only [startsHex, List.getElem?_cons_zero, List.getElem?_cons_succ, Option.some.injEq, Bool.and_eq_true,
          Bool.or_eq_true, decide_eq_true_eq] at hhex
        rcases hhex.1.2 with rfl | rfl
        · rfl
        · rfl
      by_cases hc : c.isDigit = true
      · rw [List.takeWhile_cons_of_pos hc, List.takeWhile_cons_of_neg (by simp [hx])]
        simp
      · rw [List.takeWhile_cons_of_neg hc]
        simp
  · exact Nat.le_refl _

theorem digits_le_fractionText {text fraction : List Char} (h : fractionText? text = some fraction) :
    (text.takeWhile Char.isDigit).length ≤ fraction.length := by
  rw [fractionText?_eq, fractionAfter?] at h
  split_ifs at h
  · rw [← Option.some.inj h]
    simp only [List.length_append]
    omega
  · rw [← Option.some.inj h, List.length_append]
    omega

theorem readNumber_of_fraction {place : Place} {text fraction : List Char} (hplace : place.fractions = true)
    (h : fractionText? text = some fraction) : readNumber place text = (.fraction, fraction) := by
  simp [readNumber, hplace, h]

theorem readNumber_of_integer {place : Place} {text : List Char}
    (h : place.fractions = true → fractionText? text = none) :
    readNumber place text = (.integer, integerText text) := by
  cases hplace : place.fractions with
  | false => simp [readNumber, hplace]
  | true => simp [readNumber, hplace, h hplace]

theorem readNumber_swap {place : Place} {u v w : List Char} (hlength : (readNumber place (u ++ v)).2.length ≤ u.length)
    (hw : Stopped w) : readNumber place (u ++ w) = readNumber place (u ++ v) := by
  by_cases hfraction : place.fractions = true ∧ fractionText? (u ++ v) ≠ none
  · obtain ⟨fraction, hsome⟩ := Option.ne_none_iff_exists'.mp hfraction.2
    rw [readNumber_of_fraction hfraction.1 hsome] at hlength ⊢
    refine readNumber_of_fraction hfraction.1 ?_
    rw [fractionText?_swap (Nat.le_trans (digits_le_fractionText hsome) hlength) ?_ hw, hsome]
    intro text htext
    rw [hsome] at htext
    rw [← Option.some.inj htext]
    exact hlength
  · have hnone : place.fractions = true → fractionText? (u ++ v) = none := by
      intro hplace
      by_contra hsome
      exact hfraction ⟨hplace, hsome⟩
    rw [readNumber_of_integer hnone] at hlength ⊢
    rw [readNumber_of_integer, integerText_swap hlength hw]
    intro hplace
    rw [fractionText?_swap (Nat.le_trans (digits_le_integerText _) hlength) ?_ hw, hnone hplace]
    intro text htext
    rw [hnone hplace] at htext
    cases htext

/-! ## Words and quoted texts -/

theorem Keyword.isNameChar_of_mem_spelling (keyword : Keyword) :
    ∀ c ∈ keyword.spelling.toList, isNameChar c = true := by
  have hall : keyword.spelling.toList.all isNameChar = true := by cases keyword <;> decide
  exact List.all_eq_true.mp hall

theorem isPrefix_of_past {word u w : List Char} (hword : ∀ c ∈ word, isNameChar c = true) (hw : Past isNameChar w)
    (h : word <+: u ++ w) : word <+: u := by
  induction u generalizing word with
  | nil =>
    cases word with
    | nil => simp
    | cons c word =>
      obtain ⟨rest, hrest⟩ := h
      have := hw c (by rw [← List.nil_append w, ← hrest]; rfl)
      rw [hword c List.mem_cons_self] at this
      cases this
  | cons d u ih =>
    cases word with
    | nil => simp
    | cons c word =>
      rw [List.cons_append, List.cons_prefix_cons] at h
      rw [List.cons_prefix_cons]
      exact ⟨h.1, ih (fun c hc => hword c (List.mem_cons_of_mem _ hc)) h.2⟩

theorem readWord_swap {place : Place} {u v w : List Char} (hkind : (readWord place (u ++ v)).1 ≠ .unreadable)
    (hlength : (readWord place (u ++ v)).2.length ≤ u.length) (hw : Past isNameChar w) :
    readWord place (u ++ w) = readWord place (u ++ v) := by
  unfold readWord at *
  split_ifs at hkind hlength ⊢
  · have hsame : (u ++ w).takeWhile isNameChar = (u ++ v).takeWhile isNameChar := by
      refine takeWhile_swap ?_ hw
      simp only at hlength
      split at hlength <;> exact hlength
    rw [hsame]
  · cases hfound : place.keywords.find? (·.spelling.toList.isPrefixOf (u ++ v)) with
    | none => simp [hfound] at hkind
    | some keyword =>
      simp only [hfound] at hlength
      obtain ⟨hstarts, before, after, hsplit, hbefore⟩ := List.find?_eq_some_iff_append.mp hfound
      have hshort : keyword.spelling.toList <+: u :=
        List.prefix_of_prefix_length_le (by simpa using hstarts) (List.prefix_append u v) hlength
      have hsame : place.keywords.find? (·.spelling.toList.isPrefixOf (u ++ w)) = some keyword := by
        refine List.find?_eq_some_iff_append.mpr ⟨?_, before, after, hsplit, ?_⟩
        · simpa using hshort.trans (List.prefix_append u w)
        · intro other hother
          have hnot := hbefore other hother
          rw [Bool.not_eq_true', Bool.eq_false_iff, Ne, List.isPrefixOf_iff_prefix] at hnot ⊢
          exact fun hmatch =>
            hnot ((isPrefix_of_past other.isNameChar_of_mem_spelling hw hmatch).trans (List.prefix_append u v))
      simp only [hsame]

theorem quotedText?_cons {c : Char} (hc : c ≠ '\\') (quote : Char) (rest : List Char) :
    quotedText? quote (c :: rest) =
      if c = quote then some [c] else if c = '\n' then none else (quotedText? quote rest).map (c :: ·) := by
  rw [quotedText?]
  · simp only [hc, or_false]
  · rintro _ _ rfl
    exact absurd rfl hc

theorem quotedText?_append {quote : Char} (hquote : quote ≠ '\\') {text quoted : List Char}
    (h : quotedText? quote text = some quoted) :
    quoted <+: text ∧ ∀ more, quotedText? quote (quoted ++ more) = some quoted := by
  fun_induction quotedText? quote text generalizing quoted with
  | case1 => cases h
  | case2 => cases h
  | case3 c rest hc ih =>
    obtain ⟨inner, hinner, rfl⟩ := Option.map_eq_some_iff.mp h
    obtain ⟨hstarts, hmore⟩ := ih hinner
    refine ⟨by simpa using hstarts, fun more => ?_⟩
    rw [List.cons_append, List.cons_append, quotedText?, if_neg hc, hmore, Option.map_some]
  | case4 rest =>
    cases h
    refine ⟨by simp, fun more => ?_⟩
    rw [List.singleton_append, quotedText?_cons hquote, if_pos rfl]
  | case5 => cases h
  | case6 c rest hshape hc hbreak ih =>
    obtain ⟨inner, hinner, rfl⟩ := Option.map_eq_some_iff.mp h
    obtain ⟨hstarts, hmore⟩ := ih hinner
    rw [not_or] at hbreak
    refine ⟨by simpa using hstarts, fun more => ?_⟩
    rw [List.cons_append, quotedText?_cons hbreak.2, if_neg hc, if_neg hbreak.1, hmore, Option.map_some]

/-! ## Tokens -/

/-- A token of this kind does not go on with the text. -/
def TokenKind.EndsBefore (kind : TokenKind) (text : List Char) : Prop :=
  match kind with
  | name | keyword _ => Past isNameChar text
  | integer | fraction => Stopped text
  | _ => True

theorem readWord_cases (place : Place) (text : List Char) :
    (readWord place text).1 = .name ∨ (∃ word, (readWord place text).1 = .keyword word) ∨
      (readWord place text).1 = .unreadable := by
  unfold readWord
  split_ifs
  · simp only
    split <;> simp
  · split <;> simp

theorem readNumber_cases (place : Place) (text : List Char) :
    (readNumber place text).1 = .fraction ∨ (readNumber place text).1 = .integer := by
  unfold readNumber
  split <;> simp

/-- The token at the start of `u` is found from `u`, whatever follows that does not go on with it. -/
theorem readToken_swap {place : Place} {u v w : List Char} (hu : u ≠ [])
    (hkind : (readToken place (u ++ v)).1 ≠ .unreadable) (hlength : (readToken place (u ++ v)).2.length ≤ u.length)
    (hw : (readToken place (u ++ v)).1.EndsBefore w) : readToken place (u ++ w) = readToken place (u ++ v) := by
  cases u with
  | nil => exact absurd rfl hu
  | cons c u =>
    simp only [List.cons_append, readToken] at *
    split_ifs at hkind hlength hw ⊢ with hname hdigit hquote
    · refine readWord_swap (u := c :: u) hkind hlength ?_
      rcases readWord_cases place (c :: (u ++ v)) with h | ⟨word, h⟩ | h
      · rw [h] at hw
        exact hw
      · rw [h] at hw
        exact hw
      · exact absurd h hkind
    · refine readNumber_swap (u := c :: u) hlength ?_
      rcases readNumber_cases place (c :: (u ++ v)) with h | h
      · rw [h] at hw
        exact hw
      · rw [h] at hw
        exact hw
    · cases hquoted : quotedText? c (u ++ v) with
      | none => simp [hquoted] at hkind
      | some quoted =>
        simp only [hquoted, List.length_cons] at hlength
        obtain ⟨hstarts, hmore⟩ := quotedText?_append (by rintro rfl; revert hquote; decide) hquoted
        obtain ⟨rest, rfl⟩ := List.prefix_of_prefix_length_le hstarts (List.prefix_append u v) (by omega)
        rw [List.append_assoc, hmore]
    · rfl

/-! ## The text of a token -/

theorem isPrefix_append_takeWhile {start text : List Char} (h : start <+: text) (p : Char → Bool) :
    start ++ (text.drop start.length).takeWhile p <+: text := by
  obtain ⟨rest, rfl⟩ := h
  rw [List.drop_left, List.prefix_append_right_inj]
  exact List.takeWhile_prefix p

theorem integerText_isPrefix (text : List Char) : integerText text <+: text := by
  rw [integerText_eq]
  split_ifs with hhex
  · have htake : (text.take 2).length = 2 := by
      have := three_le_of_startsHex hhex
      rcases text with _ | ⟨c, _ | ⟨x, rest⟩⟩
      · simp [startsHex] at hhex
      · simp [startsHex] at hhex
      · rfl
    have := isPrefix_append_takeWhile (List.take_prefix 2 text) isHexDigit
    rwa [htake] at this
  · exact List.takeWhile_prefix _

theorem signText_isPrefix (text : List Char) : signText text <+: text := by
  cases text with
  | nil => exact List.prefix_rfl
  | cons c rest =>
    by_cases hc : c = '+' ∨ c = '-'
    · simp [signText, hc]
    · simp [signText, hc]

theorem exponentText_isPrefix (text : List Char) : exponentText text <+: text := by
  cases text with
  | nil => exact List.prefix_rfl
  | cons e rest =>
    by_cases he : e = 'e' ∨ e = 'E'
    · rw [exponentText_of_eq he]
      split_ifs
      · exact List.nil_prefix
      · rw [List.cons_append, List.cons_prefix_cons]
        exact ⟨rfl, isPrefix_append_takeWhile (signText_isPrefix rest) _⟩
    · rw [exponentText_of_ne he]
      exact List.nil_prefix

theorem fractionText?_isPrefix {text fraction : List Char} (h : fractionText? text = some fraction) :
    fraction <+: text := by
  rw [fractionText?_eq] at h
  obtain ⟨rest, hrest⟩ := List.takeWhile_prefix Char.isDigit (l := text)
  generalize text.takeWhile Char.isDigit = whole at h hrest
  subst hrest
  rw [List.drop_left, fractionAfter?] at h
  split_ifs at h with hdot
  · obtain ⟨more, rfl⟩ := List.head?_eq_some_iff.mp hdot
    rw [← Option.some.inj h, List.tail_cons, List.append_assoc, List.prefix_append_right_inj, List.cons_append,
      List.cons_prefix_cons]
    obtain ⟨last, hlast⟩ := List.takeWhile_prefix Char.isDigit (l := more)
    refine ⟨rfl, ?_⟩
    generalize more.takeWhile Char.isDigit = digits at hlast
    subst hlast
    rw [List.drop_left, List.prefix_append_right_inj]
    exact exponentText_isPrefix last
  · rw [← Option.some.inj h, List.prefix_append_right_inj]
    exact exponentText_isPrefix rest

theorem readToken_isPrefix (place : Place) (text : List Char) : (readToken place text).2 <+: text := by
  cases text with
  | nil => exact List.prefix_rfl
  | cons c rest =>
    rw [readToken]
    split_ifs
    · unfold readWord
      split_ifs
      · simp only
        split <;> exact List.takeWhile_prefix _
      · split
        · rename_i keyword hfound
          have := List.find?_some hfound
          rwa [List.isPrefixOf_iff_prefix] at this
        · exact List.nil_prefix
    · unfold readNumber
      split
      · rename_i fraction hfraction
        split_ifs at hfraction
        exact fractionText?_isPrefix hfraction
      · exact integerText_isPrefix _
    · rename_i hquote
      cases hquoted : quotedText? c rest with
      | none => exact List.nil_prefix
      | some quoted =>
        rw [List.cons_prefix_cons]
        exact ⟨rfl, (quotedText?_append (by rintro rfl; revert hquote; decide) hquoted).1⟩
    · simp

end RpcClients.Proto
