import RpcClients.Proofs.EscapedTexts
import RpcClients.Proofs.Filler
import RpcClients.Proofs.Outline

/-! # Reading lexemes

A reader that stands at a lexeme sees it as a token of the kind that it has at its place, and goes on to
the lexeme behind it. What a rule does is said by where it starts and where it stops: the place, and the
lexemes that are left. -/

namespace RpcClients.Proto

/-! ## Lexemes as tokens -/

/-- At the place the lexeme is read as a token of the kind, and whole. -/
structure Lexeme.ReadsAs (lexeme : Lexeme) (place : Place) (kind : TokenKind) : Prop where
  token {text : List Char} (h : lexeme.Spells text) : readToken place text = (kind, text)
  readable : kind ≠ .unreadable
  ends {rest : List Char} (h : lexeme.Apart rest) : kind.EndsBefore rest

theorem readToken_of_isNameStart {place : Place} {text : List Char} (h : text.head?.any isNameStart = true) :
    readToken place text = readWord place text := by
  cases text with
  | nil => cases h
  | cons c rest => rw [readToken, if_pos (by simpa using h)]

theorem takeWhile_of_all {p : Char → Bool} {text : List Char} (h : text.all p = true) : text.takeWhile p = text := by
  rw [← List.append_nil text, List.takeWhile_append_of_pos (List.all_eq_true.mp h), List.takeWhile_nil]

theorem Identifier.readsAs (name : Identifier) {place : Place} (hplace : place.names = true) :
    (Lexeme.name name).ReadsAs place .name where
  token := by
    rintro _ rfl
    have hnone : place.keywords.find? (fun keyword => decide (keyword.spelling.toList = name.text.toList)) = none := by
      rw [List.find?_eq_none]
      intro keyword _
      simpa [String.toList_inj] using name.free keyword
    rw [readToken_of_isNameStart name.starts, readWord, if_pos hplace]
    simp only [takeWhile_of_all name.goesOn, hnone]
  readable := by decide
  ends h := h

theorem Keyword.readsAs {keyword : Keyword} {place : Place}
    (h : readToken place keyword.spelling.toList = (.keyword keyword, keyword.spelling.toList)) :
    (Lexeme.keyword keyword).ReadsAs place (.keyword keyword) where
  token := by
    rintro _ rfl
    exact h
  readable := nofun
  ends h := h

theorem readNumber_of_digits (place : Place) {digits : List Char} (h : digits.all Char.isDigit = true) :
    readNumber place digits = (.integer, digits) := by
  have hfraction : fractionText? digits = none := by
    rw [fractionText?_eq, takeWhile_of_all h, List.drop_length]
    rfl
  have hhex : startsHex digits = false := by
    by_contra hhex
    have hdigit := List.all_eq_true.mp h
    simp only [startsHex, Bool.not_eq_false, Bool.and_eq_true, Bool.or_eq_true, decide_eq_true_eq] at hhex
    rcases hhex.1.2 with hx | hx
    · exact absurd (hdigit _ (List.mem_of_getElem? hx)) (by decide)
    · exact absurd (hdigit _ (List.mem_of_getElem? hx)) (by decide)
  rw [readNumber_of_integer fun _ => hfraction, integerText_eq, hhex, if_neg Bool.false_ne_true, takeWhile_of_all h]

theorem not_isNameStart_of_isDigit {c : Char} (h : c.isDigit = true) : isNameStart c = false := by
  have hunderscore : c ≠ '_' := by
    rintro rfl
    cases h
  unfold isNameStart Char.isAlpha Char.isUpper Char.isLower
  unfold Char.isDigit at h
  simp only [Bool.and_eq_true, decide_eq_true_eq, ge_iff_le, UInt32.le_iff_toNat_le] at h
  simp only [hunderscore, Bool.or_eq_false_iff, Bool.and_eq_false_iff, decide_eq_false_iff_not, ge_iff_le,
    UInt32.le_iff_toNat_le, not_false_eq_true, and_true]
  have hnine : '9'.val.toNat < 'A'.val.toNat ∧ '9'.val.toNat < 'a'.val.toNat := by decide
  omega

theorem number_readsAs (value : Nat) (place : Place) : (Lexeme.number value).ReadsAs place .integer where
  token := by
    rintro _ rfl
    have hdigits : (Nat.toDigits 10 value).all Char.isDigit = true :=
      List.all_eq_true.mpr fun c => isDigit_of_mem_decimal
    cases htext : Nat.toDigits 10 value with
    | nil => exact absurd htext Nat.toDigits_ne_nil
    | cons c rest =>
      rw [htext] at hdigits
      have hc : c.isDigit = true := List.all_eq_true.mp hdigits c (by simp)
      rw [readToken, if_neg (by simp [not_isNameStart_of_isDigit hc]), if_pos hc, readNumber_of_digits place hdigits]
  readable := by decide
  ends h := h

theorem PlainText.literalOf_eq (text : PlainText) {quote : Char} (hquote : quote = '"' ∨ quote = '\'') :
    literalOf quote text.text = quote :: (text.text.toList ++ [quote]) := by
  refine literalOf_plain fun c hc => ?_
  have hplain := List.all_eq_true.mp text.plain c hc
  simp only [Bool.and_eq_true, decide_eq_true_eq] at hplain
  obtain ⟨⟨⟨hdouble, hsingle⟩, hbackslash⟩, hnewline⟩ := hplain
  rcases hquote with rfl | rfl
  · exact ⟨hdouble, hbackslash, hnewline⟩
  · exact ⟨hsingle, hbackslash, hnewline⟩

theorem quoted_readsAs (text : PlainText) (place : Place) : (Lexeme.quoted text).ReadsAs place .quoted where
  token := by
    rintro _ ⟨quote, hquote, rfl⟩
    have htoken := readToken_literalOf hquote place text.text []
    rwa [List.append_nil, text.literalOf_eq hquote] at htoken
  readable := by decide
  ends _ := trivial

theorem mark_readsAs (c : Char) (known : c ∈ marks) (place : Place) :
    (Lexeme.mark c known).ReadsAs place (.mark c) where
  token := by
    rintro _ rfl
    have hall : marks.all (fun c => !isNameStart c && !c.isDigit && !(c = '"' || c = '\'')) = true := by decide
    have hc := List.all_eq_true.mp hall c known
    simp only [Bool.and_eq_true, Bool.not_eq_true', Bool.or_eq_false_iff, decide_eq_false_iff_not] at hc
    rw [readToken, if_neg (by simp [hc.1.1]), if_neg (by simp [hc.1.2]), if_neg (by simp [hc.2])]
  readable := nofun
  ends _ := trivial

/-- No blank and no comment starts with the character. -/
def isSolid (c : Char) : Bool := !isSpace c && c ≠ '/'

theorem isSolid_of_apart {p : Char → Bool} (hp : [' ', '\t', '\x0c', '\r', '\n', '/'].all (!p ·) = true) {c : Char}
    (hc : p c = true) : isSolid c = true := by
  have hne : ∀ d ∈ [' ', '\t', '\x0c', '\r', '\n', '/'], c ≠ d := by
    rintro d hd rfl
    simpa [hc] using List.all_eq_true.mp hp c hd
  simp only [List.mem_cons, List.not_mem_nil, or_false, forall_eq_or_imp, forall_eq] at hne
  simp [isSolid, isSpace, hne]

theorem Keyword.starts (keyword : Keyword) : keyword.spelling.toList.head?.any isNameStart = true := by
  cases keyword <;> decide

theorem isSolid_of_head {p : Char → Bool} (hp : [' ', '\t', '\x0c', '\r', '\n', '/'].all (!p ·) = true)
    {text : List Char}
    (h : text.head?.any p = true) : ∃ c rest, text = c :: rest ∧ isSolid c = true := by
  cases text with
  | nil => cases h
  | cons c rest => exact ⟨c, rest, rfl, isSolid_of_apart hp (by simpa using h)⟩

theorem Lexeme.Spells.solid {lexeme : Lexeme} {text : List Char} (h : lexeme.Spells text) :
    ∃ c rest, text = c :: rest ∧ isSolid c = true := by
  cases lexeme with
  | keyword word =>
    obtain rfl : text = word.spelling.toList := h
    exact isSolid_of_head (p := isNameStart) (by decide) word.starts
  | name identifier =>
    obtain rfl : text = identifier.text.toList := h
    exact isSolid_of_head (p := isNameStart) (by decide) identifier.starts
  | number value =>
    obtain rfl : text = Nat.toDigits 10 value := h
    refine isSolid_of_head (p := Char.isDigit) (by decide) ?_
    cases hdigits : Nat.toDigits 10 value with
    | nil => exact absurd hdigits Nat.toDigits_ne_nil
    | cons c rest => exact isDigit_of_mem_decimal (n := value) (by simp [hdigits])
  | quoted plain =>
    obtain ⟨quote, hquote, rfl⟩ := h
    refine ⟨quote, _, rfl, ?_⟩
    rcases hquote with rfl | rfl <;> decide
  | mark c known =>
    obtain rfl : text = [c] := h
    have hall : marks.all isSolid = true := by decide
    exact ⟨c, [], rfl, List.all_eq_true.mp hall c known⟩

/-! ## Readers at lexemes -/

/-- The reader stands at the first of the lexemes, which it has read as one does at the place, and no comment
stands before it. -/
inductive At (place : Place) : List Lexeme → Reader → Prop where
  | finish {reader : Reader} (hkind : reader.token.kind = .finish) (hcomments : reader.cursor.comments = []) :
    At place [] reader
  | lexeme {lexeme : Lexeme} {lexemes : List Lexeme} {spelling rest : List Char} {reader : Reader}
    (hlexeme : lexeme.Spells spelling) (hapart : lexeme.Apart rest) (hwritten : Written lexemes rest)
    (hkind : reader.token.kind = (readToken place (spelling ++ rest)).1)
    (htext : reader.token.text = (readToken place (spelling ++ rest)).2)
    (hrest : reader.cursor.rest = (spelling ++ rest).drop reader.token.text.length)
    (hcomments : reader.cursor.comments = []) : At place (lexeme :: lexemes) reader

theorem skipBlanks_blanks {blanks text : List Char} (hblanks : blanks.all isSpace = true)
    (htext : text = [] ∨ ∃ c rest, text = c :: rest ∧ isSolid c = true) (position : Position) (atMargin : Bool) :
    (skipBlanks 0 position atMargin [] (blanks ++ text)).rest = text ∧
      (skipBlanks 0 position atMargin [] (blanks ++ text)).comments = [] := by
  induction blanks generalizing position atMargin with
  | nil =>
    rcases htext with rfl | ⟨c, rest, rfl, hc⟩
    · exact ⟨rfl, rfl⟩
    · simp only [isSolid, Bool.and_eq_true, Bool.not_eq_true', decide_eq_true_eq] at hc
      rw [List.nil_append, skipBlanks, if_neg (by simp [hc.1])]
      simp only [commentAt?_of_ne hc.2, and_self]
  | cons c blanks ih =>
    rw [List.all_cons, Bool.and_eq_true] at hblanks
    rw [List.cons_append, skipBlanks, if_pos hblanks.1]
    exact ih hblanks.2 _ _

theorem at_read {lexemes : List Lexeme} {cursor : Cursor} (h : Written lexemes cursor.rest)
    (hcomments : cursor.comments = []) (place : Place) (last : Position) (fault : Option Fault) :
    At place lexemes (Reader.read place last cursor fault) := by
  generalize hcursor : cursor.rest = text at h
  cases h with
  | finish hblanks =>
    obtain ⟨hrest, hnone⟩ := skipBlanks_blanks hblanks (Or.inl rfl) cursor.position cursor.atMargin
    rw [List.append_nil, ← hcursor, ← hcomments] at hrest hnone
    refine .finish ?_ (hnone.trans hcomments)
    simp only [Reader.read, Cursor.skipBlanks, hrest, readToken]
  | @step blanks spelling rest lexeme lexemes hblanks hlexeme hapart hwritten =>
    have hsolid : ∃ c more, spelling ++ rest = c :: more ∧ isSolid c = true := by
      obtain ⟨c, more, rfl, hc⟩ := hlexeme.solid
      exact ⟨c, more ++ rest, rfl, hc⟩
    obtain ⟨hrest, hnone⟩ := skipBlanks_blanks hblanks (Or.inr hsolid) cursor.position cursor.atMargin
    rw [← List.append_assoc, ← hcursor, ← hcomments] at hrest hnone
    refine .lexeme hlexeme hapart hwritten ?_ ?_ ?_ (hnone.trans hcomments)
    · simp only [Reader.read, Cursor.skipBlanks, hrest]
    · simp only [Reader.read, Cursor.skipBlanks, hrest]
    · simp only [Reader.read, Cursor.skipBlanks, Cursor.skip, hrest]

section

variable {place : Place} {lexeme : Lexeme} {lexemes : List Lexeme} {reader : Reader} {kind : TokenKind}

theorem At.token (h : At place (lexeme :: lexemes) reader) (hreads : lexeme.ReadsAs place kind) :
    reader.token.kind = kind ∧ lexeme.Spells reader.token.text ∧ Written lexemes reader.cursor.rest := by
  cases h with
  | @lexeme _ _ spelling rest _ hlexeme hapart hwritten hkind htext hrest hcomments =>
    have hwhole := hreads.token hlexeme
    obtain ⟨c, more, hsolid, _⟩ := hlexeme.solid
    have hread : readToken place (spelling ++ rest) = (kind, spelling) := by
      have hswap := @readToken_swap place spelling [] rest (by simp [hsolid])
      rw [List.append_nil, hwhole] at hswap
      exact hswap hreads.readable (Nat.le_refl _) (hreads.ends hapart)
    rw [hread] at hkind htext
    subst htext
    rw [List.drop_left] at hrest
    exact ⟨hkind, hlexeme, hrest ▸ hwritten⟩

theorem At.comments (h : At place lexemes reader) : reader.cursor.comments = [] := by
  cases h with
  | finish _ hcomments => exact hcomments
  | lexeme _ _ _ _ _ _ hcomments => exact hcomments

theorem At.next (h : At place (lexeme :: lexemes) reader) (hreads : lexeme.ReadsAs place kind) (place' : Place) :
    At place' lexemes (reader.next place') := by
  have hread := at_read (h.token hreads).2.2 h.comments place' reader.token.start reader.fault
  cases hread with
  | finish hkind hcomments => exact .finish hkind hcomments
  | lexeme hlexeme hapart hwritten hkind htext hrest hcomments =>
    exact .lexeme hlexeme hapart hwritten hkind htext hrest hcomments

theorem Written.length_le {text : List Char} (h : Written lexemes text) : lexemes.length ≤ text.length := by
  induction h with
  | finish => exact Nat.zero_le _
  | step _ hlexeme _ _ ih =>
    obtain ⟨c, more, rfl, _⟩ := hlexeme.solid
    simp only [List.length_cons, List.length_append]
    omega

end

/-! ## Rules at lexemes -/

/-- At the lexemes the rule gets through, its result is as said, and it leaves the other lexemes, of which the
first has been read at the other place. It finds no fault. -/
def Leads {α : Type} (place : Place) (lexemes : List Lexeme) (rule : Parser α) (result : α → Prop) (place' : Place)
    (lexemes' : List Lexeme) : Prop :=
  ∀ reader, At place lexemes reader → ∃ value reader',
    rule.run reader = .ok (value, reader') ∧ result value ∧ At place' lexemes' reader' ∧ reader'.fault = reader.fault

/-- The first lexeme can be read at the place. -/
def Readable (place : Place) (lexemes : List Lexeme) : Prop :=
  ∃ lexeme rest kind, lexemes = lexeme :: rest ∧ lexeme.ReadsAs place kind

open RpcClients.Proto.Parser

variable {α β : Type} {place place' place'' : Place} {lexeme : Lexeme} {lexemes lexemes' lexemes'' : List Lexeme}
  {kind : TokenKind} {result : α → Prop}

theorem Leads.bind {result' : β → Prop} {rule : Parser α} {rest : α → Parser β}
    (hrule : Leads place lexemes rule result place' lexemes')
    (hrest : ∀ value, result value → Leads place' lexemes' (rest value) result' place'' lexemes'') :
    Leads place lexemes (rule >>= rest) result' place'' lexemes'' := by
  intro reader hreader
  obtain ⟨value, middle, hrun, hvalue, hmiddle, hfault⟩ := hrule reader hreader
  obtain ⟨value', after, hrun', hvalue', hafter, hfault'⟩ := hrest value hvalue middle hmiddle
  exact ⟨value', after, run_bind_ok_iff.mpr ⟨value, middle, hrun, hrun'⟩, hvalue', hafter, hfault'.trans hfault⟩

theorem Leads.andThen {result' : β → Prop} {rule : Parser α} {value : α} {rest : α → Parser β}
    (hrule : Leads place lexemes rule (· = value) place' lexemes')
    (hrest : Leads place' lexemes' (rest value) result' place'' lexemes'') :
    Leads place lexemes (rule >>= rest) result' place'' lexemes'' := by
  refine hrule.bind ?_
  rintro _ rfl
  exact hrest

theorem leads_pure {value : α} (h : result value) : Leads place lexemes (pure value) result place lexemes :=
  fun reader hreader => ⟨value, reader, rfl, h, hreader, rfl⟩

theorem leads_kind (hreads : lexeme.ReadsAs place kind) {rest : TokenKind → Parser α}
    (h : Leads place (lexeme :: lexemes) (rest kind) result place' lexemes') :
    Leads place (lexeme :: lexemes) (Parser.kind >>= rest) result place' lexemes' := by
  intro reader hreader
  have hrun : (Parser.kind >>= rest).run reader = (rest kind).run reader := by
    rw [← (hreader.token hreads).1]
    rfl
  rw [hrun]
  exact h reader hreader

theorem leads_skip (hreads : lexeme.ReadsAs place kind) (place' : Place) :
    Leads place (lexeme :: lexemes) (skip place') (· = ()) place' lexemes :=
  fun reader hreader => ⟨(), reader.next place', rfl, rfl, hreader.next hreads place', rfl⟩

theorem leads_take (hreads : lexeme.ReadsAs place kind) (place' : Place) :
    Leads place (lexeme :: lexemes) (take kind place') (fun token => lexeme.Spells token.text) place' lexemes := by
  intro reader hreader
  obtain ⟨hkind, hspells, _⟩ := hreader.token hreads
  refine ⟨reader.token, reader.next place', ?_, hspells, hreader.next hreads place', rfl⟩
  rw [run_take, if_pos hkind]

theorem Leads.discard {rule : Parser α} (h : Leads place lexemes rule result place' lexemes') :
    Leads place lexemes (discard rule) (· = ()) place' lexemes' :=
  h.bind fun _ _ => leads_pure rfl

theorem leads_takeMark {c : Char} {known : c ∈ marks} (place' : Place) :
    Leads place (.mark c known :: lexemes) (takeMark c place') (· = ()) place' lexemes :=
  (leads_take (mark_readsAs c known place) place').discard

theorem leads_takeName (hplace : place.names = true) (name : Identifier) (place' : Place) :
    Leads place (.name name :: lexemes) (takeName place') (· = name.text) place' lexemes := by
  refine (leads_take (name.readsAs hplace) place').bind fun token htoken => leads_pure ?_
  have htext : token.text = name.text.toList := htoken
  rw [htext, String.ofList_toList]

theorem leads_remaining (h : Readable place lexemes) :
    Leads place lexemes remaining (lexemes.length ≤ ·) place lexemes := by
  obtain ⟨lexeme, rest, kind, rfl, hreads⟩ := h
  intro reader hreader
  refine ⟨_, reader, rfl, ?_, hreader, rfl⟩
  exact Nat.succ_le_succ (hreader.token hreads).2.2.length_le

theorem Readable.append (h : Readable place lexemes) (rest : List Lexeme) : Readable place (lexemes ++ rest) := by
  obtain ⟨lexeme, more, kind, rfl, hreads⟩ := h
  exact ⟨lexeme, more ++ rest, kind, rfl, hreads⟩

theorem readable_mark {c : Char} {known : c ∈ marks} : Readable place (.mark c known :: lexemes) :=
  ⟨_, _, _, rfl, mark_readsAs c known place⟩

theorem leads_enter {depth : Nat} (h : depth ≤ maxNesting) :
    Leads place lexemes (enter depth) (· = ()) place lexemes := by
  rw [enter, if_neg (by omega)]
  exact leads_pure rfl

theorem leads_quotedText (text : PlainText) (place' : Place) :
    Leads place (.quoted text :: lexemes) (quotedText place') (· = Text.codes text.text) place' lexemes := by
  refine (leads_take (quoted_readsAs text place) place').bind fun token htoken => ?_
  obtain ⟨quote, hquote, htext⟩ := htoken
  rw [htext, ← text.literalOf_eq hquote, unquote?_literalOf hquote]
  exact leads_pure rfl

theorem leads_integer {value : Nat} (h : value < 10 ^ 10) (place' : Place) :
    Leads place (.number value :: lexemes) (integer place') (· = value) place' lexemes := by
  refine (leads_take (number_readsAs value place) place').bind fun token htoken => ?_
  have htext : token.text = Nat.toDigits 10 value := htoken
  rw [htext, integer?_toDigits h]
  exact leads_pure rfl

end RpcClients.Proto
