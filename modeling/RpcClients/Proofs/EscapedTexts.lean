import Mathlib.Data.List.Basic
import RpcClients.Proofs.LiteralText
import RpcClients.Proofs.RelatedReaders
import RpcClients.Proofs.TokenEnds

/-! # Quoted texts are read back

Any text can stand between quotes. A backslash and the quote are written behind a backslash, a line feed as `\n`, and
every other character as it is. Whatever stands in the text, no character of it reaches into the next one: neither in
the search for the closing quote nor while escapes are replaced, where characters above U+00FF are escapes as well. -/

namespace RpcClients.Proto

/-- A character as it is written between quotes. -/
def escapedIn (quote c : Char) : List Char :=
  if c = '\\' ∨ c = quote then ['\\', c] else if c = '\n' then ['\\', 'n'] else [c]

def literalOf (quote : Char) (text : String) : List Char :=
  quote :: (text.toList.flatMap (escapedIn quote) ++ [quote])

variable {quote : Char}

theorem literalOf_plain {text : String} (h : ∀ c ∈ text.toList, c ≠ quote ∧ c ≠ '\\' ∧ c ≠ '\n') :
    literalOf quote text = quote :: (text.toList ++ [quote]) := by
  have hescaped : ∀ c ∈ text.toList, escapedIn quote c = [c] := by
    intro c hc
    obtain ⟨hne, hbackslash, hnewline⟩ := h c hc
    rw [escapedIn, if_neg (by simp [hne, hbackslash]), if_neg hnewline]
  rw [literalOf, List.flatMap_congr hescaped, List.flatMap_singleton']

/-! ## The closing quote -/

theorem quotedText?_escape {c : Char} (hc : c ≠ '\n') (rest : List Char) :
    quotedText? quote ('\\' :: c :: rest) = (quotedText? quote rest).map ('\\' :: c :: ·) := by
  rw [quotedText?, if_neg hc]

theorem quotedText?_escapedIn (hquote : quote ≠ '\n') (c : Char) (rest : List Char) :
    quotedText? quote (escapedIn quote c ++ rest) = (quotedText? quote rest).map (escapedIn quote c ++ ·) := by
  unfold escapedIn
  split_ifs with hspecial hnewline
  · have hc : c ≠ '\n' := by
      rcases hspecial with rfl | rfl
      · decide
      · exact hquote
    exact quotedText?_escape hc rest
  · exact quotedText?_escape (by decide) rest
  · rw [not_or] at hspecial
    rw [List.singleton_append, quotedText?_cons hspecial.1, if_neg hspecial.2, if_neg hnewline]
    rfl

theorem quotedText?_flatMap_escapedIn (hquote : quote ≠ '\n') (text rest : List Char) :
    quotedText? quote (text.flatMap (escapedIn quote) ++ rest) =
      (quotedText? quote rest).map (text.flatMap (escapedIn quote) ++ ·) := by
  induction text with
  | nil => simp
  | cons c text ih =>
    rw [List.flatMap_cons, List.append_assoc, quotedText?_escapedIn hquote, ih, Option.map_map]
    simp only [Function.comp_def, List.append_assoc]

theorem readToken_literalOf (hquote : quote = '"' ∨ quote = '\'') (place : Place) (text : String) (rest : List Char) :
    readToken place (literalOf quote text ++ rest) = (.quoted, literalOf quote text) := by
  have hends : quotedText? quote (text.toList.flatMap (escapedIn quote) ++ quote :: rest) =
      some (text.toList.flatMap (escapedIn quote) ++ [quote]) := by
    have hbackslash : quote ≠ '\\' := by rcases hquote with rfl | rfl <;> decide
    have hnewline : quote ≠ '\n' := by rcases hquote with rfl | rfl <;> decide
    rw [quotedText?_flatMap_escapedIn hnewline, quotedText?_cons hbackslash, if_pos rfl, Option.map_some]
  have hkind : isNameStart quote = false ∧ quote.isDigit = false := by rcases hquote with rfl | rfl <;> decide
  rw [literalOf, List.cons_append, List.append_assoc, List.singleton_append, readToken, if_neg (by simp [hkind.1]),
    if_neg (by simp [hkind.2]), if_pos hquote, hends]

/-! ## The value -/

theorem unescape_simple {c : Char} {code : Nat} (h : ∀ rest, escape (c :: rest) = some ([code], 1)) (rest : List Char) :
    unescape 0 ('\\' :: c :: rest) = (unescape 0 rest).map (code :: ·) := by
  rw [unescape, if_pos rfl, h]
  rfl

theorem unescape_escapedIn (hquote : quote = '"' ∨ quote = '\'') (c : Char) (rest : List Char) :
    unescape 0 ((escapedIn quote c).flatMap spelled ++ rest) = (unescape 0 rest).map (c.toNat :: ·) := by
  unfold escapedIn
  split_ifs with hspecial hnewline
  · rcases hspecial with rfl | rfl
    · exact unescape_simple (fun _ => rfl) rest
    · rcases hquote with rfl | rfl
      · exact unescape_simple (fun _ => rfl) rest
      · exact unescape_simple (fun _ => rfl) rest
  · subst hnewline
    exact unescape_simple (fun _ => rfl) rest
  · -- above U+00FF the character is spelled as an escape here, but no backslash is left open before it
    rw [not_or] at hspecial
    rw [List.flatMap_singleton, unescape_spelled hspecial.1]

theorem unescape_flatMap_escapedIn (hquote : quote = '"' ∨ quote = '\'') (text : List Char) :
    unescape 0 ((text.flatMap (escapedIn quote)).flatMap spelled) = some (text.map Char.toNat) := by
  induction text with
  | nil => rfl
  | cons c text ih =>
    rw [List.flatMap_cons, List.flatMap_append, unescape_escapedIn hquote, ih]
    rfl

theorem unquote?_literalOf (hquote : quote = '"' ∨ quote = '\'') (text : String) :
    unquote? (literalOf quote text) = some (Text.codes text) := by
  have hinner : ((literalOf quote text).drop 1).dropLast = text.toList.flatMap (escapedIn quote) := by simp [literalOf]
  rw [unquote?, hinner, unescape_flatMap_escapedIn hquote, Text.codes]

theorem Parser.run_quotedText {reader : Reader} {codes : List Nat} (hkind : reader.token.kind = .quoted)
    (h : unquote? reader.token.text = some codes) (place : Place) :
    (quotedText place).run reader = .ok (codes, reader.next place) := by
  rw [quotedText, StateT.run_bind, run_take, if_pos hkind]
  change (decode [] (unquote? reader.token.text)).run (reader.next place) = _
  rw [h]
  rfl

/-- A text between either quotes is read back. At every place the literal is one token, whatever stands behind it. That
token stands for the code points of the text, which are those of no other text, and the rule for quoted texts finds no
fault in it. -/
theorem literalOf_reads_back (hquote : quote = '"' ∨ quote = '\'') (text : String) :
    (∀ place rest, readToken place (literalOf quote text ++ rest) = (.quoted, literalOf quote text)) ∧
    unquote? (literalOf quote text) = some (Text.codes text) ∧ Text.ofCodes? (Text.codes text) = some text ∧
    ∀ (reader : Reader) (place : Place), reader.token.kind = .quoted → reader.token.text = literalOf quote text →
      (Parser.quotedText place).run reader = .ok (Text.codes text, reader.next place) := by
  have hvalue := unquote?_literalOf hquote text
  refine ⟨fun place => readToken_literalOf hquote place text, hvalue, ?_, ?_⟩
  · rw [Text.codes, ofCodes?_toNat, String.ofList_toList]
  · intro reader place hkind htext
    exact Parser.run_quotedText hkind (htext ▸ hvalue) place

theorem literalOf_reads_back_mixed :
    literalOf '"' "\\Ж\\\\\"é\n'😀" = r#""\\Ж\\\\\"é\n'😀""#.toList ∧
    readToken .value (r#""\\Ж\\\\\"é\n'😀""#.toList ++ ";\"".toList) = (.quoted, r#""\\Ж\\\\\"é\n'😀""#.toList) ∧
    unquote? r#""\\Ж\\\\\"é\n'😀""#.toList = some [92, 0x416, 92, 92, 34, 0xE9, 10, 39, 0x1F600] ∧
    ((Parser.quotedText .plain).run (Reader.start (r#""\\Ж\\\\\"é\n'😀""#.toList ++ [';']))).map Prod.fst =
      .ok [92, 0x416, 92, 92, 34, 0xE9, 10, 39, 0x1F600] := by
  have hliteral : literalOf '"' "\\Ж\\\\\"é\n'😀" = r#""\\Ж\\\\\"é\n'😀""#.toList := by decide
  obtain ⟨htoken, hvalue, _, hrule⟩ := literalOf_reads_back (Or.inl rfl) "\\Ж\\\\\"é\n'😀"
  rw [hliteral] at htoken hvalue hrule
  refine ⟨hliteral, htoken .value _, hvalue, ?_⟩
  rw [hrule _ .plain (by decide) (by decide)]
  rfl

end RpcClients.Proto
