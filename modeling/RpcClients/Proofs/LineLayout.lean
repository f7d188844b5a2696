import Mathlib.Data.List.Forall2
import RpcClients.Source.Indentation

/-! # How lines are laid out

A line without quotes and slashes is code from end to end. Lines are laid out if none of them closes a
bracket that is not open, and then each stands at the depth of the brackets around it. -/

namespace RpcClients.Indentation

/-! ## Texts that are code from end to end -/

/-- A text in which no comment and no line ends, and whose literals are empty ones. -/
structure CodeText (text : String) : Prop where
  verbatim : ∀ rest, emptied .code (text.toList ++ rest) = text.toList ++ emptied .code rest
  slash : '/' ∉ text.toList
  newline : '\n' ∉ text.toList

/-- A character that starts no literal and no comment, and ends no line. -/
def isPlain (c : Char) : Bool := c ∉ ['"', '\x60', '/', '\n']

theorem codeText_of_plain {text : String} (h : text.toList.all isPlain = true) : CodeText text := by
  have hplain : ∀ c ∈ text.toList, c ≠ '"' ∧ c ≠ '\x60' ∧ c ≠ '/' ∧ c ≠ '\n' := by
    intro c hc
    simpa [isPlain] using List.all_eq_true.mp h c hc
  refine ⟨?_, fun hmem => (hplain _ hmem).2.2.1 rfl, fun hmem => (hplain _ hmem).2.2.2 rfl⟩
  intro rest
  generalize text.toList = cs at hplain
  induction cs with
  | nil => rfl
  | cons c more ih =>
    obtain ⟨hquote, hback, _⟩ := hplain c List.mem_cons_self
    rw [List.cons_append, emptied, ih fun d hd => hplain d (List.mem_cons_of_mem _ hd)]
    simp [hquote, hback]

theorem codeText_emptyLiteral : CodeText "\"\"" := by
  refine ⟨?_, by simp, by simp⟩
  intro rest
  simp [emptied, closes]

theorem CodeText.append {text other : String} (h : CodeText text) (h' : CodeText other) :
    CodeText (text ++ other) := by
  refine ⟨?_, by simp [h.slash, h'.slash], by simp [h.newline, h'.newline]⟩
  intro rest
  simp only [String.toList_append, List.append_assoc]
  rw [h.verbatim, h'.verbatim]

theorem uncommented_of_no_slash {cs : List Char} (h : '/' ∉ cs) : uncommented cs = cs := by
  induction cs with
  | nil => rfl
  | cons c rest ih =>
    rw [List.mem_cons, not_or] at h
    rw [uncommented, ih h.2]
    rintro more rfl
    simp at h

theorem CodeText.code_eq {text : String} (h : CodeText text) : code text.toList = text.toList := by
  have hempty := h.verbatim []
  rw [List.append_nil] at hempty
  rw [code, hempty, emptied, List.append_nil]
  exact uncommented_of_no_slash h.slash

/-! ## Lines of code -/

/-- The text starts with a character that is no blank. -/
def Starts (text : String) : Prop := text.toList.head?.any (fun c => !Text.isBlank c) = true

/-- The text ends with a character that is no blank. -/
def Stops (text : String) : Prop := text.toList.getLast?.any (fun c => !Text.isBlank c) = true

instance (text : String) : Decidable (Starts text) := inferInstanceAs (Decidable (_ = _))

instance (text : String) : Decidable (Stops text) := inferInstanceAs (Decidable (_ = _))

theorem trimLeft_of_starts {text : String} (h : Starts text) : Text.trimLeft text.toList = text.toList := by
  unfold Starts at h
  unfold Text.trimLeft
  cases hlist : text.toList with
  | nil => rfl
  | cons c rest => exact List.dropWhile_cons_of_neg (by simpa [hlist] using h)

theorem trimRight_of_stops {text : String} (h : Stops text) : Text.trimRight text.toList = text.toList := by
  have hstarts : Starts (String.ofList text.toList.reverse) := by simpa [Starts, Stops] using h
  have hback := trimLeft_of_starts hstarts
  rw [String.toList_ofList] at hback
  rw [Text.trimRight, ← Text.trimLeft, hback, List.reverse_reverse]

theorem trimmed_eq {text : String} (hstart : Starts text) (hstop : Stops text) :
    Text.trimmed text.toList = text.toList := by
  rw [Text.trimmed, trimLeft_of_starts hstart, trimRight_of_stops hstop]

/-- A line of code that closes `lead` brackets at its start and, all in all, opens `up` brackets and
closes `down`, apart from those that it opens itself. -/
structure CodeLine (line : String) (lead up down : Nat) : Prop where
  text : CodeText line
  starts : Starts line
  stops : Stops line
  lead : (line.toList.takeWhile isCloser).length = lead
  net : line.toList.countP isOpener + down = line.toList.countP isCloser + up

/-! ## Shapes

For the layout a name, a reference or a type is as good as any other. A line has the shape of the closed
text in which `x` stands for each of them, and of that one everything can be computed. -/

/-- What the layout sees of a text, it sees of the skeleton. -/
structure Shaped (text skeleton : String) : Prop where
  code : skeleton.toList.all isPlain = true → CodeText text
  net : text.toList.countP isOpener + skeleton.toList.countP isCloser =
    skeleton.toList.countP isOpener + text.toList.countP isCloser
  starts : text.toList.head?.map Text.isBlank = skeleton.toList.head?.map Text.isBlank
  stops : text.toList.getLast?.map Text.isBlank = skeleton.toList.getLast?.map Text.isBlank
  lead : (text.toList.takeWhile isCloser).length = (skeleton.toList.takeWhile isCloser).length
  closers : text.toList.all isCloser = skeleton.toList.all isCloser

theorem length_takeWhile_append (cs more : List Char) :
    ((cs ++ more).takeWhile isCloser).length =
      (cs.takeWhile isCloser).length + if cs.all isCloser then (more.takeWhile isCloser).length else 0 := by
  induction cs with
  | nil => simp
  | cons c rest ih =>
    rw [List.cons_append, List.takeWhile_cons, List.takeWhile_cons, List.all_cons]
    cases hc : isCloser c with
    | false => simp
    | true => simp only [if_true, List.length_cons, ih, Bool.true_and]; omega

namespace Shaped

theorem refl (text : String) : Shaped text text := ⟨codeText_of_plain, rfl, rfl, rfl, rfl, rfl⟩

theorem append {text skeleton other more : String} (h : Shaped text skeleton) (h' : Shaped other more) :
    Shaped (text ++ other) (skeleton ++ more) := by
  have hnet := h.net
  have hnet' := h'.net
  constructor
  · intro hplain
    rw [String.toList_append, List.all_append, Bool.and_eq_true] at hplain
    exact (h.code hplain.1).append (h'.code hplain.2)
  · simp only [String.toList_append, List.countP_append]
    omega
  · simp only [String.toList_append, List.head?_append, Option.map_or, h.starts, h'.starts]
  · simp only [String.toList_append, List.getLast?_append, Option.map_or, h.stops, h'.stops]
  · simp only [String.toList_append, length_takeWhile_append, h.lead, h'.lead, h.closers]
  · simp only [String.toList_append, List.all_append, h.closers, h'.closers]

theorem trans {text skeleton other : String} (h : Shaped text skeleton) (h' : Shaped skeleton other)
    (hplain : skeleton.toList.all isPlain = true) : Shaped text other := by
  have hnet := h.net
  have hnet' := h'.net
  refine ⟨fun _ => h.code hplain, by omega, h.starts.trans h'.starts, h.stops.trans h'.stops,
    h.lead.trans h'.lead, h.closers.trans h'.closers⟩

/-- Two closed texts can be compared. -/
def check (text skeleton : String) : Bool :=
  text.toList.all isPlain &&
    text.toList.countP isOpener + skeleton.toList.countP isCloser ==
      skeleton.toList.countP isOpener + text.toList.countP isCloser &&
    text.toList.head?.map Text.isBlank == skeleton.toList.head?.map Text.isBlank &&
    text.toList.getLast?.map Text.isBlank == skeleton.toList.getLast?.map Text.isBlank &&
    (text.toList.takeWhile isCloser).length == (skeleton.toList.takeWhile isCloser).length &&
    text.toList.all isCloser == skeleton.toList.all isCloser

theorem of_check {text skeleton : String} (h : check text skeleton = true) : Shaped text skeleton := by
  simp only [check, Bool.and_eq_true, beq_iff_eq] at h
  obtain ⟨⟨⟨⟨⟨hplain, hnet⟩, hstarts⟩, hstops⟩, hlead⟩, hclosers⟩ := h
  exact ⟨fun _ => codeText_of_plain hplain, hnet, hstarts, hstops, hlead, hclosers⟩

/-- Everything about a line of code can be read off its skeleton. -/
def isLine (skeleton : String) (lead up down : Nat) : Bool :=
  skeleton.toList.all isPlain && decide (Starts skeleton) && decide (Stops skeleton) &&
    (skeleton.toList.takeWhile isCloser).length == lead &&
    skeleton.toList.countP isOpener + down == skeleton.toList.countP isCloser + up

theorem any_eq_map (c : Option Char) :
    c.any (fun c => !Text.isBlank c) = (c.map Text.isBlank).any (fun b => !b) := by
  cases c <;> rfl

theorem codeLine {line skeleton : String} {lead up down : Nat} (h : Shaped line skeleton)
    (hline : isLine skeleton lead up down = true) : CodeLine line lead up down := by
  simp only [isLine, Bool.and_eq_true, decide_eq_true_eq, beq_iff_eq] at hline
  obtain ⟨⟨⟨⟨hplain, hstarts⟩, hstops⟩, hlead⟩, hnet⟩ := hline
  have hsame := h.net
  refine ⟨h.code hplain, ?_, ?_, h.lead.trans hlead, by omega⟩
  · rwa [Starts, any_eq_map, h.starts, ← any_eq_map]
  · rwa [Stops, any_eq_map, h.stops, ← any_eq_map]

end Shaped

/-- A text that can stand in a line wherever a one-letter name can. -/
def Item (text : String) : Prop := Shaped text "x"

namespace Item

theorem literal {text : String} (h : Shaped.check text "x" = true) : Item text := Shaped.of_check h

theorem of_shaped {text skeleton : String} (h : Shaped text skeleton)
    (hitem : Shaped.check skeleton "x" = true) : Item text := by
  have hplain : skeleton.toList.all isPlain = true := by
    simp only [Shaped.check, Bool.and_eq_true] at hitem
    exact hitem.1.1.1.1.1
  exact h.trans (Shaped.of_check hitem) hplain

theorem emptyLiteral : Item "\"\"" := by
  refine ⟨fun _ => codeText_emptyLiteral, ?_, ?_, ?_, ?_, ?_⟩ <;> decide

theorem commaSeparated {items : List String} (hne : items ≠ []) (h : ∀ item ∈ items, Item item) :
    Item (String.intercalate ", " items) := by
  induction items with
  | nil => exact absurd rfl hne
  | cons item rest ih =>
    rw [List.forall_mem_cons] at h
    cases rest with
    | nil => simpa using h.1
    | cons other more =>
      rw [String.intercalate_cons_cons]
      exact of_shaped ((Shaped.append h.1 (.refl ", ")).append (ih (by simp) h.2)) (by decide)

end Item

/-! ## Lists of lines -/

def tabbed : Nat → String → String
  | 0, line => line
  | depth + 1, line => "\t" ++ tabbed depth line

theorem toList_tabbed (depth : Nat) (line : String) :
    (tabbed depth line).toList = margin ['\t'] depth ++ line.toList := by
  induction depth with
  | zero => rfl
  | succ depth ih => simp [tabbed, ih, margin, List.replicate_succ]

/-- `Laid depth lines texts after`: from `depth` on the lines are printed as the texts, and `after` is
the depth behind them. No line closes more brackets than are open. -/
inductive Laid : Nat → List String → List String → Nat → Prop
  | nil {depth : Nat} : Laid depth [] [] depth
  | blank {depth after : Nat} {lines texts : List String} (rest : Laid depth lines texts after) :
      Laid depth ("" :: lines) ("" :: texts) after
  | comment {depth after : Nat} {lines texts : List String} {line : String}
      (slashes : ['/', '/'] <+: line.toList) (oneLine : '\n' ∉ line.toList) (rest : Laid depth lines texts after) :
      Laid depth (line :: lines) (tabbed depth (String.ofList (Text.trimmed line.toList)) :: texts) after
  | code {depth after lead up down : Nat} {lines texts : List String} {line : String}
      (shape : CodeLine line lead up down) (closed : lead ≤ depth) (kept : down ≤ depth + up)
      (rest : Laid (depth + up - down) lines texts after) :
      Laid depth (line :: lines) (tabbed (depth - lead) line :: texts) after

theorem isPrefixOf_comment {line : String} (h : ['/', '/'] <+: line.toList) :
    ['/', '/'].isPrefixOf (Text.trimmed line.toList) = true := by
  obtain ⟨text, htext⟩ := h
  have hleft : Text.trimLeft line.toList = '/' :: '/' :: text := by
    rw [← htext]
    exact List.dropWhile_cons_of_neg (by decide)
  have hright : ∀ cs : List Char, ∃ kept, Text.trimRight ('/' :: '/' :: cs) = '/' :: '/' :: kept := by
    intro cs
    unfold Text.trimRight
    rw [List.reverse_cons, List.reverse_cons, List.append_assoc, List.dropWhile_append]
    split
    · exact ⟨[], by simp [show Text.isBlank '/' = false by decide]⟩
    · exact ⟨(cs.reverse.dropWhile Text.isBlank).reverse, by simp⟩
  obtain ⟨kept, hkept⟩ := hright text
  rw [Text.trimmed, hleft, hkept]
  rfl

theorem indentFrom_blank (depth : Nat) (rest : List (List Char)) :
    indentFrom ['\t'] depth ([] :: rest) = [] :: indentFrom ['\t'] depth rest := rfl

theorem indentFrom_comment {line : String} (h : ['/', '/'] <+: line.toList) (depth : Nat)
    (rest : List (List Char)) :
    indentFrom ['\t'] depth (line.toList :: rest) =
      (tabbed depth (String.ofList (Text.trimmed line.toList))).toList ::
        indentFrom ['\t'] depth rest := by
  have hcomment := isPrefixOf_comment h
  have hne : (Text.trimmed line.toList).isEmpty = false := by
    cases htrimmed : Text.trimmed line.toList with
    | nil => simp [htrimmed] at hcomment
    | cons _ _ => rfl
  rw [indentFrom, toList_tabbed, String.toList_ofList]
  simp [hne, hcomment]

theorem CodeLine.not_comment {line : String} {lead up down : Nat} (h : CodeLine line lead up down) :
    ['/', '/'].isPrefixOf line.toList = false := by
  rw [Bool.eq_false_iff, Ne, List.isPrefixOf_iff_prefix]
  -- a line of code holds no slash at all
  intro hslashes
  exact h.text.slash (hslashes.subset (by simp))

theorem CodeLine.indentFrom_eq {line : String} {lead up down : Nat} (h : CodeLine line lead up down)
    (depth : Nat) (rest : List (List Char)) :
    indentFrom ['\t'] depth (line.toList :: rest) =
      (tabbed (depth - lead) line).toList :: indentFrom ['\t'] (depth + up - down) rest := by
  have hne : line.toList.isEmpty = false := by
    cases hlist : line.toList with
    | nil => simpa [Starts, hlist] using h.starts
    | cons _ _ => rfl
  have hnet := h.net
  have hdepth : depthAfter depth line.toList = depth + up - down := by
    unfold depthAfter
    omega
  rw [indentFrom, toList_tabbed]
  simp only [trimmed_eq h.starts h.stops, hne, h.not_comment, h.text.code_eq, depthOf, h.lead, hdepth,
    Bool.false_eq_true, if_false]

namespace Laid

variable {depth middle after : Nat} {lines more texts others : List String}

theorem indentFrom_eq (h : Laid depth lines texts after) (rest : List (List Char)) :
    indentFrom ['\t'] depth (lines.map String.toList ++ rest) =
      texts.map String.toList ++ indentFrom ['\t'] after rest := by
  induction h with
  | nil => rfl
  | blank _ ih =>
    simp only [List.map_cons, List.cons_append, String.toList_empty, indentFrom_blank, ih]
  | comment hslashes _ _ ih =>
    simp only [List.map_cons, List.cons_append, indentFrom_comment hslashes, ih]
  | code hline _ _ _ ih =>
    simp only [List.map_cons, List.cons_append, hline.indentFrom_eq, ih]

theorem indentLines_eq (h : Laid 0 lines texts after) : indentLines lines = texts := by
  have htexts := h.indentFrom_eq []
  rw [List.append_nil, indentFrom, List.append_nil] at htexts
  unfold indentLines
  rw [show "\t".toList = ['\t'] by simp, htexts]
  simp

theorem append (h : Laid depth lines texts middle) (h' : Laid middle more others after) :
    Laid depth (lines ++ more) (texts ++ others) after := by
  induction h with
  | nil => exact h'
  | blank _ ih => exact .blank (ih h')
  | comment hslashes honeLine _ ih => exact .comment hslashes honeLine (ih h')
  | code hline hclosed hkept _ ih => exact .code hline hclosed hkept (ih h')

theorem map {α : Type} {items : List α} {line : α → String}
    (h : ∀ item ∈ items, CodeLine (line item) 0 0 0) :
    Laid depth (items.map line) (items.map fun item => tabbed depth (line item)) depth := by
  induction items with
  | nil => exact .nil
  | cons item rest ih =>
    rw [List.forall_mem_cons] at h
    exact .code h.1 (by omega) (by omega) (ih h.2)

theorem comments (h : ∀ line ∈ lines, ['/', '/'] <+: line.toList ∧ '\n' ∉ line.toList) :
    Laid depth lines (lines.map fun line => tabbed depth (String.ofList (Text.trimmed line.toList))) depth := by
  induction lines with
  | nil => exact .nil
  | cons line rest ih =>
    rw [List.forall_mem_cons] at h
    exact .comment h.1.1 h.1.2 (ih h.2)

theorem of_forall₂ {α β : Type} {related : α → List String → Prop} {printed : β → List String}
    {items : List α} {values : List β}
    (h : List.Forall₂ (fun item value => ∃ text, related item text ∧ Laid depth (printed value) text depth)
      items values) :
    ∃ texts, List.Forall₂ related items texts ∧ Laid depth (values.flatMap printed) texts.flatten depth := by
  induction h with
  | nil => exact ⟨[], .nil, .nil⟩
  | cons hitem _ ih =>
    obtain ⟨text, hrelated, htext⟩ := hitem
    obtain ⟨texts, hothers, htexts⟩ := ih
    exact ⟨text :: texts, .cons hrelated hothers, htext.append htexts⟩

end Laid

end RpcClients.Indentation
