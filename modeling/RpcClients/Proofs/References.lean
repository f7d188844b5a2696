import RpcClients.Proofs.CamelCase
import RpcClients.Proofs.FinishedTable

/-! # References to packages in the text of a file

Which packages a line of Go refers to can be read off its text: a name with a dot and an exported name
behind it is the alias of a package. References that are printed can be read again. -/

namespace RpcClients

open Indentation Naming

/-! ## Reading references -/

/-- A character that neither belongs to a name nor joins two. -/
def isBreak (c : Char) : Bool := !(Text.isWordChar c || c = '.')

/-- The names in a text, with those that dots join taken together. -/
def selectors (text : List Char) : List (List Char) :=
  Text.pieces ' ' (text.map fun c => if isBreak c then ' ' else c)

/-- The package of a selector: what stands before its first dot, if an exported name follows. -/
def packageOf? (selector : List Char) : Option String :=
  match Text.pieces '.' selector with
  | first :: name :: _ => if first ≠ [] ∧ name.head?.any Char.isUpper then some (String.ofList first) else none
  | _ => none

def packageNames (text : List Char) : List String := (selectors text).filterMap packageOf?

/-- The packages that a line refers to. A comment refers to none, and in a return statement `response` is
a variable. -/
def packageReferences (line : String) : List String :=
  let text := Text.trimLeft line.toList
  if ['/', '/'].isPrefixOf text then []
  else if "return ".toList.isPrefixOf text then (packageNames text).filter (· ≠ "response")
  else packageNames text

/-! ## Parts of a text -/

theorem packageNames_nil : packageNames [] = [] := rfl

theorem packageNames_break {c : Char} (h : isBreak c = true) (before after : List Char) :
    packageNames (before ++ c :: after) = packageNames before ++ packageNames after := by
  simp only [packageNames, selectors, List.map_append, List.map_cons, h, if_true, Text.pieces_append_cons,
    List.filterMap_append]

theorem packageNames_append_of_last {text : List Char} (h : text.getLast?.any isBreak = true) (after : List Char) :
    packageNames (text ++ after) = packageNames text ++ packageNames after := by
  rcases List.eq_nil_or_concat text with rfl | ⟨before, c, rfl⟩
  · simp at h
  · have hc : isBreak c = true := by simpa using h
    rw [List.concat_eq_append, List.append_assoc, List.singleton_append, packageNames_break hc,
      packageNames_break hc, packageNames_nil, List.append_nil]

theorem packageNames_append_of_head {text : List Char} (h : text.head?.any isBreak = true) (before : List Char) :
    packageNames (before ++ text) = packageNames before ++ packageNames text := by
  cases text with
  | nil => simp at h
  | cons c after =>
    have hc : isBreak c = true := by simpa using h
    rw [packageNames_break hc, ← List.nil_append (c :: after), packageNames_break hc, packageNames_nil,
      List.nil_append]

theorem packageNames_of_no_dot {text : List Char} (h : '.' ∉ text) : packageNames text = [] := by
  rw [packageNames, List.filterMap_eq_nil_iff]
  intro selector hselector
  have hdot : '.' ∉ selector := by
    intro hmem
    obtain ⟨c, hc, heq⟩ := List.mem_map.mp (Text.subset_of_mem_pieces hselector hmem)
    split_ifs at heq
    · exact absurd heq (by decide)
    · exact h (heq ▸ hc)
  simp [packageOf?, Text.pieces_of_not_mem hdot]

theorem packageNames_selector {text : List Char} (h : ∀ c ∈ text, isBreak c = false) :
    packageNames text = (packageOf? text).toList := by
  have hmap : text.map (fun c => if isBreak c then ' ' else c) = text := by
    conv_rhs => rw [← List.map_id text]
    exact List.map_congr_left fun c hc => by simp [h c hc]
  have hspace : ' ' ∉ text := by
    intro hmem
    have := h ' ' hmem
    revert this
    decide
  rw [packageNames, selectors, hmap, Text.pieces_of_not_mem hspace]
  cases hpackage : packageOf? text <;> simp [hpackage]

/-- A text that names no package and keeps what follows it apart. -/
def isLead (text : String) : Bool := text.toList.getLast?.any isBreak && (packageNames text.toList).isEmpty

/-- A text that names no package and keeps what stands before it apart. -/
def isTail (text : String) : Bool := text.toList.head?.any isBreak && (packageNames text.toList).isEmpty

theorem packageNames_lead {lead : String} (h : isLead lead = true) (text : String) :
    packageNames (lead ++ text).toList = packageNames text.toList := by
  rw [isLead, Bool.and_eq_true, List.isEmpty_iff] at h
  rw [String.toList_append, packageNames_append_of_last h.1, h.2, List.nil_append]

theorem packageNames_tail {tail : String} (h : isTail tail = true) (text : String) :
    packageNames (text ++ tail).toList = packageNames text.toList := by
  rw [isTail, Bool.and_eq_true, List.isEmpty_iff] at h
  rw [String.toList_append, packageNames_append_of_head h.1, h.2, List.append_nil]

theorem packageNames_between {text : String} (h : (isTail text && isLead text) = true) (before after : String) :
    packageNames (before ++ text ++ after).toList = packageNames before.toList ++ packageNames after.toList := by
  rw [Bool.and_eq_true] at h
  rw [String.append_assoc, String.toList_append, packageNames_append_of_head, packageNames_lead h.2]
  have htail := h.1
  rw [isTail, Bool.and_eq_true] at htail
  have hhead := htail.1
  cases hlist : text.toList with
  | nil => simp [hlist] at hhead
  | cons c rest => simpa [hlist] using hhead

theorem packageNames_commaSeparated (items : List String) :
    packageNames (String.intercalate ", " items).toList = items.flatMap fun item => packageNames item.toList := by
  induction items with
  | nil => simp [packageNames_nil]
  | cons item rest ih =>
    cases rest with
    | nil => simp
    | cons other more =>
      rw [String.intercalate_cons_cons, packageNames_between (by decide), ih]
      rfl

/-! ## Names, references and types -/

theorem isBreak_of_isWordChar {c : Char} (h : Text.isWordChar c = true) : isBreak c = false := by
  simp [isBreak, h]

theorem Naming.IsWord.dot_not_mem {name : String} (h : IsWord name) : '.' ∉ name.toList := by
  intro hmem
  have := h.2 '.' hmem
  revert this
  decide

theorem packageOf?_reference {bound name : String} (hbound : IsWord bound) (hname : IsExported name) :
    packageOf? (bound ++ "." ++ name).toList = some bound := by
  have hpieces : Text.pieces '.' (bound ++ "." ++ name).toList = [bound.toList, name.toList] := by
    have hlist : (bound ++ "." ++ name).toList = bound.toList ++ '.' :: name.toList := by simp
    rw [hlist, Text.pieces_append_cons, Text.pieces_of_not_mem hbound.dot_not_mem,
      Text.pieces_of_not_mem hname.1.isWord.dot_not_mem]
    rfl
  have hne : bound.toList ≠ [] := by simpa using hbound.1
  rw [packageOf?, hpieces]
  simp [hne, hname.2]

theorem packageNames_reference {bound name : String} (hbound : IsWord bound) (hname : IsExported name) :
    packageNames (bound ++ "." ++ name).toList = [bound] := by
  rw [packageNames_selector, packageOf?_reference hbound hname]
  · rfl
  · intro c hc
    simp only [String.toList_append, List.mem_append] at hc
    rcases hc with (hc | hc) | hc
    · exact isBreak_of_isWordChar (hbound.2 c hc)
    · rw [show c = '.' by simpa using hc]
      decide
    · exact isBreak_of_isWordChar (hname.1.isWord.2 c hc)

theorem Imports.Consistent.packageNames_referenceTo {table : Imports} (h : table.Consistent) (ident : Ident)
    (hname : IsExported ident.name) :
    packageNames (table.referenceTo ident).toList = (table.aliasFor ident).toList := by
  unfold referenceTo
  cases hbound : table.aliasFor ident with
  | none => exact packageNames_of_no_dot hname.1.isWord.dot_not_mem
  | some bound =>
    exact packageNames_reference (h.words _ (h.aliasFor_eq_some_iff.mp hbound)).1 hname

theorem packageNames_client {name : String} (hname : IsWord name) :
    packageNames ("s.client." ++ name).toList = [] := by
  have hlist : ("s.client." ++ name).toList = ['s'] ++ '.' :: ("client".toList ++ '.' :: name.toList) := by simp
  rw [packageNames_selector]
  · rw [packageOf?, hlist, Text.pieces_append_cons, Text.pieces_append_cons,
      Text.pieces_of_not_mem (by decide), Text.pieces_of_not_mem (by decide)]
    simp
  · intro c hc
    rw [String.toList_append, List.mem_append] at hc
    rcases hc with hc | hc
    · have hall : "s.client.".toList.all (fun c => !isBreak c) = true := by decide
      simpa using List.all_eq_true.mp hall c hc
    · exact isBreak_of_isWordChar (hname.2 c hc)

theorem Scalar.dot_not_mem_goType (scalar : Scalar) : '.' ∉ scalar.goType.toList := by
  cases scalar <;> decide

theorem FieldType.packageNames_textIn {table : Imports} (h : table.Consistent) {type : FieldType}
    (hnames : ∀ ident ∈ type.idents, IsExported ident.name) :
    packageNames (type.textIn table).toList = type.idents.filterMap table.aliasFor := by
  obtain ⟨kind, ident⟩ := type
  cases ident with
  | none => cases kind <;> simp [textIn, idents, packageNames_of_no_dot, Scalar.dot_not_mem_goType]
  | some ident =>
    cases kind with
    | scalar scalar => simp [textIn, idents, FieldKind.isScalar, packageNames_of_no_dot scalar.dot_not_mem_goType]
    | message =>
      have hname := hnames ident (by simp [idents, FieldKind.isScalar])
      simp only [textIn]
      rw [packageNames_lead (by decide), h.packageNames_referenceTo ident hname]
      cases halias : table.aliasFor ident <;> simp [idents, FieldKind.isScalar, halias]
    | enum =>
      have hname := hnames ident (by simp [idents, FieldKind.isScalar])
      simp only [textIn]
      rw [h.packageNames_referenceTo ident hname]
      cases halias : table.aliasFor ident <;> simp [idents, FieldKind.isScalar, halias]

theorem Message.packageNames_wrapElement (field : Field) (element : String) :
    packageNames (wrapElement field element).toList = packageNames element.toList := by
  unfold wrapElement
  split_ifs
  · exact packageNames_lead (by decide) element
  · exact packageNames_lead (by decide) element
  · rfl

theorem Field.packageNames_typeIn {table : Imports} (h : table.Consistent) {field : Field}
    (hnames : ∀ ident ∈ field.idents, IsExported ident.name) :
    packageNames (field.typeIn table).toList = field.idents.filterMap table.aliasFor := by
  have htype : ∀ type ∈ field.types, packageNames (type.textIn table).toList =
      type.idents.filterMap table.aliasFor := by
    intro type htype
    exact type.packageNames_textIn h fun ident hident => hnames ident (List.mem_flatMap.mpr ⟨type, htype, hident⟩)
  unfold typeIn idents
  have htypes : (∃ key value, field.types = [key, value]) ∨ field.types = [field.type] := by
    unfold types
    split
    · exact Or.inl ⟨_, _, rfl⟩
    · exact Or.inr rfl
  rcases htypes with ⟨key, value, htypes⟩ | htypes
  · rw [htypes] at htype ⊢
    simp only [List.mem_cons, List.not_mem_nil, or_false, forall_eq_or_imp, forall_eq] at htype
    simp only [List.flatMap_cons, List.flatMap_nil, List.append_nil, List.filterMap_append, ← htype.1, ← htype.2]
    rw [packageNames_between (by decide), packageNames_lead (by decide)]
  · rw [htypes] at htype ⊢
    rw [Message.packageNames_wrapElement, htype field.type List.mem_cons_self]
    simp

/-! ## Lines -/

theorem trimLeft_tabbed (depth : Nat) (line : String) :
    Text.trimLeft (tabbed depth line).toList = Text.trimLeft line.toList := by
  induction depth with
  | zero => rfl
  | succ depth ih =>
    rw [← ih, tabbed, String.toList_append]
    exact List.dropWhile_cons_of_pos (by decide)

theorem packageReferences_tabbed (depth : Nat) (line : String) :
    packageReferences (tabbed depth line) = packageReferences line := by
  simp only [packageReferences, trimLeft_tabbed]

theorem packageReferences_comment {line : String} (h : ['/', '/'] <+: line.toList) : packageReferences line = [] := by
  obtain ⟨rest, hrest⟩ := h
  have htrim : Text.trimLeft line.toList = '/' :: '/' :: rest := by
    rw [← hrest]
    exact List.dropWhile_cons_of_neg (by decide)
  simp [packageReferences, htrim]

theorem packageReferences_of_no_dot {line : String} (h : '.' ∉ line.toList) : packageReferences line = [] := by
  have hnames : packageNames (Text.trimLeft line.toList) = [] :=
    packageNames_of_no_dot fun hmem => h ((List.dropWhile_suffix _).subset hmem)
  simp only [packageReferences, hnames, List.filter_nil, ite_self]

theorem flatMap_packageReferences_of_no_dot {lines : List String}
    (h : lines.all (fun line => !line.toList.contains '.') = true) : lines.flatMap packageReferences = [] := by
  rw [List.flatMap_eq_nil_iff]
  intro line hline
  exact packageReferences_of_no_dot (by simpa using List.all_eq_true.mp h line hline)

theorem packageReferences_eq_nil {line : String} (hstarts : Starts line) (hnames : packageNames line.toList = []) :
    packageReferences line = [] := by
  simp only [packageReferences, trimLeft_of_starts hstarts, hnames, List.filter_nil, ite_self]

/-- A line that is no comment and no return statement refers to the packages that it names. -/
theorem packageReferences_eq {line : String} (hstarts : Starts line) (hcomment : ¬ ['/', '/'] <+: line.toList)
    (hreturn : ¬ "return ".toList <+: line.toList) : packageReferences line = packageNames line.toList := by
  simp only [packageReferences, trimLeft_of_starts hstarts, List.isPrefixOf_iff_prefix, if_neg hcomment,
    if_neg hreturn]

theorem packageReferences_of_head {line : String} {c : Char} (h : line.toList.head? = some c)
    (hc : (!Text.isBlank c && c != '/' && c != 'r') = true) :
    packageReferences line = packageNames line.toList := by
  simp only [Bool.and_eq_true, Bool.not_eq_true', bne_iff_ne] at hc
  obtain ⟨⟨hblank, hslash⟩, hr⟩ := hc
  apply packageReferences_eq
  · simp [Starts, h, hblank]
  · rintro ⟨rest, hrest⟩
    exact hslash (by simpa [← hrest] using h.symm)
  · rintro ⟨rest, hrest⟩
    exact hr (by simpa [← hrest] using h.symm)

/-- A text that can start a line of code and keeps what follows it apart. -/
def isLineLead (lead : String) : Bool :=
  isLead lead && lead.toList.head?.any fun c => !Text.isBlank c && c != '/' && c != 'r'

theorem packageReferences_lead {lead : String} (h : isLineLead lead = true) (text : String) :
    packageReferences (lead ++ text) = packageNames text.toList := by
  rw [isLineLead, Bool.and_eq_true] at h
  obtain ⟨hlead, hhead⟩ := h
  cases hlist : lead.toList with
  | nil => simp [hlist] at hhead
  | cons c rest =>
    rw [packageReferences_of_head (c := c) (by simp [hlist]) (by simpa [hlist] using hhead), packageNames_lead hlead]

theorem Imports.Consistent.references_line {table : Imports} (h : table.Consistent) {lead tail : String}
    (hline : (isLineLead lead && (tail == "" || isTail tail)) = true) (ident : Ident)
    (hname : IsExported ident.name) :
    packageReferences (lead ++ table.referenceTo ident ++ tail) = (table.aliasFor ident).toList := by
  simp only [Bool.and_eq_true, Bool.or_eq_true, beq_iff_eq] at hline
  rw [String.append_assoc, packageReferences_lead hline.1]
  rcases hline.2 with rfl | htail
  · rw [String.append_empty, h.packageNames_referenceTo ident hname]
  · rw [packageNames_tail htail, h.packageNames_referenceTo ident hname]

theorem packageReferences_of_word {name rest : String} (hname : IsWord name)
    (hreturn : ¬ "return ".toList <+: (name ++ rest).toList) :
    packageReferences (name ++ rest) = packageNames (name ++ rest).toList := by
  have hne : name.toList ≠ [] := by simpa using hname.1
  obtain ⟨c, others, hlist⟩ := List.exists_cons_of_ne_nil hne
  have hword := hname.2 c (by simp [hlist])
  apply packageReferences_eq _ _ hreturn
  · simp [Starts, hlist, Text.isBlank_eq_false_of_isWordChar hword]
  · rintro ⟨more, hmore⟩
    have hslash : '/' = c := by simpa [hlist] using congrArg List.head? hmore
    exact Text.not_mem_separators_of_isWordChar hword (by rw [← hslash]; decide)

theorem Imports.Consistent.references_head {table : Imports} (h : table.Consistent) {tail : String}
    (htail : (isTail tail && !tail.toList.contains ' ') = true) (ident : Ident) (hname : IsExported ident.name) :
    packageReferences (table.referenceTo ident ++ tail) = (table.aliasFor ident).toList := by
  rw [Bool.and_eq_true] at htail
  have hblank : ∀ word : String, IsWord word → ' ' ∉ word.toList := by
    intro word hword hmem
    exact absurd (Text.isBlank_eq_false_of_isWordChar (hword.2 _ hmem)) (by decide)
  have hspace : ' ' ∉ tail.toList := by simpa using htail.2
  have hword := hname.1.isWord
  obtain ⟨first, rest, hfirst, hrest, htext⟩ : ∃ first rest, IsWord first ∧ ' ' ∉ rest.toList ∧
      table.referenceTo ident ++ tail = first ++ rest := by
    unfold referenceTo
    cases hbound : table.aliasFor ident with
    | none => exact ⟨ident.name, tail, hword, hspace, rfl⟩
    | some bound =>
      refine ⟨bound, "." ++ ident.name ++ tail, (h.words _ (h.aliasFor_eq_some_iff.mp hbound)).1, ?_, ?_⟩
      · simp [hblank _ hword, hspace]
      · simp [String.append_assoc]
  have hreturn : ¬ "return ".toList <+: (first ++ rest).toList := by
    intro hstart
    have hmem := hstart.subset (by decide : ' ' ∈ "return ".toList)
    rw [String.toList_append, List.mem_append] at hmem
    exact hmem.elim (hblank _ hfirst) hrest
  rw [htext, packageReferences_of_word hfirst hreturn, ← htext, packageNames_tail htail.1,
    h.packageNames_referenceTo ident hname]

theorem eq_return_of_isPrefix {name rest : String} (hname : IsWord name)
    (h : "return ".toList <+: (name ++ " " ++ rest).toList) : name = "return" := by
  have htake : ∀ (word : String) (more : List Char), IsWord word →
      (word.toList ++ ' ' :: more).takeWhile (· ≠ ' ') = word.toList := by
    intro word more hword
    rw [List.takeWhile_append_of_pos]
    · simp
    · intro c hc
      have hblank : c ≠ ' ' := by
        rintro rfl
        exact absurd (Text.isBlank_eq_false_of_isWordChar (hword.2 _ hc)) (by decide)
      simpa using hblank
  obtain ⟨more, hmore⟩ := h
  have hlines : "return".toList ++ ' ' :: more = name.toList ++ ' ' :: rest.toList := by simpa using hmore
  have hwords := congrArg (List.takeWhile (· ≠ ' ')) hlines
  rw [htake _ _ (by decide : IsIdentifier "return").isWord, htake _ _ hname] at hwords
  exact String.toList_inj.mp hwords.symm

theorem packageReferences_return (values : String) :
    packageReferences ("return " ++ values) = (packageNames values.toList).filter (· ≠ "response") := by
  have hstarts : Starts ("return " ++ values) := by
    have hhead : ("return " ++ values).toList.head? = some 'r' := by simp
    rw [Starts, hhead]
    decide
  have hcomment : ¬ ['/', '/'] <+: ("return " ++ values).toList := by simp
  have hreturn : "return ".toList <+: ("return " ++ values).toList := by
    rw [String.toList_append]
    exact List.prefix_append _ _
  simp only [packageReferences, trimLeft_of_starts hstarts, List.isPrefixOf_iff_prefix, if_neg hcomment,
    if_pos hreturn, packageNames_lead (by decide : isLead "return " = true)]

/-- Layout leaves the references as they are. -/
theorem Indentation.Laid.references_eq {depth after : Nat} {lines texts : List String}
    (h : Laid depth lines texts after) :
    texts.flatMap packageReferences = lines.flatMap packageReferences := by
  induction h with
  | nil => rfl
  | blank _ ih => rw [List.flatMap_cons, List.flatMap_cons, ih]
  | comment slashes _ _ ih =>
    have hcomment := List.isPrefixOf_iff_prefix.mp (isPrefixOf_comment slashes)
    rw [List.flatMap_cons, List.flatMap_cons, ih, packageReferences_tabbed, packageReferences_comment slashes,
      packageReferences_comment (by rwa [String.toList_ofList])]
  | code _ _ _ _ ih => rw [List.flatMap_cons, List.flatMap_cons, ih, packageReferences_tabbed]

end RpcClients
