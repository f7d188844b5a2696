import RpcClients.Proofs.LineLayout
import RpcClients.Proofs.Pieces

/-! # Where lines stand

Lines that are laid out from depth zero to depth zero close every bracket that they open and no other. If
moreover declarations are printed at the margin and other code behind a tab, the layout shows which lines
belong to which declaration. -/

namespace RpcClients.Indentation

/-! ## Balanced lines -/

/-- What of a line counts for the depth. -/
def counted (line : List Char) : List Char :=
  if ['/', '/'].isPrefixOf (Text.trimmed line) then [] else code (Text.trimmed line)

def depthBehind (depth : Nat) (lines : List String) : Nat :=
  lines.foldl (fun depth line => depthAfter depth (counted line.toList)) depth

theorem depthBehind_cons (depth : Nat) (line : String) (lines : List String) :
    depthBehind depth (line :: lines) = depthBehind (depthAfter depth (counted line.toList)) lines := rfl

theorem depthAfter_nil (depth : Nat) : depthAfter depth [] = depth := rfl

theorem indentFrom_append (indent : List Char) (depth : Nat) (lines : List String) (more : List (List Char)) :
    indentFrom indent depth (lines.map String.toList ++ more) =
      indentFrom indent depth (lines.map String.toList) ++ indentFrom indent (depthBehind depth lines) more := by
  induction lines generalizing depth with
  | nil => rfl
  | cons line rest ih =>
    rw [List.map_cons, List.cons_append, depthBehind_cons, indentFrom, indentFrom, counted]
    simp only
    split_ifs with hempty hcomment hcomment
    · rw [depthAfter_nil, ih, List.cons_append]
    · rw [List.isEmpty_iff.mp hempty, show code [] = [] from rfl, depthAfter_nil, ih, List.cons_append]
    · rw [depthAfter_nil, ih, List.cons_append]
    · rw [ih, List.cons_append]

/-- No line closes more brackets than are open, neither at its start nor all in all. -/
def Unclamped (depth : Nat) (lines : List String) : Prop :=
  ∀ before line after, lines = before ++ line :: after →
    ((counted line.toList).takeWhile isCloser).length ≤ depthBehind depth before ∧
      (counted line.toList).countP isCloser ≤ depthBehind depth before + (counted line.toList).countP isOpener

theorem Unclamped.cons {depth : Nat} {line : String} {lines : List String}
    (hlead : ((counted line.toList).takeWhile isCloser).length ≤ depth)
    (hclosers : (counted line.toList).countP isCloser ≤ depth + (counted line.toList).countP isOpener)
    (h : Unclamped (depthAfter depth (counted line.toList)) lines) : Unclamped depth (line :: lines) := by
  intro before other after heq
  cases before with
  | nil =>
    obtain ⟨rfl, -⟩ := List.cons.inj heq
    exact ⟨hlead, hclosers⟩
  | cons first before =>
    obtain ⟨rfl, hrest⟩ := List.cons.inj heq
    rw [depthBehind_cons]
    exact h before other after hrest

/-- The lines close every bracket that they open, and no other. -/
structure Balanced (lines : List String) : Prop where
  closed : depthBehind 0 lines = 0
  unclamped : Unclamped 0 lines

theorem Balanced.indentLines_append {lines : List String} (h : Balanced lines) (more : List String) :
    indentLines (lines ++ more) = indentLines lines ++ indentLines more := by
  unfold indentLines
  rw [List.map_append, indentFrom_append, h.closed, List.map_append]

theorem counted_empty : counted "".toList = [] := by decide

theorem counted_comment {line : String} (h : ['/', '/'] <+: line.toList) : counted line.toList = [] :=
  if_pos (isPrefixOf_comment h)

theorem CodeLine.counted_eq {line : String} {lead up down : Nat} (h : CodeLine line lead up down) :
    counted line.toList = line.toList := by
  rw [counted, trimmed_eq h.starts h.stops, h.not_comment, h.text.code_eq]
  rfl

theorem CodeLine.depthAfter_eq {line : String} {lead up down : Nat} (h : CodeLine line lead up down) (depth : Nat) :
    depthAfter depth line.toList = depth + up - down := by
  have hnet := h.net
  unfold depthAfter
  omega

theorem Laid.depthBehind_eq {depth after : Nat} {lines texts : List String} (h : Laid depth lines texts after) :
    depthBehind depth lines = after := by
  induction h with
  | nil => rfl
  | blank _ ih => rw [depthBehind_cons, counted_empty, depthAfter_nil, ih]
  | comment hslashes _ _ ih => rw [depthBehind_cons, counted_comment hslashes, depthAfter_nil, ih]
  | code hline _ _ _ ih => rw [depthBehind_cons, hline.counted_eq, hline.depthAfter_eq, ih]

theorem Laid.unclamped {depth after : Nat} {lines texts : List String} (h : Laid depth lines texts after) :
    Unclamped depth lines := by
  induction h with
  | nil => simp [Unclamped]
  | blank _ ih =>
    refine .cons ?_ ?_ ?_ <;> rw [counted_empty]
    · exact Nat.zero_le _
    · exact Nat.zero_le _
    · exact ih
  | comment hslashes _ _ ih =>
    refine .cons ?_ ?_ ?_ <;> rw [counted_comment hslashes]
    · exact Nat.zero_le _
    · exact Nat.zero_le _
    · exact ih
  | code hline hclosed hkept _ ih =>
    have hnet := hline.net
    refine .cons ?_ ?_ ?_ <;> rw [hline.counted_eq]
    · rwa [hline.lead]
    · omega
    · rwa [hline.depthAfter_eq]

theorem Laid.balanced {lines texts : List String} (h : Laid 0 lines texts 0) : Balanced lines :=
  ⟨h.depthBehind_eq, h.unclamped⟩

/-! ## Declarations -/

/-- Whether a line starts a declaration. -/
def declares (line : String) : Bool :=
  ['f', 'u', 'n', 'c', ' '].isPrefixOf line.toList || ['t', 'y', 'p', 'e', ' '].isPrefixOf line.toList

def content (line : String) : String := String.ofList (Text.trimmed line.toList)

theorem CodeLine.content_eq {line : String} {lead up down : Nat} (h : CodeLine line lead up down) :
    content line = line := by
  rw [content, trimmed_eq h.starts h.stops, String.ofList_toList]

/-- How a line is printed: a declaration at the margin, and other code behind a tab unless it starts with a
closing bracket. -/
structure PrintedAs (line text : String) : Prop where
  declaration : declares (content line) = true → text = content line
  inner : declares (content line) = false → content line = "" ∨ ['/', '/'] <+: (content line).toList ∨
    (content line).toList.head?.any isCloser = true ∨ text.toList.head? = some '\t'

/-- The texts that lines may be printed as. -/
inductive Placed : String → Prop
  | blank : Placed ""
  | comment {text : String} (slashes : ['/', '/'] <+: text.toList) : Placed text
  | declaration {text : String} (declared : declares text = true) : Placed text
  | closing {text : String} (closes : text.toList.head?.any isCloser = true) : Placed text
  | inner {line : String} (depth : Nat) (starts : Starts line) (undeclared : declares line = false) :
      Placed (tabbed (depth + 1) line)

theorem head?_tabbed (depth : Nat) (line : String) : (tabbed (depth + 1) line).toList.head? = some '\t' := by
  simp [tabbed]

theorem not_starts_tabbed (depth : Nat) (line : String) : ¬ Starts (tabbed (depth + 1) line) := by
  rw [Starts, head?_tabbed]
  decide

theorem tabbed_inj {depth other : Nat} {line text : String} (hline : Starts line) (htext : Starts text)
    (h : tabbed depth line = tabbed other text) : line = text := by
  induction depth generalizing other with
  | zero =>
    cases other with
    | zero => exact h
    | succ other => exact absurd (h ▸ hline) (not_starts_tabbed other text)
  | succ depth ih =>
    cases other with
    | zero => exact absurd (h ▸ htext) (not_starts_tabbed depth line)
    | succ other => exact ih (by simpa [tabbed, String.ext_iff] using h)

theorem declares_of_placed {line : String} {depth : Nat} (hstarts : Starts line)
    (h : Placed (tabbed (depth + 1) line)) : declares line = false := by
  have hhead := head?_tabbed depth line
  generalize htext : tabbed (depth + 1) line = text at h hhead
  cases h with
  | blank => simp at hhead
  | comment hslashes =>
    obtain ⟨rest, hrest⟩ := hslashes
    simp [← hrest] at hhead
  | declaration hdeclared =>
    obtain ⟨rest, hrest⟩ := List.head?_eq_some_iff.mp hhead
    simp [declares, hrest] at hdeclared
  | closing hcloses =>
    rw [hhead] at hcloses
    exact absurd hcloses (by decide)
  | inner other hother hundeclared => rwa [tabbed_inj hstarts hother htext]

theorem CodeLine.printedAs {line : String} {lead up down depth : Nat} (h : CodeLine line lead up down)
    (hplaced : Placed (tabbed depth line)) : PrintedAs line (tabbed depth line) := by
  have hstarts := h.starts
  have hcontent := h.content_eq
  cases depth with
  | zero =>
    refine ⟨fun _ => hcontent.symm, ?_⟩
    rw [hcontent]
    intro hundeclared
    rw [tabbed] at hplaced
    cases hplaced with
    | blank => exact .inl rfl
    | comment hslashes => exact .inr (.inl hslashes)
    | declaration hdeclared => simp [hdeclared] at hundeclared
    | closing hcloses => exact .inr (.inr (.inl hcloses))
    | inner depth _ _ => exact absurd hstarts (not_starts_tabbed _ _)
  | succ depth =>
    refine ⟨?_, fun _ => .inr (.inr (.inr (head?_tabbed depth line)))⟩
    rw [hcontent, declares_of_placed hstarts hplaced]
    simp

theorem printedAs_blank : PrintedAs "" "" := ⟨by decide, by decide⟩

theorem printedAs_comment {line : String} (h : ['/', '/'] <+: line.toList) (text : String) : PrintedAs line text := by
  have hslashes : ['/', '/'] <+: (content line).toList := by
    rw [content, String.toList_ofList]
    exact List.isPrefixOf_iff_prefix.mp (isPrefixOf_comment h)
  refine ⟨?_, fun _ => .inr (.inl hslashes)⟩
  obtain ⟨rest, hrest⟩ := hslashes
  simp [declares, ← hrest]

theorem Laid.printedAs {depth after : Nat} {lines texts : List String} (h : Laid depth lines texts after)
    (hplaced : ∀ text ∈ texts, Placed text) : List.Forall₂ PrintedAs lines texts := by
  induction h with
  | nil => exact .nil
  | blank _ ih =>
    rw [List.forall_mem_cons] at hplaced
    exact .cons printedAs_blank (ih hplaced.2)
  | comment hslashes _ _ ih =>
    rw [List.forall_mem_cons] at hplaced
    exact .cons (printedAs_comment hslashes _) (ih hplaced.2)
  | code hline _ _ _ ih =>
    rw [List.forall_mem_cons] at hplaced
    exact .cons (hline.printedAs hplaced.1) (ih hplaced.2)

/-! ## Placing lines -/

theorem declares_word {word : String} (h : ' ' ∉ word.toList) (hfunc : word ≠ "func") (htype : word ≠ "type")
    (rest : String) : declares (word ++ " " ++ rest) = false := by
  have hcut : ∀ other : String, ' ' ∉ other.toList →
      other.toList ++ [' '] <+: word.toList ++ ' ' :: rest.toList → word = other := by
    rintro other hother ⟨more, hmore⟩
    have hpieces := congrArg (Text.pieces ' ') hmore
    rw [List.append_assoc, List.singleton_append, Text.pieces_append_cons, Text.pieces_append_cons,
      Text.pieces_of_not_mem hother, Text.pieces_of_not_mem h] at hpieces
    exact String.toList_inj.mp (List.cons.inj hpieces).1.symm
  have hline : (word ++ " " ++ rest).toList = word.toList ++ ' ' :: rest.toList := by simp
  rw [Bool.eq_false_iff, Ne, declares, Bool.or_eq_true, List.isPrefixOf_iff_prefix, List.isPrefixOf_iff_prefix,
    hline]
  rintro (hstart | hstart)
  · exact hfunc (hcut "func" (by decide) hstart)
  · exact htype (hcut "type" (by decide) hstart)

theorem Starts.append {text : String} (h : Starts text) (rest : String) : Starts (text ++ rest) := by
  unfold Starts at h ⊢
  cases hlist : text.toList with
  | nil => simp [hlist] at h
  | cons c cs => simpa [hlist] using h

theorem Item.starts {text : String} (h : Item text) : Starts text := by
  rw [Starts, Shaped.any_eq_map, Shaped.starts h]
  decide

theorem Placed.word {word : String} (hstarts : Starts word) (hblank : ' ' ∉ word.toList) (hfunc : word ≠ "func")
    (htype : word ≠ "type") (depth : Nat) (rest : String) : Placed (tabbed (depth + 1) (word ++ " " ++ rest)) :=
  .inner depth ((hstarts.append " ").append rest) (declares_word hblank hfunc htype rest)

theorem Placed.unbroken {text : String} (hstarts : Starts text) (hblank : ' ' ∉ text.toList) (depth : Nat) :
    Placed (tabbed (depth + 1) text) := by
  refine .inner depth hstarts ?_
  rw [Bool.eq_false_iff, Ne, declares, Bool.or_eq_true, List.isPrefixOf_iff_prefix, List.isPrefixOf_iff_prefix]
  rintro (hstart | hstart) <;> exact hblank (hstart.subset (by simp))

/-- Whether a text starts with a character that is no blank and starts no declaration. -/
def leads (lead : String) : Bool := lead.toList.head?.any fun c => !Text.isBlank c && c != 'f' && c != 't'

theorem Placed.behind {lead : String} (h : leads lead = true) (depth : Nat) (rest : String) :
    Placed (tabbed (depth + 1) (lead ++ rest)) := by
  unfold leads at h
  cases hlist : lead.toList with
  | nil => simp [hlist] at h
  | cons c cs =>
    rw [hlist] at h
    simp only [List.head?_cons, Option.any_some, Bool.and_eq_true, bne_iff_ne, Bool.not_eq_eq_eq_not,
      Bool.not_true] at h
    obtain ⟨⟨hblank, hfunc⟩, htype⟩ := h
    refine .inner depth ?_ ?_
    · simp [Starts, hlist, hblank]
    · simp [declares, hlist, List.isPrefixOf, hfunc.symm, htype.symm]

theorem Placed.literal {line : String} (h : leads line = true) (depth : Nat) :
    Placed (tabbed (depth + 1) line) := by
  simpa using Placed.behind h depth ""

theorem Placed.closer {lead : String} (h : lead.toList.head?.any isCloser = true) (rest : String) :
    Placed (lead ++ rest) := by
  apply Placed.closing
  cases hlist : lead.toList with
  | nil => simp [hlist] at h
  | cons c cs => simpa [hlist] using h

end RpcClients.Indentation
