import RpcClients.Proofs.BlockLayout
import RpcClients.Proofs.References
import RpcClients.Proofs.StableIndentation

/-! # The blocks of a provider

The file of a unit shows the declarations of its provider and then its factories, each behind an empty line.
How far a block is indented depends on the brackets that the blocks before it leave open, so for names that are
identifiers on nothing. -/

namespace RpcClients

/-! ## Printed lines -/

namespace Text

theorem pieces_lead {separator : Char} {lead : List Char} (h : separator ∉ lead) (cs : List Char) :
    ∃ first rest, pieces separator (lead ++ cs) = (lead ++ first) :: rest := by
  induction lead with
  | nil => exact List.exists_cons_of_ne_nil (pieces_ne_nil separator cs)
  | cons c lead ih =>
    rw [List.mem_cons, not_or] at h
    obtain ⟨first, rest, hpieces⟩ := ih h.2
    refine ⟨first, rest, ?_⟩
    rw [List.cons_append, pieces, if_neg (Ne.symm h.1), hpieces]
    rfl

end Text

namespace Indentation

theorem content_lead {lead : String} (hstart : Starts lead) (hstop : Stops lead) (more : String) :
    lead.toList <+: (content (lead ++ more)).toList := by
  have hback : lead.toList.reverse.dropWhile Text.isBlank = lead.toList.reverse :=
    List.reverse_eq_iff.mp (trimRight_of_stops hstop)
  rw [content, Text.trimmed, trimLeft_of_starts (hstart.append more), String.toList_ofList, Text.trimRight,
    String.toList_append, List.reverse_append, List.dropWhile_append]
  split_ifs
  · exact ⟨[], by rw [hback, List.reverse_reverse, List.append_nil]⟩
  · rw [List.reverse_append, List.reverse_reverse]
    exact List.prefix_append _ _

/-- The lines, trimmed and indented from a depth on. -/
def indentedFrom (depth : Nat) (lines : List String) : List String :=
  (indentFrom ['\t'] depth (lines.map String.toList)).map String.ofList

theorem indentedFrom_zero (lines : List String) : indentedFrom 0 lines = indentLines lines := rfl

theorem indentedFrom_append (depth : Nat) (lines more : List String) :
    indentedFrom depth (lines ++ more) = indentedFrom depth lines ++ indentedFrom (depthBehind depth lines) more := by
  unfold indentedFrom
  rw [List.map_append, indentFrom_append, List.map_append]

theorem map_content_indentedFrom (depth : Nat) (lines : List String) :
    (indentedFrom depth lines).map content = lines.map content := by
  have hcontent : content ∘ String.ofList = String.ofList ∘ Text.trimmed := by
    funext line
    simp [content]
  rw [indentedFrom, List.map_map, hcontent, ← List.map_map, trimmed_indentFrom (by decide), List.map_map,
    List.map_map]
  rfl

/-! ## Blocks -/

/-- How blocks are printed one after the other, the first from the given depth. -/
def printedFrom (depth : Nat) : List (List String) → List (List String)
  | [] => []
  | block :: rest => indentedFrom depth block :: printedFrom (depthBehind depth block) rest

theorem indentedFrom_blocks (depth : Nat) (blocks : List (List String)) :
    indentedFrom depth (blocks.flatMap ("" :: ·)) = (printedFrom depth blocks).flatMap ("" :: ·) := by
  induction blocks generalizing depth with
  | nil => rfl
  | cons block rest ih =>
    rw [List.flatMap_cons, List.cons_append, ← List.singleton_append, indentedFrom_append, indentedFrom_append]
    change "" :: (indentedFrom depth block ++ indentedFrom (depthBehind depth block) _) = _
    rw [ih, printedFrom, List.flatMap_cons, List.cons_append]

theorem map_content_printedFrom (depth : Nat) (blocks : List (List String)) :
    (printedFrom depth blocks).map (·.map content) = blocks.map (·.map content) := by
  induction blocks generalizing depth with
  | nil => rfl
  | cons block rest ih => rw [printedFrom, List.map_cons, List.map_cons, map_content_indentedFrom, ih]

/-- Behind blocks that leave no bracket open every block is printed as it is alone. -/
theorem printedFrom_of_closed {blocks : List (List String)} (h : ∀ block ∈ blocks, depthBehind 0 block = 0) :
    printedFrom 0 blocks = blocks.map indentLines := by
  induction blocks with
  | nil => rfl
  | cons block rest ih =>
    rw [List.forall_mem_cons] at h
    rw [printedFrom, h.1, ih h.2, List.map_cons, indentedFrom_zero]

end Indentation

open Resolving Indentation Naming

theorem blank_flatMap (blocks : List (List String)) :
    "" :: blocks.flatMap (· ++ [""]) = blocks.flatMap ("" :: ·) ++ [""] := by
  induction blocks with
  | nil => rfl
  | cons block rest ih =>
    rw [List.flatMap_cons, List.flatMap_cons, List.append_assoc, List.singleton_append, ih]
    simp

theorem suffix_blocks {first ending : List String} {rest : List (List String)} (hfirst : ending <:+ first)
    (hrest : ∀ block ∈ rest, ending <:+ block) : ending <:+ first ++ rest.flatMap ("" :: ·) := by
  rcases List.eq_nil_or_concat rest with rfl | ⟨before, last, rfl⟩
  · simpa using hfirst
  · rw [List.concat_eq_append] at hrest ⊢
    rw [List.flatMap_append, ← List.append_assoc, List.flatMap_singleton]
    have hlast : ending <:+ last := hrest last (by simp)
    exact List.suffix_append_of_suffix (hlast.trans (List.suffix_cons _ _))

theorem SourceFile.body_of_brace {file : SourceFile} {lines : List String} (hlines : file.lines = lines ++ [""])
    (hends : ["\x7d"] <:+ lines) : file.body = indentLines lines := by
  obtain ⟨before, rfl⟩ := hends
  have hcontent := map_content_indentedFrom (depthBehind 0 before) ["\x7d"]
  obtain ⟨last, hlast, hbrace⟩ := List.map_eq_singleton_iff.mp hcontent
  have hne : last ≠ "" := by
    rintro rfl
    revert hbrace
    decide
  have hall : indentLines (before ++ ["\x7d"]) = indentLines before ++ [last] := by
    rw [← indentedFrom_zero, indentedFrom_append, hlast]
    rfl
  have hprinted : indentLines file.lines = indentLines (before ++ ["\x7d"]) ++ [""] := by
    rw [hlines, ← indentedFrom_zero, indentedFrom_append]
    rfl
  rw [SourceFile.body, hprinted, hall]
  simp [hne]

namespace Provider

/-- The declarations of a provider, line by line, without the empty line behind them. -/
def declarationBlock (provider : Provider) : List String :=
  provider.declarationLines.dropLast.flatMap (Text.split '\n')

/-- The factory of a service, line by line, without the empty line behind it. -/
def factoryBlock (provider : Provider) (method : ProviderMethod) : List String :=
  (provider.methodLines method).dropLast.flatMap (Text.split '\n')

theorem split_declarationLines (provider : Provider) :
    provider.declarationLines.flatMap (Text.split '\n') = provider.declarationBlock ++ [""] := by
  have hlast : provider.declarationLines = provider.declarationLines.dropLast ++ [""] := rfl
  rw [hlast, List.flatMap_append]
  rfl

theorem split_methodLines (provider : Provider) (method : ProviderMethod) :
    (provider.methodLines method).flatMap (Text.split '\n') = provider.factoryBlock method ++ [""] := by
  have hlast : provider.methodLines method = (provider.methodLines method).dropLast ++ [""] := rfl
  rw [hlast, List.flatMap_append]
  rfl

theorem split_lines (provider : Provider) :
    provider.lines.flatMap (Text.split '\n') =
      provider.declarationBlock ++ (provider.methods.map provider.factoryBlock).flatMap ("" :: ·) ++ [""] := by
  have hmethods : (provider.methods.flatMap provider.methodLines).flatMap (Text.split '\n') =
      (provider.methods.map provider.factoryBlock).flatMap (· ++ [""]) := by
    rw [List.flatMap_assoc, List.flatMap_map]
    exact List.flatMap_congr fun method _ => provider.split_methodLines method
  rw [lines, List.flatMap_append, split_declarationLines, hmethods, List.append_assoc, List.append_assoc,
    List.singleton_append, blank_flatMap]

theorem brace_declarationBlock (provider : Provider) : ["\x7d"] <:+ provider.declarationBlock := by
  have hlast : provider.declarationLines.dropLast = provider.declarationLines.dropLast.dropLast ++ ["\x7d"] := rfl
  rw [declarationBlock, hlast, List.flatMap_append]
  exact List.suffix_append _ _

theorem brace_factoryBlock (provider : Provider) (method : ProviderMethod) :
    ["\x7d"] <:+ provider.factoryBlock method := by
  have hlast : (provider.methodLines method).dropLast = (provider.methodLines method).dropLast.dropLast ++ ["\x7d"] :=
    rfl
  rw [factoryBlock, hlast, List.flatMap_append]
  exact List.suffix_append _ _

def factories (provider : Provider) : List (List String) :=
  printedFrom (depthBehind 0 provider.declarationBlock) (provider.methods.map provider.factoryBlock)

theorem body_eq {provider : Provider} {file : SourceFile} (h : file.lines = provider.lines.flatMap (Text.split '\n')) :
    file.body = indentLines provider.declarationBlock ++ provider.factories.flatMap ("" :: ·) := by
  rw [split_lines] at h
  have hends : ["\x7d"] <:+
      provider.declarationBlock ++ (provider.methods.map provider.factoryBlock).flatMap ("" :: ·) := by
    apply suffix_blocks provider.brace_declarationBlock
    intro block hblock
    obtain ⟨method, _, rfl⟩ := List.mem_map.mp hblock
    exact provider.brace_factoryBlock method
  rw [SourceFile.body_of_brace h hends, factories, ← indentedFrom_zero, ← indentedFrom_zero, indentedFrom_append,
    indentedFrom_blocks]

theorem map_content_factories (provider : Provider) :
    provider.factories.map (·.map content) =
      provider.methods.map fun method => (provider.factoryBlock method).map content := by
  rw [factories, map_content_printedFrom, List.map_map, Function.comp_def]

/-- How the factory of any service starts. -/
def factoryLead : String := "func (p *" ++ providerType ++ ") New"

theorem factoryBlock_eq_cons (provider : Provider) (method : ProviderMethod) :
    ∃ first rest, provider.factoryBlock method = (factoryLead ++ first) :: rest := by
  obtain ⟨tail, others, hlines⟩ : ∃ tail others,
      (provider.methodLines method).dropLast = (factoryLead ++ tail) :: others := by
    refine ⟨method.service ++ ("(ctx " ++ (provider.context ++ (", address string) (" ++ (method.interface ++
      ", error) \x7b")))), (provider.methodLines method).dropLast.tail, ?_⟩
    simp [methodLines, factoryLead, String.append_assoc]
  obtain ⟨first, rest, hpieces⟩ := Text.pieces_lead (by decide : '\n' ∉ factoryLead.toList) tail.toList
  refine ⟨String.ofList first, rest.map String.ofList ++ others.flatMap (Text.split '\n'), ?_⟩
  rw [factoryBlock, hlines, List.flatMap_cons, Text.split, String.toList_append, hpieces, List.map_cons,
    String.ofList_append, String.ofList_toList, List.cons_append]

theorem head_factoryBlock (provider : Provider) (method : ProviderMethod) :
    ∃ line rest, (provider.factoryBlock method).map content = line :: rest ∧ factoryLead.toList <+: line.toList := by
  obtain ⟨first, rest, hblock⟩ := provider.factoryBlock_eq_cons method
  exact ⟨_, _, by rw [hblock, List.map_cons], content_lead (by decide) (by decide) first⟩

theorem length_factories (provider : Provider) : provider.factories.length = provider.methods.length := by
  simpa using congrArg List.length provider.map_content_factories

theorem head_of_mem_factories {provider : Provider} {factory : List String} (h : factory ∈ provider.factories) :
    ∃ line rest, factory.map content = line :: rest ∧ factoryLead.toList <+: line.toList := by
  have hmem : factory.map content ∈ provider.factories.map (·.map content) := List.mem_map_of_mem h
  rw [map_content_factories] at hmem
  obtain ⟨method, _, hmethod⟩ := List.mem_map.mp hmem
  rw [← hmethod]
  exact provider.head_factoryBlock method

/-! ## Factories of services with identifiers for names -/

theorem closed_of_laid {lines texts block : List String} (h : Laid 0 lines texts 0)
    (hblock : lines.flatMap (Text.split '\n') = block ++ [""]) : depthBehind 0 block = 0 := by
  have hbehind := h.depthBehind_eq
  rw [← Text.flatMap_split h.oneLine.1, hblock, depthBehind, List.foldl_append] at hbehind
  exact hbehind

end Provider

theorem Imports.Consistent.reference_referenceTo {table : Imports} (h : table.Consistent) {ident : Ident}
    (hname : IsWord ident.name) : Reference (table.referenceTo ident) := by
  unfold referenceTo
  cases hbound : table.aliasFor ident with
  | none => exact Or.inl hname
  | some bound => exact Or.inr ⟨bound, ident.name, (h.words _ (h.aliasFor_eq_some_iff.mp hbound)).1, hname, rfl⟩

namespace GenerationUnit

variable {unit : GenerationUnit} {table : Imports} {paths : ProviderPaths}

theorem closed_declarationBlock (hcons : table.Consistent) :
    depthBehind 0 (unit.providerIn table paths).declarationBlock = 0 := by
  refine Provider.closed_of_laid (Provider.laid_declarations ?_ ?_ ?_) (Provider.split_declarationLines _)
  · exact hcons.reference_referenceTo (by decide : IsIdentifier "Logger").isWord
  · exact hcons.reference_referenceTo (by decide : IsIdentifier "Client").isWord
  · exact hcons.reference_referenceTo (by decide : IsIdentifier "Provider").isWord

theorem closed_factoryBlock (hcons : table.Consistent) {service : Service} (hname : IsIdentifier service.goName) :
    depthBehind 0 ((unit.providerIn table paths).factoryBlock
      (service.factoryIn table paths.api unit.importPath)) = 0 := by
  have hnew : IsIdentifier ("New" ++ service.goName ++ "ProtobufClient") :=
    ⟨by simp, by simp [hname.2, isIdentifierChar]⟩
  have hcontext : Reference (unit.providerIn table paths).context :=
    hcons.reference_referenceTo (by decide : IsIdentifier "Context").isWord
  have hoptions : Reference (unit.providerIn table paths).newClientOptions :=
    hcons.reference_referenceTo (by decide : IsIdentifier "NewClientOptions").isWord
  have hinterface : Reference (service.factoryIn table paths.api unit.importPath).interface :=
    hcons.reference_referenceTo hname.isWord
  have hclient : Reference (service.factoryIn table paths.api unit.importPath).newClient :=
    hcons.reference_referenceTo hnew.isWord
  obtain ⟨text, _, hlaid⟩ := Provider.laid_method hname rfl rfl hcontext hoptions hinterface hclient
  exact Provider.closed_of_laid hlaid (Provider.split_methodLines _ _)

theorem factories_eq (hcons : table.Consistent) (hnames : ∀ service ∈ unit.services, IsIdentifier service.goName) :
    (unit.providerIn table paths).factories = unit.services.map fun service =>
      indentLines ((unit.providerIn table paths).factoryBlock
        (service.factoryIn table paths.api unit.importPath)) := by
  have hclosed : ∀ block ∈ (unit.providerIn table paths).methods.map (unit.providerIn table paths).factoryBlock,
      depthBehind 0 block = 0 := by
    intro block hblock
    obtain ⟨method, hmethod, rfl⟩ := List.mem_map.mp hblock
    obtain ⟨service, hservice, rfl⟩ := List.mem_map.mp hmethod
    exact closed_factoryBlock hcons (hnames service hservice)
  have hmethods : (unit.providerIn table paths).methods =
      unit.services.map (Service.factoryIn table paths.api unit.importPath) := rfl
  rw [Provider.factories, closed_declarationBlock hcons, printedFrom_of_closed hclosed, hmethods, List.map_map,
    List.map_map]
  exact List.map_congr_left fun service _ => by simp only [Function.comp_apply]

end GenerationUnit

end RpcClients
