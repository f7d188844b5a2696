import RpcClients.Proofs.References

/-! # What printed lines refer to

The lines of a method, of a wrapper and of a provider refer to the packages of the identifiers that they
were printed with references to, and to no others. -/

namespace RpcClients

open Resolving Indentation Naming

variable {table : Imports}

/-! ## Methods -/

/-- A parameter that is printed with the references of a table. -/
structure Parameter.ReferredIn (table : Imports) (parameter : Parameter) : Prop where
  name : IsWord parameter.name
  plain : parameter.name ≠ "return"
  goType : parameter.goType = parameter.field.typeIn table
  field : IsExported parameter.field.goName
  idents : ∀ ident ∈ parameter.field.idents, IsExported ident.name

/-- The aliases of the packages that the type of a parameter refers to. -/
def Parameter.aliases (table : Imports) (parameter : Parameter) : List String :=
  parameter.field.idents.filterMap table.aliasFor

namespace Parameter.ReferredIn

variable {parameter : Parameter}

theorem packageNames_text (h : parameter.ReferredIn table) (hcons : table.Consistent) :
    packageNames parameter.text.toList = parameter.aliases table := by
  rw [Parameter.text, packageNames_between (by decide), packageNames_of_no_dot h.name.dot_not_mem, h.goType,
    Field.packageNames_typeIn hcons h.idents, List.nil_append]
  rfl

theorem references_entry (h : parameter.ReferredIn table) (hcons : table.Consistent) :
    packageReferences (parameter.text ++ ",") = parameter.aliases table := by
  have htext : parameter.text ++ "," = parameter.name ++ (" " ++ parameter.goType ++ ",") := by
    simp [Parameter.text, String.append_assoc]
  rw [htext, packageReferences_of_word h.name, ← htext, packageNames_tail (by decide),
    h.packageNames_text hcons]
  intro hreturn
  have hblank : parameter.name ++ (" " ++ parameter.goType ++ ",") =
      parameter.name ++ " " ++ (parameter.goType ++ ",") := by simp [String.append_assoc]
  rw [hblank] at hreturn
  exact h.plain (eq_return_of_isPrefix h.name hreturn)

end Parameter.ReferredIn

/-- A method that is printed with the references of a table. -/
structure WrapperMethod.ReferredIn (table : Imports) (context request : Ident) (method : WrapperMethod) : Prop where
  wrapper : IsWord method.wrapper
  name : IsWord method.name
  context : IsExported context.name ∧ method.context = table.referenceTo context
  request : IsExported request.name ∧ method.request = table.referenceTo request
  parameters : ∀ p ∈ method.parameters, p.ReferredIn table
  results : ∀ p ∈ method.results, p.ReferredIn table
  errorReturn : '.' ∉ method.errorReturn.toList

namespace WrapperMethod.ReferredIn

variable {context request : Ident} {method : WrapperMethod}

theorem packageNames_context (h : method.ReferredIn table context request) (hcons : table.Consistent) :
    packageNames ("ctx " ++ method.context).toList = (table.aliasFor context).toList := by
  rw [packageNames_lead (by decide), h.context.2, hcons.packageNames_referenceTo _ h.context.1]

theorem packageNames_parameters (h : method.ReferredIn table context request) (hcons : table.Consistent) :
    packageNames (commaSeparated method.parameterTexts).toList =
      (table.aliasFor context).toList ++ method.parameters.flatMap (Parameter.aliases table) := by
  rw [commaSeparated, packageNames_commaSeparated, parameterTexts, List.flatMap_cons, h.packageNames_context hcons,
    List.flatMap_map]
  congr 1
  exact List.flatMap_congr fun p hp => (h.parameters p hp).packageNames_text hcons

theorem packageNames_results (h : method.ReferredIn table context request) (hcons : table.Consistent) :
    packageNames (commaSeparated method.resultTexts).toList =
      method.results.flatMap (Parameter.aliases table) := by
  rw [commaSeparated, packageNames_commaSeparated, resultTexts, List.flatMap_append, List.flatMap_map,
    List.flatMap_singleton, packageNames_of_no_dot (by decide : '.' ∉ "_ error".toList), List.append_nil]
  exact List.flatMap_congr fun p hp => (h.results p hp).packageNames_text hcons

theorem references_signature (h : method.ReferredIn table context request) (hcons : table.Consistent) :
    method.signature.flatMap packageReferences =
      (table.aliasFor context).toList ++ method.parameters.flatMap (Parameter.aliases table) ++
        method.results.flatMap (Parameter.aliases table) := by
  have hhead : packageNames ("func (s *" ++ method.wrapper ++ ") " ++ method.name).toList = [] := by
    apply packageNames_of_no_dot
    simp [h.wrapper.dot_not_mem, h.name.dot_not_mem]
  have hclose : ∀ before : String,
      packageNames (before ++ (") (" ++ commaSeparated method.resultTexts ++ ") \x7b")).toList =
        packageNames before.toList ++ method.results.flatMap (Parameter.aliases table) := by
    intro before
    rw [← String.append_assoc, packageNames_tail (by decide), ← String.append_assoc,
      packageNames_between (by decide), h.packageNames_results hcons]
  unfold signature
  simp only
  split_ifs
  · have hfirst : packageReferences ("func (s *" ++ method.wrapper ++ ") " ++ method.name ++ "(") = [] := by
      rw [packageReferences_of_head (c := 'f') (by simp) (by decide), packageNames_tail (by decide), hhead]
    have hctx : packageReferences ("ctx " ++ method.context ++ ",") = (table.aliasFor context).toList := by
      rw [packageReferences_of_head (c := 'c') (by simp) (by decide), packageNames_tail (by decide),
        h.packageNames_context hcons]
    have hlast : packageReferences (") (" ++ commaSeparated method.resultTexts ++ ") \x7b") =
        method.results.flatMap (Parameter.aliases table) := by
      rw [packageReferences_of_head (c := ')') (by simp) (by decide)]
      simpa [packageNames_nil] using hclose ""
    simp only [List.cons_append, List.flatMap_cons, List.flatMap_append, List.flatMap_nil, List.append_nil,
      parameterTexts, List.map_cons, hfirst, hctx, hlast, List.nil_append, List.map_map, List.flatMap_map]
    rw [List.append_assoc]
    congr 2
    exact List.flatMap_congr fun p hp => (h.parameters p hp).references_entry hcons
  · rw [List.flatMap_singleton, packageReferences_of_head (c := 'f') (by simp) (by decide), hclose,
      packageNames_between (by decide), hhead, h.packageNames_parameters hcons, List.nil_append]

theorem references_call (h : method.ReferredIn table context request) (hcons : table.Consistent) :
    method.call.flatMap packageReferences = (table.aliasFor request).toList := by
  have hcall : packageReferences ((if method.results.isEmpty then "_" else "response") ++ ", err := s.client." ++
      method.name ++ "(") = [] := by
    have hline : ∀ first : String, isLead (first ++ ", err := ") = true → Starts first →
        packageReferences (first ++ ", err := s.client." ++ method.name ++ "(") = [] := by
      intro first hlead hstarts
      have hparts : first ++ ", err := s.client." ++ method.name ++ "(" =
          first ++ ", err := " ++ ("s.client." ++ method.name) ++ "(" := by
        rw [show ", err := s.client." = ", err := " ++ "s.client." by decide]
        simp only [String.append_assoc]
      apply packageReferences_eq_nil
      · cases hlist : first.toList with
        | nil => simp [Starts, hlist] at hstarts
        | cons c rest => simpa [Starts, hlist] using hstarts
      · rw [hparts, packageNames_tail (by decide), packageNames_lead hlead, packageNames_client h.name]
    split_ifs
    · exact hline "_" (by decide) (by decide)
    · exact hline "response" (by decide) (by decide)
  have hliteral : packageReferences ("&" ++ method.request ++ "\x7b") = (table.aliasFor request).toList := by
    rw [h.request.2]
    exact hcons.references_line (by decide) request h.request.1
  have hentries : (method.parameters.map fun p => p.field.goName ++ ": " ++ p.name ++ ",").flatMap
      packageReferences = [] := by
    rw [List.flatMap_eq_nil_iff]
    intro line hline
    obtain ⟨p, hp, rfl⟩ := List.mem_map.mp hline
    apply packageReferences_of_no_dot
    simp [(h.parameters p hp).name.dot_not_mem, (h.parameters p hp).field.1.isWord.dot_not_mem]
  have hclosed : ["ctx,", "\x7d,", ")"].flatMap packageReferences = [] :=
    flatMap_packageReferences_of_no_dot (by decide)
  simp only [List.flatMap_cons, List.flatMap_nil, List.append_nil, List.append_eq_nil_iff] at hclosed
  simp only [call, List.cons_append, List.nil_append, List.flatMap_cons, List.flatMap_append, List.flatMap_nil,
    List.append_nil, hcall, hliteral, hentries, hclosed]

theorem references_returnLine (h : method.ReferredIn table context request) :
    packageReferences method.returnLine = [] := by
  rw [returnLine, packageReferences_return, commaSeparated, packageNames_commaSeparated, List.filter_eq_nil_iff]
  intro name hname
  obtain ⟨item, hitem, hname⟩ := List.mem_flatMap.mp hname
  rcases List.mem_append.mp hitem with hitem | hitem
  · obtain ⟨r, hr, rfl⟩ := List.mem_map.mp hitem
    have hresponse : packageNames ("response" ++ "." ++ r.field.goName).toList = ["response"] :=
      packageNames_reference (by decide : IsIdentifier "response").isWord (h.results r hr).field
    rw [show "response." = "response" ++ "." by decide, hresponse, List.mem_singleton] at hname
    simpa using hname
  · rw [List.mem_singleton.mp hitem, packageNames_of_no_dot (by decide)] at hname
    cases hname

theorem references_lines (h : method.ReferredIn table context request) (hcons : table.Consistent) :
    method.lines.flatMap packageReferences =
      (table.aliasFor context).toList ++ method.parameters.flatMap (Parameter.aliases table) ++
        method.results.flatMap (Parameter.aliases table) ++ (table.aliasFor request).toList := by
  have hcomments : (commentLines method.comments).flatMap packageReferences = [] := by
    rw [List.flatMap_eq_nil_iff]
    exact fun line hline => packageReferences_comment (commentLines_comment _ line hline).1
  have hclosed : ["if err != nil \x7b", "\x7d", ""].flatMap packageReferences = [] :=
    flatMap_packageReferences_of_no_dot (by decide)
  simp only [List.flatMap_cons, List.flatMap_nil, List.append_nil, List.append_eq_nil_iff] at hclosed
  simp only [lines, List.flatMap_append, List.flatMap_cons, List.flatMap_nil, List.append_nil, hcomments,
    h.references_signature hcons, h.references_call hcons, packageReferences_of_no_dot h.errorReturn,
    h.references_returnLine, hclosed, List.nil_append, List.append_assoc]

end WrapperMethod.ReferredIn

theorem dot_not_mem_commaSeparated {items : List String} (h : ∀ item ∈ items, '.' ∉ item.toList) :
    '.' ∉ (String.intercalate ", " items).toList := by
  induction items with
  | nil => simp
  | cons item rest ih =>
    rw [List.forall_mem_cons] at h
    cases rest with
    | nil => simpa using h.1
    | cons other more =>
      rw [String.intercalate_cons_cons]
      simp only [String.toList_append, List.mem_append, not_or]
      exact ⟨⟨h.1, by decide⟩, ih h.2⟩

/-- The identifiers that the text of a method refers to. -/
def Method.printedIdents (context : Ident) (method : Method) : List Ident :=
  context :: (method.input.fields.flatMap Field.idents ++ method.output.fields.flatMap Field.idents ++
    [method.input.ident])

theorem Method.parameters_referredIn {fields : List Field} {taken : List String} {parameters : List Parameter}
    (hchosen : Chosen taken fields parameters) (htypes : ∀ p ∈ parameters, p.goType = p.field.typeIn table)
    (hnames : ∀ name ∈ fields.flatMap Field.goNames, IsExported name) : ∀ p ∈ parameters, p.ReferredIn table := by
  have hfields : ∀ field ∈ fields, ∀ name ∈ field.goNames, IsExported name := fun field hfield name hname =>
    hnames name (List.mem_flatMap.mpr ⟨field, hfield, hname⟩)
  intro p hp
  have hfield : p.field ∈ fields := by
    rw [← hchosen.fields_eq]
    exact List.mem_map_of_mem hp
  have hgoName := hfields p.field hfield
  rw [Field.goNames, List.forall_mem_cons] at hgoName
  refine ⟨(hchosen.identifiers (fun field hmem => ?_) p hp).isWord, ?_, htypes p hp, hgoName.1, ?_⟩
  · exact (hfields field hmem field.goName List.mem_cons_self).1
  · intro hreturn
    exact (hchosen.plain p hp).1 (by rw [hreturn]; decide)
  · exact fun ident hident => hgoName.2 _ (List.mem_map_of_mem hident)

theorem Method.referredIn_of_gives {method : Method} {wrapper : String} {context : Ident} {unreadable : List String}
    {before left : Imports} {emitted : WrapperMethod}
    (h : Gives (method.wrapped wrapper (table.referenceTo context) unreadable) before emitted left)
    (hleft : left.Extends table) (hcons : table.Consistent) (hwrapper : IsWord wrapper)
    (hcontext : IsExported context.name) (hnames : ∀ name ∈ method.goNames, IsExported name) :
    emitted.ReferredIn table context method.input.ident := by
  obtain ⟨hcontextText, hrequest, htypes⟩ := texts_of_gives h hleft hcons
  obtain ⟨hparameters, hresults⟩ := chosen_of_gives h
  rw [goNames, List.forall_mem_cons, List.forall_mem_append] at hnames
  obtain ⟨hname, hinput, houtput⟩ := hnames
  rw [Message.goNames, List.forall_mem_cons] at hinput houtput
  rw [List.forall_mem_append] at htypes
  obtain ⟨_, _, _, _, _, _, _, _, _, _, rfl⟩ := gives_wrapped_iff.mp h
  refine ⟨hwrapper, hname.1.isWord, ⟨hcontext, rfl⟩, ⟨hinput.1, hrequest⟩,
    parameters_referredIn hparameters htypes.1 hinput.2, parameters_referredIn hresults htypes.2 houtput.2, ?_⟩
  have hzeros : '.' ∉ (String.intercalate ", " (method.output.fields.map Message.zeroText ++ ["err"])).toList := by
    apply dot_not_mem_commaSeparated
    rw [List.forall_mem_append, List.forall_mem_map]
    refine ⟨fun field _ => ?_, by decide⟩
    have hdots : ∀ zero ∈ ["nil", "false", "\"\"", "0"], '.' ∉ zero.toList := by decide
    exact hdots _ (zeroText_mem field)
  rw [String.toList_append, List.mem_append, not_or]
  exact ⟨by decide, hzeros⟩

theorem filterMap_aliasFor_cons (ident : Ident) (rest : List Ident) :
    (ident :: rest).filterMap table.aliasFor = (table.aliasFor ident).toList ++ rest.filterMap table.aliasFor := by
  cases halias : table.aliasFor ident <;> simp [halias]

theorem Method.references_of_gives {method : Method} {wrapper : String} {context : Ident} {unreadable : List String}
    {before left : Imports} {emitted : WrapperMethod}
    (h : Gives (method.wrapped wrapper (table.referenceTo context) unreadable) before emitted left)
    (hleft : left.Extends table) (hcons : table.Consistent) (hwrapper : IsWord wrapper)
    (hcontext : IsExported context.name) (hnames : ∀ name ∈ method.goNames, IsExported name) :
    emitted.lines.flatMap packageReferences = (method.printedIdents context).filterMap table.aliasFor := by
  have haliases : ∀ (fields : List Field) (parameters : List Parameter), parameters.map (·.field) = fields →
      parameters.flatMap (Parameter.aliases table) = (fields.flatMap Field.idents).filterMap table.aliasFor := by
    rintro _ parameters rfl
    rw [List.filterMap_flatMap, List.flatMap_map]
    rfl
  obtain ⟨hinput, houtput⟩ := fields_of_gives h
  rw [(referredIn_of_gives h hleft hcons hwrapper hcontext hnames).references_lines hcons,
    haliases _ _ hinput, haliases _ _ houtput, printedIdents, filterMap_aliasFor_cons]
  simp only [List.filterMap_append, filterMap_aliasFor_cons, List.filterMap_nil, List.append_nil, List.append_assoc]

/-! ## Wrappers -/

def Service.printedIdents (context logger : Ident) (importPath : String) (service : Service) : List Ident :=
  logger :: ⟨service.goName, importPath⟩ :: service.methods.flatMap (Method.printedIdents context)

theorem flatMap_eq_of_forall₂ {α β γ : Type} {related : α → β → Prop} {items : List α} {values : List β}
    {f : α → List γ} {g : β → List γ} (h : List.Forall₂ related items values)
    (heq : ∀ item ∈ items, ∀ value, related item value → g value = f item) :
    values.flatMap g = items.flatMap f := by
  induction h with
  | nil => rfl
  | cons hitem _ ih =>
    rw [List.forall_mem_cons] at heq
    rw [List.flatMap_cons, List.flatMap_cons, heq.1 _ hitem, ih heq.2]

theorem Service.references_lines {service : Service} {context logger : Ident} {importPath : String}
    {unreadable : List String} {wrapper : Wrapper} (hcons : table.Consistent)
    (hname : wrapper.name = wrapperName service.goName) (hlogger : wrapper.logger = table.referenceTo logger)
    (hclient : wrapper.client = table.referenceTo ⟨service.goName, importPath⟩)
    (hmethods : service.MethodsIn table unreadable (table.referenceTo context) wrapper)
    (hcontext : IsExported context.name) (hloggerName : IsExported logger.name)
    (hnames : ∀ name ∈ service.goNames, IsExported name) :
    wrapper.lines.flatMap packageReferences =
      (service.printedIdents context logger importPath).filterMap table.aliasFor := by
  rw [goNames, List.forall_mem_cons] at hnames
  have hwrapper := (wrapperName_identifier hnames.1.1).isWord
  have htype : packageReferences ("type " ++ wrapper.name ++ " struct \x7b") = [] := by
    apply packageReferences_of_no_dot
    simp [hname, hwrapper.dot_not_mem]
  have hloggerLine : packageReferences ("logger *" ++ wrapper.logger) = (table.aliasFor logger).toList := by
    rw [hlogger, packageReferences_lead (by decide), hcons.packageNames_referenceTo logger hloggerName]
  have hclientLine : packageReferences ("client " ++ wrapper.client) =
      (table.aliasFor ⟨service.goName, importPath⟩).toList := by
    rw [hclient, packageReferences_lead (by decide), hcons.packageNames_referenceTo _ hnames.1]
  have hmethodLines : (wrapper.methods.flatMap WrapperMethod.lines).flatMap packageReferences =
      (service.methods.flatMap (Method.printedIdents context)).filterMap table.aliasFor := by
    rw [List.flatMap_assoc, List.filterMap_flatMap]
    refine flatMap_eq_of_forall₂ hmethods ?_
    rintro method hmethod emitted ⟨before, left, hgives, hleft⟩
    exact Method.references_of_gives hgives hleft hcons hwrapper hcontext fun name hmem =>
      hnames.2 name (List.mem_flatMap.mpr ⟨method, hmethod, hmem⟩)
  have hclosed : ["\x7d", ""].flatMap packageReferences = [] :=
    flatMap_packageReferences_of_no_dot (by decide)
  simp only [List.flatMap_cons, List.flatMap_nil, List.append_nil, List.append_eq_nil_iff] at hclosed
  simp only [Wrapper.lines, printedIdents, List.flatMap_append, List.flatMap_cons, List.flatMap_nil, List.append_nil,
    filterMap_aliasFor_cons, htype, hloggerLine, hclientLine, hmethodLines, hclosed, List.nil_append,
    List.append_assoc]

/-! ## Providers -/

def Service.printedFactoryIdents (paths : ProviderPaths) (importPath : String) (service : Service) : List Ident :=
  [⟨"Context", paths.context⟩, ⟨service.goName, paths.api⟩,
   ⟨"New" ++ service.goName ++ "ProtobufClient", importPath⟩, ⟨"NewClientOptions", paths.twirpClient⟩]

def GenerationUnit.printedIdents (paths : ProviderPaths) (unit : GenerationUnit) : List Ident :=
  [⟨"Logger", paths.zap⟩, ⟨"Client", paths.httpClient⟩, ⟨"Provider", paths.client⟩, ⟨"Logger", paths.zap⟩,
   ⟨"Client", paths.httpClient⟩] ++ unit.services.flatMap (Service.printedFactoryIdents paths unit.importPath)

namespace GenerationUnit

variable {unit : GenerationUnit} {paths : ProviderPaths}

theorem references_declarationLines (hcons : table.Consistent) :
    (unit.providerIn table paths).declarationLines.flatMap packageReferences =
      [⟨"Logger", paths.zap⟩, ⟨"Client", paths.httpClient⟩, ⟨"Provider", paths.client⟩, ⟨"Logger", paths.zap⟩,
        ⟨"Client", paths.httpClient⟩].filterMap table.aliasFor := by
  have hlogger : IsExported "Logger" := by decide
  have hhttp : IsExported "Client" := by decide
  have hcomment : packageReferences "// NewProvider returns a new Provider." = [] :=
    packageReferences_comment (by decide)
  have hclosed : ["func " ++ providerFunction ++ "(", "return &" ++ providerType ++ "\x7b", "logger: logger,",
      "httpClient: httpClient,", "\x7d", "", "type " ++ providerType ++ " struct \x7b"].flatMap
      packageReferences = [] := flatMap_packageReferences_of_no_dot (by decide)
  simp only [List.flatMap_cons, List.flatMap_nil, List.append_nil, List.append_eq_nil_iff] at hclosed
  simp only [Provider.declarationLines, providerIn, List.flatMap_cons, List.flatMap_nil, List.append_nil, hcomment,
    hclosed, List.nil_append, filterMap_aliasFor_cons, List.filterMap_nil]
  rw [hcons.references_line (by decide) _ hlogger, hcons.references_line (by decide) _ hhttp,
    hcons.references_line (by decide) ⟨"Provider", paths.client⟩ (by decide : IsExported "Provider"),
    packageReferences_lead (by decide), hcons.packageNames_referenceTo _ hlogger,
    packageReferences_lead (by decide), hcons.packageNames_referenceTo _ hhttp]

theorem references_methodLines (hcons : table.Consistent) {service : Service} (hname : IsExported service.goName) :
    ((unit.providerIn table paths).methodLines (service.factoryIn table paths.api unit.importPath)).flatMap
        packageReferences =
      (service.printedFactoryIdents paths unit.importPath).filterMap table.aliasFor := by
  have hcontext : IsExported "Context" := by decide
  have hoptions : IsExported "NewClientOptions" := by decide
  have hnew : IsExported ("New" ++ service.goName ++ "ProtobufClient") :=
    ((by decide : IsExported "New").append hname.1.2).append (by decide)
  have hfunc : packageReferences ("func (p *" ++ providerType ++ ") New" ++ service.goName ++ "(ctx " ++
      table.referenceTo ⟨"Context", paths.context⟩ ++ ", address string) (" ++
      table.referenceTo ⟨service.goName, paths.api⟩ ++ ", error) \x7b") =
      (table.aliasFor ⟨"Context", paths.context⟩).toList ++
        (table.aliasFor ⟨service.goName, paths.api⟩).toList := by
    have hhead : packageNames ("func (p *" ++ providerType ++ ") New" ++ service.goName).toList = [] := by
      apply packageNames_of_no_dot
      simp [hname.1.isWord.dot_not_mem, providerType]
    rw [packageReferences_of_head (c := 'f') (by simp) (by decide), packageNames_tail (by decide),
      packageNames_between (by decide), packageNames_between (by decide), hhead, List.nil_append,
      hcons.packageNames_referenceTo _ hcontext, hcons.packageNames_referenceTo _ hname]
  have hreturn : packageReferences ("return &" ++ wrapperName service.goName ++ "\x7b") = [] := by
    apply packageReferences_of_no_dot
    simp [(wrapperName_identifier hname.1).isWord.dot_not_mem]
  -- the receiver is no package, since its fields are not exported
  have hreceiver : ["logger: p.logger,", "p.httpClient.ParseAddress(address),", "p.httpClient,"].flatMap
      packageReferences = [] := by decide
  have hclosed : ["),", "\x7d, nil", "\x7d", ""].flatMap packageReferences = [] :=
    flatMap_packageReferences_of_no_dot (by decide)
  simp only [List.flatMap_cons, List.flatMap_nil, List.append_nil, List.append_eq_nil_iff] at hreceiver hclosed
  simp only [Provider.methodLines, providerIn, Service.factoryIn, Service.printedFactoryIdents, List.flatMap_cons,
    List.flatMap_nil, List.append_nil, hfunc, hreturn, hreceiver, hclosed, List.nil_append, filterMap_aliasFor_cons,
    List.filterMap_nil, List.append_assoc]
  rw [hcons.references_line (by decide) _ hnew, hcons.references_head (by decide) _ hoptions]

theorem references_provider (hcons : table.Consistent)
    (hnames : ∀ service ∈ unit.services, IsExported service.goName) :
    (unit.providerIn table paths).lines.flatMap packageReferences =
      (unit.printedIdents paths).filterMap table.aliasFor := by
  have hmethods : ((unit.providerIn table paths).methods.flatMap (unit.providerIn table paths).methodLines).flatMap
      packageReferences =
      (unit.services.flatMap (Service.printedFactoryIdents paths unit.importPath)).filterMap table.aliasFor := by
    rw [List.flatMap_assoc, List.filterMap_flatMap]
    conv_lhs => rw [show (unit.providerIn table paths).methods =
      unit.services.map (Service.factoryIn table paths.api unit.importPath) from rfl, List.flatMap_map]
    exact List.flatMap_congr fun service hservice => references_methodLines hcons (hnames service hservice)
  rw [Provider.lines, List.flatMap_append, references_declarationLines hcons, hmethods, printedIdents,
    List.filterMap_append]

end GenerationUnit

end RpcClients
