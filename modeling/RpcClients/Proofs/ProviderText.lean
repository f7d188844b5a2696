import RpcClients.Proofs.Generation
import RpcClients.Proofs.GoText

/-! # The text of a provider

The file of a unit declares its provider and one factory per service, in the order of the schema files. -/

namespace RpcClients

open Resolving Indentation Naming

/-- How the factory of a service is introduced. -/
def factoryHead (service : Service) : String := "func (p *" ++ providerType ++ ") New" ++ service.goName ++ "("

/-- The text of the factory of a service, for a provider that knows contexts and client options by the
given references. -/
def FactoryText (context newClientOptions : String) (service : Service) (text : List String) : Prop :=
  ∃ interface newClient, Reference interface ∧ Reference newClient ∧
    text =
      [factoryHead service ++ "ctx " ++ context ++ ", address string) (" ++ interface ++ ", error) \x7b",
       tabbed 1 ("return &" ++ wrapperName service.goName ++ "\x7b"),
       tabbed 2 "logger: p.logger,",
       tabbed 2 ("client: " ++ newClient ++ "("),
       tabbed 3 "p.httpClient.ParseAddress(address),",
       tabbed 3 "p.httpClient,",
       tabbed 3 (newClientOptions ++ "()...,"),
       tabbed 2 "),",
       tabbed 1 "\x7d, nil",
       "\x7d",
       ""]

def providerDeclarations (logger httpClient interface : String) : List String :=
  ["// NewProvider returns a new Provider.",
   "func " ++ providerFunction ++ "(",
   tabbed 1 ("logger *" ++ logger ++ ","),
   tabbed 1 ("httpClient " ++ httpClient ++ ","),
   ") " ++ interface ++ " \x7b",
   tabbed 1 ("return &" ++ providerType ++ "\x7b"),
   tabbed 2 "logger: logger,",
   tabbed 2 "httpClient: httpClient,",
   tabbed 1 "\x7d",
   "\x7d",
   "",
   "type " ++ providerType ++ " struct \x7b",
   tabbed 1 ("logger *" ++ logger),
   tabbed 1 ("httpClient " ++ httpClient),
   "\x7d",
   ""]

/-- The text of the provider of a unit with the given services. -/
def ProviderText (services : List Service) (text : List String) : Prop :=
  ∃ logger httpClient interface context newClientOptions factories,
    (∀ reference ∈ [logger, httpClient, interface, context, newClientOptions], Reference reference) ∧
    List.Forall₂ (FactoryText context newClientOptions) services factories ∧
    text = providerDeclarations logger httpClient interface ++ factories.flatten

/-! ## How a provider is laid out -/

namespace Provider

variable {provider : Provider}

theorem laid_declarations (hlogger : Reference provider.logger) (hclient : Reference provider.httpClient)
    (hinterface : Reference provider.interface) :
    Laid 0 provider.declarationLines
      (providerDeclarations provider.logger provider.httpClient provider.interface) 0 := by
  have hfunc : CodeLine ("func " ++ providerFunction ++ "(") 0 1 0 := (Shaped.refl _).codeLine (by decide)
  have hfirst : CodeLine ("logger *" ++ provider.logger ++ ",") 0 0 0 :=
    (((Shaped.refl "logger *").append hlogger.item).append (.refl ",")).codeLine (by decide)
  have hsecond : CodeLine ("httpClient " ++ provider.httpClient ++ ",") 0 0 0 :=
    (((Shaped.refl "httpClient ").append hclient.item).append (.refl ",")).codeLine (by decide)
  have hresult : CodeLine (") " ++ provider.interface ++ " \x7b") 1 0 0 :=
    (((Shaped.refl ") ").append hinterface.item).append (.refl " \x7b")).codeLine (by decide)
  have hreturn : CodeLine ("return &" ++ providerType ++ "\x7b") 0 1 0 :=
    (Shaped.refl _).codeLine (by decide)
  have hentry : CodeLine "logger: logger," 0 0 0 := (Shaped.refl _).codeLine (by decide)
  have hentry' : CodeLine "httpClient: httpClient," 0 0 0 := (Shaped.refl _).codeLine (by decide)
  have hclose : CodeLine "\x7d" 1 0 1 := (Shaped.refl _).codeLine (by decide)
  have htype : CodeLine ("type " ++ providerType ++ " struct \x7b") 0 1 0 :=
    (Shaped.refl _).codeLine (by decide)
  have hmember : CodeLine ("logger *" ++ provider.logger) 0 0 0 :=
    ((Shaped.refl "logger *").append hlogger.item).codeLine (by decide)
  have hmember' : CodeLine ("httpClient " ++ provider.httpClient) 0 0 0 :=
    ((Shaped.refl "httpClient ").append hclient.item).codeLine (by decide)
  unfold declarationLines providerDeclarations
  refine .comment (by decide) (by decide) ?_
  exact .code hfunc (by decide) (by decide) (.code hfirst (by decide) (by decide)
    (.code hsecond (by decide) (by decide) (.code hresult (by decide) (by decide)
    (.code hreturn (by decide) (by decide) (.code hentry (by decide) (by decide)
    (.code hentry' (by decide) (by decide) (.code hclose (by decide) (by decide)
    (.code hclose (by decide) (by decide) (.blank (.code htype (by decide) (by decide)
    (.code hmember (by decide) (by decide) (.code hmember' (by decide) (by decide)
    (.code hclose (by decide) (by decide) (.blank .nil))))))))))))))

theorem laid_method {service : Service} {method : ProviderMethod} (hservice : IsIdentifier service.goName)
    (hname : method.service = service.goName) (hwrapper : method.wrapper = wrapperName service.goName)
    (hcontext : Reference provider.context) (hoptions : Reference provider.newClientOptions)
    (hinterface : Reference method.interface) (hclient : Reference method.newClient) :
    ∃ text, FactoryText provider.context provider.newClientOptions service text ∧
      Laid 0 (provider.methodLines method) text 0 := by
  have hitem := item_of_isWord hservice.isWord
  have hitem' := item_of_isWord (wrapperName_identifier hservice).isWord
  have hfunc : CodeLine (factoryHead service ++ "ctx " ++ provider.context ++ ", address string) (" ++
      method.interface ++ ", error) \x7b") 0 1 0 := by
    have hhead := ((Shaped.refl ("func (p *" ++ providerType ++ ") New")).append hitem).append (.refl "(")
    exact (((((hhead.append (.refl "ctx ")).append hcontext.item).append (.refl ", address string) (")).append
      hinterface.item).append (.refl ", error) \x7b")).codeLine (by decide)
  have hreturn : CodeLine ("return &" ++ wrapperName service.goName ++ "\x7b") 0 1 0 :=
    (((Shaped.refl "return &").append hitem').append (.refl "\x7b")).codeLine (by decide)
  have hlogger : CodeLine "logger: p.logger," 0 0 0 := (Shaped.refl _).codeLine (by decide)
  have hcall : CodeLine ("client: " ++ method.newClient ++ "(") 0 1 0 :=
    (((Shaped.refl "client: ").append hclient.item).append (.refl "(")).codeLine (by decide)
  have haddress : CodeLine "p.httpClient.ParseAddress(address)," 0 0 0 := (Shaped.refl _).codeLine (by decide)
  have hhttp : CodeLine "p.httpClient," 0 0 0 := (Shaped.refl _).codeLine (by decide)
  have hlast : CodeLine (provider.newClientOptions ++ "()...,") 0 0 0 :=
    (hoptions.item.append (.refl "()...,")).codeLine (by decide)
  have hend : CodeLine ")," 1 0 1 := (Shaped.refl _).codeLine (by decide)
  have hnil : CodeLine "\x7d, nil" 1 0 1 := (Shaped.refl _).codeLine (by decide)
  have hclose : CodeLine "\x7d" 1 0 1 := (Shaped.refl _).codeLine (by decide)
  refine ⟨_, ⟨method.interface, method.newClient, hinterface, hclient, rfl⟩, ?_⟩
  have hlines : provider.methodLines method =
      [factoryHead service ++ "ctx " ++ provider.context ++ ", address string) (" ++ method.interface ++
         ", error) \x7b",
       "return &" ++ wrapperName service.goName ++ "\x7b", "logger: p.logger,",
       "client: " ++ method.newClient ++ "(", "p.httpClient.ParseAddress(address),", "p.httpClient,",
       provider.newClientOptions ++ "()...,", "),", "\x7d, nil", "\x7d", ""] := by
    rw [methodLines, hname, hwrapper]
    simp [factoryHead, String.append_assoc]
  rw [hlines]
  exact .code hfunc (by decide) (by decide) (.code hreturn (by decide) (by decide)
    (.code hlogger (by decide) (by decide) (.code hcall (by decide) (by decide)
    (.code haddress (by decide) (by decide) (.code hhttp (by decide) (by decide)
    (.code hlast (by decide) (by decide) (.code hend (by decide) (by decide)
    (.code hnil (by decide) (by decide) (.code hclose (by decide) (by decide) (.blank .nil))))))))))

end Provider

/-! ## The provider of a unit -/

theorem Service.gives_provided_iff {service : Service} {apiPath importPath : String} {table next : Imports}
    {method : ProviderMethod} :
    Gives (service.provided apiPath importPath) table method next ↔
      ∃ interface middle newClient, table.qualified ⟨service.goName, apiPath⟩ = .ok (interface, middle) ∧
        middle.qualified ⟨"New" ++ service.goName ++ "ProtobufClient", importPath⟩ = .ok (newClient, next) ∧
        method = { service := service.goName, interface, newClient, wrapper := wrapperName service.goName } := by
  unfold provided
  simp only [gives_bind, gives_pure, gives_qualified]
  constructor
  · rintro ⟨interface, middle, hinterface, newClient, _, hclient, rfl, rfl⟩
    exact ⟨interface, middle, newClient, hinterface, hclient, rfl⟩
  · rintro ⟨interface, middle, newClient, hinterface, hclient, rfl⟩
    exact ⟨interface, middle, hinterface, newClient, _, hclient, rfl, rfl⟩

def Service.factoryIdents (apiPath importPath : String) (service : Service) : List Ident :=
  [⟨service.goName, apiPath⟩, ⟨"New" ++ service.goName ++ "ProtobufClient", importPath⟩]

theorem Service.eq_resolved_of_gives_provided {service : Service} {apiPath importPath : String}
    {table next : Imports} {method : ProviderMethod}
    (h : Gives (service.provided apiPath importPath) table method next) :
    next = table.resolved (service.factoryIdents apiPath importPath) := by
  obtain ⟨_, _, _, hinterface, hclient, _⟩ := gives_provided_iff.mp h
  rw [Imports.eq_resolved_of_qualified hclient, Imports.eq_resolved_of_qualified hinterface,
    ← Imports.resolved_append]
  rfl

namespace GenerationUnit

theorem provider_of_gives {options : Options} {unit : GenerationUnit} {table next : Imports}
    {provider : Provider} (h : Gives (unit.provider options) table provider next) :
    ∃ httpPath twirpPath zapPath clientPath contextPath apiPath first second third fourth fifth,
      (options.httpClientPath = some httpPath ∧ options.twirpClientPath = some twirpPath ∧
        options.zapPath = some zapPath ∧ options.importPath unit clientSuffix = .ok clientPath ∧
        options.contextPath = some contextPath ∧ options.importPath unit apiSuffix = .ok apiPath) ∧
      table.qualified ⟨"Client", httpPath⟩ = .ok (provider.httpClient, first) ∧
      first.qualified ⟨"NewClientOptions", twirpPath⟩ = .ok (provider.newClientOptions, second) ∧
      second.qualified ⟨"Logger", zapPath⟩ = .ok (provider.logger, third) ∧
      third.qualified ⟨"Provider", clientPath⟩ = .ok (provider.interface, fourth) ∧
      fourth.qualified ⟨"Context", contextPath⟩ = .ok (provider.context, fifth) ∧
      Gives (unit.services.mapM (·.provided apiPath unit.importPath)) fifth provider.methods next := by
  unfold GenerationUnit.provider at h
  simp only [gives_bind, gives_member, gives_ofExcept, gives_qualified, gives_pure] at h
  obtain ⟨httpClient, first, ⟨httpPath, hhttp, hfirst⟩, newClientOptions, second, ⟨twirpPath, htwirp, hsecond⟩,
    logger, _, ⟨zapPath, hzap, hthird⟩, clientPath, third, ⟨hclient, rfl⟩, interface, fourth, hfourth,
    context, _, ⟨contextPath, hcontext, hfifth⟩, apiPath, fifth, ⟨hapi, rfl⟩, methods, _, hmethods, rfl, rfl⟩ := h
  exact ⟨httpPath, twirpPath, zapPath, clientPath, contextPath, apiPath, first, second, third, fourth, fifth,
    ⟨hhttp, htwirp, hzap, hclient, hcontext, hapi⟩, hfirst, hsecond, hthird, hfourth, hfifth, hmethods⟩

theorem laid_of_gives_provider {options : Options} {unit : GenerationUnit} {table next : Imports}
    {provider : Provider} (h : Gives (unit.provider options) table provider next) (hcons : table.Consistent)
    (hnames : ∀ service ∈ unit.services, IsIdentifier service.goName) :
    ∃ text, ProviderText unit.services text ∧ Laid 0 provider.lines text 0 := by
  obtain ⟨httpPath, twirpPath, zapPath, clientPath, contextPath, apiPath, first, second, third, fourth, fifth,
    _, hhttp, htwirp, hzap, hclient, hcontext, hmethods⟩ := provider_of_gives h
  have hfirst : first.Consistent := Imports.eq_resolved_of_qualified hhttp ▸ hcons.resolved _
  have hsecond : second.Consistent := Imports.eq_resolved_of_qualified htwirp ▸ hfirst.resolved _
  have hthird : third.Consistent := Imports.eq_resolved_of_qualified hzap ▸ hsecond.resolved _
  have hfourth : fourth.Consistent := Imports.eq_resolved_of_qualified hclient ▸ hthird.resolved _
  have hfifth : fifth.Consistent := Imports.eq_resolved_of_qualified hcontext ▸ hfourth.resolved _
  have hhttp := reference_of_qualified hcons (by decide : IsIdentifier "Client").isWord hhttp
  have htwirp := reference_of_qualified hfirst (by decide : IsIdentifier "NewClientOptions").isWord htwirp
  have hzap := reference_of_qualified hsecond (by decide : IsIdentifier "Logger").isWord hzap
  have hclient := reference_of_qualified hthird (by decide : IsIdentifier "Provider").isWord hclient
  have hcontext := reference_of_qualified hfourth (by decide : IsIdentifier "Context").isWord hcontext
  have hprinted : List.Forall₂ (fun service method => ∃ text,
      FactoryText provider.context provider.newClientOptions service text ∧
        Laid 0 (provider.methodLines method) text 0) unit.services provider.methods := by
    refine forall₂_of_gives_mapM hmethods hfifth ?_
    intro service hservice before method left hbefore hgives
    have hleft := Service.eq_resolved_of_gives_provided hgives
    obtain ⟨interface, middle, newClient, hinterface, hnew, rfl⟩ := Service.gives_provided_iff.mp hgives
    have hname := hnames service hservice
    have hmiddle : middle.Consistent := Imports.eq_resolved_of_qualified hinterface ▸ hbefore.resolved _
    refine ⟨hleft ▸ hbefore.resolved _, Provider.laid_method hname rfl rfl hcontext htwirp ?_ ?_⟩
    · exact reference_of_qualified hbefore hname.isWord hinterface
    · refine reference_of_qualified hmiddle (IsIdentifier.isWord ?_) hnew
      exact ⟨by simp, by simp [hname.2, isIdentifierChar]⟩
  obtain ⟨texts, htexts, hlaid⟩ := Laid.of_forall₂ hprinted
  refine ⟨_, ⟨_, _, _, _, _, texts, ?_, htexts, rfl⟩, (Provider.laid_declarations hzap hhttp hclient).append hlaid⟩
  simp [hzap, hhttp, hclient, hcontext, htwirp]

def providerIdents (options : Options) (unit : GenerationUnit) (clientPath apiPath : String) : List Ident :=
  options.httpClientPath.toList.map (⟨"Client", ·⟩) ++
    options.twirpClientPath.toList.map (⟨"NewClientOptions", ·⟩) ++
    options.zapPath.toList.map (⟨"Logger", ·⟩) ++ [⟨"Provider", clientPath⟩] ++
    options.contextPath.toList.map (⟨"Context", ·⟩) ++
    unit.services.flatMap (Service.factoryIdents apiPath unit.importPath)

theorem eq_resolved_of_gives_provider {options : Options} {unit : GenerationUnit} {table next : Imports}
    {provider : Provider} (h : Gives (unit.provider options) table provider next) :
    ∃ clientPath apiPath, options.importPath unit clientSuffix = .ok clientPath ∧
      options.importPath unit apiSuffix = .ok apiPath ∧
      next = table.resolved (unit.providerIdents options clientPath apiPath) := by
  obtain ⟨httpPath, twirpPath, zapPath, clientPath, contextPath, apiPath, first, second, third, fourth, fifth,
    ⟨hhttpPath, htwirpPath, hzapPath, hclientPath, hcontextPath, hapiPath⟩, hhttp, htwirp, hzap, hclient, hcontext,
    hmethods⟩ := provider_of_gives h
  refine ⟨clientPath, apiPath, hclientPath, hapiPath, ?_⟩
  rw [eq_resolved_of_gives_mapM (fun _ _ _ _ => Service.eq_resolved_of_gives_provided) hmethods,
    Imports.eq_resolved_of_qualified hcontext, Imports.eq_resolved_of_qualified hclient,
    Imports.eq_resolved_of_qualified hzap, Imports.eq_resolved_of_qualified htwirp,
    Imports.eq_resolved_of_qualified hhttp]
  simp only [← Imports.resolved_append, providerIdents, hhttpPath, htwirpPath, hzapPath, hcontextPath,
    Option.toList_some, List.map_cons, List.map_nil]

/-! ## The file of a unit -/

theorem newline_not_mem_joinPath {first second : String} (h : '\n' ∉ first.toList) (h' : '\n' ∉ second.toList) :
    '\n' ∉ (Text.joinPath first second).toList := by
  unfold Text.joinPath
  split_ifs <;> simp [h, h']

theorem newline_not_mem_relativePath {options : Options} {unit : GenerationUnit} {path : String}
    (h : options.relativePath unit = .ok path) (hpath : '\n' ∉ unit.importPath.toList) : '\n' ∉ path.toList := by
  unfold Options.relativePath at h
  split at h
  · cases h
  · split_ifs at h
    · cases h
      simp
    · cases h
      rw [String.toList_ofList]
      exact fun hmem => hpath (List.mem_of_mem_drop hmem)

theorem newline_not_mem_importPath {options : Options} {unit : GenerationUnit} {suffix path : String}
    (h : options.importPath unit suffix = .ok path) (hsuffix : suffix ∈ [apiSuffix, clientSuffix])
    (hoptions : ∀ text ∈ options.printedTexts, '\n' ∉ text.toList)
    (hpath : '\n' ∉ unit.importPath.toList) (hpackage : '\n' ∉ unit.packageName.toList) :
    '\n' ∉ path.toList := by
  have hnewline : '\n' ∉ (unit.packageName ++ suffix).toList := by
    have : '\n' ∉ suffix.toList := by
      simp only [List.mem_cons, List.not_mem_nil, or_false] at hsuffix
      rcases hsuffix with rfl | rfl <;> decide
    simp [hpackage, this]
  unfold Options.importPath at h
  simp only at h
  split at h
  · cases h
  · rename_i named hnamed
    split at h
    · rw [except_pure_ok_iff] at h
      rw [h]
      exact newline_not_mem_joinPath hpath hnewline
    · rename_i base hbase
      obtain ⟨relative, hrelative, h⟩ := except_bind_ok_iff.mp h
      rw [except_pure_ok_iff] at h
      rw [h]
      have hprinted : base ∈ options.printedTexts := by
        apply List.mem_append_right
        exact List.mem_filterMap.mpr ⟨suffix, hsuffix, by simp [hnamed, hbase]⟩
      exact newline_not_mem_joinPath (newline_not_mem_joinPath (hoptions base hprinted)
        (newline_not_mem_relativePath hrelative hpath)) hnewline

theorem newline_not_mem_providerIdents {options : Options} {unit : GenerationUnit} {clientPath apiPath : String}
    (hclient : options.importPath unit clientSuffix = .ok clientPath)
    (hapi : options.importPath unit apiSuffix = .ok apiPath)
    (hoptions : ∀ text ∈ options.printedTexts, '\n' ∉ text.toList)
    (hpath : '\n' ∉ unit.importPath.toList) (hpackage : '\n' ∉ unit.packageName.toList) :
    ∀ ident ∈ unit.providerIdents options clientPath apiPath, '\n' ∉ ident.importPath.toList := by
  have hclient := newline_not_mem_importPath hclient (by simp) hoptions hpath hpackage
  have hapi := newline_not_mem_importPath hapi (by simp) hoptions hpath hpackage
  intro ident hident
  simp only [providerIdents, Service.factoryIdents, List.mem_append, List.mem_map, List.mem_flatMap,
    List.mem_cons, List.not_mem_nil, or_false] at hident
  rcases hident with ((((⟨path, hpath, rfl⟩ | ⟨path, hpath, rfl⟩) | ⟨path, hpath, rfl⟩) | rfl) |
    ⟨path, hpath, rfl⟩) | ⟨service, _, rfl | rfl⟩
  · exact hoptions _ (by simp_all [Options.printedTexts])
  · exact hoptions _ (by simp_all [Options.printedTexts])
  · exact hoptions _ (by simp_all [Options.printedTexts])
  · exact hclient
  · exact hoptions _ (by simp_all [Options.printedTexts])
  · exact hapi
  · exact hpath

end GenerationUnit

theorem FactoryText.ends {context newClientOptions : String} {service : Service} {text : List String}
    (h : FactoryText context newClientOptions service text) : ["\x7d", ""] <:+ text := by
  obtain ⟨interface, newClient, _, _, rfl⟩ := h
  simp [List.suffix_cons_iff]

theorem ProviderText.ends {services : List Service} {text : List String} (h : ProviderText services text) :
    ["\x7d", ""] <:+ text := by
  obtain ⟨logger, httpClient, interface, context, newClientOptions, factories, _, hfactories, rfl⟩ := h
  rcases List.eq_nil_or_concat services with rfl | ⟨_, _, hsome⟩
  · rw [List.forall₂_nil_left_iff] at hfactories
    simp [hfactories, providerDeclarations, List.suffix_cons_iff]
  · apply List.suffix_append_of_suffix
    exact suffix_flatten hfactories (by simp [hsome]) fun _ _ h => h.ends

namespace GenerationUnit

theorem lines_providerFile {options : Options} {unit : GenerationUnit} {target : Target}
    {source : SourceFile} (htarget : unit.target options = .ok target)
    (h : unit.providerFile options target = .ok source)
    (hnames : ∀ service ∈ unit.services, IsIdentifier service.goName)
    (hoptions : ∀ text ∈ options.printedTexts, '\n' ∉ text.toList)
    (hpath : '\n' ∉ unit.importPath.toList) (hpackage : '\n' ∉ unit.packageName.toList) :
    ∃ text, ProviderText unit.services text ∧
      source.artifact.lines = source.headerText ++ "" :: text := by
  obtain ⟨name, provider, imports, _, hprovider, rfl⟩ := providerFile_ok h
  obtain ⟨text, htext, hlaid⟩ := laid_of_gives_provider hprovider target.table_consistent hnames
  obtain ⟨clientPath, apiPath, hclient, hapi, rfl⟩ := eq_resolved_of_gives_provider hprovider
  obtain ⟨before, hbefore⟩ := htext.ends
  have hsplit : text = before ++ ["\x7d"] ++ List.replicate 1 "" := by
    rw [← hbefore]
    simp
  refine ⟨text, htext, ?_⟩
  rw [Target.lines_filed ?_ (hsplit ▸ hlaid), ← hbefore]
  apply Target.newline_not_mem_filed htarget
  · intro plugin hplugin
    rw [Option.mem_def] at hplugin
    exact hoptions _ (by simp [Options.printedTexts, hplugin])
  · exact hpackage
  · simp
  · exact newline_not_mem_providerIdents hclient hapi hoptions hpath hpackage

end GenerationUnit

end RpcClients
