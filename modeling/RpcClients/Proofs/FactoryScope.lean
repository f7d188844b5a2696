import RpcClients.Proofs.EmittedMethods
import RpcClients.Proofs.FinishedTable
import RpcClients.Proofs.LoadedNames

/-! # What the body of a factory refers to

The receiver and the parameters of a factory have fixed names. Nothing keeps these names from the wrapper
type of a service or from the alias of a package, and where one of them is taken, the body no longer means
what it should. -/

namespace RpcClients

open Resolving

/-- The names of the receiver and of the parameters of a factory. -/
def factoryLocals : List String := ["p", "ctx", "address"]

theorem unnumbered_factoryLocals : ∀ name ∈ factoryLocals, Imports.Unnumbered name := by decide

/-- The names from outside that the body of a factory refers to: the wrapper type and the aliases of the
packages that it calls. -/
def Provider.factoryNames (provider : Provider) (method : ProviderMethod) : List String :=
  method.wrapper :: (requestAlias method.newClient ++ requestAlias provider.newClientOptions)

/-- None of these names is hidden in the body. -/
def Provider.Unshadowed (provider : Provider) (method : ProviderMethod) : Prop :=
  ∀ name ∈ provider.factoryNames method, name ∉ factoryLocals

namespace GenerationUnit

theorem factoryNames_providerIn {table : Imports} {paths : ProviderPaths} {unit : GenerationUnit}
    {service : Service} (hcons : table.Consistent) (hdot : '.' ∉ service.goName.toList) :
    (unit.providerIn table paths).factoryNames (service.factoryIn table paths.api unit.importPath) =
      wrapperName service.goName ::
        ((table.aliasFor ⟨"New" ++ service.goName ++ "ProtobufClient", unit.importPath⟩).toList ++
          (table.aliasFor ⟨"NewClientOptions", paths.twirpClient⟩).toList) := by
  have hclient : '.' ∉ ("New" ++ service.goName ++ "ProtobufClient").toList := by simp [hdot]
  have hoptions : '.' ∉ "NewClientOptions".toList := by decide
  simp only [Provider.factoryNames, providerIn, Service.factoryIn, hcons.requestAlias_referenceTo ⟨_, _⟩ hclient,
    hcons.requestAlias_referenceTo ⟨_, _⟩ hoptions]

/-- The packages whose aliases the body of a factory uses: that of the client and that of its options. -/
def factoryPackages (unit : GenerationUnit) (paths : ProviderPaths) : List String :=
  [unit.importPath, paths.twirpClient]

/-- The wrapper type of the service is not named as the receiver or a parameter of its factory is, and the
file calls none of the packages so. -/
def LeavesLocals (options : Options) (unit : GenerationUnit) (target : Target) (paths : ProviderPaths)
    (service : Service) : Prop :=
  wrapperName service.goName ∉ factoryLocals ∧ ∀ path ∈ unit.factoryPackages paths,
    ¬ target.table.CallsByOneOf factoryLocals (unit.providerIdents options paths.client paths.api) path

instance (options : Options) (unit : GenerationUnit) (target : Target) (paths : ProviderPaths)
    (service : Service) : Decidable (unit.LeavesLocals options target paths service) :=
  inferInstanceAs (Decidable (_ ∧ ∀ path ∈ _, _))

theorem unshadowed_iff {options : Options} {unit : GenerationUnit} {target : Target} {paths : ProviderPaths}
    {service : Service} (hdot : '.' ∉ service.goName.toList) :
    (unit.providerIn (unit.providerTable options target paths) paths).Unshadowed
        (service.factoryIn (unit.providerTable options target paths) paths.api unit.importPath) ↔
      unit.LeavesLocals options target paths service := by
  have hclear : ∀ ident : Ident,
      (∀ bound ∈ ((unit.providerTable options target paths).aliasFor ident).toList, bound ∉ factoryLocals) ↔
      ¬ target.table.CallsByOneOf factoryLocals
        (unit.providerIdents options paths.client paths.api) ident.importPath := by
    intro ident
    rw [Imports.callsByOneOf_iff rfl unnumbered_factoryLocals]
    simp [providerTable]
  unfold Provider.Unshadowed
  rw [factoryNames_providerIn (providerTable_consistent _ _ _ _) hdot, List.forall_mem_cons,
    List.forall_mem_append, hclear, hclear]
  simp [LeavesLocals, factoryPackages]

end GenerationUnit

/-- The artifact of a unit is printed from the provider. -/
structure PrintsProvider (options : Options) (unit : GenerationUnit) (target : GenerationUnit.Target)
    (paths : ProviderPaths) (provider : Provider) (artifact : Artifact) : Prop where
  ofTarget : unit.target options = .ok target
  ofPaths : unit.HasPaths options paths
  printed : ∃ name, artifact =
    (target.filed name .unit none provider.lines (unit.providerTable options target paths)).artifact

/-- In a run on loaded files, the body of a service's factory means what it should exactly if the wrapper
type of the service is not named as the receiver or a parameter is, and the file calls neither of the two
packages so. -/
theorem factory_unshadowed_iff {descriptors : List Schema.FileDescriptor} {toGenerate unreadable : List String}
    {files : List File} {options : Options} {artifacts : List Artifact}
    (loaded : Schema.load descriptors toGenerate unreadable = .ok files)
    (h : generate options files unreadable = .ok artifacts) :
    ∃ units, GenerationUnit.group files = .ok units ∧
      ∀ artifact ∈ artifacts, artifact.kind = .unit →
        ∃ unit ∈ units, ∃ target paths provider, PrintsProvider options unit target paths provider artifact ∧
          List.Forall₂ (fun service method => method.service = service.goName ∧
              (provider.Unshadowed method ↔ unit.LeavesLocals options target paths service))
            unit.services provider.methods := by
  obtain ⟨units, hunits, hsources⟩ := sources_of_generate h
  refine ⟨units, hunits, ?_⟩
  intro artifact hartifact hkind
  obtain ⟨unit, hunit, target, source, htarget, rfl, hprovider | ⟨file, _, hfile⟩⟩ := hsources artifact hartifact
  · obtain ⟨name, paths, hpaths, _, rfl⟩ := GenerationUnit.eq_filed_of_providerFile hprovider
    refine ⟨unit, hunit, target, paths, _, ⟨htarget, hpaths, name, rfl⟩, ?_⟩
    have hdots := Schema.dot_not_mem_of_load loaded
    simp only [GenerationUnit.providerIn, List.forall₂_map_right_iff, List.forall₂_same]
    intro service hservice
    obtain ⟨file, hfile, hservice⟩ := List.mem_flatMap.mp hservice
    have hmem := ((GenerationUnit.group_collects hunits unit hunit).2 file hfile).1
    have hname : service.goName ∈ file.goNames := List.mem_flatMap.mpr ⟨service, hservice, List.mem_cons_self⟩
    exact ⟨rfl, GenerationUnit.unshadowed_iff (hdots _ (List.mem_flatMap.mpr ⟨file, hmem, hname⟩))⟩
  · rw [SourceFile.artifact, (kind_of_wrapperFile hfile).1] at hkind
    cases hkind

/-- Two files that are loaded. The service of one is named as the receiver of a factory is, and so is the
package of the other. -/
def hidingFiles : List Schema.FileDescriptor :=
  [{ name := "a.proto", package := "a", services := [{ name := "P" }]
     options := { goPackage := some "x/foo" } },
   { name := "b.proto", package := "b", services := [{ name := "Svc" }]
     options := { goPackage := some "x/p" } }]

def hidingUnits : List GenerationUnit :=
  [⟨"x/foo", "foo", [{ name := "a.proto", package := "a", importPath := "x/foo", packageName := "foo"
                       services := [{ name := "P", goName := "P", fullName := "a.P" }] }]⟩,
   ⟨"x/p", "p", [{ name := "b.proto", package := "b", importPath := "x/p", packageName := "p"
                   services := [{ name := "Svc", goName := "Svc", fullName := "b.Svc" }] }]⟩]

theorem group_hidingFiles :
    ((Schema.load hidingFiles ["a.proto", "b.proto"]).bind GenerationUnit.group) = .ok hidingUnits := by rfl

theorem hidingUnits_take_locals {unit : GenerationUnit} {target : GenerationUnit.Target} {paths : ProviderPaths}
    (hunit : unit ∈ hidingUnits) (htarget : unit.target {} = .ok target) (hpaths : unit.HasPaths {} paths) :
    ∀ service ∈ unit.services, ¬ unit.LeavesLocals {} target paths service := by
  obtain ⟨httpClient, twirpClient, zap, client, context, api⟩ := paths
  obtain ⟨hhttp, htwirp, hzap, hclient, hcontext, hapi⟩ := hpaths
  simp only at hhttp htwirp hzap hclient hcontext hapi
  simp only [hidingUnits, List.mem_cons, List.not_mem_nil, or_false] at hunit
  rcases hunit with rfl | rfl
  · intro service hservice hleaves
    rw [List.mem_singleton.mp hservice] at hleaves
    exact hleaves.1 (by decide)
  · cases htarget
    cases hhttp; cases htwirp; cases hzap; cases hclient; cases hcontext; cases hapi
    decide +kernel

theorem factory_unshadowed_iff_hiding :
    ∃ files artifacts, Schema.load hidingFiles ["a.proto", "b.proto"] = .ok files ∧
      generate {} files = .ok artifacts ∧
      ∀ artifact ∈ artifacts, artifact.kind = .unit →
        ∃ unit target paths provider, PrintsProvider {} unit target paths provider artifact ∧
          ∀ method ∈ provider.methods, ¬ provider.Unshadowed method := by
  have hrun : ((Schema.load hidingFiles ["a.proto", "b.proto"]).bind fun files =>
    generate {} files).toOption.isSome = true := by decide +kernel
  have hgroup := group_hidingFiles
  cases hload : Schema.load hidingFiles ["a.proto", "b.proto"] with
  | error failure => simp [hload, Except.bind, Except.toOption] at hrun
  | ok files =>
    rw [hload, Except.bind] at hrun hgroup
    cases h : generate {} files with
    | error failure => simp [h, Except.toOption] at hrun
    | ok artifacts =>
      obtain ⟨units, hunits, hartifacts⟩ := factory_unshadowed_iff hload h
      rw [hgroup] at hunits
      cases hunits
      refine ⟨files, artifacts, rfl, h, ?_⟩
      intro artifact hartifact hkind
      obtain ⟨unit, hunit, target, paths, provider, hprints, hmethods⟩ := hartifacts artifact hartifact hkind
      refine ⟨unit, target, paths, provider, hprints, ?_⟩
      intro method hmethod
      obtain ⟨service, hservice, _, hiff⟩ := exists_of_forall₂_right hmethods hmethod
      rw [hiff]
      exact hidingUnits_take_locals hunit hprints.ofTarget hprints.ofPaths service hservice

theorem hidingFiles_shadow_factories :
    ((Schema.load hidingFiles ["a.proto", "b.proto"]).bind fun files =>
      generate shortOptions files).toOption.isSome = true ∧
    (do
      let files ← Schema.load hidingFiles ["a.proto", "b.proto"]
      (← GenerationUnit.group files).mapM fun unit => do
        let target ← unit.target shortOptions
        let provider ← ((unit.provider shortOptions).outcome target.table).1
        return provider.methods.flatMap fun method => (provider.methodLines method).take 4 :
      Except Failure (List (List String))).toOption =
    some [["func (p *provider) NewP(ctx c.Context, address string) (fooapi.P, error) \x7b",
        "return &p\x7b", "logger: p.logger,", "client: foo.NewPProtobufClient("],
      ["func (p *provider) NewSvc(ctx c.Context, address string) (papi.Svc, error) \x7b",
        "return &svc\x7b", "logger: p.logger,", "client: p.NewSvcProtobufClient("]] := by
  constructor <;> decide +kernel

end RpcClients
