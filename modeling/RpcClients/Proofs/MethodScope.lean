import RpcClients.Proofs.EmittedMethods
import RpcClients.Proofs.FinishedTable
import RpcClients.Proofs.LoadedNames

/-! # What the body of a method refers to

The parameters and results of a wrapper method keep clear of the alias that its body uses for the request.
Its receiver and `ctx` do not: a package that is called by one of these names is hidden in the body. -/

namespace RpcClients

open Resolving

/-- The names of the receiver and of the first parameter of a wrapper method. -/
def methodLocals : List String := ["s", "ctx"]

theorem unnumbered_methodLocals : ∀ name ∈ methodLocals, Imports.Unnumbered name := by decide

/-- The alias of the request is none of the names that the body has in scope. -/
def WrapperMethod.RequestUnshadowed (method : WrapperMethod) : Prop :=
  ∀ bound ∈ requestAlias method.request, bound ∉ methodLocals ++ method.names

instance (method : WrapperMethod) : Decidable method.RequestUnshadowed :=
  inferInstanceAs (Decidable (∀ bound ∈ _, _))

theorem Method.requestUnshadowed_iff {method : Method} {wrapper context : String} {unreadable : List String}
    {table before left : Imports} {emitted : WrapperMethod} {idents : List Ident} (htable : table.aliases = [])
    (h : Gives (method.wrapped wrapper context unreadable) before emitted left)
    (hleft : left.Extends (table.resolved idents)) (hdot : '.' ∉ method.input.ident.name.toList) :
    emitted.RequestUnshadowed ↔ ¬ table.CallsByOneOf methodLocals idents method.input.ident.importPath := by
  have hcons := (Imports.consistent_of_no_aliases htable).resolved idents
  have halias : requestAlias emitted.request = ((table.resolved idents).aliasFor method.input.ident).toList := by
    rw [(texts_of_gives h hleft hcons).2.1, hcons.requestAlias_referenceTo _ hdot]
  rw [Imports.callsByOneOf_iff htable unnumbered_methodLocals]
  constructor
  · rintro hclear ⟨bound, hbound, hlocal⟩
    have hbound : bound ∈ requestAlias emitted.request := by simpa [halias] using hbound
    exact hclear bound hbound (List.mem_append_left _ hlocal)
  · intro hnone bound hbound hmem
    rcases List.mem_append.mp hmem with hlocal | hname
    · rw [halias, Option.mem_toList] at hbound
      exact hnone ⟨bound, hbound, hlocal⟩
    · exact alias_not_mem_names h hbound hname

structure PrintsWrappers (options : Options) (unit : GenerationUnit) (target : GenerationUnit.Target)
    (file : File) (wrappers : List Wrapper) (artifact : Artifact) : Prop where
  ofTarget : unit.target options = .ok target
  printed : ∃ name, artifact = (target.filed name .file (some file.name) (wrappers.flatMap Wrapper.lines)
    (unit.wrapperTable options target file)).artifact

/-- In a run on loaded files, the alias of a method's request is never one of its parameters or results. It
is hidden exactly if the file calls the package of the request `s` or `ctx`: if that name is not in use and
no package that the file refers to before wants it. -/
theorem request_unshadowed_iff {descriptors : List Schema.FileDescriptor} {toGenerate unreadable : List String}
    {files : List File} {options : Options} {artifacts : List Artifact}
    (loaded : Schema.load descriptors toGenerate unreadable = .ok files)
    (h : generate options files unreadable = .ok artifacts) :
    ∃ units, GenerationUnit.group files = .ok units ∧
      ∀ artifact ∈ artifacts, artifact.kind = .file →
        ∃ unit ∈ units, ∃ file ∈ unit.serviceFiles, ∃ target wrappers,
          PrintsWrappers options unit target file wrappers artifact ∧
          List.Forall₂ (fun service wrapper => List.Forall₂ (fun method emitted =>
              emitted.name = method.goName ∧
              (∀ bound ∈ requestAlias emitted.request, bound ∉ emitted.names) ∧
              (emitted.RequestUnshadowed ↔ ¬ target.table.CallsByOneOf methodLocals
                (unit.wrapperIdents options file.services) method.input.ident.importPath))
            service.methods wrapper.methods) file.services wrappers := by
  obtain ⟨units, hunits, hsources⟩ := sources_of_generate h
  refine ⟨units, hunits, ?_⟩
  intro artifact hartifact hkind
  obtain ⟨unit, hunit, target, source, htarget, rfl, hprovider | ⟨file, hfile, hwrappers⟩⟩ :=
    hsources artifact hartifact
  · rw [SourceFile.artifact, (kind_of_providerFile hprovider).1] at hkind
    cases hkind
  · obtain ⟨name, wrappers, contextPath, zapPath, _, _, _, rfl, hservices⟩ :=
      GenerationUnit.eq_filed_of_wrapperFile hwrappers
    refine ⟨unit, hunit, file, hfile, target, wrappers, ⟨htarget, name, rfl⟩, ?_⟩
    refine forall₂_imp_of_mem ?_ hservices
    rintro service hservice wrapper ⟨_, _, _, hmethods⟩
    refine forall₂_imp_of_mem ?_ hmethods
    rintro method hmethod emitted ⟨before, left, hgives, hleft⟩
    have hmem : file ∈ files :=
      ((GenerationUnit.group_collects hunits unit hunit).2 file (List.mem_of_mem_filter hfile)).1
    have hdot : '.' ∉ method.input.ident.name.toList := by
      apply Schema.dot_not_mem_of_load loaded
      refine List.mem_flatMap.mpr ⟨file, hmem, List.mem_flatMap.mpr ⟨service, hservice, ?_⟩⟩
      apply List.mem_cons_of_mem
      refine List.mem_flatMap.mpr ⟨method, hmethod, ?_⟩
      simp [Method.goNames, Message.goNames]
    refine ⟨?_, fun bound hbound => Method.alias_not_mem_names hgives hbound,
      Method.requestUnshadowed_iff rfl hgives hleft hdot⟩
    obtain ⟨_, _, _, _, _, _, _, _, _, _, rfl⟩ := Method.gives_wrapped_iff.mp hgives
    rfl

/-- A file whose package is called as the receiver of a wrapper method is. -/
def hidingRequest : Schema.FileDescriptor :=
  { name := "a.proto", package := "a", messages := [{ name := "Req" }]
    services := [{ name := "Svc", methods := [{ name := "Get", inputType := ".a.Req", outputType := ".a.Req" }] }]
    options := { goPackage := some "x/s" } }

def hidingRequestFile : File :=
  let request : Message := { fullName := "a.Req", ident := ⟨"Req", "x/s"⟩ }
  { name := "a.proto", package := "a", importPath := "x/s", packageName := "s"
    services :=
      [{ name := "Svc", goName := "Svc", fullName := "a.Svc"
         methods := [{ name := "Get", goName := "Get", fullName := "a.Svc.Get", input := request,
                       output := request }] }] }

theorem load_hidingRequest : Schema.load [hidingRequest] ["a.proto"] = .ok [hidingRequestFile] := by rfl

theorem request_unshadowed_iff_hiding :
    ∃ artifacts, Schema.load [hidingRequest] ["a.proto"] = .ok [hidingRequestFile] ∧
      generate {} [hidingRequestFile] = .ok artifacts ∧
      ∀ artifact ∈ artifacts, artifact.kind = .file →
        ∃ unit target wrappers, PrintsWrappers {} unit target hidingRequestFile wrappers artifact ∧
          ∃ wrapper ∈ wrappers, ∃ emitted ∈ wrapper.methods, ¬ emitted.RequestUnshadowed := by
  have hrun : (generate {} [hidingRequestFile]).toOption.isSome = true := by decide +kernel
  have hgroup : GenerationUnit.group [hidingRequestFile] = .ok [⟨"x/s", "s", [hidingRequestFile]⟩] := by rfl
  cases h : generate {} [hidingRequestFile] with
  | error failure => simp [h, Except.toOption] at hrun
  | ok artifacts =>
    obtain ⟨units, hunits, hartifacts⟩ := request_unshadowed_iff load_hidingRequest h
    rw [hgroup] at hunits
    cases hunits
    refine ⟨artifacts, load_hidingRequest, rfl, ?_⟩
    intro artifact hartifact hkind
    obtain ⟨unit, hunit, file, hfile, target, wrappers, hprints, hservices⟩ := hartifacts artifact hartifact hkind
    obtain rfl := List.mem_singleton.mp hunit
    obtain rfl : file = hidingRequestFile := List.mem_singleton.mp (List.mem_of_mem_filter hfile)
    obtain ⟨wrapper, _, hmethods, _, rfl⟩ := List.forall₂_cons_left_iff.mp hservices
    obtain ⟨emitted, _, ⟨_, _, hiff⟩, _, hmethods⟩ := List.forall₂_cons_left_iff.mp hmethods
    refine ⟨_, target, _, hprints, wrapper, List.mem_cons_self, emitted, by simp [hmethods], ?_⟩
    have htarget := hprints.ofTarget
    cases htarget
    rw [hiff, not_not]
    decide +kernel

theorem hidingRequest_shadows_request :
    Schema.load [hidingRequest] ["a.proto"] = .ok [hidingRequestFile] ∧
    (generate shortOptions [hidingRequestFile]).toOption.isSome = true ∧
    (do
      (← GenerationUnit.group [hidingRequestFile]).mapM fun unit => do
        let target ← unit.target shortOptions
        let wrappers ← ((unit.wrappers shortOptions hidingRequestFile.services []).outcome target.table).1
        return wrappers.flatMap fun wrapper => wrapper.methods.flatMap fun method => method.lines.take 4 :
      Except Failure (List (List String))).toOption =
    some [["func (s *svc) Get(ctx c.Context) (_ error) \x7b", "_, err := s.client.Get(", "ctx,", "&s.Req\x7b"]] :=
  ⟨load_hidingRequest, by decide +kernel, by decide +kernel⟩

end RpcClients
