import RpcClients.Proofs.FinishedTable
import RpcClients.Proofs.ReservedNames
import RpcClients.Proofs.UnitValidity

/-! # Providers of reordered units

The factories of a provider all refer to the same two packages. So the order of the schema files of a unit
changes neither the import table of its provider nor any factory, only the order of the factories. -/

namespace RpcClients

open Resolving

/-! ## Paths that need no alias -/

namespace Imports

variable {table next : Imports}

/-- The path has an alias already or cannot have one. -/
def Settled (table : Imports) (path : String) : Prop := ¬ (table.Foreign path ∧ table.aliases.lookup path = none)

theorem Settled.resolved_eq {ident : Ident} (h : table.Settled ident.importPath) : table.resolved [ident] = table := by
  rw [resolved_singleton, if_neg fun hnew => h hnew.2]

theorem Settled.mono {path : String} (h : table.Settled path) (hnext : table.Extends next) : next.Settled path := by
  rintro ⟨hforeign, hlookup⟩
  refine h ⟨⟨hforeign.1, hnext.importPath ▸ hforeign.2⟩, ?_⟩
  obtain ⟨more, hmore⟩ := hnext.aliases
  rw [← hmore, List.lookup_append] at hlookup
  exact (Option.or_eq_none_iff.mp hlookup).1

theorem settled_resolved {ident : Ident} (hname : ident.name ≠ "") :
    (table.resolved [ident]).Settled ident.importPath := by
  rw [resolved_singleton]
  split_ifs with hnew
  · rintro ⟨_, hlookup⟩
    rw [bind, List.lookup_append, hnew.2.2] at hlookup
    simp at hlookup
  · exact fun hfree => hnew ⟨hname, hfree⟩

theorem settled_of_mem {idents : List Ident} (ident : Ident) (hident : ident ∈ idents) (hname : ident.name ≠ "") :
    (table.resolved idents).Settled ident.importPath := by
  obtain ⟨before, after, rfl⟩ := List.append_of_mem hident
  rw [resolved_append, resolved_cons]
  exact (settled_resolved hname).mono (resolved_extends _ _)

theorem resolved_of_settled {idents : List Ident} (h : ∀ ident ∈ idents, table.Settled ident.importPath) :
    table.resolved idents = table := by
  induction idents with
  | nil => rfl
  | cons ident rest ih =>
    rw [List.forall_mem_cons] at h
    rw [resolved_cons, h.1.resolved_eq, ih h.2]

theorem resolved_congr {ident other : Ident} (hname : ident.name ≠ "") (hname' : other.name ≠ "")
    (hpath : ident.importPath = other.importPath) : table.resolved [ident] = table.resolved [other] := by
  rw [resolved_singleton, resolved_singleton, hpath]
  simp only [ne_eq, hname, hname', not_false_eq_true, true_and]

theorem Alike.resolved {other : Imports} (h : table.Alike other) (idents : List Ident) :
    (table.resolved idents).Alike (other.resolved idents) := by
  induction idents generalizing table other with
  | nil => exact h
  | cons ident rest ih =>
    rw [resolved_cons table, resolved_cons other]
    refine ih ?_
    rw [resolved_singleton, resolved_singleton, h.aliases]
    have hforeign : other.Foreign ident.importPath ↔ table.Foreign ident.importPath := by
      rw [Foreign, Foreign, h.importPath]
    simp only [hforeign]
    split_ifs
    · exact h.bind _ _
    · exact h

end Imports

/-! ## Factories -/

namespace Service

variable {table next : Imports} {apiPath importPath : String} {services others : List Service}

theorem referable_of_gives {given : List ProviderMethod}
    (h : Gives (services.mapM (·.provided apiPath importPath)) table given next) :
    ∀ service ∈ services, ∀ ident ∈ service.factoryIdents apiPath importPath, ident.Referable table.importPath := by
  have heach : List.Forall₂ (fun service _ => ∀ ident ∈ Service.factoryIdents apiPath importPath service,
      ident.Referable table.importPath) services given := by
    refine @forall₂_of_gives_mapM _ _ _ _ _ _ _ (fun before => before.importPath = table.importPath) _ h rfl ?_
    intro service _ before method left hbefore hgives
    obtain ⟨interface, middle, newClient, hinterface, hclient, _⟩ := gives_provided_iff.mp hgives
    have hmiddle := (Imports.extends_of_qualified hinterface).importPath.trans hbefore
    refine ⟨(Imports.extends_of_qualified hclient).importPath.trans hmiddle, ?_⟩
    simp only [factoryIdents, List.forall_mem_cons, List.not_mem_nil, false_implies, implies_true, and_true]
    exact ⟨hbefore ▸ (Imports.qualified_ok_iff _ _).mp ⟨_, _, hinterface⟩,
      hmiddle ▸ (Imports.qualified_ok_iff _ _).mp ⟨_, _, hclient⟩⟩
  intro service hservice
  obtain ⟨_, _, hidents⟩ := exists_of_forall₂_left heach hservice
  exact hidents

theorem gives_of_referable
    (h : ∀ service ∈ services, ∀ ident ∈ service.factoryIdents apiPath importPath,
      ident.Referable table.importPath) :
    ∃ given next, Gives (services.mapM (·.provided apiPath importPath)) table given next := by
  induction services generalizing table with
  | nil => exact ⟨[], table, gives_mapM_nil.mpr ⟨rfl, rfl⟩⟩
  | cons service rest ih =>
    rw [List.forall_mem_cons] at h
    obtain ⟨interface, middle, hinterface⟩ := (table.qualified_ok_iff _).mpr (h.1 _ List.mem_cons_self)
    have hmiddle := (Imports.extends_of_qualified hinterface).importPath
    obtain ⟨newClient, left, hclient⟩ := (middle.qualified_ok_iff ⟨"New" ++ service.goName ++ "ProtobufClient",
      importPath⟩).mpr (hmiddle ▸ h.1 _ (List.mem_cons_of_mem _ List.mem_cons_self))
    have hleft := (Imports.extends_of_qualified hclient).importPath.trans hmiddle
    obtain ⟨given, next, hgiven⟩ := ih (hleft ▸ h.2)
    exact ⟨_, next, gives_mapM_cons.mpr ⟨_, left, given,
      gives_provided_iff.mpr ⟨interface, middle, newClient, hinterface, hclient, rfl⟩, hgiven, rfl⟩⟩

theorem resolved_factories (hne : services ≠ []) (hnames : ∀ service ∈ services, service.goName ≠ "") :
    table.resolved (services.flatMap (factoryIdents apiPath importPath)) =
      table.resolved [⟨"Client", apiPath⟩, ⟨"Client", importPath⟩] := by
  obtain ⟨first, rest, rfl⟩ := List.exists_cons_of_ne_nil hne
  rw [List.forall_mem_cons] at hnames
  have hapi : table.resolved [⟨first.goName, apiPath⟩] = table.resolved [⟨"Client", apiPath⟩] :=
    Imports.resolved_congr hnames.1 (by simp) rfl
  have hfirst : table.resolved (first.factoryIdents apiPath importPath) =
      table.resolved [⟨"Client", apiPath⟩, ⟨"Client", importPath⟩] := by
    rw [factoryIdents, Imports.resolved_cons table, Imports.resolved_cons table ⟨"Client", apiPath⟩, hapi]
    exact Imports.resolved_congr (by simp) (by simp) rfl
  rw [List.flatMap_cons, Imports.resolved_append, hfirst]
  apply Imports.resolved_of_settled
  intro ident hident
  obtain ⟨service, _, hident⟩ := List.mem_flatMap.mp hident
  simp only [factoryIdents, List.mem_cons, List.not_mem_nil, or_false] at hident
  rcases hident with rfl | rfl
  · exact Imports.settled_of_mem ⟨"Client", apiPath⟩ (by simp) (by simp)
  · exact Imports.settled_of_mem ⟨"Client", importPath⟩ (by simp) (by simp)

theorem resolved_factories_perm (h : services.Perm others) (hnames : ∀ service ∈ services, service.goName ≠ "") :
    table.resolved (services.flatMap (factoryIdents apiPath importPath)) =
      table.resolved (others.flatMap (factoryIdents apiPath importPath)) := by
  by_cases hne : services = []
  · subst hne
    rw [List.nil_perm.mp h]
  · have hne' : others ≠ [] := fun hnil => hne (List.perm_nil.mp (hnil ▸ h))
    rw [resolved_factories hne hnames,
      resolved_factories hne' fun service hservice => hnames service (h.mem_iff.mpr hservice)]

end Service

/-! ## Providers -/

theorem Imports.Alike.referenceTo {table other : Imports} (h : table.Alike other) (ident : Ident) :
    other.referenceTo ident = table.referenceTo ident := by
  unfold Imports.referenceTo Imports.aliasFor
  rw [h.importPath, h.aliases]

namespace GenerationUnit

variable {options : Options} {unit : GenerationUnit} {files : List File}

theorem services_perm (h : unit.files.Perm files) : unit.services.Perm { unit with files }.services :=
  h.flatMap_right _

theorem providerIn_alike {table other : Imports} (h : table.Alike other) (paths : ProviderPaths) :
    unit.providerIn other paths = unit.providerIn table paths := by
  have hfactory : Service.factoryIn other paths.api unit.importPath =
      Service.factoryIn table paths.api unit.importPath := by
    funext service
    simp only [Service.factoryIn, h.referenceTo]
  simp only [providerIn, h.referenceTo, hfactory]

theorem HasPaths.unique {paths other : ProviderPaths} (h : unit.HasPaths options paths)
    (h' : { unit with files }.HasPaths options other) : other = paths := by
  obtain ⟨httpClient, twirpClient, zap, client, context, api⟩ := paths
  obtain ⟨httpClient', twirpClient', zap', client', context', api'⟩ := other
  obtain rfl := Option.some.inj (h.httpClient.symm.trans h'.httpClient)
  obtain rfl := Option.some.inj (h.twirpClient.symm.trans h'.twirpClient)
  obtain rfl := Option.some.inj (h.zap.symm.trans h'.zap)
  obtain rfl := Except.ok.inj (h.client.symm.trans h'.client)
  obtain rfl := Option.some.inj (h.context.symm.trans h'.context)
  obtain rfl := Except.ok.inj (h.api.symm.trans h'.api)
  rfl

/-- The provider of a unit whose files come in another order has the same factories in another order. -/
theorem gives_provider_perm (h : unit.files.Perm files) {table other next : Imports} {provider : Provider}
    (halike : table.Alike other) (hcons : table.Consistent) (hcons' : other.Consistent)
    (hgives : Gives (unit.provider options) table provider next) :
    ∃ paths next', next.Alike next' ∧ provider = unit.providerIn next paths ∧
      Gives ({ unit with files }.provider options) other ({ unit with files }.providerIn next paths) next' := by
  obtain ⟨httpPath, twirpPath, zapPath, clientPath, contextPath, apiPath, first, second, third, fourth, fifth,
    ⟨hhttpPath, htwirpPath, hzapPath, hclientPath, hcontextPath, hapiPath⟩, hhttp, htwirp, hzap, hclient, hcontext,
    hmethods⟩ := provider_of_gives hgives
  obtain ⟨first', hfirst, hhttp'⟩ := halike.qualified hhttp
  obtain ⟨second', hsecond, htwirp'⟩ := hfirst.qualified htwirp
  obtain ⟨third', hthird, hzap'⟩ := hsecond.qualified hzap
  obtain ⟨fourth', hfourth, hclient'⟩ := hthird.qualified hclient
  obtain ⟨fifth', hfifth, hcontext'⟩ := hfourth.qualified hcontext
  -- what the factories refer to does not depend on their order
  have hreferable := Service.referable_of_gives hmethods
  obtain ⟨given, next', hgiven⟩ : ∃ given next',
      Gives ((services { unit with files }).mapM (·.provided apiPath unit.importPath)) fifth' given next' := by
    refine Service.gives_of_referable fun service hservice => ?_
    rw [hfifth.importPath]
    exact hreferable service ((services_perm h).mem_iff.mpr hservice)
  have hnext : next.Alike next' := by
    rw [eq_resolved_of_gives_mapM (fun _ _ _ _ => Service.eq_resolved_of_gives_provided) hmethods,
      eq_resolved_of_gives_mapM (fun _ _ _ _ => Service.eq_resolved_of_gives_provided) hgiven,
      Service.resolved_factories_perm (services_perm h) fun service hservice =>
        (hreferable service hservice _ List.mem_cons_self).1]
    exact hfifth.resolved _
  have hother : Gives ({ unit with files }.provider options) other { provider with methods := given } next' := by
    unfold GenerationUnit.provider
    simp only [gives_bind, gives_member, gives_ofExcept, gives_qualified, gives_pure]
    exact ⟨_, first', ⟨httpPath, hhttpPath, hhttp'⟩, _, second', ⟨twirpPath, htwirpPath, htwirp'⟩,
      _, third', ⟨zapPath, hzapPath, hzap'⟩, clientPath, third', ⟨hclientPath, rfl⟩, _, fourth', hclient',
      _, fifth', ⟨contextPath, hcontextPath, hcontext'⟩, apiPath, fifth', ⟨hapiPath, rfl⟩, given, next',
        hgiven, rfl, rfl⟩
  obtain ⟨_, _, _, _, hresolved⟩ := eq_resolved_of_gives_provider hgives
  obtain ⟨_, _, _, _, hresolved'⟩ := eq_resolved_of_gives_provider hother
  obtain ⟨paths, hpaths, hprovider⟩ := eq_providerIn_of_gives hgives (hresolved ▸ hcons.resolved _)
  obtain ⟨paths', hpaths', hprovider'⟩ := eq_providerIn_of_gives hother (hresolved' ▸ hcons'.resolved _)
  obtain rfl := hpaths.unique hpaths'
  rw [hprovider', providerIn_alike hnext] at hother
  exact ⟨paths', next', hnext, hprovider, hother⟩

end GenerationUnit

end RpcClients
