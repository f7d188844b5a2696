import RpcClients.Proofs.WrapperText

/-! # Tables that reserve the same names

The order in which names were reserved does not matter: tables that differ in it alone give the same aliases,
so the same files are printed from them. -/

namespace RpcClients

open Resolving

theorem firstFree_perm {taken other : List String} (h : taken.Perm other) (candidate : Nat → String) :
    firstFree candidate taken = firstFree candidate other := by
  have hfree : (fun i => decide (candidate i ∉ taken)) = fun i => decide (candidate i ∉ other) := by
    funext i
    rw [decide_eq_decide, h.mem_iff]
  unfold firstFree
  rw [h.length_eq, hfree]

namespace Imports

/-- The tables differ only in the order of the reserved names. -/
structure Alike (table other : Imports) : Prop where
  importPath : other.importPath = table.importPath
  packageName : other.packageName = table.packageName
  reserved : table.reserved.Perm other.reserved
  aliases : other.aliases = table.aliases

namespace Alike

variable {table other next : Imports}

theorem used (h : table.Alike other) : table.used.Perm other.used := by
  unfold Imports.used
  rw [h.packageName, h.aliases]
  exact ((h.reserved.cons _).append_left _).append_right _

theorem bind (h : table.Alike other) (path name : String) : (table.bind path name).Alike (other.bind path name) := by
  refine ⟨h.importPath, h.packageName, h.reserved, ?_⟩
  rw [Imports.bind, Imports.bind, h.aliases, firstFree_perm h.used]

theorem aliasOf (h : table.Alike other) {path bound : String} {preferred : Option String}
    (hgives : table.aliasOf path preferred = .ok (bound, next)) :
    ∃ next', next.Alike next' ∧ other.aliasOf path preferred = .ok (bound, next') := by
  unfold Imports.aliasOf at hgives ⊢
  rw [h.importPath, h.aliases]
  split_ifs at hgives ⊢
  cases hlookup : table.aliases.lookup path with
  | some known =>
    simp only [hlookup] at hgives ⊢
    cases hgives
    exact ⟨other, h, rfl⟩
  | none =>
    simp only [hlookup] at hgives ⊢
    cases hgives
    exact ⟨_, h.bind _ _, by rw [firstFree_perm h.used]⟩

theorem qualified (h : table.Alike other) {ident : Ident} {text : String}
    (hgives : table.qualified ident = .ok (text, next)) :
    ∃ next', next.Alike next' ∧ other.qualified ident = .ok (text, next') := by
  unfold Imports.qualified at hgives ⊢
  rw [h.importPath]
  split_ifs at hgives ⊢
  · cases hgives
    exact ⟨other, h, rfl⟩
  · obtain ⟨⟨bound, middle⟩, hbound, hgives⟩ := except_bind_ok_iff.mp hgives
    obtain ⟨next', hnext, hbound'⟩ := h.aliasOf hbound
    cases hgives
    exact ⟨next', hnext, by rw [hbound']; rfl⟩

end Alike

end Imports

/-! ## Steps -/

variable {α β : Type}

/-- In tables that reserve the same names the step gives the same. -/
def Even (step : Resolving α) : Prop :=
  ∀ table other value next, table.Alike other → Gives step table value next →
    ∃ next', next.Alike next' ∧ Gives step other value next'

theorem even_pure (value : α) : Even (pure value) := by
  intro table other given next halike hgives
  obtain ⟨rfl, rfl⟩ := gives_pure.mp hgives
  exact ⟨other, halike, rfl⟩

theorem even_throw (failure : Failure) : Even (throw failure : Resolving α) :=
  fun _ _ _ _ _ hgives => absurd hgives not_gives_throw

theorem Even.bind {step : Resolving α} {rest : α → Resolving β} (hstep : Even step)
    (hrest : ∀ value, Even (rest value)) :
    Even (step >>= rest) := by
  intro table other given next halike hgives
  obtain ⟨value, middle, hvalue, hgiven⟩ := gives_bind.mp hgives
  obtain ⟨middle', hmiddle, hvalue'⟩ := hstep _ _ _ _ halike hvalue
  obtain ⟨next', hnext, hgiven'⟩ := hrest value _ _ _ _ hmiddle hgiven
  exact ⟨next', hnext, gives_bind.mpr ⟨value, middle', hvalue', hgiven'⟩⟩

theorem even_ofExcept (result : Except Failure α) : Even (Resolving.ofExcept result) := by
  cases result with
  | error failure => exact even_throw failure
  | ok value => exact even_pure value

theorem even_qualified (ident : Ident) : Even (Resolving.qualified ident) := by
  intro table other text next halike hgives
  obtain ⟨next', hnext, hgives'⟩ := halike.qualified (gives_qualified.mp hgives)
  exact ⟨next', hnext, gives_qualified.mpr hgives'⟩

theorem even_member (path : Option String) (name : String) : Even (Resolving.member path name) := by
  cases path with
  | none => exact even_throw _
  | some path => exact even_qualified _

theorem even_mapM {step : α → Resolving β} (h : ∀ item, Even (step item)) (items : List α) :
    Even (items.mapM step) := by
  induction items with
  | nil => exact even_pure []
  | cons item rest ih =>
    rw [List.mapM_cons]
    exact (h item).bind fun value => ih.bind fun values => even_pure _

namespace Message

theorem even_elementType (message : Message) (field : Field) (type : FieldType) :
    Even (message.elementType field type) := by
  unfold elementType
  split
  · exact even_pure _
  · exact even_throw _
  · exact (even_qualified _).bind fun _ => even_pure _
  · exact even_qualified _

theorem even_goType (message : Message) (field : Field) : Even (message.goType field) := by
  unfold goType
  refine (even_ofExcept _).bind fun _ => ?_
  split
  · exact (message.even_elementType field _).bind fun _ => (message.even_elementType field _).bind fun _ => even_pure _
  · refine (message.even_elementType field _).bind fun _ => ?_
    split_ifs
    · exact even_pure _
    · exact even_pure _
    · exact even_pure _

theorem even_parametersFor (message : Message) (taken : List String) (fields : List Field) :
    Even (message.parametersFor taken fields) := by
  induction fields generalizing taken with
  | nil => exact even_pure []
  | cons field rest ih => exact (message.even_goType field).bind fun _ => (ih _).bind fun _ => even_pure _

end Message

theorem Method.even_wrapped (method : Method) (wrapper context : String) (unreadable : List String) :
    Even (method.wrapped wrapper context unreadable) := by
  have hcomments : Even (method.comments.forM fun text =>
      Resolving.ofExcept (requireReadable unreadable .unreadableText text)) := by
    cases method.comments with
    | none => exact even_pure _
    | some text => exact even_ofExcept _
  unfold wrapped
  refine (even_ofExcept _).bind fun _ => (even_qualified _).bind fun request => ?_
  refine (method.input.even_parametersFor _ _).bind fun parameters => ?_
  refine (method.output.even_parametersFor _ _).bind fun results => hcomments.bind fun _ => ?_
  exact (even_ofExcept _).bind fun _ => even_pure _

theorem Service.even_wrapped (service : Service) (importPath context logger : String) (unreadable : List String) :
    Even (service.wrapped importPath context logger unreadable) := by
  unfold wrapped
  refine (even_qualified _).bind fun client => ?_
  exact (even_mapM (fun method => method.even_wrapped _ _ _) _).bind fun _ => even_pure _

theorem GenerationUnit.even_wrappers (options : Options) (unit : GenerationUnit) (services : List Service)
    (unreadable : List String) : Even (unit.wrappers options services unreadable) := by
  unfold wrappers
  refine (even_member _ _).bind fun context => (even_member _ _).bind fun logger => ?_
  exact even_mapM (fun service => service.even_wrapped _ _ _ _) _

end RpcClients
