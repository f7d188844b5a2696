import RpcClients.Proofs.ScannedText

/-! # Lines of declarations

The line that is noted for a service or a method is one where its name stands. -/

namespace RpcClients.Proto

open RpcClients.Proto.Parser

/-- The name stands on the line. -/
def NamedAt (tokens : List Token) (name : String) (line : Nat) : Prop :=
  ∃ token ∈ tokens, token.kind = .name ∧ name = String.ofList token.text ∧ line = token.start.line

/-- The names of the service and its methods stand on the lines that are noted for them. -/
structure ServiceDecl.Placed (tokens : List Token) (service : ServiceDecl) : Prop where
  named : NamedAt tokens service.name service.line
  rpcs : ∀ rpc ∈ service.rpcs, NamedAt tokens rpc.name rpc.line

theorem NamedAt.mono {tokens more : List Token} {name : String} {line : Nat} (h : NamedAt tokens name line)
    (hmore : tokens ⊆ more) : NamedAt more name line := by
  obtain ⟨token, htoken, hname⟩ := h
  exact ⟨token, hmore htoken, hname⟩

theorem ServiceDecl.Placed.mono {tokens more : List Token} {service : ServiceDecl} (h : service.Placed tokens)
    (hmore : tokens ⊆ more) : service.Placed more :=
  ⟨h.named.mono hmore, fun rpc hrpc => (h.rpcs rpc hrpc).mono hmore⟩

/-! ## Rules -/

variable {α β : Type}

def passing (token : Token) : Keeping where
  holds reader := token ∈ reader.passed
  noted h _ := h
  next h _ _ := List.mem_cons_of_mem _ h

/-- A rule that keeps the tokens that have been passed and whose values are good for them. -/
def Declares (good : List Token → α → Prop) (rule : Parser α) : Prop :=
  ∀ reader after value, rule.run reader = .ok (value, after) → reader.passed ⊆ after.passed ∧ good after.passed value

/-- A rule that keeps the tokens that have been passed. -/
def Passes (rule : Parser α) : Prop := Declares (fun _ _ => True) rule

theorem declares_pure {good : List Token → α → Prop} {value : α} (h : ∀ tokens, good tokens value) :
    Declares good (pure value) := by
  intro reader after given hrun
  cases hrun
  exact ⟨List.Subset.refl _, h _⟩

theorem declares_fail {good : List Token → α → Prop} : Declares good (fail : Parser α) := by
  intro reader after value hrun
  cases hrun

theorem Declares.bind {fine : List Token → α → Prop} {good : List Token → β → Prop} {rule : Parser α}
    {rest : α → Parser β} (hrule : Declares fine rule)
    (hrest : ∀ value tokens, fine tokens value →
      Declares (fun more last => tokens ⊆ more → good more last) (rest value)) :
    Declares good (rule >>= rest) := by
  intro reader after value hrun
  obtain ⟨first, middle, hfirst, hlast⟩ := run_bind_ok_iff.mp hrun
  obtain ⟨hmiddle, hfine⟩ := hrule _ _ _ hfirst
  obtain ⟨hafter, hgood⟩ := hrest first _ hfine _ _ _ hlast
  exact ⟨List.Subset.trans hmiddle hafter, hgood hafter⟩

theorem Declares.imp {fine good : List Token → α → Prop} {rule : Parser α} (h : Declares fine rule)
    (himp : ∀ tokens value, fine tokens value → good tokens value) : Declares good rule :=
  fun reader after value hrun => (h reader after value hrun).imp_right (himp _ _)

theorem Passes.andThen {good : List Token → β → Prop} {rule : Parser α} {rest : α → Parser β} (hrule : Passes rule)
    (hrest : ∀ value, Declares good (rest value)) : Declares good (rule >>= rest) :=
  hrule.bind fun value _ _ => (hrest value).imp fun _ _ h _ => h

theorem passes_of_follows {same : α → α → Prop} {rule : Parser α}
    (h : ∀ pursuit : Pursuit, Follows pursuit (fun _ => True) same rule rule) : Passes rule :=
  fun _ _ _ hrun => ⟨fun token htoken => (passing token).run (h _) htoken hrun, trivial⟩

theorem passes_kind : Passes kind := by
  intro reader after value hrun
  cases hrun
  exact ⟨List.Subset.refl _, trivial⟩

theorem passes_skip (place : Place) : Passes (skip place) := by
  intro reader after value hrun
  cases hrun
  exact ⟨List.subset_cons_self _ _, trivial⟩

theorem passes_remaining : Passes remaining := passes_of_follows fun _ => follows_remaining

theorem passes_takeMark {c : Char} (h : (TokenKind.mark c).isTaken = true) (place : Place) :
    Passes (takeMark c place) :=
  passes_of_follows fun _ => follows_takeMark h place

theorem passes_optionRest : Passes optionRest := passes_of_follows fun _ => follows_optionRest

theorem declares_name (place : Place) :
    Declares (fun tokens token => NamedAt tokens (String.ofList token.text) token.start.line) (take .name place) := by
  intro reader after token hrun
  rw [Parser.run_take] at hrun
  split_ifs at hrun with hkind
  cases hrun
  exact ⟨List.subset_cons_self _ _, reader.token, List.mem_cons_self, hkind, rfl, rfl⟩

/-! ## Services -/

theorem declares_rpcRest : Declares (fun tokens rpc => NamedAt tokens rpc.name rpc.line) rpcRest := by
  unfold rpcRest
  refine (declares_name _).bind fun name tokens hname => ?_
  have hlast (rpc : RpcDecl) (h : rpc.name = String.ofList name.text ∧ rpc.line = name.start.line) :
      Declares (fun more (rpc : RpcDecl) => tokens ⊆ more → NamedAt more rpc.name rpc.line) (pure rpc) := by
    refine declares_pure fun more hmore => ?_
    rw [h.1, h.2]
    exact hname.mono hmore
  refine (passes_of_follows fun _ => follows_streamable _).andThen fun request => ?_
  refine (passes_of_follows fun _ => (follows_take rfl _).discard fun _ => rfl).andThen fun _ => ?_
  refine (passes_of_follows fun _ => follows_streamable _).andThen fun response => ?_
  refine passes_kind.andThen fun kind => ?_
  dsimp only
  split_ifs
  · refine (passes_skip _).andThen fun _ => passes_remaining.andThen fun fuel => ?_
    exact (passes_of_follows fun _ => follows_rpcItems (Nat.le_refl fuel)).andThen fun _ => hlast _ ⟨rfl, rfl⟩
  · exact (passes_takeMark rfl _).andThen fun _ => hlast _ ⟨rfl, rfl⟩

theorem declares_serviceItems (fuel : Nat) :
    Declares (fun tokens rpcs => ∀ rpc ∈ rpcs, NamedAt tokens rpc.name rpc.line) (serviceItems fuel) := by
  induction fuel with
  | zero => exact declares_fail
  | succ fuel ih =>
    rw [serviceItems]
    refine passes_kind.andThen fun kind => ?_
    split
    · exact (passes_skip _).andThen fun _ => declares_pure (by simp)
    · exact (passes_skip _).andThen fun _ => ih
    · refine (passes_skip _).andThen fun _ => ?_
      exact (passes_of_follows fun _ => follows_optionRest.discard fun _ => rfl).andThen fun _ => ih
    · refine (passes_skip _).andThen fun _ => declares_rpcRest.bind fun rpc tokens hrpc => ?_
      refine ih.bind fun rest more hrest => declares_pure fun all hmore htokens => ?_
      exact List.forall_mem_cons.mpr ⟨hrpc.mono htokens, fun rpc hmem => (hrest rpc hmem).mono hmore⟩
    · exact declares_fail

theorem declares_serviceRest : Declares (fun tokens service => service.Placed tokens) serviceRest := by
  unfold serviceRest
  refine (declares_name _).bind fun name tokens hname => ?_
  refine (passes_takeMark rfl _).andThen fun _ => passes_remaining.andThen fun fuel => ?_
  refine (declares_serviceItems fuel).bind fun rpcs more hrpcs => declares_pure fun all hmore htokens => ?_
  exact ⟨hname.mono htokens, fun rpc hrpc => (hrpcs rpc hrpc).mono hmore⟩

/-! ## Files -/

theorem declares_importRest : Declares (fun _ statement => ∀ service, statement ≠ .service service) importRest := by
  unfold importRest
  refine passes_kind.andThen fun kind => ?_
  have hrest (kind : ImportKind) : Declares (fun _ statement => ∀ service, statement ≠ .service service)
      (do let path ← quotedText; takeMark ';' .file; return Statement.importFile kind path) := by
    refine (passes_of_follows fun _ => follows_quotedText _).andThen fun path => ?_
    exact (passes_takeMark rfl _).andThen fun _ => declares_pure fun _ _ => Statement.noConfusion
  dsimp only
  split
  · exact (passes_skip _).andThen fun _ => hrest _
  · exact (passes_skip _).andThen fun _ => hrest _
  · exact hrest _

theorem declares_statements (fuel : Nat) :
    Declares (fun tokens statements => ∀ service, .service service ∈ statements → service.Placed tokens)
      (statements fuel) := by
  induction fuel with
  | zero => exact declares_fail
  | succ fuel ih =>
    -- a statement that is no service, and the statements behind it
    have hrest (statement : Statement) (h : ∀ service, statement ≠ .service service) :
        Declares (fun tokens statements => ∀ service, .service service ∈ statements → service.Placed tokens)
          (do return statement :: (← statements fuel)) := by
      refine ih.bind fun rest tokens hrest => declares_pure fun more hmore service hservice => ?_
      rcases List.mem_cons.mp hservice with heq | hservice
      · exact absurd heq.symm (h service)
      · exact (hrest service hservice).mono hmore
    rw [statements]
    refine passes_kind.andThen fun kind => ?_
    split
    · exact declares_pure (by simp)
    · exact (passes_skip _).andThen fun _ => ih
    · refine (passes_skip _).andThen fun _ => (passes_takeMark rfl _).andThen fun _ => ?_
      refine (passes_of_follows fun _ => follows_quotedText _).andThen fun name => ?_
      exact (passes_takeMark rfl _).andThen fun _ => hrest _ fun _ => Statement.noConfusion
    · refine (passes_skip _).andThen fun _ => (passes_of_follows fun _ => follows_dottedName).andThen fun name => ?_
      exact (passes_takeMark rfl _).andThen fun _ => hrest _ fun _ => Statement.noConfusion
    · refine (passes_skip _).andThen fun _ => declares_importRest.bind fun statement _ hstatement => ?_
      exact (hrest statement hstatement).imp fun _ _ h _ => h
    · refine (passes_skip _).andThen fun _ => passes_optionRest.andThen fun value => ?_
      cases value with
      | none => exact ih
      | some value => exact hrest _ fun _ => Statement.noConfusion
    · refine (passes_skip _).andThen fun _ => (passes_of_follows fun _ => follows_takeName _).andThen fun name => ?_
      refine (passes_takeMark rfl _).andThen fun _ => passes_remaining.andThen fun fuel => ?_
      refine (passes_of_follows fun _ => follows_messageItems (Nat.le_refl fuel) 1).andThen fun items => ?_
      exact hrest _ fun _ => Statement.noConfusion
    · refine (passes_skip _).andThen fun _ => (passes_of_follows fun _ => follows_enumRest).andThen fun enum => ?_
      exact hrest _ fun _ => Statement.noConfusion
    · refine (passes_skip _).andThen fun _ => declares_serviceRest.bind fun service tokens hservice => ?_
      refine ih.bind fun rest more hrest => declares_pure fun all hmore htokens other hother => ?_
      rcases List.mem_cons.mp hother with heq | hother
      · cases heq
        exact hservice.mono htokens
      · exact (hrest other hother).mono hmore
    · exact (passes_skip _).andThen fun _ => (passes_of_follows fun _ => follows_extendRest).andThen fun _ => ih
    · exact declares_fail

theorem SourceTree.mem_services {tree : SourceTree} {service : ServiceDecl} :
    service ∈ tree.services ↔ .service service ∈ tree.statements := by
  unfold SourceTree.services
  rw [List.mem_filterMap]
  constructor
  · rintro ⟨statement, hstatement, hservice⟩
    cases statement with
    | service other =>
      cases hservice
      exact hstatement
    | _ => cases hservice
  · exact fun h => ⟨_, h, rfl⟩

theorem services_placed {text : List Char} {tree : SourceTree} (h : SourceTree.ofText text = .ok tree) :
    ∀ service ∈ tree.services, service.Placed tree.tokens := by
  intro service hservice
  rw [SourceTree.mem_services] at hservice
  unfold SourceTree.ofText at h
  obtain ⟨⟨found, reader⟩, hrun, htree⟩ := except_bind_ok_iff.mp h
  obtain rfl := except_pure_ok_iff.mp htree
  have hplaced := (declares_statements _ _ _ _ hrun).2 service hservice
  exact hplaced.mono fun token htoken => List.mem_reverse.mpr htoken

end RpcClients.Proto
