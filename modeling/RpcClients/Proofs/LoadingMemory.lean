import RpcClients.Proofs.LoadingSteps

/-! # What loading remembers

Go packages are remembered by the names of files, messages by their full names. A step that succeeded gives the
same again as long as nothing is forgotten. So a message that is remembered is the one that would be loaded, and
files are loaded as they would be without remembering messages. -/

namespace RpcClients.Schema

namespace Loading

variable {α β : Type} {table : SymbolTable}

/-! ## Packages -/

/-- Go packages by the names of their files, as they are remembered. -/
abbrev Packages := List (String × GoPackage)

/-- The Go package that the option of a file gives, if there is no other for its name. -/
def ownPackage (table : SymbolTable) (file : FileDescriptor) : Except Failure GoPackage :=
  ((goPackage table file).run []).map Prod.fst

theorem run_goPackage_of_some {file : FileDescriptor} {known : Packages} {package : GoPackage}
    (h : known.lookup file.name = some package) : (goPackage table file).run known = .ok (package, known) := by
  unfold goPackage
  simp only [StateT.run_bind, StateT.run_get, pure_bind, h]
  rfl

theorem run_goPackage_of_none {file : FileDescriptor} {known : Packages} (h : known.lookup file.name = none) :
    (goPackage table file).run known =
      (ownPackage table file).map fun package => (package, (file.name, package) :: known) := by
  unfold ownPackage goPackage packageOf require
  simp only [StateT.run_bind, StateT.run_get, pure_bind, h, List.lookup_nil]
  split
  · rfl
  · cases requireReadable table.unreadable .unreadableText (file.options.goPackage.getD "") <;> rfl

/-- Whatever is known in the first memory is known alike in the second. -/
def Grows (before after : Packages) : Prop :=
  ∀ name package, before.lookup name = some package → after.lookup name = some package

theorem grows_refl (known : Packages) : Grows known known := fun _ _ h => h

theorem Grows.trans {before middle after : Packages} (h : Grows before middle) (h' : Grows middle after) :
    Grows before after := fun name package hknown => h' name package (h name package hknown)

theorem grows_cons {known : Packages} {name : String} (h : known.lookup name = none) (package : GoPackage) :
    Grows known ((name, package) :: known) := by
  intro other found hfound
  have hne : other ≠ name := by
    rintro rfl
    rw [h] at hfound
    cases hfound
  rw [List.lookup_cons, beq_eq_false_iff_ne.mpr hne]
  exact hfound

theorem known_of_goPackage {file : FileDescriptor} {before after : Packages} {package : GoPackage}
    (h : (goPackage table file).run before = .ok (package, after)) :
    after.lookup file.name = some package ∧ Grows before after := by
  cases hknown : before.lookup file.name with
  | some found =>
    rw [run_goPackage_of_some hknown] at h
    cases h
    exact ⟨hknown, grows_refl _⟩
  | none =>
    rw [run_goPackage_of_none hknown] at h
    cases hown : ownPackage table file with
    | error failure =>
      rw [hown] at h
      cases h
    | ok own =>
      rw [hown] at h
      cases h
      exact ⟨List.lookup_cons_self, grows_cons hknown _⟩

/-! ## Steps that succeeded -/

/-- The files that may be asked for have the packages of the first memory in the second one, or they are not known
there and give these packages themselves. -/
def Admits (table : SymbolTable) (asked : FileDescriptor → Prop) (final other : Packages) : Prop :=
  ∀ file, asked file → ∀ package, final.lookup file.name = some package →
    other.lookup file.name = some package ∨ other.lookup file.name = none ∧ ownPackage table file = .ok package

theorem Admits.cons {asked : FileDescriptor → Prop} {final other : Packages} (h : Admits table asked final other)
    {name : String} {package : GoPackage} (hfinal : final.lookup name = some package) :
    Admits table asked final ((name, package) :: other) := by
  intro file hfile found hfound
  rw [List.lookup_cons]
  by_cases hname : file.name = name
  · rw [hname, hfinal] at hfound
    rw [beq_iff_eq.mpr hname]
    exact Or.inl hfound
  · rw [beq_eq_false_iff_ne.mpr hname]
    exact h file hfile found hfound

/-- The step forgets nothing. If it succeeds, it succeeds with the same value in every memory that admits the
packages it has left, and remembers nothing new where they are known already. -/
def Repeats (table : SymbolTable) (asked : FileDescriptor → Prop) (step : Loading α) : Prop :=
  ∀ before value after, step.run before = .ok (value, after) → Grows before after ∧
    ∀ final other, Grows after final → Admits table asked final other →
      ∃ next, step.run other = .ok (value, next) ∧ Admits table asked final next ∧ (Grows final other → next = other)

variable {asked : FileDescriptor → Prop}

theorem repeats_pure (value : α) : Repeats table asked (pure value) := by
  intro before given after hrun
  cases hrun
  exact ⟨grows_refl _, fun final other _ hadmits => ⟨other, rfl, hadmits, fun _ => rfl⟩⟩

theorem Repeats.bind {step : Loading α} {rest : α → Loading β} (hstep : Repeats table asked step)
    (hrest : ∀ value, Loads step value → Repeats table asked (rest value)) : Repeats table asked (step >>= rest) := by
  intro before given after hrun
  rw [StateT.run_bind] at hrun
  obtain ⟨⟨value, middle⟩, hvalue, hgiven⟩ := except_bind_ok_iff.mp hrun
  obtain ⟨hgrows, hagain⟩ := hstep _ _ _ hvalue
  obtain ⟨hgrows', hagain'⟩ := hrest value ⟨_, _, hvalue⟩ _ _ _ hgiven
  refine ⟨hgrows.trans hgrows', fun final other hfinal hadmits => ?_⟩
  obtain ⟨next, hnext, hadmits, hsame⟩ := hagain final other (hgrows'.trans hfinal) hadmits
  obtain ⟨last, hlast, hadmits, hsame'⟩ := hagain' final next hfinal hadmits
  refine ⟨last, ?_, hadmits, fun hknown => ?_⟩
  · rw [StateT.run_bind, hnext]
    exact hlast
  · obtain rfl := hsame hknown
    exact hsame' hknown

theorem repeats_goPackage {file : FileDescriptor} (h : asked file) : Repeats table asked (goPackage table file) := by
  intro before package after hrun
  obtain ⟨hknown, hgrows⟩ := known_of_goPackage hrun
  refine ⟨hgrows, fun final other hfinal hadmits => ?_⟩
  have hpackage := hfinal _ _ hknown
  rcases hadmits file h package hpackage with hother | ⟨hother, hown⟩
  · exact ⟨other, run_goPackage_of_some hother, hadmits, fun _ => rfl⟩
  · refine ⟨(file.name, package) :: other, ?_, hadmits.cons hpackage, fun hall => ?_⟩
    · rw [run_goPackage_of_none hother, hown]
      rfl
    · rw [hall _ _ hpackage] at hother
      cases hother

theorem closed_repeats (h : ∀ symbol ∈ table.symbols, asked symbol.file) : Closed table (Repeats table asked) where
  value := repeats_pure
  failure failure := by
    intro before value after hrun
    cases hrun
  andThen := Repeats.bind
  package symbol hsymbol := repeats_goPackage (h symbol hsymbol)

theorem closed_repeats_any : Closed table (Repeats table fun _ => True) := closed_repeats fun _ _ => trivial

/-! ## Steps for which all packages are known -/

section

variable {known : Packages}

/-- With these packages the step loads the value and asks for no other package. -/
def LoadsWith (known : Packages) (step : Loading α) (value : α) : Prop := step.run known = .ok (value, known)

theorem LoadsWith.loads {step : Loading α} {value : α} (h : LoadsWith known step value) : Loads step value :=
  ⟨known, known, h⟩

theorem LoadsWith.unique {step : Loading α} {value given : α} (h : LoadsWith known step value)
    (h' : LoadsWith known step given) : value = given := by
  unfold LoadsWith at h h'
  rw [h] at h'
  cases h'
  rfl

theorem loadsWith_pure (value : α) : LoadsWith known (pure value) value := rfl

theorem LoadsWith.bind {step : Loading α} {rest : α → Loading β} {value : α} {given : β}
    (hstep : LoadsWith known step value) (hrest : LoadsWith known (rest value) given) :
    LoadsWith known (step >>= rest) given := by
  unfold LoadsWith at hstep
  rw [LoadsWith, StateT.run_bind, hstep]
  exact hrest

theorem loadsWith_mapM {step : α → Loading β} {items : List α} {values : List β}
    (h : List.Forall₂ (fun item value => LoadsWith known (step item) value) items values) :
    LoadsWith known (items.mapM step) values := by
  induction h with
  | nil => exact loadsWith_pure []
  | cons hfirst _ ih =>
    rw [List.mapM_cons]
    exact hfirst.bind (ih.bind (loadsWith_pure _))

/-! ## What holds in the end -/

/-- The step forgets nothing, and what it loads has the property with all packages that may be known in the end. -/
def Ensures (property : Packages → α → Prop) (step : Loading α) : Prop :=
  ∀ before value after, step.run before = .ok (value, after) →
    Grows before after ∧ ∀ final, Grows after final → property final value

theorem LoadsWith.ensured {property : Packages → α → Prop} {step : Loading α} {value : α}
    (hvalue : LoadsWith known step value) (h : Ensures property step) : property known value :=
  (h _ _ _ hvalue).2 known (grows_refl known)

theorem Repeats.ensures {step : Loading α} (h : Repeats table asked step) :
    Ensures (fun final value => LoadsWith final step value) step := by
  intro before value after hrun
  obtain ⟨hgrows, hagain⟩ := h before value after hrun
  refine ⟨hgrows, fun final hfinal => ?_⟩
  obtain ⟨next, hnext, _, hsame⟩ := hagain final final hfinal fun _ _ _ hfound => Or.inl hfound
  rwa [hsame (grows_refl final)] at hnext

theorem ensures_pure {property : Packages → α → Prop} {value : α} (h : ∀ final, property final value) :
    Ensures property (pure value) := by
  intro before given after hrun
  cases hrun
  exact ⟨grows_refl _, fun final _ => h final⟩

theorem Ensures.bind {property : Packages → α → Prop} {next : Packages → β → Prop} {step : Loading α}
    {rest : α → Loading β} (hstep : Ensures property step)
    (hrest : ∀ value, Loads step value →
      Ensures (fun final given => property final value → next final given) (rest value)) :
    Ensures next (step >>= rest) := by
  intro before given after hrun
  rw [StateT.run_bind] at hrun
  obtain ⟨⟨value, middle⟩, hvalue, hgiven⟩ := except_bind_ok_iff.mp hrun
  obtain ⟨hgrows, hproperty⟩ := hstep _ _ _ hvalue
  obtain ⟨hgrows', hnext⟩ := hrest value ⟨_, _, hvalue⟩ _ _ _ hgiven
  exact ⟨hgrows.trans hgrows', fun final hfinal => hnext final hfinal (hproperty final (hgrows'.trans hfinal))⟩

theorem ensures_mapM {property : α → Packages → β → Prop} {step : α → Loading β} {items : List α}
    (h : ∀ item ∈ items, Ensures (property item) (step item)) :
    Ensures (fun final values => List.Forall₂ (fun item value => property item final value) items values)
      (items.mapM step) := by
  induction items with
  | nil => exact ensures_pure fun _ => .nil
  | cons item rest ih =>
    rw [List.forall_mem_cons] at h
    rw [List.mapM_cons]
    refine h.1.bind fun value _ => (ih h.2).bind fun values _ => ensures_pure fun final => ?_
    intro hvalues hvalue
    exact .cons hvalue hvalues

end

/-! ## Messages -/

/-- A message that was loaded is loaded alike from then on, and nothing new is remembered for it. -/
theorem run_message_again {symbol : Symbol} (hsymbol : symbol ∈ table.symbols) {before after later : Packages}
    {loaded : Message} (h : (message table symbol).run before = .ok (loaded, after)) (hlater : Grows after later) :
    (message table symbol).run later = .ok (loaded, later) := by
  obtain ⟨next, hnext, _, hsame⟩ :=
    (closed_repeats_any.message hsymbol _ _ _ h).2 later later hlater fun _ _ _ hfound => Or.inl hfound
  rwa [hsame (grows_refl _)] at hnext

/-- The messages that are remembered are those that would be loaded again. -/
def Settled (table : SymbolTable) (messages : List (String × Message)) (packages : Packages) : Prop :=
  ∀ name known, messages.lookup name = some known →
    ∃ symbol, findSymbol? table.symbols name = some symbol ∧
      (message table symbol).run packages = .ok (known, packages)

theorem Settled.mono {messages : List (String × Message)} {packages later : Packages}
    (h : Settled table messages packages) (hlater : Grows packages later) : Settled table messages later := by
  intro name known hknown
  obtain ⟨symbol, hsymbol, hrun⟩ := h name known hknown
  exact ⟨symbol, hsymbol, run_message_again (List.mem_of_find?_eq_some hsymbol) hrun hlater⟩

/-- The step that remembers messages does what the other one does without them. -/
def Agrees (table : SymbolTable) (step : Remembering α) (plain : Loading α) : Prop :=
  ∀ messages packages, Settled table messages packages → ∃ next : α × Packages → List (String × Message),
    (step.run messages).run packages = (plain.run packages).map (fun result => ((result.1, next result), result.2)) ∧
      ∀ result, plain.run packages = .ok result → Settled table (next result) result.2

theorem agrees_pure (value : α) : Agrees table (pure value) (pure value) := by
  intro messages packages hsettled
  refine ⟨fun _ => messages, rfl, fun result hresult => ?_⟩
  cases hresult
  exact hsettled

theorem Agrees.bind {step : Remembering α} {plain : Loading α} {rest : α → Remembering β} {plainRest : α → Loading β}
    (hstep : Agrees table step plain)
    (hrest : ∀ value, Loads plain value → Agrees table (rest value) (plainRest value)) :
    Agrees table (step >>= rest) (plain >>= plainRest) := by
  intro messages packages hsettled
  obtain ⟨next, hrun, hnext⟩ := hstep messages packages hsettled
  rw [StateT.run_bind, StateT.run_bind, StateT.run_bind, hrun]
  cases hplain : plain.run packages with
  | error failure => exact ⟨fun _ => [], rfl, fun _ h => by cases h⟩
  | ok result => exact hrest result.1 ⟨_, _, hplain⟩ _ _ (hnext result hplain)

theorem run_lift (step : Loading α) (messages : List (String × Message)) (packages : Packages) :
    ((liftM step : Remembering α).run messages).run packages =
      (step.run packages).map fun result => ((result.1, messages), result.2) := by
  change (step >>= fun value => pure (value, messages)).run packages = _
  rw [StateT.run_bind]
  cases step.run packages <;> rfl

theorem agrees_lift {step : Loading α} (h : Repeats table (fun _ => True) step) : Agrees table (liftM step) step :=
  fun messages packages hsettled =>
    ⟨fun _ => messages, run_lift step messages packages, fun _ hresult => hsettled.mono (h _ _ _ hresult).1⟩

theorem agrees_mapM {step : α → Remembering β} {plain : α → Loading β} {items : List α}
    (h : ∀ item ∈ items, Agrees table (step item) (plain item)) :
    Agrees table (items.mapM step) (items.mapM plain) := by
  induction items with
  | nil => exact agrees_pure []
  | cons item rest ih =>
    rw [List.forall_mem_cons] at h
    rw [List.mapM_cons, List.mapM_cons]
    exact h.1.bind fun value _ => (ih h.2).bind fun values _ => agrees_pure (value :: values)

theorem agrees_remembered {symbol : Symbol} (h : findSymbol? table.symbols symbol.fullName = some symbol) :
    Agrees table (remembered table symbol) (message table symbol) := by
  intro messages packages hsettled
  unfold remembered
  simp only [StateT.run_bind, StateT.run_get, pure_bind]
  cases hknown : messages.lookup symbol.fullName with
  | some known =>
    obtain ⟨found, hfound, hrun⟩ := hsettled _ _ hknown
    obtain rfl : symbol = found := Option.some.inj (h.symm.trans hfound)
    rw [hrun]
    refine ⟨fun _ => messages, rfl, fun result hresult => ?_⟩
    cases hresult
    exact hsettled
  | none =>
    have hsymbol := List.mem_of_find?_eq_some h
    refine ⟨fun result => (symbol.fullName, result.1) :: messages, ?_, fun result hrun => ?_⟩
    · simp only [StateT.run_bind, run_lift]
      cases (message table symbol).run packages <;> rfl
    · have hgrows := (closed_repeats_any.message hsymbol _ _ _ hrun).1
      intro name known hlookup
      rw [List.lookup_cons] at hlookup
      by_cases hname : name = symbol.fullName
      · rw [beq_iff_eq.mpr hname] at hlookup
        cases hlookup
        rw [hname]
        exact ⟨symbol, h, run_message_again hsymbol hrun (grows_refl _)⟩
      · rw [beq_eq_false_iff_ne.mpr hname] at hlookup
        exact hsettled.mono hgrows name known hlookup

/-! ## Files -/

theorem agrees_method (file : FileDescriptor) (service : String) (serviceIndex : Nat)
    (descriptor : MethodDescriptor × Nat) :
    Agrees table (method table (remembered table) file service serviceIndex descriptor)
      (method table (message table) file service serviceIndex descriptor) := by
  refine (agrees_lift (closed_repeats_any.goName _)).bind fun _ _ => ?_
  refine (agrees_lift (closed_repeats_any.resolve _ _ _)).bind fun input hinput => ?_
  refine (agrees_remembered (findSymbol?_of_resolve? (resolve?_of_loads hinput))).bind fun _ _ => ?_
  refine (agrees_lift (closed_repeats_any.resolve _ _ _)).bind fun output houtput => ?_
  refine (agrees_remembered (findSymbol?_of_resolve? (resolve?_of_loads houtput))).bind fun _ _ => ?_
  exact agrees_pure _

theorem agrees_file (toGenerate : List String) (descriptor : FileDescriptor) :
    Agrees table (file table (remembered table) toGenerate descriptor)
      (file table (message table) toGenerate descriptor) := by
  have hservice (service : ServiceDescriptor × Nat) : Agrees table
      (Loading.service table (remembered table) descriptor service)
      (Loading.service table (message table) descriptor service) := by
    refine (agrees_mapM fun method _ => agrees_method _ _ _ method).bind fun _ _ => ?_
    exact (agrees_lift (closed_repeats_any.goName _)).bind fun _ _ => agrees_pure _
  unfold file
  split_ifs
  · refine (agrees_lift (repeats_goPackage trivial)).bind fun _ _ => ?_
    exact (agrees_mapM fun service _ => hservice service).bind fun _ _ => agrees_pure _
  · exact (agrees_lift (closed_repeats_any.importedPackage descriptor)).bind fun _ _ => agrees_pure _

end Loading

/-- The files of a request, with each message loaded afresh wherever it is used. -/
def loadAfresh (files : List FileDescriptor) (toGenerate unreadable : List String) : Except Failure (List File) := do
  match toGenerate.find? fun name => !files.any (·.name = name) with
  | some name => .error (.descriptor (.notInRequest name))
  | none =>
    let table ← SymbolTable.ofFiles unreadable files
    let (loaded, _) ← (files.mapM (Loading.file table (Loading.message table) toGenerate)).run []
    return loaded

theorem load_eq_loadAfresh (files : List FileDescriptor) (toGenerate unreadable : List String) :
    load files toGenerate unreadable = loadAfresh files toGenerate unreadable := by
  unfold load loadAfresh
  cases toGenerate.find? fun name => !files.any (·.name = name) with
  | some name => rfl
  | none =>
    cases SymbolTable.ofFiles unreadable files with
    | error failure => rfl
    | ok table =>
      have hagrees : Loading.Agrees table (files.mapM (Loading.file table (Loading.remembered table) toGenerate)) _ :=
        Loading.agrees_mapM fun file _ => Loading.agrees_file toGenerate file
      obtain ⟨next, hrun, _⟩ := hagrees [] [] fun name known h => by cases h
      dsimp only [bind, Except.bind]
      rw [hrun]
      cases (files.mapM (Loading.file table (Loading.message table) toGenerate)).run [] <;> rfl

/-- When files are loaded: the files to generate are among them, their symbols differ, and each can be
loaded with these symbols. -/
theorem load_ok_iff {descriptors : List FileDescriptor} {toGenerate unreadable : List String} {files : List File} :
    load descriptors toGenerate unreadable = .ok files ↔
      (toGenerate.find? fun name => !descriptors.any (·.name = name)) = none ∧
      ∃ symbols after, addSymbols unreadable [] (descriptors.flatMap FileDescriptor.symbols) = .ok symbols ∧
        (descriptors.mapM
          (Loading.file { symbols, unreadable } (Loading.message { symbols, unreadable }) toGenerate)).run [] =
          .ok (files, after) := by
  rw [load_eq_loadAfresh]
  unfold loadAfresh SymbolTable.ofFiles
  cases toGenerate.find? fun name => !descriptors.any (·.name = name) with
  | some name => simp
  | none =>
    simp only [except_bind_ok_iff, except_pure_ok_iff, true_and]
    constructor
    · rintro ⟨_, ⟨symbols, hsymbols, rfl⟩, ⟨loaded, after⟩, hrun, rfl⟩
      exact ⟨symbols, after, hsymbols, hrun⟩
    · rintro ⟨symbols, after, hsymbols, hrun⟩
      exact ⟨_, ⟨symbols, hsymbols, rfl⟩, ⟨files, after⟩, hrun, rfl⟩

end RpcClients.Schema
