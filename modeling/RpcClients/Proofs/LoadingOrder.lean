import RpcClients.Proofs.LoadingMemory

/-! # The order of descriptors

Symbols are collected and Go packages and messages are remembered in the order in which files are loaded. If the
files have different names, none of that shows in what is loaded: in another order each file is loaded as before. -/

namespace RpcClients.Schema

/-! ## Symbols -/

theorem file_of_mem_enum {file : FileDescriptor} {scope lead : String} {enums : List EnumDescriptor} {symbol : Symbol}
    (h : symbol ∈ enums.map (EnumDescriptor.symbol file scope lead)) : symbol.file = file := by
  obtain ⟨enum, _, rfl⟩ := List.mem_map.mp h
  rfl

mutual

theorem file_of_mem_messageSymbols {file : FileDescriptor} {scope lead : String} {symbol : Symbol} :
    (message : MessageDescriptor) → symbol ∈ messageSymbols file scope lead message → symbol.file = file
  | ⟨name, fields, nested, enums, oneofs, mapEntry⟩, h => by
    rw [messageSymbols, List.mem_cons, List.mem_append] at h
    rcases h with rfl | h | h
    · rfl
    · exact file_of_mem_nestedSymbols nested h
    · exact file_of_mem_enum h

theorem file_of_mem_nestedSymbols {file : FileDescriptor} {scope lead : String} {symbol : Symbol} :
    (messages : List MessageDescriptor) → symbol ∈ nestedSymbols file scope lead messages → symbol.file = file
  | [], h => by simp [nestedSymbols] at h
  | message :: rest, h => by
    rw [nestedSymbols, List.mem_append] at h
    rcases h with h | h
    · exact file_of_mem_messageSymbols message h
    · exact file_of_mem_nestedSymbols rest h

end

theorem file_of_mem_symbols {file : FileDescriptor} {symbol : Symbol} (h : symbol ∈ file.symbols) :
    symbol.file = file := by
  rw [FileDescriptor.symbols, List.mem_append] at h
  rcases h with h | h
  · exact file_of_mem_nestedSymbols _ h
  · exact file_of_mem_enum h

theorem findSymbol?_eq_some_iff {symbols : List Symbol} (distinct : (symbols.map (·.fullName)).Nodup)
    {fullName : String} {symbol : Symbol} :
    findSymbol? symbols fullName = some symbol ↔ symbol ∈ symbols ∧ symbol.fullName = fullName := by
  unfold findSymbol?
  constructor
  · intro h
    exact ⟨List.mem_of_find?_eq_some h, by simpa using List.find?_some h⟩
  · rintro ⟨hsymbol, rfl⟩
    obtain ⟨found, hfound⟩ : ∃ found, symbols.find? (·.fullName = symbol.fullName) = some found := by
      rw [← Option.isSome_iff_exists, List.find?_isSome]
      exact ⟨symbol, hsymbol, by simp⟩
    have hname : found.fullName = symbol.fullName := by simpa using List.find?_some hfound
    rw [hfound, List.inj_on_of_nodup_map distinct (List.mem_of_find?_eq_some hfound) hsymbol hname]

section Order

variable {symbols symbols' : List Symbol} (order : symbols.Perm symbols')

include order

theorem findSymbol?_perm (distinct : (symbols.map (·.fullName)).Nodup) (fullName : String) :
    findSymbol? symbols fullName = findSymbol? symbols' fullName := by
  have distinct' : (symbols'.map (·.fullName)).Nodup := (order.map _).nodup_iff.mp distinct
  ext symbol
  rw [findSymbol?_eq_some_iff distinct, findSymbol?_eq_some_iff distinct', order.mem_iff]

theorem resolve?_perm (distinct : (symbols.map (·.fullName)).Nodup) : resolve? symbols = resolve? symbols' := by
  have hknown : isKnown symbols = isKnown symbols' := by
    funext name
    exact order.any_eq
  have hfound : findSymbol? symbols = findSymbol? symbols' := funext fun name => findSymbol?_perm order distinct name
  funext scope typeName
  unfold resolve?
  rw [hknown, hfound]

end Order

namespace Loading

variable {α β : Type} {table : SymbolTable} {asked : FileDescriptor → Prop}

theorem file_congr {symbols symbols' : List Symbol} (h : resolve? symbols = resolve? symbols')
    (toGenerate unreadable : List String) :
    file (m := Loading) { symbols, unreadable } (message { symbols, unreadable }) toGenerate =
      file { symbols := symbols', unreadable } (message { symbols := symbols', unreadable }) toGenerate := by
  unfold file service method message field mapTypes fieldType resolve
  simp only [h]
  rfl

/-! ## Packages -/

/-- All packages are those that files which may be asked for give themselves. -/
def Owned (table : SymbolTable) (asked : FileDescriptor → Prop) (packages : Packages) : Prop :=
  ∀ name package, packages.lookup name = some package →
    ∃ file, asked file ∧ file.name = name ∧ ownPackage table file = .ok package

/-- The step leaves packages that files give themselves. -/
def KeepsOwned (table : SymbolTable) (asked : FileDescriptor → Prop) (step : Loading α) : Prop :=
  ∀ before value after, step.run before = .ok (value, after) → Owned table asked before → Owned table asked after

theorem keepsOwned_goPackage {file : FileDescriptor} (h : asked file) :
    KeepsOwned table asked (goPackage table file) := by
  intro before package after hrun howned
  cases hknown : before.lookup file.name with
  | some found =>
    rw [run_goPackage_of_some hknown] at hrun
    cases hrun
    exact howned
  | none =>
    rw [run_goPackage_of_none hknown] at hrun
    cases hown : ownPackage table file with
    | error failure =>
      rw [hown] at hrun
      cases hrun
    | ok own =>
      rw [hown] at hrun
      cases hrun
      intro name found hfound
      rw [List.lookup_cons] at hfound
      by_cases hname : name = file.name
      · rw [beq_iff_eq.mpr hname] at hfound
        cases hfound
        exact ⟨file, h, hname.symm, hown⟩
      · rw [beq_eq_false_iff_ne.mpr hname] at hfound
        exact howned name found hfound

theorem closed_keepsOwned (h : ∀ symbol ∈ table.symbols, asked symbol.file) :
    Closed table (KeepsOwned table asked) where
  value value := by
    intro before given after hrun howned
    cases hrun
    exact howned
  failure failure := by
    intro before given after hrun
    cases hrun
  andThen hstep hrest := by
    intro before given after hrun howned
    rw [StateT.run_bind] at hrun
    obtain ⟨⟨value, middle⟩, hvalue, hgiven⟩ := except_bind_ok_iff.mp hrun
    exact hrest value ⟨_, _, hvalue⟩ _ _ _ hgiven (hstep _ _ _ hvalue howned)
  package symbol hsymbol := keepsOwned_goPackage (h symbol hsymbol)

theorem Owned.admits {packages : Packages} (h : Owned table asked packages)
    (distinct : ∀ file other, asked file → asked other → file.name = other.name → file = other) :
    Admits table asked packages [] := by
  intro file hfile package hpackage
  obtain ⟨owner, howner, hname, hown⟩ := h _ _ hpackage
  rw [distinct owner file howner hfile hname] at hown
  exact Or.inr ⟨rfl, hown⟩

/-! ## Runs -/

theorem mapM_again {step : α → Loading β} {items : List α} {given : α → β} {final other : Packages}
    (hsteps : ∀ item ∈ items, Repeats table asked (step item))
    (hgiven : ∀ item ∈ items, LoadsWith final (step item) (given item))
    (hadmits : Admits table asked final other) :
    ∃ next, (items.mapM step).run other = .ok (items.map given, next) := by
  induction items generalizing other with
  | nil => exact ⟨other, rfl⟩
  | cons item rest ih =>
    rw [List.forall_mem_cons] at hsteps hgiven
    obtain ⟨hitem, hothers⟩ := hgiven
    obtain ⟨next, hnext, hadmits, _⟩ := (hsteps.1 _ _ _ hitem).2 final other (grows_refl final) hadmits
    obtain ⟨last, hlast⟩ := ih hsteps.2 hothers hadmits
    refine ⟨last, ?_⟩
    rw [List.mapM_cons, StateT.run_bind, hnext]
    change ((rest.mapM step >>= fun values => pure (given item :: values)).run next) = _
    rw [StateT.run_bind, hlast]
    rfl

/-- The file that a step gives where these packages are known, or a blank one. -/
def fileIn (packages : Packages) (step : Loading File) : File :=
  (step.run packages).toOption.elim { name := "", package := "", importPath := "", packageName := "" } Prod.fst

theorem LoadsWith.eq_fileIn {step : Loading File} {final : Packages} {loaded : File}
    (h : LoadsWith final step loaded) : loaded = fileIn final step := by
  unfold LoadsWith at h
  rw [fileIn, h]
  rfl

theorem mapM_file_perm {descriptors descriptors' : List FileDescriptor} (order : descriptors.Perm descriptors')
    (distinct : (descriptors.map (·.name)).Nodup) (hasked : ∀ symbol ∈ table.symbols, symbol.file ∈ descriptors)
    {toGenerate : List String} {files : List File} {final : Packages}
    (h : (descriptors.mapM (file table (message table) toGenerate)).run [] = .ok (files, final)) :
    ∃ (loaded : FileDescriptor → File) (next : Packages), files = descriptors.map loaded ∧
      (descriptors'.mapM (file table (message table) toGenerate)).run [] = .ok (descriptors'.map loaded, next) := by
  have closed : Closed table (Repeats table (· ∈ descriptors)) := closed_repeats hasked
  have hsteps : ∀ file ∈ descriptors,
      Repeats table (· ∈ descriptors) (Loading.file table (message table) toGenerate file) :=
    fun file hfile => closed.file toGenerate (repeats_goPackage hfile)
  obtain ⟨_, hruns⟩ := ensures_mapM (fun file hfile => (hsteps file hfile).ensures) _ _ _ h
  have hruns := hruns final (grows_refl final)
  have howned : Owned table (· ∈ descriptors) final := by
    have keeps : Closed table (KeepsOwned table (· ∈ descriptors)) := closed_keepsOwned hasked
    refine keeps.mapM (fun file hfile => keeps.file toGenerate (keepsOwned_goPackage hfile)) _ _ _ h ?_
    intro name package hpackage
    cases hpackage
  have hadmits := howned.admits fun file other hfile hother => List.inj_on_of_nodup_map distinct hfile hother
  let loaded (file : FileDescriptor) : File := fileIn final (Loading.file table (message table) toGenerate file)
  have hloaded : List.Forall₂ (fun descriptor file => loaded descriptor = file) descriptors files :=
    hruns.imp fun _ _ hrun => hrun.eq_fileIn.symm
  have hfiles : files = descriptors.map loaded := by
    rw [← List.forall₂_map_left_iff, List.forall₂_eq_eq_eq] at hloaded
    exact hloaded.symm
  have hgiven : ∀ file ∈ descriptors',
      LoadsWith final (Loading.file table (message table) toGenerate file) (loaded file) := by
    intro file hfile
    obtain ⟨given, _, hrun⟩ := exists_of_forall₂_left hruns (order.mem_iff.mpr hfile)
    rwa [hrun.eq_fileIn] at hrun
  obtain ⟨next, hnext⟩ := mapM_again (fun file hfile => hsteps file (order.mem_iff.mpr hfile)) hgiven hadmits
  exact ⟨loaded, next, hfiles, hnext⟩

end Loading

/-! ## Files -/

/-- Files of different names that can be loaded are each loaded alike in another order. -/
theorem load_of_perm {descriptors descriptors' : List FileDescriptor} (order : descriptors.Perm descriptors')
    (distinct : (descriptors.map (·.name)).Nodup) {toGenerate unreadable : List String} {files : List File}
    (h : load descriptors toGenerate unreadable = .ok files) :
    ∃ loaded : FileDescriptor → File,
      files = descriptors.map loaded ∧ load descriptors' toGenerate unreadable = .ok (descriptors'.map loaded) := by
  obtain ⟨hnames, symbols, final, hsymbols, hrun⟩ := load_ok_iff.mp h
  obtain ⟨hreadable, hdiffer, _, rfl⟩ := addSymbols_ok_iff.mp hsymbols
  rw [List.nil_append] at hrun
  have hperm : (descriptors.flatMap FileDescriptor.symbols).Perm (descriptors'.flatMap FileDescriptor.symbols) :=
    order.flatMap_right _
  have hasked : ∀ symbol ∈ descriptors.flatMap FileDescriptor.symbols, symbol.file ∈ descriptors := by
    intro symbol hsymbol
    obtain ⟨file, hfile, hsymbol⟩ := List.mem_flatMap.mp hsymbol
    rwa [file_of_mem_symbols hsymbol]
  obtain ⟨loaded, next, hfiles, hnext⟩ := Loading.mapM_file_perm order distinct hasked hrun
  refine ⟨loaded, hfiles, load_ok_iff.mpr ⟨?_, descriptors'.flatMap FileDescriptor.symbols, next, ?_, ?_⟩⟩
  · rw [← hnames]
    simp only [order.any_eq]
  · exact addSymbols_ok_iff.mpr ⟨fun symbol hsymbol => hreadable symbol (hperm.mem_iff.mpr hsymbol),
      (hperm.map _).nodup_iff.mp hdiffer, by simp, rfl⟩
  · rw [← Loading.file_congr (resolve?_perm hperm hdiffer)]
    exact hnext

/-- Descriptors of files with different names can be loaded in one order if they can be loaded in another one, and
each of them is loaded alike in both: what is loaded stands in the order of the descriptors. -/
theorem load_perm {descriptors descriptors' : List FileDescriptor} (order : descriptors.Perm descriptors')
    (distinct : (descriptors.map (·.name)).Nodup) (toGenerate unreadable : List String) :
    ((∃ files, load descriptors toGenerate unreadable = .ok files) ↔
      ∃ files, load descriptors' toGenerate unreadable = .ok files) ∧
    ∀ files files', load descriptors toGenerate unreadable = .ok files →
      load descriptors' toGenerate unreadable = .ok files' →
        ∃ loaded : FileDescriptor → File, files = descriptors.map loaded ∧ files' = descriptors'.map loaded := by
  have distinct' : (descriptors'.map (·.name)).Nodup := (order.map _).nodup_iff.mp distinct
  refine ⟨⟨?_, ?_⟩, fun files files' h h' => ?_⟩
  · rintro ⟨files, h⟩
    obtain ⟨loaded, _, h'⟩ := load_of_perm order distinct h
    exact ⟨_, h'⟩
  · rintro ⟨files, h⟩
    obtain ⟨loaded, _, h'⟩ := load_of_perm order.symm distinct' h
    exact ⟨_, h'⟩
  · obtain ⟨loaded, hfiles, hloaded⟩ := load_of_perm order distinct h
    exact ⟨loaded, hfiles, Except.ok.inj (h'.symm.trans hloaded)⟩

/-- A file whose service takes a message of `wordFile` and answers with one. -/
def askFile : FileDescriptor where
  name := "ask.proto"
  package := "p"
  options := { goPackage := some "x/ask" }
  messages := [{ name := "Ask", fields := [{ name := "for", typeName := "Word" }] }]
  services := [{ name := "Asking", methods := [{ name := "Get", inputType := "Ask", outputType := "Word" }] }]

/-- A file whose service answers with a message of `askFile`. -/
def wordFile : FileDescriptor where
  name := "word.proto"
  package := "p"
  options := { goPackage := some "x/word" }
  messages := [{ name := "Word" }]
  services := [{ name := "Words", methods := [{ name := "Next", inputType := "Word", outputType := "Ask" }] }]

theorem load_perm_mutual :
    [askFile, wordFile].Perm [wordFile, askFile] ∧ ([askFile, wordFile].map (·.name)).Nodup ∧
    ∃ files files', load [askFile, wordFile] ["ask.proto", "word.proto"] = .ok files ∧
      load [wordFile, askFile] ["ask.proto", "word.proto"] = .ok files' ∧
      ∃ loaded : FileDescriptor → File, files = [askFile, wordFile].map loaded ∧
        files' = [wordFile, askFile].map loaded := by
  have order : [askFile, wordFile].Perm [wordFile, askFile] := .swap _ _ _
  have distinct : ([askFile, wordFile].map (·.name)).Nodup := by decide
  have hload : (load [askFile, wordFile] ["ask.proto", "word.proto"]).toOption.isSome = true := by decide
  obtain ⟨hiff, hsame⟩ := load_perm order distinct ["ask.proto", "word.proto"] []
  cases h : load [askFile, wordFile] ["ask.proto", "word.proto"] with
  | error failure => simp [h, Except.toOption] at hload
  | ok files =>
    obtain ⟨files', h'⟩ := hiff.mp ⟨files, h⟩
    exact ⟨order, distinct, files, files', rfl, h', hsame files files' h h'⟩

end RpcClients.Schema
