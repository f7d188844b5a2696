import RpcClients.Proofs.LoadedNames

/-! # Packages of loaded files

The Go package of a file that is loaded with services is named by a word, whether it was just worked out or
was remembered. -/

namespace RpcClients.Schema

open Naming

namespace Loading

variable {α β : Type}

/-- From a memory of packages named by words, the step gives a good value and leaves such a memory. -/
def Yields (good : α → Prop) (step : Loading α) : Prop :=
  ∀ before value after, step.run before = .ok (value, after) → (∀ entry ∈ before, IsWord entry.2.name) →
    good value ∧ ∀ entry ∈ after, IsWord entry.2.name

/-- The step leaves a memory of packages named by words. -/
def Keeps (step : Loading α) : Prop := Yields (fun _ => True) step

theorem yields_pure {good : α → Prop} {value : α} (h : good value) : Yields good (pure value) := by
  intro before given after hrun hbefore
  cases hrun
  exact ⟨h, hbefore⟩

theorem keeps_pure (value : α) : Keeps (pure value) := yields_pure trivial

theorem yields_throw {good : α → Prop} (failure : Failure) : Yields good (throw failure : Loading α) := by
  intro before given after hrun
  cases hrun

theorem Yields.bind {good : α → Prop} {fine : β → Prop} {step : Loading α} {rest : α → Loading β}
    (hstep : Yields good step) (hrest : ∀ value, Loads step value → good value → Yields fine (rest value)) :
    Yields fine (step >>= rest) := by
  intro before given after hrun hbefore
  rw [StateT.run_bind] at hrun
  obtain ⟨⟨value, middle⟩, hvalue, hrun⟩ := except_bind_ok_iff.mp hrun
  obtain ⟨hgood, hmiddle⟩ := hstep before value middle hvalue hbefore
  exact hrest value ⟨_, _, hvalue⟩ hgood middle given after hrun hmiddle

theorem Yields.keeps {good : α → Prop} {step : Loading α} (h : Yields good step) : Keeps step :=
  fun before value after hrun hbefore => ⟨trivial, (h before value after hrun hbefore).2⟩

theorem yields_mapM {good : β → Prop} {step : α → Loading β} (h : ∀ item, Yields good (step item)) (items : List α) :
    Yields (fun values => ∀ value ∈ values, good value) (items.mapM step) := by
  induction items with
  | nil => exact yields_pure (by simp)
  | cons item rest ih =>
    rw [List.mapM_cons]
    refine (h item).bind fun value _ hvalue => ih.bind fun values _ hvalues => ?_
    exact yields_pure (List.forall_mem_cons.mpr ⟨hvalue, hvalues⟩)

/-! ## Steps -/

variable (table : SymbolTable)

theorem word_ofOption (option : String) : IsWord (GoPackage.ofOption option).name := by
  unfold GoPackage.ofOption
  generalize Text.cut ';' option.toList = parts
  obtain ⟨before, after⟩ := parts
  simp only
  generalize after.map Text.trimmed = name
  rcases name with _ | _ | ⟨c, rest⟩
  all_goals
    dsimp only [packageNameOf]
    exact sanitized_word _

theorem keeps_require (fault : Fault) (text : String) : Keeps (require table fault text) := by
  unfold require
  split
  · exact keeps_pure ()
  · exact yields_throw _

theorem yields_packageOf (option : String) :
    Yields (fun package : GoPackage => IsWord package.name) (packageOf table option) :=
  (keeps_require table _ _).bind fun _ _ _ => yields_pure (word_ofOption option)

theorem yields_goPackage (file : FileDescriptor) :
    Yields (fun package : GoPackage => IsWord package.name) (goPackage table file) := by
  -- the memory is read and written here only
  have hget : Yields (fun known => ∀ entry ∈ known, IsWord entry.2.name)
      (get : Loading (List (String × GoPackage))) := by
    intro before known after hrun hbefore
    cases hrun
    exact ⟨hbefore, hbefore⟩
  have hmodify (package : GoPackage) (hpackage : IsWord package.name) :
      Keeps (modify ((file.name, package) :: ·) : Loading Unit) := by
    intro before given after hrun hbefore
    cases hrun
    exact ⟨trivial, List.forall_mem_cons.mpr ⟨hpackage, hbefore⟩⟩
  refine hget.bind fun known _ hknown => ?_
  split
  · rename_i package hlookup
    obtain ⟨before, after, rfl, _⟩ := List.lookup_eq_some_iff.mp hlookup
    exact yields_pure (hknown (file.name, package) (by simp))
  · split
    · exact yields_throw _
    · refine (yields_packageOf table _).bind fun package _ hpackage => ?_
      exact (hmodify package hpackage).bind fun _ _ _ => yields_pure hpackage

theorem closed_keeps : Closed table Keeps where
  value := keeps_pure
  failure := yields_throw
  andThen hstep hrest := hstep.bind fun value hvalue _ => hrest value hvalue
  package symbol _ := (yields_goPackage table symbol.file).keeps

theorem yields_file (toGenerate : List String) (descriptor : FileDescriptor) :
    Yields (fun loaded : File => loaded.services ≠ [] → IsWord loaded.packageName)
      (file table (message table) toGenerate descriptor) := by
  unfold file
  split
  · refine (yields_goPackage table _).bind fun package _ hpackage => ?_
    refine ((closed_keeps table).mapM fun service _ => (closed_keeps table).service descriptor service).bind ?_
    exact fun _ _ _ => yields_pure fun _ => hpackage
  · exact ((closed_keeps table).importedPackage descriptor).bind fun _ _ _ =>
      yields_pure fun hservices => absurd rfl hservices

end Loading

theorem word_of_load {descriptors : List FileDescriptor} {toGenerate unreadable : List String} {files : List File}
    (h : load descriptors toGenerate unreadable = .ok files) :
    ∀ file ∈ files, file.services ≠ [] → IsWord file.packageName := by
  obtain ⟨_, symbols, after, _, hrun⟩ := load_ok_iff.mp h
  exact (Loading.yields_mapM (Loading.yields_file _ toGenerate) descriptors [] _ _ hrun (by simp)).1

end RpcClients.Schema
