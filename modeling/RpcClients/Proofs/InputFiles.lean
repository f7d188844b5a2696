import Mathlib.Data.List.Nodup
import RpcClients.Proofs.ImportSearch

/-! # The files that a run starts with

Inputs are taken one after another. An input whose name is taken already is passed over, and so the first
input of a name is the one that counts. -/

namespace RpcClients.FileTree

open Schema

variable {tree : FileTree} {includes paths dirs : List Path} {files inputs : List FileDescriptor}

/-- The names of sources, and the include directories that each of them leaves to the next. -/
def sourceNames (tree : FileTree) (includes : List Path) : List Path → List String
  | [] => []
  | path :: rest =>
    (tree.sourceName path includes).1 :: tree.sourceNames (tree.sourceName path includes).2 rest

/-- Taking the sources with some paths gives the inputs and leaves the include directories `dirs`. -/
inductive Takes (tree : FileTree) : (includes : List Path) → (files : List FileDescriptor) → (paths : List Path) →
    (inputs : List FileDescriptor) → (dirs : List Path) → Prop
  | done {includes : List Path} {files : List FileDescriptor} : Takes tree includes files [] files includes
  | known {path : Path} {rest includes dirs : List Path} {files inputs : List FileDescriptor}
      (hname : ∃ file ∈ files, file.name = (tree.sourceName path includes).1)
      (hrest : Takes tree (tree.sourceName path includes).2 files rest inputs dirs) :
      Takes tree includes files (path :: rest) inputs dirs
  | new {path : Path} {rest includes dirs : List Path} {files inputs : List FileDescriptor} {file : FileDescriptor}
      (hname : ∀ other ∈ files, other.name ≠ (tree.sourceName path includes).1)
      (hfile : tree.parseFile path (tree.sourceName path includes).1 = .ok file)
      (hrest : Takes tree (tree.sourceName path includes).2 (files ++ [file]) rest inputs dirs) :
      Takes tree includes files (path :: rest) inputs dirs

theorem addSources_cons (path : Path) (rest : List Path) :
    tree.addSources includes files (path :: rest) =
      if path.hasNul then throw (.fault .nulInPath)
      else if files.any (·.name = (tree.sourceName path includes).1) then
        tree.addSources (tree.sourceName path includes).2 files rest
      else
        Logged.ofExcept (tree.parseFile path (tree.sourceName path includes).1) >>= fun file =>
          Logged.debug ("parsed " ++ path.text ++ " as " ++ (tree.sourceName path includes).1) >>= fun _ =>
            tree.addSources (tree.sourceName path includes).2 (files ++ [file]) rest := by
  rw [addSources]
  cases path.hasNul <;> rfl

theorem steady_addSources : (tree.addSources includes files paths).Steady := by
  induction paths generalizing includes files with
  | nil => exact Logged.steady_pure _
  | cons path rest ih =>
    rw [addSources_cons]
    split_ifs
    · exact Logged.steady_throw _
    · exact ih
    · exact (Logged.steady_ofExcept _).bind fun _ => (Logged.steady_debug _).bind fun _ => ih

theorem answer_addSources_cons (path : Path) (rest : List Path) :
    (tree.addSources includes files (path :: rest)).answer =
      if path.hasNul then .error (.fault .nulInPath)
      else if files.any (·.name = (tree.sourceName path includes).1) then
        (tree.addSources (tree.sourceName path includes).2 files rest).answer
      else
        tree.parseFile path (tree.sourceName path includes).1 >>= fun file =>
          (tree.addSources (tree.sourceName path includes).2 (files ++ [file]) rest).answer := by
  rw [addSources_cons]
  split_ifs
  · rfl
  · rfl
  · rw [Logged.answer_bind _ fun _ => (Logged.steady_debug _).bind fun _ => steady_addSources, Logged.answer_ofExcept]
    congr 1
    funext file
    exact Logged.answer_bind _ fun _ => steady_addSources

theorem takes_of_addSources (h : (tree.addSources includes files paths).answer = .ok (inputs, dirs)) :
    Takes tree includes files paths inputs dirs := by
  induction paths generalizing includes files with
  | nil =>
    cases h
    exact .done
  | cons path rest ih =>
    rw [answer_addSources_cons] at h
    split_ifs at h with hnul hname
    · exact .known (by simpa using hname) (ih h)
    · obtain ⟨file, hfile, h⟩ := except_bind_ok_iff.mp h
      exact .new (by simpa using hname) hfile (ih h)

theorem blamesNoImport_addSources : Proto.BlamesNoImport (tree.addSources includes files paths).answer := by
  induction paths generalizing includes files with
  | nil => exact Proto.blamesNoImport_ok _
  | cons path rest ih =>
    rw [answer_addSources_cons]
    split_ifs
    · exact Proto.blamesNoImport_fault _
    · exact ih
    · exact (blamesNoImport_parseFile _ _).bind fun _ => ih

namespace Takes

/-- An input that is added is the parse of the first source of its name. -/
theorem first_of_name (h : Takes tree includes files paths inputs dirs) :
    ∀ input ∈ inputs, input ∈ files ∨ input.name ∉ files.map (·.name) ∧
      ∃ path, ((tree.sourceNames includes paths).zip paths).lookup input.name = some path ∧
        tree.parseFile path input.name = .ok input := by
  induction h with
  | done => exact fun input hinput => .inl hinput
  | @known path rest includes _ files _ hname _ ih =>
    intro input hinput
    refine (ih input hinput).imp_right fun ⟨hnew, source, hsource, hparse⟩ => ⟨hnew, source, ?_, hparse⟩
    have hne : input.name ≠ (tree.sourceName path includes).1 := fun heq => hnew (heq ▸ List.mem_map.mpr hname)
    rw [sourceNames, List.zip_cons_cons, List.lookup_cons, beq_false_of_ne hne]
    exact hsource
  | @new path rest includes _ files _ file hname hfile _ ih =>
    have hfresh : (tree.sourceName path includes).1 ∉ files.map (·.name) := by simpa using hname
    intro input hinput
    rw [sourceNames, List.zip_cons_cons, List.lookup_cons]
    rcases ih input hinput with hinput | ⟨hnew, source, hsource, hparse⟩
    · rcases List.mem_append.mp hinput with hinput | hinput
      · exact .inl hinput
      · obtain rfl := List.mem_singleton.mp hinput
        rw [name_of_parseFile hfile, beq_self_eq_true]
        exact .inr ⟨hfresh, path, rfl, hfile⟩
    · rw [List.map_append, List.mem_append, not_or, List.map_singleton, List.mem_singleton,
        name_of_parseFile hfile] at hnew
      rw [beq_false_of_ne hnew.2]
      exact .inr ⟨hnew.1, source, hsource, hparse⟩

theorem dirs_eq (h : Takes tree includes files paths inputs dirs) :
    ∃ added, dirs = includes ++ added ∧ ∀ dir ∈ added, ∃ path ∈ paths, dir = path.parent := by
  have hstep (path : Path) (includes : List Path) :
      ∃ added, (tree.sourceName path includes).2 = includes ++ added ∧ ∀ dir ∈ added, dir = path.parent := by
    unfold sourceName
    split
    · exact ⟨[], by simp⟩
    · dsimp only
      split
      · exact ⟨[], by simp⟩
      · exact ⟨[path.parent], by simp⟩
  have hcons {path : Path} {rest includes dirs : List Path}
      (h : ∃ added, dirs = (tree.sourceName path includes).2 ++ added ∧
        ∀ dir ∈ added, ∃ path ∈ rest, dir = path.parent) :
      ∃ added, dirs = includes ++ added ∧ ∀ dir ∈ added, ∃ source ∈ path :: rest, dir = source.parent := by
    obtain ⟨first, hfirst, hown⟩ := hstep path includes
    obtain ⟨added, rfl, hadded⟩ := h
    refine ⟨first ++ added, by rw [hfirst, List.append_assoc], ?_⟩
    rw [List.forall_mem_append]
    refine ⟨fun dir hdir => ⟨path, List.mem_cons_self, hown dir hdir⟩, fun dir hdir => ?_⟩
    obtain ⟨source, hsource, h⟩ := hadded dir hdir
    exact ⟨source, List.mem_cons_of_mem _ hsource, h⟩
  induction h with
  | done => exact ⟨[], by simp⟩
  | known _ _ ih => exact hcons ih
  | new _ _ _ ih => exact hcons ih

/-- The names of the inputs are those of the sources, each where it comes first. -/
theorem names_eq (h : Takes tree includes files paths inputs dirs) :
    inputs.map (·.name) =
      files.map (·.name) ++ ((tree.sourceNames includes paths).removeAll (files.map (·.name))).eraseDups := by
  induction h with
  | done => simp [sourceNames, List.removeAll]
  | @known path rest includes _ files _ hname _ ih =>
    have hmem : (tree.sourceName path includes).1 ∈ files.map (·.name) := List.mem_map.mpr hname
    rw [ih, sourceNames, List.cons_removeAll, if_neg (by simpa using hmem)]
  | @new path rest includes _ files _ file hname hfile _ ih =>
    have hmem : (tree.sourceName path includes).1 ∉ files.map (·.name) := by simpa using hname
    -- the names that are not taken once the file is there
    have hrest (names : List String) : names.removeAll ((files ++ [file]).map (·.name)) =
        (names.removeAll (files.map (·.name))).filter fun name => !name == (tree.sourceName path includes).1 := by
      simp [List.removeAll, List.filter_filter, name_of_parseFile hfile, beq_eq_decide, Bool.and_comm]
    rw [ih, hrest, sourceNames, List.cons_removeAll, if_pos (by simpa using hmem), List.eraseDups_cons]
    simp [name_of_parseFile hfile]

theorem sublist_names (h : Takes tree includes files paths inputs dirs) :
    ∃ added, inputs = files ++ added ∧ (added.map (·.name)).Sublist (tree.sourceNames includes paths) := by
  induction h with
  | done => exact ⟨[], by simp⟩
  | known _ _ ih =>
    obtain ⟨added, rfl, hadded⟩ := ih
    exact ⟨added, rfl, hadded.cons _⟩
  | new _ hfile _ ih =>
    obtain ⟨added, rfl, hadded⟩ := ih
    refine ⟨_ :: added, by rw [List.append_assoc, List.singleton_append], ?_⟩
    rw [List.map_cons, name_of_parseFile hfile]
    exact hadded.cons_cons _

theorem parsed_of_nodup (h : Takes tree includes files paths inputs dirs)
    (hnames : (files.map (·.name) ++ tree.sourceNames includes paths).Nodup) :
    ∃ added, inputs = files ++ added ∧
      List.Forall₂ (fun path file => tree.parseFile path file.name = .ok file) paths added := by
  induction h with
  | done => exact ⟨[], by simp⟩
  | known hname _ _ =>
    have hdistinct := (List.nodup_append.mp hnames).2.2
    exact absurd rfl (hdistinct _ (List.mem_map.mpr hname) _ List.mem_cons_self)
  | new _ hfile _ ih =>
    rw [List.map_append, List.map_singleton, name_of_parseFile hfile, ← List.append_cons] at ih
    obtain ⟨added, rfl, hadded⟩ := ih hnames
    refine ⟨_ :: added, by rw [List.append_assoc, List.singleton_append], .cons ?_ hadded⟩
    rwa [name_of_parseFile hfile]

theorem nodup_names (h : Takes tree includes files paths inputs dirs) (hfiles : (files.map (·.name)).Nodup) :
    (inputs.map (·.name)).Nodup := by
  induction h with
  | done => exact hfiles
  | known _ _ ih => exact ih hfiles
  | new hname hfile _ ih =>
    refine ih ?_
    rw [List.map_append, List.map_singleton, ← List.concat_eq_append, List.nodup_concat, name_of_parseFile hfile]
    exact ⟨by simpa using hname, hfiles⟩

end Takes

end RpcClients.FileTree
