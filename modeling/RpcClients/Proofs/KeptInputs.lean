import RpcClients.Proofs.ImportClosure

/-! # Which inputs a run keeps

A run is for all its inputs only if no two of them get the same name. Of inputs with one name it keeps the
first. -/

namespace RpcClients.FileTree

open Schema

variable {tree : FileTree} {inputs : List FileDescriptor} {dirs : List Path}

/-- For each source in turn there is one name to generate, and the only file of that name is the parse of
the source. -/
def KeepsInputs (tree : FileTree) (paths : List String) (sources : Sources) : Prop :=
  List.Forall₂
    (fun path name => ∃ file, sources.files.filter (·.name = name) = [file] ∧
      tree.parseFile (Path.ofText path) name = .ok file)
    paths sources.toGenerate

def inputNames (tree : FileTree) (paths includes : List String) : List String :=
  tree.sourceNames (includes.map Path.ofText) (paths.map Path.ofText)

theorem length_sourceNames (includes paths : List Path) :
    (tree.sourceNames includes paths).length = paths.length := by
  induction paths generalizing includes with
  | nil => rfl
  | cons path rest ih => exact congrArg (· + 1) (ih _)

theorem Closure.filter_name {files : List FileDescriptor} (h : Closure tree dirs inputs files) {file : FileDescriptor}
    (hfile : file ∈ files) : files.filter (·.name = file.name) = [file] := by
  obtain ⟨before, after, rfl⟩ := List.append_of_mem hfile
  have hdistinct := h.distinct
  rw [List.map_append, List.map_cons, List.nodup_append, List.nodup_cons] at hdistinct
  obtain ⟨_, ⟨hafter, _⟩, hbefore⟩ := hdistinct
  rw [List.filter_append, List.filter_cons_of_pos (by simp)]
  have hnone : before.filter (·.name = file.name) = [] := by
    rw [List.filter_eq_nil_iff]
    intro other hother heq
    exact hbefore _ (List.mem_map_of_mem hother) _ List.mem_cons_self (of_decide_eq_true heq)
  have hnone' : after.filter (·.name = file.name) = [] := by
    rw [List.filter_eq_nil_iff]
    intro other hother heq
    exact hafter (of_decide_eq_true heq ▸ List.mem_map_of_mem hother)
  rw [hnone, hnone', List.nil_append]

/-- A run that succeeds is for the names of its inputs, each once and in order, and of the inputs with one
name it has read the first. It keeps all inputs exactly if their names differ. -/
theorem sources_keep_inputs_iff {paths includes : List String} {sources : Sources}
    (h : (tree.sources paths includes).answer = .ok sources) :
    sources.toGenerate = (tree.inputNames paths includes).eraseDups ∧
      (∀ name ∈ sources.toGenerate, ∃ path file,
        ((tree.inputNames paths includes).zip (paths.map Path.ofText)).lookup name = some path ∧
        tree.parseFile path name = .ok file ∧ sources.files.filter (·.name = name) = [file]) ∧
      (KeepsInputs tree paths sources ↔ (tree.inputNames paths includes).Nodup) := by
  obtain ⟨inputs, dirs, htakes, hclosure, hgenerate⟩ := closure_of_sources h
  have honly (input : FileDescriptor) (hinput : input ∈ inputs) :=
    hclosure.filter_name (hclosure.inputsFirst.subset hinput)
  unfold KeepsInputs
  rw [hgenerate]
  refine ⟨by simpa [inputNames, List.removeAll] using htakes.names_eq, ?_, ?_, ?_⟩
  · rw [List.forall_mem_map]
    intro input hinput
    obtain ⟨_, path, hpath, hparse⟩ := (htakes.first_of_name input hinput).resolve_left List.not_mem_nil
    exact ⟨path, input, hpath, hparse, honly input hinput⟩
  · intro hkeeps
    -- there are as many names as sources, so none was passed over
    obtain ⟨_, rfl, hnames⟩ := htakes.sublist_names
    have hall : inputs.map (·.name) = tree.inputNames paths includes := by
      refine hnames.eq_of_length ?_
      rw [length_sourceNames, List.length_map Path.ofText]
      exact hkeeps.length_eq.symm
    rw [← hall]
    exact htakes.nodup_names .nil
  · intro hnodup
    obtain ⟨_, rfl, hparsed⟩ := htakes.parsed_of_nodup hnodup
    rw [List.forall₂_map_left_iff] at hparsed
    rw [List.forall₂_map_right_iff]
    refine (forall₂_imp_of_mem (fun input hinput path hparse => ?_) hparsed.flip).flip
    exact ⟨input, honly input hinput, hparse⟩

/-- Two files with the same name in different directories. -/
def twinTree : FileTree where
  files := [(["w", "a", "x"], .text ""), (["w", "b", "x"], .text "import \"a/x\";")]
  directories := [["w", "a"], ["w", "b"]]
  workingDir := ["w"]

theorem sources_keep_inputs_iff_twins :
    (twinTree.inputNames ["a/x", "/w/b/x"] ["/w"]).Nodup ∧
      ∃ sources, (twinTree.sources ["a/x", "/w/b/x"] ["/w"]).answer = .ok sources ∧
        KeepsInputs twinTree ["a/x", "/w/b/x"] sources := by
  have hnodup : (twinTree.inputNames ["a/x", "/w/b/x"] ["/w"]).Nodup := by decide +kernel
  have hok : (twinTree.sources ["a/x", "/w/b/x"] ["/w"]).answer.toBool = true := by decide +kernel
  cases hanswer : (twinTree.sources ["a/x", "/w/b/x"] ["/w"]).answer with
  | error failure =>
    rw [hanswer] at hok
    cases hok
  | ok sources => exact ⟨hnodup, sources, rfl, (sources_keep_inputs_iff hanswer).2.2.mpr hnodup⟩

/-- Without one, the second file is lost. -/
theorem twinTree_loses_input :
    ∃ sources, (twinTree.sources ["a/x", "b/x"] []).answer = .ok sources ∧ sources.toGenerate = ["x"] ∧
      ¬ KeepsInputs twinTree ["a/x", "b/x"] sources := by
  have hnames : (twinTree.sources ["a/x", "b/x"] []).answer.toOption.map (·.toGenerate) = some ["x"] := by
    decide +kernel
  cases hanswer : (twinTree.sources ["a/x", "b/x"] []).answer with
  | error failure =>
    rw [hanswer] at hnames
    cases hnames
  | ok sources =>
    rw [hanswer] at hnames
    have hgenerate : sources.toGenerate = ["x"] := Option.some.inj hnames
    refine ⟨sources, rfl, hgenerate, fun hkeeps => ?_⟩
    have hlength := hkeeps.length_eq
    rw [hgenerate] at hlength
    cases hlength

end RpcClients.FileTree
