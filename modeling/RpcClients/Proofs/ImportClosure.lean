import Mathlib.Data.Finset.Card
import RpcClients.Proofs.InputFiles

/-! # Imports of imports

Names wait in line. A name that is there already is passed over; any other is searched for, and what the
found file imports goes to the end of the line. The line always comes to an end, because only names that
some file of the tree imports are ever added. When it does, the files are exactly those that the inputs
reach. -/

namespace RpcClients.FileTree

open Schema

variable {tree : FileTree} {dirs : List Path} {inputs files : List FileDescriptor} {pending : List String}

/-- From the files that are there and the names that wait, the line comes to an end with an answer. -/
inductive Completes (tree : FileTree) (dirs : List Path) :
    List FileDescriptor → List String → Except Failure (List FileDescriptor) → Prop
  | done {files : List FileDescriptor} : Completes tree dirs files [] (.ok files)
  | known {files : List FileDescriptor} {name : String} {rest : List String}
      {answer : Except Failure (List FileDescriptor)} (hname : ∃ file ∈ files, file.name = name)
      (hrest : Completes tree dirs files rest answer) : Completes tree dirs files (name :: rest) answer
  | found {files : List FileDescriptor} {name : String} {rest : List String} {file : FileDescriptor}
      {answer : Except Failure (List FileDescriptor)} (hname : ∀ other ∈ files, other.name ≠ name)
      (hfile : (tree.findImport dirs name).answer = .ok file)
      (hrest : Completes tree dirs (files ++ [file]) (rest ++ file.dependencies) answer) :
      Completes tree dirs files (name :: rest) answer
  | failed {files : List FileDescriptor} {name : String} {rest : List String} {failure : Failure}
      (hname : ∀ other ∈ files, other.name ≠ name)
      (hfailure : (tree.findImport dirs name).answer = .error failure) :
      Completes tree dirs files (name :: rest) (.error failure)

/-- The file is an input, or a file that is reached imports it by a name that no input has. -/
inductive Reaches (tree : FileTree) (dirs : List Path) (inputs : List FileDescriptor) : FileDescriptor → Prop
  | input {file : FileDescriptor} (hfile : file ∈ inputs) : Reaches tree dirs inputs file
  | imported {file other : FileDescriptor} {name : String} (hfile : Reaches tree dirs inputs file)
      (hname : name ∈ file.dependencies) (hother : ∀ input ∈ inputs, input.name ≠ name)
      (hfound : (tree.findImport dirs name).answer = .ok other) : Reaches tree dirs inputs other

/-- The files start with the inputs, they have names of their own, every name that one of them imports is
the name of one of them, and they are the files that the inputs reach. -/
structure Closure (tree : FileTree) (dirs : List Path) (inputs files : List FileDescriptor) : Prop where
  inputsFirst : inputs <+: files
  distinct : (files.map (·.name)).Nodup
  closed : ∀ file ∈ files, ∀ name ∈ file.dependencies, ∃ other ∈ files, other.name = name
  reached : ∀ file, file ∈ files ↔ Reaches tree dirs inputs file

/-! ## Rounds -/

theorem steady_addImports {names : List String} : (tree.addImports dirs files names).Steady := by
  induction names generalizing files with
  | nil => exact Logged.steady_pure _
  | cons name rest ih =>
    unfold addImports
    split
    · exact ih
    · exact (steady_findImport dirs name).bind fun file => ih.bind fun _ => Logged.steady_pure _

theorem answer_addImports_cons (name : String) (rest : List String) :
    (tree.addImports dirs files (name :: rest)).answer =
      if files.any (·.name = name) then (tree.addImports dirs files rest).answer
      else
        (tree.findImport dirs name).answer >>= fun file =>
          (tree.addImports dirs (files ++ [file]) rest).answer >>= fun next =>
            .ok (next.1, file.dependencies ++ next.2) := by
  rw [addImports]
  split_ifs
  · rfl
  · rw [Logged.answer_bind _ fun _ => steady_addImports.bind fun _ => Logged.steady_pure _]
    congr 1
    funext file
    exact Logged.answer_bind _ fun _ => Logged.steady_pure _

theorem completes_of_addImports_error {names : List String} {failure : Failure}
    (h : (tree.addImports dirs files names).answer = .error failure) (later : List String) :
    Completes tree dirs files (names ++ later) (.error failure) := by
  induction names generalizing files later with
  | nil => cases h
  | cons name rest ih =>
    rw [answer_addImports_cons] at h
    rw [List.cons_append]
    split_ifs at h with hname
    · exact .known (by simpa using hname) (ih h later)
    · have hname : ∀ other ∈ files, other.name ≠ name := by simpa using hname
      rcases except_bind_error_iff.mp h with hfailure | ⟨file, hfile, h⟩
      · exact .failed hname hfailure
      · rcases except_bind_error_iff.mp h with h | ⟨_, _, h⟩
        · refine .found hname hfile ?_
          rw [List.append_assoc]
          exact ih h (later ++ file.dependencies)
        · cases h

theorem completes_of_addImports_ok {names next : List String} {after : List FileDescriptor}
    (h : (tree.addImports dirs files names).answer = .ok (after, next)) {later : List String}
    {answer : Except Failure (List FileDescriptor)} (hafter : Completes tree dirs after (later ++ next) answer) :
    Completes tree dirs files (names ++ later) answer := by
  induction names generalizing files later next with
  | nil =>
    cases h
    rwa [List.append_nil] at hafter
  | cons name rest ih =>
    rw [answer_addImports_cons] at h
    rw [List.cons_append]
    split_ifs at h with hname
    · exact .known (by simpa using hname) (ih h hafter)
    · obtain ⟨file, hfile, h⟩ := except_bind_ok_iff.mp h
      obtain ⟨⟨_, more⟩, hrest, h⟩ := except_bind_ok_iff.mp h
      cases h
      refine .found (by simpa using hname) hfile ?_
      rw [List.append_assoc]
      exact ih hrest (by rwa [List.append_assoc])

theorem addImports_ok {names next : List String} {after : List FileDescriptor}
    (h : (tree.addImports dirs files names).answer = .ok (after, next)) :
    next ⊆ tree.importable ∧ ∃ added, after = files ++ added ∧ (added = [] → next = []) ∧
      ∀ file ∈ added, file.name ∈ names ∧ file.name ∉ files.map (·.name) := by
  induction names generalizing files next with
  | nil =>
    cases h
    exact ⟨List.nil_subset _, [], by simp⟩
  | cons name rest ih =>
    rw [answer_addImports_cons] at h
    split_ifs at h with hname
    · obtain ⟨hnext, added, rfl, hnone, hadded⟩ := ih h
      exact ⟨hnext, added, rfl, hnone, fun file hfile => (hadded file hfile).imp_left (List.mem_cons_of_mem _)⟩
    · obtain ⟨file, hfile, h⟩ := except_bind_ok_iff.mp h
      obtain ⟨⟨_, more⟩, hrest, h⟩ := except_bind_ok_iff.mp h
      cases h
      obtain ⟨hown, hdependencies⟩ := findImport_ok hfile
      obtain ⟨hnext, added, rfl, _, hadded⟩ := ih hrest
      refine ⟨List.append_subset.mpr ⟨hdependencies, hnext⟩, file :: added, by simp, by simp, ?_⟩
      rw [List.forall_mem_cons]
      refine ⟨⟨by simp [hown], by simpa [hown] using hname⟩, fun other hother => ?_⟩
      obtain ⟨hmem, hnew⟩ := hadded other hother
      rw [List.map_append, List.mem_append, not_or] at hnew
      exact ⟨List.mem_cons_of_mem _ hmem, hnew.1⟩

/-! ## The line comes to an end -/

/-- The names that could still be added. -/
def missingNames (tree : FileTree) (files : List FileDescriptor) : Finset String :=
  tree.importable.toFinset \ (files.map (·.name)).toFinset

theorem card_missingNames_lt {added : List FileDescriptor} {file : FileDescriptor} (hfile : file ∈ added)
    (hname : file.name ∈ tree.importable) (hnew : file.name ∉ files.map (·.name)) :
    (tree.missingNames (files ++ added)).card < (tree.missingNames files).card := by
  refine Finset.card_lt_card (Finset.ssubset_iff_of_subset ?_ |>.mpr ⟨file.name, ?_, ?_⟩)
  · intro name h
    simp only [missingNames, Finset.mem_sdiff, List.mem_toFinset, List.map_append, List.mem_append, not_or] at h ⊢
    exact ⟨h.1, h.2.1⟩
  · simp only [missingNames, Finset.mem_sdiff, List.mem_toFinset]
    exact ⟨hname, hnew⟩
  · simp only [missingNames, Finset.mem_sdiff, List.mem_toFinset, List.map_append, List.mem_append, not_and, not_not]
    exact fun _ => .inr (List.mem_map_of_mem hfile)

theorem closeImports_nil (rounds : Nat) : tree.closeImports dirs rounds files [] = pure files := by
  cases rounds <;> rfl

theorem steady_closeImports {rounds : Nat} {names : List String} :
    (tree.closeImports dirs rounds files names).Steady := by
  induction rounds generalizing files names with
  | zero => exact Logged.steady_pure _
  | succ rounds ih =>
    cases names with
    | nil => exact Logged.steady_pure _
    | cons name rest => exact steady_addImports.bind fun _ => ih

theorem answer_closeImports_succ (rounds : Nat) (names : List String) :
    (tree.closeImports dirs (rounds + 1) files names).answer =
      (tree.addImports dirs files names).answer >>= fun next =>
        (tree.closeImports dirs rounds next.1 next.2).answer := by
  cases names with
  | nil => exact congrArg Logged.answer (closeImports_nil rounds).symm
  | cons name rest => exact Logged.answer_bind _ fun _ => steady_closeImports

/-- Enough rounds come to the end of the line. -/
theorem completes_closeImports {rounds : Nat} {names : List String} (hnames : names ⊆ tree.importable)
    (hrounds : (tree.missingNames files).card < rounds) :
    Completes tree dirs files names (tree.closeImports dirs rounds files names).answer := by
  induction rounds generalizing files names with
  | zero => exact absurd hrounds (Nat.not_lt_zero _)
  | succ rounds ih =>
    rw [answer_closeImports_succ]
    cases hround : (tree.addImports dirs files names).answer with
    | error failure => exact List.append_nil names ▸ completes_of_addImports_error hround []
    | ok next =>
      obtain ⟨hnext, added, hafter, hnone, hadded⟩ := addImports_ok hround
      refine List.append_nil names ▸ completes_of_addImports_ok hround ?_
      rw [List.nil_append]
      cases added with
      | nil =>
        -- nothing was added, so nothing waits
        change Completes tree dirs next.1 next.2 (tree.closeImports dirs rounds next.1 next.2).answer
        rw [hnone rfl, closeImports_nil]
        exact .done
      | cons file rest =>
        have hfewer := hadded file List.mem_cons_self
        have hcard : (tree.missingNames (files ++ file :: rest)).card < (tree.missingNames files).card :=
          card_missingNames_lt List.mem_cons_self (hnames hfewer.1) hfewer.2
        exact ih hnext (by rw [hafter]; omega)

/-! ## Files along the line -/

/-- The files start with the inputs, all are reached, and what they import is there or waits. -/
structure Gathers (tree : FileTree) (dirs : List Path) (inputs files : List FileDescriptor)
    (pending : List String) : Prop where
  inputsFirst : inputs <+: files
  distinct : (files.map (·.name)).Nodup
  reached : ∀ file ∈ files, Reaches tree dirs inputs file
  waits : ∀ file ∈ files, ∀ name ∈ file.dependencies, name ∈ pending ∨ ∃ other ∈ files, other.name = name
  wanted : ∀ name ∈ pending, ∃ file, Reaches tree dirs inputs file ∧ name ∈ file.dependencies

namespace Gathers

theorem start (hinputs : (inputs.map (·.name)).Nodup) :
    Gathers tree dirs inputs inputs (inputs.flatMap (·.dependencies)) where
  inputsFirst := List.prefix_rfl
  distinct := hinputs
  reached _ hfile := .input hfile
  waits file hfile name hname := .inl (List.mem_flatMap.mpr ⟨file, hfile, hname⟩)
  wanted name hname := by
    obtain ⟨file, hfile, hmem⟩ := List.mem_flatMap.mp hname
    exact ⟨file, .input hfile, hmem⟩

theorem known {name : String} (h : Gathers tree dirs inputs files (name :: pending))
    (hname : ∃ file ∈ files, file.name = name) : Gathers tree dirs inputs files pending where
  inputsFirst := h.inputsFirst
  distinct := h.distinct
  reached := h.reached
  waits file hfile dependency hdependency := by
    rcases h.waits file hfile dependency hdependency with hmem | hmem
    · rcases List.mem_cons.mp hmem with rfl | hmem
      · exact .inr hname
      · exact .inl hmem
    · exact .inr hmem
  wanted dependency hdependency := h.wanted dependency (List.mem_cons_of_mem _ hdependency)

theorem found {name : String} {file : FileDescriptor} (h : Gathers tree dirs inputs files (name :: pending))
    (hname : ∀ other ∈ files, other.name ≠ name) (hfile : (tree.findImport dirs name).answer = .ok file) :
    Gathers tree dirs inputs (files ++ [file]) (pending ++ file.dependencies) := by
  have hown := (findImport_ok hfile).1
  have hreached : Reaches tree dirs inputs file := by
    obtain ⟨importer, himporter, hmem⟩ := h.wanted name List.mem_cons_self
    exact .imported himporter hmem (fun input hinput => hname input (h.inputsFirst.subset hinput)) hfile
  refine ⟨h.inputsFirst.trans (List.prefix_append _ _), ?_, ?_, ?_, ?_⟩
  · rw [List.map_append, List.map_singleton, ← List.concat_eq_append, List.nodup_concat, hown]
    exact ⟨by simpa using hname, h.distinct⟩
  · rw [List.forall_mem_append]
    exact ⟨h.reached, by simpa using hreached⟩
  · rw [List.forall_mem_append]
    constructor
    · intro other hother dependency hdependency
      rcases h.waits other hother dependency hdependency with hmem | ⟨there, hthere, heq⟩
      · rcases List.mem_cons.mp hmem with rfl | hmem
        · exact .inr ⟨file, by simp, hown⟩
        · exact .inl (List.mem_append_left _ hmem)
      · exact .inr ⟨there, List.mem_append_left _ hthere, heq⟩
    · intro other hother dependency hdependency
      obtain rfl := List.mem_singleton.mp hother
      exact .inl (List.mem_append_right _ hdependency)
  · intro dependency hdependency
    rcases List.mem_append.mp hdependency with hmem | hmem
    · exact h.wanted dependency (List.mem_cons_of_mem _ hmem)
    · exact ⟨file, hreached, hmem⟩

theorem found_by_name {file : FileDescriptor} (h : Reaches tree dirs inputs file) (hfile : file ∉ inputs) :
    (tree.findImport dirs file.name).answer = .ok file := by
  cases h with
  | input hmem => exact absurd hmem hfile
  | imported _ _ _ hfound => rwa [(findImport_ok hfound).1]

theorem closure (h : Gathers tree dirs inputs files []) : Closure tree dirs inputs files where
  inputsFirst := h.inputsFirst
  distinct := h.distinct
  closed file hfile name hname := (h.waits file hfile name hname).resolve_left List.not_mem_nil
  reached file := by
    refine ⟨h.reached file, fun hreaches => ?_⟩
    induction hreaches with
    | input hfile => exact h.inputsFirst.subset hfile
    | @imported importer other name _ hname hother hfound ih =>
      obtain ⟨there, hthere, heq⟩ := (h.waits importer ih name hname).resolve_left List.not_mem_nil
      have hsame := found_by_name (h.reached there hthere) fun hinput => hother there hinput heq
      rw [heq, hfound] at hsame
      cases hsame
      exact hthere

end Gathers

/-- A line that comes to an end has gathered all that the inputs reach, or has failed at a name that no
input has and that a file they reach imports. -/
theorem Completes.gathered {answer : Except Failure (List FileDescriptor)}
    (h : Completes tree dirs files pending answer) (hfiles : Gathers tree dirs inputs files pending) :
    (∃ gathered, answer = .ok gathered ∧ Closure tree dirs inputs gathered) ∨
      ∃ failure name file, answer = .error failure ∧ Reaches tree dirs inputs file ∧ name ∈ file.dependencies ∧
        (∀ input ∈ inputs, input.name ≠ name) ∧ (tree.findImport dirs name).answer = .error failure := by
  induction h with
  | done => exact .inl ⟨_, rfl, hfiles.closure⟩
  | known hname _ ih => exact ih (hfiles.known hname)
  | found hname hfile _ ih => exact ih (hfiles.found hname hfile)
  | failed hname hfailure =>
    obtain ⟨file, hfile, hmem⟩ := hfiles.wanted _ List.mem_cons_self
    exact .inr ⟨_, _, file, rfl, hfile, hmem, fun input hinput => hname input (hfiles.inputsFirst.subset hinput),
      hfailure⟩

/-! ## Whole runs -/

/-- A file that the inputs reach imports the name, but no input has it, no directory holds it, and it is
not well known. -/
structure Unfound (tree : FileTree) (dirs : List Path) (inputs : List FileDescriptor) (name : String) : Prop where
  imported : ∃ file, Reaches tree dirs inputs file ∧ name ∈ file.dependencies
  noInput : ∀ input ∈ inputs, input.name ≠ name
  noFile : ∀ dir ∈ dirs, tree.isFile (dir.join (Path.ofText name)) = .ok false
  notWellKnown : WellKnown.file? name = none

/-- The inputs are parses of sources, and the directories are the given ones and then those of sources. -/
structure Start (tree : FileTree) (paths includes : List String) (inputs : List FileDescriptor)
    (dirs : List Path) : Prop where
  parsed : ∀ input ∈ inputs, ∃ path ∈ paths, tree.parseFile (Path.ofText path) input.name = .ok input
  dirs_eq : ∃ added, dirs = includes.map Path.ofText ++ added ∧
    ∀ dir ∈ added, ∃ path ∈ paths, dir = (Path.ofText path).parent

theorem Takes.start {paths includes : List String}
    (h : Takes tree (includes.map Path.ofText) [] (paths.map Path.ofText) inputs dirs) :
    Start tree paths includes inputs dirs where
  parsed input hinput := by
    obtain ⟨_, path, hpath, hparse⟩ := (h.first_of_name input hinput).resolve_left List.not_mem_nil
    obtain ⟨before, after, hzip, _⟩ := List.lookup_eq_some_iff.mp hpath
    have hmem : (input.name, path) ∈ before ++ (input.name, path) :: after :=
      List.mem_append_right _ List.mem_cons_self
    rw [← hzip] at hmem
    obtain ⟨text, htext, rfl⟩ := List.mem_map.mp (List.of_mem_zip hmem).2
    exact ⟨text, htext, hparse⟩
  dirs_eq := by
    obtain ⟨added, hdirs, hadded⟩ := h.dirs_eq
    refine ⟨added, hdirs, fun dir hdir => ?_⟩
    obtain ⟨path, hpath, rfl⟩ := hadded dir hdir
    obtain ⟨text, htext, rfl⟩ := List.mem_map.mp hpath
    exact ⟨text, htext, rfl⟩

theorem Takes.completes {paths includes : List String}
    (h : Takes tree (includes.map Path.ofText) [] (paths.map Path.ofText) inputs dirs) :
    Completes tree dirs inputs (inputs.flatMap (·.dependencies))
      (tree.closeImports dirs tree.importRounds inputs (inputs.flatMap (·.dependencies))).answer := by
  refine completes_closeImports ?_ ?_
  · intro name hname
    obtain ⟨input, hinput, hmem⟩ := List.mem_flatMap.mp hname
    obtain ⟨path, _, hparse⟩ := h.start.parsed input hinput
    exact dependencies_of_parseFile hparse hmem
  · calc (tree.missingNames inputs).card ≤ tree.importable.toFinset.card := Finset.card_le_card Finset.sdiff_subset
      _ ≤ tree.importable.length := tree.importable.toFinset_card_le
      _ < tree.importRounds := length_importable_lt

theorem answer_sources (paths includes : List String) :
    (tree.sources paths includes).answer =
      (tree.addSources (includes.map Path.ofText) [] (paths.map Path.ofText)).answer >>= fun start =>
        (tree.closeImports start.2 tree.importRounds start.1 (start.1.flatMap (·.dependencies))).answer.map
          fun files => { files, toGenerate := start.1.map (·.name) } := by
  unfold sources
  rw [Logged.answer_bind _ fun _ => steady_closeImports.bind fun _ => Logged.steady_pure _]
  congr 1
  funext start
  rw [Logged.answer_bind _ fun _ => Logged.steady_pure _]
  cases (tree.closeImports start.2 tree.importRounds start.1 _).answer <;> rfl

theorem closure_of_sources {paths includes : List String} {sources : Sources}
    (h : (tree.sources paths includes).answer = .ok sources) :
    ∃ inputs dirs, Takes tree (includes.map Path.ofText) [] (paths.map Path.ofText) inputs dirs ∧
      Closure tree dirs inputs sources.files ∧ sources.toGenerate = inputs.map (·.name) := by
  rw [answer_sources] at h
  obtain ⟨⟨inputs, dirs⟩, hstart, h⟩ := except_bind_ok_iff.mp h
  have htakes := takes_of_addSources hstart
  rcases htakes.completes.gathered (.start (htakes.nodup_names .nil)) with ⟨files, hok, hclosure⟩ |
    ⟨failure, _, _, herror, _⟩
  · rw [hok] at h
    cases h
    exact ⟨inputs, dirs, htakes, hclosure, rfl⟩
  · rw [herror] at h
    cases h

/-- Whatever the tree, the line of imports comes to an end, and a run answers what comes out there: the
closure of its inputs, which come first and are what it is for, or a failure. A run says that an import is
missing only of a name that is nowhere to be found. -/
theorem sources_import_closure (tree : FileTree) (paths includes : List String) :
    (∃ failure, (tree.sources paths includes).answer = .error failure ∧
      (tree.addSources (includes.map Path.ofText) [] (paths.map Path.ofText)).answer = .error failure ∧
      ∀ name, failure ≠ .descriptor (.missingImport name)) ∨
    ∃ inputs dirs answer,
      (tree.addSources (includes.map Path.ofText) [] (paths.map Path.ofText)).answer = .ok (inputs, dirs) ∧
      Start tree paths includes inputs dirs ∧
      Completes tree dirs inputs (inputs.flatMap (·.dependencies)) answer ∧
      (tree.sources paths includes).answer =
        answer.map (fun files => { files, toGenerate := inputs.map (·.name) }) ∧
      (∀ files, answer = .ok files → Closure tree dirs inputs files) ∧
      ∀ name, answer = .error (.descriptor (.missingImport name)) → Unfound tree dirs inputs name := by
  rw [answer_sources]
  cases hstart : (tree.addSources (includes.map Path.ofText) [] (paths.map Path.ofText)).answer with
  | error failure =>
    refine .inl ⟨failure, rfl, rfl, fun name heq => ?_⟩
    exact blamesNoImport_addSources name (hstart.trans (congrArg Except.error heq))
  | ok start =>
    obtain ⟨inputs, dirs⟩ := start
    have htakes := takes_of_addSources hstart
    refine .inr ⟨inputs, dirs, _, rfl, htakes.start, htakes.completes, rfl, ?_⟩
    rcases htakes.completes.gathered (.start (htakes.nodup_names .nil)) with ⟨gathered, hok, hclosure⟩ |
      ⟨failure, name, file, herror, hfile, hname, hinput, hfound⟩
    · rw [hok]
      refine ⟨?_, nofun⟩
      rintro files ⟨⟩
      exact hclosure
    · rw [herror]
      refine ⟨nofun, ?_⟩
      rintro missing ⟨⟩
      obtain ⟨rfl, hdirs, hunknown⟩ := findImport_missing hfound
      exact ⟨⟨file, hfile, hname⟩, hinput, hdirs, hunknown⟩

/-- Two files that import each other, and one of them itself. One lies outside of the working directory. -/
def cyclicTree : FileTree where
  files := [(["w", "a"], .text "import \"b\";"), (["i", "b"], .text "import \"a\";import \"b\";")]
  directories := [["i"]]
  workingDir := ["w"]

theorem sources_import_closure_cyclic :
    ∃ sources, (cyclicTree.sources ["a"] ["/i"]).answer = .ok sources ∧ sources.toGenerate = ["a"] ∧
      sources.files.map (·.name) = ["a", "b"] ∧ ∃ dirs inputs, Closure cyclicTree dirs inputs sources.files := by
  have hnames : (cyclicTree.sources ["a"] ["/i"]).answer.toOption.map
      (fun sources => (sources.toGenerate, sources.files.map (·.name))) = some (["a"], ["a", "b"]) := by
    decide +kernel
  rcases sources_import_closure cyclicTree ["a"] ["/i"] with ⟨failure, herror, _⟩ |
    ⟨inputs, dirs, answer, _, _, _, hanswer, hclosure, _⟩
  · rw [herror] at hnames
    cases hnames
  · rw [hanswer] at hnames ⊢
    cases answer with
    | error failure => cases hnames
    | ok files =>
      obtain ⟨hgenerate, hfiles⟩ := Prod.mk.inj (Option.some.inj hnames)
      exact ⟨_, rfl, hgenerate, hfiles, dirs, inputs, hclosure files rfl⟩

end RpcClients.FileTree
