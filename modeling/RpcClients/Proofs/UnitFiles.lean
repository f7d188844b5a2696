import RpcClients.Proofs.UnitPartition

/-! # What units hold

Grouping splits the marked files by their import paths and keeps their order, both inside of a unit and from unit to
unit. It fails exactly on two marked files of one path that disagree on the package name, also if their unit would
have had no services. -/

namespace RpcClients

section

variable {α : Type} [DecidableEq α]

theorem pairwise_eraseDups (items : List α) :
    items.eraseDups.Pairwise fun one other => items.idxOf one < items.idxOf other := by
  induction items using List.reverseRecOn with
  | nil => simp
  | append_singleton items item ih =>
    have hkept : items.eraseDups.Pairwise fun one other =>
        (items ++ [item]).idxOf one < (items ++ [item]).idxOf other := by
      apply ih.imp_of_mem
      intro one other hone hother hlt
      rw [List.mem_eraseDups] at hone hother
      rwa [List.idxOf_append_of_mem hone, List.idxOf_append_of_mem hother]
    rw [eraseDups_concat]
    split_ifs with hitem
    · exact hkept
    · rw [List.pairwise_append]
      refine ⟨hkept, by simp, ?_⟩
      intro one hone other hother
      rw [List.mem_eraseDups] at hone
      rw [List.mem_singleton.mp hother, List.idxOf_append_of_mem hone, List.idxOf_append_of_notMem hitem]
      have := List.idxOf_lt_length_of_mem hone
      omega

end

namespace GenerationUnit

def marked (files : List File) : List File := files.filter (·.generate)

theorem mem_marked {files : List File} {file : File} : file ∈ marked files ↔ file ∈ files ∧ file.generate = true := by
  simp [marked]

theorem count_marked {files : List File} {file : File} (h : file.generate = true) :
    (marked files).count file = files.count file := by
  unfold marked
  rw [List.count_filter h]

/-- Two marked files have one import path and different package names. -/
def Conflicting (files : List File) : Prop :=
  ∃ one ∈ files, ∃ other ∈ files, one.generate = true ∧ other.generate = true ∧
    one.importPath = other.importPath ∧ one.packageName ≠ other.packageName

theorem conflicting_iff {files : List File} : Conflicting files ↔ ¬ PackagesAgree (marked files) := by
  unfold Conflicting PackagesAgree
  simp only [mem_marked]
  push Not
  constructor
  · rintro ⟨one, hone, other, hother, hmarked, hmarked', hpath, hname⟩
    exact ⟨one, ⟨hone, hmarked⟩, other, ⟨hother, hmarked'⟩, hpath, hname⟩
  · rintro ⟨one, ⟨hone, hmarked⟩, other, ⟨hother, hmarked'⟩, hpath, hname⟩
    exact ⟨one, hone, other, hother, hmarked, hmarked', hpath, hname⟩

/-- The units split the marked files by their import paths and leave out the paths without services. -/
structure Partitions (files : List File) (units : List GenerationUnit) : Prop where
  distinct : (units.map (·.importPath)).Nodup
  order : units.Pairwise fun one other =>
    ((marked files).map (·.importPath)).idxOf one.importPath <
      ((marked files).map (·.importPath)).idxOf other.importPath
  members : ∀ unit ∈ units, unit.files = (marked files).filter (·.importPath = unit.importPath)
  packageName : ∀ unit ∈ units, ∀ file ∈ unit.files, file.packageName = unit.packageName
  served : ∀ path, (∃ unit ∈ units, unit.importPath = path) ↔
    ∃ file ∈ marked files, file.importPath = path ∧ file.services ≠ []
  services : ∀ unit ∈ units, unit.services = (unit.files.map (·.services)).flatten
  once : ∀ file ∈ marked files, file.services ≠ [] → ∃ unit ∈ units, unit.files.count file = files.count file ∧
    ∀ other ∈ units, file ∈ other.files → other = unit

/-! ## The units of files -/

variable {files : List File} {unit : GenerationUnit}

theorem hasServices_iff : unit.hasServices = true ↔ ∃ file ∈ unit.files, file.services ≠ [] := by
  simp [hasServices, services]

theorem mem_unitsOf : unit ∈ unitsOf files ↔
    (∃ file ∈ marked files, unit = atPath (marked files) file.importPath) ∧
    ∃ file ∈ unit.files, file.services ≠ [] := by
  unfold unitsOf partition
  rw [List.mem_filter, hasServices_iff, List.mem_map]
  apply and_congr_left
  intro _
  constructor
  · rintro ⟨path, hpath, rfl⟩
    rw [List.mem_eraseDups] at hpath
    obtain ⟨file, hfile, rfl⟩ := List.mem_map.mp hpath
    exact ⟨file, hfile, rfl⟩
  · rintro ⟨file, hfile, rfl⟩
    exact ⟨file.importPath, List.mem_eraseDups.mpr (List.mem_map_of_mem hfile), rfl⟩

theorem files_of_mem_unitsOf (h : unit ∈ unitsOf files) :
    unit.files = (marked files).filter (·.importPath = unit.importPath) := by
  obtain ⟨⟨file, _, rfl⟩, _⟩ := mem_unitsOf.mp h
  rfl

theorem map_importPath_unitsOf :
    ((unitsOf files).map (·.importPath)).Sublist ((marked files).map (·.importPath)).eraseDups := by
  have hpaths : (partition (marked files)).map (·.importPath) = ((marked files).map (·.importPath)).eraseDups := by
    unfold partition
    rw [List.map_map]
    exact List.map_id _
  rw [← hpaths]
  exact List.filter_sublist.map _

theorem mem_unitsOf_of_services {file : File} (hfile : file ∈ marked files) (hservices : file.services ≠ []) :
    atPath (marked files) file.importPath ∈ unitsOf files :=
  mem_unitsOf.mpr ⟨⟨file, hfile, rfl⟩, file, by simp [atPath, hfile], hservices⟩

theorem unitsOf_partitions (h : PackagesAgree (marked files)) : Partitions files (unitsOf files) where
  distinct := map_importPath_unitsOf.nodup (nodup_eraseDups _)
  order := by
    have hpaths := (pairwise_eraseDups ((marked files).map (·.importPath))).sublist map_importPath_unitsOf
    rwa [List.pairwise_map] at hpaths
  members := fun unit hunit => files_of_mem_unitsOf hunit
  packageName := by
    intro unit hunit file hfile
    rw [files_of_mem_unitsOf hunit] at hfile
    obtain ⟨⟨first, _, rfl⟩, _⟩ := mem_unitsOf.mp hunit
    simp only [List.mem_filter, decide_eq_true_eq] at hfile
    have hname := h.packageName_atPath hfile.1
    rw [hfile.2] at hname
    exact hname.symm
  served := by
    intro path
    constructor
    · rintro ⟨unit, hunit, rfl⟩
      obtain ⟨_, file, hfile, hservices⟩ := mem_unitsOf.mp hunit
      rw [files_of_mem_unitsOf hunit] at hfile
      simp only [List.mem_filter, decide_eq_true_eq] at hfile
      exact ⟨file, hfile.1, hfile.2, hservices⟩
    · rintro ⟨file, hfile, rfl, hservices⟩
      exact ⟨_, mem_unitsOf_of_services hfile hservices, rfl⟩
  services := fun _ _ => List.flatMap_def
  once := by
    intro file hfile hservices
    refine ⟨_, mem_unitsOf_of_services hfile hservices, ?_, ?_⟩
    · unfold atPath
      rw [List.count_filter (by simp), count_marked (mem_marked.mp hfile).2]
    · -- a unit is told by its path, and a file in it has that path
      intro other hother hmem
      rw [files_of_mem_unitsOf hother] at hmem
      obtain ⟨⟨first, _, rfl⟩, _⟩ := mem_unitsOf.mp hother
      simp only [List.mem_filter, decide_eq_true_eq] at hmem
      rw [hmem.2]
      rfl

/-- Grouping fails with a conflict exactly if two marked files conflict. Otherwise the units partition the marked
files: their paths stand in the order of first occurrence, each unit holds all marked files of its path in their
order, and a path has a unit exactly if one of these files has services. Files that are not marked do not matter. -/
theorem group_partitions (files : List File) :
    ((∃ problem, group files = .error (.grouping problem)) ↔ Conflicting files) ∧
    ((∃ units, group files = .ok units ∧ Partitions files units) ↔ ¬ Conflicting files) ∧
    ∀ others, marked others = marked files → group others = group files := by
  refine ⟨⟨?_, ?_⟩, ⟨?_, ?_⟩, ?_⟩
  · rintro ⟨problem, hproblem⟩
    rw [conflicting_iff]
    intro hagree
    rw [group_eq hagree] at hproblem
    cases hproblem
  · intro hconflict
    exact group_error (conflicting_iff.mp hconflict)
  · rintro ⟨units, hunits, _⟩ hconflict
    obtain ⟨problem, hproblem⟩ := group_error (conflicting_iff.mp hconflict)
    rw [hproblem] at hunits
    cases hunits
  · intro hconflict
    rw [conflicting_iff, not_not] at hconflict
    exact ⟨_, group_eq hconflict, unitsOf_partitions hconflict⟩
  · intro others hsame
    unfold group gather
    rw [← marked, hsame, marked]

/-- Files of three paths that take turns. One path has no services, and one file is not marked. -/
def interleavedFiles : List File :=
  let file (name path package : String) (services : List String) (generate : Bool) : File :=
    { name, package := "p", importPath := path, packageName := package, generate
      services := services.map fun service => { name := service, goName := service, fullName := service } }
  [file "a" "x" "one" ["A"] true, file "b" "y" "two" [] true, file "c" "x" "other" ["C"] false,
   file "d" "z" "three" ["D", "E"] true, file "e" "x" "one" [] true, file "f" "y" "two" [] true]

theorem group_partitions_interleaved :
    ¬ Conflicting interleavedFiles ∧ ∃ units, group interleavedFiles = .ok units ∧ Partitions interleavedFiles units ∧
      units.map (fun unit => (unit.importPath, unit.files.map (·.name))) = [("x", ["a", "e"]), ("z", ["d"])] := by
  have hagree : PackagesAgree (marked interleavedFiles) := by decide
  have hconflict : ¬ Conflicting interleavedFiles := by
    rw [conflicting_iff, not_not]
    exact hagree
  obtain ⟨units, hunits, hparts⟩ := (group_partitions interleavedFiles).2.1.mpr hconflict
  refine ⟨hconflict, units, hunits, hparts, ?_⟩
  rw [group_eq hagree] at hunits
  cases hunits
  decide

end GenerationUnit

end RpcClients
