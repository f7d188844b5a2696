import RpcClients.GenerationUnit
import RpcClients.Proofs.Resolution

/-! # What units collect

The files of a unit have its import path and its package name, and they come from the files of the run. -/

namespace RpcClients.GenerationUnit

/-- The unit holds files of the list that belong to it. -/
def Collects (files : List File) (unit : GenerationUnit) : Prop :=
  ∀ file ∈ unit.files, file ∈ files ∧ file.importPath = unit.importPath ∧
    file.packageName = unit.packageName

theorem insert_collects {files : List File} {file : File} {units next : List GenerationUnit}
    (h : insert file units = .ok next) (hfile : file ∈ files) (hunits : ∀ unit ∈ units, unit.Collects files) :
    ∀ unit ∈ next, unit.Collects files := by
  induction units generalizing next with
  | nil =>
    cases h
    simp [Collects, hfile]
  | cons unit rest ih =>
    rw [List.forall_mem_cons] at hunits
    rw [insert] at h
    split_ifs at h with hpath hname
    · cases h
      rw [List.forall_mem_cons]
      refine ⟨?_, hunits.2⟩
      intro other hother
      rcases List.mem_append.mp hother with hother | hother
      · exact hunits.1 other hother
      · rw [List.mem_singleton.mp hother]
        exact ⟨hfile, hpath.symm, hname.symm⟩
    · obtain ⟨others, hothers, hnext⟩ := except_bind_ok_iff.mp h
      rw [except_pure_ok_iff] at hnext
      rw [hnext, List.forall_mem_cons]
      exact ⟨hunits.1, ih hothers hunits.2⟩

theorem foldlM_insert_collects {files added : List File} {units next : List GenerationUnit}
    (h : added.foldlM (fun units file => insert file units) units = .ok next) (hadded : added ⊆ files)
    (hunits : ∀ unit ∈ units, unit.Collects files) : ∀ unit ∈ next, unit.Collects files := by
  induction added generalizing units with
  | nil =>
    rw [List.foldlM_nil, except_pure_ok_iff] at h
    rwa [h]
  | cons file rest ih =>
    rw [List.foldlM_cons] at h
    obtain ⟨middle, hmiddle, hrest⟩ := except_bind_ok_iff.mp h
    rw [List.cons_subset] at hadded
    exact ih hrest hadded.2 (insert_collects hmiddle hadded.1 hunits)

theorem group_collects {files : List File} {units : List GenerationUnit} (h : group files = .ok units) :
    ∀ unit ∈ units, unit.hasServices = true ∧ unit.Collects files := by
  obtain ⟨gathered, hgathered, hunits⟩ := except_bind_ok_iff.mp h
  rw [except_pure_ok_iff] at hunits
  intro unit hunit
  rw [hunits, List.mem_filter] at hunit
  refine ⟨hunit.2, foldlM_insert_collects hgathered ?_ (by simp) unit hunit.1⟩
  exact List.filter_subset_self _

end RpcClients.GenerationUnit
