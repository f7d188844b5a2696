import RpcClients.Proofs.EmittedMethods
import RpcClients.Proofs.UnitValidity

/-! # When a run succeeds

With the default options and complete files, a run fails for five reasons only: two files disagree on the
package name of an import path, the wrapper types of a unit clash, a method streams, a field stands in a
oneof, or two artifacts have one name. The second, third and fourth are failures inside of a unit, and the
first unit that has one is named in the report. -/

namespace RpcClients

open GenerationUnit

/-- The names of the artifacts of a run, unit by unit. -/
def namesOfRun (files : List File) : List String := (unitsOf files).flatMap artifactNames

theorem firstRepeated?_eq_none_iff (seen names : List String) :
    firstRepeated? seen names = none ↔ names.Nodup ∧ ∀ name ∈ names, name ∉ seen := by
  induction names generalizing seen with
  | nil => simp [firstRepeated?]
  | cons name rest ih =>
    rw [firstRepeated?]
    split_ifs with hseen
    · simp [hseen]
    · rw [ih, List.nodup_cons, List.forall_mem_cons]
      simp only [List.mem_cons, not_or]
      constructor
      · rintro ⟨hrest, hfresh⟩
        exact ⟨⟨fun hmem => (hfresh name hmem).1 rfl, hrest⟩, hseen, fun other hother => (hfresh other hother).2⟩
      · rintro ⟨⟨hnot, hrest⟩, _, hfresh⟩
        exact ⟨hrest, fun other hother => ⟨ne_of_mem_of_not_mem hother hnot, hfresh other hother⟩⟩

theorem firstRepeated?_of_not_nodup {names : List String} (h : ¬ names.Nodup) :
    ∃ name, firstRepeated? [] names = some name := by
  rw [← Option.ne_none_iff_exists', Ne, firstRepeated?_eq_none_iff]
  simpa using h

variable {files : List File}

theorem complete_of_mem_unitsOf (h : ∀ file ∈ files, file.Complete) :
    ∀ unit ∈ unitsOf files, unit.Complete := by
  intro unit hunit
  obtain ⟨file, hfile, hpath, hfiles⟩ := mem_of_mem_unitsOf hunit
  refine ⟨hpath ▸ (h file hfile).1, ?_⟩
  intro service hservice
  obtain ⟨other, hother, hservice⟩ := List.mem_flatMap.mp hservice
  exact (h other (hfiles hother)).2 service hservice

/-! ## The outcomes of a run -/

theorem generate_of_disagree (h : ¬ PackagesAgree (files.filter (·.generate))) :
    ∃ problem, generate {} files = .error (.grouping problem) := by
  obtain ⟨problem, hproblem⟩ := group_error h
  refine ⟨problem, ?_⟩
  rw [generate, hproblem]
  rfl

theorem generate_of_invalid (hcomplete : ∀ file ∈ files, file.Complete)
    (hagree : PackagesAgree (files.filter (·.generate))) {unit : GenerationUnit}
    (hfirst : (unitsOf files).find? (fun unit => ¬ unit.Valid) = some unit) :
    ∃ cause, generate {} files = .error (.reported ⟨cause, some unit.importPath⟩) := by
  obtain ⟨hinvalid, before, after, hunits, hbefore⟩ := List.find?_eq_some_iff_append.mp hfirst
  simp only [decide_eq_true_eq] at hinvalid
  have hcomplete := complete_of_mem_unitsOf hcomplete
  rw [hunits, List.forall_mem_append, List.forall_mem_cons] at hcomplete
  have hgiven : ∀ other ∈ before, ∃ artifacts, unitArtifacts {} [] other = .ok artifacts := by
    intro other hother
    exact (unitArtifacts_ok_iff (hcomplete.1 other hother)).mpr (by simpa using hbefore other hother)
  cases houtcome : unitArtifacts {} [] unit with
  | ok artifacts => exact absurd ((unitArtifacts_ok_iff hcomplete.2.1).mp ⟨artifacts, houtcome⟩) hinvalid
  | error failure =>
    obtain ⟨cause, rfl⟩ := unitArtifacts_error (by simp [Options.Reporting]) houtcome
    refine ⟨cause, ?_⟩
    rw [generate, group_eq hagree, hunits]
    change (do let parts ← (before ++ unit :: after).mapM (unitArtifacts {} []); _) = _
    rw [except_mapM_error hgiven houtcome]
    rfl

theorem generate_of_valid (hcomplete : ∀ file ∈ files, file.Complete)
    (hagree : PackagesAgree (files.filter (·.generate))) (hvalid : ∀ unit ∈ unitsOf files, unit.Valid) :
    ∃ artifacts, artifacts.map (·.name) = namesOfRun files ∧
      generate {} files =
        match firstRepeated? [] (namesOfRun files) with
        | some name => .error (.grouping (.repeatedFile name))
        | none => .ok artifacts := by
  have hcomplete := complete_of_mem_unitsOf hcomplete
  obtain ⟨parts, hparts⟩ := except_mapM_of_forall fun unit hunit =>
    (unitArtifacts_ok_iff (hcomplete unit hunit)).mpr (hvalid unit hunit)
  have hnames : parts.flatten.map (·.name) = namesOfRun files := by
    rw [namesOfRun, List.map_flatten, List.flatMap_def]
    refine congrArg _ (map_eq_map_of_forall₂ ((except_mapM_ok_iff.mp hparts).imp ?_)).symm
    intro unit part hpart
    exact (names_of_unitArtifacts hpart).symm
  refine ⟨parts.flatten, hnames, ?_⟩
  rw [generate, group_eq hagree, ← hnames]
  change (do let parts ← (unitsOf files).mapM (unitArtifacts {} []); _) = _
  rw [hparts]
  rfl

theorem generate_of_repeated (hcomplete : ∀ file ∈ files, file.Complete)
    (hagree : PackagesAgree (files.filter (·.generate))) (hvalid : ∀ unit ∈ unitsOf files, unit.Valid)
    (hrepeated : ¬ (namesOfRun files).Nodup) : ∃ problem, generate {} files = .error (.grouping problem) := by
  obtain ⟨artifacts, _, hrun⟩ := generate_of_valid hcomplete hagree hvalid
  obtain ⟨name, hname⟩ := firstRepeated?_of_not_nodup hrepeated
  rw [hname] at hrun
  exact ⟨_, hrun⟩

theorem generate_of_nodup (hcomplete : ∀ file ∈ files, file.Complete)
    (hagree : PackagesAgree (files.filter (·.generate))) (hvalid : ∀ unit ∈ unitsOf files, unit.Valid)
    (hnodup : (namesOfRun files).Nodup) :
    ∃ artifacts, artifacts.map (·.name) = namesOfRun files ∧ generate {} files = .ok artifacts := by
  obtain ⟨artifacts, hnames, hrun⟩ := generate_of_valid hcomplete hagree hvalid
  rw [(firstRepeated?_eq_none_iff [] _).mpr ⟨hnodup, by simp⟩] at hrun
  exact ⟨artifacts, hnames, hrun⟩

/-- Whatever a run needs to succeed, it fails without. -/
theorem conditions_of_generate (hcomplete : ∀ file ∈ files, file.Complete) {artifacts : List Artifact}
    (h : generate {} files = .ok artifacts) :
    PackagesAgree (files.filter (·.generate)) ∧ (∀ unit ∈ unitsOf files, unit.Valid) ∧
      (namesOfRun files).Nodup := by
  have hagree : PackagesAgree (files.filter (·.generate)) := by
    by_contra hnot
    obtain ⟨problem, hproblem⟩ := generate_of_disagree hnot
    rw [h] at hproblem
    cases hproblem
  have hvalid : ∀ unit ∈ unitsOf files, unit.Valid := by
    cases hfirst : (unitsOf files).find? (fun unit => ¬ unit.Valid) with
    | none => simpa using List.find?_eq_none.mp hfirst
    | some unit =>
      obtain ⟨cause, hcause⟩ := generate_of_invalid hcomplete hagree hfirst
      rw [h] at hcause
      cases hcause
  refine ⟨hagree, hvalid, ?_⟩
  by_contra hrepeated
  obtain ⟨problem, hproblem⟩ := generate_of_repeated hcomplete hagree hvalid hrepeated
  rw [h] at hproblem
  cases hproblem

/-! ## Success and failure -/

/-- With the default options and complete files a run succeeds if and only if files with one import path
have one package name, the wrapper types of each unit differ from each other and from the provider's, all
methods of units are unary, no field of their messages stands in a oneof, and the artifacts have different
names. If the package names agree, the first unit that is not valid is named in the report. What is not the
fault of a unit is reported as a problem of grouping, without one. -/
theorem generate_succeeds_iff (complete : ∀ file ∈ files, file.Complete) :
    ((∃ artifacts, generate {} files = .ok artifacts) ↔
      PackagesAgree (files.filter (·.generate)) ∧
      (∀ unit ∈ unitsOf files, unit.NamesApart) ∧
      (∀ unit ∈ unitsOf files, unit.AllUnary) ∧
      (∀ unit ∈ unitsOf files, unit.NoOneofs) ∧
      (namesOfRun files).Nodup) ∧
    (∀ artifacts, generate {} files = .ok artifacts → artifacts.map (·.name) = namesOfRun files) ∧
    (PackagesAgree (files.filter (·.generate)) →
      ∀ unit, (unitsOf files).find? (fun unit => ¬ unit.Valid) = some unit →
        ∃ cause, generate {} files = .error (.reported ⟨cause, some unit.importPath⟩)) ∧
    (¬ PackagesAgree (files.filter (·.generate)) ∨
        ((∀ unit ∈ unitsOf files, unit.Valid) ∧ ¬ (namesOfRun files).Nodup) →
      ∃ problem, generate {} files = .error (.reported ⟨.grouping problem, none⟩)) := by
  refine ⟨⟨?_, ?_⟩, ?_, ?_, ?_⟩
  · rintro ⟨artifacts, h⟩
    obtain ⟨hagree, hvalid, hnodup⟩ := conditions_of_generate complete h
    exact ⟨hagree, fun unit hunit => (hvalid unit hunit).1, fun unit hunit => (hvalid unit hunit).2.1,
      fun unit hunit => (hvalid unit hunit).2.2, hnodup⟩
  · rintro ⟨hagree, hnames, hunary, honeof, hnodup⟩
    obtain ⟨artifacts, _, h⟩ := generate_of_nodup complete hagree
      (fun unit hunit => ⟨hnames unit hunit, hunary unit hunit, honeof unit hunit⟩) hnodup
    exact ⟨artifacts, h⟩
  · intro artifacts h
    obtain ⟨hagree, hvalid, hnodup⟩ := conditions_of_generate complete h
    obtain ⟨given, hnames, hgiven⟩ := generate_of_nodup complete hagree hvalid hnodup
    rw [h] at hgiven
    cases hgiven
    exact hnames
  · intro hagree unit hfirst
    exact generate_of_invalid complete hagree hfirst
  · rintro (hnot | ⟨hvalid, hrepeated⟩)
    · exact generate_of_disagree hnot
    · by_cases hagree : PackagesAgree (files.filter (·.generate))
      · exact generate_of_repeated complete hagree hvalid hrepeated
      · exact generate_of_disagree hagree

/-- The files of two units, in turns. A method of the second unit streams, and so does one of a third. -/
def streamingFiles : List File :=
  let empty : Message := { fullName := "shop.Empty", ident := ⟨"Empty", "shop/books/v1"⟩ }
  let watch (shop : String) (streams : Bool) : Service :=
    { name := "Watch", goName := "Watch", fullName := shop ++ ".Watch"
      methods := [{ name := "Next", goName := "Next", fullName := shop ++ ".Watch.Next"
                    input := empty, output := empty, serverStreaming := streams }] }
  [bookshop,
   { name := "shop/feed.proto", package := "feed", importPath := "shop/feed", packageName := "feed" },
   { name := "shop/till.proto", package := "shop", importPath := "shop/shelf", packageName := "shelf"
     services := [watch "shop" false] },
   { name := "shop/live.proto", package := "feed", importPath := "shop/feed", packageName := "feed"
     services := [watch "feed" true] },
   { name := "shop/other.proto", package := "other", importPath := "shop/other", packageName := "other"
     services := [watch "other" true] }]

theorem generate_succeeds_iff_streaming :
    (∀ file ∈ streamingFiles, file.Complete) ∧
    (∃ artifacts, generate {} [bookshop] = .ok artifacts) ∧
    ∃ cause, generate {} streamingFiles = .error (.reported ⟨cause, some "shop/feed"⟩) := by
  have hfiles : ∀ file ∈ streamingFiles, file.Complete := by decide
  refine ⟨hfiles, (generate_succeeds_iff (by decide)).1.mpr (by decide), ?_⟩
  exact (generate_succeeds_iff hfiles).2.2.1 (by decide) (atPath streamingFiles "shop/feed")
    (by decide)

end RpcClients
