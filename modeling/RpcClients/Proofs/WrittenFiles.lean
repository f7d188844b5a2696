import RpcClients.Proofs.ArtifactPlaces
import RpcClients.Proofs.RefusedSources

/-! # Files that a command writes

A path that leads to a file, or to where one can be made, leads to the place that it resolves to. So a command
that generates clients changes the files at the places of its artifacts and no others, and none if it reports
an error. -/

namespace RpcClients

namespace FileTree

variable {tree next : FileTree} {path : Path}

theorem place_of_follow {dir place : Place} {parts : List String}
    (h : tree.follow dir parts = .vacant place ∨ ∃ content, tree.follow dir parts = .file place content) :
    place = parts.foldl Place.next dir := by
  induction parts generalizing dir with
  | nil => rcases h with h | ⟨_, h⟩ <;> cases h
  | cons part rest ih =>
    rw [List.foldl_cons]
    simp only [follow] at h
    by_cases hup : part = ".."
    · rw [if_pos hup] at h
      rw [ih h, Place.next, if_pos hup]
    · simp only [if_neg hup] at h
      rw [Place.next, if_neg hup]
      by_cases hlong : Path.isTooLong part = true
      · simp [hlong] at h
      · simp only [if_neg hlong] at h
        by_cases hdirectory : tree.isDirectory (dir ++ [part]) = true
        · exact ih (by simpa only [if_pos hdirectory] using h)
        · simp only [if_neg hdirectory] at h
          -- the path ends here
          cases rest with
          | nil =>
            cases hfile : tree.files.lookup (dir ++ [part]) with
            | none => simpa [hfile, eq_comm] using h
            | some content => simpa [hfile, eq_comm] using h
          | cons next rest => cases hfile : tree.files.lookup (dir ++ [part]) <;> simp [hfile] at h

theorem place_of_spot {place : Place}
    (h : tree.spot path = .vacant place ∨ ∃ content, tree.spot path = .file place content) :
    place = tree.resolve path := by
  unfold spot spotWritten at h
  split_ifs at h
  · simp at h
  · exact place_of_follow h

theorem makeDirectory_ok (h : tree.makeDirectory path = .ok next) :
    next.files = tree.files ∧ next.workingDir = tree.workingDir := by
  unfold makeDirectory at h
  cases hspot : tree.spot path <;> simp only [hspot] at h <;> cases h <;> exact ⟨rfl, rfl⟩

theorem makeDirectoriesFrom_ok {dir : Path} (h : tree.makeDirectoriesFrom dir path = .ok next) :
    next.files = tree.files ∧ next.workingDir = tree.workingDir := by
  induction path generalizing tree dir with
  | nil =>
    cases h
    exact ⟨rfl, rfl⟩
  | cons part rest ih =>
    cases rest with
    | nil => exact makeDirectory_ok h
    | cons second rest =>
      rw [makeDirectoriesFrom] at h
      cases hmade : tree.makeDirectory (dir ++ [part]) with
      | error fault => cases fault <;> simp [hmade] at h
      | ok made =>
        obtain ⟨hfiles, hworking⟩ := makeDirectory_ok hmade
        rw [hmade] at h
        obtain ⟨hnext, hnextWorking⟩ := ih h
        exact ⟨hnext.trans hfiles, hnextWorking.trans hworking⟩
      · exact List.cons_ne_nil _ _

theorem makeDirectories_ok (h : tree.makeDirectories path = .ok next) :
    next.files = tree.files ∧ next.workingDir = tree.workingDir := by
  unfold makeDirectories at h
  split_ifs at h
  exact makeDirectoriesFrom_ok h

theorem resolve_congr (h : next.workingDir = tree.workingDir) (path : Path) :
    next.resolve path = tree.resolve path := by
  unfold resolve start
  rw [h]

/-- A file that is written lies at the place that its path resolves to. -/
theorem write_ok {text : String} (h : tree.write path text = .ok next) :
    next.files = putEntry (tree.resolve path) (.text text) tree.files ∧ next.workingDir = tree.workingDir := by
  obtain ⟨made, hmade, h⟩ := except_bind_ok_iff.mp h
  obtain ⟨hfiles, hworking⟩ := makeDirectories_ok hmade
  unfold writeFile at h
  split_ifs at h
  have hplace {place : Place}
      (hspot : made.spot path = .vacant place ∨ ∃ content, made.spot path = .file place content) :
      place = tree.resolve path := by
    rw [place_of_spot hspot, resolve_congr hworking]
  cases hspot : made.spot path with
  | file place content =>
    rw [hspot] at h
    cases h
    exact ⟨by rw [hplace (.inr ⟨content, hspot⟩), hfiles], hworking⟩
  | vacant place =>
    rw [hspot] at h
    cases h
    exact ⟨by rw [hplace (.inl hspot), hfiles], hworking⟩
  | _ =>
    rw [hspot] at h
    cases h

end FileTree

namespace Command

variable {tree next : FileTree} {invocation : Invocation} {dir : Path} {artifacts : List Artifact}

/-- The file that an artifact becomes. -/
def fileOf (tree : FileTree) (dir : Path) (artifact : Artifact) : FileTree.Place × FileTree.Content :=
  (tree.resolve (dir.join (Path.ofText artifact.name)), .text artifact.content)

theorem fst_run_writeArtifact (found : Settings) (artifact : Artifact) (log : List LogLine) :
    ((writeArtifact found dir tree artifact).run.run log).1 =
      if found.hasUnwritablePath then .error (.fault .loneSurrogate)
      else
        (tree.write (dir.join (Path.ofText artifact.name)) artifact.content).mapError .fault >>= fun next =>
          if found.isUnwritable then .error (.fault .loneSurrogate) else .ok next := by
  unfold writeArtifact
  dsimp only
  -- what the settings hold does not matter here, and it would be evaluated
  generalize found.hasUnwritablePath = badPath
  generalize found.isUnwritable = badText
  cases badPath with
  | true => rfl
  | false =>
    cases tree.write (dir.join (Path.ofText artifact.name)) artifact.content with
    | error fault => rfl
    | ok next => cases badText <;> rfl

theorem steady_writeArtifact (found : Settings) (tree : FileTree) (artifact : Artifact) :
    (writeArtifact found dir tree artifact).Steady :=
  fun log => (fst_run_writeArtifact found artifact log).trans (fst_run_writeArtifact found artifact []).symm

theorem write_of_writeArtifact {found : Settings} {artifact : Artifact}
    (h : (writeArtifact found dir tree artifact).answer = .ok next) :
    tree.write (dir.join (Path.ofText artifact.name)) artifact.content = .ok next := by
  rw [Logged.answer, fst_run_writeArtifact] at h
  split_ifs at h
  · obtain ⟨_, _, h⟩ := except_bind_ok_iff.mp h
    cases h
  · obtain ⟨made, hmade, h⟩ := except_bind_ok_iff.mp h
    cases h
    cases hwrite : tree.write (dir.join (Path.ofText artifact.name)) artifact.content with
    | error fault =>
      rw [hwrite] at hmade
      cases hmade
    | ok written =>
      rw [hwrite] at hmade
      cases hmade
      rfl

/-- Writing artifacts sets the files at their places, the last one that is written there, and no others. -/
theorem lookup_writeArtifacts {found : Settings}
    (h : (artifacts.foldlM (writeArtifact found dir) tree).answer = .ok next) (place : FileTree.Place) :
    next.files.lookup place =
      ((artifacts.map (fileOf tree dir)).reverse.lookup place).or (tree.files.lookup place) := by
  induction artifacts generalizing tree with
  | nil =>
    cases h
    rfl
  | cons artifact rest ih =>
    have hsteady (made : FileTree) : (rest.foldlM (writeArtifact found dir) made).Steady :=
      Logged.steady_foldlM (steady_writeArtifact found) _ _
    rw [List.foldlM_cons, Logged.answer_bind _ hsteady] at h
    obtain ⟨made, hmade, h⟩ := except_bind_ok_iff.mp h
    obtain ⟨hfiles, hworking⟩ := FileTree.write_ok (write_of_writeArtifact hmade)
    have hsame : fileOf made dir = fileOf tree dir := by
      funext artifact
      rw [fileOf, fileOf, FileTree.resolve_congr hworking]
    rw [ih h, hsame, hfiles, lookup_putEntry, List.map_cons, List.reverse_cons, List.lookup_append, Option.or_assoc,
      lookup_cons_ite]
    congr 1
    rw [fileOf]
    split_ifs <;> rfl

/-! ## Whole runs -/

theorem steady_loadFiles : (loadFiles tree invocation).Steady := by
  have hsources : (tree.sources (invocation.values .input) (invocation.values .protoPath)).Steady :=
    FileTree.steady_addSources.bind fun _ => FileTree.steady_closeImports.bind fun _ => Logged.steady_pure _
  exact hsources.bind fun _ => (Logged.steady_ofExcept _).bind fun _ =>
    (Logged.steady_debug _).bind fun _ => Logged.steady_pure _

def outputDir (invocation : Invocation) : Path := .ofText ((invocation.values .output).getLast?.getD "")

theorem answer_gen :
    (gen tree invocation).answer = settings tree invocation >>= fun found =>
      (loadFiles tree invocation).answer >>= fun files =>
        generate found.options files >>= fun artifacts =>
          (artifacts.foldlM (writeArtifact found (outputDir invocation)) tree).answer := by
  have hend (text : String) (next : FileTree) : (Logged.info text >>= fun _ => pure next).Steady :=
    (Logged.steady_lines _).bind fun _ => Logged.steady_pure _
  have hwrites (found : Settings) (artifacts : List Artifact) :
      (artifacts.foldlM (writeArtifact found (outputDir invocation)) tree).Steady :=
    Logged.steady_foldlM (steady_writeArtifact found) _ _
  unfold gen
  refine (Logged.answer_bind _ fun found => ?_).trans ?_
  · exact steady_loadFiles.bind fun _ => (Logged.steady_lines _).bind fun _ =>
      (Logged.steady_ofExcept _).bind fun _ => (hwrites found _).bind fun _ => hend _ _
  rw [Logged.answer_ofExcept]
  congr 1
  funext found
  refine (Logged.answer_bind _ fun _ => ?_).trans ?_
  · exact (Logged.steady_lines _).bind fun _ =>
      (Logged.steady_ofExcept _).bind fun _ => (hwrites found _).bind fun _ => hend _ _
  congr 1
  funext files
  refine (Logged.answer_bind _ fun _ => ?_).trans ?_
  · exact (Logged.steady_ofExcept _).bind fun _ => (hwrites found _).bind fun _ => hend _ _
  refine (Logged.answer_bind _ fun _ => ?_).trans ?_
  · exact (hwrites found _).bind fun _ => hend _ _
  rw [Logged.answer_ofExcept]
  congr 1
  funext artifacts
  refine (Logged.answer_bind _ fun _ => hend _ _).trans ?_
  exact bind_pure _

theorem outcome_of_ok {α : Type} {step : Logged α} {value : α} {lines : List LogLine}
    (h : step.run.run [] = (.ok value, lines)) (verbose : Bool) (success : α → String → Outcome) :
    outcome verbose tree step success = .ok (success value (LogLine.shown verbose lines)) := by
  unfold outcome
  rw [h]

/-- A run that generates clients and reports an error leaves the files as they are. One that succeeds leaves each
artifact at the place that its name leads to from the output directory, and no other file is changed. So contained
artifacts change nothing outside of that directory. -/
theorem run_gen_writes {arguments : List String} {input : Wire.Bytes} {outcome : Outcome}
    (harguments : Invocation.ofArguments tree arguments = .ok invocation) (hcommand : invocation.command = .gen)
    (h : run arguments tree input = .ok outcome) :
    (outcome.exitCode = 1 ∧ outcome.tree = tree) ∨
    outcome.exitCode = 0 ∧ ∃ found files artifacts, settings tree invocation = .ok found ∧
      (loadFiles tree invocation).answer = .ok files ∧ generate found.options files = .ok artifacts ∧
      (∀ place, outcome.tree.files.lookup place =
        ((artifacts.map (fileOf tree (outputDir invocation))).reverse.lookup place).or (tree.files.lookup place)) ∧
      ((∀ artifact ∈ artifacts, Contained artifact.name) →
        ∀ place, outcome.tree.files.lookup place ≠ tree.files.lookup place →
          ∃ artifact ∈ artifacts,
            place.below? (tree.resolve (outputDir invocation)) = some (Path.ofText artifact.name)) := by
  rw [run, harguments] at h
  simp only [runInvocation, hcommand] at h
  rcases hrun : (gen tree invocation).run.run [] with ⟨failure | next, lines⟩
  · rw [outcome_of_error hrun] at h
    cases failure with
    | reported error =>
      cases h
      exact .inl ⟨rfl, rfl⟩
    | fault fault => cases h
  · rw [outcome_of_ok hrun] at h
    cases h
    have hanswer : (gen tree invocation).answer = .ok next := congrArg Prod.fst hrun
    rw [answer_gen] at hanswer
    obtain ⟨found, hfound, hanswer⟩ := except_bind_ok_iff.mp hanswer
    obtain ⟨files, hfiles, hanswer⟩ := except_bind_ok_iff.mp hanswer
    obtain ⟨artifacts, hartifacts, hwritten⟩ := except_bind_ok_iff.mp hanswer
    have hlookup := lookup_writeArtifacts hwritten
    refine .inr ⟨rfl, found, files, artifacts, hfound, hfiles, hartifacts, hlookup, ?_⟩
    intro hcontained place hchanged
    cases hnew : (artifacts.map (fileOf tree (outputDir invocation))).reverse.lookup place with
    | none => exact absurd (by rw [hlookup, hnew, Option.none_or]) hchanged
    | some content =>
      obtain ⟨before, after, hsplit, _⟩ := List.lookup_eq_some_iff.mp hnew
      have hmem : (place, content) ∈ (artifacts.map (fileOf tree (outputDir invocation))).reverse := by simp [hsplit]
      obtain ⟨artifact, hartifact, hfile⟩ := List.mem_map.mp (List.mem_reverse.mp hmem)
      obtain rfl : _ = place := congrArg Prod.fst hfile
      exact ⟨artifact, hartifact, (hcontained artifact hartifact).below tree _⟩

end Command

end RpcClients
