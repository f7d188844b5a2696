import RpcClients.Proofs.EmittedMethods
import RpcClients.Proofs.LoadedPackages
import RpcClients.Proofs.Pieces
import RpcClients.Workspace

/-! # Where artifacts lie

A name stays below the directory it is joined to if it does not start at the root and does not go up. The
names of artifacts are joined from the path of their unit, the name of the generated package and a file
name, and they stay below exactly if all of these do. -/

namespace RpcClients

/-- The name does not start with a slash, and none of its components leads up. -/
def Contained (name : String) : Prop := name.toList.head? ≠ some '/' ∧ ".." ∉ Text.split '/' name

instance (name : String) : Decidable (Contained name) := inferInstanceAs (Decidable (_ ∧ _))

namespace Text

theorem split_slash (first second : String) :
    split '/' (first ++ "/" ++ second) = split '/' first ++ split '/' second := by
  simp [split, pieces_append_cons]

end Text

/-! ## Joined names -/

theorem contained_empty : Contained "" := by decide

theorem head?_toList_append {text : String} (h : text ≠ "") (rest : String) :
    (text ++ rest).toList.head? = text.toList.head? := by
  rw [String.toList_append, List.head?_append_of_ne_nil _ (String.toList_eq_nil_iff.not.mpr h)]

theorem contained_joinPath (first second : String) :
    Contained (Text.joinPath first second) ↔ Contained first ∧ Contained second := by
  unfold Text.joinPath
  split_ifs with hroot hfirst
  · exact ⟨fun h => absurd hroot h.1, fun h => absurd hroot h.2.1⟩
  · rcases hfirst with rfl | hlast
    · rw [String.empty_append]
      exact (and_iff_right contained_empty).symm
    · -- the first path brings the slash
      obtain ⟨chars, hchars⟩ := List.getLast?_eq_some_iff.mp hlast
      obtain rfl : first = String.ofList chars ++ "/" := String.toList_injective (by simp [hchars])
      have hsplit : Text.split '/' (String.ofList chars ++ "/") = Text.split '/' (String.ofList chars) ++ [""] := by
        have hsplit := Text.split_slash (String.ofList chars) ""
        rwa [String.append_empty] at hsplit
      unfold Contained
      rw [Text.split_slash, hsplit]
      simp [hroot, List.head?_append, and_assoc]
  · rw [not_or] at hfirst
    unfold Contained
    rw [Text.split_slash, String.append_assoc, head?_toList_append hfirst.1]
    simp [hroot, and_assoc]

theorem Contained.append {text ending : String} (h : Contained text) (hslash : '/' ∉ ending.toList)
    (hlength : 2 < ending.length) : Contained (text ++ ending) := by
  obtain ⟨hroot, hup⟩ := h
  constructor
  · by_cases hempty : text = ""
    · rw [hempty, String.empty_append]
      exact fun heq => hslash (List.mem_of_mem_head? heq)
    · rwa [head?_toList_append hempty]
  · obtain ⟨before, last, hpieces, hending⟩ := Text.pieces_append_of_not_mem hslash text.toList
    rw [Text.split, hpieces, List.map_append, List.mem_append, not_or] at hup
    rw [Text.split, String.toList_append, hending, List.map_append, List.mem_append, not_or]
    refine ⟨hup.1, fun hmem => ?_⟩
    have heq : "..".length = (String.ofList (last ++ ending.toList)).length :=
      congrArg String.length (List.mem_singleton.mp hmem)
    simp only [String.length_ofList, List.length_append, String.length_toList] at heq
    change 2 = _ at heq
    omega

theorem contained_of_not_mem {text : String} (hslash : '/' ∉ text.toList) (hup : text ≠ "..") : Contained text := by
  refine ⟨fun heq => hslash (List.mem_of_mem_head? heq), ?_⟩
  rw [Text.split, Text.pieces_of_not_mem hslash, List.map_singleton, String.ofList_toList, List.mem_singleton]
  exact hup.symm

/-! ## Names of files -/

namespace Options

variable {options : Options} {unit : GenerationUnit}

/-- Where the directory of a unit lies: at its import path, or what stands behind the base in it. -/
def placeOf (options : Options) (unit : GenerationUnit) : String :=
  match options.importPathBase with
  | none => unit.importPath
  | some base => String.ofList (unit.importPath.toList.drop (base.length + 1))

/-- The name in its directory of the file generated for a schema file. -/
def localName (plugin source : String) : String :=
  String.ofList (Text.withoutSuffix ".proto".toList (Text.baseName source).toList) ++ "." ++ plugin ++ ".go"

theorem requirePluginName_ok {plugin : String} (h : options.requirePluginName = .ok plugin) :
    options.pluginName = some plugin := by
  unfold requirePluginName at h
  cases hname : options.pluginName with
  | none => simp [hname] at h
  | some name => simpa [hname] using h

theorem relativePath_ok {path : String} (h : options.relativePath unit = .ok path) : path = options.placeOf unit := by
  unfold relativePath at h
  unfold placeOf
  cases hbase : options.importPathBase with
  | none => simp [hbase] at h
  | some base =>
    simp only [hbase] at h
    split_ifs at h with hsame
    · cases h
      -- nothing stands behind the base
      have hdrop : unit.importPath.toList.drop (base.length + 1) = [] := by
        rw [hsame]
        exact List.drop_of_length_le (Nat.le_trans (Nat.le_of_eq String.length_toList) (Nat.le_succ _))
      exact (congrArg String.ofList hdrop).symm
    · cases h
      rfl

theorem outputDir_ok {dir : String} (h : options.outputDir unit = .ok dir) :
    ∃ plugin, options.pluginName = some plugin ∧
      dir = Text.joinPath (options.placeOf unit) (unit.packageName ++ plugin) := by
  obtain ⟨package, hpackage, h⟩ := except_bind_ok_iff.mp h
  obtain ⟨plugin, hplugin, hpure⟩ := except_bind_ok_iff.mp hpackage
  obtain rfl := except_pure_ok_iff.mp hpure
  refine ⟨plugin, requirePluginName_ok hplugin, ?_⟩
  split_ifs at h with hbase
  · obtain rfl := except_pure_ok_iff.mp h
    unfold placeOf
    rw [Option.isNone_iff_eq_none.mp hbase]
  · obtain ⟨path, hpath, hdir⟩ := except_bind_ok_iff.mp h
    rw [except_pure_ok_iff.mp hdir, relativePath_ok hpath]

/-- The path of the unit, the generated package and the files generated for schema files are contained. -/
def Contains (options : Options) (unit : GenerationUnit) : Prop :=
  ∀ plugin ∈ options.pluginName, Contained (options.placeOf unit) ∧ Contained (unit.packageName ++ plugin) ∧
    ∀ file ∈ unit.serviceFiles, Contained (localName plugin file.name)

theorem contained_unitFileName {name plugin : String} (h : options.unitFileName unit = .ok name)
    (hplugin : options.pluginName = some plugin) :
    Contained name ↔ Contained (options.placeOf unit) ∧ Contained (unit.packageName ++ plugin) := by
  obtain ⟨package, hpackage, h⟩ := except_bind_ok_iff.mp h
  obtain ⟨dir, hdir, hname⟩ := except_bind_ok_iff.mp h
  obtain ⟨other, hother, hpure⟩ := except_bind_ok_iff.mp hpackage
  obtain rfl := except_pure_ok_iff.mp hpure
  obtain rfl := except_pure_ok_iff.mp hname
  obtain ⟨_, hsame, rfl⟩ := outputDir_ok hdir
  cases hplugin.symm.trans hsame
  cases hplugin.symm.trans (requirePluginName_ok hother)
  rw [contained_joinPath, contained_joinPath]
  exact and_iff_left_of_imp fun h => h.2.append (by decide) (by decide)

theorem contained_sourceFileName {source name plugin : String} (h : options.sourceFileName unit source = .ok name)
    (hplugin : options.pluginName = some plugin) :
    Contained name ↔ (Contained (options.placeOf unit) ∧ Contained (unit.packageName ++ plugin)) ∧
      Contained (localName plugin source) := by
  obtain ⟨dir, hdir, h⟩ := except_bind_ok_iff.mp h
  obtain ⟨other, hother, hname⟩ := except_bind_ok_iff.mp h
  obtain ⟨_, hsame, rfl⟩ := outputDir_ok hdir
  cases hplugin.symm.trans hsame
  cases hplugin.symm.trans (requirePluginName_ok hother)
  rw [except_pure_ok_iff.mp hname, contained_joinPath, contained_joinPath]
  rfl

theorem contained_sourceFiles_iff {unreadable : List String} {sources : List SourceFile}
    (h : unit.sourceFiles options unreadable = .ok sources) :
    (∀ source ∈ sources, Contained source.name) ↔ options.Contains unit := by
  obtain ⟨target, first, others, htarget, hfirst, hothers, rfl⟩ := GenerationUnit.sourceFiles_ok h
  have hplugin := (GenerationUnit.target_ok htarget).1
  have hunit := contained_unitFileName (kind_of_providerFile hfirst).2 hplugin
  have hfile (file : File) (source : SourceFile)
      (hsource : unit.wrapperFile options target unreadable file = .ok source) :=
    contained_sourceFileName (kind_of_wrapperFile hsource).2.2 hplugin
  rw [List.forall_mem_cons, hunit]
  unfold Contains
  rw [hplugin]
  constructor
  · rintro ⟨⟨hplace, hpackage⟩, hall⟩ _ ⟨⟩
    refine ⟨hplace, hpackage, fun file hmem => ?_⟩
    obtain ⟨source, hsource, hwrapper⟩ := exists_of_forall₂_left hothers hmem
    exact ((hfile file source hwrapper).mp (hall source hsource)).2
  · intro hcontains
    obtain ⟨hplace, hpackage, hlocal⟩ := hcontains _ rfl
    refine ⟨⟨hplace, hpackage⟩, fun source hsource => ?_⟩
    obtain ⟨file, hmem, hwrapper⟩ := exists_of_forall₂_right hothers hsource
    exact (hfile file source hwrapper).mpr ⟨⟨hplace, hpackage⟩, hlocal file hmem⟩

theorem slash_not_mem_localName {plugin : String} (hplugin : '/' ∉ plugin.toList) (source : String) :
    '/' ∉ (localName plugin source).toList := by
  have hbase : '/' ∉ (Text.baseName source).toList := by
    unfold Text.baseName Text.afterLast
    rw [String.toList_ofList, List.getLastD_eq_getLast?,
      List.getLast?_eq_getLast_of_ne_nil (Text.pieces_ne_nil _ _), Option.getD_some]
    exact Text.not_mem_of_mem_pieces (List.getLast_mem _)
  have hstem : '/' ∉ Text.withoutSuffix ".proto".toList (Text.baseName source).toList := by
    unfold Text.withoutSuffix
    split_ifs
    · exact fun hmem => hbase (List.mem_of_mem_take hmem)
    · exact hbase
  rw [localName]
  simpa [hplugin] using hstem

theorem contained_localName {plugin : String} (hplugin : '/' ∉ plugin.toList) (source : String) :
    Contained (localName plugin source) := by
  refine contained_of_not_mem (slash_not_mem_localName hplugin source) fun heq => ?_
  have hlength := congrArg String.length heq
  simp only [localName, String.length_append] at hlength
  change _ + 1 + _ + 3 = 2 at hlength
  omega

/-- With a plugin name without slashes and a package that is named by a word, only the path of the unit
counts. -/
theorem contains_iff_of_word {plugin : String} (hname : options.pluginName = some plugin)
    (hplugin : '/' ∉ plugin.toList) (hpackage : Naming.IsWord unit.packageName) :
    options.Contains unit ↔ Contained (options.placeOf unit) := by
  have hgenerated : Contained (unit.packageName ++ plugin) := by
    refine contained_of_not_mem ?_ fun heq => ?_
    · rw [String.toList_append, List.mem_append, not_or]
      exact ⟨hpackage.not_mem (by decide), hplugin⟩
    · have hhead := head?_toList_append hpackage.1 plugin
      rw [heq] at hhead
      exact hpackage.not_mem (by decide) (List.mem_of_mem_head? hhead.symm)
  constructor
  · exact fun h => (h plugin hname).1
  · intro hplace other hother
    cases hname.symm.trans hother
    exact ⟨hplace, hgenerated, fun file _ => contained_localName hplugin file.name⟩

end Options

/-! ## Places below a directory -/

theorem Path.root?_eq_none {text : List Char} (h : text.head? ≠ some '/') : root? text = none := by
  unfold root?
  split
  all_goals simp_all

theorem FileTree.Place.foldl_next {parts : List String} (hup : ".." ∉ parts) (place : Place) :
    parts.foldl next place = place ++ parts := by
  induction parts generalizing place with
  | nil => exact (List.append_nil place).symm
  | cons part rest ih =>
    rw [List.mem_cons, not_or] at hup
    rw [List.foldl_cons, ih hup.2, next, if_neg (Ne.symm hup.1), List.append_assoc, List.singleton_append]

theorem FileTree.resolve_join (tree : FileTree) (dir : Path) {path : Path} (h : path.isAbsolute = false) :
    tree.resolve (dir.join path) = path.foldl Place.next (tree.resolve dir) := by
  have hjoin : dir.join path = dir ++ path := by rw [Path.join, if_neg (Bool.eq_false_iff.mp h)]
  cases dir with
  | nil =>
    have hnil : Path.isAbsolute [] = false := rfl
    simp only [hjoin, List.nil_append, resolve, start, Path.names, h, hnil, Bool.false_eq_true, if_false,
      List.foldl_nil]
  | cons part rest =>
    have hsame : Path.isAbsolute (part :: rest ++ path) = Path.isAbsolute (part :: rest) := rfl
    rw [hjoin, resolve, resolve, start, start, Path.names, Path.names, hsame, ← List.foldl_append]
    split_ifs <;> rfl

theorem Contained.below {name : String} (h : Contained name) (tree : FileTree) (dir : Path) :
    (tree.resolve (dir.join (Path.ofText name))).below? (tree.resolve dir) = some (Path.ofText name) := by
  obtain ⟨hroot, hup⟩ := h
  have hparts : Path.ofText name = (Text.split '/' name).filter fun part => part ≠ "" ∧ part ≠ "." := by
    rw [Path.ofText, Path.root?_eq_none hroot, Option.toList_none, List.nil_append]
  have hrelative : (Path.ofText name).isAbsolute = false := by
    rw [Path.isAbsolute, Option.any_eq_false]
    intro part hpart
    -- a component holds no slash
    rw [hparts] at hpart
    obtain ⟨piece, hpiece, rfl⟩ := List.mem_map.mp (List.mem_filter.mp (List.mem_of_mem_head? hpart)).1
    rw [Path.isRoot, String.toList_ofList, decide_eq_false_iff_not]
    exact fun hslash => Text.not_mem_of_mem_pieces hpiece (List.mem_of_mem_head? hslash)
  have hdown : ".." ∉ Path.ofText name := by
    rw [hparts]
    exact fun hmem => hup (List.mem_filter.mp hmem).1
  rw [FileTree.resolve_join tree dir hrelative, FileTree.Place.foldl_next hdown]
  simp [FileTree.Place.below?]

/-! ## Whole runs -/

theorem contained_names_iff {options : Options} {unreadable : List String} {units : List GenerationUnit}
    {sources : List (List SourceFile)}
    (h : List.Forall₂ (fun unit files => unit.sourceFiles options unreadable = .ok files) units sources) :
    (∀ source ∈ sources.flatten, Contained source.name) ↔ ∀ unit ∈ units, options.Contains unit := by
  constructor
  · intro hcontained unit hunit
    obtain ⟨own, hown, hfiles⟩ := exists_of_forall₂_left h hunit
    refine (Options.contained_sourceFiles_iff hfiles).mp fun source hsource => ?_
    exact hcontained source (List.mem_flatten.mpr ⟨own, hown, hsource⟩)
  · intro hcontains source hsource
    obtain ⟨own, hown, hmem⟩ := List.mem_flatten.mp hsource
    obtain ⟨unit, hunit, hfiles⟩ := exists_of_forall₂_right h hown
    exact (Options.contained_sourceFiles_iff hfiles).mpr (hcontains unit hunit) source hmem

theorem GenerationUnit.word_of_group {descriptors : List Schema.FileDescriptor} {toGenerate unreadable : List String}
    {files : List File} {units : List GenerationUnit} {unit : GenerationUnit}
    (hload : Schema.load descriptors toGenerate unreadable = .ok files) (hunits : group files = .ok units)
    (hunit : unit ∈ units) : Naming.IsWord unit.packageName := by
  obtain ⟨hservices, hcollects⟩ := group_collects hunits unit hunit
  have hne : unit.services ≠ [] := by simpa [hasServices] using hservices
  obtain ⟨service, hservice⟩ := List.exists_mem_of_ne_nil unit.services hne
  obtain ⟨file, hfile, hown⟩ := List.mem_flatMap.mp hservice
  obtain ⟨hmem, _, hpackage⟩ := hcollects file hfile
  rw [← hpackage]
  exact Schema.word_of_load hload file hmem (List.ne_nil_of_mem hown)

/-- The artifacts of a run are contained if and only if the paths are that their names are joined from. For
loaded files and a plugin name without slashes these are the paths of the units. What is contained lies below
any directory that the run writes to. -/
theorem artifacts_contained_iff {options : Options} {files : List File} {unreadable : List String}
    {artifacts : List Artifact} (h : generate options files unreadable = .ok artifacts) :
    ∃ units, GenerationUnit.group files = .ok units ∧
      ((∀ artifact ∈ artifacts, Contained artifact.name) ↔ ∀ unit ∈ units, options.Contains unit) ∧
      ((∃ descriptors toGenerate, Schema.load descriptors toGenerate unreadable = .ok files) →
        (∀ plugin ∈ options.pluginName, '/' ∉ plugin.toList) →
        ((∀ artifact ∈ artifacts, Contained artifact.name) ↔
          ∀ unit ∈ units, Contained (options.placeOf unit))) ∧
      ∀ artifact ∈ artifacts, Contained artifact.name → ∀ (tree : FileTree) (dir : Path),
        (tree.resolve (dir.join (Path.ofText artifact.name))).below? (tree.resolve dir) =
          some (Path.ofText artifact.name) := by
  obtain ⟨units, sources, hunits, hsources, rfl⟩ := generate_ok h
  have hall : (∀ artifact ∈ sources.flatten.map SourceFile.artifact, Contained artifact.name) ↔
      ∀ unit ∈ units, options.Contains unit := by
    rw [List.forall_mem_map]
    exact contained_names_iff hsources
  refine ⟨units, hunits, hall, ?_, fun artifact _ hcontained => hcontained.below⟩
  rintro ⟨descriptors, toGenerate, hload⟩ hplugin
  rw [hall]
  refine forall₂_congr fun unit hunit => ?_
  obtain ⟨own, _, hfiles⟩ := exists_of_forall₂_left hsources hunit
  obtain ⟨target, _, _, htarget, _⟩ := GenerationUnit.sourceFiles_ok hfiles
  have hname := (GenerationUnit.target_ok htarget).1
  exact Options.contains_iff_of_word hname (hplugin _ hname) (GenerationUnit.word_of_group hload hunits hunit)

/-- A schema file with a service in the given Go package. -/
def placed (goPackage : String) : Schema.FileDescriptor where
  name := "a.proto"
  options := { goPackage := some goPackage }
  services := [{ name := "S" }]

def placedFile (importPath : String) : File where
  name := "a.proto"
  package := ""
  importPath := importPath
  packageName := "x"
  services := [{ name := "S", goName := "S", fullName := "S" }]

/-- Generated packages lie in the directory by what stands behind this base. -/
def basedOptions : Options := { shortOptions with importPathBase := some "b" }

theorem artifacts_contained_iff_below :
    Schema.load [placed "b/x"] ["a.proto"] = .ok [placedFile "b/x"] ∧
      ∃ artifacts, generate basedOptions [placedFile "b/x"] = .ok artifacts ∧
        artifacts.map (·.name) = ["x/xt/xt.go", "x/xt/a.t.go"] ∧ ∀ artifact ∈ artifacts, Contained artifact.name := by
  have hload : Schema.load [placed "b/x"] ["a.proto"] = .ok [placedFile "b/x"] := by decide +kernel
  have hnames : (generate basedOptions [placedFile "b/x"]).toOption.map (·.map (·.name)) =
      some ["x/xt/xt.go", "x/xt/a.t.go"] := by decide +kernel
  have hgroup : GenerationUnit.group [placedFile "b/x"] = .ok [⟨"b/x", "x", [placedFile "b/x"]⟩] := by
    decide +kernel
  cases hartifacts : generate basedOptions [placedFile "b/x"] with
  | error failure =>
    rw [hartifacts] at hnames
    cases hnames
  | ok artifacts =>
    rw [hartifacts] at hnames
    obtain ⟨units, hunits, _, hloaded, _⟩ := artifacts_contained_iff hartifacts
    cases hgroup.symm.trans hunits
    refine ⟨hload, artifacts, rfl, Option.some.inj hnames, (hloaded ⟨_, _, hload⟩ ?_).mpr ?_⟩
    · rintro _ ⟨⟩
      decide
    · intro unit hunit
      obtain rfl := List.mem_singleton.mp hunit
      decide

/-- A package behind a double slash leaves the directory, although it counts as below the base. -/
theorem placed_escapes :
    Schema.load [placed "b//x"] ["a.proto"] = .ok [placedFile "b//x"] ∧
      ∃ artifacts, generate basedOptions [placedFile "b//x"] = .ok artifacts ∧
        ∃ artifact ∈ artifacts, artifact.name = "/x/xt/xt.go" ∧ ¬ Contained artifact.name := by
  have hload : Schema.load [placed "b//x"] ["a.proto"] = .ok [placedFile "b//x"] := by decide +kernel
  have hnames : (generate basedOptions [placedFile "b//x"]).toOption.map (·.map (·.name)) =
      some ["/x/xt/xt.go", "/x/xt/a.t.go"] := by decide +kernel
  cases hartifacts : generate basedOptions [placedFile "b//x"] with
  | error failure =>
    rw [hartifacts] at hnames
    cases hnames
  | ok artifacts =>
    rw [hartifacts] at hnames
    have hmem : "/x/xt/xt.go" ∈ artifacts.map (·.name) := by
      rw [show artifacts.map (·.name) = _ from Option.some.inj hnames]
      exact List.mem_cons_self
    obtain ⟨artifact, hartifact, hname⟩ := List.mem_map.mp hmem
    refine ⟨hload, artifacts, rfl, artifact, hartifact, hname, ?_⟩
    rw [hname]
    decide

end RpcClients
