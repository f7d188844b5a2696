import RpcClients.Proofs.ArtifactPlaces
import RpcClients.Proofs.SuccessCondition

/-! # Which artifacts have one name

The name of an artifact tells the directory of its unit and the file in it apart at the last slash. So only files that
are generated for schema files of one unit with the same stem get one name, unless a generated package has an empty
name: its directory is then that of the unit itself, where the package of another unit may lie. -/

namespace RpcClients

namespace Text

/-- The directory with a slash at its end, unless it is empty. -/
def folder (dir : String) : String := if dir = "" ∨ dir.toList.getLast? = some '/' then dir else dir ++ "/"

variable {dir other file name : String}

theorem joinPath_eq_folder (h : '/' ∉ file.toList) : joinPath dir file = folder dir ++ file := by
  unfold joinPath folder
  rw [if_neg fun hhead : file.toList.head? = some '/' => h (List.mem_of_mem_head? hhead)]
  split_ifs <;> rfl

theorem folder_ends (dir : String) : folder dir = "" ∨ (folder dir).toList.getLast? = some '/' := by
  unfold folder
  split_ifs with h
  · exact h
  · exact Or.inr (by simp)

theorem eq_nil_of_folder {before more : List Char} (h : (folder dir).toList = before ++ more) (hmore : '/' ∉ more) :
    more = [] := by
  by_contra hne
  rcases folder_ends dir with hempty | hlast
  · rw [hempty] at h
    simp_all
  · rw [h, List.getLast?_append_of_ne_nil _ hne] at hlast
    exact hmore (List.mem_of_getLast? hlast)

theorem folder_append_inj (hfile : '/' ∉ file.toList) (hname : '/' ∉ name.toList)
    (h : folder dir ++ file = folder other ++ name) : folder dir = folder other ∧ file = name := by
  have hlist : (folder dir).toList ++ file.toList = (folder other).toList ++ name.toList := by
    simpa using congrArg String.toList h
  rcases List.append_eq_append_iff.mp hlist with ⟨more, hdir, hrest⟩ | ⟨more, hdir, hrest⟩
  · obtain rfl := eq_nil_of_folder hdir fun hmem => hfile (hrest ▸ List.mem_append_left _ hmem)
    exact ⟨String.toList_injective (by simpa using hdir.symm), String.toList_injective hrest⟩
  · obtain rfl := eq_nil_of_folder hdir fun hmem => hname (hrest ▸ List.mem_append_left _ hmem)
    exact ⟨String.toList_injective (by simpa using hdir), String.toList_injective hrest.symm⟩

theorem folder_eq_append_slash (hdir : dir.toList.getLast? ≠ some '/') {text : String} (h : folder dir = text ++ "/") :
    dir = text := by
  unfold folder at h
  split_ifs at h with hends
  · exact absurd (by simp [h]) hdir
  · exact String.append_left_inj "/" |>.mp h

theorem folder_inj (hdir : dir.toList.getLast? ≠ some '/') (hother : other.toList.getLast? ≠ some '/')
    (h : folder dir = folder other) : dir = other := by
  by_cases hempty : other = ""
  · have hfolder : folder other = "" := by simp [folder, hempty]
    rw [hfolder] at h
    unfold folder at h
    split_ifs at h with hends
    · exact h.trans hempty.symm
    · simp at h
  · apply folder_eq_append_slash hdir
    rw [h, folder, if_neg (by simp [hempty, hother])]

theorem folder_folder_append (hfile : '/' ∉ file.toList) :
    folder (folder dir ++ file) = if file = "" then folder dir else folder dir ++ file ++ "/" := by
  split_ifs with hempty
  · rw [hempty, String.append_empty, folder, if_pos (folder_ends dir)]
  · have hne : file.toList ≠ [] := by simpa using hempty
    rw [folder, if_neg]
    rintro (hnone | hlast)
    · simp [hempty] at hnone
    · rw [String.toList_append, List.getLast?_append_of_ne_nil _ hne] at hlast
      exact hfile (List.mem_of_getLast? hlast)

end Text

/-! ## Directories -/

namespace Options

variable {options : Options} {unit other : GenerationUnit}

/-- The unit has a directory, and the parts of its path can be told apart. -/
structure Admits (options : Options) (unit : GenerationUnit) : Prop where
  plugin : ∀ plugin ∈ options.pluginName, '/' ∉ plugin.toList
  path : unit.importPath.toList.getLast? ≠ some '/'
  package : '/' ∉ unit.packageName.toList ∧ '.' ∉ unit.packageName.toList
  dir : ∃ dir, options.outputDir unit = .ok dir

theorem importPath_of_relativePath {base path : String} (hbase : options.importPathBase = some base)
    (h : options.relativePath unit = .ok path) :
    (unit.importPath = base ∧ path = "") ∨ unit.importPath = base ++ "/" ++ path := by
  unfold relativePath at h
  rw [hbase] at h
  simp only at h
  split_ifs at h with hsame hstarts
  · cases h
    exact Or.inl ⟨hsame, rfl⟩
  · cases h
    right
    obtain ⟨rest, hrest⟩ := List.isPrefixOf_iff_prefix.mp hstarts
    have hdrop : unit.importPath.toList.drop (base.length + 1) = rest := by
      rw [← hrest, ← String.length_toList]
      simp
    apply String.toList_injective
    rw [hdrop, ← hrest]
    simp

theorem exists_relativePath {base dir : String} (hbase : options.importPathBase = some base)
    (h : options.outputDir unit = .ok dir) : ∃ path, options.relativePath unit = .ok path := by
  obtain ⟨package, _, h⟩ := except_bind_ok_iff.mp h
  rw [hbase] at h
  obtain ⟨path, hpath, _⟩ := except_bind_ok_iff.mp h
  exact ⟨path, hpath⟩

theorem Admits.relativePath_spec {base : String} (h : options.Admits unit)
    (hbase : options.importPathBase = some base) :
    ∃ path, options.relativePath unit = .ok path ∧ (path = "" ↔ unit.importPath = base) ∧
      (path ≠ "" → unit.importPath = base ++ "/" ++ path) := by
  obtain ⟨dir, hdir⟩ := h.dir
  obtain ⟨path, hpath⟩ := exists_relativePath hbase hdir
  refine ⟨path, hpath, ?_⟩
  rcases importPath_of_relativePath hbase hpath with ⟨hsame, rfl⟩ | hbehind
  · exact ⟨by simp [hsame], fun hne => absurd rfl hne⟩
  · have hne : path ≠ "" := by
      rintro rfl
      exact h.path (by simp [hbehind])
    refine ⟨?_, fun _ => hbehind⟩
    constructor
    · exact fun hempty => absurd hempty hne
    · intro hsame
      have hlength := congrArg String.length (hsame.symm.trans hbehind)
      simp only [String.length_append] at hlength
      change base.length = base.length + 1 + path.length at hlength
      omega

theorem Admits.importPath_eq (h : options.Admits unit) (h' : options.Admits other)
    (heq : options.placeOf unit = options.placeOf other) : unit.importPath = other.importPath := by
  cases hbase : options.importPathBase with
  | none =>
    unfold placeOf at heq
    rwa [hbase] at heq
  | some base =>
    obtain ⟨path, hpath, hempty, hbehind⟩ := h.relativePath_spec hbase
    obtain ⟨path', hpath', hempty', hbehind'⟩ := h'.relativePath_spec hbase
    obtain rfl : path = path' := by rw [relativePath_ok hpath, relativePath_ok hpath', heq]
    by_cases hnone : path = ""
    · rw [hempty.mp hnone, hempty'.mp hnone]
    · rw [hbehind hnone, hbehind' hnone]

theorem Admits.last_placeOf (h : options.Admits unit) : (options.placeOf unit).toList.getLast? ≠ some '/' := by
  cases hbase : options.importPathBase with
  | none =>
    unfold placeOf
    rw [hbase]
    exact h.path
  | some base =>
    obtain ⟨path, hpath, _, hbehind⟩ := h.relativePath_spec hbase
    rw [← relativePath_ok hpath]
    by_cases hnone : path = ""
    · simp [hnone]
    · have hne : path.toList ≠ [] := by simpa using hnone
      have hlast := h.path
      rwa [hbehind hnone, String.toList_append, List.getLast?_append_of_ne_nil _ hne] at hlast

def generatedName (options : Options) (unit : GenerationUnit) : String := unit.packageName ++ options.pluginName.getD ""

theorem Admits.slash_not_mem_plugin (h : options.Admits unit) : '/' ∉ (options.pluginName.getD "").toList := by
  cases hname : options.pluginName with
  | none => simp
  | some plugin => exact h.plugin plugin hname

theorem Admits.slash_not_mem_generatedName (h : options.Admits unit) : '/' ∉ (options.generatedName unit).toList := by
  rw [generatedName, String.toList_append, List.mem_append, not_or]
  exact ⟨h.package.1, h.slash_not_mem_plugin⟩

theorem Admits.outputDir_eq (h : options.Admits unit) :
    options.outputDir unit = .ok (Text.folder (options.placeOf unit) ++ options.generatedName unit) := by
  obtain ⟨dir, hdir⟩ := h.dir
  obtain ⟨plugin, hname, heq⟩ := outputDir_ok hdir
  have hpackage : unit.packageName ++ plugin = options.generatedName unit := by rw [generatedName, hname]; rfl
  rw [hdir, heq, hpackage, Text.joinPath_eq_folder h.slash_not_mem_generatedName]

theorem Admits.importPath_eq_of_folder (h : options.Admits unit) (h' : options.Admits other)
    (heq : Text.folder (options.placeOf unit) = Text.folder (options.placeOf other)) :
    unit.importPath = other.importPath := h.importPath_eq h' (Text.folder_inj h.last_placeOf h'.last_placeOf heq)

theorem Admits.importPath_eq_of_outputDir (h : options.Admits unit) (h' : options.Admits other)
    (heq : options.outputDir unit = options.outputDir other) : unit.importPath = other.importPath := by
  rw [h.outputDir_eq, h'.outputDir_eq, Except.ok.injEq] at heq
  exact h.importPath_eq_of_folder h'
    (Text.folder_append_inj h.slash_not_mem_generatedName h'.slash_not_mem_generatedName heq).1

/-- The generated package of the one unit has no name, and the other one is generated where the unit lies. -/
def Overlap (options : Options) (unit other : GenerationUnit) : Prop :=
  options.generatedName unit = "" ∧ options.outputDir other = .ok (options.placeOf unit)

def filesFolder (options : Options) (unit : GenerationUnit) : String :=
  Text.folder (Text.folder (options.placeOf unit) ++ options.generatedName unit)

theorem Admits.filesFolder_eq (h : options.Admits unit) :
    options.filesFolder unit = if options.generatedName unit = "" then Text.folder (options.placeOf unit)
      else Text.folder (options.placeOf unit) ++ options.generatedName unit ++ "/" :=
  Text.folder_folder_append h.slash_not_mem_generatedName

theorem Admits.overlap_of_filesFolder (h : options.Admits unit) (h' : options.Admits other)
    (hunit : options.generatedName unit = "") (hother : options.generatedName other ≠ "")
    (heq : options.filesFolder unit = options.filesFolder other) : options.Overlap unit other := by
  rw [h.filesFolder_eq, h'.filesFolder_eq, if_pos hunit, if_neg hother] at heq
  refine ⟨hunit, ?_⟩
  rw [h'.outputDir_eq, ← Text.folder_eq_append_slash h.last_placeOf heq]

theorem Overlap.filesFolder_eq (h : options.Admits unit) (h' : options.Admits other)
    (hoverlap : options.Overlap unit other) :
    options.filesFolder unit = options.filesFolder other := by
  have hdir := hoverlap.2
  rw [h'.outputDir_eq, Except.ok.injEq] at hdir
  rw [h.filesFolder_eq, if_pos hoverlap.1, filesFolder, hdir]

theorem Admits.filesFolder_eq_iff (h : options.Admits unit) (h' : options.Admits other)
    (hne : unit.importPath ≠ other.importPath) :
    options.filesFolder unit = options.filesFolder other ↔ options.Overlap unit other ∨ options.Overlap other unit := by
  constructor
  · intro heq
    by_cases hunit : options.generatedName unit = "" <;> by_cases hother : options.generatedName other = ""
    · rw [h.filesFolder_eq, h'.filesFolder_eq, if_pos hunit, if_pos hother] at heq
      exact absurd (h.importPath_eq_of_folder h' heq) hne
    · exact Or.inl (h.overlap_of_filesFolder h' hunit hother heq)
    · exact Or.inr (h'.overlap_of_filesFolder h hother hunit heq.symm)
    · rw [h.filesFolder_eq, h'.filesFolder_eq, if_neg hunit, if_neg hother] at heq
      have hdir : options.outputDir unit = options.outputDir other := by
        rw [h.outputDir_eq, h'.outputDir_eq, (String.append_left_inj "/").mp heq]
      exact absurd (h.importPath_eq_of_outputDir h' hdir) hne
  · rintro (hoverlap | hoverlap)
    · exact hoverlap.filesFolder_eq h h'
    · exact (hoverlap.filesFolder_eq h' h).symm

theorem Overlap.generatedName_ne (h : options.Admits unit) (h' : options.Admits other)
    (hne : unit.importPath ≠ other.importPath) (hoverlap : options.Overlap unit other) :
    options.generatedName other ≠ "" := by
  intro hother
  have heq := hoverlap.filesFolder_eq h h'
  rw [h.filesFolder_eq, h'.filesFolder_eq, if_pos hoverlap.1, if_pos hother] at heq
  exact hne (h.importPath_eq_of_folder h' heq)

end Options

/-! ## Names -/

def File.stem (file : File) : String :=
  String.ofList (Text.withoutSuffix ".proto".toList (Text.baseName file.name).toList)

/-- An artifact by what it is generated for: a unit, or one of the schema files of the unit. -/
structure Slot where
  unit : GenerationUnit
  source : Option File
deriving DecidableEq

/-- The artifacts of a unit: one for the unit, then one for each schema file with services. -/
def GenerationUnit.slots (unit : GenerationUnit) : List Slot :=
  ⟨unit, none⟩ :: unit.serviceFiles.map fun file => ⟨unit, some file⟩

theorem GenerationUnit.unit_of_mem_slots {unit : GenerationUnit} {slot : Slot} (h : slot ∈ unit.slots) :
    slot.unit = unit := by
  rcases List.mem_cons.mp h with rfl | h
  · rfl
  · obtain ⟨file, _, rfl⟩ := List.mem_map.mp h
    rfl

namespace Slot

def nameIn (options : Options) (slot : Slot) : Except Failure String :=
  match slot.source with
  | none => options.unitFileName slot.unit
  | some file => options.sourceFileName slot.unit file.name

def localName (options : Options) (slot : Slot) : String :=
  match slot.source with
  | none => options.generatedName slot.unit ++ ".go"
  | some file => Options.localName (options.pluginName.getD "") file.name

/-- The artifacts are for schema files with one stem, of one unit or of units that overlap. -/
def Coincide (options : Options) (slot other : Slot) : Prop :=
  ∃ file ∈ slot.source, ∃ another ∈ other.source, file.stem = another.stem ∧
    (slot.unit = other.unit ∨ options.Overlap slot.unit other.unit ∨ options.Overlap other.unit slot.unit)

variable {options : Options} {slot other : Slot}

theorem slash_not_mem_localName (h : options.Admits slot.unit) : '/' ∉ (slot.localName options).toList := by
  unfold localName
  cases slot.source with
  | none => simpa using h.slash_not_mem_generatedName
  | some file => exact Options.slash_not_mem_localName h.slash_not_mem_plugin file.name

theorem nameIn_eq (h : options.Admits slot.unit) :
    slot.nameIn options = .ok (options.filesFolder slot.unit ++ slot.localName options) := by
  have hslash := slash_not_mem_localName h
  obtain ⟨dir, hdir⟩ := h.dir
  obtain ⟨plugin, hname, _⟩ := Options.outputDir_ok hdir
  have hrequire : options.requirePluginName = .ok plugin := by rw [Options.requirePluginName, hname]
  have hdir := h.outputDir_eq
  rw [Options.filesFolder, ← Text.joinPath_eq_folder hslash]
  unfold nameIn localName
  cases slot.source with
  | none =>
    simp only [Options.unitFileName, Options.packageName, hrequire, hdir, Options.generatedName, hname]
    rfl
  | some file =>
    simp only [Options.sourceFileName, hrequire, hdir, hname]
    rfl

theorem nameIn_eq_iff (h : options.Admits slot.unit) (h' : options.Admits other.unit) :
    slot.nameIn options = other.nameIn options ↔
      options.filesFolder slot.unit = options.filesFolder other.unit ∧
        slot.localName options = other.localName options := by
  rw [nameIn_eq h, nameIn_eq h', Except.ok.injEq]
  constructor
  · exact Text.folder_append_inj (slash_not_mem_localName h) (slash_not_mem_localName h')
  · rintro ⟨hfolder, hlocal⟩
    rw [hfolder, hlocal]

theorem localName_eq_iff (plugin : String) (file another : File) :
    Options.localName plugin file.name = Options.localName plugin another.name ↔ file.stem = another.stem := by
  change file.stem ++ "." ++ plugin ++ ".go" = another.stem ++ "." ++ plugin ++ ".go" ↔ _
  simp only [String.append_left_inj]

theorem localName_ne {unit : GenerationUnit} (h : options.Admits unit) (file : File) :
    options.generatedName unit ++ ".go" ≠ Options.localName (options.pluginName.getD "") file.name := by
  change unit.packageName ++ options.pluginName.getD "" ++ ".go" ≠
    file.stem ++ "." ++ options.pluginName.getD "" ++ ".go"
  simp only [ne_eq, String.append_left_inj]
  -- the dot behind the stem would belong to the name of the package
  intro heq
  exact h.package.2 (by simp [heq])

theorem filesFolder_eq_iff (h : options.Admits slot.unit) (h' : options.Admits other.unit)
    (hunits : slot.unit = other.unit ∨ slot.unit.importPath ≠ other.unit.importPath) :
    options.filesFolder slot.unit = options.filesFolder other.unit ↔
      slot.unit = other.unit ∨ options.Overlap slot.unit other.unit ∨ options.Overlap other.unit slot.unit := by
  rcases hunits with hsame | hne
  · exact ⟨fun _ => Or.inl hsame, fun _ => by rw [hsame]⟩
  · rw [h.filesFolder_eq_iff h' hne]
    exact (or_iff_right fun hsame => hne (by rw [hsame])).symm

theorem nameIn_unit_ne {unit another : GenerationUnit} (h : options.Admits unit) (h' : options.Admits another)
    (hne : unit.importPath ≠ another.importPath) :
    (⟨unit, none⟩ : Slot).nameIn options ≠ (⟨another, none⟩ : Slot).nameIn options := by
  rw [Ne, nameIn_eq_iff h h']
  rintro ⟨hfolder, hlocal⟩
  have hname : options.generatedName unit = options.generatedName another := (String.append_left_inj ".go").mp hlocal
  rcases (h.filesFolder_eq_iff h' hne).mp hfolder with hoverlap | hoverlap
  · exact hoverlap.generatedName_ne h h' hne (hname ▸ hoverlap.1)
  · exact hoverlap.generatedName_ne h' h hne.symm (hname.symm ▸ hoverlap.1)

/-- Artifacts have one name if and only if they coincide, given that they are not both for one unit. -/
theorem nameIn_eq_iff_coincide (h : options.Admits slot.unit) (h' : options.Admits other.unit)
    (hunits : (slot.unit = other.unit ∧ (slot.source = none → other.source ≠ none)) ∨
      slot.unit.importPath ≠ other.unit.importPath) :
    slot.nameIn options = other.nameIn options ↔ Coincide options slot other := by
  obtain ⟨unit, source⟩ := slot
  obtain ⟨another, source'⟩ := other
  simp only at h h' hunits
  have hfolder := @filesFolder_eq_iff options ⟨unit, source⟩ ⟨another, source'⟩ h h' (hunits.imp_left (·.1))
  cases source with
  | none =>
    cases source' with
    | none =>
      rcases hunits with ⟨_, hnone⟩ | hne
      · exact absurd rfl (hnone rfl)
      · exact ⟨fun heq => absurd heq (nameIn_unit_ne h h' hne), by simp [Coincide]⟩
    | some file =>
      rw [nameIn_eq_iff h h']
      exact ⟨fun heq => absurd heq.2 (localName_ne h file), by simp [Coincide]⟩
  | some file =>
    rw [nameIn_eq_iff h h']
    cases source' with
    | none => exact ⟨fun heq => absurd heq.2.symm (localName_ne h' file), by simp [Coincide]⟩
    | some file' =>
      have hlocal := localName_eq_iff (options.pluginName.getD "") file file'
      unfold Coincide
      rw [hfolder]
      simp only [localName, hlocal, Option.mem_some_iff, exists_eq_left']
      exact and_comm

end Slot

theorem Options.nameIn_pairwise {options : Options} {units : List GenerationUnit}
    (hpaths : (units.map (·.importPath)).Nodup) (hunits : ∀ unit ∈ units, options.Admits unit) :
    (units.flatMap GenerationUnit.slots).Pairwise fun slot other =>
      slot.nameIn options = other.nameIn options ↔ Slot.Coincide options slot other := by
  rw [List.pairwise_flatMap]
  constructor
  · intro unit hmem
    rw [GenerationUnit.slots, List.pairwise_cons, List.forall_mem_map, List.pairwise_map]
    constructor
    · intro file _
      exact Slot.nameIn_eq_iff_coincide (hunits unit hmem) (hunits unit hmem) (Or.inl ⟨rfl, by simp⟩)
    · refine List.pairwise_of_forall fun file another => ?_
      exact Slot.nameIn_eq_iff_coincide (hunits unit hmem) (hunits unit hmem) (Or.inl ⟨rfl, by simp⟩)
  · refine (List.pairwise_map.mp hpaths).imp_of_mem ?_
    intro unit another hmem hmem' hne slot hslot other hother
    have hslot := GenerationUnit.unit_of_mem_slots hslot
    have hother := GenerationUnit.unit_of_mem_slots hother
    exact Slot.nameIn_eq_iff_coincide (hslot ▸ hunits unit hmem) (hother ▸ hunits another hmem')
      (Or.inr (by rwa [hslot, hother]))

theorem Options.nameIn_eq_iff_of_sublist {options : Options} {units : List GenerationUnit} {slot other : Slot}
    (hpaths : (units.map (·.importPath)).Nodup) (hunits : ∀ unit ∈ units, options.Admits unit)
    (h : [slot, other].Sublist (units.flatMap GenerationUnit.slots)) :
    slot.nameIn options = other.nameIn options ↔ Slot.Coincide options slot other :=
  List.pairwise_iff_forall_sublist.mp (nameIn_pairwise hpaths hunits) h

/-! ## Runs -/

theorem GenerationUnit.map_nameIn_slots {options : Options} {unit : GenerationUnit} {unreadable : List String}
    {artifacts : List Artifact} (h : unitArtifacts options unreadable unit = .ok artifacts) :
    unit.slots.map (Slot.nameIn options) = artifacts.map fun artifact => .ok artifact.name := by
  obtain ⟨sources, hsources, rfl⟩ := unitArtifacts_ok h
  obtain ⟨target, first, others, _, hfirst, hothers, rfl⟩ := sourceFiles_ok hsources
  rw [slots, List.map_cons, List.map_map, List.map_cons, List.map_cons, List.map_map]
  refine congrArg₂ List.cons (kind_of_providerFile hfirst).2 (map_eq_map_of_forall₂ (hothers.imp ?_))
  intro file source hsource
  exact (kind_of_wrapperFile hsource).2.2

theorem generate_of_unitArtifacts {options : Options} {files : List File} {unreadable : List String}
    {units : List GenerationUnit} {parts : List (List Artifact)} (hunits : GenerationUnit.group files = .ok units)
    (hparts : units.mapM (unitArtifacts options unreadable) = .ok parts) :
    generate options files unreadable =
      match firstRepeated? [] (parts.flatten.map (·.name)) with
      | some name => .error (.grouping (.repeatedFile name))
      | none => .ok parts.flatten := by
  rw [generate, hunits]
  change (do let parts ← units.mapM (unitArtifacts options unreadable); _) = _
  rw [hparts]
  rfl

def Options.Clash (options : Options) (units : List GenerationUnit) : Prop :=
  ∃ slot other, [slot, other].Sublist (units.flatMap GenerationUnit.slots) ∧ Slot.Coincide options slot other

theorem map_nameIn_slots_of_parts {options : Options} {unreadable : List String} {units : List GenerationUnit}
    {parts : List (List Artifact)} (hparts : units.mapM (unitArtifacts options unreadable) = .ok parts) :
    (units.flatMap GenerationUnit.slots).map (Slot.nameIn options) =
      parts.flatten.map fun artifact => .ok artifact.name := by
  rw [List.map_flatten, List.map_flatMap, List.flatMap_def]
  refine congrArg _ (map_eq_map_of_forall₂ ((except_mapM_ok_iff.mp hparts).imp ?_))
  intro unit part hpart
  exact GenerationUnit.map_nameIn_slots hpart

theorem nodup_names_iff {options : Options} {unreadable : List String} {units : List GenerationUnit}
    {parts : List (List Artifact)} (hpaths : (units.map (·.importPath)).Nodup)
    (hunits : ∀ unit ∈ units, options.Admits unit)
    (hparts : units.mapM (unitArtifacts options unreadable) = .ok parts) :
    (parts.flatten.map (·.name)).Nodup ↔ ¬ options.Clash units := by
  have hnames : (units.flatMap GenerationUnit.slots).map (Slot.nameIn options) =
      (parts.flatten.map (·.name)).map Except.ok := by
    rw [List.map_map]
    exact map_nameIn_slots_of_parts hparts
  have hinjective : Function.Injective (Except.ok : String → Except Failure String) := fun _ _ => Except.ok.inj
  rw [← List.nodup_map_iff hinjective, ← hnames, List.Nodup, List.pairwise_map, List.pairwise_iff_forall_sublist]
  constructor
  · rintro hapart ⟨slot, other, hsublist, hcoincide⟩
    exact hapart hsublist ((Options.nameIn_eq_iff_of_sublist hpaths hunits hsublist).mpr hcoincide)
  · intro hclash slot other hsublist heq
    exact hclash ⟨slot, other, hsublist, (Options.nameIn_eq_iff_of_sublist hpaths hunits hsublist).mp heq⟩

/-- Units with different paths have different directories, and the path relative to the base gives the path of the unit
back. Two artifacts have one name exactly if they are for schema files with one stem, of one unit or of units that
overlap. If no unit fails, this is what makes a run fail, and otherwise it gives artifacts with these names. -/
theorem outputs_separate {options : Options} {units : List GenerationUnit}
    (hpaths : (units.map (·.importPath)).Nodup) (hunits : ∀ unit ∈ units, options.Admits unit) :
    (units.Pairwise fun unit other => options.outputDir unit ≠ options.outputDir other) ∧
    (∀ base, options.importPathBase = some base → ∀ unit ∈ units, ∃ path, options.relativePath unit = .ok path ∧
      (path = "" ↔ unit.importPath = base) ∧ (path ≠ "" → unit.importPath = base ++ "/" ++ path)) ∧
    (∀ slot other, [slot, other].Sublist (units.flatMap GenerationUnit.slots) →
      (∃ name, slot.nameIn options = .ok name) ∧ (∃ name, other.nameIn options = .ok name) ∧
      (slot.nameIn options = other.nameIn options ↔ Slot.Coincide options slot other)) ∧
    (∀ files unreadable, GenerationUnit.group files = .ok units →
      (∀ unit ∈ units, ∃ artifacts, unitArtifacts options unreadable unit = .ok artifacts) →
      ((∃ name, generate options files unreadable = .error (.grouping (.repeatedFile name))) ↔ options.Clash units) ∧
      (¬ options.Clash units → ∃ artifacts, generate options files unreadable = .ok artifacts ∧
        (units.flatMap GenerationUnit.slots).map (Slot.nameIn options) =
          artifacts.map fun artifact => .ok artifact.name)) := by
  refine ⟨?_, fun base hbase unit hunit => (hunits unit hunit).relativePath_spec hbase, ?_, ?_⟩
  · refine (List.pairwise_map.mp hpaths).imp_of_mem ?_
    intro unit other hunit hother hne heq
    exact hne ((hunits unit hunit).importPath_eq_of_outputDir (hunits other hother) heq)
  · intro slot other hsublist
    have hname : ∀ slot ∈ units.flatMap GenerationUnit.slots, ∃ name, slot.nameIn options = .ok name := by
      intro slot hslot
      obtain ⟨unit, hunit, hslot⟩ := List.mem_flatMap.mp hslot
      exact ⟨_, Slot.nameIn_eq (GenerationUnit.unit_of_mem_slots hslot ▸ hunits unit hunit)⟩
    exact ⟨hname slot (hsublist.subset (by simp)), hname other (hsublist.subset (by simp)),
      Options.nameIn_eq_iff_of_sublist hpaths hunits hsublist⟩
  · intro files unreadable hgroup hartifacts
    obtain ⟨parts, hparts⟩ := except_mapM_of_forall hartifacts
    have hnodup := nodup_names_iff hpaths hunits hparts
    rw [generate_of_unitArtifacts hgroup hparts]
    constructor
    · constructor
      · rintro ⟨name, hname⟩
        by_contra hclash
        rw [(firstRepeated?_eq_none_iff [] _).mpr ⟨hnodup.mpr hclash, by simp⟩] at hname
        cases hname
      · intro hclash
        obtain ⟨name, hname⟩ := firstRepeated?_of_not_nodup fun h => hnodup.mp h hclash
        exact ⟨name, by rw [hname]⟩
    · intro hclash
      rw [(firstRepeated?_eq_none_iff [] _).mpr ⟨hnodup.mpr hclash, by simp⟩]
      exact ⟨_, rfl, map_nameIn_slots_of_parts hparts⟩

/-- A file of the package `p` with one service. -/
def servedFile (name importPath packageName service : String) : File :=
  { name, package := "p", importPath, packageName
    services := [{ name := service, goName := service, fullName := "p." ++ service }] }

/-- The unit at the base itself, and a unit below it with two files that have one stem. -/
def twinUnits : List GenerationUnit :=
  [⟨"b", "b", [servedFile "s.proto" "b" "b" "S"]⟩,
   ⟨"b/c", "c", [servedFile "s.proto" "b/c" "c" "S", servedFile "v/s.proto" "b/c" "c" "T"]⟩]

theorem outputs_separate_twins :
    twinUnits.map basedOptions.outputDir = [.ok "bt", .ok "c/ct"] ∧
    ∃ name, generate basedOptions (twinUnits.flatMap (·.files)) = .error (.grouping (.repeatedFile name)) := by
  have hadmits : ∀ unit ∈ twinUnits, basedOptions.Admits unit := by
    unfold twinUnits
    rw [List.forall_mem_cons, List.forall_mem_singleton]
    constructor
    · exact ⟨by decide, by decide, by decide, _, rfl⟩
    · exact ⟨by decide, by decide, by decide, _, rfl⟩
  have hartifacts : ∀ unit ∈ twinUnits, ∃ artifacts, unitArtifacts basedOptions [] unit = .ok artifacts := by
    unfold twinUnits
    rw [List.forall_mem_cons, List.forall_mem_singleton]
    exact ⟨⟨_, rfl⟩, ⟨_, rfl⟩⟩
  refine ⟨rfl, ?_⟩
  refine ((outputs_separate (by decide) hadmits).2.2.2 _ [] rfl hartifacts).1.mpr ?_
  exact ⟨⟨_, some _⟩, ⟨_, some _⟩, .cons _ (.cons _ (.cons _ (List.Sublist.refl _))), _, rfl, _, rfl, rfl, Or.inl rfl⟩

/-- Options with which a generated package is called as the package itself. -/
def unmarkedOptions : Options := { shortOptions with pluginName := some "" }

/-- A unit whose package has no name, and one that is generated into the directory of the first. -/
def nestedUnits : List GenerationUnit :=
  [⟨"b/x", "", [servedFile "s.proto" "b/x" "" "S"]⟩, ⟨"b", "x", [servedFile "s.proto" "b" "x" "T"]⟩]

theorem nested_outputs_collide :
    (∀ unit ∈ nestedUnits, unmarkedOptions.Admits unit ∧ unit.serviceFiles.length = 1 ∧
      ∃ artifacts, unitArtifacts unmarkedOptions [] unit = .ok artifacts) ∧
    (nestedUnits.map (·.importPath)).Nodup ∧
    GenerationUnit.group (nestedUnits.flatMap (·.files)) = .ok nestedUnits ∧
    generate unmarkedOptions (nestedUnits.flatMap (·.files)) = .error (.grouping (.repeatedFile "b/x/s..go")) := by
  refine ⟨?_, by decide, rfl, rfl⟩
  unfold nestedUnits
  rw [List.forall_mem_cons, List.forall_mem_singleton]
  constructor
  · exact ⟨⟨by decide, by decide, by decide, _, rfl⟩, rfl, _, rfl⟩
  · exact ⟨⟨by decide, by decide, by decide, _, rfl⟩, rfl, _, rfl⟩

end RpcClients
