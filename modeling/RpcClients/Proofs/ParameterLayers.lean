import Mathlib.Data.List.ReduceOption
import RpcClients.Options
import RpcClients.Proofs.Pieces
import RpcClients.Proofs.Resolution

/-! # Parameter texts in layers

What an item of parameter text sets does not depend on the options that it is applied to. So texts that are
applied one after the other act as one text: the first item that cannot be read decides the failure, the last
value of an option counts, and named packages are added to those that are there. -/

namespace RpcClients.Options

/-- What parameter text can set. -/
inductive Key where
  | plugin
  | base
  | context
  | httpClient
  | twirpClient
  | zap
  | package (name : String)
deriving DecidableEq

/-- The name by which parameter text calls an option. -/
def Key.name : Key → String
  | plugin => "plugin_name"
  | base => "go_import_path_base"
  | context => "context_import_path"
  | httpClient => "httpclient_import_path"
  | twirpClient => "twirpclient_import_path"
  | zap => "zap_import_path"
  | package _ => "named_go_package"

def optionNames : List (String × Key) :=
  [("plugin_name", .plugin), ("go_import_path_base", .base), ("context_import_path", .context),
   ("httpclient_import_path", .httpClient), ("twirpclient_import_path", .twirpClient), ("zap_import_path", .zap)]

/-- The value as it is kept: the base of import paths loses the slashes at its end. -/
def Key.kept (key : Key) (value : String) : String :=
  if key = base then String.ofList (Text.withoutTrailing '/' value.toList) else value

def valueOf (options : Options) : Key → Option String
  | .plugin => options.pluginName
  | .base => options.importPathBase
  | .context => options.contextPath
  | .httpClient => options.httpClientPath
  | .twirpClient => options.twirpClientPath
  | .zap => options.zapPath
  | .package name => options.namedPackages.bind (·.lookup name)

def assign (options : Options) (setting : Key × String) : Options :=
  match setting.1 with
  | .plugin => { options with pluginName := setting.2 }
  | .base => { options with importPathBase := setting.2 }
  | .context => { options with contextPath := setting.2 }
  | .httpClient => { options with httpClientPath := setting.2 }
  | .twirpClient => { options with twirpClientPath := setting.2 }
  | .zap => { options with zapPath := setting.2 }
  | .package name => { options with namedPackages := options.namedPackages.map (putEntry name setting.2) }

/-- What an item sets, taken by itself. An item of blanks sets nothing. -/
def readItem (item : List Char) : Except Failure (Option (Key × String)) :=
  let item := Text.trimmed item
  if item.isEmpty then .ok none
  else
    let (name, value) := Text.cut '=' item
    let name := String.ofList (Text.trimmed name)
    match value.map Text.trimmed with
    | none | some [] => .error (.option (.malformed (String.ofList item)))
    | some value =>
      if name = "named_go_package" then
        match namedPackage? value with
        | none => .error (.option (.malformedNamedPackage (String.ofList value)))
        | some (name, path) => .ok (some (.package name, path))
      else
        match optionNames.lookup name with
        | none => .error (.option (.unknown name))
        | some key => .ok (some (key, key.kept (String.ofList value)))

/-- What the items of a text set, in their order. -/
def settings (text : String) : Except Failure (List (Key × String)) :=
  ((Text.pieces ',' text.toList).mapM readItem).map List.reduceOption

/-! ## Items -/

/-- The changes after one more setting. -/
def Changes.put (changes : Changes) (setting : Key × String) : Changes :=
  match setting.1 with
  | .package name => { changes with named := putEntry name setting.2 changes.named }
  | key => { changes with simple := putEntry key.name setting.2 changes.simple }

namespace Changes

theorem set_eq (changes : Changes) (name value : String) :
    changes.set name value =
      (optionNames.lookup name).elim (.error (.option (.unknown name))) fun key =>
        .ok (changes.put (key, key.kept value)) := by
  unfold set
  by_cases hname : name ∈ simpleNames
  · rw [if_pos hname]
    simp only [simpleNames, List.mem_cons, List.not_mem_nil, or_false] at hname
    rcases hname with rfl | rfl | rfl | rfl | rfl | rfl <;> rfl
  · have hnone : optionNames.lookup name = none := by
      rw [List.lookup_eq_none_iff]
      intro entry hentry
      rw [bne_iff_ne]
      rintro rfl
      exact hname (List.mem_map_of_mem (f := (·.1)) hentry)
    rw [if_neg hname, hnone]
    rfl

theorem add_eq (changes : Changes) (item : List Char) :
    changes.add item = (readItem item).map fun setting => setting.elim changes changes.put := by
  unfold add readItem
  simp only [set_eq]
  by_cases hblank : (Text.trimmed item).isEmpty = true
  · rw [if_pos hblank, if_pos hblank]
    rfl
  · rw [if_neg hblank, if_neg hblank]
    cases (Text.cut '=' (Text.trimmed item)).2.map Text.trimmed with
    | none => rfl
    | some value =>
      cases value with
      | nil => rfl
      | cons c rest =>
        simp only
        split_ifs with hnamed
        · cases namedPackage? (c :: rest) <;> rfl
        · cases optionNames.lookup (String.ofList (Text.trimmed (Text.cut '=' (Text.trimmed item)).1)) <;> rfl

theorem foldlM_add (changes : Changes) (items : List (List Char)) :
    items.foldlM add changes = (items.mapM readItem).map fun read => read.reduceOption.foldl put changes := by
  induction items generalizing changes with
  | nil => rfl
  | cons item rest ih =>
    rw [List.foldlM_cons, List.mapM_cons, add_eq]
    cases readItem item with
    | error failure => rfl
    | ok setting =>
      change rest.foldlM add (setting.elim changes changes.put) = _
      rw [ih]
      cases rest.mapM readItem with
      | error failure => rfl
      | ok read => cases setting <;> rfl

end Changes

/-! ## Options -/

theorem names_putEntry (name value : String) (entries : List (String × String)) :
    entries.map (·.1) <+: (putEntry name value entries).map (·.1) := by
  induction entries with
  | nil => exact List.nil_prefix
  | cons entry rest ih =>
    rw [putEntry]
    split_ifs with hentry
    · exact ⟨[], by simp [hentry]⟩
    · exact List.cons_prefix_cons.mpr ⟨rfl, ih⟩

theorem isSome_assign (options : Options) (setting : Key × String) :
    (options.assign setting).namedPackages.isSome = options.namedPackages.isSome := by
  obtain ⟨key, value⟩ := setting
  cases key <;> simp [assign]

def packageNames (options : Options) : List String := (options.namedPackages.getD []).map (·.1)

theorem packageNames_assign (options : Options) (setting : Key × String) :
    options.packageNames <+: (options.assign setting).packageNames := by
  obtain ⟨key, value⟩ := setting
  unfold packageNames
  cases key with
  | package name =>
    cases hnamed : options.namedPackages with
    | none => exact ⟨[], by simp [assign, hnamed]⟩
    | some named => simpa [assign, hnamed] using names_putEntry name value named
  | _ => exact List.prefix_refl _

theorem valueOf_assign {options : Options} (h : options.namedPackages.isSome = true) (setting : Key × String)
    (key : Key) :
    (options.assign setting).valueOf key = if key = setting.1 then some setting.2 else options.valueOf key := by
  obtain ⟨named, hnamed⟩ := Option.isSome_iff_exists.mp h
  obtain ⟨set, value⟩ := setting
  cases set with
  | package name =>
    cases key with
    | package other => simp [assign, valueOf, hnamed, lookup_putEntry]
    | _ => simp [assign, valueOf]
  | _ => cases key <;> simp [assign, valueOf]

theorem replace_put (options : Options) (changes : Changes) (setting : Key × String) :
    options.replace (changes.put setting) = (options.replace changes).assign setting := by
  obtain ⟨key, value⟩ := setting
  cases key <;> simp [replace, assign, Changes.put, Key.name, lookup_putEntry]

section

variable {options : Options} (read : List (Key × String))

theorem replace_foldl_put (changes : Changes) :
    options.replace (read.foldl Changes.put changes) = read.foldl assign (options.replace changes) := by
  induction read generalizing changes with
  | nil => rfl
  | cons setting rest ih => rw [List.foldl_cons, List.foldl_cons, ih, replace_put]

theorem isSome_foldl_assign : (read.foldl assign options).namedPackages.isSome = options.namedPackages.isSome := by
  induction read generalizing options with
  | nil => rfl
  | cons setting rest ih => rw [List.foldl_cons, ih, isSome_assign]

theorem packageNames_foldl_assign : options.packageNames <+: (read.foldl assign options).packageNames := by
  induction read generalizing options with
  | nil => exact List.prefix_refl _
  | cons setting rest ih => exact (packageNames_assign options setting).trans ih

theorem valueOf_foldl_assign (h : options.namedPackages.isSome = true) (key : Key) :
    (read.foldl assign options).valueOf key = (read.reverse.lookup key).or (options.valueOf key) := by
  induction read generalizing options with
  | nil => rfl
  | cons setting rest ih =>
    rw [List.foldl_cons, ih (by rwa [isSome_assign]), valueOf_assign h, List.reverse_cons, List.lookup_append,
      Option.or_assoc]
    congr 1
    rw [lookup_cons_ite]
    split_ifs <;> rfl

end

/-! ## Texts -/

theorem withParameter_none {options : Options} (h : options.namedPackages = none) (text : String) :
    options.withParameter text = .error (.fault .namedPackagesNull) := by
  rw [withParameter, h]

/-- Settings that are collected and then made act as if each of them was assigned in its turn. -/
theorem withParameter_eq {options : Options} (h : options.namedPackages.isSome = true) (text : String) :
    options.withParameter text = (settings text).map fun read => read.foldl assign options := by
  obtain ⟨named, hnamed⟩ := Option.isSome_iff_exists.mp h
  have hsame : options.replace { named } = options := by simp [replace, ← hnamed]
  rw [withParameter, hnamed]
  simp only
  rw [Changes.foldlM_add, settings]
  cases (Text.pieces ',' text.toList).mapM readItem with
  | error failure => rfl
  | ok read => exact congrArg Except.ok ((replace_foldl_put _ _).trans (by rw [hsame]))

theorem settings_append (first second : String) :
    settings (first ++ "," ++ second) = (do return (← settings first) ++ (← settings second)) := by
  have hpieces : Text.pieces ',' (first ++ "," ++ second).toList =
      Text.pieces ',' first.toList ++ Text.pieces ',' second.toList := by
    rw [← Text.pieces_append_cons]
    simp
  unfold settings
  rw [hpieces, List.mapM_append]
  cases (Text.pieces ',' first.toList).mapM readItem with
  | error failure => rfl
  | ok read =>
    cases (Text.pieces ',' second.toList).mapM readItem with
    | error failure => rfl
    | ok more => exact congrArg Except.ok (List.reduceOption_append read more)

theorem withParameter_error_iff {options : Options} (h : options.namedPackages.isSome = true) {text : String}
    {failure : Failure} :
    options.withParameter text = .error failure ↔ ∃ before item after,
      Text.pieces ',' text.toList = before ++ item :: after ∧
      (∀ other ∈ before, ∃ setting, readItem other = .ok setting) ∧ readItem item = .error failure := by
  rw [withParameter_eq h, ← except_mapM_error_iff, settings]
  cases (Text.pieces ',' text.toList).mapM readItem with
  | error other =>
    constructor <;>
    · intro heq
      cases heq
      rfl
  | ok read =>
    constructor <;>
    · intro heq
      cases heq

theorem withParameter_ok {options next : Options} {text : String} (h : options.withParameter text = .ok next) :
    options.namedPackages.isSome = true ∧ ∃ read, settings text = .ok read ∧ next = read.foldl assign options := by
  cases hnamed : options.namedPackages with
  | none =>
    rw [withParameter_none hnamed] at h
    cases h
  | some named =>
    have hsome : options.namedPackages.isSome = true := by rw [hnamed]; rfl
    rw [withParameter_eq hsome] at h
    cases hread : settings text with
    | error failure =>
      rw [hread] at h
      cases h
    | ok read =>
      rw [hread] at h
      cases h
      exact ⟨rfl, read, rfl, rfl⟩

theorem withParameter_append (options : Options) (first second : String) :
    options.withParameter (first ++ "," ++ second) =
      options.withParameter first >>= fun next => next.withParameter second := by
  cases hnamed : options.namedPackages with
  | none =>
    rw [withParameter_none hnamed, withParameter_none hnamed]
    rfl
  | some named =>
    have hsome : options.namedPackages.isSome = true := by rw [hnamed]; rfl
    rw [withParameter_eq hsome, withParameter_eq hsome, settings_append]
    cases settings first with
    | error failure => rfl
    | ok read =>
      change _ = (read.foldl assign options).withParameter second
      rw [withParameter_eq (by rwa [isSome_foldl_assign])]
      cases settings second with
      | error failure => rfl
      | ok more => exact congrArg Except.ok (List.foldl_append ..)

theorem withParameter_empty {options : Options} (h : options.namedPackages.isSome = true) :
    options.withParameter "" = .ok options := by
  rw [withParameter_eq h]
  rfl

theorem withParameters_append (options : Options) (first second : List String) :
    options.withParameters (first ++ second) =
      options.withParameters first >>= fun next => next.withParameters second := by
  by_cases hfirst : first = []
  · cases hnamed : options.namedPackages with
    | none =>
      unfold withParameters
      rw [withParameter_none hnamed, withParameter_none hnamed]
      rfl
    | some named =>
      have hempty : options.withParameters [] = .ok options := withParameter_empty (by rw [hnamed]; rfl)
      rw [hfirst, List.nil_append, hempty]
      rfl
  · by_cases hsecond : second = []
    · cases hnext : options.withParameters first with
      | error failure =>
        rw [hsecond, List.append_nil, hnext]
        rfl
      | ok next =>
        obtain ⟨hsome, read, _, hread⟩ := withParameter_ok hnext
        have hempty : next.withParameters [] = .ok next :=
          withParameter_empty (by rw [hread, isSome_foldl_assign, hsome])
        rw [hsecond, List.append_nil, hnext]
        exact hempty.symm
    · unfold withParameters
      rw [String.intercalate_append_of_ne_nil hfirst hsecond, withParameter_append]

/-- Parameter text with a comma in it is applied as its two parts are, one after the other, and lists of texts
likewise. The first item that cannot be read decides the failure. Otherwise each option and each named package has
the last value that an item gives it, or else the one it had, and named packages stay in their places. -/
theorem withParameter_layers (options : Options) :
    (∀ first second, options.withParameter (first ++ "," ++ second) =
      options.withParameter first >>= fun next => next.withParameter second) ∧
    (∀ first second, options.withParameters (first ++ second) =
      options.withParameters first >>= fun next => next.withParameters second) ∧
    (∀ text failure, options.namedPackages.isSome = true → (options.withParameter text = .error failure ↔
      ∃ before item after, Text.pieces ',' text.toList = before ++ item :: after ∧
        (∀ other ∈ before, ∃ setting, readItem other = .ok setting) ∧ readItem item = .error failure)) ∧
    (∀ text next, options.withParameter text = .ok next → ∃ read, settings text = .ok read ∧
      (∀ key, next.valueOf key = (read.reverse.lookup key).or (options.valueOf key)) ∧
      options.packageNames <+: next.packageNames) := by
  refine ⟨options.withParameter_append, options.withParameters_append, ?_, ?_⟩
  · intro text failure hsome
    exact withParameter_error_iff hsome
  · intro text next h
    obtain ⟨hsome, read, hread, rfl⟩ := withParameter_ok h
    exact ⟨read, hread, valueOf_foldl_assign read hsome, packageNames_foldl_assign read⟩

def layeredOptions : Options := { namedPackages := some [("api", "a"), ("apiclient", "b")] }

def earlierTexts : List String := ["plugin_name=x,named_go_package=api=c/"]

/-- Texts that set an option again and add a package. -/
def laterTexts : List String := [" plugin_name = y=z ,,", "named_go_package = new = d"]

theorem withParameter_layers_again :
    ∃ next, (layeredOptions.withParameters earlierTexts >>= fun next => next.withParameters laterTexts) = .ok next ∧
      next.valueOf .plugin = some "y=z" ∧ next.valueOf .zap = layeredOptions.valueOf .zap ∧
      next.namedPackages = some [("api", "c"), ("apiclient", "b"), ("new", "d")] := by
  obtain ⟨_, happend, _, hok⟩ := withParameter_layers layeredOptions
  have hsettings : settings (String.intercalate "," (earlierTexts ++ laterTexts)) =
      .ok [(.plugin, "x"), (.package "api", "c"), (.plugin, "y=z"), (.package "new", "d")] := by rfl
  have hrun : (layeredOptions.withParameters (earlierTexts ++ laterTexts)).toOption.map (·.namedPackages) =
      some (some [("api", "c"), ("apiclient", "b"), ("new", "d")]) := by decide +kernel
  cases hnext : layeredOptions.withParameters (earlierTexts ++ laterTexts) with
  | error failure =>
    rw [hnext] at hrun
    cases hrun
  | ok next =>
    rw [hnext] at hrun
    obtain ⟨read, hread, hvalue, _⟩ := hok _ next hnext
    cases hsettings.symm.trans hread
    exact ⟨next, by rw [← happend, hnext], hvalue .plugin, hvalue .zap, Option.some.inj hrun⟩

end RpcClients.Options
