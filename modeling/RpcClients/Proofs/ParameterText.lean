import RpcClients.Proofs.ParameterLayers
import RpcClients.Proofs.StableIndentation

/-! # Options as parameter text

Options are written as items `name=value` between commas, with blanks wherever they are trimmed. What is written is read
back, if no value hides a comma or has blanks around it. -/

namespace RpcClients

/-! ## Blanks around a text -/

namespace Indentation

variable {text : String}

theorem Starts.ne_nil (h : Starts text) : text.toList ≠ [] := by
  intro hnil
  simp [Starts, hnil] at h

theorem Stops.append (h : Stops text) (lead : String) : Stops (lead ++ text) := by
  unfold Stops at h ⊢
  rw [String.toList_append, List.getLast?_append]
  cases hlast : text.toList.getLast? with
  | none => simp [hlast] at h
  | some c => simpa [hlast] using h

theorem trimmed_between (hstart : Starts text) (hstop : Stops text) {before behind : String}
    (hbefore : Text.allBlank before.toList = true) (hbehind : Text.allBlank behind.toList = true) :
    Text.trimmed (before ++ text ++ behind).toList = text.toList := by
  have hstarts := trimLeft_of_starts (hstart.append behind)
  rw [String.toList_append] at hstarts
  rw [String.toList_append, String.toList_append, List.append_assoc, Text.trimmed_blanks_append hbefore, Text.trimmed,
    hstarts, Text.trimRight_append_blanks hbehind, trimRight_of_stops hstop]

theorem not_mem_of_allBlank {cs : List Char} (h : Text.allBlank cs = true) {c : Char} (hc : Text.isBlank c = false) :
    c ∉ cs := by
  intro hmem
  rw [List.all_eq_true.mp h c hmem] at hc
  cases hc

end Indentation

namespace Options

open Indentation

/-! ## Writing -/

/-- A value as it is written: that of a named package behind the name of the package. -/
def Key.written (value : String) : Key → String
  | package name => name ++ "=" ++ value
  | _ => value

/-- The item sets the option, with any blanks around its name and around its value. -/
def WritesItem (key : Key) (value item : String) : Prop :=
  ∃ before left right behind : String,
    [before, left, right, behind].all (fun blanks => Text.allBlank blanks.toList) = true ∧
    item = before ++ (key.name ++ left ++ "=" ++ (right ++ key.written value)) ++ behind

/-- The text sets the options one after the other. -/
def Writes (read : List (Key × String)) (text : String) : Prop :=
  ∃ items, List.Forall₂ (fun setting item => WritesItem setting.1 setting.2 item) read items ∧
    text = String.intercalate "," items

/-- A value that can stand in parameter text: not empty, without commas and without blanks around it. -/
structure IsEntry (value : String) : Prop where
  starts : Starts value
  stops : Stops value
  comma : ',' ∉ value.toList

/-- Whether the value is a base of import paths. It keeps no slashes at its end. -/
def Key.isBase : Key → Bool
  | base | package _ => true
  | _ => false

def Key.package? : Key → Option String
  | package name => some name
  | _ => none

/-- A setting that can be written. The name of a package holds no `=`, for it ends there. -/
structure IsSetting (key : Key) (value : String) : Prop where
  entry : IsEntry value
  slash : key.isBase = true → value.toList.getLast? ≠ some '/'
  name : ∀ name ∈ key.package?, IsEntry name ∧ '=' ∉ name.toList

instance (value : String) : Decidable (IsEntry value) :=
  decidable_of_iff (Starts value ∧ Stops value ∧ ',' ∉ value.toList)
    ⟨fun h => ⟨h.1, h.2.1, h.2.2⟩, fun h => ⟨h.starts, h.stops, h.comma⟩⟩

instance (key : Key) (value : String) : Decidable (IsSetting key value) :=
  decidable_of_iff (IsEntry value ∧ (key.isBase = true → value.toList.getLast? ≠ some '/') ∧
      ∀ name ∈ key.package?, IsEntry name ∧ '=' ∉ name.toList)
    ⟨fun h => ⟨h.1, h.2.1, h.2.2⟩, fun h => ⟨h.entry, h.slash, h.name⟩⟩

/-! ## Reading what is written -/

theorem withoutTrailing_eq_self {c : Char} {cs : List Char} (h : cs.getLast? ≠ some c) :
    Text.withoutTrailing c cs = cs := by
  refine List.rdropWhile_eq_self_iff.mpr fun hne heq => h ?_
  rw [List.getLast?_eq_some_getLast hne, beq_iff_eq.mp heq]

theorem IsEntry.trimmed_eq {value : String} (h : IsEntry value) : Text.trimmed value.toList = value.toList :=
  Indentation.trimmed_eq h.starts h.stops

theorem namedPackage?_written {name value : String} (hname : IsEntry name) (hequals : '=' ∉ name.toList)
    (hvalue : IsEntry value) (hslash : value.toList.getLast? ≠ some '/') :
    namedPackage? (name ++ "=" ++ value).toList = some (name, value) := by
  have hcut : Text.cut '=' (name ++ "=" ++ value).toList = (name.toList, some value.toList) := by
    simpa using Text.cut_append_cons_of_not_mem hequals value.toList
  rw [namedPackage?, hcut]
  simp only [hname.trimmed_eq, hvalue.trimmed_eq, withoutTrailing_eq_self hslash, String.ofList_toList]
  rw [if_neg]
  simp [hname.starts.ne_nil, hvalue.starts.ne_nil]

section

variable {key : Key} {value item : String}

theorem Key.name_plain (key : Key) :
    Starts key.name ∧ Stops key.name ∧ ',' ∉ key.name.toList ∧ '=' ∉ key.name.toList := by
  cases key with
  | package name =>
    rw [Key.name]
    decide
  | _ => decide

theorem Key.name_cases (key : Key) : (∃ name, key = .package name) ∨
    (key.name ≠ "named_go_package" ∧ (key.name, key) ∈ optionNames ∧ ∀ value, key.written value = value) := by
  cases key with
  | package name => exact Or.inl ⟨name, rfl⟩
  | _ => exact Or.inr ⟨by decide, by decide, fun _ => rfl⟩

theorem IsSetting.written (h : IsSetting key value) : IsEntry (key.written value) := by
  cases key with
  | package name =>
    obtain ⟨hname, _⟩ := h.name name rfl
    refine ⟨(hname.starts.append "=").append value, h.entry.stops.append _, ?_⟩
    rw [Key.written]
    simp [hname.comma, h.entry.comma]
  | _ => exact h.entry

theorem IsSetting.kept_eq (h : IsSetting key value) : key.kept value = value := by
  unfold Key.kept
  split_ifs with hbase
  · rw [withoutTrailing_eq_self (h.slash (by rw [hbase]; rfl)), String.ofList_toList]
  · rfl

theorem WritesItem.apart (hitem : WritesItem key value item) (h : IsEntry (key.written value)) :
    (Text.trimmed item.toList).isEmpty = false ∧
    Text.trimmed (Text.cut '=' (Text.trimmed item.toList)).1 = key.name.toList ∧
    (Text.cut '=' (Text.trimmed item.toList)).2.map Text.trimmed = some (key.written value).toList := by
  obtain ⟨before, left, right, behind, hblanks, rfl⟩ := hitem
  simp only [List.all_cons, List.all_nil, Bool.and_true, Bool.and_eq_true] at hblanks
  obtain ⟨hbefore, hleft, hright, hbehind⟩ := hblanks
  obtain ⟨hstarts, hstops, _, hequals⟩ := key.name_plain
  have hnone : '=' ∉ (key.name ++ left).toList := by
    simp [hequals, not_mem_of_allBlank hleft (by decide : Text.isBlank '=' = false)]
  have hcut : Text.cut '=' (key.name ++ left ++ "=" ++ (right ++ key.written value)).toList =
      ((key.name ++ left).toList, some (right ++ key.written value).toList) := by
    simpa using Text.cut_append_cons_of_not_mem hnone (right ++ key.written value).toList
  have hempty : Text.allBlank "".toList = true := rfl
  rw [trimmed_between (((hstarts.append left).append "=").append (right ++ key.written value))
    ((h.stops.append right).append (key.name ++ left ++ "=")) hbefore hbehind, hcut]
  refine ⟨by simp, ?_, ?_⟩
  · simpa using trimmed_between hstarts hstops hempty hleft
  · simpa using trimmed_between h.starts h.stops hright hempty

theorem readItem_written (h : IsSetting key value) (hitem : WritesItem key value item) :
    readItem item.toList = .ok (some (key, value)) := by
  obtain ⟨hne, hname, hvalue⟩ := hitem.apart h.written
  obtain ⟨c, cs, hlist⟩ := List.exists_cons_of_ne_nil h.written.starts.ne_nil
  rw [readItem]
  simp only [hne, hname, hvalue, hlist, String.ofList_toList, Bool.false_eq_true, if_false]
  rw [← hlist]
  rcases key.name_cases with ⟨name, rfl⟩ | ⟨hkey, hmem, hplain⟩
  · obtain ⟨hentry, hequals⟩ := h.name name rfl
    have hkey : (Key.package name).name = "named_go_package" := rfl
    have hplain : (Key.package name).written value = name ++ "=" ++ value := rfl
    rw [if_pos hkey, hplain, namedPackage?_written hentry hequals h.entry (h.slash rfl)]
  · have hlookup : optionNames.lookup key.name = some key := (lookup_eq_some_iff_of_nodup (by decide)).mpr hmem
    rw [if_neg hkey, hlookup, hplain, String.ofList_toList]
    exact congrArg (fun kept => Except.ok (some (key, kept))) h.kept_eq

theorem comma_not_mem_item (h : IsSetting key value) (hitem : WritesItem key value item) : ',' ∉ item.toList := by
  obtain ⟨before, left, right, behind, hblanks, rfl⟩ := hitem
  have hcomma : ∀ blanks ∈ [before, left, right, behind], ',' ∉ blanks.toList := by
    intro blanks hmem
    exact not_mem_of_allBlank (List.all_eq_true.mp hblanks blanks hmem) (by decide)
  simp only [List.forall_mem_cons, List.not_mem_nil, false_implies, implies_true, and_true] at hcomma
  simp [hcomma, key.name_plain.2.2.1, h.written.comma]

end

theorem settings_written {read : List (Key × String)} {text : String}
    (h : ∀ setting ∈ read, IsSetting setting.1 setting.2) (htext : Writes read text) : settings text = .ok read := by
  obtain ⟨items, hitems, rfl⟩ := htext
  induction hitems with
  | nil => rfl
  | @cons setting item read items hitem hitems ih =>
    rw [List.forall_mem_cons] at h
    have hread : settings item = .ok [setting] := by
      rw [settings, Text.pieces_of_not_mem (comma_not_mem_item h.1 hitem), List.mapM_cons, readItem_written h.1 hitem]
      rfl
    cases hitems with
    | nil => simpa using hread
    | cons hother hmore =>
      rw [String.intercalate_cons_cons, settings_append, hread, ih h.2]
      rfl

/-! ## Options -/

/-- What options set, in their order. -/
def pairs (options : Options) : List (Key × String) :=
  (optionNames.filterMap fun entry => (options.valueOf entry.2).map (entry.2, ·)) ++
    (options.namedPackages.getD []).map fun entry => (.package entry.1, entry.2)

/-- Options that can be written. Only the base of import paths may be missing. -/
structure Writable (options : Options) : Prop where
  given : ∀ entry ∈ optionNames, entry.2 ≠ .base → (options.valueOf entry.2).isSome = true
  named : options.namedPackages.isSome = true
  distinct : options.packageNames.Nodup
  settings : ∀ setting ∈ options.pairs, IsSetting setting.1 setting.2

variable {options : Options}

theorem not_package_of_mem {entry : String × Key} (h : entry ∈ optionNames) (name : String) :
    entry.2 ≠ .package name := by
  simp only [optionNames, List.mem_cons, List.not_mem_nil, or_false] at h
  rcases h with rfl | rfl | rfl | rfl | rfl | rfl <;> simp

theorem valueOf_package (options : Options) (name : String) :
    options.valueOf (.package name) = (options.namedPackages.getD []).lookup name := by
  unfold valueOf
  cases options.namedPackages <;> rfl

theorem mem_pairs_iff (h : options.packageNames.Nodup) {key : Key} {value : String} :
    (key, value) ∈ options.pairs ↔ options.valueOf key = some value := by
  rw [pairs, List.mem_append, List.mem_filterMap, List.mem_map]
  simp only [Option.map_eq_some_iff, Prod.mk.injEq]
  rcases key.name_cases with ⟨name, rfl⟩ | ⟨hkey, hmem, _⟩
  · rw [valueOf_package, lookup_eq_some_iff_of_nodup h]
    constructor
    · rintro (⟨entry, hentry, _, _, hpackage, _⟩ | ⟨entry, hentry, hpackage, rfl⟩)
      · exact absurd hpackage (not_package_of_mem hentry name)
      · cases hpackage
        exact hentry
    · intro hentry
      exact Or.inr ⟨(name, value), hentry, rfl, rfl⟩
  · constructor
    · rintro (⟨entry, _, _, hvalue, rfl, rfl⟩ | ⟨entry, _, rfl, _⟩)
      · exact hvalue
      · exact absurd rfl hkey
    · intro hvalue
      exact Or.inl ⟨(key.name, key), hmem, value, hvalue, rfl, rfl⟩

theorem lookup_of_perm (h : options.packageNames.Nodup) {read : List (Key × String)} (hread : read.Perm options.pairs)
    (key : Key) : read.reverse.lookup key = options.valueOf key := by
  have hmem : ∀ value, (key, value) ∈ read.reverse ↔ options.valueOf key = some value := by
    intro value
    rw [List.mem_reverse, hread.mem_iff, mem_pairs_iff h]
  cases hlookup : read.reverse.lookup key with
  | some value =>
    obtain ⟨before, after, hsplit, _⟩ := List.lookup_eq_some_iff.mp hlookup
    exact ((hmem value).mp (by rw [hsplit]; simp)).symm
  | none =>
    cases hvalue : options.valueOf key with
    | none => rfl
    | some value =>
      have := List.lookup_eq_none_iff.mp hlookup _ ((hmem value).mpr hvalue)
      simp at this

theorem putEntry_of_not_mem {name : String} {entries : List (String × String)} (h : name ∉ entries.map (·.1))
    (value : String) : putEntry name value entries = entries ++ [(name, value)] := by
  induction entries with
  | nil => rfl
  | cons entry rest ih =>
    rw [List.map_cons, List.mem_cons, not_or] at h
    rw [putEntry, if_neg (Ne.symm h.1), ih h.2, List.cons_append]

theorem namedPackages_foldl_assign {done entries : List (String × String)} (hdone : options.namedPackages = some done)
    (h : ((done ++ entries).map (·.1)).Nodup) :
    ((entries.map fun entry => (Key.package entry.1, entry.2)).foldl assign options).namedPackages =
      some (done ++ entries) := by
  induction entries generalizing options done with
  | nil => simpa using hdone
  | cons entry rest ih =>
    have hnew : entry.1 ∉ done.map (·.1) := by
      intro hmem
      rw [List.map_append, List.nodup_append] at h
      exact h.2.2 _ hmem _ (by simp) rfl
    have hnext : (options.assign (.package entry.1, entry.2)).namedPackages = some (done ++ [entry]) := by
      simp [assign, hdone, putEntry_of_not_mem hnew]
    rw [List.map_cons, List.foldl_cons, ih hnext (by simpa using h), List.append_assoc, List.singleton_append]

theorem namedPackages_foldl_of_not_package {read : List (Key × String)}
    (h : ∀ setting ∈ read, ∀ name, setting.1 ≠ .package name) :
    (read.foldl assign options).namedPackages = options.namedPackages := by
  induction read generalizing options with
  | nil => rfl
  | cons setting rest ih =>
    rw [List.forall_mem_cons] at h
    obtain ⟨key, value⟩ := setting
    rw [List.foldl_cons, ih h.2]
    cases key with
    | package name => exact absurd rfl (h.1 name)
    | _ => rfl

theorem eq_of_valueOf {other : Options} (h : ∀ key, options.valueOf key = other.valueOf key)
    (hnamed : options.namedPackages = other.namedPackages) : options = other := by
  cases options
  cases other
  rw [Options.mk.injEq]
  exact ⟨h .plugin, h .base, hnamed, h .context, h .httpClient, h .twirpClient, h .zap⟩

/-- Reading into new options sets what is written and leaves the rest, so nothing but the base can be missing. -/
theorem Writable.valueOf_read (h : options.Writable) {read : List (Key × String)}
    (hread : read.Perm options.pairs) (key : Key) : (read.foldl assign {}).valueOf key = options.valueOf key := by
  rw [valueOf_foldl_assign read rfl, lookup_of_perm h.distinct hread]
  cases hvalue : options.valueOf key with
  | some value => rfl
  | none =>
    rcases key.name_cases with ⟨name, rfl⟩ | ⟨_, hmem, _⟩
    · rfl
    · by_cases hbase : key = .base
      · rw [hbase]
        rfl
      · have := h.given (key.name, key) hmem hbase
        simp [hvalue] at this

/-- Text that sets what options set, in any order and with any blanks, gives the same value of each option and each
named package. In the order of the options it gives the same options. -/
theorem withParameter_written (h : options.Writable) {read : List (Key × String)} (hread : read.Perm options.pairs)
    {text : String} (htext : Writes read text) :
    ∃ next, ({} : Options).withParameter text = .ok next ∧ (∀ key, next.valueOf key = options.valueOf key) ∧
      (read = options.pairs → next = options) := by
  have hsettings := settings_written (fun setting hmem => h.settings setting (hread.mem_iff.mp hmem)) htext
  refine ⟨read.foldl assign {}, ?_, h.valueOf_read hread, ?_⟩
  · rw [withParameter_eq rfl, hsettings]
    rfl
  · rintro rfl
    obtain ⟨named, hnamed⟩ := Option.isSome_iff_exists.mp h.named
    have hdistinct := h.distinct
    rw [packageNames, hnamed, Option.getD_some] at hdistinct
    refine eq_of_valueOf (h.valueOf_read hread) ?_
    rw [pairs, hnamed, Option.getD_some, List.foldl_append]
    have hnone : ∀ setting ∈ optionNames.filterMap fun entry => (options.valueOf entry.2).map (entry.2, ·),
        ∀ name, setting.1 ≠ .package name := by
      intro setting hmem name
      obtain ⟨entry, hentry, hvalue⟩ := List.mem_filterMap.mp hmem
      obtain ⟨value, _, rfl⟩ := Option.map_eq_some_iff.mp hvalue
      exact not_package_of_mem hentry name
    have hempty := @namedPackages_foldl_of_not_package {} _ hnone
    exact namedPackages_foldl_assign hempty hdistinct

/-- Options with `=` in their values. -/
def equatedOptions : Options :=
  { pluginName := some "a=b", importPathBase := some "x/y", namedPackages := some [("api", "=p/q"), ("new", "r")]
    contextPath := some "c", httpClientPath := some "h i", twirpClientPath := some "t/", zapPath := some "z" }

def equatedItems : List String :=
  [" plugin_name =\ta=b", "go_import_path_base=x/y ", "context_import_path=c", "\nhttpclient_import_path = h i",
   "twirpclient_import_path=t/", "zap_import_path= z", "named_go_package=api==p/q", " named_go_package = new=r "]

theorem withParameter_written_equated :
    equatedOptions.Writable ∧ Writes equatedOptions.pairs (String.intercalate "," equatedItems) ∧
      ({} : Options).withParameter (String.intercalate "," equatedItems) = .ok equatedOptions := by
  have hwritable : equatedOptions.Writable := ⟨by decide, by decide, by decide, by decide⟩
  have hwrites : Writes equatedOptions.pairs (String.intercalate "," equatedItems) := by
    refine ⟨equatedItems, ?_, rfl⟩
    exact .cons ⟨" ", " ", "\t", "", by decide, by decide⟩ <| .cons ⟨"", "", "", " ", by decide, by decide⟩ <|
      .cons ⟨"", "", "", "", by decide, by decide⟩ <| .cons ⟨"\n", " ", " ", "", by decide, by decide⟩ <|
      .cons ⟨"", "", "", "", by decide, by decide⟩ <| .cons ⟨"", "", " ", "", by decide, by decide⟩ <|
      .cons ⟨"", "", "", "", by decide, by decide⟩ <| .cons ⟨" ", " ", " ", " ", by decide, by decide⟩ .nil
  obtain ⟨next, hnext, _, hsame⟩ := withParameter_written hwritable (List.Perm.refl _) hwrites
  rw [hsame rfl] at hnext
  exact ⟨hwritable, hwrites, hnext⟩

end Options

end RpcClients
