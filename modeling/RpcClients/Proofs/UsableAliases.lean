import RpcClients.Proofs.AliasChoice
import RpcClients.Proofs.Pieces

/-! # Aliases that Go can write

An alias is made from the last component of a path or from a preferred name. It always starts as an identifier
does, but two things spoil it: a path that ends in a slash leaves nothing to make it from, which gives the blank
identifier, and numerals that are no decimal digits, such as fractions, are kept although Go has them in no name. -/

namespace RpcClients

namespace Text

/-- The zeros of all scripts. The nine digits that follow each of them are decimal digits too. -/
def zeros : List Nat :=
  [0x30, 0x660, 0x6F0, 0x7C0, 0x966, 0x9E6, 0xA66, 0xAE6, 0xB66, 0xBE6, 0xC66, 0xCE6, 0xD66, 0xDE6, 0xE50, 0xED0,
   0xF20, 0x1040, 0x1090, 0x17E0, 0x1810, 0x1946, 0x19D0, 0x1A80, 0x1A90, 0x1B50, 0x1BB0, 0x1C40, 0x1C50, 0xA620,
   0xA8D0, 0xA900, 0xA9D0, 0xA9F0, 0xAA50, 0xABF0, 0xFF10, 0x104A0, 0x10D30, 0x11066, 0x110F0, 0x11136, 0x111D0,
   0x112F0, 0x11450, 0x114D0, 0x11650, 0x116C0, 0x11730, 0x118E0, 0x11950, 0x11C50, 0x11D50, 0x11DA0, 0x16A60,
   0x16AC0, 0x16B50, 0x1D7CE, 0x1D7D8, 0x1D7E2, 0x1D7EC, 0x1D7F6, 0x1E140, 0x1E2F0, 0x1E950, 0x1FBF0]

def isDecimal (c : Char) : Bool := inRanges (zeros.map fun first => (first, first + 9)) c

def isGoChar (c : Char) : Bool := isLetter c || isDecimal c || c = '_'

theorem isGoChar_of_isDigit {c : Char} (h : c.isDigit = true) : isGoChar c = true := by
  simp only [Char.isDigit, Bool.and_eq_true, decide_eq_true_eq, UInt32.le_iff_toNat_le] at h
  have hdecimal : isDecimal c = true := inRanges_of_first (show 0x30 ≤ c.toNat from h.1) (show c.toNat ≤ 0x39 from h.2)
  simp [isGoChar, hdecimal]

def OnlyDecimals (text : String) : Prop :=
  ∀ c ∈ text.toList, isLetterOrNumber c = true → isLetter c = true ∨ isDecimal c = true

theorem last_of_baseName_eq_empty {path : String} (hpath : path ≠ "") (h : baseName path = "") :
    path.toList.getLast? = some '/' := by
  have hne : path.toList ≠ [] := by simpa using hpath
  rw [List.getLast?_eq_getLast_of_ne_nil hne]
  by_contra hlast
  -- a last character that is no slash belongs to the last component
  have hslash : '/' ∉ [path.toList.getLast hne] := by simpa [eq_comm] using hlast
  obtain ⟨before, last, _, hpieces⟩ := pieces_append_of_not_mem hslash path.toList.dropLast
  rw [List.dropLast_append_getLast] at hpieces
  unfold baseName afterLast at h
  rw [hpieces] at h
  simp at h

theorem isLetterOrNumber_underscore : isLetterOrNumber '_' = false := by decide

end Text

namespace Naming

open Text

/-- A name by which Go can refer to an imported package. -/
structure IsUsable (name : String) : Prop where
  nonempty : name ≠ ""
  notBlank : name ≠ "_"
  start : name.toList.head?.any (fun c => isLetter c || c = '_') = true
  chars : ∀ c ∈ name.toList, isGoChar c = true

theorem goChars_cleaned_iff (text : String) : (∀ c ∈ cleaned text, isGoChar c = true) ↔ OnlyDecimals text := by
  unfold cleaned OnlyDecimals
  rw [List.forall_mem_map]
  refine forall₂_congr fun c _ => ?_
  split_ifs with h
  · have hne : c ≠ '_' := by
      rintro rfl
      rw [isLetterOrNumber_underscore] at h
      cases h
    simp [isGoChar, hne, h]
  · simp [isGoChar, h]

theorem goChars_sanitized_iff (text : String) :
    (∀ c ∈ (sanitized text).toList, isGoChar c = true) ↔ OnlyDecimals text := by
  rw [sanitized_eq, ← goChars_cleaned_iff]
  split_ifs
  · rw [String.toList_ofList]
  · rw [String.toList_ofList, List.forall_mem_cons]
    exact and_iff_right (by simp [isGoChar])

theorem sanitized_start (text : String) :
    (sanitized text).toList.head?.any (fun c => isLetter c || c = '_') = true := by
  rw [sanitized_eq]
  split_ifs with h
  · rw [String.toList_ofList]
    cases hhead : (cleaned text).head? with
    | none => simp [hhead] at h
    | some c =>
      have hletter : isLetter c = true := by simpa [hhead] using h.1
      simp [hletter]
  · simp

theorem sanitized_eq_blank_iff (text : String) : sanitized text = "_" ↔ text = "" := by
  constructor
  · intro h
    have hlist := congrArg String.toList h
    rw [sanitized_eq] at hlist
    split_ifs at hlist with hletter
    · rw [String.toList_ofList] at hlist
      rw [hlist] at hletter
      exact absurd hletter.1 (by decide)
    · have hcleaned : cleaned text = [] := by simpa using hlist
      simpa [cleaned] using hcleaned
  · rintro rfl
    decide

end Naming

namespace Imports

open Naming Text

/-- The text that the alias of a path is made from. -/
def aliasText (path : String) (preferred : Option String) : String :=
  if preferred.getD "" = "" then baseName path else preferred.getD ""

theorem wantedName_eq (path : String) (preferred : Option String) :
    wantedName path preferred = sanitized (aliasText path preferred) := by
  unfold wantedName aliasText
  split
  · rfl
  · rfl
  · rename_i name hname
    exact congrArg sanitized (if_neg hname).symm

theorem last_of_aliasText_eq_empty {path : String} {preferred : Option String} (hpath : path ≠ "")
    (h : aliasText path preferred = "") : path.toList.getLast? = some '/' := by
  unfold aliasText at h
  split_ifs at h with hnone
  · exact last_of_baseName_eq_empty hpath h
  · exact absurd h hnone

/-- The path that a call binds if it is new, and the text that its alias is made from. -/
def Call.source : Call → Option (String × String)
  | reserve _ => none
  | aliasOf path preferred => some (path, aliasText path preferred)
  | qualified ident => some (ident.importPath, baseName ident.importPath)

theorem Call.last_of_source {call : Call} {path text : String} (hpath : path ≠ "") (h : call.source = some (path, text))
    (hempty : text = "") : path.toList.getLast? = some '/' := by
  cases call with
  | reserve name => cases h
  | aliasOf other preferred =>
    cases h
    exact last_of_aliasText_eq_empty hpath hempty
  | qualified ident =>
    cases h
    exact last_of_baseName_eq_empty hpath hempty

theorem Call.exists_source {call : Call} {path name : String} (h : call.wanted = some (path, name)) :
    ∃ text, call.source = some (path, text) ∧ name = sanitized text := by
  cases call with
  | reserve other => cases h
  | aliasOf other preferred =>
    cases h
    exact ⟨_, rfl, wantedName_eq _ _⟩
  | qualified ident =>
    cases h
    exact ⟨_, rfl, rfl⟩

theorem FirstUnused.toList_eq {used : List String} {name bound : String} (h : FirstUnused used name bound) :
    ∃ digits, bound.toList = name.toList ++ digits ∧ (∀ c ∈ digits, c.isDigit = true) ∧
      (digits = [] ↔ name ∉ used) := by
  rcases h with ⟨hfree, rfl⟩ | ⟨hused, k, _, rfl, _⟩
  · exact ⟨[], by simp, by simp, by simpa using hfree⟩
  · exact ⟨(toString k).toList, by simp, digits_isDigit k, by simp [hused]⟩

theorem FirstUnused.usable_iff {used : List String} {text bound : String}
    (h : FirstUnused used (sanitized text) bound) :
    IsUsable bound ↔ OnlyDecimals text ∧ (text = "" → "_" ∈ used) := by
  obtain ⟨digits, hbound, hdigits, hfree⟩ := h.toList_eq
  have hne : (sanitized text).toList ≠ [] := by simpa using (sanitized_word text).1
  constructor
  · intro husable
    refine ⟨(goChars_sanitized_iff text).mp fun c hc => husable.chars c (by simp [hbound, hc]), ?_⟩
    intro hempty
    have hblank := (sanitized_eq_blank_iff text).mpr hempty
    by_contra hunused
    rw [hblank] at hbound hfree
    rw [hfree.mpr hunused, List.append_nil] at hbound
    exact husable.notBlank (String.toList_injective hbound)
  · rintro ⟨hdecimals, hused⟩
    constructor
    · rintro rfl
      simp [hne] at hbound
    · rintro rfl
      -- one character is left for the name, so no digit stands behind it
      obtain ⟨c, rest, hname⟩ := List.exists_cons_of_ne_nil hne
      have hparts : rest ++ digits = [] ∧ c = '_' := by
        rw [hname] at hbound
        simpa [eq_comm, and_comm] using hbound
      obtain ⟨hrest, rfl⟩ := hparts
      rw [List.append_eq_nil_iff] at hrest
      have hblank : sanitized text = "_" := String.toList_injective (by rw [hname, hrest.1]; rfl)
      exact hfree.mp hrest.2 (hblank ▸ hused ((sanitized_eq_blank_iff text).mp hblank))
    · rw [hbound, List.head?_append_of_ne_nil _ hne]
      exact sanitized_start text
    · intro c hc
      rw [hbound, List.mem_append] at hc
      rcases hc with hc | hc
      · exact (goChars_sanitized_iff text).mpr hdecimals c hc
      · exact isGoChar_of_isDigit (hdigits c hc)

/-- What is bound after a run was bound by one of its calls. -/
theorem exists_binding {start : Imports} {calls : List Call} {entry : String × String} (hstart : entry ∉ start.aliases)
    (h : entry ∈ (start.after calls).aliases) :
    ∃ before call rest, calls = before ++ call :: rest ∧ entry ∉ (start.after before).aliases ∧
      entry ∈ (call.perform (start.after before)).2.aliases := by
  induction calls generalizing start with
  | nil => exact absurd h hstart
  | cons call rest ih =>
    by_cases hcall : entry ∈ (call.perform start).2.aliases
    · exact ⟨[], call, rest, rfl, hstart, hcall⟩
    · obtain ⟨before, other, more, rfl, hbefore, hother⟩ := ih hcall h
      exact ⟨call :: before, other, more, rfl, hbefore, hother⟩

/-- After any run of calls, every path but the file's own gets an alias, which starts as an identifier does and is
no keyword. It was bound by the first call for the path. It can be written in Go if and only if the text that this call
made it from holds no numerals but decimal digits, and there was such a text or the blank identifier was in use. -/
theorem alias_usable_iff (own name : String) (calls : List Call) (path : String) (preferred : Option String)
    (hpath : path ≠ "" ∧ path ≠ own) :
    let start : Imports := { importPath := own, packageName := name }
    ∃ bound, ((Call.aliasOf path preferred).perform (start.after calls)).1 = .ok (some bound) ∧
      bound.toList.head?.any (fun c => isLetter c || c = '_') = true ∧ (IsWord bound ∧ bound ∉ keywords) ∧
      ∃ before call rest text, calls ++ [.aliasOf path preferred] = before ++ call :: rest ∧
        call.source = some (path, text) ∧ (path, bound) ∉ (start.after before).aliases ∧
        (path, bound) ∈ (call.perform (start.after before)).2.aliases ∧
        (text = "" → path.toList.getLast? = some '/') ∧
        (IsUsable bound ↔ OnlyDecimals text ∧ (text = "" → "_" ∈ (start.after before).used)) := by
  intro start
  have hforeign : (start.after calls).Foreign path := by
    refine ⟨hpath.1, ?_⟩
    rw [(after_extends start calls).importPath]
    exact hpath.2
  obtain ⟨bound, hok, hbound⟩ := aliasOf_foreign hforeign preferred
  have hlast : (path, bound) ∈ (start.after (calls ++ [.aliasOf path preferred])).aliases := by
    rw [after_append]
    exact hbound
  obtain ⟨before, call, rest, hcalls, hold, hnew⟩ := exists_binding (by simp [start]) hlast
  obtain ⟨_, hwanted, hfirst⟩ := new_alias hold hnew
  obtain ⟨text, hsource, rfl⟩ := Call.exists_source hwanted
  obtain ⟨digits, hdigits, _⟩ := hfirst.toList_eq
  have hne : (sanitized text).toList ≠ [] := by simpa using (sanitized_word text).1
  refine ⟨bound, hok, ?_, ?_, before, call, rest, text, hcalls, hsource, hold, hnew, ?_, hfirst.usable_iff⟩
  · rw [hdigits, List.head?_append_of_ne_nil _ hne]
    exact sanitized_start text
  · have hcons := consistent_of_no_aliases (show start.aliases = [] from rfl)
    exact (hcons.after (calls ++ [.aliasOf path preferred])).words _ hlast
  · exact call.last_of_source hpath.1 hsource

def newTable : Imports := { importPath := "own", packageName := "own" }

theorem alias_usable_iff_secondSlash :
    ((Call.aliasOf "b/" none).perform (newTable.after [.aliasOf "a/" none])).1 = .ok (some "_1") ∧ IsUsable "_1" := by
  have hone : ((Call.aliasOf "b/" none).perform (newTable.after [.aliasOf "a/" none])).1 = .ok (some "_1") := by rfl
  obtain ⟨bound, hok, _, _, before, call, rest, text, hcalls, hsource, _, _, _, hiff⟩ :=
    alias_usable_iff "own" "own" [.aliasOf "a/" none] "b/" none (by decide)
  cases hone.symm.trans hok
  refine ⟨rfl, hiff.mpr ?_⟩
  cases before with
  | nil =>
    cases hcalls
    simp [Call.source] at hsource
  | cons first others =>
    cases others with
    | nil =>
      cases hcalls
      have htext : text = "" := (Prod.mk.inj (Option.some.inj hsource)).2.symm.trans (by decide)
      rw [htext]
      exact ⟨by simp [OnlyDecimals], fun _ => by decide⟩
    | cons second more => simp at hcalls

theorem spoiled_aliases :
    ((Call.aliasOf "a/" none).perform newTable).1 = .ok (some "_") ∧ ¬ IsUsable "_" ∧
      ((Call.aliasOf "x/a½" none).perform newTable).1 = .ok (some "a½") ∧ ¬ IsUsable "a½" :=
  ⟨by rfl, fun h => h.notBlank rfl, by rfl, fun h => absurd (h.chars '½' (by decide)) (by decide)⟩

end Imports

end RpcClients
