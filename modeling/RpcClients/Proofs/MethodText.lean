import RpcClients.Proofs.FileText
import RpcClients.Proofs.GoText
import RpcClients.Proofs.LinePlaces

/-! # The text of a method

A wrapper method has one parameter and one entry of its request literal per input field, and one result,
one zero value and one returned value per output field. -/

namespace RpcClients

open Resolving Indentation Naming

/-! ## The text that the messages of a method ask for -/

/-- How a method is introduced. -/
def signatureHead (wrapper : String) (method : Method) : String :=
  "func (s *" ++ wrapper ++ ") " ++ method.goName ++ "("

/-- What the schema leaves open of the text of a method. Parameters and results are pairs of a name and
a type. -/
structure MethodParts where
  comments : List String
  context : String
  request : String
  parameters : List (String × String)
  results : List (String × String)
  zeros : List String

namespace MethodParts

def entry (pair : String × String) : String := pair.1 ++ " " ++ pair.2

def parameterList (parts : MethodParts) : List String :=
  ("ctx " ++ parts.context) :: parts.parameters.map entry

def resultList (parts : MethodParts) : List String := parts.results.map entry ++ ["_ error"]

/-- A signature of more than two parameters or results has a line for each parameter. -/
def signature (parts : MethodParts) (head : String) : List String :=
  let close := ") (" ++ String.intercalate ", " parts.resultList ++ ") \x7b"
  if parts.parameterList.length > 2 ∨ parts.resultList.length > 2 then
    head :: parts.parameterList.map (fun entry => tabbed 1 (entry ++ ",")) ++ [close]
  else [head ++ String.intercalate ", " parts.parameterList ++ close]

def requestEntries (parts : MethodParts) (method : Method) : List String :=
  List.zipWith (fun field parameter => tabbed 3 (field.goName ++ ": " ++ parameter.1 ++ ","))
    method.input.fields parts.parameters

/-- The call of the client and the two returns, up to the empty line behind the method. -/
def body (parts : MethodParts) (method : Method) : List String :=
  [tabbed 1 ((if method.output.fields.isEmpty then "_" else "response") ++
    ", err := s.client." ++ method.goName ++ "("),
   tabbed 2 "ctx,",
   tabbed 2 ("&" ++ parts.request ++ "\x7b")] ++
  parts.requestEntries method ++
  [tabbed 2 "\x7d,",
   tabbed 1 ")",
   tabbed 1 "if err != nil \x7b",
   tabbed 2 ("return " ++ String.intercalate ", " (parts.zeros ++ ["err"])),
   tabbed 1 "\x7d",
   tabbed 1 ("return " ++ String.intercalate ", "
     (method.output.fields.map (fun field => "response." ++ field.goName) ++ ["nil"])),
   "\x7d",
   ""]

def text (parts : MethodParts) (wrapper : String) (method : Method) : List String :=
  parts.comments ++ parts.signature (signatureHead wrapper method) ++ parts.body method

/-- The parts are those of a method with these messages. -/
structure Fits (parts : MethodParts) (method : Method) : Prop where
  comments : ∀ line ∈ parts.comments, ['/', '/'] <+: line.toList
  references : Reference parts.context ∧ Reference parts.request
  parameters : parts.parameters.length = method.input.fields.length
  results : parts.results.length = method.output.fields.length
  zeros : parts.zeros.length = method.output.fields.length
  entries : ∀ pair ∈ parts.parameters ++ parts.results, IsIdentifier pair.1 ∧ TypeText pair.2
  values : ∀ zero ∈ parts.zeros, zero ∈ ["nil", "false", "\"\"", "0"]

end MethodParts

/-- The text of a method of the given wrapper type. -/
def MethodText (wrapper : String) (method : Method) (text : List String) : Prop :=
  ∃ parts : MethodParts, parts.Fits method ∧ text = parts.text wrapper method

theorem zeroText_mem (field : Field) : Message.zeroText field ∈ ["nil", "false", "\"\"", "0"] := by
  unfold Message.zeroText
  split_ifs
  · decide
  · split <;> decide

theorem item_of_zero {zero : String} (h : zero ∈ ["nil", "false", "\"\"", "0"]) : Item zero := by
  simp only [List.mem_cons, List.not_mem_nil, or_false] at h
  rcases h with rfl | rfl | rfl | rfl
  · exact .literal (by decide)
  · exact .literal (by decide)
  · exact .emptyLiteral
  · exact .literal (by decide)

/-! ## How a method is laid out -/

theorem commentLines_comment (comments : Option String) :
    ∀ line ∈ commentLines comments, ['/', '/'] <+: line.toList ∧ '\n' ∉ line.toList := by
  intro line hline
  unfold commentLines at hline
  split at hline
  · cases hline
  · cases hline
  · obtain ⟨piece, hpiece, rfl⟩ := List.mem_map.mp hline
    have hnewline := Text.not_mem_of_mem_pieces hpiece
    simp [hnewline]

namespace WrapperMethod

/-- What a method needs to be printed. -/
structure Printable (method : WrapperMethod) : Prop where
  wrapper : IsIdentifier method.wrapper
  name : IsIdentifier method.name
  context : Reference method.context
  request : Reference method.request
  parameters : ∀ p ∈ method.parameters, p.Printable
  results : ∀ p ∈ method.results, p.Printable

def parts (method : WrapperMethod) (zeros : List String) : MethodParts where
  comments := (commentLines method.comments).map fun line => String.ofList (Text.trimmed line.toList)
  context := method.context
  request := method.request
  parameters := method.parameters.map fun p => (p.name, p.goType)
  results := method.results.map fun p => (p.name, p.goType)
  zeros := zeros

variable {method : WrapperMethod} (zeros : List String)

theorem parameterList_parts : (method.parts zeros).parameterList = method.parameterTexts := by
  simp [MethodParts.parameterList, parts, parameterTexts, MethodParts.entry, Parameter.text]

theorem resultList_parts : (method.parts zeros).resultList = method.resultTexts := by
  simp [MethodParts.resultList, parts, resultTexts, MethodParts.entry, Parameter.text]

theorem requestEntries_parts (method : WrapperMethod) {schema : Method}
    (h : method.parameters.map (·.field) = schema.input.fields) :
    (method.parts zeros).requestEntries schema =
      method.parameters.map fun p => tabbed 3 (p.field.goName ++ ": " ++ p.name ++ ",") := by
  simp only [MethodParts.requestEntries, parts, ← h, List.zipWith_map, List.zipWith_self]

theorem Printable.item_parameter (h : method.Printable) : ∀ text ∈ method.parameterTexts, Item text := by
  intro text htext
  rcases List.mem_cons.mp htext with rfl | htext
  · exact .of_shaped ((Shaped.refl "ctx ").append h.context.item) (by decide)
  · obtain ⟨p, hp, rfl⟩ := List.mem_map.mp htext
    exact (h.parameters p hp).item

theorem Printable.item_result (h : method.Printable) : ∀ text ∈ method.resultTexts, Item text := by
  intro text htext
  rcases List.mem_append.mp htext with htext | htext
  · obtain ⟨p, hp, rfl⟩ := List.mem_map.mp htext
    exact (h.results p hp).item
  · rw [List.mem_singleton.mp htext]
    exact .literal (by decide)

theorem Printable.laid_signature (h : method.Printable) :
    Laid 0 method.signature ((method.parts zeros).signature
      ("func (s *" ++ method.wrapper ++ ") " ++ method.name ++ "(")) 1 := by
  have hhead := ((((Shaped.refl "func (s *").append (item_of_isWord h.wrapper.isWord)).append
    (.refl ") ")).append (item_of_isWord h.name.isWord)).append (.refl "(")
  have hparameters : Item (commaSeparated method.parameterTexts) :=
    .commaSeparated (by simp [parameterTexts]) h.item_parameter
  have hresults : Item (commaSeparated method.resultTexts) :=
    .commaSeparated (by simp [resultTexts]) h.item_result
  have hclose := ((Shaped.refl ") (").append hresults).append (.refl ") \x7b")
  unfold signature MethodParts.signature
  rw [parameterList_parts, resultList_parts]
  simp only
  split_ifs
  · have hopen : CodeLine ("func (s *" ++ method.wrapper ++ ") " ++ method.name ++ "(") 0 1 0 :=
      hhead.codeLine (by decide)
    have hentry : ∀ text ∈ method.parameterTexts, CodeLine (text ++ ",") 0 0 0 := fun text htext =>
      ((h.item_parameter text htext).append (.refl ",")).codeLine (by decide)
    have hlast : CodeLine (") (" ++ commaSeparated method.resultTexts ++ ") \x7b") 1 1 1 :=
      hclose.codeLine (by decide)
    exact .code hopen (by decide) (by decide)
      ((Laid.map hentry).append (.code hlast (by decide) (by decide) .nil))
  · have hline : CodeLine ("func (s *" ++ method.wrapper ++ ") " ++ method.name ++ "(" ++
        commaSeparated method.parameterTexts ++ (") (" ++ commaSeparated method.resultTexts ++ ") \x7b"))
        0 1 0 := ((hhead.append hparameters).append hclose).codeLine (by decide)
    exact .code hline (by decide) (by decide) .nil

theorem Printable.laid_call (h : method.Printable) :
    Laid 1 method.call
      ([tabbed 1 ((if method.results.isEmpty then "_" else "response") ++
          ", err := s.client." ++ method.name ++ "("),
        tabbed 2 "ctx,",
        tabbed 2 ("&" ++ method.request ++ "\x7b")] ++
      method.parameters.map (fun p => tabbed 3 (p.field.goName ++ ": " ++ p.name ++ ",")) ++
      [tabbed 2 "\x7d,", tabbed 1 ")"]) 1 := by
  have hresponse : Item (if method.results.isEmpty then "_" else "response") := by
    split_ifs <;> exact .literal (by decide)
  have hcall : CodeLine ((if method.results.isEmpty then "_" else "response") ++
      ", err := s.client." ++ method.name ++ "(") 0 1 0 :=
    (((Shaped.append hresponse (.refl ", err := s.client.")).append
      (item_of_isWord h.name.isWord)).append (.refl "(")).codeLine (by decide)
  have hctx : CodeLine "ctx," 0 0 0 := (Shaped.refl "ctx,").codeLine (by decide)
  have hliteral : CodeLine ("&" ++ method.request ++ "\x7b") 0 1 0 :=
    (((Shaped.refl "&").append h.request.item).append (.refl "\x7b")).codeLine (by decide)
  have hentry : ∀ p ∈ method.parameters, CodeLine (p.field.goName ++ ": " ++ p.name ++ ",") 0 0 0 := by
    intro p hp
    have hp := h.parameters p hp
    exact ((((item_of_isWord hp.field.isWord).append (.refl ": ")).append
      (item_of_isWord hp.name.isWord)).append (.refl ",")).codeLine (by decide)
  have hclose : CodeLine "\x7d," 1 0 1 := (Shaped.refl "\x7d,").codeLine (by decide)
  have hend : CodeLine ")" 1 0 1 := (Shaped.refl ")").codeLine (by decide)
  unfold call
  exact (Laid.append (.code hcall (by decide) (by decide) (.code hctx (by decide) (by decide)
      (.code hliteral (by decide) (by decide) .nil))) (Laid.map hentry)).append
    (.code hclose (by decide) (by decide) (.code hend (by decide) (by decide) .nil))

theorem Printable.laid_returns (h : method.Printable) (hzeros : ∀ zero ∈ zeros, Item zero) :
    Laid 1 ["if err != nil \x7b", "return " ++ String.intercalate ", " (zeros ++ ["err"]), "\x7d",
        method.returnLine, "\x7d", ""]
      [tabbed 1 "if err != nil \x7b", tabbed 2 ("return " ++ String.intercalate ", " (zeros ++ ["err"])),
        tabbed 1 "\x7d", tabbed 1 method.returnLine, "\x7d", ""] 0 := by
  have hif : CodeLine "if err != nil \x7b" 0 1 0 := (Shaped.refl _).codeLine (by decide)
  have herrors : Item (String.intercalate ", " (zeros ++ ["err"])) := by
    apply Item.commaSeparated (by simp)
    intro item hitem
    rcases List.mem_append.mp hitem with hitem | hitem
    · exact hzeros item hitem
    · rw [List.mem_singleton.mp hitem]
      exact .literal (by decide)
  have herror : CodeLine ("return " ++ String.intercalate ", " (zeros ++ ["err"])) 0 0 0 :=
    ((Shaped.refl "return ").append herrors).codeLine (by decide)
  have hvalues : Item (commaSeparated (method.results.map (fun r => "response." ++ r.field.goName) ++ ["nil"])) := by
    apply Item.commaSeparated (by simp)
    intro item hitem
    rcases List.mem_append.mp hitem with hitem | hitem
    · obtain ⟨r, hr, rfl⟩ := List.mem_map.mp hitem
      have hfield := item_of_isWord (h.results r hr).field.isWord
      exact .of_shaped ((Shaped.refl "response.").append hfield) (by decide)
    · rw [List.mem_singleton.mp hitem]
      exact .literal (by decide)
  have hreturn : CodeLine method.returnLine 0 0 0 :=
    ((Shaped.refl "return ").append hvalues).codeLine (by decide)
  have hclose : CodeLine "\x7d" 1 0 1 := (Shaped.refl _).codeLine (by decide)
  exact .code hif (by decide) (by decide) (.code herror (by decide) (by decide)
    (.code hclose (by decide) (by decide) (.code hreturn (by decide) (by decide)
      (.code hclose (by decide) (by decide) (.blank .nil)))))

end WrapperMethod

theorem Method.printable_of_gives {method : Method} {wrapper context : String} {unreadable : List String}
    {table next : Imports} {emitted : WrapperMethod}
    (h : Gives (method.wrapped wrapper context unreadable) table emitted next) (hcons : table.Consistent)
    (hwrapper : IsIdentifier wrapper) (hcontext : Reference context)
    (hnames : ∀ name ∈ method.goNames, IsIdentifier name) : emitted.Printable := by
  obtain ⟨_, _, request, first, parameters, second, results, hrequest, hparameters, hresults, rfl⟩ :=
    gives_wrapped_iff.mp h
  rw [goNames, List.forall_mem_cons, List.forall_mem_append] at hnames
  obtain ⟨hname, hinput, houtput⟩ := hnames
  have hfirst := Imports.eq_resolved_of_qualified hrequest
  have hsecond := (Message.gives_parametersFor hparameters).2
  subst hfirst hsecond
  exact {
    wrapper := hwrapper
    name := hname
    context := hcontext
    request := reference_of_qualified hcons (hinput _ List.mem_cons_self).isWord hrequest
    parameters := Message.printable_of_gives hparameters (hcons.resolved _) hinput
    results := Message.printable_of_gives hresults ((hcons.resolved _).resolved _) houtput }

def Method.zeros (method : Method) : List String := method.output.fields.map Message.zeroText

theorem Method.mem_zeros {method : Method} {zero : String} (h : zero ∈ method.zeros) :
    zero ∈ ["nil", "false", "\"\"", "0"] := by
  obtain ⟨field, _, rfl⟩ := List.mem_map.mp h
  exact zeroText_mem field

theorem Method.fields_of_gives {method : Method} {wrapper context : String} {unreadable : List String}
    {table next : Imports} {emitted : WrapperMethod}
    (h : Gives (method.wrapped wrapper context unreadable) table emitted next) :
    emitted.parameters.map (·.field) = method.input.fields ∧
      emitted.results.map (·.field) = method.output.fields :=
  ⟨(chosen_of_gives h).1.fields_eq, (chosen_of_gives h).2.fields_eq⟩

theorem Method.fits_of_gives {method : Method} {wrapper context : String} {unreadable : List String}
    {table next : Imports} {emitted : WrapperMethod}
    (h : Gives (method.wrapped wrapper context unreadable) table emitted next)
    (hprintable : emitted.Printable) : (emitted.parts method.zeros).Fits method := by
  obtain ⟨hinput, houtput⟩ := fields_of_gives h
  refine ⟨?_, ⟨hprintable.context, hprintable.request⟩, ?_, ?_, ?_, ?_, fun _ => mem_zeros⟩
  · intro text htext
    obtain ⟨line, hline, rfl⟩ := List.mem_map.mp htext
    rw [String.toList_ofList]
    exact List.isPrefixOf_iff_prefix.mp (isPrefixOf_comment (commentLines_comment _ line hline).1)
  · simpa [WrapperMethod.parts] using congrArg List.length hinput
  · simpa [WrapperMethod.parts] using congrArg List.length houtput
  · simp [WrapperMethod.parts, zeros]
  · simp only [WrapperMethod.parts, ← List.map_append]
    intro pair hpair
    obtain ⟨p, hp, rfl⟩ := List.mem_map.mp hpair
    rcases List.mem_append.mp hp with hp | hp
    · exact ⟨(hprintable.parameters p hp).name, (hprintable.parameters p hp).goType⟩
    · exact ⟨(hprintable.results p hp).name, (hprintable.results p hp).goType⟩

/-! ## Where the lines of a method stand -/

theorem placed_entry {name type : String} (hname : IsIdentifier name) (hplain : PlainName name) (depth : Nat) :
    Placed (tabbed (depth + 1) (name ++ " " ++ type)) := by
  refine .word (item_of_isWord hname.isWord).starts (hname.isWord.not_mem (by decide)) ?_ ?_ depth type
  · rintro rfl
    exact hplain.1 (by decide)
  · rintro rfl
    exact hplain.1 (by decide)

theorem placed_field {name : String} (hname : IsIdentifier name) (value : String) (depth : Nat) :
    Placed (tabbed (depth + 1) (name ++ ": " ++ value)) := by
  have hlead : name ++ ": " ++ value = name ++ ":" ++ " " ++ value := by simp [String.append_assoc]
  rw [hlead]
  have hcolon : ∀ word : String, ':' ∉ word.toList → name ++ ":" ≠ word := by
    rintro _ hword rfl
    simp at hword
  refine .word ((item_of_isWord hname.isWord).starts.append ":") ?_ (hcolon _ (by decide)) (hcolon _ (by decide)) depth
    value
  simp [hname.isWord.not_mem (show ' ' ∈ Text.separators by decide)]

namespace MethodParts

variable {parts : MethodParts} {method : Method}

theorem placed_signature (h : parts.Fits method) (hplain : ∀ pair ∈ parts.parameters, PlainName pair.1)
    (wrapper : String) :
    ∀ line ∈ parts.signature (signatureHead wrapper method), Placed line := by
  have hhead : ∀ rest, Placed (signatureHead wrapper method ++ rest) := by
    intro rest
    exact .declaration (by simp [declares, signatureHead])
  unfold signature
  simp only
  split_ifs
  · rw [List.cons_append, List.forall_mem_cons, List.forall_mem_append, List.forall_mem_map, List.forall_mem_singleton]
    refine ⟨by simpa using hhead "", ?_, ?_⟩
    · rw [parameterList, List.forall_mem_cons, List.forall_mem_map]
      refine ⟨?_, ?_⟩
      · rw [String.append_assoc]
        exact .behind (by decide) 0 _
      · intro pair hpair
        rw [entry, String.append_assoc]
        exact placed_entry (h.entries pair (List.mem_append_left _ hpair)).1 (hplain pair hpair) 0
    · rw [String.append_assoc]
      exact .closer (by decide) _
  · rw [List.forall_mem_singleton, String.append_assoc]
    exact hhead _

theorem placed_body (hnames : ∀ field ∈ method.input.fields, IsIdentifier field.goName) :
    ∀ line ∈ parts.body method, Placed line := by
  have hcall : ∀ rest, Placed (tabbed 1 ((if method.output.fields.isEmpty then "_" else "response") ++ rest)) := by
    intro rest
    split_ifs <;> exact .behind (by decide) 0 rest
  have hentries : ∀ line ∈ parts.requestEntries method, Placed line := by
    rw [requestEntries, ← List.map_uncurry_zip_eq_zipWith]
    intro line hline
    obtain ⟨⟨field, name, type⟩, hmem, rfl⟩ := List.mem_map.mp hline
    simp only [Function.uncurry_apply_pair, String.append_assoc]
    rw [← String.append_assoc]
    exact placed_field (hnames field (List.of_mem_zip hmem).1) _ 2
  unfold body
  simp only [List.forall_mem_append, List.forall_mem_cons, List.not_mem_nil, false_implies, implies_true, and_true]
  refine ⟨⟨⟨?_, .literal (by decide) 1, ?_⟩, hentries⟩, .literal (by decide) 1, .literal (by decide) 0,
    .literal (by decide) 0, .behind (by decide) 1 _, .literal (by decide) 0, .behind (by decide) 0 _,
    .closing (by decide), .blank⟩
  · rw [String.append_assoc, String.append_assoc]
    exact hcall _
  · rw [String.append_assoc]
    exact .behind (by decide) 1 _

end MethodParts

theorem Method.placed_of_gives {method : Method} {wrapper context : String} {unreadable : List String}
    {table next : Imports} {emitted : WrapperMethod}
    (h : Gives (method.wrapped wrapper context unreadable) table emitted next) (hprintable : emitted.Printable) :
    ∀ line ∈ (emitted.parts method.zeros).text wrapper method, Placed line := by
  have hfits := fits_of_gives h hprintable
  unfold MethodParts.text
  rw [List.forall_mem_append, List.forall_mem_append]
  refine ⟨⟨fun line hline => .comment (hfits.comments line hline), MethodParts.placed_signature hfits ?_ wrapper⟩,
    MethodParts.placed_body ?_⟩
  · rw [WrapperMethod.parts, List.forall_mem_map]
    exact (chosen_of_gives h).1.plain
  · rw [← (fields_of_gives h).1, List.forall_mem_map]
    exact fun p hp => (hprintable.parameters p hp).field

theorem Method.laid_of_gives {method : Method} {wrapper context : String} {unreadable : List String}
    {table next : Imports} {emitted : WrapperMethod}
    (h : Gives (method.wrapped wrapper context unreadable) table emitted next) (hcons : table.Consistent)
    (hwrapper : IsIdentifier wrapper) (hcontext : Reference context)
    (hnames : ∀ name ∈ method.goNames, IsIdentifier name) :
    ∃ text, (MethodText wrapper method text ∧ ∀ line ∈ text, Placed line) ∧ Laid 0 emitted.lines text 0 := by
  have hprintable := printable_of_gives h hcons hwrapper hcontext hnames
  obtain ⟨hinput, houtput⟩ := fields_of_gives h
  refine ⟨_, ⟨⟨emitted.parts method.zeros, fits_of_gives h hprintable, rfl⟩, placed_of_gives h hprintable⟩, ?_⟩
  -- the text is stated over the schema, the lines are printed from the parameters and results
  have hempty : method.output.fields.isEmpty = emitted.results.isEmpty := by
    rw [← houtput, List.isEmpty_map]
  have hentries := emitted.requestEntries_parts method.zeros hinput
  have hreturn : "return " ++ String.intercalate ", "
      (method.output.fields.map (fun field => "response." ++ field.goName) ++ ["nil"]) =
      emitted.returnLine := by
    rw [← houtput, List.map_map]
    rfl
  have hmade : emitted.wrapper = wrapper ∧ emitted.name = method.goName ∧
      emitted.errorReturn = "return " ++ String.intercalate ", " (method.zeros ++ ["err"]) := by
    obtain ⟨_, _, _, _, _, _, _, _, _, _, rfl⟩ := gives_wrapped_iff.mp h
    exact ⟨rfl, rfl, rfl⟩
  obtain ⟨rfl, hname, herror⟩ := hmade
  have hlaid := (((Laid.comments (commentLines_comment emitted.comments)).append
    (hprintable.laid_signature method.zeros)).append hprintable.laid_call).append
    (hprintable.laid_returns method.zeros fun _ hzero => item_of_zero (mem_zeros hzero))
  unfold WrapperMethod.lines MethodParts.text MethodParts.body signatureHead
  rw [hempty, hentries, hreturn, herror, ← hname]
  simp only [List.append_assoc] at hlaid ⊢
  exact hlaid

/-! ## Where the signature stands -/

/-- How the lines of a method start, apart from its signature. -/
def innerHeads : List Char := ['/', '\t', ')', '\x7d']

theorem MethodParts.signature_cons (parts : MethodParts) (head : String) :
    ∃ line more, parts.signature head = line :: more ∧ head.toList <+: line.toList ∧
      ∀ other ∈ more, HeadIn innerHeads other := by
  unfold signature
  simp only
  split_ifs
  · refine ⟨head, _, rfl, List.prefix_refl _, ?_⟩
    intro other hother
    rcases List.mem_append.mp hother with hother | hother
    · obtain ⟨entry, _, rfl⟩ := List.mem_map.mp hother
      simp [HeadIn, tabbed, innerHeads]
    · rw [List.mem_singleton.mp hother]
      simp [HeadIn, innerHeads]
  · exact ⟨_, [], rfl, by simp [List.append_assoc], by simp⟩

theorem MethodParts.head_of_mem_body {parts : MethodParts} {method : Method} {line : String}
    (h : line ∈ parts.body method) : HeadIn innerHeads line := by
  unfold body at h
  rw [requestEntries, ← List.map_uncurry_zip_eq_zipWith] at h
  simp only [List.mem_append, List.mem_cons, List.not_mem_nil, or_false, List.mem_map] at h
  rcases h with ((rfl | rfl | rfl) | ⟨⟨field, name, type⟩, _, rfl⟩) |
    rfl | rfl | rfl | rfl | rfl | rfl | rfl | rfl <;> simp [HeadIn, tabbed, innerHeads]

/-- A method has one line with its signature, and no other line of it starts in such a way. -/
theorem MethodText.signature_line {wrapper : String} {method : Method} {text : List String}
    (h : MethodText wrapper method text) :
    ∃ before line after, text = before ++ line :: after ∧
      (signatureHead wrapper method).toList <+: line.toList ∧
      ∀ other ∈ before ++ after, HeadIn innerHeads other := by
  obtain ⟨parts, hfits, rfl⟩ := h
  obtain ⟨line, more, hsignature, hhead, hmore⟩ := parts.signature_cons (signatureHead wrapper method)
  refine ⟨parts.comments, line, more ++ parts.body method, ?_, hhead, ?_⟩
  · simp [MethodParts.text, hsignature]
  · simp only [List.forall_mem_append]
    refine ⟨?_, hmore, fun other hother => MethodParts.head_of_mem_body hother⟩
    intro comment hcomment
    obtain ⟨rest, hrest⟩ := hfits.comments comment hcomment
    simp [HeadIn, ← hrest, innerHeads]

theorem MethodText.ends {wrapper : String} {method : Method} {text : List String}
    (h : MethodText wrapper method text) : ["\x7d", ""] <:+ text := by
  obtain ⟨parts, _, rfl⟩ := h
  unfold MethodParts.text MethodParts.body
  apply List.suffix_append_of_suffix
  apply List.suffix_append_of_suffix
  simp [List.suffix_cons_iff]

end RpcClients
