import RpcClients.Proofs.LeadingComments
import RpcClients.Proofs.LoadingMemory
import RpcClients.Source.Artifact

/-! # Comment lines above methods

Comments that have the lines above a method's name to themselves are read as its documentation, are found
again when the file is loaded, and become comment lines with the same text. -/

namespace RpcClients.Proto

open Schema

/-! ## Lines of a text -/

theorem length_pieces (separator : Char) (text : List Char) :
    (Text.pieces separator text).length = text.count separator + 1 := by
  induction text with
  | nil => rfl
  | cons c rest ih =>
    obtain ⟨piece, others, hrest⟩ := List.exists_cons_of_ne_nil (Text.pieces_ne_nil separator rest)
    rw [Text.pieces, List.count_cons]
    rw [hrest] at ih ⊢
    split_ifs with hc hbeq
    · rw [List.length_cons, ih]
    · simp [hc] at hbeq
    · simp_all
    · simpa using ih

theorem pieces_line {line after : List Char} (h : '\n' ∉ line) (hafter : ∀ c ∈ after.head?, c = '\n') :
    (Text.pieces '\n' (line ++ after))[0]? = some line := by
  cases after with
  | nil => rw [List.append_nil, Text.pieces_of_not_mem h, List.getElem?_cons_zero]
  | cons c after =>
    rw [hafter c rfl, Text.pieces_append_cons, Text.pieces_of_not_mem h]
    rfl

theorem exists_lastLine (text : List Char) :
    ∃ last, '\n' ∉ last ∧ (text = last ∨ ∃ above, text = above ++ '\n' :: last) := by
  obtain ⟨hfree, hall | ⟨above, habove⟩⟩ := eq_takeWhile_line text.reverse
  · refine ⟨text, fun hmem => ?_, Or.inl rfl⟩
    rw [← hall] at hfree
    exact hfree (List.mem_reverse.mpr hmem)
  · refine ⟨(text.reverse.takeWhile (· ≠ '\n')).reverse, fun hmem => hfree (List.mem_reverse.mp hmem),
      Or.inr ⟨above.reverse, ?_⟩⟩
    have := congrArg List.reverse habove
    simpa using this

theorem foldl_marginAfter {line : List Char} (h : '\n' ∉ line) (atMargin : Bool) :
    line.foldl marginAfter atMargin = (atMargin && line.all Text.isBlank) := by
  induction line generalizing atMargin with
  | nil => simp
  | cons c rest ih =>
    rw [List.mem_cons, not_or] at h
    rw [List.foldl_cons, ih h.2, marginAfter, decide_eq_false (Ne.symm h.1), Bool.false_or, List.all_cons,
      Bool.and_assoc]

theorem Comment.Stands.line_eq {text before : List Char} {comment : Comment} (h : comment.Stands text before)
    (hblock : comment.block = false) :
    ∃ lead, comment.ownLine = lead.all Text.isBlank ∧
      (Text.pieces '\n' text)[comment.firstLine - 1]? = some (lead ++ comment.source) := by
  obtain ⟨after, htext, hline⟩ := h.source
  obtain ⟨hfree, hafter⟩ := hline hblock
  have hsource : '\n' ∉ comment.source := by simpa [Comment.source, commentText, hblock] using hfree
  rw [h.ownLine, h.firstLine, line_textEnd, Nat.add_sub_cancel, htext]
  obtain ⟨lead, hlead, rfl | ⟨above, rfl⟩⟩ := exists_lastLine before
  · refine ⟨before, by rw [margin, foldl_marginAfter hlead, Bool.true_and], ?_⟩
    rw [List.count_eq_zero.mpr hlead]
    exact pieces_line (by simp [hlead, hsource]) hafter
  · refine ⟨lead, ?_, ?_⟩
    · rw [margin_append, List.foldl_cons, foldl_marginAfter hlead, marginAfter, decide_eq_true rfl, Bool.true_or,
        Bool.true_and]
    · rw [List.append_assoc, List.append_assoc, List.cons_append, Text.pieces_append_cons, List.count_append,
        List.count_cons_self, List.count_eq_zero.mpr hlead, ← length_pieces, List.getElem?_append_right (Nat.le_refl _),
        Nat.sub_self, ← List.append_assoc]
      exact pieces_line (by simp [hlead, hsource]) hafter

/-- The line consists of blanks and a comment. -/
structure CommentLine (text : List Char) (comments : List Comment) (line : Nat) (token : List Char) : Prop where
  alone : ∃ blanks, blanks.all Text.isBlank = true ∧ (Text.pieces '\n' text)[line - 1]? = some (blanks ++ token)
  read : ∃ comment ∈ comments, comment.block = false ∧ comment.firstLine = line ∧ comment.source = token

def lineComment (line : Nat) (token : List Char) : Comment where
  block := false
  text := token.drop 2
  firstLine := line
  lastLine := line
  ownLine := true

namespace SourceTree.Placed

variable {text : List Char} {tree : SourceTree}

theorem commentLine_of_mem (h : tree.Placed text) {comment : Comment} (hcomment : comment ∈ tree.comments)
    (hown : comment.ownLine = true) (hblock : comment.block = false) :
    CommentLine text tree.comments comment.lastLine comment.source := by
  obtain ⟨before, hstands⟩ := h.stand comment hcomment
  obtain ⟨lead, hlead, hline⟩ := hstands.line_eq hblock
  rw [hstands.lastLine_eq hblock]
  exact ⟨⟨lead, hlead.symm.trans hown, hline⟩, comment, hcomment, hblock, rfl, rfl⟩

theorem lineComment_mem (h : tree.Placed text) {line : Nat} {token : List Char}
    (hline : CommentLine text tree.comments line token) :
    lineComment line token ∈ tree.comments ∧ (lineComment line token).source = token := by
  obtain ⟨⟨blanks, hblanks, hpiece⟩, comment, hcomment, hblock, hfirst, hsource⟩ := hline
  obtain ⟨before, hstands⟩ := h.stand comment hcomment
  obtain ⟨lead, hlead, hline⟩ := hstands.line_eq hblock
  rw [hfirst, hpiece, hsource, Option.some.injEq] at hline
  have hown : comment.ownLine = true := by rw [hlead, ← List.append_cancel_right hline, hblanks]
  have hlast := (hstands.lastLine_eq hblock).trans hfirst
  have heq : lineComment line token = comment := by
    rw [← hsource, Comment.source, commentText, hblock]
    cases comment
    simp_all [lineComment]
  rw [heq]
  exact ⟨hcomment, hsource⟩

theorem token_eq (h : tree.Placed text) {line : Nat} {token : List Char}
    (hline : CommentLine text tree.comments line token) :
    '/' :: '/' :: token.drop 2 = token ∧ '\n' ∉ token.drop 2 := by
  obtain ⟨hmem, hsource⟩ := h.lineComment_mem hline
  obtain ⟨before, hstands⟩ := h.stand _ hmem
  obtain ⟨after, _, hfree⟩ := hstands.source
  exact ⟨hsource, (hfree rfl).1⟩

/-- The comment lines above a line, up to one that is none, document a declaration there. -/
theorem documenting_lines (h : tree.Placed text) {start : Nat} {tokens : List (List Char)} (hne : tokens ≠ [])
    (hlines : ∀ index token, tokens[index]? = some token → CommentLine text tree.comments (start + index) token)
    (habove : ∀ token, ¬ CommentLine text tree.comments (start - 1) token) :
    documenting tree.comments (start + tokens.length) =
      tokens.mapIdx fun index token => lineComment (start + index) token := by
  -- the line at each index has a comment to itself
  have hnoted (index : Nat) (hindex : index < tokens.length) :
      lineComment (start + index) tokens[index] ∈ tree.comments :=
    (h.lineComment_mem (hlines index _ (List.getElem?_eq_getElem hindex))).1
  have hunique (index : Nat) (hindex : index < tokens.length) {comment : Comment} (hcomment : comment ∈ tree.comments)
      (hown : comment.ownLine = true) (hline : comment.lastLine = start + index) :
      comment = lineComment (start + index) tokens[index] :=
    h.stacked.eq_of_lastLine hcomment (hnoted index hindex) hown rfl hline
  refine (h.stacked.descending_documenting _).eq_of_mem_iff ?_ fun comment => ?_
  · refine List.pairwise_iff_getElem.mpr fun i j hi hj hlt => ?_
    simpa [lineComment] using hlt
  · rw [mem_documenting, List.mem_mapIdx]
    constructor
    · rintro ⟨hcomment, ⟨hown, hblock, hline⟩ | ⟨hown, hblock, hlt, hbetween⟩⟩
      · have hlast : tokens.length - 1 < tokens.length := by
          have := List.length_pos_iff.mpr hne
          omega
        rw [hunique _ hlast hcomment hown (by omega)] at hblock
        cases hblock
      · by_cases hstart : start ≤ comment.lastLine
        · have hindex : comment.lastLine - start < tokens.length := by omega
          exact ⟨_, hindex, (hunique _ hindex hcomment hown (by omega)).symm⟩
        · obtain ⟨other, hother, hown', hblock', hline⟩ := hbetween (start - 1) (by omega) (by omega)
          have hother := h.commentLine_of_mem hother hown' hblock'
          rw [hline] at hother
          exact absurd hother (habove _)
    · rintro ⟨index, hindex, rfl⟩
      refine ⟨hnoted index hindex, Or.inr ⟨rfl, rfl, Nat.add_lt_add_left hindex start, fun between hlast hfirst => ?_⟩⟩
      have hfirst : start + index ≤ between := hfirst
      have hindex : between - start < tokens.length := by omega
      exact ⟨_, hnoted _ hindex, rfl, rfl, by simp only [lineComment]; omega⟩

theorem leadingComments?_lines (h : tree.Placed text) {start : Nat} {tokens : List (List Char)} (hne : tokens ≠ [])
    (hlines : ∀ index token, tokens[index]? = some token → CommentLine text tree.comments (start + index) token)
    (habove : ∀ token, ¬ CommentLine text tree.comments (start - 1) token) :
    leadingComments? tree.comments (start + tokens.length) =
      some (String.ofList ((tokens.map (·.drop 2)).flatMap (· ++ ['\n']))) := by
  have hdocumenting := h.documenting_lines hne hlines habove
  obtain ⟨line, hline⟩ := Nat.exists_eq_succ_of_ne_zero (n := start + tokens.length) (by
    have := List.length_pos_iff.mpr hne
    omega)
  have htexts : (tokens.mapIdx fun index token => lineComment (start + index) token).map (·.text) =
      tokens.map (·.drop 2) := List.ext_getElem (by simp) (by simp [lineComment])
  rw [hline] at hdocumenting ⊢
  rw [h.stacked.leadingComments?_eq, hdocumenting, if_neg (by simpa using hne), documentation_eq, htexts]
  · intro comment hcomment
    obtain ⟨index, hindex, rfl⟩ := List.mem_mapIdx.mp hcomment
    rfl

end SourceTree.Placed

/-! ## Recorded comments -/

theorem Comment.lines_ne_nil (comment : Comment) : comment.lines ≠ [] := by
  unfold Comment.lines blockLines
  obtain ⟨first, rest, hpieces⟩ := List.exists_cons_of_ne_nil (Text.pieces_ne_nil '\n' comment.text)
  rw [hpieces]
  split_ifs <;> exact List.cons_ne_nil _ _

theorem documentation_ne_empty {comments : List Comment} (h : comments ≠ []) : documentation comments ≠ "" := by
  obtain ⟨comment, rest, rfl⟩ := List.exists_cons_of_ne_nil h
  obtain ⟨line, others, hlines⟩ := List.exists_cons_of_ne_nil comment.lines_ne_nil
  intro hempty
  have := congrArg String.toList hempty
  simp [documentation, hlines] at this

theorem mem_locations {comments : List Comment} {services : List ServiceDecl} {location : Location} :
    location ∈ services.zipIdx.flatMap (serviceLocations comments) ↔
      ∃ (i : Nat) (service : ServiceDecl), services[i]? = some service ∧
        (location? comments [6, i] service.line = some location ∨
          ∃ (j : Nat) (rpc : RpcDecl), service.rpcs[j]? = some rpc ∧
            location? comments [6, i, 2, j] rpc.line = some location) := by
  simp only [List.mem_flatMap, Prod.exists, List.mem_zipIdx_iff_getElem?, serviceLocations, List.mem_append,
    Option.mem_toList, List.mem_filterMap]
  constructor
  · rintro ⟨service, i, hservice, hlocation | ⟨rpc, j, hrpc, hlocation⟩⟩
    · exact ⟨i, service, hservice, Or.inl hlocation⟩
    · exact ⟨i, service, hservice, Or.inr ⟨j, rpc, hrpc, hlocation⟩⟩
  · rintro ⟨i, service, hservice, hlocation | ⟨j, rpc, hrpc, hlocation⟩⟩
    · exact ⟨service, i, hservice, Or.inl hlocation⟩
    · exact ⟨service, i, hservice, Or.inr ⟨rpc, j, hrpc, hlocation⟩⟩

theorem path_of_location? {comments : List Comment} {path : List Int} {line : Nat} {location : Location}
    (h : location? comments path line = some location) : location.path = path := by
  obtain ⟨_, _, rfl⟩ := Option.map_eq_some_iff.mp h
  rfl

theorem commentsAt?_method {text : List Char} {tree : SourceTree} (h : tree.Placed text)
    (hnamed : ∀ service ∈ tree.services, service.Placed tree.tokens) {file : FileDescriptor}
    (hfile : file.locations = tree.services.zipIdx.flatMap (serviceLocations tree.comments)) {i j : Nat}
    {service : ServiceDecl} {rpc : RpcDecl} (hservice : tree.services[i]? = some service)
    (hrpc : service.rpcs[j]? = some rpc) :
    Loading.commentsAt? file [6, i, 2, j] = leadingComments? tree.comments rpc.line := by
  -- only the location of this method has its path
  have hat : ∀ location ∈ file.locations, location.path = [6, (i : Int), 2, (j : Int)] →
      location? tree.comments [6, i, 2, j] rpc.line = some location := by
    intro location hlocation hpath
    rw [hfile, mem_locations] at hlocation
    obtain ⟨i', service', hservice', hlocation | ⟨j', rpc', hrpc', hlocation⟩⟩ := hlocation
    · rw [path_of_location? hlocation] at hpath
      simp at hpath
    · rw [path_of_location? hlocation] at hpath
      simp only [List.cons.injEq, Int.natCast_inj, true_and, and_true] at hpath
      obtain ⟨rfl, rfl⟩ := hpath
      rw [hservice] at hservice'
      cases hservice'
      rw [hrpc] at hrpc'
      cases hrpc'
      exact hlocation
  unfold Loading.commentsAt?
  generalize hfound : (file.locations.reverse.find? fun location =>
    location.path = [6, (i : Int), 2, (j : Int)] && location.leadingComments ≠ "") = found
  cases found with
  | some other =>
    have hpath := List.find?_some hfound
    simp only [Bool.and_eq_true, decide_eq_true_eq] at hpath
    have hother := hat other (List.mem_reverse.mp (List.mem_of_find?_eq_some hfound)) hpath.1
    obtain ⟨comments, hcomments, rfl⟩ := Option.map_eq_some_iff.mp hother
    exact hcomments.symm
  | none =>
    cases hcomments : leadingComments? tree.comments rpc.line with
    | none => rfl
    | some comments =>
      -- a comment is recorded, and it has a text
      have hlocation : location? tree.comments [6, i, 2, j] rpc.line =
          some ⟨[6, i, 2, j], [(rpc.line : Int) - 1, 0, 0], comments⟩ := by rw [location?, hcomments, Option.map_some]
      have hmem : (⟨[6, i, 2, j], [(rpc.line : Int) - 1, 0, 0], comments⟩ : Location) ∈ file.locations := by
        rw [hfile, mem_locations]
        exact ⟨i, service, hservice, Or.inr ⟨j, rpc, hrpc, hlocation⟩⟩
      have hname := (hnamed service (List.mem_of_getElem? hservice)).rpcs rpc (List.mem_of_getElem? hrpc)
      have hdocumented := h.documented hname hlocation
      have htext : comments ≠ "" := by
        have := documentation_ne_empty hdocumented.commented
        rwa [← hdocumented.text] at this
      have := List.find?_eq_none.mp hfound _ (List.mem_reverse.mpr hmem)
      simp [htext] at this

end RpcClients.Proto

namespace RpcClients

/-! ## Loaded methods -/

theorem getElem?_of_forall₂ {α β : Type} {r : α → β → Prop} {items : List α} {values : List β}
    (h : List.Forall₂ r items values) {index : Nat} {item : α} (hitem : items[index]? = some item) :
    ∃ value, values[index]? = some value ∧ r item value := by
  induction h generalizing index with
  | nil => simp at hitem
  | cons hhead _ ih =>
    cases index with
    | zero =>
      cases hitem
      exact ⟨_, rfl, hhead⟩
    | succ index => exact ih hitem

namespace Schema.Loading

variable {table : SymbolTable} {descriptor : FileDescriptor}

theorem loads_method {service : String} {index : Nat} {item : MethodDescriptor × Nat} {loaded : Method}
    (h : Loads (method table (message table) descriptor service index item) loaded) :
    loaded.name = item.1.name ∧ loaded.comments = commentsAt? descriptor [6, index, 2, item.2] := by
  obtain ⟨_, _, h⟩ := loads_bind h
  obtain ⟨_, _, h⟩ := loads_bind h
  obtain ⟨_, _, h⟩ := loads_bind h
  obtain ⟨_, _, h⟩ := loads_bind h
  obtain ⟨_, _, h⟩ := loads_bind h
  rw [loads_pure h]
  exact ⟨rfl, rfl⟩

/-- The method at an index of a service at an index is loaded with its own comments. -/
theorem loads_file {toGenerate : List String} {loaded : File} (hname : descriptor.name ∈ toGenerate)
    (h : Loads (file table (message table) toGenerate descriptor) loaded) {i j : Nat} {service : ServiceDescriptor}
    {method : MethodDescriptor} (hservice : descriptor.services[i]? = some service)
    (hmethod : service.methods[j]? = some method) :
    ∃ loadedService loadedMethod, loaded.services[i]? = some loadedService ∧
      loadedService.methods[j]? = some loadedMethod ∧ loadedMethod.name = method.name ∧
      loadedMethod.comments = commentsAt? descriptor [6, i, 2, j] := by
  rw [file, if_pos hname] at h
  obtain ⟨_, _, h⟩ := loads_bind h
  obtain ⟨services, hservices, h⟩ := loads_bind h
  rw [loads_pure h]
  have hitem : descriptor.services.zipIdx[i]? = some (service, i) := by simp [hservice]
  obtain ⟨loadedService, hloaded, hloads⟩ := getElem?_of_forall₂ (loads_mapM hservices) hitem
  obtain ⟨methods, hmethods, hloads⟩ := loads_bind hloads
  obtain ⟨_, _, hloads⟩ := loads_bind hloads
  rw [loads_pure hloads] at hloaded
  have hitem : service.methods.zipIdx[j]? = some (method, j) := by simp [hmethod]
  obtain ⟨loadedMethod, hloadedMethod, hloads⟩ := getElem?_of_forall₂ (loads_mapM hmethods) hitem
  exact ⟨_, loadedMethod, hloaded, hloadedMethod, loads_method hloads⟩

end Schema.Loading

/-! ## Comment lines -/

theorem pieces_of_lines {texts : List (List Char)} (hne : texts ≠ []) (hfree : ∀ text ∈ texts, '\n' ∉ text) :
    ∃ body, texts.flatMap (· ++ ['\n']) = body ++ ['\n'] ∧ Text.pieces '\n' body = texts := by
  induction texts with
  | nil => exact absurd rfl hne
  | cons text rest ih =>
    rw [List.forall_mem_cons] at hfree
    cases rest with
    | nil => exact ⟨text, by simp, Text.pieces_of_not_mem hfree.1⟩
    | cons other more =>
      obtain ⟨body, hbody, hpieces⟩ := ih (List.cons_ne_nil _ _) hfree.2
      refine ⟨text ++ '\n' :: body, ?_, ?_⟩
      · rw [List.flatMap_cons, hbody]
        simp
      · rw [Text.pieces_append_cons, Text.pieces_of_not_mem hfree.1, hpieces]
        rfl

theorem commentLines_of_lines {texts : List (List Char)} (hne : texts ≠ []) (hfree : ∀ text ∈ texts, '\n' ∉ text) :
    commentLines (some (String.ofList (texts.flatMap (· ++ ['\n'])))) =
      texts.map fun text => String.ofList ('/' :: '/' :: text) := by
  obtain ⟨body, hbody, hpieces⟩ := pieces_of_lines hne hfree
  have hsuffix : Text.withoutSuffix ['\n'] (body ++ ['\n']) = body := by
    simp [Text.withoutSuffix]
  rw [hbody, commentLines]
  · rw [String.toList_ofList, hsuffix, hpieces]
  · intro hempty
    have := congrArg String.toList hempty
    simp at this

namespace Schema

open Proto

/-- A method that is loaded has the comments that were read before its name, up to the form of comment lines: those
on the lines right above it if they have these lines to themselves, and none if the comments there trail other code. -/
theorem load_keeps_comment_lines {text name : String} {tree : SourceTree} {descriptor : FileDescriptor}
    {descriptors : List FileDescriptor} {toGenerate unreadable : List String} {files : List File} {i j k : Nat}
    {service : ServiceDecl} {rpc : RpcDecl} (hparse : parse text name = .ok descriptor)
    (htree : SourceTree.ofText text.toList = .ok tree) (hservice : tree.services[i]? = some service)
    (hrpc : service.rpcs[j]? = some rpc) (hfile : descriptors[k]? = some descriptor) (hname : name ∈ toGenerate)
    (hload : load descriptors toGenerate unreadable = .ok files) :
    ∃ file loaded method, files[k]? = some file ∧ file.services[i]? = some loaded ∧
      loaded.methods[j]? = some method ∧ method.name = rpc.name ∧ NamedAt tree.tokens rpc.name rpc.line ∧
      (∀ start tokens, tokens ≠ [] → start + tokens.length = rpc.line →
        (∀ index token, tokens[index]? = some token → CommentLine text.toList tree.comments (start + index) token) →
        (∀ token, ¬ CommentLine text.toList tree.comments (start - 1) token) →
        commentLines method.comments = tokens.map String.ofList) ∧
      ((∀ comment ∈ tree.comments, comment.lastLine + 1 = rpc.line → comment.ownLine = false) →
        method.comments = none) := by
  have hplaced := placed_of_ofText htree
  have hnames := services_placed htree
  have hnamed := (hnames service (List.mem_of_getElem? hservice)).rpcs rpc (List.mem_of_getElem? hrpc)
  -- the descriptor has the declared services, and a location for each declaration with comments
  obtain ⟨tree', htree', hdescribed⟩ := parse_ok_iff.mp hparse
  obtain rfl : tree = tree' := Except.ok.inj (htree.symm.trans htree')
  obtain ⟨_, parts, _, rfl⟩ := SourceTree.described_ok_iff.mp hdescribed
  have hservice' : (tree.assembled name parts).services[i]? = some service.described := by
    simp [SourceTree.assembled, hservice]
  have hrpc' : service.described.methods[j]? = some rpc.described := by
    simp [ServiceDecl.described, hrpc]
  obtain ⟨_, symbols, after, _, hrun⟩ := load_ok_iff.mp hload
  obtain ⟨file, hloaded, hloads⟩ := getElem?_of_forall₂ (Loading.loads_mapM ⟨_, _, hrun⟩) hfile
  obtain ⟨loaded, method, hservices, hmethods, hmethod, hcomments⟩ := Loading.loads_file hname hloads hservice' hrpc'
  rw [commentsAt?_method hplaced hnames rfl hservice hrpc] at hcomments
  refine ⟨file, loaded, method, hloaded, hservices, hmethods, hmethod, hnamed, ?_, ?_⟩
  · intro start tokens hne hline hlines habove
    have htokens : ∀ token ∈ tokens, '/' :: '/' :: token.drop 2 = token ∧ '\n' ∉ token.drop 2 := by
      intro token htoken
      obtain ⟨index, hindex⟩ := List.getElem?_of_mem htoken
      exact hplaced.token_eq (hlines index token hindex)
    rw [hcomments, ← hline, hplaced.leadingComments?_lines hne hlines habove,
      commentLines_of_lines (by simpa using hne) (by simpa using fun token htoken => (htokens token htoken).2),
      List.map_map]
    exact List.map_congr_left fun token htoken => congrArg String.ofList (htokens token htoken).1
  · intro htrails
    obtain ⟨above, habove⟩ := Nat.exists_eq_succ_of_ne_zero (Nat.ne_of_gt (hplaced.line_pos hnamed))
    rw [hcomments, habove, hplaced.stacked.leadingComments?_eq, if_pos]
    refine List.eq_nil_iff_forall_not_mem.mpr fun comment hcomment => ?_
    obtain ⟨other, hother, hown, hline, _⟩ := ends_of_mem_documenting hcomment
    rw [htrails other hother (by rw [hline, habove])] at hown
    cases hown

/-- A comment trails the start of a service, and two stand above its method. -/
def commentedMethod : String :=
  "service S\x7b//t\n //a\n//b\nrpc G(M)returns(M);\x7dmessage M\x7b\x7doption go_package=\"g\";"

theorem load_keeps_comment_lines_trailing : ∃ descriptor files file loaded method,
    parse commentedMethod "a.proto" = .ok descriptor ∧ load [descriptor] ["a.proto"] = .ok files ∧
    files[0]? = some file ∧ file.services[0]? = some loaded ∧ loaded.methods[0]? = some method ∧
    method.name = "G" ∧ commentLines method.comments = ["//a", "//b"] := by
  have hread : (SourceTree.ofText commentedMethod.toList).toOption.map (fun tree => (tree.comments, tree.services)) =
      some ([⟨false, ['t'], 1, 1, false⟩, ⟨false, ['a'], 2, 2, true⟩, ⟨false, ['b'], 3, 3, true⟩],
        [⟨"S", 1, [⟨"G", 4, ⟨"M", false⟩, ⟨"M", false⟩, false, false⟩]⟩]) := by decide +kernel
  have htrailing : (Text.pieces '\n' commentedMethod.toList)[0]? = some "service S\x7b//t".toList := by decide +kernel
  have hloaded : ((parse commentedMethod "a.proto").toOption.bind fun descriptor =>
      (load [descriptor] ["a.proto"]).toOption).isSome = true := by decide +kernel
  cases htree : SourceTree.ofText commentedMethod.toList with
  | error position =>
    rw [htree] at hread
    cases hread
  | ok tree =>
    rw [htree] at hread
    obtain ⟨hcomments, hservices⟩ := Prod.mk.inj (Option.some.inj hread)
    cases hparse : parse commentedMethod "a.proto" with
    | error failure =>
      rw [hparse] at hloaded
      cases hloaded
    | ok descriptor =>
      cases hload : load [descriptor] ["a.proto"] with
      | error failure =>
        rw [hparse] at hloaded
        simp only [Except.toOption, Option.bind_some, hload] at hloaded
        cases hloaded
      | ok files =>
        obtain ⟨file, loaded, method, hfile, hservice, hmethod, hname, _, hcommented, _⟩ :=
          load_keeps_comment_lines (i := 0) (j := 0) (k := 0) hparse htree (by rw [hservices]; rfl) rfl rfl
            (by decide) hload
        refine ⟨descriptor, files, file, loaded, method, rfl, hload, hfile, hservice, hmethod, hname, ?_⟩
        refine hcommented 2 ["//a".toList, "//b".toList] (by simp) rfl ?_ ?_
        · intro index token htoken
          rcases index with _ | _ | index
          · cases htoken
            exact ⟨⟨[' '], rfl, by decide +kernel⟩, ⟨false, ['a'], 2, 2, true⟩, by simp [hcomments], rfl, rfl, rfl⟩
          · cases htoken
            exact ⟨⟨[], rfl, by decide +kernel⟩, ⟨false, ['b'], 3, 3, true⟩, by simp [hcomments], rfl, rfl, rfl⟩
          · simp at htoken
        · -- the line above starts with code
          rintro token ⟨⟨blanks, hblanks, hline⟩, comment, hcomment, _, hfirst, rfl⟩
          have hsource : comment.source = ['/', '/', 't'] := by
            rw [hcomments] at hcomment
            simp only [List.mem_cons, List.not_mem_nil, or_false] at hcomment
            rcases hcomment with rfl | rfl | rfl
            · rfl
            · cases hfirst
            · cases hfirst
          rw [htrailing, hsource, Option.some.injEq] at hline
          cases blanks with
          | nil => cases hline
          | cons c rest =>
            obtain rfl : 's' = c := (List.cons.inj hline).1
            cases hblanks

end Schema

end RpcClients
