import RpcClients.Proofs.FillerInsertion
import RpcClients.Proofs.GoText
import RpcClients.Proofs.Pieces

/-! # Where tokens and comments stand

A file is read from its start to its end, so what has been read is the start of its text. Each token and each
comment stands at a place of its own there. So a comment before which its line is blank starts below the earlier
comments, and if it is no block, no name stands on its line. -/

namespace RpcClients.Proto

/-! ## Lines -/

/-- Whether only blanks stand on the last line of a text. -/
def margin (text : List Char) : Bool := text.foldl marginAfter true

theorem margin_append (text more : List Char) : margin (text ++ more) = more.foldl marginAfter (margin text) :=
  List.foldl_append

theorem line_foldl_after (position : Position) (text : List Char) :
    (text.foldl Position.after position).line = position.line + text.count '\n' := by
  induction text generalizing position with
  | nil => rfl
  | cons c rest ih =>
    rw [List.foldl_cons, ih, Position.after, List.count_cons]
    split_ifs with hc hbeq
    · simp only
      omega
    · simp [hc] at hbeq
    · simp_all
    · rfl

theorem line_textEnd (text : List Char) : (textEnd text).line = text.count '\n' + 1 := by
  rw [textEnd, line_foldl_after, Nat.add_comm]

theorem line_lt_of_mem {text more : List Char} (h : '\n' ∈ more) :
    (textEnd text).line < (textEnd (text ++ more)).line := by
  have := List.count_pos_iff.mpr h
  rw [line_textEnd, line_textEnd, List.count_append]
  omega

theorem line_le_of_isPrefix {text longer : List Char} (h : text <+: longer) :
    (textEnd text).line ≤ (textEnd longer).line := by
  obtain ⟨more, rfl⟩ := h
  rw [line_textEnd, line_textEnd, List.count_append]
  omega

theorem newline_mem_of_margin (before : List Char) {c : Char} {more : List Char} (hc : Text.isBlank c = false)
    (hline : c ≠ '\n') (h : margin (before ++ c :: more) = true) : '\n' ∈ more := by
  by_contra hmore
  have hfalse (more : List Char) (hmore : '\n' ∉ more) : more.foldl marginAfter false = false := by
    induction more with
    | nil => rfl
    | cons d more ih =>
      rw [List.mem_cons, not_or] at hmore
      rw [List.foldl_cons, marginAfter, Bool.false_and, Bool.or_false, decide_eq_false (Ne.symm hmore.1)]
      exact ih hmore.2
  rw [margin_append, List.foldl_cons, marginAfter, hc, Bool.and_false, Bool.or_false, decide_eq_false hline,
    hfalse more hmore] at h
  cases h

/-! ## Comments -/

/-- A comment with its marks, a block or a line. -/
def commentText (block : Bool) (text : List Char) : List Char :=
  if block then '/' :: '*' :: (text ++ ['*', '/']) else '/' :: '/' :: text

def Comment.source (comment : Comment) : List Char := commentText comment.block comment.text

theorem length_commentText (comment : Bool × List Char) :
    (commentText comment.1 comment.2).length = commentLength comment := by
  obtain ⟨_ | _, text⟩ := comment
  · rfl
  · simp [commentText, commentLength]

theorem count_commentText (block : Bool) (text : List Char) :
    (commentText block text).count '\n' = text.count '\n' := by
  cases block <;> simp [commentText]

theorem eq_of_commentAt? {text : List Char} {comment : Bool × List Char} (h : commentAt? text = some comment) :
    ∃ after, text = commentText comment.1 comment.2 ++ after ∧
      (comment.1 = false → '\n' ∉ comment.2 ∧ ∀ c ∈ after.head?, c = '\n') := by
  unfold commentAt? at h
  split at h
  · rename_i rest
    cases h
    obtain ⟨hfree, hall | ⟨more, hmore⟩⟩ := eq_takeWhile_line rest
    · exact ⟨[], by rw [commentText, ← hall]; simp, fun _ => ⟨hfree, by simp⟩⟩
    · refine ⟨'\n' :: more, ?_, fun _ => ⟨hfree, by simp⟩⟩
      nth_rewrite 1 [hmore]
      rfl
  · obtain ⟨body, hbody, rfl⟩ := Option.map_eq_some_iff.mp h
    obtain ⟨more, rfl, _⟩ := eq_of_blockText? hbody
    exact ⟨more, by simp [commentText], fun hline => by cases hline⟩
  · cases h

/-- The comment stands behind `before` in the text, and its lines are counted from there. -/
structure Comment.Stands (text : List Char) (comment : Comment) (before : List Char) : Prop where
  source : ∃ after, text = before ++ comment.source ++ after ∧
    (comment.block = false → '\n' ∉ comment.text ∧ ∀ c ∈ after.head?, c = '\n')
  firstLine : comment.firstLine = (textEnd before).line
  lastLine : comment.lastLine = (textEnd (before ++ comment.source)).line
  ownLine : comment.ownLine = margin before

theorem Comment.Stands.lastLine_eq {text before : List Char} {comment : Comment} (h : comment.Stands text before)
    (hblock : comment.block = false) : comment.lastLine = comment.firstLine := by
  obtain ⟨after, _, hfree⟩ := h.source
  have hnone : comment.source.count '\n' = 0 := by
    rw [List.count_eq_zero]
    simpa [Comment.source, commentText, hblock] using (hfree hblock).1
  rw [h.lastLine, h.firstLine, line_textEnd, line_textEnd, List.count_append, hnone, Nat.add_zero]

theorem Comment.Stands.lt_of_margin {text before done : List Char} {comment : Comment} (h : comment.Stands text before)
    (hdone : before ++ comment.source <+: done) (hmargin : margin done = true) :
    comment.lastLine < (textEnd done).line := by
  obtain ⟨more, rfl⟩ := hdone
  rw [h.lastLine]
  refine line_lt_of_mem ?_
  -- the last mark of a block, or the first one of a comment on a line, is no blank
  cases hblock : comment.block with
  | false =>
    obtain ⟨after, _, hfree⟩ := h.source
    have hline : margin (before ++ '/' :: ('/' :: comment.text ++ more)) = true := by
      simpa [Comment.source, commentText, hblock] using hmargin
    simpa [(hfree hblock).1] using newline_mem_of_margin before (by decide) (by decide) hline
  | true =>
    have hend : margin ((before ++ '/' :: '*' :: (comment.text ++ ['*'])) ++ '/' :: more) = true := by
      simpa [Comment.source, commentText, hblock] using hmargin
    exact newline_mem_of_margin _ (by decide) (by decide) hend

/-! ## What has been read -/

theorem isNameChar_of_isNameStart {c : Char} (h : isNameStart c = true) : isNameChar c = true := by
  unfold isNameStart at h
  unfold isNameChar Char.isAlphanum
  rcases Bool.or_eq_true_iff.mp h with hc | hc
  · rw [hc, Bool.true_or, Bool.true_or]
  · rw [hc, Bool.or_true]

theorem not_blank_of_isNameStart {c : Char} (h : isNameStart c = true) : Text.isBlank c = false ∧ c ≠ '\n' := by
  constructor
  · exact Text.isBlank_eq_false_of_isWordChar (Naming.isWordChar_of_isIdentifierChar (isNameChar_of_isNameStart h))
  · rintro rfl
    revert h
    decide

/-- The tokens and comments in the part of a text that has been read, the last ones first. -/
structure Scanned (text done : List Char) (tokens : List Token) (comments : List Comment) : Prop where
  within : Within done tokens
  names : ∀ token ∈ tokens, token.kind = .name → ∃ c rest, token.text = c :: rest ∧ isNameStart c = true
  stand : ∀ comment ∈ comments, ∃ before, comment.Stands text before ∧ before ++ comment.source <+: done
  /-- A comment that has its line to itself starts below the ones before it. -/
  below : comments.Pairwise fun comment earlier => comment.ownLine = true → earlier.lastLine < comment.firstLine
  /-- No name stands on the line of a comment that has it to itself. -/
  apart : ∀ token ∈ tokens, token.kind = .name → ∀ comment ∈ comments, comment.block = false →
    comment.ownLine = true → token.start.line ≠ comment.firstLine

namespace Scanned

variable {text done : List Char} {tokens : List Token} {comments : List Comment}

theorem mono (h : Scanned text done tokens comments) {longer : List Char} (hlonger : done <+: longer) :
    Scanned text longer tokens comments where
  within := h.within.mono hlonger
  names := h.names
  stand comment hcomment := by
    obtain ⟨before, hstands, hdone⟩ := h.stand comment hcomment
    exact ⟨before, hstands, hdone.trans hlonger⟩
  below := h.below
  apart := h.apart

theorem comment (h : Scanned text done tokens comments) {comment : Comment} (hcomment : comment.Stands text done) :
    Scanned text (done ++ comment.source) tokens (comment :: comments) := by
  have hlonger := h.mono (List.prefix_append done comment.source)
  refine ⟨hlonger.within, h.names, ?_, ?_, ?_⟩
  · rw [List.forall_mem_cons]
    exact ⟨⟨done, hcomment, List.prefix_rfl⟩, hlonger.stand⟩
  · refine List.pairwise_cons.mpr ⟨fun earlier hearlier hown => ?_, h.below⟩
    obtain ⟨before, hstands, hdone⟩ := h.stand earlier hearlier
    rw [hcomment.firstLine]
    exact hstands.lt_of_margin hdone (by rw [← hcomment.ownLine, hown])
  · intro token htoken hname
    rw [List.forall_mem_cons]
    refine ⟨fun _ hown => ?_, h.apart token htoken hname⟩
    -- a name before the comment ends on an earlier line
    obtain ⟨before, ⟨more, rfl⟩, hstart⟩ := h.within token htoken
    obtain ⟨c, rest, htext, hc⟩ := h.names token htoken hname
    obtain ⟨hblank, hline⟩ := not_blank_of_isNameStart hc
    have hmargin : margin (before ++ c :: (rest ++ more)) = true := by
      rw [← hown, hcomment.ownLine, htext]
      simp
    have hlt : (textEnd before).line < (textEnd (before ++ (c :: (rest ++ more)))).line :=
      line_lt_of_mem (List.mem_cons_of_mem c (newline_mem_of_margin before hblank hline hmargin))
    rw [hcomment.firstLine, hstart, htext]
    simp only [List.append_assoc, List.cons_append] at hlt ⊢
    exact Nat.ne_of_lt hlt

theorem token (h : Scanned text done tokens comments) (token : Token) {after : List Char}
    (htext : text = done ++ (token.text ++ after)) (hstart : token.start = textEnd done)
    (hname : token.kind = .name → ∃ c rest, token.text = c :: rest ∧ isNameStart c = true) :
    Scanned text (done ++ token.text) (token :: tokens) comments := by
  have hlonger := h.mono (List.prefix_append done token.text)
  refine ⟨?_, ?_, hlonger.stand, h.below, ?_⟩
  · exact List.forall_mem_cons.mpr ⟨⟨done, List.prefix_rfl, hstart⟩, hlonger.within⟩
  · exact List.forall_mem_cons.mpr ⟨hname, h.names⟩
  · refine List.forall_mem_cons.mpr ⟨fun hkind comment hcomment hblock _ => ?_, h.apart⟩
    -- the comment goes up to the end of its line, and the name stands behind it
    obtain ⟨before, hstands, more, hmore⟩ := h.stand comment hcomment
    obtain ⟨behind, hbehind, hline⟩ := hstands.source
    obtain ⟨c, rest, hc, hnameStart⟩ := hname hkind
    have hsame : behind = more ++ (token.text ++ after) := by
      rw [htext, ← hmore, List.append_assoc (before ++ comment.source)] at hbehind
      exact (List.append_cancel_left hbehind).symm
    have hnewline : '\n' ∈ more := by
      cases more with
      | nil =>
        have := (hline hblock).2 c (by rw [hsame, hc]; rfl)
        exact absurd this (not_blank_of_isNameStart hnameStart).2
      | cons d more =>
        rw [(hline hblock).2 d (by rw [hsame]; rfl)]
        exact List.mem_cons_self
    rw [hstart, ← hmore, ← hstands.lastLine_eq hblock, hstands.lastLine]
    exact Nat.ne_of_gt (line_lt_of_mem hnewline)

end Scanned

/-! ## Readers -/

/-- The cursor stands behind `done` in the text. -/
structure Cursor.At (text : List Char) (cursor : Cursor) (done : List Char) : Prop where
  rest : text = done ++ cursor.rest
  position : cursor.position = textEnd done
  atMargin : cursor.atMargin = margin done

theorem skipBlanks_append (skipped rest : List Char) (position : Position) (atMargin : Bool) (comments : List Comment) :
    skipBlanks skipped.length position atMargin comments (skipped ++ rest) =
      skipBlanks 0 (skipped.foldl Position.after position) (skipped.foldl marginAfter atMargin) comments rest := by
  induction skipped generalizing position atMargin with
  | nil => rfl
  | cons c skipped ih =>
    rw [List.cons_append, List.length_cons, skipBlanks, ih]
    rfl

theorem skipBlanks_comment {rest after : List Char} {found : Bool × List Char} (h : commentAt? rest = some found)
    (hrest : rest = commentText found.1 found.2 ++ after) (position : Position) (atMargin : Bool)
    (comments : List Comment) :
    skipBlanks 0 position atMargin comments rest =
      skipBlanks 0 ((commentText found.1 found.2).foldl Position.after position)
        ((commentText found.1 found.2).foldl marginAfter atMargin)
        ({ block := found.1, text := found.2, ownLine := atMargin, firstLine := position.line
           lastLine := position.line + found.2.count '\n' } :: comments) after := by
  obtain ⟨more, hmore⟩ : ∃ more, commentText found.1 found.2 = '/' :: more := by
    unfold commentText
    split_ifs <;> exact ⟨_, rfl⟩
  have hlength := length_commentText found
  rw [hmore, List.length_cons] at hlength
  rw [hmore] at hrest ⊢
  subst hrest
  rw [List.cons_append] at h ⊢
  rw [skipBlanks, if_neg (by decide)]
  simp only [h, ← hlength, Nat.add_sub_cancel]
  exact skipBlanks_append more after _ _ _

theorem scanned_skipBlanks {text done rest : List Char} {tokens : List Token} {comments : List Comment}
    (htext : text = done ++ rest) (h : Scanned text done tokens comments) :
    ∃ skipped, (skipBlanks 0 (textEnd done) (margin done) comments rest).At text (done ++ skipped) ∧
      Scanned text (done ++ skipped) tokens (skipBlanks 0 (textEnd done) (margin done) comments rest).comments := by
  induction hlength : rest.length using Nat.strongRecOn generalizing done comments rest with
  | ind length ih =>
    subst hlength
    have hstay : Cursor.At text ⟨rest, textEnd done, margin done, comments⟩ (done ++ []) ∧
        Scanned text (done ++ []) tokens comments := by
      rw [List.append_nil]
      exact ⟨⟨htext, rfl, rfl⟩, h⟩
    cases rest with
    | nil => exact ⟨[], hstay⟩
    | cons c rest =>
      by_cases hc : isSpace c = true
      · have hdone : text = done ++ [c] ++ rest := by
          rw [htext, List.append_assoc]
          rfl
        obtain ⟨skipped, hnext⟩ := ih rest.length (by simp) hdone (h.mono (List.prefix_append done [c])) rfl
        rw [skipBlanks, if_pos hc]
        rw [textEnd_append, margin_append, List.append_assoc] at hnext
        exact ⟨[c] ++ skipped, hnext⟩
      · cases hcomment : commentAt? (c :: rest) with
        | none =>
          rw [skipBlanks, if_neg hc]
          simp only [hcomment]
          exact ⟨[], hstay⟩
        | some found =>
          obtain ⟨after, hrest, hline⟩ := eq_of_commentAt? hcomment
          rw [skipBlanks_comment hcomment hrest]
          -- the comment stands at the cursor
          generalize hnoted : Comment.mk found.1 found.2 (textEnd done).line _ (margin done) = comment
          have hsource : comment.source = commentText found.1 found.2 := by
            rw [← hnoted]
            rfl
          have hdone : text = done ++ comment.source ++ after := by rw [htext, hrest, hsource, List.append_assoc]
          have hstands : comment.Stands text done := by
            refine ⟨⟨after, hdone, ?_⟩, ?_, ?_, ?_⟩
            · rw [← hnoted]
              exact hline
            · rw [← hnoted]
            · rw [hsource, line_textEnd, List.count_append, count_commentText, ← hnoted, line_textEnd,
                Nat.add_right_comm]
            · rw [← hnoted]
          have hshorter : after.length < (c :: rest).length := by
            rw [hrest, List.length_append, length_commentText]
            have := commentLength_pos found
            omega
          obtain ⟨skipped, hnext⟩ := ih after.length hshorter hdone (h.comment hstands) rfl
          rw [textEnd_append, margin_append, List.append_assoc, hsource] at hnext
          exact ⟨_, hnext⟩

theorem readToken_name {place : Place} {text : List Char} (h : (readToken place text).1 = .name) :
    ∃ c rest, (readToken place text).2 = c :: rest ∧ isNameStart c = true := by
  cases text with
  | nil => cases h
  | cons c rest =>
    rw [readToken] at h ⊢
    split_ifs at h ⊢ with hname hdigit hquote
    · refine ⟨c, rest.takeWhile isNameChar, ?_, hname⟩
      unfold readWord at h ⊢
      split_ifs at h ⊢
      · rw [List.takeWhile_cons_of_pos (isNameChar_of_isNameStart hname)] at h ⊢
        cases hfound : place.keywords.find? (·.spelling.toList = c :: rest.takeWhile isNameChar) with
        | none => simp only [hfound]
        | some keyword =>
          simp only [hfound] at h
          cases h
      · cases hfound : place.keywords.find? (·.spelling.toList.isPrefixOf (c :: rest)) with
        | none =>
          simp only [hfound] at h
          cases h
        | some keyword =>
          simp only [hfound] at h
          cases h
    · rcases readNumber_cases place (c :: rest) with hkind | hkind
      · rw [hkind] at h
        cases h
      · rw [hkind] at h
        cases h
    · cases hquoted : quotedText? c rest with
      | none =>
        simp only [hquoted] at h
        cases h
      | some quoted =>
        simp only [hquoted] at h
        cases h

/-- The token behind the cursor is the next one in the text. -/
theorem scanned_read {text done : List Char} {tokens : List Token} {cursor : Cursor} (hat : cursor.At text done)
    (h : Scanned text done tokens cursor.comments) (place : Place) (last : Position) (fault : Option Fault) :
    ∃ next, (Reader.read place last cursor fault).cursor.At text next ∧
      Scanned text next { Reader.read place last cursor fault with passed := tokens }.seen
        (Reader.read place last cursor fault).cursor.comments := by
  obtain ⟨skipped, hskipped, hscanned⟩ := scanned_skipBlanks hat.rest h
  have hcursor : cursor.skipBlanks = skipBlanks 0 (textEnd done) (margin done) cursor.comments cursor.rest := by
    rw [Cursor.skipBlanks, hat.position, hat.atMargin]
  rw [← hcursor] at hskipped hscanned
  obtain ⟨after, hafter⟩ := readToken_isPrefix place cursor.skipBlanks.rest
  have htext := hskipped.rest
  rw [← hafter] at htext
  refine ⟨done ++ skipped ++ (readToken place cursor.skipBlanks.rest).2, ⟨?_, ?_, ?_⟩, ?_⟩
  · have hrest : cursor.skipBlanks.rest.drop (readToken place cursor.skipBlanks.rest).2.length = after := by
      generalize (readToken place cursor.skipBlanks.rest).2 = token at hafter
      rw [← hafter, List.drop_left]
    rw [htext, ← List.append_assoc]
    exact congrArg _ hrest.symm
  · rw [textEnd_append, ← hskipped.position]
    rfl
  · rw [margin_append, ← hskipped.atMargin]
    rfl
  · unfold Reader.seen
    split_ifs with hfinish
    · exact hscanned.mono (List.prefix_append _ _)
    · exact hscanned.token (Reader.read place last cursor fault).token htext
        ((if_neg hfinish).trans hskipped.position) readToken_name

/-- What the reader has come to stands in the part of the text before its cursor. -/
def Reader.Tracks (text : List Char) (reader : Reader) : Prop :=
  ∃ done, reader.cursor.At text done ∧ Scanned text done reader.seen reader.cursor.comments

theorem tracks_start (text : List Char) : (Reader.start text).Tracks text := by
  have hat : Cursor.At text { rest := text } [] := ⟨rfl, rfl, rfl⟩
  have hscanned : Scanned text [] [] [] := by
    refine ⟨?_, ?_, ?_, .nil, ?_⟩ <;> simp [Within]
  exact scanned_read hat hscanned .file {} none

theorem Reader.Tracks.next {text : List Char} {reader : Reader} (h : reader.Tracks text)
    (hkind : reader.token.kind ≠ .finish) (place : Place) : (reader.next place).Tracks text := by
  obtain ⟨done, hat, hscanned⟩ := h
  rw [← Reader.passed_next hkind place] at hscanned
  exact scanned_read hat hscanned place reader.token.start reader.fault

/-! ## Runs of rules -/

open RpcClients.Proto.Parser

/-- What holds of a reader and is kept when it goes on. -/
structure Keeping where
  holds : Reader → Prop
  noted {reader : Reader} (h : holds reader) (fault : Fault) : holds (reader.noted fault)
  next {reader : Reader} (h : holds reader) (hkind : reader.token.kind ≠ .finish) (place : Place) :
    holds (reader.next place)

/-- Nothing keeps up with the reader. -/
def Keeping.pursuit (keeping : Keeping) : Pursuit where
  near _ _ := False
  lost := keeping.holds
  kind_eq h := h.elim
  text_eq h := h.elim
  rest_le h := h.elim
  near_noted h _ := h.elim
  lost_noted h fault := keeping.noted h fault
  near_next h := h.elim
  lost_next h hkind place := by
    refine keeping.next h ?_ place
    intro hfinish
    rw [hfinish] at hkind
    cases hkind

theorem Keeping.run {α : Type} (keeping : Keeping) {same : α → α → Prop} {rule : Parser α}
    (hrule : Follows keeping.pursuit (fun _ => True) same rule rule) {reader after : Reader} {value : α}
    (h : keeping.holds reader) (hrun : rule.run reader = .ok (value, after)) : keeping.holds after :=
  hrule.lost trivial h hrun

/-- The reader follows the text. -/
def tracking (text : List Char) : Keeping where
  holds := Reader.Tracks text
  noted h _ := h
  next h hkind place := h.next hkind place

/-- Where the tokens and comments of a file stand. -/
structure SourceTree.Placed (text : List Char) (tree : SourceTree) : Prop where
  within : Within text tree.tokens
  stand : ∀ comment ∈ tree.comments, ∃ before, comment.Stands text before
  below : tree.comments.Pairwise fun earlier comment => comment.ownLine = true → earlier.lastLine < comment.firstLine
  apart : ∀ token ∈ tree.tokens, token.kind = .name → ∀ comment ∈ tree.comments, comment.block = false →
    comment.ownLine = true → token.start.line ≠ comment.firstLine

theorem placed_of_ofText {text : List Char} {tree : SourceTree} (h : SourceTree.ofText text = .ok tree) :
    tree.Placed text := by
  unfold SourceTree.ofText at h
  obtain ⟨⟨found, reader⟩, hrun, htree⟩ := except_bind_ok_iff.mp h
  obtain rfl := except_pure_ok_iff.mp htree
  obtain ⟨done, hat, hscanned⟩ := (tracking text).run (follows_statements (Nat.le_refl _)) (tracks_start text) hrun
  have hseen : reader.seen = reader.passed := if_pos (finishes_statements _ _ _ _ hrun)
  rw [hseen] at hscanned
  refine ⟨?_, ?_, ?_, ?_⟩
  · intro token htoken
    exact (hscanned.within.mono ⟨_, hat.rest.symm⟩) token (List.mem_reverse.mp htoken)
  · intro comment hcomment
    obtain ⟨before, hstands, _⟩ := hscanned.stand comment (List.mem_reverse.mp hcomment)
    exact ⟨before, hstands⟩
  · exact List.pairwise_reverse.mpr hscanned.below
  · intro token htoken hname comment hcomment
    exact hscanned.apart token (List.mem_reverse.mp htoken) hname comment (List.mem_reverse.mp hcomment)

end RpcClients.Proto
