import Mathlib.Tactic.ByContra
import Mathlib.Tactic.NthRewrite
import Mathlib.Tactic.SplitIfs
import RpcClients.Proto.Token

/-! # Between tokens

Blanks and comments mean nothing: what is read behind them is what would be read without them. -/

namespace RpcClients.Proto

/-- A text of blanks and comments. A comment on a line ends with that line. -/
inductive Filler : List Char → Prop where
  | nil : Filler []
  | space {c : Char} {rest : List Char} (hc : isSpace c = true) (h : Filler rest) : Filler (c :: rest)
  | block {body rest : List Char} (hbody : ¬ ['*', '/'] <:+: body) (h : Filler rest) :
    Filler ('/' :: '*' :: (body ++ '*' :: '/' :: rest))
  | line {body rest : List Char} (hbody : '\n' ∉ body) (h : Filler rest) :
    Filler ('/' :: '/' :: (body ++ '\n' :: rest))

/-! ## Comments -/

theorem blockText?_cons_of_ne {c : Char} {rest : List Char} (h : ¬ ['*', '/'] <+: c :: rest) :
    blockText? (c :: rest) = (blockText? rest).map (c :: ·) := by
  rw [blockText?]
  rintro more rfl rfl
  exact h ⟨more, rfl⟩

theorem blockText?_append {body : List Char} (h : ¬ ['*', '/'] <:+: body) (rest : List Char) :
    blockText? (body ++ '*' :: '/' :: rest) = some body := by
  induction body with
  | nil => rfl
  | cons c body ih =>
    have hbody : ¬ ['*', '/'] <:+: body := fun hinner => h (hinner.trans (List.suffix_cons c body).isInfix)
    have hhere : ¬ ['*', '/'] <+: c :: (body ++ '*' :: '/' :: rest) := by
      rintro ⟨more, hmore⟩
      cases body with
      | nil => simp at hmore
      | cons d body =>
        simp only [List.cons_append, List.nil_append, List.cons.injEq] at hmore
        obtain ⟨rfl, rfl, _⟩ := hmore
        exact h ⟨[], body, rfl⟩
    rw [List.cons_append, blockText?_cons_of_ne hhere, ih hbody, Option.map_some]

theorem eq_of_blockText? {text body : List Char} (h : blockText? text = some body) :
    ∃ rest, text = body ++ '*' :: '/' :: rest ∧ ¬ ['*', '/'] <:+: body := by
  fun_induction blockText? text generalizing body with
  | case1 => cases h
  | case2 rest =>
    cases h
    exact ⟨rest, rfl, by simp⟩
  | case3 c text hshape ih =>
    obtain ⟨inner, hinner, rfl⟩ := Option.map_eq_some_iff.mp h
    obtain ⟨rest, rfl, hfree⟩ := ih hinner
    refine ⟨rest, rfl, ?_⟩
    intro hinfix
    rcases List.infix_cons_iff.mp hinfix with ⟨more, hmore⟩ | hinner
    · simp only [List.cons_append, List.nil_append, List.cons.injEq] at hmore
      obtain ⟨rfl, rfl⟩ := hmore
      exact hshape (more ++ '*' :: '/' :: rest) rfl rfl
    · exact hfree hinner

theorem commentAt?_block {body : List Char} (h : ¬ ['*', '/'] <:+: body) (rest : List Char) :
    commentAt? ('/' :: '*' :: (body ++ '*' :: '/' :: rest)) = some (true, body) := by
  rw [commentAt?, blockText?_append h, Option.map_some]

theorem takeWhile_line {body : List Char} (h : '\n' ∉ body) (rest : List Char) :
    (body ++ '\n' :: rest).takeWhile (· ≠ '\n') = body := by
  rw [List.takeWhile_append_of_pos]
  · simp
  · intro c hc
    simp only [ne_eq, decide_not, Bool.not_eq_eq_eq_not, Bool.not_true, decide_eq_false_iff_not]
    rintro rfl
    exact h hc

theorem commentAt?_line {body : List Char} (h : '\n' ∉ body) (rest : List Char) :
    commentAt? ('/' :: '/' :: (body ++ '\n' :: rest)) = some (false, body) := by
  rw [commentAt?, takeWhile_line h]

theorem eq_takeWhile_line (text : List Char) :
    '\n' ∉ text.takeWhile (· ≠ '\n') ∧
      (text = text.takeWhile (· ≠ '\n') ∨ ∃ rest, text = text.takeWhile (· ≠ '\n') ++ '\n' :: rest) := by
  induction text with
  | nil => simp
  | cons c text ih =>
    by_cases hc : c = '\n'
    · subst hc
      refine ⟨by simp, Or.inr ⟨text, by simp⟩⟩
    · rw [List.takeWhile_cons_of_pos (by simpa using hc)]
      refine ⟨by simp only [List.mem_cons, not_or]; exact ⟨Ne.symm hc, ih.1⟩, ?_⟩
      rcases ih.2 with hall | ⟨rest, hrest⟩
      · exact Or.inl (by rw [← hall])
      · exact Or.inr ⟨rest, by rw [List.cons_append, ← hrest]⟩

theorem commentAt?_cases {text : List Char} {comment : Bool × List Char} (h : commentAt? text = some comment) :
    (∃ rest, text = '/' :: '*' :: (comment.2 ++ '*' :: '/' :: rest) ∧ ¬ ['*', '/'] <:+: comment.2 ∧
        text.drop (commentLength comment) = rest) ∨
      (∃ rest, text = '/' :: '/' :: (comment.2 ++ '\n' :: rest) ∧ '\n' ∉ comment.2 ∧
        text.drop (commentLength comment) = '\n' :: rest) ∨
      text.drop (commentLength comment) = [] := by
  unfold commentAt? at h
  split at h
  · rename_i rest
    cases h
    right
    obtain ⟨hfree, hall | ⟨more, hmore⟩⟩ := eq_takeWhile_line rest
    · right
      simp only [commentLength, List.drop_succ_cons]
      rw [← hall, List.drop_length]
    · left
      refine ⟨more, by rw [← hmore], hfree, ?_⟩
      simp only [commentLength, List.drop_succ_cons]
      generalize rest.takeWhile (· ≠ '\n') = body at hmore
      rw [hmore, List.drop_left]
  · obtain ⟨body, hbody, rfl⟩ := Option.map_eq_some_iff.mp h
    obtain ⟨more, rfl, hfree⟩ := eq_of_blockText? hbody
    left
    refine ⟨more, rfl, hfree, ?_⟩
    simp only [commentLength, List.drop_succ_cons]
    have hend : body ++ '*' :: '/' :: more = (body ++ ['*', '/']) ++ more := by simp
    have hlength : body.length + 2 = (body ++ ['*', '/']).length := by simp
    rw [hend, hlength, List.drop_left]
  · cases h

theorem commentAt?_of_ne {c : Char} (hc : c ≠ '/') (rest : List Char) : commentAt? (c :: rest) = none := by
  unfold commentAt?
  split
  · rename_i htext
    exact absurd (List.cons.inj htext).1 hc
  · rename_i htext
    exact absurd (List.cons.inj htext).1 hc
  · rfl

theorem commentLength_pos (comment : Bool × List Char) : 0 < commentLength comment := by
  unfold commentLength
  split <;> omega

/-! ## What is left -/

/-- What is left of a text behind the blanks and comments at its start. -/
def afterFiller (text : List Char) : List Char := (skipBlanks 0 {} true [] text).rest

theorem skipBlanks_rest (pending : Nat) (position : Position) (atMargin : Bool) (comments : List Comment)
    (text : List Char) :
    (skipBlanks pending position atMargin comments text).rest = afterFiller (text.drop pending) := by
  unfold afterFiller
  induction text generalizing pending position atMargin comments with
  | nil => simp [skipBlanks]
  | cons c rest ih =>
    cases pending with
    | succ pending =>
      rw [skipBlanks, ih, List.drop_succ_cons]
    | zero =>
      rw [List.drop_zero]
      simp only [skipBlanks]
      split_ifs
      · rw [ih, ih]
      · cases hcomment : commentAt? (c :: rest) with
        | none => rfl
        | some comment =>
          simp only
          rw [ih, ih]

theorem afterFiller_nil : afterFiller [] = [] := rfl

theorem afterFiller_space {c : Char} (hc : isSpace c = true) (rest : List Char) :
    afterFiller (c :: rest) = afterFiller rest := by
  rw [afterFiller, skipBlanks, if_pos hc, skipBlanks_rest, List.drop_zero]

theorem afterFiller_comment {text : List Char} {comment : Bool × List Char} (h : commentAt? text = some comment) :
    afterFiller text = afterFiller (text.drop (commentLength comment)) := by
  cases text with
  | nil => cases h
  | cons c rest =>
    have hc : c = '/' := by
      by_contra hne
      rw [commentAt?_of_ne hne] at h
      cases h
    subst hc
    obtain ⟨length, hlength⟩ := Nat.exists_eq_succ_of_ne_zero (Nat.ne_of_gt (commentLength_pos comment))
    rw [afterFiller, skipBlanks, if_neg (by decide)]
    simp only [h]
    rw [skipBlanks_rest, hlength, Nat.succ_sub_one, List.drop_succ_cons]

theorem afterFiller_token {c : Char} {rest : List Char} (hc : isSpace c = false) (h : commentAt? (c :: rest) = none) :
    afterFiller (c :: rest) = c :: rest := by
  rw [afterFiller, skipBlanks, if_neg (by simp [hc])]
  simp only [h]

theorem Filler.afterFiller_append {filler : List Char} (h : Filler filler) (text : List Char) :
    afterFiller (filler ++ text) = afterFiller text := by
  induction h with
  | nil => rfl
  | space hc _ ih => rw [List.cons_append, afterFiller_space hc, ih]
  | @block body rest hbody _ ih =>
    have hend : '/' :: '*' :: (body ++ '*' :: '/' :: rest) ++ text =
        ('/' :: '*' :: (body ++ ['*', '/'])) ++ (rest ++ text) := by simp
    have hcomment : commentAt? (('/' :: '*' :: (body ++ ['*', '/'])) ++ (rest ++ text)) = some (true, body) := by
      simpa using commentAt?_block hbody (rest ++ text)
    have hlength : commentLength (true, body) = ('/' :: '*' :: (body ++ ['*', '/'])).length := by simp [commentLength]
    rw [hend, afterFiller_comment hcomment, hlength, List.drop_left, ih]
  | @line body rest hbody _ ih =>
    have hend : '/' :: '/' :: (body ++ '\n' :: rest) ++ text = ('/' :: '/' :: body) ++ ('\n' :: (rest ++ text)) := by
      simp
    have hcomment : commentAt? (('/' :: '/' :: body) ++ ('\n' :: (rest ++ text))) = some (false, body) := by
      simpa using commentAt?_line hbody (rest ++ text)
    have hlength : commentLength (false, body) = ('/' :: '/' :: body).length := by simp [commentLength]
    rw [hend, afterFiller_comment hcomment, hlength, List.drop_left, afterFiller_space (by decide), ih]

/-- What is left starts with no blank and no comment, and what stands before it is blanks and comments. -/
theorem afterFiller_spec (text : List Char) :
    (∃ filler, text = filler ++ afterFiller text ∧ (afterFiller text ≠ [] → Filler filler)) ∧
      ∀ c rest, afterFiller text = c :: rest → isSpace c = false ∧ commentAt? (c :: rest) = none := by
  induction hlength : text.length using Nat.strongRecOn generalizing text with
  | ind length ih =>
    subst hlength
    cases text with
    | nil => exact ⟨⟨[], rfl, fun _ => .nil⟩, by simp [afterFiller_nil]⟩
    | cons c rest =>
      cases hc : isSpace c with
      | true =>
        obtain ⟨⟨filler, hfiller, hblank⟩, hhead⟩ := ih rest.length (by simp) rest rfl
        rw [afterFiller_space hc]
        refine ⟨⟨c :: filler, by rw [List.cons_append, ← hfiller], fun hne => (hblank hne).space hc⟩, hhead⟩
      | false =>
        cases hcomment : commentAt? (c :: rest) with
        | none =>
          rw [afterFiller_token hc hcomment]
          refine ⟨⟨[], rfl, fun _ => .nil⟩, ?_⟩
          rintro d more ⟨⟩
          exact ⟨hc, hcomment⟩
        | some comment =>
          rw [afterFiller_comment hcomment]
          rcases commentAt?_cases hcomment with ⟨more, htext, hfree, hdrop⟩ | ⟨more, htext, hfree, hdrop⟩ | hdrop
          · rw [hdrop]
            obtain ⟨⟨filler, hfiller, hblank⟩, hhead⟩ := ih more.length (by rw [htext]; simp; omega) more rfl
            refine ⟨⟨'/' :: '*' :: (comment.2 ++ '*' :: '/' :: filler), ?_, fun hne => (hblank hne).block hfree⟩, hhead⟩
            rw [htext]
            nth_rewrite 1 [hfiller]
            simp
          · rw [hdrop, afterFiller_space (by decide)]
            obtain ⟨⟨filler, hfiller, hblank⟩, hhead⟩ := ih more.length (by rw [htext]; simp; omega) more rfl
            refine ⟨⟨'/' :: '/' :: (comment.2 ++ '\n' :: filler), ?_, fun hne => (hblank hne).line hfree⟩, hhead⟩
            rw [htext]
            nth_rewrite 1 [hfiller]
            simp
          · rw [hdrop, afterFiller_nil]
            exact ⟨⟨c :: rest, by simp, fun hne => absurd rfl hne⟩, by simp⟩

theorem skipBlanks_position (pending : Nat) (position : Position) (atMargin : Bool) (comments : List Comment)
    (text : List Char) :
    ∃ skipped, text = skipped ++ (skipBlanks pending position atMargin comments text).rest ∧
      (skipBlanks pending position atMargin comments text).position = skipped.foldl Position.after position := by
  induction text generalizing pending position atMargin comments with
  | nil => exact ⟨[], by simp [skipBlanks]⟩
  | cons c rest ih =>
    have hstep : ∀ pending atMargin comments, ∃ skipped,
        c :: rest = skipped ++ (skipBlanks pending (position.after c) atMargin comments rest).rest ∧
          (skipBlanks pending (position.after c) atMargin comments rest).position =
            skipped.foldl Position.after position := by
      intro pending atMargin comments
      obtain ⟨skipped, htext, hposition⟩ := ih pending (position.after c) atMargin comments
      exact ⟨c :: skipped, by rw [List.cons_append, ← htext], hposition⟩
    cases pending with
    | succ pending => exact hstep pending _ comments
    | zero =>
      simp only [skipBlanks]
      split_ifs
      · exact hstep 0 _ comments
      · cases hcomment : commentAt? (c :: rest) with
        | none => exact ⟨[], rfl, rfl⟩
        | some comment => exact hstep _ _ _

end RpcClients.Proto
