import Mathlib.Tactic.NthRewrite
import RpcClients.Proofs.DescribedFile
import RpcClients.Proofs.Filler
import RpcClients.Proofs.RelatedReaders
import RpcClients.Proofs.TokenEnds

/-! # Blanks and comments mean nothing

Blanks and comments can be put before and behind each token of a schema file: it can still be read, and
nothing but the comments of its descriptor becomes another. -/

namespace RpcClients.Proto

open Schema

/-! ## Positions -/

/-- The position behind a text that stands at the start of a file. -/
def textEnd (text : List Char) : Position := text.foldl Position.after {}

def Token.stop (token : Token) : Position := token.text.foldl Position.after token.start

theorem textEnd_append (text more : List Char) : textEnd (text ++ more) = more.foldl Position.after (textEnd text) :=
  List.foldl_append

def Position.Before (position other : Position) : Prop :=
  position.line < other.line ∨ position.line = other.line ∧ position.column < other.column

theorem before_after (position : Position) (c : Char) : position.Before (position.after c) := by
  unfold Position.Before Position.after
  split_ifs
  · exact Or.inl (Nat.lt_succ_self _)
  · exact Or.inr ⟨rfl, Nat.lt_succ_self _⟩

theorem before_foldl_after (position : Position) (c : Char) (text : List Char) :
    position.Before ((c :: text).foldl Position.after position) := by
  induction text generalizing position c with
  | nil => exact before_after position c
  | cons d text ih =>
    have hfirst := before_after position c
    have hrest := ih (position.after c) d
    rw [List.foldl_cons]
    unfold Position.Before at *
    omega

theorem eq_of_textEnd_eq {text u v : List Char} (hu : u <+: text) (hv : v <+: text) (h : textEnd u = textEnd v) :
    u = v := by
  have hlonger : ∀ {u v : List Char}, u <+: v → textEnd u = textEnd v → u = v := by
    rintro u _ ⟨more, rfl⟩ hend
    cases more with
    | nil => exact (List.append_nil u).symm
    | cons c more =>
      have hbefore := before_foldl_after (textEnd u) c more
      rw [← textEnd_append, ← hend] at hbefore
      unfold Position.Before at hbefore
      omega
  rcases List.prefix_or_prefix_of_prefix hu hv with huv | hvu
  · exact hlonger huv h
  · exact (hlonger hvu h.symm).symm

/-! ## The next token -/

/-- The reader stands at the token behind the cursor, with `skipped` before it. -/
structure Finds (place : Place) (cursor : Cursor) (skipped : List Char) (reader : Reader) : Prop where
  token : readToken place (afterFiller cursor.rest) = (reader.token.kind, reader.token.text)
  left : afterFiller cursor.rest = reader.token.text ++ reader.cursor.rest
  rest : cursor.rest = skipped ++ afterFiller cursor.rest
  start : reader.token.kind ≠ .finish → reader.token.start = skipped.foldl Position.after cursor.position
  position : reader.cursor.position = (skipped ++ reader.token.text).foldl Position.after cursor.position

theorem finds_read (place : Place) (last : Position) (cursor : Cursor) (fault : Option Fault) :
    ∃ skipped, Finds place cursor skipped (Reader.read place last cursor fault) := by
  obtain ⟨skipped, hskipped, hposition⟩ :=
    skipBlanks_position 0 cursor.position cursor.atMargin cursor.comments cursor.rest
  have hrest := skipBlanks_rest 0 cursor.position cursor.atMargin cursor.comments cursor.rest
  rw [List.drop_zero] at hrest
  rw [hrest] at hskipped
  have hcursor : cursor.skipBlanks.rest = afterFiller cursor.rest := hrest
  have hat : cursor.skipBlanks.position = skipped.foldl Position.after cursor.position := hposition
  refine ⟨skipped, ?_, ?_, hskipped, ?_, ?_⟩
  · simp only [Reader.read, hcursor]
  · obtain ⟨rest, hrest⟩ := readToken_isPrefix place (afterFiller cursor.rest)
    simp only [Reader.read, Cursor.skip, hcursor]
    generalize (readToken place (afterFiller cursor.rest)).2 = text at hrest
    rw [← hrest, List.drop_left]
  · intro hkind
    simp only [Reader.read, hcursor] at hkind ⊢
    rw [if_neg hkind, hat]
  · simp only [Reader.read, Cursor.skip, hcursor, List.foldl_append, hat]

theorem finds_next (reader : Reader) (place : Place) :
    ∃ skipped, Finds place reader.cursor skipped (reader.next place) := by
  obtain ⟨skipped, h⟩ := finds_read place reader.token.start reader.cursor reader.fault
  exact ⟨skipped, h.token, h.left, h.rest, h.start, h.position⟩

theorem Finds.same {place : Place} {cursor cursor' : Cursor} {skipped skipped' : List Char} {reader reader' : Reader}
    (h : Finds place cursor skipped reader) (h' : Finds place cursor' skipped' reader')
    (hleft : afterFiller cursor'.rest = afterFiller cursor.rest) :
    reader'.token.kind = reader.token.kind ∧ reader'.token.text = reader.token.text ∧
      reader'.cursor.rest = reader.cursor.rest := by
  have htoken := h'.token
  rw [hleft, h.token, Prod.mk.injEq] at htoken
  have hrest := h'.left
  rw [hleft, h.left, htoken.2, List.append_cancel_left_eq] at hrest
  exact ⟨htoken.1.symm, htoken.2.symm, hrest.symm⟩

theorem Filler.isStop {c : Char} {rest : List Char} (h : Filler (c :: rest)) : isStop c = true := by
  cases h with
  | space hc _ =>
    simp only [isSpace, Bool.or_eq_true, decide_eq_true_eq] at hc
    rcases hc with (((rfl | rfl) | rfl) | rfl) | rfl <;> decide
  | block => decide
  | line => decide

theorem Filler.stopped {filler : List Char} (h : Filler filler) (hne : filler ≠ []) (text : List Char) :
    Stopped (filler ++ text) := by
  cases filler with
  | nil => exact absurd rfl hne
  | cons c rest =>
    rintro d ⟨⟩
    simp [h.isStop]

theorem Stopped.endsBefore {text : List Char} (h : Stopped text) (kind : TokenKind) : kind.EndsBefore text := by
  cases kind with
  | name => exact h.name
  | keyword => exact h.name
  | integer => exact h
  | fraction => exact h
  | _ => trivial

/-! ## Readers of a text and of the same text with blanks and comments in it -/

/-- The tokens stand within the part of a file that has been read. -/
def Within (done : List Char) (tokens : List Token) : Prop :=
  ∀ token ∈ tokens, ∃ start, start ++ token.text <+: done ∧ token.start = textEnd start

/-- No token starts or ends at the position. -/
def Untouched (position : Position) (tokens : List Token) : Prop :=
  ∀ token ∈ tokens, token.start ≠ position ∧ token.stop ≠ position

/-- The tokens that a reader has come to. The end of the file is none. -/
def Reader.seen (reader : Reader) : List Token :=
  if reader.token.kind = .finish then reader.passed else reader.token :: reader.passed

theorem Reader.mem_seen {reader : Reader} {token : Token} :
    token ∈ reader.seen ↔ token ∈ reader.passed ∨ token = reader.token ∧ reader.token.kind ≠ .finish := by
  unfold Reader.seen
  split_ifs with hkind
  · simp [hkind]
  · simp [hkind, or_comm]

theorem Within.mono {done done' : List Char} {tokens : List Token} (h : Within done tokens) (hdone : done <+: done') :
    Within done' tokens := by
  intro token htoken
  obtain ⟨start, hstart, hposition⟩ := h token htoken
  exact ⟨start, hstart.trans hdone, hposition⟩

theorem Within.untouched {done todo : List Char} {tokens : List Token} (h : Within done tokens) (htodo : todo ≠ []) :
    Untouched (textEnd (done ++ todo)) tokens := by
  intro token htoken
  obtain ⟨start, hstart, hposition⟩ := h token htoken
  have hpos := List.length_pos_iff.mpr htodo
  have hlength := hstart.length_le
  rw [List.length_append] at hlength
  have hreached : start ++ token.text <+: done ++ todo := hstart.trans (List.prefix_append _ _)
  refine ⟨fun hend => ?_, fun hend => ?_⟩
  · rw [hposition] at hend
    have := congrArg List.length
      (eq_of_textEnd_eq ((List.prefix_append start token.text).trans hreached) List.prefix_rfl hend)
    rw [List.length_append] at this
    omega
  · rw [Token.stop, hposition, ← textEnd_append] at hend
    have := congrArg List.length (eq_of_textEnd_eq hreached List.prefix_rfl hend)
    rw [List.length_append, List.length_append] at this
    omega

section Insertion

variable {before filler after : List Char}

/-- The reader has gone past the point behind `before`, and no token touches that point. -/
def Missed (before after : List Char) (reader : Reader) : Prop :=
  before ≠ [] ∧ Untouched (textEnd before) reader.seen ∧
    ∃ done, before ++ after = done ++ reader.cursor.rest ∧ reader.cursor.position = textEnd done ∧
      (before.length < done.length ∨ reader.token.kind = .finish)

/-- The reader cannot get to the end of a file that has a token at the point behind `before`. -/
def Lost (before after : List Char) (reader : Reader) : Prop :=
  reader.token.kind = .unreadable ∨ reader.token.kind = .mark '/' ∨ Missed before after reader

/-- The readers have `todo` before them up to the point where the texts differ. -/
structure Ahead (before filler after : List Char) (done todo : List Char) (cursor cursor' : Cursor) : Prop where
  before : before = done ++ todo
  rest : cursor.rest = todo ++ after
  rest' : cursor'.rest = todo ++ (filler ++ after)
  position : cursor.position = textEnd done

/-- The readers see the same token, and have not come to the point where the texts differ, or have passed
it. -/
structure Near (before filler after : List Char) (leader follower : Reader) : Prop where
  kind : follower.token.kind = leader.token.kind
  text : follower.token.text = leader.token.text
  fault : follower.fault = leader.fault
  rest : follower.cursor.rest = leader.cursor.rest ∨ ∃ done todo,
    Ahead before filler after done todo leader.cursor follower.cursor ∧ Within done leader.seen

theorem missed_of_across {done todo skipped : List Char} {place : Place} {cursor cursor' : Cursor} {reader : Reader}
    (hahead : Ahead before filler after done todo cursor cursor') (hfinds : Finds place cursor skipped reader)
    (hpassed : Within done reader.passed) (htodo : todo ≠ [])
    (hacross : reader.token.kind = .finish ∨ skipped ≠ todo ∧ todo.length < (skipped ++ reader.token.text).length) :
    Missed before after reader := by
  obtain ⟨rfl, hrest, _, hposition⟩ := hahead
  have htext : done ++ todo ++ after = (done ++ skipped ++ reader.token.text) ++ reader.cursor.rest := by
    rw [List.append_assoc, ← hrest, hfinds.rest, hfinds.left]
    simp only [List.append_assoc]
  have hbefore : done ++ todo <+: done ++ todo ++ after := List.prefix_append _ _
  refine ⟨by simp [htodo], ?_, _, htext, ?_, ?_⟩
  · intro token htoken
    rcases Reader.mem_seen.mp htoken with htoken | ⟨rfl, hkind⟩
    · exact hpassed.untouched htodo token htoken
    · have hnew := hfinds.start hkind
      rw [hposition, ← textEnd_append] at hnew
      rcases hacross with hfinish | ⟨hstart, hend⟩
      · exact absurd hfinish hkind
      have hreached : done ++ skipped <+: done ++ todo ++ after := by
        rw [htext]
        exact (List.prefix_append _ _).trans (List.prefix_append _ _)
      refine ⟨fun heq => ?_, fun heq => ?_⟩
      · rw [hnew] at heq
        exact hstart (List.append_cancel_left (eq_of_textEnd_eq hreached hbefore heq))
      · rw [Token.stop, hnew, ← textEnd_append] at heq
        have hstop := eq_of_textEnd_eq (by rw [htext]; exact List.prefix_append _ _) hbefore heq
        rw [List.append_assoc] at hstop
        rw [List.append_cancel_left hstop] at hend
        exact Nat.lt_irrefl _ hend
  · rw [hfinds.position, hposition, ← textEnd_append, List.append_assoc]
  · rcases hacross with hfinish | ⟨_, hend⟩
    · exact Or.inr hfinish
    · left
      simp only [List.length_append] at hend ⊢
      omega

theorem readToken_slash (place : Place) (rest : List Char) : readToken place ('/' :: rest) = (.mark '/', ['/']) := by
  rw [readToken, if_neg (by decide), if_neg (by decide), if_neg (by decide)]

theorem near_of_short (hfiller : Filler filler) (hne : filler ≠ []) {done skipped skipped' more : List Char}
    {place : Place} {cursor cursor' : Cursor} {leader follower : Reader}
    (hahead : Ahead before filler after done (skipped ++ more) cursor cursor')
    (hleader : Finds place cursor skipped leader) (hfollower : Finds place cursor' skipped' follower)
    (hpassed : Within done leader.passed) (hfault : follower.fault = leader.fault) (hskipped : Filler skipped)
    (hmore : more ≠ []) (hleft : afterFiller cursor.rest = more ++ after) (hreadable : leader.token.kind ≠ .unreadable)
    (hslash : leader.token.kind ≠ .mark '/') (hshort : leader.token.text.length ≤ more.length) :
    Near before filler after leader follower := by
  have htoken := hleader.token
  rw [hleft] at htoken
  -- what stands before the point starts with the token, for both readers
  have hleft' : afterFiller cursor'.rest = more ++ (filler ++ after) := by
    cases more with
    | nil => exact absurd rfl hmore
    | cons c more =>
      have hc : c ≠ '/' := by
        rintro rfl
        rw [List.cons_append, readToken_slash, Prod.mk.injEq] at htoken
        exact hslash htoken.1.symm
      have hspace := ((afterFiller_spec cursor.rest).2 c (more ++ after) hleft).1
      rw [hahead.rest', List.append_assoc, hskipped.afterFiller_append, List.cons_append,
        afterFiller_token hspace (commentAt?_of_ne hc _)]
  have htoken' : readToken place (more ++ (filler ++ after)) = (leader.token.kind, leader.token.text) := by
    rw [← htoken]
    refine readToken_swap hmore ?_ ?_ ((hfiller.stopped hne after).endsBefore _)
    · rw [htoken]
      exact hreadable
    · rw [htoken]
      exact hshort
  have hfound := hfollower.token
  rw [hleft', htoken', Prod.mk.injEq] at hfound
  obtain ⟨todo, rfl⟩ : leader.token.text <+: more := by
    refine List.prefix_of_prefix_length_le ?_ (List.prefix_append more after) hshort
    rw [← hleft, hleader.left]
    exact List.prefix_append _ _
  have hrest := hleader.left
  rw [hleft, List.append_assoc, List.append_cancel_left_eq] at hrest
  have hrest' := hfollower.left
  rw [hleft', ← hfound.2, List.append_assoc, List.append_cancel_left_eq] at hrest'
  refine ⟨hfound.1.symm, hfound.2.symm, hfault, Or.inr ⟨done ++ (skipped ++ leader.token.text), todo, ?_, ?_⟩⟩
  · exact ⟨by rw [hahead.before]; simp only [List.append_assoc], hrest.symm, hrest'.symm, by
      rw [hleader.position, hahead.position, ← textEnd_append]⟩
  · intro token htoken
    rcases Reader.mem_seen.mp htoken with htoken | ⟨rfl, hkind⟩
    · exact hpassed.mono (List.prefix_append _ _) token htoken
    · refine ⟨done ++ skipped, by simp only [List.append_assoc]; exact List.prefix_rfl, ?_⟩
      rw [hleader.start hkind, hahead.position, ← textEnd_append]

/-- The next token is the same for both readers, unless the leader gets lost. -/
theorem near_of_finds (hfiller : Filler filler) (hne : filler ≠ []) {done todo skipped skipped' : List Char}
    {place : Place} {cursor cursor' : Cursor} {leader follower : Reader}
    (hahead : Ahead before filler after done todo cursor cursor') (hleader : Finds place cursor skipped leader)
    (hfollower : Finds place cursor' skipped' follower) (hpassed : Within done leader.passed)
    (hfault : follower.fault = leader.fault) :
    Lost before after leader ∨ Near before filler after leader follower := by
  -- readers with the same text left have passed the point together
  have hbehind : afterFiller cursor'.rest = afterFiller cursor.rest → Near before filler after leader follower := by
    intro hleft
    obtain ⟨hkind, htext, hrest⟩ := hleader.same hfollower hleft
    exact ⟨hkind, htext, hfault, Or.inl hrest⟩
  by_cases htodo : todo = []
  · right
    apply hbehind
    rw [hahead.rest, hahead.rest', htodo, List.nil_append, List.nil_append, hfiller.afterFiller_append]
  have hmissed (hacross : leader.token.kind = .finish ∨
      skipped ≠ todo ∧ todo.length < (skipped ++ leader.token.text).length) : Lost before after leader :=
    Or.inr (Or.inr (missed_of_across hahead hleader hpassed htodo hacross))
  cases hleft : afterFiller cursor.rest with
  | nil =>
    left
    have htoken := hleader.token
    rw [hleft, readToken, Prod.mk.injEq] at htoken
    exact hmissed (Or.inl htoken.1.symm)
  | cons c rest =>
    obtain ⟨⟨skipped₀, hskipped, hblank⟩, hhead⟩ := afterFiller_spec cursor.rest
    have hsame : skipped₀ = skipped := List.append_cancel_right (hskipped.symm.trans hleader.rest)
    rw [hsame] at hblank
    have hskippedFiller : Filler skipped := hblank (by rw [hleft]; exact List.cons_ne_nil _ _)
    obtain ⟨hspace, hcomment⟩ := hhead c rest hleft
    -- the point may be reached exactly at the start of the token
    have hexact : todo = skipped → afterFiller cursor.rest = after → Near before filler after leader follower := by
      rintro htodo hafter
      apply hbehind
      rw [hahead.rest', htodo, hskippedFiller.afterFiller_append, hfiller.afterFiller_append, ← hafter, hleft,
        afterFiller_token hspace hcomment]
    have hsplit := hleader.rest
    rw [hahead.rest] at hsplit
    nth_rewrite 2 [← hahead.rest] at hsplit
    rcases List.append_eq_append_iff.mp hsplit with ⟨more, hskip, hafter⟩ | ⟨more, htodo, hafter⟩
    · cases more with
      | nil => exact Or.inr (hexact (by rw [hskip, List.append_nil]) hafter.symm)
      | cons d more =>
        left
        refine hmissed (Or.inr ⟨?_, ?_⟩)
        · intro heq
          rw [heq] at hskip
          simp at hskip
        · rw [hskip]
          simp only [List.length_append, List.length_cons]
          omega
    · by_cases hmore : more = []
      · rw [hmore] at htodo hafter
        exact Or.inr (hexact (by rw [htodo, List.append_nil]) hafter)
      by_cases hreadable : leader.token.kind = .unreadable
      · exact Or.inl (Or.inl hreadable)
      by_cases hslash : leader.token.kind = .mark '/'
      · exact Or.inl (Or.inr (Or.inl hslash))
      subst htodo
      by_cases hshort : leader.token.text.length ≤ more.length
      · right
        exact near_of_short hfiller hne hahead hleader hfollower hpassed hfault hskippedFiller hmore hafter hreadable
          hslash hshort
      · left
        refine hmissed (Or.inr ⟨?_, ?_⟩)
        · intro heq
          rw [← List.append_nil skipped, List.append_assoc, List.append_cancel_left_eq, List.nil_append] at heq
          exact hmore heq.symm
        · simp only [List.length_append]
          omega

theorem Reader.passed_next {reader : Reader} (h : reader.token.kind ≠ .finish) (place : Place) :
    (reader.next place).passed = reader.seen := by
  rw [Reader.seen, if_neg h]
  rfl

theorem Missed.next {reader : Reader} (h : Missed before after reader) (hkind : reader.token.kind ≠ .finish)
    (place : Place) : Missed before after (reader.next place) := by
  obtain ⟨hne, huntouched, done, htext, hposition, hdone | hfinish⟩ := h
  · obtain ⟨skipped, hfinds⟩ := finds_next reader place
    have htext' : before ++ after = (done ++ skipped ++ (reader.next place).token.text) ++
        (reader.next place).cursor.rest := by
      rw [htext, hfinds.rest, hfinds.left]
      simp only [List.append_assoc]
    have hbefore : before <+: before ++ after := List.prefix_append _ _
    have hreached : done ++ skipped ++ (reader.next place).token.text <+: before ++ after := by
      rw [htext']
      exact List.prefix_append _ _
    refine ⟨hne, ?_, _, htext', ?_, Or.inl ?_⟩
    · intro token htoken
      rcases Reader.mem_seen.mp htoken with htoken | ⟨rfl, hkind'⟩
      · rw [Reader.passed_next hkind] at htoken
        exact huntouched token htoken
      · have hstart := hfinds.start hkind'
        rw [hposition, ← textEnd_append] at hstart
        refine ⟨fun heq => ?_, fun heq => ?_⟩
        · rw [hstart] at heq
          have := congrArg List.length (eq_of_textEnd_eq ((List.prefix_append _ _).trans hreached) hbefore heq)
          rw [List.length_append] at this
          omega
        · rw [Token.stop, hstart, ← textEnd_append] at heq
          have := congrArg List.length (eq_of_textEnd_eq hreached hbefore heq)
          simp only [List.length_append] at this
          omega
    · rw [hfinds.position, hposition, ← textEnd_append, List.append_assoc]
    · simp only [List.length_append]
      omega
  · exact absurd hfinish hkind

/-- A reader of the text with blanks and comments in it keeps up with a reader of the text. -/
def insertion (hfiller : Filler filler) (hne : filler ≠ []) (before after : List Char) : Pursuit where
  near := Near before filler after
  lost := Lost before after
  kind_eq h := h.kind
  text_eq h := h.text
  rest_le h := by
    rcases h.rest with hsame | ⟨done, todo, hahead, _⟩
    · exact Nat.le_of_eq (by rw [hsame])
    · rw [hahead.rest, hahead.rest', List.length_append, List.length_append, List.length_append]
      omega
  near_noted h fault := ⟨h.kind, h.text, by simp only [Reader.noted, h.fault], h.rest⟩
  lost_noted h fault := h
  near_next {leader follower} h hkind place := by
    have hfinish : leader.token.kind ≠ .finish := by
      intro hfinish
      rw [hfinish] at hkind
      cases hkind
    obtain ⟨skipped, hleader⟩ := finds_next leader place
    obtain ⟨skipped', hfollower⟩ := finds_next follower place
    rcases h.rest with hsame | ⟨done, todo, hahead, hwithin⟩
    · obtain ⟨hkind', htext, hrest⟩ := hleader.same hfollower (by rw [hsame])
      exact Or.inr ⟨hkind', htext, h.fault, Or.inl hrest⟩
    · rw [← Reader.passed_next hfinish place] at hwithin
      exact near_of_finds hfiller hne hahead hleader hfollower hwithin h.fault
  lost_next {leader} h hkind place := by
    rcases h with hunreadable | hslash | hmissed
    · rw [hunreadable] at hkind
      cases hkind
    · rw [hslash] at hkind
      cases hkind
    · refine Or.inr (Or.inr (hmissed.next ?_ place))
      intro hfinish
      rw [hfinish] at hkind
      cases hkind

end Insertion

/-! ## Files -/

open RpcClients.Proto.Parser

/-- A rule that ends at the end of the file. -/
def Finishes {α : Type} (rule : Parser α) : Prop :=
  ∀ reader after value, rule.run reader = .ok (value, after) → after.token.kind = .finish

theorem finishes_bind {α β : Type} (rule : Parser α) {rest : α → Parser β} (h : ∀ value, Finishes (rest value)) :
    Finishes (rule >>= rest) := by
  intro reader after value hrun
  obtain ⟨first, middle, _, hrest⟩ := Parser.run_bind_ok_iff.mp hrun
  exact h first _ _ _ hrest

theorem finishes_return {α β : Type} {rule : Parser α} (h : Finishes rule) (f : α → β) :
    Finishes (do return f (← rule)) := by
  intro reader after value hrun
  obtain ⟨first, middle, hfirst, hrest⟩ := Parser.run_bind_ok_iff.mp hrun
  cases hrest
  exact h _ _ _ hfirst

theorem finishes_statements (fuel : Nat) : Finishes (statements fuel) := by
  induction fuel with
  | zero =>
    intro reader after value hrun
    cases hrun
  | succ fuel ih =>
    intro reader after value hrun
    rw [statements] at hrun
    obtain ⟨kind, middle, hkind, hrun⟩ := Parser.run_bind_ok_iff.mp hrun
    cases hkind
    have hrest (statement : Statement) := finishes_return ih (statement :: ·)
    split at hrun
    · rename_i hfinish
      cases hrun
      exact hfinish
    · exact finishes_bind _ (fun _ => ih) _ _ _ hrun
    · exact finishes_bind _
        (fun _ => finishes_bind _ fun _ => finishes_bind _ fun _ => finishes_bind _ fun _ => hrest _) _ _ _ hrun
    · exact finishes_bind _ (fun _ => finishes_bind _ fun _ => finishes_bind _ fun _ => hrest _) _ _ _ hrun
    · exact finishes_bind _ (fun _ => finishes_bind _ fun _ => hrest _) _ _ _ hrun
    · refine finishes_bind _ (fun _ => finishes_bind _ fun value => ?_) _ _ _ hrun
      cases value with
      | none => exact ih
      | some value => exact hrest _
    · refine finishes_bind _ (fun _ => finishes_bind _ fun _ => finishes_bind _ fun _ => ?_) _ _ _ hrun
      exact finishes_bind _ fun _ => finishes_bind _ fun _ => hrest _
    · exact finishes_bind _ (fun _ => finishes_bind _ fun _ => hrest _) _ _ _ hrun
    · exact finishes_bind _ (fun _ => finishes_bind _ fun _ => hrest _) _ _ _ hrun
    · exact finishes_bind _ (fun _ => finishes_bind _ fun _ => ih) _ _ _ hrun
    · cases hrun

/-- The position is the start of the file, or that before or behind a token. -/
def SourceTree.HasBoundary (tree : SourceTree) (position : Position) : Prop :=
  position = {} ∨ ∃ token ∈ tree.tokens, position = token.start ∨ position = token.stop

theorem ofText_insert {before filler after : List Char} (hfiller : Filler filler) {tree : SourceTree}
    (h : SourceTree.ofText (before ++ after) = .ok tree) (hboundary : tree.HasBoundary (textEnd before)) :
    ∃ tree', SourceTree.ofText (before ++ (filler ++ after)) = .ok tree' ∧
      tree.statements.map Statement.unplaced = tree'.statements.map Statement.unplaced ∧ tree'.fault = tree.fault := by
  by_cases hne : filler = []
  · subst hne
    exact ⟨tree, h, rfl, rfl⟩
  unfold SourceTree.ofText at h
  obtain ⟨⟨found, reader⟩, hrun, htree⟩ := except_bind_ok_iff.mp h
  obtain rfl := except_pure_ok_iff.mp htree
  obtain ⟨skipped, hleader⟩ := finds_read .file {} { rest := before ++ after } none
  obtain ⟨skipped', hfollower⟩ := finds_read .file {} { rest := before ++ (filler ++ after) } none
  have hahead : Ahead before filler after [] before { rest := before ++ after }
      { rest := before ++ (filler ++ after) } :=
    ⟨rfl, rfl, rfl, rfl⟩
  have hstart := near_of_finds hfiller hne hahead hleader hfollower (by intro token htoken; cases htoken) rfl
  have hfollows : Follows (insertion hfiller hne before after) (fun _ => True) _
      (statements ((before ++ after).length + 1)) (statements ((before ++ (filler ++ after)).length + 1)) :=
    follows_statements (by simp only [List.length_append]; omega)
  have hfinish := finishes_statements _ _ _ _ hrun
  -- the leader has not missed the point: a token touches it
  have hfound : ¬ Lost before after reader := by
    rintro (hunreadable | hslash | hmissed)
    · rw [hfinish] at hunreadable
      cases hunreadable
    · rw [hfinish] at hslash
      cases hslash
    · obtain ⟨hbefore, huntouched, _⟩ := hmissed
      rcases hboundary with hstart | ⟨token, htoken, htouch⟩
      · exact hbefore (eq_of_textEnd_eq List.prefix_rfl List.nil_prefix hstart)
      · have hseen : token ∈ reader.seen := Reader.mem_seen.mpr (Or.inl (List.mem_reverse.mp htoken))
        rcases htouch with htouch | htouch
        · exact (huntouched token hseen).1 htouch.symm
        · exact (huntouched token hseen).2 htouch.symm
  rcases hstart with hlost | hnear
  · exact absurd (hfollows.lost trivial hlost hrun) hfound
  · rcases hfollows.near trivial hnear hrun with hlost | ⟨found', reader', hrun', hsame, hnear'⟩
    · exact absurd hlost hfound
    · refine ⟨_, except_bind_ok_iff.mpr ⟨(found', reader'), hrun', rfl⟩, hsame, hnear'.fault⟩

/-! ## Descriptors -/

/-- A text that gives a descriptor still gives one with blanks and comments put at its start, before a token
or behind one: the same but for the comments. -/
theorem parse_insert_filler {before filler after name : String} {file : FileDescriptor} {tree : SourceTree}
    (hfile : parse (before ++ after) name = .ok file) (htree : SourceTree.ofText (before ++ after).toList = .ok tree)
    (hboundary : tree.HasBoundary (textEnd before.toList)) (hfiller : Filler filler.toList) :
    ∃ locations, parse (before ++ filler ++ after) name = .ok { file with locations } := by
  obtain ⟨tree₀, htree₀, hdescribed⟩ := parse_ok_iff.mp hfile
  obtain rfl : tree = tree₀ := Except.ok.inj (htree.symm.trans htree₀)
  rw [String.toList_append] at htree
  obtain ⟨tree', htree', hstatements, hfault⟩ := ofText_insert hfiller htree hboundary
  obtain ⟨locations, hlocations⟩ := SourceTree.described_unplaced hstatements hfault hdescribed
  refine ⟨locations, parse_ok_iff.mpr ⟨tree', ?_, hlocations⟩⟩
  rw [String.toList_append, String.toList_append, List.append_assoc, htree']

instance (tree : SourceTree) (position : Position) : Decidable (tree.HasBoundary position) :=
  inferInstanceAs (Decidable (_ ∨ ∃ token ∈ tree.tokens, _ ∨ _))

theorem parse_insert_filler_before_rpc : ∃ tree file locations,
    SourceTree.ofText ("serviceS\x7b" ++ "rpc Get(M)returns(M);\x7d").toList = .ok tree ∧
    tree.HasBoundary (textEnd "serviceS\x7b".toList) ∧ Filler "\n//a\n".toList ∧
    parse ("serviceS\x7b" ++ "rpc Get(M)returns(M);\x7d") "a.proto" = .ok file ∧
    parse ("serviceS\x7b" ++ "\n//a\n" ++ "rpc Get(M)returns(M);\x7d") "a.proto" = .ok { file with locations } := by
  have hread : (SourceTree.ofText ("serviceS\x7b" ++ "rpc Get(M)returns(M);\x7d").toList).toOption.any
      (fun tree => tree.HasBoundary (textEnd "serviceS\x7b".toList)) = true := by decide +kernel
  have hparse : (parse ("serviceS\x7b" ++ "rpc Get(M)returns(M);\x7d") "a.proto").toOption.isSome = true := by
    decide +kernel
  have hfiller : Filler "\n//a\n".toList := .space rfl (.line (show '\n' ∉ ['a'] by decide) .nil)
  cases htree : SourceTree.ofText ("serviceS\x7b" ++ "rpc Get(M)returns(M);\x7d").toList with
  | error position =>
    rw [htree] at hread
    cases hread
  | ok tree =>
    cases hfile : parse ("serviceS\x7b" ++ "rpc Get(M)returns(M);\x7d") "a.proto" with
    | error failure =>
      rw [hfile] at hparse
      cases hparse
    | ok file =>
      rw [htree] at hread
      have hboundary : tree.HasBoundary (textEnd "serviceS\x7b".toList) := of_decide_eq_true hread
      obtain ⟨locations, hlocations⟩ := parse_insert_filler hfile htree hboundary hfiller
      exact ⟨tree, file, locations, rfl, hboundary, hfiller, rfl, hlocations⟩

end RpcClients.Proto
