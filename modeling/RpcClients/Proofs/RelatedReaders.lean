import Mathlib.Tactic.SplitIfs
import RpcClients.Proofs.DescribedFile
import RpcClients.Proto.Parser

/-! # Rules see tokens only

A rule goes on by the kinds and the texts of tokens, and goes behind a token only if it knows its kind.
Readers that see the same tokens are therefore led through the same rules. Where the one comes to a token
that the other may not see, it is lost, and no rule brings it back. -/

namespace RpcClients.Proto

/-- There are rules that go behind tokens of this kind. -/
def TokenKind.isTaken (kind : TokenKind) : Bool := kind ≠ .unreadable && kind ≠ .finish && kind ≠ .mark '/'

/-- The reader after a fault has been noted. -/
def Reader.noted (reader : Reader) (fault : Fault) : Reader :=
  { reader with fault := reader.fault.or (some fault) }

/-- A way in which a reader keeps up with another one, the leader, until the leader is lost. -/
structure Pursuit where
  near : Reader → Reader → Prop
  lost : Reader → Prop
  kind_eq {leader follower : Reader} (h : near leader follower) : follower.token.kind = leader.token.kind
  text_eq {leader follower : Reader} (h : near leader follower) : follower.token.text = leader.token.text
  rest_le {leader follower : Reader} (h : near leader follower) :
    leader.cursor.rest.length ≤ follower.cursor.rest.length
  near_noted {leader follower : Reader} (h : near leader follower) (fault : Fault) :
    near (leader.noted fault) (follower.noted fault)
  lost_noted {leader : Reader} (h : lost leader) (fault : Fault) : lost (leader.noted fault)
  near_next {leader follower : Reader} (h : near leader follower) (hkind : leader.token.kind.isTaken = true)
    (place : Place) : lost (leader.next place) ∨ near (leader.next place) (follower.next place)
  lost_next {leader : Reader} (h : lost leader) (hkind : leader.token.kind.isTaken = true) (place : Place) :
    lost (leader.next place)

/-- From tokens of some kinds on, the follower gets through the second rule if the leader gets through the
first one, and with a result that means the same. -/
structure Follows {α : Type} (pursuit : Pursuit) (starts : TokenKind → Prop) (same : α → α → Prop)
    (rule rule' : Parser α) : Prop where
  near {leader follower after : Reader} {value : α} (hkind : starts leader.token.kind)
    (h : pursuit.near leader follower) (hrun : rule.run leader = .ok (value, after)) :
    pursuit.lost after ∨ ∃ value' after',
      rule'.run follower = .ok (value', after') ∧ same value value' ∧ pursuit.near after after'
  lost {leader after : Reader} {value : α} (hkind : starts leader.token.kind) (h : pursuit.lost leader)
    (hrun : rule.run leader = .ok (value, after)) : pursuit.lost after

open RpcClients.Proto.Parser

variable {α β : Type} {pursuit : Pursuit} {starts : TokenKind → Prop} {same : α → α → Prop}

/-! ## Steps -/

theorem Parser.run_bind_ok_iff {rule : Parser α} {rest : α → Parser β} {reader after : Reader} {value : β} :
    (rule >>= rest).run reader = .ok (value, after) ↔
      ∃ first middle, rule.run reader = .ok (first, middle) ∧ (rest first).run middle = .ok (value, after) := by
  rw [StateT.run_bind, except_bind_ok_iff]
  constructor
  · rintro ⟨⟨first, middle⟩, hrule, hrest⟩
    exact ⟨first, middle, hrule, hrest⟩
  · rintro ⟨first, middle, hrule, hrest⟩
    exact ⟨⟨first, middle⟩, hrule, hrest⟩

theorem follows_pure {value value' : α} (h : same value value') :
    Follows pursuit starts same (pure value) (pure value') where
  near _ hnear hrun := by
    cases hrun
    exact Or.inr ⟨value', _, rfl, h, hnear⟩
  lost _ hlost hrun := by
    cases hrun
    exact hlost

theorem follows_fail (rule : Parser α) : Follows pursuit starts same fail rule where
  near _ _ hrun := by cases hrun
  lost _ _ hrun := by cases hrun

theorem Follows.bind {same' : β → β → Prop} {rule rule' : Parser α} {rest rest' : α → Parser β}
    (hrule : Follows pursuit starts same rule rule') (hrefl : ∀ value, same value value)
    (hrest : ∀ value value', same value value' → Follows pursuit (fun _ => True) same' (rest value) (rest' value')) :
    Follows pursuit starts same' (rule >>= rest) (rule' >>= rest') where
  near hkind hnear hrun := by
    obtain ⟨first, middle, hfirst, hlast⟩ := run_bind_ok_iff.mp hrun
    rcases hrule.near hkind hnear hfirst with hlost | ⟨first', middle', hfirst', hsame, hmiddle⟩
    · exact Or.inl ((hrest first first (hrefl first)).lost trivial hlost hlast)
    · rcases (hrest first first' hsame).near trivial hmiddle hlast with hlost | ⟨last, after, hlast', hgoal⟩
      · exact Or.inl hlost
      · exact Or.inr ⟨last, after, run_bind_ok_iff.mpr ⟨first', middle', hfirst', hlast'⟩, hgoal⟩
  lost hkind hlost hrun := by
    obtain ⟨first, middle, hfirst, hlast⟩ := run_bind_ok_iff.mp hrun
    exact (hrest first first (hrefl first)).lost trivial (hrule.lost hkind hlost hfirst) hlast

theorem Follows.andThen {same : β → β → Prop} {rule rule' : Parser α} {rest rest' : α → Parser β}
    (hrule : Follows pursuit starts Eq rule rule')
    (hrest : ∀ value, Follows pursuit (fun _ => True) same (rest value) (rest' value)) :
    Follows pursuit starts same (rule >>= rest) (rule' >>= rest') := by
  refine hrule.bind (fun _ => rfl) ?_
  rintro value _ rfl
  exact hrest value

theorem follows_kind {rest rest' : TokenKind → Parser α}
    (h : ∀ kind, starts kind → Follows pursuit (· = kind) same (rest kind) (rest' kind)) :
    Follows pursuit starts same (kind >>= rest) (kind >>= rest') where
  near {leader follower _ _} hkind hnear hrun := by
    have hrun' := (h _ hkind).near rfl hnear hrun
    have hfollower : (kind >>= rest').run follower = (rest' leader.token.kind).run follower := by
      rw [← pursuit.kind_eq hnear]
      rfl
    rwa [hfollower]
  lost hkind hlost hrun := (h _ hkind).lost rfl hlost hrun

theorem follows_skip {kind : TokenKind} (h : kind.isTaken = true) (place : Place) :
    Follows pursuit (· = kind) Eq (skip place) (skip place) where
  near hkind hnear hrun := by
    cases hrun
    rcases pursuit.near_next hnear (hkind ▸ h) place with hlost | hnext
    · exact Or.inl hlost
    · exact Or.inr ⟨(), _, rfl, rfl, hnext⟩
  lost hkind hlost hrun := by
    cases hrun
    exact pursuit.lost_next hlost (hkind ▸ h) place

/-- Tokens with the same text. -/
def SameText (token token' : Token) : Prop := token'.text = token.text

theorem Parser.run_take (kind : TokenKind) (place : Place) (reader : Reader) :
    (take kind place).run reader =
      if reader.token.kind = kind then .ok (reader.token, reader.next place) else .error reader.token.start := by
  unfold take
  simp only [StateT.run_bind, StateT.run_get, pure_bind]
  split_ifs <;> rfl

theorem follows_take {kind : TokenKind} (h : kind.isTaken = true) (place : Place) :
    Follows pursuit starts SameText (take kind place) (take kind place) where
  near {leader follower _ _} _ hnear hrun := by
    rw [Parser.run_take] at hrun ⊢
    split_ifs at hrun with hkind
    cases hrun
    rcases pursuit.near_next hnear (hkind ▸ h) place with hlost | hnext
    · exact Or.inl hlost
    · rw [if_pos (by rw [pursuit.kind_eq hnear, hkind])]
      exact Or.inr ⟨follower.token, _, rfl, pursuit.text_eq hnear, hnext⟩
  lost _ hlost hrun := by
    rw [Parser.run_take] at hrun
    split_ifs at hrun with hkind
    cases hrun
    exact pursuit.lost_next hlost (hkind ▸ h) place

theorem follows_remaining : Follows pursuit starts (· ≤ ·) remaining remaining where
  near _ hnear hrun := by
    cases hrun
    exact Or.inr ⟨_, _, rfl, Nat.succ_le_succ (pursuit.rest_le hnear), hnear⟩
  lost _ hlost hrun := by
    cases hrun
    exact hlost

theorem follows_note (fault : Fault) : Follows pursuit starts Eq (note fault) (note fault) where
  near _ hnear hrun := by
    cases hrun
    exact Or.inr ⟨_, _, rfl, rfl, pursuit.near_noted hnear fault⟩
  lost _ hlost hrun := by
    cases hrun
    exact pursuit.lost_noted hlost fault

theorem follows_enter (depth : Nat) : Follows pursuit starts Eq (enter depth) (enter depth) := by
  unfold enter
  split_ifs
  · exact follows_note _
  · exact follows_pure rfl

theorem follows_decode (default : α) (value : Option α) :
    Follows pursuit starts Eq (decode default value) (decode default value) := by
  cases value with
  | none => exact (follows_note _).andThen fun _ => follows_pure rfl
  | some value => exact follows_pure rfl

theorem Follows.discard {rule rule' : Parser α} (h : Follows pursuit starts same rule rule')
    (hrefl : ∀ value, same value value) : Follows pursuit starts Eq (discard rule) (discard rule') :=
  h.bind hrefl fun _ _ _ => follows_pure rfl

theorem follows_takeMark {c : Char} (h : (TokenKind.mark c).isTaken = true) (place : Place) :
    Follows pursuit starts Eq (takeMark c place) (takeMark c place) :=
  (follows_take h place).discard fun _ => rfl

theorem follows_takeName (place : Place) : Follows pursuit starts Eq (takeName place) (takeName place) := by
  unfold takeName
  refine (follows_take (by rfl) place).bind (fun _ => rfl) fun token token' htext => ?_
  exact follows_pure (by rw [htext])

/-! ## Names and literals -/

theorem follows_dottedRest {fuel fuel' : Nat} (hfuel : fuel ≤ fuel') :
    Follows pursuit starts Eq (dottedRest fuel) (dottedRest fuel') := by
  induction fuel generalizing fuel' starts with
  | zero => exact follows_fail _
  | succ fuel ih =>
    obtain ⟨fuel', rfl⟩ := Nat.exists_eq_succ_of_ne_zero (show fuel' ≠ 0 by omega)
    unfold dottedRest
    refine follows_kind fun kind _ => ?_
    split_ifs with hkind
    · subst hkind
      refine (follows_skip rfl _).andThen fun _ => ?_
      refine (follows_takeName _).andThen fun name => ?_
      refine (ih (by omega)).andThen fun rest => ?_
      exact follows_pure rfl
    · exact follows_pure rfl

theorem follows_dottedName : Follows pursuit starts Eq dottedName dottedName := by
  unfold dottedName
  refine (follows_takeName _).andThen fun name => ?_
  refine follows_remaining.bind Nat.le_refl fun fuel fuel' hfuel => ?_
  exact (follows_dottedRest hfuel).andThen fun rest => follows_pure rfl

theorem follows_quotedText (place : Place) : Follows pursuit starts Eq (quotedText place) (quotedText place) := by
  unfold quotedText
  refine (follows_take rfl place).bind (fun _ => rfl) fun token token' htext => ?_
  rw [htext]
  exact follows_decode _ _

theorem follows_integer (place : Place) : Follows pursuit starts Eq (integer place) (integer place) := by
  unfold integer
  refine (follows_take rfl place).bind (fun _ => rfl) fun token token' htext => ?_
  rw [htext]
  exact follows_decode _ _

theorem follows_type : Follows pursuit starts Eq type type := by
  unfold type
  refine follows_kind fun kind _ => ?_
  split_ifs with hkind
  · subst hkind
    refine (follows_skip rfl _).andThen fun _ => ?_
    exact follows_dottedName.andThen fun name => follows_pure rfl
  · exact follows_dottedName.andThen fun name => follows_pure rfl

/-! ## Options -/

theorem follows_ite_skip {kind taken : TokenKind} (htaken : taken.isTaken = true) (place : Place)
    {rest rest' : Unit → Parser α} (hrest : ∀ starts, Follows pursuit starts same (rest ()) (rest' ())) :
    Follows pursuit (· = kind) same (if kind = taken then skip place >>= rest else rest ())
      (if kind = taken then skip place >>= rest' else rest' ()) := by
  split_ifs with hkind
  · subst hkind
    exact (follows_skip htaken place).andThen fun _ => hrest _
  · exact hrest _

theorem follows_optionPart : Follows pursuit starts Eq optionPart optionPart := by
  unfold optionPart
  refine follows_kind fun kind _ => ?_
  split_ifs with hkind
  · subst hkind
    refine (follows_skip rfl _).andThen fun _ => ?_
    refine follows_kind fun kind _ => ?_
    refine follows_ite_skip rfl _ fun starts => ?_
    refine follows_dottedName.andThen fun name => ?_
    exact (follows_takeMark rfl _).andThen fun _ => follows_pure rfl
  · exact follows_takeName _

theorem follows_optionParts {fuel fuel' : Nat} (hfuel : fuel ≤ fuel') :
    Follows pursuit starts Eq (optionParts fuel) (optionParts fuel') := by
  induction fuel generalizing fuel' starts with
  | zero => exact follows_fail _
  | succ fuel ih =>
    obtain ⟨fuel', rfl⟩ := Nat.exists_eq_succ_of_ne_zero (show fuel' ≠ 0 by omega)
    unfold optionParts
    refine follows_optionPart.andThen fun part => ?_
    refine follows_kind fun kind _ => ?_
    split_ifs with hkind
    · subst hkind
      refine (follows_skip rfl _).andThen fun _ => ?_
      exact (ih (by omega)).andThen fun rest => follows_pure rfl
    · exact follows_pure rfl

theorem follows_optionName : Follows pursuit starts Eq optionName optionName :=
  follows_remaining.bind Nat.le_refl fun _ _ => follows_optionParts

theorem follows_adjacentTexts {fuel fuel' : Nat} (hfuel : fuel ≤ fuel') :
    Follows pursuit starts Eq (adjacentTexts fuel) (adjacentTexts fuel') := by
  induction fuel generalizing fuel' starts with
  | zero => exact follows_fail _
  | succ fuel ih =>
    obtain ⟨fuel', rfl⟩ := Nat.exists_eq_succ_of_ne_zero (show fuel' ≠ 0 by omega)
    unfold adjacentTexts
    refine (follows_quotedText _).andThen fun first => ?_
    refine follows_kind fun kind _ => ?_
    split_ifs
    · exact (ih (by omega)).andThen fun rest => follows_pure rfl
    · exact follows_pure rfl

theorem follows_negated : Follows pursuit starts Eq negated negated := by
  unfold negated
  refine follows_kind fun kind _ => ?_
  split
  · exact (follows_integer _).discard fun _ => rfl
  · exact follows_skip rfl _
  · exact follows_dottedName.discard fun _ => rfl

theorem follows_entryName : Follows pursuit starts Eq entryName entryName := by
  unfold entryName
  refine follows_kind fun kind _ => ?_
  split_ifs with hkind
  · subst hkind
    refine (follows_skip rfl _).andThen fun _ => ?_
    exact (follows_dottedName.discard fun _ => rfl).andThen fun _ => follows_takeMark rfl _
  · exact (follows_takeName _).discard fun _ => rfl

theorem follows_separator : Follows pursuit starts Eq separator separator := by
  unfold separator
  refine follows_kind fun kind _ => ?_
  split_ifs with hkind
  · rcases hkind with rfl | rfl
    · exact follows_skip rfl _
    · exact follows_skip rfl _
  · exact follows_pure rfl

theorem follows_values {fuel fuel' : Nat} (hfuel : fuel ≤ fuel') (depth : Nat) :
    (∀ starts, Follows pursuit starts Eq (constant depth fuel) (constant depth fuel')) ∧
      (∀ starts, Follows pursuit starts Eq (aggregateRest depth fuel) (aggregateRest depth fuel')) ∧
        ∀ starts, Follows pursuit starts Eq (listRest depth fuel) (listRest depth fuel') := by
  induction fuel generalizing fuel' depth with
  | zero =>
    simp only [constant, aggregateRest, listRest]
    exact ⟨fun _ => follows_fail _, fun _ => follows_fail _, fun _ => follows_fail _⟩
  | succ fuel ih =>
    obtain ⟨fuel', rfl⟩ := Nat.exists_eq_succ_of_ne_zero (show fuel' ≠ 0 by omega)
    have hle : fuel ≤ fuel' := by omega
    have hconstant (depth : Nat) (starts : TokenKind → Prop) := (ih hle depth).1 starts
    have haggregate (depth : Nat) (starts : TokenKind → Prop) := (ih hle depth).2.1 starts
    have hlist (depth : Nat) (starts : TokenKind → Prop) := (ih hle depth).2.2 starts
    refine ⟨fun starts => ?_, fun starts => ?_, fun starts => ?_⟩
    · unfold constant
      refine follows_kind fun kind _ => ?_
      split
      · refine follows_remaining.bind Nat.le_refl fun fuel fuel' hfuel => ?_
        exact (follows_adjacentTexts hfuel).andThen fun _ => follows_pure rfl
      · exact ((follows_integer _).discard fun _ => rfl).andThen fun _ => follows_pure rfl
      · exact (follows_skip rfl _).andThen fun _ => follows_pure rfl
      · exact (follows_skip rfl _).andThen fun _ => follows_negated.andThen fun _ => follows_pure rfl
      · refine (follows_skip rfl _).andThen fun _ => ?_
        exact (haggregate _ _).andThen fun _ => follows_pure rfl
      · exact (follows_dottedName.discard fun _ => rfl).andThen fun _ => follows_pure rfl
    · unfold aggregateRest
      refine (follows_enter _).andThen fun _ => ?_
      refine follows_kind fun kind _ => ?_
      split_ifs with hend
      · subst hend
        exact follows_skip rfl _
      · have hrest (starts : TokenKind → Prop) :
            Follows pursuit starts Eq (do separator; aggregateRest depth fuel)
              (do separator; aggregateRest depth fuel') :=
          follows_separator.andThen fun _ => haggregate _ _
        refine follows_entryName.andThen fun _ => ?_
        refine follows_kind fun kind _ => ?_
        dsimp only
        split_ifs with hkind
        · subst hkind
          refine (follows_skip rfl _).andThen fun _ => ?_
          exact (haggregate _ _).andThen fun _ => hrest _
        · refine (follows_takeMark rfl _).andThen fun _ => ?_
          refine follows_kind fun kind _ => ?_
          split_ifs with hlistStart
          · subst hlistStart
            refine (follows_skip rfl _).andThen fun _ => ?_
            refine follows_kind fun kind _ => ?_
            split_ifs with hempty
            · subst hempty
              exact (follows_skip rfl _).andThen fun _ => hrest _
            · exact (hlist _ _).andThen fun _ => hrest _
          · exact ((hconstant _ _).discard fun _ => rfl).andThen fun _ => hrest _
    · unfold listRest
      refine (follows_enter _).andThen fun _ => ?_
      refine ((hconstant _ _).discard fun _ => rfl).andThen fun _ => ?_
      refine follows_kind fun kind _ => ?_
      split_ifs with hkind
      · subst hkind
        exact (follows_skip rfl _).andThen fun _ => hlist _ _
      · exact follows_takeMark rfl _

theorem follows_optionValue : Follows pursuit starts Eq optionValue optionValue := by
  unfold optionValue
  refine follows_remaining.bind Nat.le_refl fun fuel fuel' hfuel => ?_
  exact (follows_values (by omega) 0).1 _

theorem follows_optionRest : Follows pursuit starts Eq optionRest optionRest := by
  unfold optionRest
  refine follows_optionName.andThen fun name => ?_
  refine (follows_takeMark rfl _).andThen fun _ => ?_
  refine follows_optionValue.andThen fun value => ?_
  exact (follows_takeMark rfl _).andThen fun _ => follows_pure rfl

theorem follows_fieldOptionsRest {fuel fuel' : Nat} (hfuel : fuel ≤ fuel') :
    Follows pursuit starts Eq (fieldOptionsRest fuel) (fieldOptionsRest fuel') := by
  induction fuel generalizing fuel' starts with
  | zero => exact follows_fail _
  | succ fuel ih =>
    obtain ⟨fuel', rfl⟩ := Nat.exists_eq_succ_of_ne_zero (show fuel' ≠ 0 by omega)
    unfold fieldOptionsRest
    refine (follows_optionName.discard fun _ => rfl).andThen fun _ => ?_
    refine (follows_takeMark rfl _).andThen fun _ => ?_
    refine (follows_optionValue.discard fun _ => rfl).andThen fun _ => ?_
    refine follows_kind fun kind _ => ?_
    split_ifs with hkind
    · subst hkind
      exact (follows_skip rfl _).andThen fun _ => ih (by omega)
    · exact follows_takeMark rfl _

theorem follows_fieldOptions : Follows pursuit starts Eq fieldOptions fieldOptions := by
  unfold fieldOptions
  refine follows_kind fun kind _ => ?_
  split_ifs with hkind
  · subst hkind
    refine (follows_skip rfl _).andThen fun _ => ?_
    exact follows_remaining.bind Nat.le_refl fun _ _ => follows_fieldOptionsRest
  · exact follows_pure rfl

/-! ## Messages and enums -/

theorem follows_fieldRest (label : Option Label) (place : Place) :
    Follows pursuit starts Eq (fieldRest label place) (fieldRest label place) := by
  unfold fieldRest
  refine follows_type.andThen fun type => ?_
  refine (follows_takeName _).andThen fun name => ?_
  refine (follows_takeMark rfl _).andThen fun _ => ?_
  refine (follows_integer _).andThen fun number => ?_
  refine follows_fieldOptions.andThen fun _ => ?_
  exact (follows_takeMark rfl _).andThen fun _ => follows_pure rfl

theorem follows_field : Follows pursuit starts Eq field field := by
  unfold field
  refine follows_kind fun kind _ => ?_
  split
  · exact (follows_skip rfl _).andThen fun _ => follows_fieldRest _ _
  · exact (follows_skip rfl _).andThen fun _ => follows_fieldRest _ _
  · exact (follows_skip rfl _).andThen fun _ => follows_fieldRest _ _
  · exact follows_fieldRest _ _

theorem follows_mapRest : Follows pursuit starts Eq mapRest mapRest := by
  unfold mapRest
  refine (follows_takeMark rfl _).andThen fun _ => ?_
  refine (follows_takeName _).andThen fun key => ?_
  refine (follows_takeMark rfl _).andThen fun _ => ?_
  refine follows_type.andThen fun value => ?_
  refine (follows_takeMark rfl _).andThen fun _ => ?_
  refine (follows_takeName _).andThen fun name => ?_
  refine (follows_takeMark rfl _).andThen fun _ => ?_
  refine (follows_integer _).andThen fun number => ?_
  refine follows_fieldOptions.andThen fun _ => ?_
  exact (follows_takeMark rfl _).andThen fun _ => follows_pure rfl

theorem follows_oneofItems {fuel fuel' : Nat} (hfuel : fuel ≤ fuel') :
    Follows pursuit starts Eq (oneofItems fuel) (oneofItems fuel') := by
  induction fuel generalizing fuel' starts with
  | zero => exact follows_fail _
  | succ fuel ih =>
    obtain ⟨fuel', rfl⟩ := Nat.exists_eq_succ_of_ne_zero (show fuel' ≠ 0 by omega)
    unfold oneofItems
    refine follows_kind fun kind _ => ?_
    split
    · exact (follows_skip rfl _).andThen fun _ => follows_pure rfl
    · exact (follows_skip rfl _).andThen fun _ => ih (by omega)
    · refine (follows_skip rfl _).andThen fun _ => ?_
      exact (follows_optionRest.discard fun _ => rfl).andThen fun _ => ih (by omega)
    · refine (follows_fieldRest _ _).andThen fun field => ?_
      exact (ih (by omega)).andThen fun rest => follows_pure rfl

theorem follows_oneofRest : Follows pursuit starts Eq oneofRest oneofRest := by
  unfold oneofRest
  refine (follows_takeName _).andThen fun name => ?_
  refine (follows_takeMark rfl _).andThen fun _ => ?_
  refine follows_remaining.bind Nat.le_refl fun fuel fuel' hfuel => ?_
  exact (follows_oneofItems hfuel).andThen fun fields => follows_pure rfl

theorem follows_range : Follows pursuit starts Eq range range := by
  unfold range
  refine follows_kind fun kind _ => ?_
  split
  · refine (follows_skip rfl _).andThen fun _ => ?_
    refine follows_kind fun kind _ => ?_
    split_ifs with hto
    · subst hto
      refine (follows_skip rfl _).andThen fun _ => ?_
      refine follows_kind fun kind _ => ?_
      split_ifs with hmax
      · subst hmax
        exact follows_skip rfl _
      · exact (follows_take rfl _).discard fun _ => rfl
    · exact follows_pure rfl
  · exact follows_skip rfl _
  · exact (follows_takeName _).discard fun _ => rfl

theorem follows_ranges {fuel fuel' : Nat} (hfuel : fuel ≤ fuel') :
    Follows pursuit starts Eq (ranges fuel) (ranges fuel') := by
  induction fuel generalizing fuel' starts with
  | zero => exact follows_fail _
  | succ fuel ih =>
    obtain ⟨fuel', rfl⟩ := Nat.exists_eq_succ_of_ne_zero (show fuel' ≠ 0 by omega)
    unfold ranges
    refine follows_range.andThen fun _ => ?_
    refine follows_kind fun kind _ => ?_
    split_ifs with hkind
    · subst hkind
      exact (follows_skip rfl _).andThen fun _ => ih (by omega)
    · exact follows_pure rfl

theorem follows_reservedRest : Follows pursuit starts Eq reservedRest reservedRest := by
  unfold reservedRest
  refine follows_remaining.bind Nat.le_refl fun fuel fuel' hfuel => ?_
  exact (follows_ranges hfuel).andThen fun _ => follows_takeMark rfl _

theorem follows_extensionsRest : Follows pursuit starts Eq extensionsRest extensionsRest := by
  unfold extensionsRest
  refine follows_remaining.bind Nat.le_refl fun fuel fuel' hfuel => ?_
  refine (follows_ranges hfuel).andThen fun _ => ?_
  exact follows_fieldOptions.andThen fun _ => follows_takeMark rfl _

theorem follows_extendItems {fuel fuel' : Nat} (hfuel : fuel ≤ fuel') :
    Follows pursuit starts Eq (extendItems fuel) (extendItems fuel') := by
  induction fuel generalizing fuel' starts with
  | zero => exact follows_fail _
  | succ fuel ih =>
    obtain ⟨fuel', rfl⟩ := Nat.exists_eq_succ_of_ne_zero (show fuel' ≠ 0 by omega)
    unfold extendItems
    refine follows_kind fun kind _ => ?_
    split
    · exact follows_skip rfl _
    · exact (follows_skip rfl _).andThen fun _ => ih (by omega)
    · exact (follows_field.discard fun _ => rfl).andThen fun _ => ih (by omega)

theorem follows_extendRest : Follows pursuit starts Eq extendRest extendRest := by
  unfold extendRest
  refine (follows_type.discard fun _ => rfl).andThen fun _ => ?_
  refine (follows_takeMark rfl _).andThen fun _ => ?_
  exact follows_remaining.bind Nat.le_refl fun _ _ => follows_extendItems

theorem follows_enumValue : Follows pursuit starts Eq enumValue enumValue := by
  unfold enumValue
  refine (follows_takeName _).andThen fun name => ?_
  refine (follows_takeMark rfl _).andThen fun _ => ?_
  refine follows_kind fun kind _ => ?_
  refine follows_ite_skip rfl _ fun starts => ?_
  refine (follows_integer _).andThen fun number => ?_
  refine follows_fieldOptions.andThen fun _ => ?_
  exact (follows_takeMark rfl _).andThen fun _ => follows_pure rfl

theorem follows_enumItems {fuel fuel' : Nat} (hfuel : fuel ≤ fuel') :
    Follows pursuit starts Eq (enumItems fuel) (enumItems fuel') := by
  induction fuel generalizing fuel' starts with
  | zero => exact follows_fail _
  | succ fuel ih =>
    obtain ⟨fuel', rfl⟩ := Nat.exists_eq_succ_of_ne_zero (show fuel' ≠ 0 by omega)
    unfold enumItems
    refine follows_kind fun kind _ => ?_
    split
    · exact (follows_skip rfl _).andThen fun _ => follows_pure rfl
    · exact (follows_skip rfl _).andThen fun _ => ih (by omega)
    · refine (follows_skip rfl _).andThen fun _ => ?_
      exact (follows_optionRest.discard fun _ => rfl).andThen fun _ => ih (by omega)
    · exact (follows_skip rfl _).andThen fun _ => follows_reservedRest.andThen fun _ => ih (by omega)
    · refine follows_enumValue.andThen fun value => ?_
      exact (ih (by omega)).andThen fun rest => follows_pure rfl

theorem follows_enumRest : Follows pursuit starts Eq enumRest enumRest := by
  unfold enumRest
  refine (follows_takeName _).andThen fun name => ?_
  refine (follows_takeMark rfl _).andThen fun _ => ?_
  refine follows_remaining.bind Nat.le_refl fun fuel fuel' hfuel => ?_
  exact (follows_enumItems hfuel).andThen fun values => follows_pure rfl

theorem follows_messageItems {fuel fuel' : Nat} (hfuel : fuel ≤ fuel') (depth : Nat) :
    Follows pursuit starts Eq (messageItems depth fuel) (messageItems depth fuel') := by
  induction fuel generalizing fuel' depth starts with
  | zero => exact follows_fail _
  | succ fuel ih =>
    obtain ⟨fuel', rfl⟩ := Nat.exists_eq_succ_of_ne_zero (show fuel' ≠ 0 by omega)
    unfold messageItems
    refine follows_kind fun kind _ => ?_
    split
    · exact (follows_skip rfl _).andThen fun _ => follows_pure rfl
    · exact (follows_skip rfl _).andThen fun _ => ih (by omega) _
    · refine (follows_skip rfl _).andThen fun _ => ?_
      exact (follows_optionRest.discard fun _ => rfl).andThen fun _ => ih (by omega) _
    · exact (follows_skip rfl _).andThen fun _ => follows_reservedRest.andThen fun _ => ih (by omega) _
    · exact (follows_skip rfl _).andThen fun _ => follows_extensionsRest.andThen fun _ => ih (by omega) _
    · exact (follows_skip rfl _).andThen fun _ => follows_extendRest.andThen fun _ => ih (by omega) _
    · refine (follows_skip rfl _).andThen fun _ => follows_mapRest.andThen fun map => ?_
      exact (ih (by omega) _).andThen fun rest => follows_pure rfl
    · refine (follows_skip rfl _).andThen fun _ => follows_oneofRest.andThen fun oneof => ?_
      exact (ih (by omega) _).andThen fun rest => follows_pure rfl
    · refine (follows_skip rfl _).andThen fun _ => follows_enumRest.andThen fun enum => ?_
      exact (ih (by omega) _).andThen fun rest => follows_pure rfl
    · refine (follows_skip rfl _).andThen fun _ => (follows_takeName _).andThen fun name => ?_
      refine (follows_takeMark rfl _).andThen fun _ => (follows_enter _).andThen fun _ => ?_
      refine (ih (by omega) _).andThen fun items => ?_
      exact (ih (by omega) _).andThen fun rest => follows_pure rfl
    · refine follows_field.andThen fun field => ?_
      exact (ih (by omega) _).andThen fun rest => follows_pure rfl

/-! ## Services -/

theorem follows_rpcItems {fuel fuel' : Nat} (hfuel : fuel ≤ fuel') :
    Follows pursuit starts Eq (rpcItems fuel) (rpcItems fuel') := by
  induction fuel generalizing fuel' starts with
  | zero => exact follows_fail _
  | succ fuel ih =>
    obtain ⟨fuel', rfl⟩ := Nat.exists_eq_succ_of_ne_zero (show fuel' ≠ 0 by omega)
    unfold rpcItems
    refine follows_kind fun kind _ => ?_
    split
    · exact follows_skip rfl _
    · exact (follows_skip rfl _).andThen fun _ => ih (by omega)
    · refine (follows_skip rfl _).andThen fun _ => ?_
      exact (follows_optionRest.discard fun _ => rfl).andThen fun _ => ih (by omega)
    · exact follows_fail _

theorem follows_streamable (place : Place) :
    Follows pursuit starts Eq (streamable place) (streamable place) := by
  unfold streamable
  refine (follows_takeMark rfl _).andThen fun _ => ?_
  refine follows_kind fun kind _ => ?_
  refine follows_ite_skip rfl _ fun starts => ?_
  refine follows_type.andThen fun type => ?_
  exact (follows_takeMark rfl _).andThen fun _ => follows_pure rfl

theorem follows_rpcRest :
    Follows pursuit starts (fun rpc rpc' => rpc.unplaced = rpc'.unplaced) rpcRest rpcRest := by
  unfold rpcRest
  refine (follows_take rfl _).bind (fun _ => rfl) fun name name' htext => ?_
  refine (follows_streamable _).andThen ?_
  rintro ⟨clientStreaming, input⟩
  refine ((follows_take rfl _).discard fun _ => rfl).andThen fun _ => ?_
  refine (follows_streamable _).andThen ?_
  rintro ⟨serverStreaming, output⟩
  have hname : String.ofList name.text = String.ofList name'.text := by rw [htext]
  refine follows_kind fun kind _ => ?_
  dsimp only
  split_ifs with hkind
  · subst hkind
    refine (follows_skip rfl _).andThen fun _ => ?_
    refine follows_remaining.bind Nat.le_refl fun fuel fuel' hfuel => ?_
    refine (follows_rpcItems hfuel).andThen fun _ => follows_pure ?_
    simp only [RpcDecl.unplaced, hname]
  · refine (follows_takeMark rfl _).andThen fun _ => follows_pure ?_
    simp only [RpcDecl.unplaced, hname]

theorem follows_serviceItems {fuel fuel' : Nat} (hfuel : fuel ≤ fuel') :
    Follows pursuit starts (fun rpcs rpcs' => rpcs.map RpcDecl.unplaced = rpcs'.map RpcDecl.unplaced)
      (serviceItems fuel) (serviceItems fuel') := by
  induction fuel generalizing fuel' starts with
  | zero => exact follows_fail _
  | succ fuel ih =>
    obtain ⟨fuel', rfl⟩ := Nat.exists_eq_succ_of_ne_zero (show fuel' ≠ 0 by omega)
    unfold serviceItems
    refine follows_kind fun kind _ => ?_
    split
    · exact (follows_skip rfl _).andThen fun _ => follows_pure rfl
    · exact (follows_skip rfl _).andThen fun _ => ih (by omega)
    · refine (follows_skip rfl _).andThen fun _ => ?_
      exact (follows_optionRest.discard fun _ => rfl).andThen fun _ => ih (by omega)
    · refine (follows_skip rfl _).andThen fun _ => ?_
      refine follows_rpcRest.bind (fun _ => rfl) fun rpc rpc' hrpc => ?_
      refine (ih (by omega)).bind (fun _ => rfl) fun rest rest' hrest => ?_
      exact follows_pure (by rw [List.map_cons, List.map_cons, hrpc, hrest])
    · exact follows_fail _

theorem follows_serviceRest :
    Follows pursuit starts (fun service service' => service.unplaced = service'.unplaced) serviceRest serviceRest := by
  unfold serviceRest
  refine (follows_take rfl _).bind (fun _ => rfl) fun name name' htext => ?_
  refine (follows_takeMark rfl _).andThen fun _ => ?_
  refine follows_remaining.bind Nat.le_refl fun fuel fuel' hfuel => ?_
  refine (follows_serviceItems hfuel).bind (fun _ => rfl) fun rpcs rpcs' hrpcs => ?_
  have hname : String.ofList name.text = String.ofList name'.text := by rw [htext]
  exact follows_pure (by simp only [ServiceDecl.unplaced, hname, hrpcs])

/-! ## Files -/

theorem follows_importRest : Follows pursuit starts Eq importRest importRest := by
  unfold importRest
  refine follows_kind fun kind _ => ?_
  have hrest (starts : TokenKind → Prop) (kind : ImportKind) : Follows pursuit starts Eq
      (do let path ← quotedText; takeMark ';' .file; return Statement.importFile kind path)
      (do let path ← quotedText; takeMark ';' .file; return Statement.importFile kind path) := by
    refine (follows_quotedText _).andThen fun path => ?_
    exact (follows_takeMark rfl _).andThen fun _ => follows_pure rfl
  dsimp only
  split
  · exact (follows_skip rfl _).andThen fun _ => hrest _ _
  · exact (follows_skip rfl _).andThen fun _ => hrest _ _
  · exact hrest _ _

theorem follows_statements {fuel fuel' : Nat} (hfuel : fuel ≤ fuel') :
    Follows pursuit starts
      (fun statements statements' => statements.map Statement.unplaced = statements'.map Statement.unplaced)
      (statements fuel) (statements fuel') := by
  induction fuel generalizing fuel' starts with
  | zero => exact follows_fail _
  | succ fuel ih =>
    obtain ⟨fuel', rfl⟩ := Nat.exists_eq_succ_of_ne_zero (show fuel' ≠ 0 by omega)
    -- a statement and the statements behind it
    have hrest (statement statement' : Statement) (h : statement.unplaced = statement'.unplaced) :
        Follows pursuit (fun _ => True)
          (fun statements statements' => statements.map Statement.unplaced = statements'.map Statement.unplaced)
          (do return statement :: (← statements fuel)) (do return statement' :: (← statements fuel')) := by
      refine (ih (by omega)).bind (fun _ => rfl) fun rest rest' hrest => ?_
      exact follows_pure (by rw [List.map_cons, List.map_cons, h, hrest])
    unfold statements
    refine follows_kind fun kind _ => ?_
    split
    · exact follows_pure rfl
    · exact (follows_skip rfl _).andThen fun _ => ih (by omega)
    · refine (follows_skip rfl _).andThen fun _ => (follows_takeMark rfl _).andThen fun _ => ?_
      refine (follows_quotedText _).andThen fun name => ?_
      exact (follows_takeMark rfl _).andThen fun _ => hrest _ _ rfl
    · refine (follows_skip rfl _).andThen fun _ => follows_dottedName.andThen fun name => ?_
      exact (follows_takeMark rfl _).andThen fun _ => hrest _ _ rfl
    · refine (follows_skip rfl _).andThen fun _ => ?_
      exact follows_importRest.andThen fun statement => hrest _ _ rfl
    · refine (follows_skip rfl _).andThen fun _ => follows_optionRest.andThen fun value => ?_
      cases value with
      | none => exact ih (by omega)
      | some value => exact hrest _ _ rfl
    · refine (follows_skip rfl _).andThen fun _ => (follows_takeName _).andThen fun name => ?_
      refine (follows_takeMark rfl _).andThen fun _ => ?_
      refine follows_remaining.bind Nat.le_refl fun fuel fuel' hfuel => ?_
      exact (follows_messageItems hfuel 1).andThen fun items => hrest _ _ rfl
    · refine (follows_skip rfl _).andThen fun _ => ?_
      exact follows_enumRest.andThen fun enum => hrest _ _ rfl
    · refine (follows_skip rfl _).andThen fun _ => ?_
      refine follows_serviceRest.bind (fun _ => rfl) fun service service' hservice => ?_
      exact hrest _ _ (congrArg Statement.service hservice)
    · exact (follows_skip rfl _).andThen fun _ => follows_extendRest.andThen fun _ => ih (by omega)
    · exact follows_fail _

end RpcClients.Proto
