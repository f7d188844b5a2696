import Mathlib.Algebra.BigOperators.Group.List.Basic
import Mathlib.Data.List.Dedup
import RpcClients.Proofs.DeclaredLines
import RpcClients.Proofs.DescribedFile

/-! # What comments document

A comment documents the declaration below it. A block does so if it ends on the line above the declaration's
name, and a comment on a line if there is such a comment on each line from there on. No name stands on these
lines, so that a comment documents declarations on one line at most. -/

namespace RpcClients.Proto

open Schema

/-- The comment stands on a line that it has to itself, and so do comments on each line from there up to the
given one. -/
def Comment.RunsTo (comments : List Comment) (line : Nat) (comment : Comment) : Prop :=
  comment.ownLine = true ∧ comment.block = false ∧ comment.lastLine < line ∧
    ∀ between < line, comment.lastLine ≤ between →
      ∃ other ∈ comments, other.ownLine = true ∧ other.block = false ∧ other.lastLine = between

instance (comments : List Comment) (line : Nat) (comment : Comment) : Decidable (comment.RunsTo comments line) :=
  inferInstanceAs (Decidable (_ ∧ _ ∧ _ ∧ ∀ between < line, _ → ∃ other ∈ comments, _))

/-- The comment documents a declaration whose name stands on the given line. -/
def Comment.Documents (comments : List Comment) (line : Nat) (comment : Comment) : Prop :=
  comment.ownLine = true ∧ comment.block = true ∧ comment.lastLine + 1 = line ∨ comment.RunsTo comments line

instance (comments : List Comment) (line : Nat) (comment : Comment) : Decidable (comment.Documents comments line) :=
  inferInstanceAs (Decidable (_ ∧ _ ∧ _ ∨ _))

/-- The comments that document a declaration, in the order of the text. -/
def documenting (comments : List Comment) (line : Nat) : List Comment :=
  comments.filter fun comment => comment.Documents comments line

def Comment.lines (comment : Comment) : List (List Char) :=
  if comment.block then blockLines comment.text else [comment.text]

/-- The text that comments give together. -/
def documentation (comments : List Comment) : String :=
  String.ofList ((comments.flatMap Comment.lines).flatMap (· ++ ['\n']))

theorem mem_documenting {comments : List Comment} {line : Nat} {comment : Comment} :
    comment ∈ documenting comments line ↔ comment ∈ comments ∧ comment.Documents comments line := by
  rw [documenting, List.mem_filter, decide_eq_true_eq]

theorem ends_of_mem_documenting {comments : List Comment} {line : Nat} {comment : Comment}
    (h : comment ∈ documenting comments (line + 1)) :
    ∃ other ∈ comments, other.ownLine = true ∧ other.lastLine = line ∧ other.block = comment.block := by
  obtain ⟨hcomment, ⟨hown, hblock, hline⟩ | ⟨hown, hblock, hlt, hbetween⟩⟩ := mem_documenting.mp h
  · exact ⟨comment, hcomment, hown, Nat.succ.inj hline, rfl⟩
  · obtain ⟨other, hother, hown', hblock', hline⟩ := hbetween line (Nat.lt_succ_self line) (Nat.le_of_lt_succ hlt)
    exact ⟨other, hother, hown', hline, hblock'.trans hblock.symm⟩

theorem documentation_eq {comments : List Comment} (h : ∀ comment ∈ comments, comment.block = false) :
    documentation comments = String.ofList ((comments.map (·.text)).flatMap (· ++ ['\n'])) := by
  have hlines : comments.flatMap Comment.lines = comments.map (·.text) := by
    rw [List.map_eq_flatMap]
    refine List.flatMap_congr fun comment hcomment => ?_
    rw [Comment.lines, h comment hcomment]
    rfl
  rw [documentation, hlines]

/-! ## Comments in order -/

/-- Each comment ends below the ones before it. -/
def Descending (comments : List Comment) : Prop :=
  comments.Pairwise fun earlier comment => earlier.lastLine < comment.lastLine

theorem Descending.nodup {comments : List Comment} (h : Descending comments) : comments.Nodup := by
  refine h.imp fun hlt heq => ?_
  rw [heq] at hlt
  exact Nat.lt_irrefl _ hlt

theorem Descending.eq_of_mem_iff {comments others : List Comment} (h : Descending comments) (h' : Descending others)
    (hmem : ∀ comment, comment ∈ comments ↔ comment ∈ others) : comments = others := by
  refine ((List.perm_ext_iff_of_nodup h.nodup h'.nodup).mpr hmem).eq_of_pairwise ?_ h h'
  intro comment other _ _ hlt hgt
  exact absurd hgt (Nat.lt_asymm hlt)

/-- A comment that has its line to itself ends below the ones before it. -/
structure Stacked (comments : List Comment) : Prop where
  positive : ∀ comment ∈ comments, 0 < comment.lastLine
  below : comments.Pairwise fun earlier comment => comment.ownLine = true → earlier.lastLine < comment.lastLine

theorem SourceTree.Placed.stacked {text : List Char} {tree : SourceTree} (h : tree.Placed text) :
    Stacked tree.comments := by
  constructor
  · intro comment hcomment
    obtain ⟨before, hstands⟩ := h.stand comment hcomment
    rw [hstands.lastLine, line_textEnd]
    exact Nat.succ_pos _
  · refine h.below.imp_of_mem fun {earlier comment} _ hcomment hbelow hown => ?_
    obtain ⟨before, hstands⟩ := h.stand comment hcomment
    refine Nat.lt_of_lt_of_le (hbelow hown) ?_
    rw [hstands.firstLine, hstands.lastLine]
    exact line_le_of_isPrefix (List.prefix_append _ _)

namespace Stacked

variable {comments : List Comment}

theorem descending_filter (h : Stacked comments) {select : Comment → Bool}
    (hown : ∀ comment, select comment = true → comment.ownLine = true) : Descending (comments.filter select) := by
  refine (h.below.filter select).imp_of_mem fun {earlier comment} _ hcomment hbelow => ?_
  exact hbelow (hown comment (List.mem_filter.mp hcomment).2)

theorem eq_of_lastLine (h : Stacked comments) {comment other : Comment} (hcomment : comment ∈ comments)
    (hother : other ∈ comments) (hown : comment.ownLine = true) (hown' : other.ownLine = true)
    (hline : comment.lastLine = other.lastLine) : comment = other := by
  obtain ⟨i, hi, rfl⟩ := List.getElem_of_mem hcomment
  obtain ⟨j, hj, rfl⟩ := List.getElem_of_mem hother
  rcases Nat.lt_trichotomy i j with hlt | rfl | hlt
  · have := List.pairwise_iff_getElem.mp h.below i j hi hj hlt hown'
    omega
  · rfl
  · have := List.pairwise_iff_getElem.mp h.below j i hj hi hlt hown
    omega

theorem commentEnding?_eq_some_iff (h : Stacked comments) {line : Nat} {comment : Comment} :
    commentEnding? comments line = some comment ↔
      comment ∈ comments ∧ comment.ownLine = true ∧ comment.lastLine = line := by
  unfold commentEnding?
  have hends (other : Comment)
      (hfound : comments.find? (fun comment => comment.ownLine && comment.lastLine = line) = some other) :
      other ∈ comments ∧ other.ownLine = true ∧ other.lastLine = line := by
    have := List.find?_some hfound
    rw [Bool.and_eq_true_iff, decide_eq_true_eq] at this
    exact ⟨List.mem_of_find?_eq_some hfound, this⟩
  refine ⟨hends comment, ?_⟩
  rintro ⟨hcomment, hown, hline⟩
  cases hfound : comments.find? fun comment => comment.ownLine && comment.lastLine = line with
  | none =>
    have := List.find?_eq_none.mp hfound comment hcomment
    simp [hown, hline] at this
  | some other =>
    obtain ⟨hother, hown', hline'⟩ := hends other hfound
    rw [h.eq_of_lastLine hcomment hother hown hown' (hline.trans hline'.symm)]

theorem filter_runsTo_eq_nil {line : Nat}
    (h : ∀ other ∈ comments, other.ownLine = true → other.block = false → other.lastLine ≠ line) :
    (comments.filter fun comment => comment.RunsTo comments (line + 1)) = [] := by
  rw [List.filter_eq_nil_iff]
  intro comment _ hruns
  obtain ⟨_, _, hlt, hbetween⟩ := of_decide_eq_true hruns
  obtain ⟨other, hother, hown, hblock, hline⟩ := hbetween line (Nat.lt_succ_self line) (Nat.le_of_lt_succ hlt)
  exact h other hother hown hblock hline

theorem filter_runsTo_succ (h : Stacked comments) {comment : Comment} (hcomment : comment ∈ comments)
    (hown : comment.ownLine = true) (hblock : comment.block = false) :
    (comments.filter fun other => other.RunsTo comments (comment.lastLine + 1)) =
      (comments.filter fun other => other.RunsTo comments comment.lastLine) ++ [comment] := by
  have hselect (line : Nat) : Descending (comments.filter fun other => other.RunsTo comments line) :=
    h.descending_filter fun other hruns => (of_decide_eq_true hruns).1
  refine (hselect _).eq_of_mem_iff ?_ fun other => ?_
  · refine List.pairwise_append.mpr ⟨hselect _, List.pairwise_singleton _ _, fun other hother last hlast => ?_⟩
    rw [List.mem_singleton.mp hlast]
    exact (of_decide_eq_true (List.mem_filter.mp hother).2).2.2.1
  · simp only [List.mem_append, List.mem_filter, List.mem_singleton, decide_eq_true_eq]
    constructor
    · rintro ⟨hother, hown', hblock', hlt, hbetween⟩
      rcases Nat.lt_succ_iff_lt_or_eq.mp hlt with hlt | hline
      · exact Or.inl ⟨hother, hown', hblock', hlt, fun between hlast => hbetween between (Nat.lt_succ_of_lt hlast)⟩
      · exact Or.inr (h.eq_of_lastLine hother hcomment hown' hown hline)
    · have hself : ∃ other ∈ comments, other.ownLine = true ∧ other.block = false ∧
          other.lastLine = comment.lastLine := ⟨comment, hcomment, hown, hblock, rfl⟩
      rintro (⟨hother, hown', hblock', hlt, hbetween⟩ | rfl)
      · refine ⟨hother, hown', hblock', Nat.lt_succ_of_lt hlt, fun between hlast hfirst => ?_⟩
        rcases Nat.lt_succ_iff_lt_or_eq.mp hlast with hlast | rfl
        · exact hbetween between hlast hfirst
        · exact hself
      · refine ⟨hcomment, hown, hblock, Nat.lt_succ_self _, fun between hlast hfirst => ?_⟩
        rwa [Nat.le_antisymm (Nat.le_of_lt_succ hlast) hfirst]

theorem lineComments_eq (h : Stacked comments) (line : Nat) :
    lineComments comments line = (comments.filter fun comment => comment.RunsTo comments (line + 1)).map (·.text) := by
  induction line with
  | zero =>
    rw [filter_runsTo_eq_nil fun other hother _ _ => Nat.ne_of_gt (h.positive other hother)]
    rfl
  | succ line ih =>
    rw [lineComments]
    cases hfound : commentEnding? comments (line + 1) with
    | none =>
      rw [filter_runsTo_eq_nil]
      · rfl
      · intro other hother hown _ hline
        rw [h.commentEnding?_eq_some_iff.mpr ⟨hother, hown, hline⟩] at hfound
        cases hfound
    | some comment =>
      obtain ⟨hcomment, hown, hline⟩ := h.commentEnding?_eq_some_iff.mp hfound
      cases hblock : comment.block with
      | true =>
        rw [filter_runsTo_eq_nil]
        · simp [hblock]
        · intro other hother hown' hblock' hline'
          rw [h.eq_of_lastLine hother hcomment hown' hown (hline'.trans hline.symm), hblock] at hblock'
          cases hblock'
      | false =>
        rw [← hline, h.filter_runsTo_succ hcomment hown hblock, hline, List.map_append, ← ih]
        simp [hblock]

theorem descending_documenting (h : Stacked comments) (line : Nat) : Descending (documenting comments line) := by
  refine h.descending_filter fun comment hdocuments => ?_
  rcases of_decide_eq_true hdocuments with hblock | hruns
  · exact hblock.1
  · exact hruns.1

/-- The comments before a declaration are those that document it. -/
theorem leadingComments?_eq (h : Stacked comments) (line : Nat) :
    leadingComments? comments (line + 1) =
      if documenting comments (line + 1) = [] then none
      else some (documentation (documenting comments (line + 1))) := by
  unfold leadingComments?
  rw [Nat.add_sub_cancel]
  cases hfound : commentEnding? comments line with
  | none =>
    rw [if_pos, Option.map_none]
    refine List.eq_nil_iff_forall_not_mem.mpr fun comment hcomment => ?_
    obtain ⟨other, hother, hown, hline, _⟩ := ends_of_mem_documenting hcomment
    rw [h.commentEnding?_eq_some_iff.mpr ⟨hother, hown, hline⟩] at hfound
    cases hfound
  | some comment =>
    obtain ⟨hcomment, hown, hline⟩ := h.commentEnding?_eq_some_iff.mp hfound
    -- blocks and comments on lines do not mix
    have hkind : ∀ other ∈ documenting comments (line + 1), other.block = comment.block := by
      intro other hother
      obtain ⟨last, hlast, hown', hline', hblock⟩ := ends_of_mem_documenting hother
      rw [← hblock, h.eq_of_lastLine hlast hcomment hown' hown (hline'.trans hline.symm)]
    cases hblock : comment.block with
    | true =>
      have hone : documenting comments (line + 1) = [comment] := by
        refine (h.descending_documenting _).eq_of_mem_iff (List.pairwise_singleton _ _) fun other => ?_
        rw [List.mem_singleton]
        constructor
        · intro hother
          obtain ⟨hmem, hends | hruns⟩ := mem_documenting.mp hother
          · exact h.eq_of_lastLine hmem hcomment hends.1 hown (Nat.succ.inj (hends.2.2.trans (by rw [hline])))
          · have := hkind other hother
            rw [hruns.2.1, hblock] at this
            cases this
        · rintro rfl
          exact mem_documenting.mpr ⟨hcomment, Or.inl ⟨hown, hblock, by rw [hline]⟩⟩
      rw [hone, if_neg (by simp)]
      simp [documentation, Comment.lines, hblock]
    | false =>
      have hruns : documenting comments (line + 1) = comments.filter fun other => other.RunsTo comments (line + 1) := by
        refine List.filter_congr fun other hother => decide_eq_decide.mpr ⟨fun hdocuments => ?_, Or.inr⟩
        have := hkind other (mem_documenting.mpr ⟨hother, hdocuments⟩)
        rcases hdocuments with hends | hruns
        · rw [hends.2.1, hblock] at this
          cases this
        · exact hruns
      have hne : documenting comments (line + 1) ≠ [] := by
        rw [hruns, ← hline, h.filter_runsTo_succ hcomment hown hblock]
        simp
      have hlines : ∀ other ∈ documenting comments (line + 1), other.block = false := fun other hother =>
        (hkind other hother).trans hblock
      rw [if_neg hne, documentation_eq hlines, hruns, Option.map_some, hblock, if_neg (by simp), h.lineComments_eq]

end Stacked

/-! ## Locations -/

theorem lt_of_mem_documenting {comments : List Comment} {line : Nat} {comment : Comment}
    (h : comment ∈ documenting comments line) : comment.lastLine < line := by
  obtain ⟨_, hends | hruns⟩ := mem_documenting.mp h
  · omega
  · exact hruns.2.2.1

namespace SourceTree.Placed

variable {text : List Char} {tree : SourceTree}

theorem line_pos (h : tree.Placed text) {name : String} {line : Nat} (hname : NamedAt tree.tokens name line) :
    0 < line := by
  obtain ⟨token, htoken, _, _, rfl⟩ := hname
  obtain ⟨before, _, hstart⟩ := h.within token htoken
  rw [hstart, line_textEnd]
  exact Nat.succ_pos _

theorem not_mem_documenting_of_lt (h : tree.Placed text) {name : String} {line below : Nat}
    (hname : NamedAt tree.tokens name line) (hlt : line < below) {comment : Comment}
    (hcomment : comment ∈ documenting tree.comments line) : comment ∉ documenting tree.comments below := by
  intro hbelow
  have hlast := lt_of_mem_documenting hcomment
  obtain ⟨_, hends | ⟨_, _, _, hbetween⟩⟩ := mem_documenting.mp hbelow
  · -- a block ends right above what it documents
    obtain ⟨_, hends' | hruns⟩ := mem_documenting.mp hcomment
    · omega
    · rw [hruns.2.1] at hends
      cases hends.2.1
  · -- comments go past the name, but there is none on its line
    obtain ⟨other, hother, hown, hblock, hline⟩ := hbetween line hlt (Nat.le_of_lt hlast)
    obtain ⟨token, htoken, hkind, _, hstart⟩ := hname
    obtain ⟨before, hstands⟩ := h.stand other hother
    refine h.apart token htoken hkind other hother hblock hown ?_
    rw [← hstart, ← hline, hstands.lastLine_eq hblock]

theorem disjoint_documenting (h : tree.Placed text) {name name' : String} {line line' : Nat}
    (hname : NamedAt tree.tokens name line) (hname' : NamedAt tree.tokens name' line') (hne : line ≠ line') :
    (documenting tree.comments line).Disjoint (documenting tree.comments line') := by
  intro comment hcomment hcomment'
  rcases Nat.lt_or_gt_of_ne hne with hlt | hgt
  · exact h.not_mem_documenting_of_lt hname hlt hcomment hcomment'
  · exact h.not_mem_documenting_of_lt hname' hgt hcomment' hcomment

/-- Names on different lines share no comment. -/
theorem subperm_documenting (h : tree.Placed text) {lines : List Nat} (hlines : lines.Nodup)
    (hnamed : ∀ line ∈ lines, ∃ name, NamedAt tree.tokens name line) :
    (lines.flatMap (documenting tree.comments)).Subperm tree.comments := by
  refine List.subperm_of_subset (List.nodup_flatMap.mpr ⟨?_, ?_⟩) ?_
  · exact fun line _ => (h.stacked.descending_documenting line).nodup
  · refine hlines.imp_of_mem fun {line other} hline hother hne => ?_
    obtain ⟨name, hname⟩ := hnamed line hline
    obtain ⟨name', hname'⟩ := hnamed other hother
    exact h.disjoint_documenting hname hname' hne
  · intro comment hcomment
    obtain ⟨line, _, hcomment⟩ := List.mem_flatMap.mp hcomment
    exact (mem_documenting.mp hcomment).1

end SourceTree.Placed

end RpcClients.Proto

namespace RpcClients.Schema

def Location.line (location : Location) : Nat := (location.span.headD 0 + 1).toNat

end RpcClients.Schema

namespace RpcClients.Proto

open Schema

/-- The location is that of a declaration and has the text of the comments that document it. -/
structure SourceTree.Documented (tree : SourceTree) (location : Location) : Prop where
  named : ∃ name, NamedAt tree.tokens name location.line
  commented : documenting tree.comments location.line ≠ []
  text : location.leadingComments = documentation (documenting tree.comments location.line)

theorem SourceTree.Placed.documented {text : List Char} {tree : SourceTree} (h : tree.Placed text) {path : List Int}
    {name : String} {line : Nat} {location : Location} (hname : NamedAt tree.tokens name line)
    (hlocation : location? tree.comments path line = some location) : tree.Documented location := by
  obtain ⟨comments, hcomments, rfl⟩ := Option.map_eq_some_iff.mp hlocation
  have hline : Location.line ⟨path, [(line : Int) - 1, 0, 0], comments⟩ = line := by
    simp [Location.line]
  obtain ⟨above, rfl⟩ := Nat.exists_eq_succ_of_ne_zero (Nat.ne_of_gt (h.line_pos hname))
  rw [h.stacked.leadingComments?_eq] at hcomments
  split_ifs at hcomments with hnone
  cases hcomments
  exact ⟨⟨name, by rwa [hline]⟩, by rwa [hline], by rw [hline]⟩

theorem documented_of_mem_locations {text : List Char} {tree : SourceTree} (h : SourceTree.ofText text = .ok tree)
    {location : Location} (hlocation : location ∈ tree.services.zipIdx.flatMap (serviceLocations tree.comments)) :
    tree.Documented location := by
  have hplaced := placed_of_ofText h
  obtain ⟨⟨service, index⟩, hservice, hlocation⟩ := List.mem_flatMap.mp hlocation
  have hnames := services_placed h service (List.fst_mem_of_mem_zipIdx hservice)
  rcases List.mem_append.mp hlocation with hown | hrpc
  · exact hplaced.documented hnames.named (Option.mem_toList.mp hown)
  · obtain ⟨⟨rpc, index⟩, hrpc, hlocation⟩ := List.mem_filterMap.mp hrpc
    exact hplaced.documented (hnames.rpcs rpc (List.fst_mem_of_mem_zipIdx hrpc)) hlocation

/-- A comment is part of the documentation of declarations on one line at most, so that there are no more such
lines than comments. -/
theorem parse_documents_once_a_line {text file : String} {descriptor : FileDescriptor}
    (h : parse text file = .ok descriptor) :
    ∃ tree, SourceTree.ofText text.toList = .ok tree ∧ (∀ location ∈ descriptor.locations, tree.Documented location) ∧
      (∀ location ∈ descriptor.locations, ∀ other ∈ descriptor.locations, location.line ≠ other.line →
        (documenting tree.comments location.line).Disjoint (documenting tree.comments other.line)) ∧
      ((descriptor.locations.map (·.line)).dedup.flatMap (documenting tree.comments)).Subperm tree.comments ∧
      (descriptor.locations.map (·.line)).dedup.length ≤ tree.comments.length := by
  obtain ⟨tree, htree, hdescribed⟩ := parse_ok_iff.mp h
  obtain ⟨_, parts, _, rfl⟩ := SourceTree.described_ok_iff.mp hdescribed
  have hplaced := placed_of_ofText htree
  have hdocumented : ∀ location ∈ (tree.assembled file parts).locations, tree.Documented location :=
    fun location hlocation => documented_of_mem_locations htree hlocation
  generalize (tree.assembled file parts).locations = locations at hdocumented ⊢
  have hlines : ∀ line ∈ (locations.map (·.line)).dedup,
      (∃ name, NamedAt tree.tokens name line) ∧ documenting tree.comments line ≠ [] := by
    intro line hline
    obtain ⟨location, hlocation, rfl⟩ := List.mem_map.mp (List.mem_dedup.mp hline)
    exact ⟨(hdocumented location hlocation).named, (hdocumented location hlocation).commented⟩
  have hsubperm := hplaced.subperm_documenting (List.nodup_dedup _) fun line hline => (hlines line hline).1
  refine ⟨tree, htree, hdocumented, ?_, hsubperm, ?_⟩
  · intro location hlocation other hother hne
    obtain ⟨name, hname⟩ := (hdocumented location hlocation).named
    obtain ⟨name', hname'⟩ := (hdocumented other hother).named
    exact hplaced.disjoint_documenting hname hname' hne
  · refine Nat.le_trans ?_ hsubperm.length_le
    rw [List.length_flatMap, ← List.length_map (fun line => (documenting tree.comments line).length)]
    refine List.length_le_sum_of_one_le _ fun count hcount => ?_
    obtain ⟨line, hline, rfl⟩ := List.mem_map.mp hcount
    exact List.length_pos_iff.mpr (hlines line hline).2

def commentedService : String := "//a\nservice S\x7b\n//b\nrpc G(M)returns(M);\x7d"

theorem parse_documents_once_a_line_each : ∃ descriptor tree,
    parse commentedService "a.proto" = .ok descriptor ∧
    SourceTree.ofText commentedService.toList = .ok tree ∧
    ((descriptor.locations.map (·.line)).dedup.flatMap (documenting tree.comments)).Subperm tree.comments ∧
    (descriptor.locations.map (·.line)).dedup.length ≤ tree.comments.length := by
  have hparse : (parse commentedService "a.proto").toOption.isSome = true := by decide +kernel
  cases h : parse commentedService "a.proto" with
  | error failure =>
    rw [h] at hparse
    cases hparse
  | ok descriptor =>
    obtain ⟨tree, htree, _, _, hsubperm, hlength⟩ := parse_documents_once_a_line h
    exact ⟨descriptor, tree, rfl, htree, hsubperm, hlength⟩

theorem comment_documents_line :
    ((SourceTree.ofText "//c\nservice S\x7brpc G(M)returns(M);\x7d".toList).toOption.map (·.comments.length) = some 1) ∧
    (parse "//c\nservice S\x7brpc G(M)returns(M);\x7d").toOption.map (·.locations) =
      some [⟨[6, 0], [1, 0, 0], "c\n"⟩, ⟨[6, 0, 2, 0], [1, 0, 0], "c\n"⟩] := by
  decide +kernel

end RpcClients.Proto
