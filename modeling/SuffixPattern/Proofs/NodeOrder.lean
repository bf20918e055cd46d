import SuffixPattern.Proofs.BranchOrder
import SuffixPattern.Proofs.MemberOrder

/-!
# SuffixPattern.Proofs.NodeOrder

The words of a node that is laid from the end come in the order of `TriedBefore`, if those behind
its edges do (`pairwise_triedBefore_choose`).

* `Edge.Covers W c e`: the edge `e` stands for the words of `W` that begin with `c`.
* `IsCover W edges`: every word of `W` that is not empty begins with one of the edges.

What a branch needs to be ordered is read off one of its edges, as the same goes on behind all of
them (`joined_of_mem_labels`); and no other branch has an edge of which this holds
(`exists_mem_labels_of_joined`).
-/

namespace SuffixPattern

open Regex

structure Edge.Covers (W : Text → Prop) (c : Char) (e : Edge) : Prop where
  label : e.label = c :: e.label.tail
  words : ∀ w, W (c :: w) ↔ ∃ v ∈ e.tail.words, w = e.label.tail ++ v.reverse
  stop : e.label.tail = [] ↔ IsStop (after W c)
  order : e.tail.words.Pairwise fun v w =>
    TriedBefore (after W c) (e.label.tail ++ v.reverse) (e.label.tail ++ w.reverse)
  span_le : ∀ w, W (c :: w) → w.length + 1 ≤ e.span
  span : ∃ w, W (c :: w) ∧ e.span = w.length + 1

structure IsCover (W : Text → Prop) (edges : List Edge) : Prop where
  covers : ∀ e ∈ edges, ∃ c, e.Covers W c
  exists_edge : ∀ c w, W (c :: w) → ∃ e ∈ edges, e.Covers W c
  spread : edges.Pairwise fun d e => startsBefore d.label e.label
  tails : ∀ d ∈ edges, ∀ e ∈ edges, ∀ c c', d.Covers W c → e.Covers W c' → Joined W c c' →
    d.tail = e.tail

theorem Edge.Covers.head?_label {W : Text → Prop} {c : Char} {e : Edge} (h : e.Covers W c) :
    e.label.head? = some c := by
  rw [h.label]
  rfl

namespace Branch

variable {W : Text → Prop} {edges : List Edge}

/-! ## Branches and characters -/

/-- Every label of a branch is the label of an edge with the tail of the branch. -/
theorem exists_covers (h : IsCover W edges) {b : Branch} (hb : b ∈ gather edges) {l : Text}
    (hl : l ∈ b.head.labels) :
    ∃ e ∈ edges, e.label = l ∧ e.tail = b.tail ∧ ∃ c, e.Covers W c := by
  obtain ⟨e, he, hlabel, htail⟩ := exists_mem_gather.1 ⟨b, hb, hl, rfl⟩
  exact ⟨e, he, hlabel, htail, h.covers e he⟩

/-- The characters of one branch are joined. -/
theorem joined_of_mem_labels (h : IsCover W edges) {b : Branch} (hb : b ∈ gather edges)
    {l m : Text} (hl : l ∈ b.head.labels) (hm : m ∈ b.head.labels) {c d : Char}
    (hc : l.head? = some c) (hd : m.head? = some d) : Joined W c d := by
  obtain ⟨e, -, rfl, htail, c', hcover⟩ := exists_covers h hb hl
  obtain ⟨e', -, rfl, htail', d', hcover'⟩ := exists_covers h hb hm
  cases hcover.head?_label.symm.trans hc
  cases hcover'.head?_label.symm.trans hd
  have hsame := Head.tail_eq_of_mem_labels hl hm
  by_cases hstop : e.label.tail = []
  · refine .inr ⟨hcover.stop.1 hstop, ?_⟩
    funext w
    rw [after, after, hcover.words, hcover'.words, htail, htail', hsame]
  · -- Only a class has two labels, and those of a class end behind their first characters.
    refine .inl ?_
    cases hhead : b.head with
    | members cs =>
      rw [hhead] at hl
      obtain ⟨a, -, ha⟩ := Head.mem_labels_members.1 hl
      exact absurd (by rw [ha]; rfl) hstop
    | word label =>
      rw [hhead] at hl hm
      have heq : e.label = e'.label :=
        (List.mem_singleton.1 hl).trans (List.mem_singleton.1 hm).symm
      rw [heq, hd] at hc
      exact (Option.some.inj hc).symm

/-- A branch has all characters that are joined with one of its own. -/
theorem exists_mem_labels_of_joined (h : IsCover W edges) {b : Branch} (hb : b ∈ gather edges)
    {l : Text} (hl : l ∈ b.head.labels) {c d : Char} (hc : l.head? = some c)
    (hjoined : Joined W c d) : ∃ m ∈ b.head.labels, m.head? = some d := by
  rcases hjoined with rfl | ⟨hstop, hafter⟩
  · exact ⟨l, hl, hc⟩
  · obtain ⟨e, he, rfl, htail, c', hcover⟩ := exists_covers h hb hl
    cases hcover.head?_label.symm.trans hc
    obtain ⟨w, hw, -⟩ := hcover.span
    have hwd : W (d :: w) := by
      have hw' : after W c w := hw
      rwa [hafter] at hw'
    obtain ⟨e', he', hcover'⟩ := h.exists_edge d w hwd
    have hlabel : e.label = [c] := by
      rw [hcover.label, hcover.stop.2 hstop]
    have hlabel' : e'.label = [d] := by
      rw [hcover'.label, hcover'.stop.2 (hafter ▸ hstop)]
    have htails := h.tails e he e' he' c d hcover hcover' (.inr ⟨hstop, hafter⟩)
    obtain ⟨b', hb', hd, htail'⟩ := exists_mem_gather.2 ⟨e', he', hlabel', htails.symm.trans htail⟩
    have hclass : b.head.IsClass := isClass_of_mem_gather b hb (hlabel ▸ hl)
    have hclass' : b'.head.IsClass := isClass_of_mem_gather b' hb' hd
    have hsame : b' = b := eq_of_same_tail h.spread hb' hb hclass' hclass htail'
    exact ⟨[d], hsame ▸ hd, rfl⟩

/-- The span of a branch is that of each of its characters. -/
theorem span_of_mem_labels (h : IsCover W edges) {b : Branch} (hb : b ∈ gather edges) {l : Text}
    (hl : l ∈ b.head.labels) {c : Char} (hc : l.head? = some c) :
    (∀ w, W (c :: w) → w.length + 1 ≤ b.span) ∧ ∃ w, W (c :: w) ∧ b.span = w.length + 1 := by
  obtain ⟨e, he, hlabel, -, hspan⟩ := exists_span_of_mem_gather b hb
  obtain ⟨d, hcover⟩ := h.covers e he
  have hafter := (joined_of_mem_labels h hb hlabel hl hcover.head?_label hc).after_eq
  have hsame : ∀ w, W (d :: w) ↔ W (c :: w) := fun w => Iff.of_eq (congrFun hafter w)
  have hle := hcover.span_le
  have hmax := hcover.span
  simp only [hsame] at hle hmax
  exact ⟨hspan ▸ hle, hspan ▸ hmax⟩

/-! ## Words of one branch -/

theorem pairwise_triedBefore_words (h : IsCover W edges) {b : Branch} (hb : b ∈ gather edges) :
    (b.words .fromEnd).Pairwise fun x y => TriedBefore W x.reverse y.reverse := by
  have hhead : ∀ l ∈ b.head.labels, ∃ c, l = c :: l.tail := by
    intro l hl
    obtain ⟨e, -, rfl, -, c, hcover⟩ := exists_covers h hb hl
    exact ⟨c, hcover.label⟩
  have hjoined : ∀ {c d : Char} {v w : Text}, c :: v ∈ b.head.labels → d :: w ∈ b.head.labels →
      Joined W c d := fun hl hm => joined_of_mem_labels h hb hl hm rfl rfl
  rw [words_fromEnd, product, List.pairwise_flatMap]
  constructor
  · intro v _
    rw [List.map_map, List.pairwise_map]
    refine b.head.pairwise_labels.imp_of_mem fun {l m} hl hm hlm => ?_
    obtain ⟨c, d, rfl, rfl, hcd⟩ := hlm
    simp only [Function.comp_apply, List.reverse_append, List.reverse_reverse]
    exact .member (hjoined hl hm) hcd
  · obtain ⟨e, he, hlabel, htail, -⟩ := exists_span_of_mem_gather b hb
    obtain ⟨a, hcover⟩ := h.covers e he
    rw [← htail]
    refine hcover.order.imp fun {v w} hvw x hx y hy => ?_
    rw [List.map_map] at hx hy
    obtain ⟨l, hl, rfl⟩ := List.mem_map.1 hx
    obtain ⟨m, hm, rfl⟩ := List.mem_map.1 hy
    obtain ⟨c, hc⟩ := hhead l hl
    obtain ⟨d, hd⟩ := hhead m hm
    have hac : Joined W a c := hjoined (hcover.label ▸ hlabel) (hc ▸ hl)
    rw [hac.after_eq, Head.tail_eq_of_mem_labels hlabel hl] at hvw
    simp only [Function.comp_apply, List.reverse_append, List.reverse_reverse]
    rw [hd, ← Head.tail_eq_of_mem_labels hl hm, hc, List.cons_append, List.cons_append]
    exact .within (hjoined (hc ▸ hl) (hd ▸ hm)) hvw

/-! ## Words of different branches -/

/-- A branch that stands before another has other characters, and they are ahead of those of the
other. -/
theorem ahead_of_outranks (h : IsCover W edges) {a b : Branch} (ha : a ∈ gather edges)
    (hb : b ∈ gather edges) (hout : Outranks Precedes a b)
    (hapart : ∀ l ∈ a.head.labels, ∀ m ∈ b.head.labels, l.head? ≠ m.head?) {l m : Text}
    (hl : l ∈ a.head.labels) (hm : m ∈ b.head.labels) {c d : Char} (hc : l.head? = some c)
    (hd : m.head? = some d) : ¬ Joined W c d ∧ Ahead W c d := by
  obtain ⟨hlec, v, hv, hmaxc⟩ := span_of_mem_labels h ha hl hc
  obtain ⟨hled, w, hw, hmaxd⟩ := span_of_mem_labels h hb hm hd
  constructor
  · intro hjoined
    obtain ⟨m', hm', hd'⟩ := exists_mem_labels_of_joined h ha hl hc hjoined
    exact hapart m' hm' m hm (hd'.trans hd.symm)
  · rcases hout with hlt | ⟨heq, hprecedes⟩
    · refine .inl ⟨v, hv, fun u hu => ?_⟩
      have hle := hled u hu
      omega
    · refine .inr ⟨?_, ?_⟩
      · rintro ⟨u, hu, hlonger⟩
        have hle := hled u hu
        have hlt := hlonger v hv
        omega
      · obtain ⟨l', hl', hfirst⟩ := hprecedes.first
        obtain ⟨c', hc', -⟩ := hfirst m hm
        refine ⟨c', joined_of_mem_labels h ha hl hl' hc hc', fun d' hjoined => ?_⟩
        obtain ⟨m', hm', hd'⟩ := exists_mem_labels_of_joined h hb hm hd hjoined
        obtain ⟨c₁, hc₁, d₁, hd₁, hbefore⟩ := hfirst m' hm'
        rw [hc'] at hc₁
        rw [hd'] at hd₁
        cases hc₁
        cases hd₁
        exact hbefore

theorem pairwise_triedBefore_branches (h : IsCover W edges) :
    ((sort (gather edges)).flatMap (words .fromEnd)).Pairwise fun x y =>
      TriedBefore W x.reverse y.reverse := by
  have hmem : ∀ {b : Branch}, b ∈ sort (gather edges) → b ∈ gather edges :=
    fun hb => (sort_perm _).mem_iff.1 hb
  have hout := pairwise_sort (pairwise_gather h.spread)
  have hapart := pairwise_apart_sort_gather h.spread
  rw [List.pairwise_flatMap]
  refine ⟨fun b hb => pairwise_triedBefore_words h (hmem hb), ?_⟩
  refine (hout.and hapart).imp_of_mem fun {a b} ha hb hab x hx y hy => ?_
  obtain ⟨l, hl, v, -, rfl⟩ := mem_words.1 hx
  obtain ⟨m, hm, w, -, rfl⟩ := mem_words.1 hy
  obtain ⟨e, -, rfl, -, c, hcover⟩ := exists_covers h (hmem ha) hl
  obtain ⟨e', -, rfl, -, d, hcover'⟩ := exists_covers h (hmem hb) hm
  obtain ⟨hjoined, hahead⟩ := ahead_of_outranks h (hmem ha) (hmem hb) hab.1 hab.2 hl hm
    hcover.head?_label hcover'.head?_label
  simp only [Orientation.attach, List.reverse_append, List.reverse_reverse]
  rw [hcover.label, hcover'.label, List.cons_append, List.cons_append]
  exact .across hjoined hahead

/-- **A node tries its words in order** if the words behind each of its edges are tried in order. -/
theorem pairwise_triedBefore_choose (h : IsCover W edges) (t : Bool) :
    (choose .fromEnd t edges).1.words.Pairwise fun x y => TriedBefore W x.reverse y.reverse := by
  by_cases hne : edges = []
  · subst hne
    rw [choose_nil, Fragment.words_empty]
    exact List.pairwise_singleton _ _
  · rw [words_choose hne, List.pairwise_append]
    refine ⟨pairwise_triedBefore_branches h, by cases t <;> simp, fun x hx y hy => ?_⟩
    obtain ⟨b, hb, hx⟩ := List.mem_flatMap.1 hx
    obtain ⟨l, hl, v, -, rfl⟩ := mem_words.1 hx
    obtain ⟨e, -, rfl, -, c, hcover⟩ := exists_covers h ((sort_perm _).mem_iff.1 hb) hl
    rw [eq_nil_of_mem_mark hy, Orientation.attach, List.reverse_append, List.reverse_reverse,
      hcover.label, List.cons_append]
    exact .longer

/-- The span of a node with edges is the length of its longest word. -/
theorem span_choose (h : IsCover W edges) (hne : edges ≠ []) (t : Bool) :
    (∀ c w, W (c :: w) → w.length + 1 ≤ (choose .fromEnd t edges).2) ∧
      ∃ c w, W (c :: w) ∧ (choose .fromEnd t edges).2 = w.length + 1 := by
  cases hsort : sort (gather edges) with
  | nil => exact absurd hsort (sort_gather_ne_nil hne)
  | cons a rest =>
    have hspan : (choose .fromEnd t edges).2 = a.span := by
      rw [choose, hsort]
      rfl
    rw [hspan]
    constructor
    · intro c w hw
      obtain ⟨e, he, hcover⟩ := h.exists_edge c w hw
      obtain ⟨b, hb, hl, -⟩ := exists_mem_gather.2 ⟨e, he, rfl, rfl⟩
      exact Nat.le_trans ((span_of_mem_labels h hb hl hcover.head?_label).1 w hw)
        (span_le_of_sort_eq_cons hsort b hb)
    · have ha : a ∈ gather edges := (sort_perm _).mem_iff.1 (hsort ▸ .head _)
      obtain ⟨e, he, hl, -⟩ := exists_span_of_mem_gather a ha
      obtain ⟨c, hcover⟩ := h.covers e he
      exact ⟨c, (span_of_mem_labels h ha hl hcover.head?_label).2⟩

end Branch
end SuffixPattern
