import SuffixPattern.Proofs.BranchOrder
import SuffixPattern.Proofs.CanonicalText

/-!
# SuffixPattern.Proofs.Spans

The span of a tree is the length of the longest text that its fragment matches
(`Node.hasLongest_compile`), and so it is for every branch on the way
(`Branch.hasLongest_words`). Edges that share a class have the same tail and labels of one length,
so that the span of the first of them is the span of all (`Branch.span_eq_of_mem_labels`).

`Node.spans_are_longest` says the same of the texts of fragments and branches. A text is read as one
expression only, so that equal texts have equal spans.
-/

namespace SuffixPattern

open Regex

/-- The longest text with the property has the given length. -/
def HasLongest (P : Text → Prop) (k : Nat) : Prop := ∃ w, IsLongest P w ∧ w.length = k

theorem HasLongest.unique {P : Text → Prop} {j k : Nat} (hj : HasLongest P j)
    (hk : HasLongest P k) : j = k := by
  obtain ⟨v, ⟨hv, hvmax⟩, rfl⟩ := hj
  obtain ⟨w, ⟨hw, hwmax⟩, rfl⟩ := hk
  exact Nat.le_antisymm (hwmax v hv) (hvmax w hw)

theorem Orientation.length_attach (o : Orientation) (label v : Text) :
    (o.attach label v).length = label.length + v.length := by
  cases o with
  | fromEnd => simp [attach, Nat.add_comm]
  | fromStart => simp [attach]

/-- What is said of the words of a fragment can be said of its text. -/
theorem Fragment.IsSound.hasLongest_matches {f : Fragment} (hf : f.IsSound) {k : Nat}
    (h : HasLongest (· ∈ f.words) k) :
    ∃ e, Expr.read? f.text = some e ∧ HasLongest (fun s => e.matchesFully s = true) k := by
  have hmatches : (fun s => f.expr.matchesFully s = true) = (· ∈ f.words) :=
    funext fun s => propext (Expr.matchesFully_iff_mem_words hf.isFinite s)
  refine ⟨f.expr, read?_text hf, ?_⟩
  rw [hmatches]
  exact h

/-- The span is the length of the label and of the longest text that can follow it. -/
def Edge.IsSpanned (e : Edge) : Prop :=
  ∃ k, HasLongest (· ∈ e.tail.words) k ∧ e.span = e.label.length + k

namespace Branch

variable {o : Orientation} {edges : List Edge}

theorem hasLongest_words (h : ∀ e ∈ edges, e.IsSpanned) :
    ∀ b ∈ gather edges, HasLongest (· ∈ b.words o) b.span := by
  intro b hb
  obtain ⟨e, he, hlabel, htail, hspan⟩ := exists_span_of_mem_gather b hb
  obtain ⟨k, ⟨v, ⟨hv, hmax⟩, rfl⟩, hk⟩ := h e he
  rw [htail] at hv hmax
  refine ⟨o.attach e.label v, ⟨mem_words.2 ⟨e.label, hlabel, v, hv, rfl⟩, fun w hw => ?_⟩, ?_⟩
  · obtain ⟨l, hl, u, hu, rfl⟩ := mem_words.1 hw
    have hlength := Head.length_eq_of_mem_labels hl hlabel
    have hle := hmax u hu
    rw [Orientation.length_attach, Orientation.length_attach]
    omega
  · rw [Orientation.length_attach, ← hk, hspan]

theorem hasLongest_matches (hsound : ∀ e ∈ edges, e.tail.IsSound)
    (h : ∀ e ∈ edges, e.IsSpanned) :
    ∀ b ∈ gather edges, ∃ e, Expr.read? (b.fragment o).text = some e ∧
      HasLongest (fun s => e.matchesFully s = true) b.span := by
  intro b hb
  obtain ⟨e, he, -, htail, -⟩ := exists_span_of_mem_gather b hb
  have hfragment : (b.fragment o).IsSound :=
    isSound_fragment o (labels_ne_nil_of_mem_gather b hb) (htail ▸ hsound e he)
  exact hfragment.hasLongest_matches (hasLongest_words h b hb)

/-- A class keeps the span of its first edge, which is the span of all of its edges. -/
theorem span_eq_of_mem_labels (h : ∀ e ∈ edges, e.IsSpanned) :
    ∀ b ∈ gather edges, ∀ e ∈ edges, e.label ∈ b.head.labels → e.tail = b.tail →
      e.span = b.span := by
  intro b hb e he hlabel htail
  obtain ⟨first, hfirst, hlabel', htail', hspan⟩ := exists_span_of_mem_gather b hb
  obtain ⟨j, hj, hjspan⟩ := h first hfirst
  obtain ⟨k, hk, hkspan⟩ := h e he
  rw [htail', ← htail] at hj
  rw [hkspan, ← hspan, hjspan, hj.unique hk, Head.length_eq_of_mem_labels hlabel hlabel']

/-- **The span of a node** is the length of its longest word, if the spans of its edges are
right. -/
theorem hasLongest_choose (h : ∀ e ∈ edges, e.IsSpanned) (t : Bool) :
    HasLongest (· ∈ (choose o t edges).1.words) (choose o t edges).2 := by
  by_cases hne : edges = []
  · rw [hne, choose_nil, Fragment.words_empty]
    refine ⟨[], ⟨.head _, fun w hw => ?_⟩, rfl⟩
    exact Nat.le_of_eq (congrArg List.length (List.mem_singleton.1 hw))
  · cases hsort : sort (gather edges) with
    | nil => exact absurd hsort (sort_gather_ne_nil hne)
    | cons a rest =>
      have hspan : (choose o t edges).2 = a.span := by
        rw [choose, hsort]
        rfl
      have hbranch : ∀ b ∈ sort (gather edges), HasLongest (· ∈ b.words o) b.span :=
        fun b hb => hasLongest_words h b ((sort_perm _).mem_iff.1 hb)
      have ha : a ∈ sort (gather edges) := hsort ▸ .head _
      obtain ⟨v, ⟨hv, -⟩, hlength⟩ := hbranch a ha
      rw [hspan, words_choose hne]
      refine ⟨v, ⟨List.mem_append_left _ (List.mem_flatMap.2 ⟨a, ha, hv⟩), fun w hw => ?_⟩, hlength⟩
      rcases List.mem_append.1 hw with hw | hw
      · obtain ⟨b, hb, hw⟩ := List.mem_flatMap.1 hw
        obtain ⟨u, ⟨-, hmax⟩, hu⟩ := hbranch b hb
        have hle := hmax w hw
        have hfirst := span_le_of_sort_eq_cons hsort b ((sort_perm _).mem_iff.1 hb)
        omega
      · rw [eq_nil_of_mem_mark hw]
        exact Nat.zero_le _

end Branch

theorem Forest.isSpanned_of_mem_edges {o : Orientation} {f : Forest Text} :
    ∀ e ∈ f.edges o, e.IsSpanned := by
  induction f with
  | nil => exact fun e he => absurd he List.not_mem_nil
  | cons label t below rest ihb ihr =>
    intro e he
    rcases List.mem_cons.1 he with rfl | he
    · exact ⟨_, Branch.hasLongest_choose ihb t, rfl⟩
    · exact ihr e he

namespace Node

theorem hasLongest_compile (o : Orientation) (n : Node Text) :
    HasLongest (· ∈ (n.compile o).words) (n.spanned o).2 :=
  Branch.hasLongest_choose Forest.isSpanned_of_mem_edges n.terminal

variable {o o' : Orientation} {n m : Node Text}

theorem span_eq_of_text_eq (h : (n.compile o).text = (m.compile o').text) :
    (n.spanned o).2 = (m.spanned o').2 := by
  have hexpr := Fragment.expr_eq_of_text_eq (isSound_compile n) (isSound_compile m) h
  have hn := hasLongest_compile o n
  rw [Fragment.words, hexpr] at hn
  exact hn.unique (hasLongest_compile o' m)

/-- **Spans are the lengths of longest matches**, whatever the labels and the marks of the tree are.
This is said of the fragment of any node and of every branch that there is while its edges are
gathered, however many of them have been taken in. All edges of a class have the span that the class
took from the first of them, and all fragments with one text have one span. -/
theorem spans_are_longest (o : Orientation) (n : Node Text) :
    (∃ e, Expr.read? (n.compile o).text = some e ∧
      HasLongest (fun s => e.matchesFully s = true) (n.spanned o).2) ∧
    (∀ taken, taken <+: n.children.edges o → ∀ b ∈ Branch.gather taken,
      (∃ e, Expr.read? (b.fragment o).text = some e ∧
        HasLongest (fun s => e.matchesFully s = true) b.span) ∧
      ∀ e ∈ taken, e.label ∈ b.head.labels → e.tail = b.tail → e.span = b.span) ∧
    ∀ (o' : Orientation) (m : Node Text), (n.compile o).text = (m.compile o').text →
      (n.spanned o).2 = (m.spanned o').2 := by
  refine ⟨(isSound_compile n).hasLongest_matches (hasLongest_compile o n),
    fun taken htaken b hb => ?_, fun o' m h => span_eq_of_text_eq h⟩
  have hsound : ∀ e ∈ taken, e.tail.IsSound :=
    fun e he => Forest.isSound_tail_of_mem_edges e (htaken.subset he)
  have hspan : ∀ e ∈ taken, e.IsSpanned :=
    fun e he => Forest.isSpanned_of_mem_edges e (htaken.subset he)
  exact ⟨Branch.hasLongest_matches hsound hspan b hb, Branch.span_eq_of_mem_labels hspan b hb⟩

/-- Two edges that share a class, one without a label and a long one. -/
def mergedEdges : Node Text :=
  let below := Forest.cons ['x', 'y'] true .nil .nil
  ⟨true, .cons [] true .nil (.cons ['a'] true below (.cons ['b'] true below
    (.cons ['c', 'd'] true .nil .nil)))⟩

theorem spans_are_longest_mergedEdges :
    (mergedEdges.compile .fromEnd).text = "(?:(?:yx)?[ab]|dc|)?".toList ∧
      ∃ b ∈ Branch.gather (mergedEdges.children.edges .fromEnd), b.head = .members ['a', 'b'] ∧
        ∃ e, Expr.read? "(?:yx)?[ab]".toList = some e ∧
          HasLongest (fun s => e.matchesFully s = true) 3 := by
  obtain ⟨-, hbranches, -⟩ := spans_are_longest .fromEnd mergedEdges
  obtain ⟨b, hb, hhead, htext, hspan⟩ : ∃ b ∈ Branch.gather (mergedEdges.children.edges .fromEnd),
      b.head = .members ['a', 'b'] ∧ (b.fragment .fromEnd).text = "(?:yx)?[ab]".toList ∧
        b.span = 3 := by decide
  obtain ⟨hlongest, -⟩ := hbranches _ List.prefix_rfl b hb
  rw [htext, hspan] at hlongest
  exact ⟨by decide, b, hb, hhead, hlongest⟩

end Node
end SuffixPattern
