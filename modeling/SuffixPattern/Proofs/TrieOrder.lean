import SuffixPattern.Proofs.NodeOrder
import SuffixPattern.Proofs.TrieFragment

/-!
# SuffixPattern.Proofs.TrieOrder

Tries that are laid from the end try their members in the order of `TriedBefore`
(`isOrdered_of_isPruned`). It decides whether the longest member is captured
(`Trie.captured_fromEnd_iff`), which need not be so.

A trie is followed character by character: `Edge.above` is the edge that leads to a node from its
parent, so that the edges of a compact forest are those to its children (`mem_edges_compact_iff`).
-/

namespace SuffixPattern

open Regex

namespace Edge

/-- The edge with a character that leads to a node with the given mark and edges. An edge behind
which nothing can end or part is joined with the one edge that follows. -/
def above (o : Orientation) (c : Char) : Bool → List Edge → Edge
  | false, [e] => ⟨c :: e.label, e.tail, e.span + 1⟩
  | t, edges => ⟨[c], (Branch.choose o t edges).1, (Branch.choose o t edges).2 + 1⟩

variable {o : Orientation} {c : Char}

/-- Whether an edge is joined with the one that follows. -/
def IsThrough (t : Bool) (edges : List Edge) : Prop := t = false ∧ ∃ e, edges = [e]

theorem above_of_not_isThrough {t : Bool} {edges : List Edge} (h : ¬ IsThrough t edges) :
    above o c t edges =
      ⟨[c], (Branch.choose o t edges).1, (Branch.choose o t edges).2 + 1⟩ := by
  unfold above
  split
  · exact absurd ⟨rfl, _, rfl⟩ h
  · rfl

theorem above_cons (t : Bool) (edges : List Edge) :
    (above o c t edges).label = c :: (above o c t edges).label.tail := by
  unfold above
  split <;> rfl

/-- Only the label depends on the character. -/
theorem tail_above (c d : Char) (t : Bool) (edges : List Edge) :
    (above o c t edges).tail = (above o d t edges).tail := by
  unfold above
  split <;> rfl

end Edge

namespace Branch

theorem gather_singleton (e : Edge) : gather [e] = [⟨Head.ofLabel e.label, e.tail, e.span⟩] := by
  have hconcat : gather [e] = add [] e := gather_concat [] e
  rcases add_cases [] e with ⟨before, cs, span, after, c, -, hbs, -⟩ | ⟨-, hadd⟩
  · exact absurd hbs (by simp)
  · rw [hconcat, hadd]
    rfl

/-- A node with one edge passes on what its edge matches. -/
theorem choose_singleton (e : Edge) :
    (choose .fromEnd false [e]).1.words = e.tail.words.map (· ++ e.label.reverse) ∧
      (choose .fromEnd false [e]).2 = e.span := by
  constructor
  · have hsort : sort (gather [e]) = [⟨Head.ofLabel e.label, e.tail, e.span⟩] := by
      rw [gather_singleton]
      rfl
    rw [words_choose (List.cons_ne_nil _ _), if_neg Bool.false_ne_true, List.append_nil, hsort,
      List.flatMap_singleton, words_fromEnd, Head.labels_ofLabel]
    exact List.map_eq_flatMap.symm
  · rw [choose, gather_singleton]
    rfl

end Branch

namespace Edge

variable {c : Char} {t : Bool} {edges : List Edge}

/-- What follows the first character of an edge is what the node below matches. -/
theorem words_above :
    (Branch.choose .fromEnd t edges).1.words =
      (above .fromEnd c t edges).tail.words.map
        (· ++ (above .fromEnd c t edges).label.tail.reverse) := by
  by_cases h : IsThrough t edges
  · obtain ⟨rfl, e, rfl⟩ := h
    exact (Branch.choose_singleton e).1
  · rw [above_of_not_isThrough h]
    simp

theorem span_above :
    (above .fromEnd c t edges).span = (Branch.choose .fromEnd t edges).2 + 1 := by
  by_cases h : IsThrough t edges
  · obtain ⟨rfl, e, rfl⟩ := h
    rw [(Branch.choose_singleton e).2]
    rfl
  · rw [above_of_not_isThrough h]

end Edge

/-! ## Edges of a compact forest -/

namespace Forest

variable {o : Orientation}

theorem edges_compact_cons (c : Char) (t : Bool) (below rest : Forest Char) :
    (cons c t below rest).compact.edges o =
      Edge.above o c t (below.compact.edges o) :: rest.compact.edges o := by
  rcases compact_cons_cases c t below rest with ⟨label, t', below', rfl, hbelow, h⟩ | ⟨hkeep, h⟩
  · rw [h, hbelow, edges, edges, edges, Edge.above]
    simp only [List.length_cons, Nat.add_right_comm]
  · have hthrough : ¬ Edge.IsThrough t (below.compact.edges o) := by
      rintro ⟨rfl, e, he⟩
      cases hb : below.compact with
      | nil =>
        rw [hb] at he
        cases he
      | cons label t' below' rest' =>
        rw [hb, edges, List.cons.injEq, edges_eq_nil_iff] at he
        rw [he.2] at hb
        exact hkeep rfl label t' below' hb
    rw [h, edges, Edge.above_of_not_isThrough hthrough]
    simp only [List.length_singleton, Nat.add_comm]

/-- The edges of a compact forest lead to the children of the forest. -/
theorem mem_edges_compact_iff {f : Forest Char} (hf : f.IsSorted) {e : Edge} :
    e ∈ f.compact.edges o ↔ ∃ c n, f.child? c = some n ∧
      e = Edge.above o c n.terminal (n.children.compact.edges o) := by
  induction f with
  | nil => simp [compact, edges, child?]
  | cons k t below rest _ ih =>
    obtain ⟨hk, -, hrest⟩ := hf
    rw [edges_compact_cons, List.mem_cons, ih hrest]
    constructor
    · rintro (rfl | ⟨c, n, hn, rfl⟩)
      · exact ⟨k, ⟨t, below⟩, if_pos rfl, rfl⟩
      · exact ⟨c, n, (child?_rest_of_mem_keys hk (mem_keys_of_child? hn)).trans hn, rfl⟩
    · rintro ⟨c, n, hn, rfl⟩
      rw [child?] at hn
      split at hn
      · rename_i heq
        cases hn
        exact .inl (heq ▸ rfl)
      · exact .inr ⟨c, n, hn, rfl⟩

/-- An unmarked node with one edge is a node with one child. -/
theorem isThrough_iff {n : Node Char} :
    Edge.IsThrough n.terminal (n.children.compact.edges o) ↔
      n.terminal = false ∧ ∃ k t below, n.children = .cons k t below .nil := by
  refine and_congr_right fun _ => ?_
  cases n.children with
  | nil => simp [compact, edges]
  | cons k t below rest =>
    rw [edges_compact_cons]
    simp only [List.cons.injEq, edges_eq_nil_iff, compact_eq_nil_iff, cons.injEq, exists_eq_left',
      exists_and_left]

end Forest

/-! ## Words of a tree -/

namespace Node

/-- What holds of every node below the root of a trie that is built by insertion. -/
structure IsPruned (n : Node Char) : Prop where
  sorted : n.children.IsSorted
  pruned : n.children.IsPruned
  marked : n.children = .nil → n.terminal = true

/-- The words of a node are as a set. -/
def language (n : Node Char) : Text → Prop := fun w => w ∈ n.words

variable {n : Node Char}

theorem IsPruned.child (h : n.IsPruned) {c : Char} {m : Node Char}
    (hm : n.children.child? c = some m) : m.IsPruned := by
  obtain ⟨hsorted, hpruned, hmarked⟩ := Forest.child?_invariants h.sorted h.pruned hm
  exact ⟨hsorted, hpruned, hmarked⟩

theorem language_cons (h : n.IsPruned) {c : Char} {w : Text} :
    n.language (c :: w) ↔ ∃ m, n.children.child? c = some m ∧ m.language w :=
  Forest.cons_mem_node_words.trans (Forest.cons_mem_words_iff h.sorted)

theorem after_language (h : n.IsPruned) {c : Char} {m : Node Char}
    (hm : n.children.child? c = some m) : after n.language c = m.language := by
  funext w
  rw [after, eq_iff_iff, language_cons h, hm]
  simp

theorem eq_of_language_eq {m : Node Char} (hm : m.IsPruned) (hn : n.IsPruned)
    (h : m.language = n.language) : m = n :=
  Forest.node_eq_of_same_words hm.sorted hm.pruned hn.sorted hn.pruned
    fun w => Iff.of_eq (congrFun h w)

/-- A node with one edge is where no word ends and no two words part. -/
theorem isStop_language_iff (h : n.IsPruned) :
    IsStop n.language ↔ ¬ Edge.IsThrough n.terminal (n.children.compact.edges .fromEnd) := by
  rw [Forest.isThrough_iff]
  constructor
  · rintro (hnil | ⟨c, d, hcd, ⟨v, hv⟩, w, hw⟩) ⟨hterminal, k, t, below, hchildren⟩
    · rw [Forest.nil_mem_words_iff.1 hnil] at hterminal
      cases hterminal
    · have hkey : ∀ {a : Char} {u : Text}, n.language (a :: u) → a = k := by
        intro a u hu
        have hmem := Forest.mem_keys_of_cons_mem_words (Forest.cons_mem_node_words.1 hu)
        rw [hchildren] at hmem
        exact List.mem_singleton.1 hmem
      exact hcd ((hkey hv).trans (hkey hw).symm)
  · intro hthrough
    cases hterminal : n.terminal with
    | true => exact .inl (Forest.nil_mem_words_iff.2 hterminal)
    | false =>
      cases hchildren : n.children with
      | nil =>
        rw [h.marked hchildren] at hterminal
        cases hterminal
      | cons k t below rest =>
        cases rest with
        | nil => exact absurd ⟨hterminal, k, t, below, hchildren⟩ hthrough
        | cons k' t' below' rest' =>
          have hsorted := h.sorted
          rw [hchildren] at hsorted
          have hword : ∀ a ∈ n.children.keys, ∃ v, n.language (a :: v) := by
            intro a ha
            obtain ⟨v, hv⟩ := Forest.exists_word_of_mem_keys h.pruned ha
            exact ⟨v, Forest.cons_mem_node_words.2 hv⟩
          rw [hchildren] at hword
          exact .inr ⟨k, k', Ranked.ne_of_before (hsorted.1 k' (.head _)), hword k (.head _),
            hword k' (.tail _ (.head _))⟩

/-- A pruned tree matches its words, in the reading direction. -/
theorem mem_words_compile_compact (h : n.IsPruned) {o : Orientation} {w : Text} :
    w ∈ (n.compact.compile o).words ↔ ∃ v, n.language v ∧ w = o.readingOrder v := by
  have hnil : o.readingOrder [] = [] := by cases o <;> rfl
  have hstops : n.compact.children.stops.map List.flatten = n.children.words := by
    rw [compact, Forest.stops_eq_words (Forest.isPruned_compact h.pruned),
      Forest.flatten_words_compact]
  have hmark : n.compact.terminal = true ∨ n.compact.children = .nil ↔ n.terminal = true := by
    rw [compact, Forest.compact_eq_nil_iff, or_iff_left_of_imp h.marked]
  have hwords : ∀ v, n.language v ↔ v ∈ n.children.words ∨ v = [] ∧ n.terminal = true := by
    intro v
    rw [language, words, List.mem_append, or_comm]
    refine or_congr_right ?_
    cases n.terminal <;> simp
  rw [mem_words_compile, hmark]
  simp only [hwords, ← hstops, List.mem_map]
  constructor
  · rintro (⟨p, hp, rfl⟩ | ⟨rfl, ht⟩)
    · exact ⟨p.flatten, .inl ⟨p, hp, rfl⟩, rfl⟩
    · exact ⟨[], .inr ⟨rfl, ht⟩, hnil.symm⟩
  · rintro ⟨v, ⟨p, hp, rfl⟩ | ⟨rfl, ht⟩, rfl⟩
    · exact .inl ⟨p, hp, rfl⟩
    · exact .inr ⟨hnil, ht⟩

theorem language_iff (h : n.IsPruned) {w : Text} :
    n.language w ↔ w.reverse ∈ (n.compact.compile .fromEnd).words := by
  rw [mem_words_compile_compact h]
  simp [Orientation.readingOrder]

/-! ## The order of the words -/

/-- The words are tried in order, and the span is the length of the longest. -/
structure IsOrdered (n : Node Char) : Prop where
  order : (n.compact.compile .fromEnd).words.Pairwise fun x y =>
    TriedBefore n.language x.reverse y.reverse
  span_le : ∀ w, n.language w → w.length ≤ (n.compact.spanned .fromEnd).2
  span : ∃ w, n.language w ∧ (n.compact.spanned .fromEnd).2 = w.length

/-- The edge to a child stands for the words of the child. -/
theorem covers_above (h : n.IsPruned) {c : Char} {m : Node Char}
    (hm : n.children.child? c = some m) (hordered : m.IsOrdered) :
    (Edge.above .fromEnd c m.terminal (m.children.compact.edges .fromEnd)).Covers n.language c := by
  have hafter := after_language h hm
  have hlanguage : ∀ w, n.language (c :: w) ↔ m.language w :=
    fun w => Iff.of_eq (congrFun hafter w)
  have hwords : (m.compact.compile .fromEnd).words =
      (Edge.above .fromEnd c m.terminal (m.children.compact.edges .fromEnd)).tail.words.map
        (· ++ (Edge.above .fromEnd c m.terminal
          (m.children.compact.edges .fromEnd)).label.tail.reverse) := Edge.words_above
  have hspan : (Edge.above .fromEnd c m.terminal (m.children.compact.edges .fromEnd)).span =
      (m.compact.spanned .fromEnd).2 + 1 := Edge.span_above
  refine ⟨Edge.above_cons _ _, fun w => ?_, ?_, ?_, fun w hw => ?_, ?_⟩
  · rw [hlanguage, language_iff (h.child hm), hwords, List.mem_map]
    refine exists_congr fun v => and_congr_right fun _ => ?_
    rw [← List.reverse_inj, List.reverse_reverse, List.reverse_append, List.reverse_reverse,
      eq_comm]
  · rw [hafter, isStop_language_iff (h.child hm)]
    by_cases hthrough : Edge.IsThrough m.terminal (m.children.compact.edges .fromEnd)
    · refine iff_of_false ?_ (not_not_intro hthrough)
      obtain ⟨ht, e, he⟩ := hthrough
      have hlabel := Forest.label_ne_nil_of_mem_edges (o := .fromEnd)
        (Forest.isSpread_compact (h.child hm).sorted) e (he ▸ .head _)
      rw [ht, he]
      exact hlabel
    · rw [Edge.above_of_not_isThrough hthrough]
      exact iff_of_true rfl hthrough
  · have horder := hordered.order
    rw [hwords, List.pairwise_map] at horder
    rw [hafter]
    refine horder.imp fun hvw => ?_
    simpa only [List.reverse_append, List.reverse_reverse] using hvw
  · rw [hspan]
    exact Nat.succ_le_succ (hordered.span_le w ((hlanguage w).1 hw))
  · obtain ⟨w, hw, hlength⟩ := hordered.span
    exact ⟨w, (hlanguage w).2 hw, by rw [hspan, hlength]⟩

theorem isCover_edges (h : n.IsPruned)
    (hchildren : ∀ c m, n.children.child? c = some m → m.IsOrdered) :
    IsCover n.language (n.children.compact.edges .fromEnd) := by
  have hedges := fun e => Forest.mem_edges_compact_iff (o := .fromEnd) h.sorted (e := e)
  have hspread := Forest.isSpread_compact h.sorted
  refine ⟨fun e he => ?_, fun c w hw => ?_, Forest.pairwise_edges hspread,
    fun d hd e he c c' hcover hcover' hjoined => ?_⟩
  · obtain ⟨c, m, hm, rfl⟩ := (hedges e).1 he
    exact ⟨c, covers_above h hm (hchildren c m hm)⟩
  · obtain ⟨m, hm, -⟩ := (language_cons h).1 hw
    exact ⟨_, (hedges _).2 ⟨c, m, hm, rfl⟩, covers_above h hm (hchildren c m hm)⟩
  · -- Children with the same words are the same.
    obtain ⟨a, m, hm, rfl⟩ := (hedges d).1 hd
    obtain ⟨a', m', hm', rfl⟩ := (hedges e).1 he
    cases (covers_above h hm (hchildren a m hm)).head?_label.symm.trans hcover.head?_label
    cases (covers_above h hm' (hchildren a' m' hm')).head?_label.symm.trans hcover'.head?_label
    have hlanguage : m.language = m'.language := by
      rw [← after_language h hm, ← after_language h hm', hjoined.after_eq]
    cases eq_of_language_eq (h.child hm) (h.child hm') hlanguage
    exact Edge.tail_above _ _ _ _

/-- A node is ordered if its children are. -/
theorem isOrdered_of_children (h : n.IsPruned)
    (hchildren : ∀ c m, n.children.child? c = some m → m.IsOrdered) : n.IsOrdered := by
  have hcover := isCover_edges h hchildren
  have horder := Branch.pairwise_triedBefore_choose hcover n.terminal
  have hspanned : (n.compact.spanned .fromEnd).2 =
      (Branch.choose .fromEnd n.terminal (n.children.compact.edges .fromEnd)).2 := rfl
  by_cases hnil : n.children = .nil
  · have hedges : n.children.compact.edges .fromEnd = [] :=
      Forest.edges_eq_nil_iff.2 (Forest.compact_eq_nil_iff.2 hnil)
    have hempty : ∀ w, n.language w → w = [] := by
      intro w hw
      cases w with
      | nil => rfl
      | cons c w =>
        have hmem := Forest.cons_mem_node_words.1 hw
        rw [hnil] at hmem
        cases hmem
    rw [hedges, Branch.choose_nil] at hspanned
    refine ⟨horder, fun w hw => ?_, [], Forest.nil_mem_words_iff.2 (h.marked hnil), hspanned⟩
    rw [hempty w hw]
    exact Nat.zero_le _
  · have hedges : n.children.compact.edges .fromEnd ≠ [] :=
      fun hedges => hnil (Forest.compact_eq_nil_iff.1 (Forest.edges_eq_nil_iff.1 hedges))
    obtain ⟨hle, c, w, hw, hmax⟩ := Branch.span_choose hcover hedges n.terminal
    refine ⟨horder, fun w hw => ?_, c :: w, hw, hmax⟩
    cases w with
    | nil => exact Nat.zero_le _
    | cons c w => exact hle c w hw

theorem isOrdered_child {f : Forest Char} (hsorted : f.IsSorted) (hpruned : f.IsPruned) {c : Char}
    {m : Node Char} (hm : f.child? c = some m) : m.IsOrdered := by
  induction f generalizing c m with
  | nil => cases hm
  | cons k t below rest ihb ihr =>
    rw [Forest.child?] at hm
    split at hm
    · cases hm
      exact isOrdered_of_children ⟨hsorted.2.1, hpruned.2.1, hpruned.1⟩
        fun c m hm => ihb hsorted.2.1 hpruned.2.1 hm
    · exact ihr hsorted.2.2 hpruned.2.2 hm

/-- **A trie that is laid from the end tries its words in order.** -/
theorem isOrdered_of_isPruned (h : n.IsPruned) : n.IsOrdered :=
  isOrdered_of_children h fun _ _ hm => isOrdered_child h.sorted h.pruned hm

end Node

/-! ## Tries -/

namespace Trie

variable {suffixes : List Text}

theorem isPruned_root {o : Orientation} (hmember : ∃ s ∈ suffixes, s ≠ []) :
    (ofList o suffixes).root.IsPruned := by
  have hbuilt := isBuilt_ofList o suffixes
  refine ⟨hbuilt.sorted, hbuilt.pruned, fun hnil => ?_⟩
  obtain ⟨s, hs, hne⟩ := hmember
  exact absurd (children_ofList_eq_nil_iff.1 hnil s hs) hne

theorem language_root (hnonempty : ∀ s ∈ suffixes, s ≠ []) :
    (ofList .fromEnd suffixes).root.language = fun w => w.reverse ∈ suffixes := by
  have hunmarked := (isBuilt_ofList .fromEnd suffixes).unmarked
  funext w
  rw [Node.language, Node.words, hunmarked, if_neg Bool.false_ne_true, List.nil_append,
    mem_words_ofList, eq_iff_iff]
  constructor
  · rintro ⟨s, hs, -, rfl⟩
    rw [Orientation.trieOrder, List.reverse_reverse]
    exact hs
  · intro hw
    exact ⟨w.reverse, hw, hnonempty _ hw, (List.reverse_reverse w).symm⟩

theorem mem_words_fragment_fromEnd (hne : suffixes ≠ []) (hnonempty : ∀ s ∈ suffixes, s ≠ [])
    {w : Text} : w ∈ (ofList .fromEnd suffixes).compact.fragment.words ↔ w ∈ suffixes := by
  obtain ⟨s, hs⟩ := List.exists_mem_of_ne_nil _ hne
  rw [mem_words_fragment ⟨s, hs, hnonempty s hs⟩]
  exact and_iff_left_of_imp (hnonempty w)

/-- The words of the fragment are the members in the order in which they are tried. -/
theorem pairwise_triedBefore_fragment (hne : suffixes ≠ []) (hnonempty : ∀ s ∈ suffixes, s ≠ []) :
    (ofList .fromEnd suffixes).compact.fragment.words.Pairwise fun x y =>
      TriedBefore (fun w => w.reverse ∈ suffixes) x.reverse y.reverse := by
  obtain ⟨s, hs⟩ := List.exists_mem_of_ne_nil _ hne
  have hroot := isPruned_root (o := .fromEnd) ⟨s, hs, hnonempty s hs⟩
  have horder := (Node.isOrdered_of_isPruned hroot).order
  have horient : (ofList .fromEnd suffixes).compact.orientation = .fromEnd :=
    orientation_ofList .fromEnd suffixes
  rw [language_root hnonempty] at horder
  rw [CompactTrie.fragment, horient]
  exact horder

/-- **What tries that are laid from the end capture.** A match fails only where no member begins the
text. What is captured is the member that is tried before all others that begin the text; so the
longest one is captured at every text if and only if each member is tried before those that begin
it. -/
theorem captured_fromEnd_iff (hne : suffixes ≠ []) (hnonempty : ∀ s ∈ suffixes, s ≠ []) :
    ∃ e, Expr.read? (ofList .fromEnd suffixes).compact.compile = some e ∧
      (∀ t, e.captured? .empty t = none ↔ ∀ s ∈ suffixes, ¬ s <+: t) ∧
      (∀ t v, e.captured? .empty t = some v ↔
        (v ∈ suffixes ∧ v <+: t) ∧ ∀ u ∈ suffixes, u <+: t → u ≠ v →
          TriedBefore (fun w => w.reverse ∈ suffixes) v.reverse u.reverse) ∧
      ((∀ t v, IsLongest (fun s => s ∈ suffixes ∧ s <+: t) v → e.captured? .empty t = some v) ↔
        ∀ v ∈ suffixes, ∀ u ∈ suffixes, u <+: v → u ≠ v →
          TriedBefore (fun w => w.reverse ∈ suffixes) v.reverse u.reverse) := by
  have hsound := isSound_fragment (ofList .fromEnd suffixes)
  have hmem := fun w => mem_words_fragment_fromEnd hne hnonempty (w := w)
  have horder := pairwise_triedBefore_fragment hne hnonempty
  let e := (ofList .fromEnd suffixes).compact.fragment.expr
  have hnone : ∀ t, e.captured? .empty t = none ↔ ∀ s ∈ suffixes, ¬ s <+: t := by
    intro t
    rw [Expr.captured?_empty_eq_none_iff hsound.isFinite]
    exact forall_congr' fun w => imp_congr_left (hmem w)
  have hcaptured : ∀ t v, e.captured? .empty t = some v ↔
      (v ∈ suffixes ∧ v <+: t) ∧ ∀ u ∈ suffixes, u <+: t → u ≠ v →
        TriedBefore (fun w => w.reverse ∈ suffixes) v.reverse u.reverse := by
    intro t v
    have hhead := head?_eq_some_iff_of_pairwise (horder.filter fun w => decide (w <+: t))
      (fun a b h => h.asymm) (v := v)
    simp only [List.mem_filter, hmem, decide_eq_true_eq, and_imp] at hhead
    rw [Expr.captured?_empty hsound.isFinite, Expr.tried_eq hsound.isFinite]
    exact hhead
  refine ⟨e, Fragment.read?_text hsound, hnone, hcaptured, ?_⟩
  constructor
  · -- A member is the longest one at the text that it is itself.
    intro hlongest v hv u hu huv
    have hself : IsLongest (fun s => s ∈ suffixes ∧ s <+: v) v :=
      ⟨⟨hv, List.prefix_refl v⟩, fun s hs => hs.2.length_le⟩
    exact ((hcaptured v v).1 (hlongest v v hself)).2 u hu huv
  · rintro hbefore t v ⟨⟨hv, hvt⟩, hlongest⟩
    refine (hcaptured t v).2 ⟨⟨hv, hvt⟩, fun u hu hut => hbefore v hv u hu ?_⟩
    exact List.prefix_of_prefix_length_le hut hvt (hlongest u ⟨hu, hut⟩)

/-- Of two members the longer one is tried first if no other word ends like the shorter one. -/
theorem captured_fromEnd_iff_com :
    ["co".toList, "com".toList] ≠ [] ∧ (∀ s ∈ ["co".toList, "com".toList], s ≠ []) ∧
      ∃ e, Expr.read? (ofList .fromEnd ["co".toList, "com".toList]).compact.compile = some e ∧
        e.captured? .empty "comb".toList = some "com".toList := by
  have hnonempty : ∀ s ∈ ["co".toList, "com".toList], s ≠ [] := by decide
  obtain ⟨e, hread, -, hcaptured, -⟩ := captured_fromEnd_iff (List.cons_ne_nil _ _) hnonempty
  refine ⟨List.cons_ne_nil _ _, hnonempty, e, hread, ?_⟩
  refine (hcaptured _ _).2 ⟨⟨by decide, by decide⟩, fun u hu _ hne => ?_⟩
  have hco : u = "co".toList := by
    revert hne
    revert u
    decide
  subst hco
  refine .across ?_ (.inl ⟨"oc".toList, by decide, fun w hw => ?_⟩)
  · rintro (hmo | ⟨-, hafter⟩)
    · exact absurd hmo (by decide)
    · have hc := congrFun hafter "c".toList
      simp only [after, eq_iff_iff] at hc
      exact absurd (hc.2 (by decide)) (by decide)
  · have hco : "co".toList.reverse = ['o', 'c'] := rfl
    have hcom : "com".toList.reverse = ['m', 'o', 'c'] := rfl
    rcases List.mem_cons.1 hw with hw | hw
    · have hword : 'o' :: w = "co".toList.reverse := List.reverse_eq_iff.1 hw
      rw [hco] at hword
      cases hword
      decide
    · have hword : 'o' :: w = "com".toList.reverse :=
        List.reverse_eq_iff.1 (List.mem_singleton.1 hw)
      rw [hcom] at hword
      cases hword

/-- The longest member need not be captured: a branch with a long word can hold a short one as
well. -/
theorem captured_fromEnd_not_longest :
    ∃ e, Expr.read? (ofList .fromEnd ["a".toList, "ab".toList, "xa".toList]).compact.compile =
        some e ∧
      e.captured? .empty "ab".toList = some "a".toList ∧
      ¬ IsLongest (fun s => s ∈ ["a".toList, "ab".toList, "xa".toList] ∧ s <+: "ab".toList)
        "a".toList := by
  refine ⟨_, Fragment.read?_text (isSound_fragment _), by decide, fun hlongest => ?_⟩
  have hlength := hlongest.2 "ab".toList (by decide)
  revert hlength
  decide

end Trie
end SuffixPattern
