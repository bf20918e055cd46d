import SuffixPattern.Proofs.CanonicalText
import SuffixPattern.Proofs.Spans
import SuffixPattern.Proofs.SpelledLabels
import SuffixPattern.Proofs.TrieOrder

/-!
# SuffixPattern.Proofs.NodeBranches

The branches of every node of a trie, told from the words below its edges (`branches_of_node`).
Edges of one character are joined by their compiled subtrees. In a trie subtrees with the same words
are the same, and a fragment is read back from its text; so the fragments below two edges are the
same, in form or in text, just where the words are (`same_fragment_iff`, `same_text_iff`).

* `Node.HasBranch`: a class for each set of words below edges of one character, with all characters
  that lead to this set, and a text for each longer edge.
-/

namespace SuffixPattern

open Regex

/-! ## Edges -/

namespace Forest

variable {o : Orientation}

/-- The compiled edges of a forest. -/
theorem mem_edges_iff {f : Forest Text} {e : Edge} :
    e ∈ f.edges o ↔ ∃ l x, f.HasEdge l x ∧
      e = ⟨l, x.compile o, l.length + (x.spanned o).2⟩ := by
  induction f with
  | nil =>
    refine iff_of_false List.not_mem_nil ?_
    rintro ⟨l, x, hedge, -⟩
    cases hedge
  | cons label t below rest _ ih =>
    simp only [edges, List.mem_cons, ih, hasEdge_cons_iff]
    constructor
    · rintro (rfl | ⟨l, x, hedge, rfl⟩)
      · exact ⟨label, ⟨t, below⟩, .inl ⟨rfl, rfl⟩, rfl⟩
      · exact ⟨l, x, .inr hedge, rfl⟩
    · rintro ⟨l, x, ⟨rfl, rfl⟩ | hedge, rfl⟩
      · exact .inl rfl
      · exact .inr ⟨l, x, hedge, rfl⟩

end Forest

/-! ## Nodes of a trie -/

namespace Forest

variable {f : Forest Char}

theorem isPruned_of_hasEdge (hsorted : f.IsSorted) (hpruned : f.IsPruned) {c : Char}
    {n : Node Char} (h : f.HasEdge c n) : n.IsPruned := by
  induction h with
  | first => exact ⟨hsorted.2.1, hpruned.2.1, hpruned.1⟩
  | later _ ih => exact ih hsorted.2.2 hpruned.2.2

end Forest

namespace Node

theorem IsPruned.of_leads {n m : Node Char} {p : Text} (h : n.IsPruned) (hp : n.Leads p m) :
    m.IsPruned := by
  induction hp with
  | here => exact h
  | down hedge _ ih => exact ih (Forest.isPruned_of_hasEdge h.sorted h.pruned hedge)

/-- Every node of a trie is sorted and pruned as its root is. -/
theorem Leads.isSorted_and_isPruned {n m : Node Char} {p : Text} (h : n.Leads p m)
    (hsorted : n.children.IsSorted) (hpruned : n.children.IsPruned) :
    m.children.IsSorted ∧ m.children.IsPruned := by
  cases h with
  | here => exact ⟨hsorted, hpruned⟩
  | down hedge hrest =>
    have hm := (Forest.isPruned_of_hasEdge hsorted hpruned hedge).of_leads hrest
    exact ⟨hm.sorted, hm.pruned⟩

/-- What an edge of a compact trie leads to is a compact trie again, and not without a word. -/
theorem exists_isPruned_of_hasEdge {n : Node Char} (hsorted : n.children.IsSorted)
    (hpruned : n.children.IsPruned) {l : Text} {x : Node Text}
    (h : n.compact.children.HasEdge l x) : ∃ m : Node Char, m.IsPruned ∧ m.compact = x := by
  obtain ⟨c, w, child, m, rfl, hedge, hleads, hm⟩ := Forest.exists_leads_of_hasEdge_compact h
  exact ⟨m, (Forest.isPruned_of_hasEdge hsorted hpruned hedge).of_leads hleads, hm⟩

/-! ## Fragments and words -/

variable {n m : Node Char} {o : Orientation}

theorem mem_strings_compact {w : Text} : w ∈ CompactTrie.strings n.compact ↔ n.language w := by
  rw [CompactTrie.strings, flatten_words_compact, SortedSet.mem_ofList]
  rfl

theorem IsPruned.eq_of_strings_eq (hn : n.IsPruned) (hm : m.IsPruned)
    (h : CompactTrie.strings n.compact = CompactTrie.strings m.compact) : n = m := by
  refine eq_of_language_eq hn hm (funext fun w => ?_)
  rw [eq_iff_iff, ← mem_strings_compact, h, mem_strings_compact]

theorem IsPruned.strings_eq_of_words_eq (hn : n.IsPruned) (hm : m.IsPruned)
    (h : (n.compact.compile o).words = (m.compact.compile o).words) :
    CompactTrie.strings n.compact = CompactTrie.strings m.compact := by
  have hwords : ∀ {k : Node Char}, k.IsPruned → ∀ w, k.language w ↔
      o.readingOrder w ∈ (k.compact.compile o).words := by
    intro k hk w
    rw [mem_words_compile_compact hk]
    constructor
    · exact fun hw => ⟨w, hw, rfl⟩
    · rintro ⟨v, hv, heq⟩
      rw [← o.trieOrder_readingOrder w, heq, o.trieOrder_readingOrder]
      exact hv
  refine SortedSet.ext fun w => ?_
  rw [mem_strings_compact, mem_strings_compact, hwords hn, hwords hm, h]

theorem IsPruned.same_fragment_iff (hn : n.IsPruned) (hm : m.IsPruned) :
    n.compact.compile o = m.compact.compile o ↔
      CompactTrie.strings n.compact = CompactTrie.strings m.compact := by
  constructor
  · exact fun h => hn.strings_eq_of_words_eq hm (congrArg Fragment.words h)
  · intro h
    rw [hn.eq_of_strings_eq hm h]

theorem IsPruned.same_text_iff (hn : n.IsPruned) (hm : m.IsPruned) :
    (n.compact.compile o).text = (m.compact.compile o).text ↔
      CompactTrie.strings n.compact = CompactTrie.strings m.compact := by
  constructor
  · intro h
    have hexpr := Fragment.expr_eq_of_text_eq (isSound_compile _) (isSound_compile _) h
    exact hn.strings_eq_of_words_eq hm (congrArg Expr.words hexpr)
  · intro h
    rw [hn.eq_of_strings_eq hm h]

theorem IsPruned.hasLongest_strings (hn : n.IsPruned) (o : Orientation) :
    HasLongest (· ∈ CompactTrie.strings n.compact) (n.compact.spanned o).2 := by
  have hlength : ∀ w, (o.readingOrder w).length = w.length := by
    intro w
    cases o with
    | fromEnd => exact List.length_reverse
    | fromStart => rfl
  obtain ⟨w, ⟨hw, hmax⟩, hspan⟩ := hasLongest_compile o n.compact
  obtain ⟨v, hv, rfl⟩ := (mem_words_compile_compact hn).1 hw
  refine ⟨v, ⟨mem_strings_compact.2 hv, fun u hu => ?_⟩, (hlength v).symm.trans hspan⟩
  have hword : o.readingOrder u ∈ (n.compact.compile o).words :=
    (mem_words_compile_compact hn).2 ⟨u, mem_strings_compact.1 hu, rfl⟩
  rw [← hlength u, ← hlength v]
  exact hmax _ hword

end Node

/-! ## Branches of a node -/

namespace Node

/-- What a node offers a choice between, in the order in which it is tried. -/
def branches (o : Orientation) (n : Node Text) : List Branch :=
  Branch.sort (Branch.gather (n.children.edges o))

/-- A branch as it is told from the edges of the node and the words below them. -/
inductive HasBranch (o : Orientation) (n : Node Text) : Branch → Prop where
  | members {S : SortedSet Char} {c : Char} {x : Node Text} {k : Nat}
      (hx : n.children.HasEdge [c] x)
      (hS : ∀ d, d ∈ S ↔
        ∃ y, n.children.HasEdge [d] y ∧ CompactTrie.strings y = CompactTrie.strings x)
      (hk : HasLongest (· ∈ CompactTrie.strings x) k) :
      HasBranch o n ⟨.members S.toList, x.compile o, 1 + k⟩
  | word {l : Text} {x : Node Text} {k : Nat} (hl : 2 ≤ l.length)
      (hx : n.children.HasEdge l x) (hk : HasLongest (· ∈ CompactTrie.strings x) k) :
      HasBranch o n ⟨.word l, x.compile o, l.length + k⟩

variable {o : Orientation}

/-- Every edge is in some branch, with what it leads to. -/
theorem exists_mem_gather_of_hasEdge {f : Forest Text} {l : Text} {x : Node Text}
    (hx : f.HasEdge l x) :
    ∃ head span, l ∈ head.labels ∧
      ⟨head, x.compile o, span⟩ ∈ Branch.gather (f.edges o) := by
  obtain ⟨⟨head, _, span⟩, hb, hlabel, rfl⟩ :=
    Branch.exists_mem_gather.2 ⟨_, Forest.mem_edges_iff.2 ⟨l, x, hx, rfl⟩, rfl, rfl⟩
  exact ⟨head, span, hlabel, hb⟩

theorem exists_class_of_hasEdge {f : Forest Text} {c : Char} {x : Node Text}
    (hx : f.HasEdge [c] x) :
    ∃ cs span, c ∈ cs ∧ ⟨.members cs, x.compile o, span⟩ ∈ Branch.gather (f.edges o) := by
  obtain ⟨head, span, hlabel, hb⟩ := exists_mem_gather_of_hasEdge (o := o) hx
  cases head with
  | members cs =>
    obtain ⟨d, hd, heq⟩ := Head.mem_labels_members.1 hlabel
    cases heq
    exact ⟨cs, span, hd, hb⟩
  | word label => exact (Branch.isClass_of_mem_gather _ hb hlabel).elim

section

variable {n : Node Char} (hsorted : n.children.IsSorted) (hpruned : n.children.IsPruned)
include hsorted hpruned

/-- A class has the characters behind which the same words go on. -/
theorem mem_class_iff {cs : List Char} {x : Node Text} {span : Nat} {l : Text}
    (hx : n.compact.children.HasEdge l x)
    (hb : ⟨.members cs, x.compile o, span⟩ ∈ Branch.gather (n.compact.children.edges o))
    (d : Char) :
    d ∈ cs ↔ ∃ y, n.compact.children.HasEdge [d] y ∧
      CompactTrie.strings y = CompactTrie.strings x := by
  have hedges := Forest.pairwise_edges (o := o) (Forest.isSpread_compact hsorted)
  obtain ⟨m, hm, rfl⟩ := exists_isPruned_of_hasEdge hsorted hpruned hx
  constructor
  · intro hd
    obtain ⟨e, he, hlabel, htail⟩ :=
      Branch.exists_mem_gather.1 ⟨_, hb, Head.mem_labels_members.2 ⟨d, hd, rfl⟩, rfl⟩
    obtain ⟨_, y, hy, rfl⟩ := Forest.mem_edges_iff.1 he
    cases hlabel
    obtain ⟨m', hm', rfl⟩ := exists_isPruned_of_hasEdge hsorted hpruned hy
    exact ⟨_, hy, (hm'.same_fragment_iff hm).1 htail⟩
  · rintro ⟨y, hy, hstrings⟩
    obtain ⟨m', hm', rfl⟩ := exists_isPruned_of_hasEdge hsorted hpruned hy
    obtain ⟨b, hb', hlabel, htail⟩ := Branch.exists_mem_gather.2
      ⟨_, Forest.mem_edges_iff.2 ⟨[d], _, hy, rfl⟩, rfl, (hm'.same_fragment_iff hm).2 hstrings⟩
    have hclass := Branch.isClass_of_mem_gather b hb' hlabel
    cases Branch.eq_of_same_tail hedges hb' hb hclass trivial htail
    obtain ⟨d', hd, heq⟩ := Head.mem_labels_members.1 hlabel
    cases heq
    exact hd

theorem hasBranch_of_mem_gather {b : Branch}
    (hb : b ∈ Branch.gather (n.compact.children.edges o)) : n.compact.HasBranch o b := by
  have hspread := Forest.isSpread_compact hsorted
  obtain ⟨e, he, hlabel, htail, hspan⟩ := Branch.exists_span_of_mem_gather b hb
  obtain ⟨l, x, hx, rfl⟩ := Forest.mem_edges_iff.1 he
  obtain ⟨m, hm, rfl⟩ := exists_isPruned_of_hasEdge hsorted hpruned hx
  obtain ⟨head, tail, span⟩ := b
  cases htail
  cases hspan
  cases head with
  | members cs =>
    obtain ⟨c, hc, rfl⟩ := Head.mem_labels_members.1 hlabel
    have hascending : cs.Pairwise fun c d => Ranked.before c d = true :=
      Branch.ascending_of_mem_gather (Forest.pairwise_edges hspread) _ hb cs rfl
    exact .members (S := ⟨cs, hascending⟩) hx (mem_class_iff hsorted hpruned hx hb)
      (hm.hasLongest_strings o)
  | word label =>
    have hlong : 2 ≤ l.length := by
      by_contra hshort
      have hpos : 0 < l.length :=
        List.length_pos_iff.2 (Forest.label_ne_nil_of_mem_edges hspread _ he)
      obtain ⟨c, rfl⟩ : ∃ c, l = [c] := List.length_eq_one_iff.1 (by omega)
      exact Branch.isClass_of_mem_gather _ hb hlabel
    cases List.mem_singleton.1 hlabel
    exact .word hlong hx (hm.hasLongest_strings o)

theorem span_eq_of_mem_gather {head : Head} {x : Node Text} {span k : Nat} {l : Text}
    (hx : n.compact.children.HasEdge l x) (hl : l ∈ head.labels)
    (hb : ⟨head, x.compile o, span⟩ ∈ Branch.gather (n.compact.children.edges o))
    (hk : HasLongest (· ∈ CompactTrie.strings x) k) : span = l.length + k := by
  obtain ⟨e, he, hlabel, htail, hspan⟩ := Branch.exists_span_of_mem_gather _ hb
  obtain ⟨l', y, hy, rfl⟩ := Forest.mem_edges_iff.1 he
  obtain ⟨m, hm, rfl⟩ := exists_isPruned_of_hasEdge hsorted hpruned hx
  obtain ⟨m', hm', rfl⟩ := exists_isPruned_of_hasEdge hsorted hpruned hy
  have hlongest := hm'.hasLongest_strings o
  rw [(hm'.same_fragment_iff hm).1 htail] at hlongest
  have hlength : l'.length = l.length := Head.length_eq_of_mem_labels hlabel hl
  have hspan : l'.length + (m'.compact.spanned o).2 = span := hspan
  rw [hk.unique hlongest, ← hspan, hlength]

theorem mem_gather_of_hasBranch {b : Branch} (hb : n.compact.HasBranch o b) :
    b ∈ Branch.gather (n.compact.children.edges o) := by
  cases hb with
  | @members S c x k hx hS hk =>
    obtain ⟨cs, span, hc, hb⟩ := exists_class_of_hasEdge hx
    have hascending : cs.Pairwise fun c d => Ranked.before c d = true :=
      Branch.ascending_of_mem_gather
        (Forest.pairwise_edges (Forest.isSpread_compact hsorted)) _ hb cs rfl
    have hsame : ⟨cs, hascending⟩ = S := SortedSet.ext fun d =>
      (mem_class_iff hsorted hpruned hx hb d).trans (hS d).symm
    have hspan : span = 1 + k := span_eq_of_mem_gather hsorted hpruned hx
      (Head.mem_labels_members.2 ⟨c, hc, rfl⟩) hb hk
    rw [← hsame, ← hspan]
    exact hb
  | @word l x k hl hx hk =>
    obtain ⟨head, span, hlabel, hb⟩ := exists_mem_gather_of_hasEdge hx
    have hspan := span_eq_of_mem_gather hsorted hpruned hx hlabel hb hk
    cases head with
    | members cs =>
      obtain ⟨c, -, rfl⟩ := Head.mem_labels_members.1 hlabel
      exact absurd hl (Nat.not_succ_le_self 1)
    | word label =>
      rw [List.mem_singleton.1 hlabel] at hspan ⊢
      rw [← hspan]
      exact hb

/-- **The branches of a node** of a trie. -/
theorem mem_branches_iff {b : Branch} : b ∈ n.compact.branches o ↔ n.compact.HasBranch o b := by
  rw [branches, (Branch.sort_perm _).mem_iff]
  exact ⟨hasBranch_of_mem_gather hsorted hpruned, mem_gather_of_hasBranch hsorted hpruned⟩

/-- Edges of one character are in one class if the same words go on behind them, and only then. -/
theorem share_class_iff {c d : Char} {x y : Node Text} (hx : n.compact.children.HasEdge [c] x)
    (hy : n.compact.children.HasEdge [d] y) :
    (∃ b ∈ n.compact.branches o, ∃ cs, b.head = .members cs ∧ c ∈ cs ∧ d ∈ cs) ↔
      CompactTrie.strings x = CompactTrie.strings y := by
  have hspread := Forest.isSorted_of_isSpread (Forest.isSpread_compact hsorted)
  constructor
  · rintro ⟨b, hb, cs, hcs, hc, hd⟩
    cases (mem_branches_iff hsorted hpruned).1 hb with
    | members _ hS _ =>
      cases hcs
      obtain ⟨x', hx', hstrings⟩ := (hS c).1 hc
      obtain ⟨y', hy', hstrings'⟩ := (hS d).1 hd
      rw [hx.unique hspread hx', hy.unique hspread hy', hstrings, hstrings']
    | word => cases hcs
  · intro hstrings
    obtain ⟨cs, span, hc, hb⟩ := exists_class_of_hasEdge hx
    have hd : d ∈ cs := (mem_class_iff hsorted hpruned hx hb d).2 ⟨y, hy, hstrings.symm⟩
    exact ⟨_, (Branch.sort_perm _).mem_iff.2 hb, cs, rfl, hc, hd⟩

end

/-! ## The order of the branches -/

theorem pairwise_branches {n : Node Text} (hn : n.children.IsSpread) :
    (n.branches o).Pairwise fun a b => b.span < a.span ∨ b.span = a.span ∧
      ∃ l ∈ a.head.labels, ∀ m ∈ b.head.labels, startsBefore l m := by
  have hout := Branch.pairwise_sort (Branch.pairwise_gather (Forest.pairwise_edges (o := o) hn))
  exact hout.imp fun hab => hab.imp id (And.imp id Branch.Precedes.first)

theorem nodup_branches {n : Node Text} (hn : n.children.IsSpread) :
    (n.branches o).Nodup := by
  refine (pairwise_branches hn).imp fun {a b} hab heq => ?_
  rcases hab with hlt | ⟨-, l, hl, hfirst⟩
  · exact absurd (heq ▸ hlt) (Nat.lt_irrefl _)
  · exact head?_ne_of_startsBefore (hfirst l (heq ▸ hl)) rfl

/-- The span of a branch is the length of its longest match. -/
theorem matches_branch {n : Node Text} {b : Branch} (hb : b ∈ n.branches o) :
    ∃ e, Expr.read? (b.fragment o).text = some e ∧
      HasLongest (fun s => e.matchesFully s = true) b.span := by
  exact Branch.hasLongest_matches Forest.isSound_tail_of_mem_edges Forest.isSpanned_of_mem_edges b
    ((Branch.sort_perm _).mem_iff.1 hb)

end Node

namespace Trie

variable {suffixes : List Text} {o : Orientation}

/-- **What every node of a trie offers a choice between.** It is compiled to the choice between its
branches, left open if a word ends there. There is one class for each set of words below its edges
of one character and one text for each longer edge, as edges have the same fragment, and share a
class, just where the same words go on behind them. The branch with the longest match comes first,
and the one with the lowest character between those that are alike in this. -/
theorem branches_of_node {p : List Text} {n : Node Text}
    (hn : (ofList o suffixes).compact.root.Leads p n) :
    (n.compile o = if n.terminal
      then (Fragment.ofAlternatives ((n.branches o).map (Branch.fragment o))).optional
      else Fragment.ofAlternatives ((n.branches o).map (Branch.fragment o))) ∧
    ((n.branches o).Nodup ∧ ∀ b, b ∈ n.branches o ↔ n.HasBranch o b) ∧
    (∀ l l' x y, n.children.HasEdge l x → n.children.HasEdge l' y →
      ((x.compile o).text = (y.compile o).text ↔
        CompactTrie.strings x = CompactTrie.strings y)) ∧
    (∀ c d x y, n.children.HasEdge [c] x → n.children.HasEdge [d] y →
      ((∃ b ∈ n.branches o, ∃ cs, b.head = .members cs ∧ c ∈ cs ∧ d ∈ cs) ↔
        CompactTrie.strings x = CompactTrie.strings y)) ∧
    (∀ b ∈ n.branches o, ∃ e, Expr.read? (b.fragment o).text = some e ∧
      HasLongest (fun s => e.matchesFully s = true) b.span) ∧
    (n.branches o).Pairwise fun a b => b.span < a.span ∨ b.span = a.span ∧
      ∃ l ∈ a.head.labels, ∀ m ∈ b.head.labels, startsBefore l m := by
  have hbuilt := isBuilt_ofList o suffixes
  obtain ⟨m, hm, rfl⟩ := Node.leads_compact hn
  obtain ⟨hsorted, hpruned⟩ := hm.isSorted_and_isPruned hbuilt.sorted hbuilt.pruned
  have hspread := Forest.isSpread_compact hsorted
  refine ⟨rfl, ⟨Node.nodup_branches hspread, fun b => Node.mem_branches_iff hsorted hpruned⟩,
    fun l l' x y hx hy => ?_, fun c d x y hx hy => Node.share_class_iff hsorted hpruned hx hy,
    fun b hb => Node.matches_branch hb, Node.pairwise_branches hspread⟩
  obtain ⟨m₁, hm₁, rfl⟩ := Node.exists_isPruned_of_hasEdge hsorted hpruned hx
  obtain ⟨m₂, hm₂, rfl⟩ := Node.exists_isPruned_of_hasEdge hsorted hpruned hy
  exact hm₁.same_text_iff hm₂

/-- Behind the "x" a class of two characters and a text have matches of one length. -/
def behindX : List Text :=
  ["x", "xa", "xac", "xb", "xbc", "xd", "xefg", "xhi"].map String.toList

theorem branches_of_node_behindX :
    ∃ n, (ofList .fromStart behindX).compact.root.Leads [['x']] n ∧
      (n.branches .fromStart).map Branch.head =
        [.word ['e', 'f', 'g'], .members ['a', 'b'], .word ['h', 'i'], .members ['d']] ∧
      (n.compile .fromStart).text = "(?:efg|[ab]c?|hi|d)?".toList ∧
      ∀ b ∈ n.branches .fromStart, n.HasBranch .fromStart b := by
  have hleads : (ofList .fromStart behindX).compact.root.Leads [['x']] _ := .down .first .here
  obtain ⟨-, ⟨-, hbranch⟩, -⟩ := branches_of_node hleads
  exact ⟨_, hleads, by decide, by decide, fun b => (hbranch b).1⟩

end Trie
end SuffixPattern
