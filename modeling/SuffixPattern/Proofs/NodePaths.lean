import SuffixPattern.Proofs.TrieFragment

/-!
# SuffixPattern.Proofs.NodePaths

The pattern for a tree and the paths in it (`matches_its_paths`). A path leads down from the root by
the labels of its edges, whatever these are: empty, or with the same first character as a sibling.
It counts if it ends at a mark or at a leaf. Where no leaf is without a mark, the paths that count
are the words of the tree.

* `Node.Leads n p m`: the labels `p` lead from `n` down to `m`.
* `mem_stops_iff`: the list of paths that the compiler's induction goes by holds those that count.
-/

namespace SuffixPattern

open Regex

/-- One of the edges has the key and leads to the node. -/
inductive Forest.HasEdge {κ : Type} : Forest κ → κ → Node κ → Prop where
  | first {k : κ} {t : Bool} {below rest : Forest κ} : HasEdge (.cons k t below rest) k ⟨t, below⟩
  | later {k k' : κ} {t' : Bool} {below' rest : Forest κ} {n : Node κ} :
      HasEdge rest k n → HasEdge (.cons k' t' below' rest) k n

/-- The keys lead from a node down to another, or nowhere if there are none. -/
inductive Node.Leads {κ : Type} : Node κ → List κ → Node κ → Prop where
  | here {n : Node κ} : Leads n [] n
  | down {n child m : Node κ} {k : κ} {p : List κ} :
      n.children.HasEdge k child → Leads child p m → Leads n (k :: p) m

variable {κ : Type}

theorem Forest.hasEdge_cons_iff {k k' : κ} {t : Bool} {below rest : Forest κ} {n : Node κ} :
    (cons k t below rest).HasEdge k' n ↔ k' = k ∧ n = ⟨t, below⟩ ∨ rest.HasEdge k' n := by
  constructor
  · intro h
    cases h with
    | first => exact .inl ⟨rfl, rfl⟩
    | later h => exact .inr h
  · rintro (⟨rfl, rfl⟩ | h)
    · exact .first
    · exact .later h

theorem Forest.HasEdge.mem_keys {f : Forest κ} {k : κ} {n : Node κ} (h : f.HasEdge k n) :
    k ∈ f.keys := by
  induction h with
  | first => exact .head _
  | later _ ih => exact .tail _ ih

/-- Siblings in order have no two edges with one key. -/
theorem Forest.HasEdge.unique [Ranked κ] {f : Forest κ} (hf : f.IsSorted) {k : κ} {n m : Node κ}
    (hn : f.HasEdge k n) (hm : f.HasEdge k m) : n = m := by
  induction hn with
  | first =>
    cases hm with
    | first => rfl
    | later hm => exact absurd rfl (Ranked.ne_of_before (hf.1 _ hm.mem_keys))
  | later hn ih =>
    cases hm with
    | first => exact absurd rfl (Ranked.ne_of_before (hf.1 _ hn.mem_keys))
    | later hm => exact ih hf.2.2 hm

/-! ## Paths that count -/

namespace Node

/-- The keys lead to a mark or to a leaf. -/
def StopsAt (n : Node κ) (p : List κ) : Prop :=
  ∃ m, n.Leads p m ∧ (m.terminal = true ∨ m.isLeaf = true)

theorem stopsAt_nil_iff {n : Node κ} : n.StopsAt [] ↔ n.terminal = true ∨ n.children = .nil := by
  rw [← Forest.isNil_eq_true_iff]
  constructor
  · rintro ⟨m, hm, hstop⟩
    cases hm
    exact hstop
  · intro hstop
    exact ⟨n, .here, hstop⟩

theorem stopsAt_cons_iff {n : Node κ} {k : κ} {p : List κ} :
    n.StopsAt (k :: p) ↔ ∃ child, n.children.HasEdge k child ∧ child.StopsAt p := by
  constructor
  · rintro ⟨m, hm, hstop⟩
    cases hm with
    | down hedge hrest => exact ⟨_, hedge, m, hrest, hstop⟩
  · rintro ⟨child, hedge, m, hrest, hstop⟩
    exact ⟨m, .down hedge hrest, hstop⟩

end Node

namespace Forest

theorem nil_not_mem_stops {f : Forest κ} : [] ∉ f.stops := by
  induction f with
  | nil => simp [stops]
  | cons k t below rest _ ih => simp [mem_stops_cons, ih]

theorem cons_mem_stops_iff {f : Forest κ} {k : κ} {p : List κ} :
    k :: p ∈ f.stops ↔ ∃ child, f.HasEdge k child ∧ child.StopsAt p := by
  induction f generalizing k p with
  | nil =>
    constructor
    · intro h
      cases h
    · rintro ⟨child, hedge, -⟩
      cases hedge
  | cons k' t below rest ihb ihr =>
    have hbelow : p = [] ∧ (t = true ∨ below = .nil) ∨ p ∈ below.stops ↔
        Node.StopsAt ⟨t, below⟩ p := by
      cases p with
      | nil => simp [Node.stopsAt_nil_iff, nil_not_mem_stops]
      | cons c p => simp [Node.stopsAt_cons_iff, ihb]
    simp only [mem_stops_cons, hasEdge_cons_iff, List.cons.injEq, ihr]
    constructor
    · rintro (⟨q, ⟨rfl, rfl⟩, hq⟩ | ⟨child, hedge, hstop⟩)
      · exact ⟨⟨t, below⟩, .inl ⟨rfl, rfl⟩, hbelow.1 hq⟩
      · exact ⟨child, .inr hedge, hstop⟩
    · rintro ⟨child, ⟨rfl, rfl⟩ | hedge, hstop⟩
      · exact .inl ⟨p, ⟨rfl, rfl⟩, hbelow.2 hstop⟩
      · exact .inr ⟨child, hedge, hstop⟩

/-- **The paths below a node**, and the empty one at the node itself. -/
theorem mem_stops_iff {n : Node κ} {p : List κ} :
    p ∈ n.children.stops ∨ p = [] ∧ (n.terminal = true ∨ n.children = .nil) ↔ n.StopsAt p := by
  cases p with
  | nil => simp [Node.stopsAt_nil_iff, nil_not_mem_stops]
  | cons k p => simp [Node.stopsAt_cons_iff, cons_mem_stops_iff]

end Forest

/-! ## Leaves -/

namespace Node

/-- Every leaf at or below the node is marked. -/
def HasMarkedLeaves (n : Node κ) : Prop :=
  ∀ p m, n.Leads p m → m.isLeaf = true → m.terminal = true

theorem hasMarkedLeaves_iff {n : Node κ} :
    n.HasMarkedLeaves ↔ (n.children = .nil → n.terminal = true) ∧
      ∀ k child, n.children.HasEdge k child → child.HasMarkedLeaves := by
  rw [← Forest.isNil_eq_true_iff]
  constructor
  · intro h
    refine ⟨fun hleaf => h [] n .here hleaf, ?_⟩
    intro k child hedge p m hm hleaf
    exact h (k :: p) m (.down hedge hm) hleaf
  · rintro ⟨hroot, hbelow⟩ p m hm hleaf
    cases hm with
    | here => exact hroot hleaf
    | down hedge hrest => exact hbelow _ _ hedge _ m hrest hleaf

end Node

theorem Forest.isPruned_iff {f : Forest κ} :
    f.IsPruned ↔ ∀ k child, f.HasEdge k child → child.HasMarkedLeaves := by
  induction f with
  | nil =>
    refine iff_of_true trivial fun k child hedge => ?_
    cases hedge
  | cons k t below rest ihb ihr =>
    rw [IsPruned, ihb, ihr, ← and_assoc]
    have hfirst : Node.HasMarkedLeaves ⟨t, below⟩ ↔ (below = .nil → t = true) ∧
        ∀ k child, below.HasEdge k child → child.HasMarkedLeaves := Node.hasMarkedLeaves_iff
    rw [← hfirst]
    constructor
    · rintro ⟨hbelow, hrest⟩ k' child hedge
      cases hedge with
      | first => exact hbelow
      | later hedge => exact hrest k' child hedge
    · intro h
      exact ⟨h k _ .first, fun k' child hedge => h k' child (.later hedge)⟩

/-! ## Patterns -/

namespace Node

/-- Where every leaf is marked, the paths that count spell the words of the tree. -/
theorem exists_stopsAt_iff_of_hasMarkedLeaves {n : Node Text} (h : n.HasMarkedLeaves)
    (o : Orientation) (s : Text) :
    (∃ p, n.StopsAt p ∧ s = o.readingOrder p.flatten) ↔
      ∃ w ∈ CompactTrie.strings n, s = o.readingOrder w := by
  obtain ⟨hroot, hbelow⟩ := hasMarkedLeaves_iff.1 h
  have hwords : ∀ p, n.StopsAt p ↔ p ∈ n.words := by
    intro p
    have hmark : n.terminal = true ∨ n.children = .nil ↔ n.terminal = true :=
      or_iff_left_of_imp hroot
    rw [← Forest.mem_stops_iff, Forest.stops_eq_words (Forest.isPruned_iff.2 hbelow), hmark]
    cases p with
    | nil => simp [Forest.nil_mem_words_iff, Forest.nil_not_mem_words]
    | cons k p => simp [Forest.cons_mem_node_words]
  simp [hwords, CompactTrie.strings, SortedSet.mem_ofList]

/-- **The pattern for a tree matches its paths**, read in the reading direction, whatever the labels
and the marks are: those that end at a mark or at a leaf. If every leaf is marked, these are the
words of the tree. -/
theorem matches_its_paths (o : Orientation) (n : Node Text) :
    ∃ e, Expr.read? (n.compile o).text = some e ∧
      (∀ s, e.matchesFully s = true ↔ ∃ p m, n.Leads p m ∧
        (m.terminal = true ∨ m.isLeaf = true) ∧ s = o.readingOrder p.flatten) ∧
      ((∀ p m, n.Leads p m → m.isLeaf = true → m.terminal = true) →
        ∀ s, e.matchesFully s = true ↔ ∃ w ∈ CompactTrie.strings n, s = o.readingOrder w) := by
  have hsound := isSound_compile (o := o) n
  have hpaths : ∀ s, (n.compile o).expr.matchesFully s = true ↔
      ∃ p, n.StopsAt p ∧ s = o.readingOrder p.flatten := by
    intro s
    have hnil : o.readingOrder [] = [] := by cases o <;> rfl
    have hwords : s ∈ (n.compile o).expr.words ↔ _ := mem_words_compile (o := o)
    rw [Expr.matchesFully_iff_mem_words hsound.isFinite, hwords]
    simp only [← Forest.mem_stops_iff]
    constructor
    · rintro (⟨p, hp, rfl⟩ | ⟨rfl, hroot⟩)
      · exact ⟨p, .inl hp, rfl⟩
      · exact ⟨[], .inr ⟨rfl, hroot⟩, hnil.symm⟩
    · rintro ⟨p, hp | ⟨rfl, hroot⟩, rfl⟩
      · exact .inl ⟨p, hp, rfl⟩
      · exact .inr ⟨hnil, hroot⟩
  refine ⟨(n.compile o).expr, Fragment.read?_text hsound, fun s => ?_, fun hmarked s => ?_⟩
  · rw [hpaths]
    constructor
    · rintro ⟨p, ⟨m, hm, hstop⟩, hs⟩
      exact ⟨p, m, hm, hstop, hs⟩
    · rintro ⟨p, m, hm, hstop, hs⟩
      exact ⟨p, ⟨m, hm, hstop⟩, hs⟩
  · rw [hpaths]
    exact exists_stopsAt_iff_of_hasMarkedLeaves hmarked o s

/-- An edge without a label, and two of which one label begins with the other; the pattern is
`(?:ba|b?|a)`. -/
def overlapping : Node Text :=
  ⟨false, .cons [] true (.cons ['b'] true .nil .nil)
    (.cons ['a'] true .nil (.cons ['a', 'b'] true .nil .nil))⟩

theorem matches_its_paths_overlapping :
    (∀ p m, overlapping.Leads p m → m.isLeaf = true → m.terminal = true) ∧
      ∃ e, Expr.read? (overlapping.compile .fromEnd).text = some e ∧
        ∀ s, e.matchesFully s = true ↔ s ∈ ["", "a", "ba", "b"].map String.toList := by
  have hmarked : overlapping.HasMarkedLeaves := by
    rw [hasMarkedLeaves_iff, ← Forest.isPruned_iff]
    simp [overlapping, Forest.IsPruned]
  obtain ⟨e, hread, -, hwords⟩ := matches_its_paths .fromEnd overlapping
  refine ⟨hmarked, e, hread, fun s => ?_⟩
  have hstrings : (CompactTrie.strings overlapping).toList.map Orientation.fromEnd.readingOrder =
      ["", "a", "ba", "b"].map String.toList := by decide
  rw [hwords hmarked s, ← hstrings, List.mem_map]
  constructor
  · rintro ⟨w, hw, rfl⟩
    exact ⟨w, hw, rfl⟩
  · rintro ⟨w, hw, rfl⟩
    exact ⟨w, hw, rfl⟩

end Node
end SuffixPattern
