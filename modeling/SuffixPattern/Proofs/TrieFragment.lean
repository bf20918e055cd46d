import SuffixPattern.Proofs.BranchWords
import SuffixPattern.Proofs.Compaction

/-!
# SuffixPattern.Proofs.TrieFragment

The fragment of a tree matches the paths that end at a mark or at a leaf (`mem_words_compile`). In a
trie these are the suffixes it was built from (`mem_words_fragment`).
-/

namespace SuffixPattern

open Regex

/-! ## Paths on which a match can end -/

namespace Forest

variable {κ : Type}

/-- The paths that end at a marked node or at a leaf. -/
def stops : Forest κ → List (List κ)
  | .nil => []
  | .cons k t below rest =>
    (if t || below.isNil then [[k]] else []) ++ below.stops.map (k :: ·) ++ rest.stops

theorem isNil_eq_true_iff {f : Forest κ} : f.isNil = true ↔ f = .nil := by
  cases f <;> simp [isNil]

theorem mem_stops_cons {k : κ} {t : Bool} {below rest : Forest κ} {p : List κ} :
    p ∈ (cons k t below rest).stops ↔
      (∃ q, p = k :: q ∧ (q = [] ∧ (t = true ∨ below = .nil) ∨ q ∈ below.stops)) ∨
        p ∈ rest.stops := by
  have hmark : p ∈ (if t || below.isNil then [[k]] else []) ↔
      p = [k] ∧ (t = true ∨ below = .nil) := by
    rw [← isNil_eq_true_iff, ← Bool.or_eq_true]
    cases t || below.isNil <;> simp
  rw [stops, List.mem_append, List.mem_append, hmark, List.mem_map]
  constructor
  · rintro ((⟨rfl, h⟩ | ⟨q, hq, rfl⟩) | h)
    · exact .inl ⟨[], rfl, .inl ⟨rfl, h⟩⟩
    · exact .inl ⟨q, rfl, .inr hq⟩
    · exact .inr h
  · rintro (⟨q, rfl, ⟨rfl, h⟩ | hq⟩ | h)
    · exact .inl (.inl ⟨rfl, h⟩)
    · exact .inl (.inr ⟨q, hq, rfl⟩)
    · exact .inr h

/-- Where every leaf is marked, a match ends at marks only. -/
theorem stops_eq_words {f : Forest κ} (hf : f.IsPruned) : f.stops = f.words := by
  induction f with
  | nil => rfl
  | cons k t below rest ihb ihr =>
    obtain ⟨hmark, hbelow, hrest⟩ := hf
    have ht : (t || below.isNil) = t := by
      cases t with
      | true => rfl
      | false =>
        cases below with
        | nil => exact absurd (hmark rfl) Bool.false_ne_true
        | cons => rfl
    rw [stops, words, ht, ihb hbelow, ihr hrest]

/-! ## Compiled edges -/

variable {o : Orientation}

theorem edges_eq_nil_iff {f : Forest Text} : f.edges o = [] ↔ f = .nil := by
  cases f <;> simp [edges]

theorem isSound_tail_of_mem_edges {f : Forest Text} : ∀ e ∈ f.edges o, e.tail.IsSound := by
  induction f with
  | nil => exact fun e he => absurd he List.not_mem_nil
  | cons label t below rest ihb ihr =>
    intro e he
    rcases List.mem_cons.1 he with rfl | he
    · exact Branch.isSound_choose ihb
    · exact ihr e he

/-- What the edges match, spelled along the paths of the forest. -/
theorem exists_mem_edges {f : Forest Text} {w : Text} :
    (∃ e ∈ f.edges o, ∃ v ∈ e.tail.words, w = o.attach e.label v) ↔
      ∃ p ∈ f.stops, w = o.readingOrder p.flatten := by
  induction f generalizing w with
  | nil => simp [edges, stops]
  | cons label t below rest ihb ihr =>
    have hlabel : ∀ v, v ∈ (Branch.choose o t (below.edges o)).1.words ↔
        ∃ q, (q = [] ∧ (t = true ∨ below = .nil) ∨ q ∈ below.stops) ∧
          v = o.readingOrder q.flatten := by
      intro v
      have hnil : o.readingOrder [] = [] := by cases o <;> rfl
      rw [Branch.mem_words_choose, ihb, edges_eq_nil_iff]
      constructor
      · rintro (⟨q, hq, rfl⟩ | ⟨rfl, h⟩)
        · exact ⟨q, .inr hq, rfl⟩
        · exact ⟨[], .inl ⟨rfl, h⟩, hnil.symm⟩
      · rintro ⟨q, ⟨rfl, h⟩ | hq, rfl⟩
        · exact .inr ⟨hnil, h⟩
        · exact .inl ⟨q, hq, rfl⟩
    rw [edges, List.exists_mem_cons_iff, ihr]
    constructor
    · rintro (⟨v, hv, rfl⟩ | ⟨p, hp, rfl⟩)
      · obtain ⟨q, hq, rfl⟩ := (hlabel v).1 hv
        refine ⟨label :: q, mem_stops_cons.2 (.inl ⟨q, rfl, hq⟩), ?_⟩
        rw [List.flatten_cons, Orientation.readingOrder_append]
      · exact ⟨p, mem_stops_cons.2 (.inr hp), rfl⟩
    · rintro ⟨p, hp, rfl⟩
      rcases mem_stops_cons.1 hp with ⟨q, rfl, hq⟩ | hp
      · refine .inl ⟨_, (hlabel _).2 ⟨q, hq, rfl⟩, ?_⟩
        rw [List.flatten_cons, Orientation.readingOrder_append]
      · exact .inr ⟨p, hp, rfl⟩

end Forest

/-! ## Compiled trees -/

namespace Node

variable {o : Orientation}

theorem isSound_compile (n : Node Text) : (n.compile o).IsSound :=
  Branch.isSound_choose Forest.isSound_tail_of_mem_edges

/-- **A tree matches its paths**, whatever its labels are. -/
theorem mem_words_compile {n : Node Text} {w : Text} :
    w ∈ (n.compile o).words ↔
      (∃ p ∈ n.children.stops, w = o.readingOrder p.flatten) ∨
        w = [] ∧ (n.terminal = true ∨ n.children = .nil) := by
  rw [compile, spanned, Branch.mem_words_choose, Forest.exists_mem_edges, Forest.edges_eq_nil_iff]

end Node

/-! ## Compiled tries -/

namespace Trie

variable {o : Orientation} {suffixes : List Text}

theorem isSound_fragment (t : Trie) : t.compact.fragment.IsSound := Node.isSound_compile _

/-- A trie without a member is a root alone. -/
theorem children_ofList_eq_nil_iff :
    (ofList o suffixes).root.children = .nil ↔ ∀ s ∈ suffixes, s = [] := by
  constructor
  · intro h s hs
    by_contra hne
    have hmem := (mem_words_ofList o suffixes).2 ⟨s, hs, hne, rfl⟩
    rw [h] at hmem
    cases hmem
  · intro h
    by_contra hne
    obtain ⟨w, hw⟩ := Forest.exists_word (isBuilt_ofList o suffixes).pruned hne
    obtain ⟨s, hs, hnonempty, -⟩ := (mem_words_ofList o suffixes).1 hw
    exact hnonempty (h s hs)

/-- **The fragment of a trie matches its members.** -/
theorem mem_words_fragment (hmember : ∃ s ∈ suffixes, s ≠ []) {w : Text} :
    w ∈ (ofList o suffixes).compact.fragment.words ↔ w ∈ suffixes ∧ w ≠ [] := by
  have hbuilt := isBuilt_ofList o suffixes
  have hchildren : (ofList o suffixes).root.compact.children ≠ .nil := by
    intro h
    obtain ⟨s, hs, hne⟩ := hmember
    exact hne (children_ofList_eq_nil_iff.1 (Forest.compact_eq_nil_iff.1 h) s hs)
  have hroot : ¬ ((ofList o suffixes).root.compact.terminal = true ∨
      (ofList o suffixes).root.compact.children = .nil) := by
    rintro (h | h)
    · exact Bool.false_ne_true (hbuilt.unmarked.symm.trans h)
    · exact hchildren h
  have hpaths : (∃ p ∈ (ofList o suffixes).root.compact.children.stops,
      w = o.readingOrder p.flatten) ↔
        ∃ v ∈ (ofList o suffixes).root.children.words, w = o.readingOrder v := by
    rw [Node.compact, Forest.stops_eq_words (Forest.isPruned_compact hbuilt.pruned),
      ← Forest.flatten_words_compact (ofList o suffixes).root.children]
    simp
  have horient : (ofList o suffixes).compact.orientation = o := orientation_ofList o suffixes
  rw [CompactTrie.fragment, horient, Node.mem_words_compile]
  have hcompact : (ofList o suffixes).compact.root = (ofList o suffixes).root.compact := rfl
  rw [hcompact, hpaths, readingOrder_mem_iff]
  exact or_iff_left fun h => hroot h.2

theorem fragment_eq_empty (hnone : ∀ s ∈ suffixes, s = []) :
    (ofList o suffixes).compact.fragment = .empty := by
  have hcompact : (ofList o suffixes).compact.root.children = .nil :=
    Forest.compact_eq_nil_iff.2 (children_ofList_eq_nil_iff.2 hnone)
  have hterminal : (ofList o suffixes).compact.root.terminal = false :=
    (isBuilt_ofList o suffixes).unmarked
  rw [CompactTrie.fragment, Node.compile, Node.spanned, hcompact, hterminal]
  rfl

end Trie
end SuffixPattern
