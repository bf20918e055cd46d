import Mathlib.Data.Set.Card
import SuffixPattern.Proofs.CanonicalText
import SuffixPattern.Proofs.TrieViews

/-!
# SuffixPattern.Proofs.TrieSets

A trie that is built from a list is the set of its suffixes, the empty one left aside
(`ofList_holds`). It finds these and no others, it counts each of them once, and it has one node for
each beginning of a path that leads to one of them (`mem_paths_iff`), so two lists have one trie if
and only if they have the same members.
-/

namespace SuffixPattern

/-- A list without repetitions has as many members as elements. -/
theorem encard_of_nodup {α : Type} {l : List α} (h : l.Nodup) : {x | x ∈ l}.encard = l.length := by
  classical
  rw [← List.coe_toFinset, Set.encard_coe_eq_coe_finsetCard, List.toFinset_card_of_nodup h]

namespace Forest

variable {κ : Type}

/-- **Every node is on the way to a word** if no branch is without one, and every beginning of a
word leads to a node. -/
theorem mem_paths_iff {f : Forest κ} (hf : f.IsPruned) {p : List κ} :
    p ∈ f.paths ↔ p ≠ [] ∧ ∃ w ∈ f.words, p <+: w := by
  induction f generalizing p with
  | nil => simp [paths, words]
  | cons k t below rest ihb ihr =>
    obtain ⟨hmark, hbelow, hrest⟩ := hf
    rw [mem_paths_cons, ihr hrest]
    constructor
    · rintro (⟨v, rfl, rfl | hv⟩ | ⟨hne, w, hw, hp⟩)
      · obtain ⟨w, hw⟩ : ∃ w, k :: w ∈ (cons k t below rest).words :=
          exists_word_below hmark (exists_word hbelow)
        exact ⟨List.cons_ne_nil _ _, k :: w, hw, ⟨w, rfl⟩⟩
      · obtain ⟨-, w, hw, hp⟩ := (ihb hbelow).1 hv
        exact ⟨List.cons_ne_nil _ _, k :: w, mem_words_cons.2 (.inl ⟨w, rfl, .inr hw⟩),
          List.cons_prefix_cons.2 ⟨rfl, hp⟩⟩
      · exact ⟨hne, w, mem_words_cons.2 (.inr hw), hp⟩
    · rintro ⟨hne, w, hw, hp⟩
      rcases mem_words_cons.1 hw with ⟨w, rfl, hword⟩ | hw
      · obtain ⟨k', v, rfl⟩ := List.exists_cons_of_ne_nil hne
        obtain ⟨rfl, hv⟩ := List.cons_prefix_cons.1 hp
        refine .inl ⟨v, rfl, ?_⟩
        by_cases hnil : v = []
        · exact .inl hnil
        · rcases hword with ⟨rfl, -⟩ | hword
          · exact absurd (List.prefix_nil.1 hv) hnil
          · exact .inr ((ihb hbelow).2 ⟨hnil, w, hword, hv⟩)
      · exact .inr ⟨hne, w, hw, hp⟩

end Forest

namespace Trie

variable {o : Orientation} {suffixes : List Text}

/-- What a trie shows of the suffixes it holds. -/
structure Holds (t : Trie) (o : Orientation) (suffixes : List Text) : Prop where
  contains : ∀ s, t.contains s = true ↔ s ≠ [] ∧ s ∈ suffixes
  members : ∀ s, s ∈ t.suffixes ↔ s ≠ [] ∧ s ∈ suffixes
  length : t.length = {s | s ≠ [] ∧ s ∈ suffixes}.encard
  isEmpty : t.isEmpty = true ↔ t.length = 0
  size : t.root.size = 1 + {p | p ≠ [] ∧ ∃ s ∈ suffixes, p <+: o.trieOrder s}.encard
  root : t.root.terminal = false
  leaves : ∀ p m, t.root.Leads p m → p ≠ [] → m.isLeaf = true → m.terminal = true

theorem mem_suffixes_ofList {s : Text} :
    s ∈ (ofList o suffixes).suffixes ↔ s ≠ [] ∧ s ∈ suffixes := by
  rw [mem_suffixes, orientation_ofList, Node.mem_words_iff, (isBuilt_ofList o suffixes).unmarked,
    mem_words_ofList]
  constructor
  · rintro (⟨-, h⟩ | ⟨v, hv, hne, h⟩)
    · cases h
    · rw [← o.readingOrder_trieOrder s, h, o.readingOrder_trieOrder]
      exact ⟨hne, hv⟩
  · rintro ⟨hne, hs⟩
    exact .inr ⟨s, hs, hne, rfl⟩

theorem encard_suffixes (t : Trie) : {s | s ∈ t.suffixes}.encard = t.suffixes.size :=
  encard_of_nodup (Ranked.nodup_of_ascending id t.suffixes.ascending)

theorem isEmpty_iff_length_eq_zero {t : Trie} (h : t.root.children.IsPruned) :
    t.isEmpty = true ↔ t.length = 0 := by
  have hbelow : t.root.children.terminals = 0 ↔ t.root.children = .nil := by
    rw [← Forest.length_words, List.length_eq_zero_iff]
    constructor
    · intro hwords
      by_contra hne
      obtain ⟨w, hw⟩ := Forest.exists_word h hne
      rw [hwords] at hw
      cases hw
    · intro hnil
      rw [hnil]
      rfl
  rw [isEmpty, length, Node.terminals, Node.isLeaf, Bool.and_eq_true, Forest.isNil_eq_true_iff,
    Nat.add_eq_zero_iff, hbelow, and_comm]
  cases t.root.terminal <;> simp

theorem IsBuilt.leaves {t : Trie} (h : t.IsBuilt) {p : Text} {m : Node Char}
    (hm : t.root.Leads p m) (hne : p ≠ []) (hleaf : m.isLeaf = true) : m.terminal = true := by
  cases hm with
  | here => exact absurd rfl hne
  | down hedge hrest => exact Forest.isPruned_iff.1 h.pruned _ _ hedge _ m hrest hleaf

theorem size_root_ofList : ((ofList o suffixes).root.size : ENat) =
    1 + {p | p ≠ [] ∧ ∃ s ∈ suffixes, p <+: o.trieOrder s}.encard := by
  have hbuilt := isBuilt_ofList o suffixes
  have hpaths : {p | p ≠ [] ∧ ∃ s ∈ suffixes, p <+: o.trieOrder s} =
      {p | p ∈ (ofList o suffixes).root.children.paths} := by
    ext p
    simp only [Set.mem_ofPred_eq, Forest.mem_paths_iff hbuilt.pruned, mem_words_ofList]
    refine and_congr_right fun hne => ⟨?_, ?_⟩
    · rintro ⟨s, hs, hp⟩
      refine ⟨o.trieOrder s, ⟨s, hs, ?_, rfl⟩, hp⟩
      rintro rfl
      have hnil : o.trieOrder [] = [] := by
        cases o <;> rfl
      exact hne (List.prefix_nil.1 (hnil ▸ hp))
    · rintro ⟨w, ⟨s, hs, -, rfl⟩, hp⟩
      exact ⟨s, hs, hp⟩
  rw [hpaths, encard_of_nodup (Forest.nodup_paths hbuilt.sorted), Forest.length_paths, Node.size]
  push_cast
  rfl

/-- **A trie is the set of its suffixes.** -/
theorem ofList_holds (o : Orientation) (suffixes : List Text) :
    (ofList o suffixes).Holds o suffixes ∧
      ∀ others, ofList o suffixes = ofList o others ↔
        ∀ s, s ≠ [] → (s ∈ suffixes ↔ s ∈ others) := by
  have hbuilt := isBuilt_ofList o suffixes
  refine ⟨?_, fun others => ⟨fun h s hne => ?_, ofList_eq_of_same_members⟩⟩
  · constructor
    case contains =>
      intro s
      rw [contains_iff hbuilt.sorted, mem_suffixes_ofList, ← and_assoc, and_self]
    case members => exact fun s => mem_suffixes_ofList
    case length =>
      simp only [← mem_suffixes_ofList (o := o)]
      rw [encard_suffixes, size_suffixes hbuilt.sorted]
    case isEmpty => exact isEmpty_iff_length_eq_zero hbuilt.pruned
    case size => exact size_root_ofList
    case root => exact hbuilt.unmarked
    case leaves => exact fun p m => hbuilt.leaves
  · have hs : s ≠ [] ∧ s ∈ suffixes ↔ s ≠ [] ∧ s ∈ others := by
      rw [← mem_suffixes_ofList (o := o), h, mem_suffixes_ofList]
    rwa [and_congr_right_iff, imp_iff_right hne] at hs

end Trie
end SuffixPattern
