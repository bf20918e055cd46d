import Mathlib.Data.List.Nodup
import SuffixPattern.Proofs.Compaction
import SuffixPattern.Proofs.Insertion
import SuffixPattern.Proofs.NodePaths

/-!
# SuffixPattern.Proofs.TrieViews

All ways of looking at a trie show the same members, whatever its shape is and whatever orientation
it was given afterwards (`views_agree`): the list of its words, the walk that looks a word up, the
count of its marks and the list of the words of the compact trie. What is common to them is told by
paths alone: the members are what the paths to the marks spell.

`Forest.paths` lists the paths to all nodes. Where siblings are in order none is listed twice, so
the words, which are some of them, are counted as a set by the marks.
-/

namespace SuffixPattern

open Ranked (before)

variable {κ : Type}

namespace Forest

/-! ## Paths to nodes -/

/-- The paths to the nodes below the root, marked or not, in the order of a walk. -/
def paths : Forest κ → List (List κ)
  | .nil => []
  | .cons k _ below rest => [k] :: below.paths.map (k :: ·) ++ rest.paths

theorem length_paths (f : Forest κ) : f.paths.length = f.size := by
  induction f with
  | nil => rfl
  | cons k t below rest ihb ihr =>
    rw [paths, size, List.length_append, List.length_cons, List.length_map, ihb, ihr]
    omega

theorem length_words (f : Forest κ) : f.words.length = f.terminals := by
  induction f with
  | nil => rfl
  | cons k t below rest ihb ihr =>
    rw [words, terminals, List.length_append, List.length_append, List.length_map, ihb, ihr]
    cases t <;> rfl

theorem words_sublist_paths (f : Forest κ) : f.words.Sublist f.paths := by
  induction f with
  | nil => exact .slnil
  | cons k t below rest ihb ihr =>
    have hmark : (if t then [[k]] else []).Sublist [[k]] := by
      cases t <;> simp
    exact (hmark.append (ihb.map _)).append ihr

theorem mem_paths_cons {k : κ} {t : Bool} {below rest : Forest κ} {p : List κ} :
    p ∈ (cons k t below rest).paths ↔
      (∃ v, p = k :: v ∧ (v = [] ∨ v ∈ below.paths)) ∨ p ∈ rest.paths := by
  rw [paths, List.mem_append, List.mem_cons, List.mem_map]
  refine or_congr_left ⟨?_, ?_⟩
  · rintro (rfl | ⟨v, hv, rfl⟩)
    · exact ⟨[], rfl, .inl rfl⟩
    · exact ⟨v, rfl, .inr hv⟩
  · rintro ⟨v, rfl, rfl | hv⟩
    · exact .inl rfl
    · exact .inr ⟨v, hv, rfl⟩

theorem nil_not_mem_paths {f : Forest κ} : [] ∉ f.paths := by
  induction f with
  | nil => exact List.not_mem_nil
  | cons k t below rest _ ih => simp [mem_paths_cons, ih]

theorem mem_keys_of_cons_mem_paths {f : Forest κ} {k : κ} {p : List κ} (h : k :: p ∈ f.paths) :
    k ∈ f.keys := by
  induction f with
  | nil => cases h
  | cons k' t below rest _ ih =>
    rcases mem_paths_cons.1 h with ⟨v, hv, -⟩ | h
    · cases hv
      exact .head _
    · exact .tail _ (ih h)

section Sorted

variable [Ranked κ] {f : Forest κ}

theorem nodup_paths (hf : f.IsSorted) : f.paths.Nodup := by
  induction f with
  | nil => exact .nil
  | cons k t below rest ihb ihr =>
    have hbelow : ([k] :: below.paths.map (k :: ·)).Nodup := by
      refine .cons ?_ ((ihb hf.2.1).map (List.cons_injective ..))
      simp [nil_not_mem_paths]
    rw [paths, List.nodup_append]
    refine ⟨hbelow, ihr hf.2.2, ?_⟩
    rintro p hp _ hrest rfl
    obtain ⟨v, rfl⟩ : ∃ v, p = k :: v := by
      rcases List.mem_cons.1 hp with rfl | hp
      · exact ⟨[], rfl⟩
      · obtain ⟨v, -, rfl⟩ := List.mem_map.1 hp
        exact ⟨v, rfl⟩
    exact Ranked.ne_of_before (hf.1 k (mem_keys_of_cons_mem_paths hrest)) rfl

theorem nodup_words (hf : f.IsSorted) : f.words.Nodup :=
  (nodup_paths hf).sublist (words_sublist_paths f)

/-- Among siblings in order an edge is found by its key. -/
theorem hasEdge_iff_child? [DecidableEq κ] (hf : f.IsSorted) {k : κ} {n : Node κ} :
    f.HasEdge k n ↔ f.child? k = some n := by
  constructor
  · intro h
    induction h with
    | first => exact if_pos rfl
    | later h ih => exact (child?_rest_of_mem_keys hf.1 h.mem_keys).trans (ih hf.2.2)
  · intro h
    induction f with
    | nil => cases h
    | cons k' t below rest _ ih =>
      rw [child?] at h
      split at h
      · rename_i heq
        cases heq
        cases h
        exact .first
      · exact .later (ih hf.2.2 h)

end Sorted

end Forest

/-! ## Words and marks -/

namespace Node

theorem length_words (n : Node κ) : n.words.length = n.terminals := by
  rw [words, terminals, List.length_append, Forest.length_words]
  cases n.terminal <;> rfl

variable [Ranked κ] {n : Node κ}

theorem nodup_words (hn : n.children.IsSorted) : n.words.Nodup := by
  have hbelow := Forest.nodup_words hn
  rw [words]
  cases n.terminal with
  | false => exact hbelow
  | true => exact List.nodup_cons.2 ⟨Forest.nil_not_mem_words, hbelow⟩

variable [DecidableEq κ]

/-- A walk follows the edges. -/
theorem leads_iff_at? (hn : n.children.IsSorted) {p : List κ} {m : Node κ} :
    n.Leads p m ↔ n.at? p = some m := by
  induction p generalizing n with
  | nil =>
    refine ⟨fun h => ?_, fun h => ?_⟩
    · cases h
      rfl
    · cases h
      exact .here
  | cons k p ih =>
    rw [at?, Option.bind_eq_some_iff]
    constructor
    · intro h
      cases h with
      | down hedge hrest =>
        have hchild := (Forest.hasEdge_iff_child? hn).1 hedge
        exact ⟨_, hchild, (ih (Forest.isSorted_child? hn hchild)).1 hrest⟩
    · rintro ⟨c, hchild, hrest⟩
      exact .down ((Forest.hasEdge_iff_child? hn).2 hchild)
        ((ih (Forest.isSorted_child? hn hchild)).2 hrest)

/-- **The words end at the marks.** -/
theorem mem_words_iff_mark? (hn : n.children.IsSorted) {w : List κ} :
    w ∈ n.words ↔ n.mark? w = some true := by
  induction w generalizing n with
  | nil => exact Forest.nil_mem_words_iff.trans Option.some_inj.symm
  | cons k w ih =>
    rw [Forest.cons_mem_node_words, Forest.cons_mem_words_iff hn, mark?_cons,
      Option.bind_eq_some_iff]
    exact exists_congr fun c => and_congr_right fun hc => ih (Forest.isSorted_child? hn hc)

end Node

/-! ## Members -/

namespace Trie

theorem mem_suffixes {t : Trie} {s : Text} :
    s ∈ t.suffixes ↔ t.orientation.trieOrder s ∈ t.root.words := by
  rw [suffixes, SortedSet.mem_ofList, List.mem_map]
  constructor
  · rintro ⟨w, hw, rfl⟩
    rw [Orientation.trieOrder_readingOrder]
    exact SortedSet.mem_ofList.1 hw
  · intro hw
    exact ⟨_, SortedSet.mem_ofList.2 hw, Orientation.readingOrder_trieOrder ..⟩

theorem strings_compact (n : Node Char) : CompactTrie.strings n.compact = strings n := by
  rw [CompactTrie.strings, strings, Node.flatten_words_compact]

section

variable {t : Trie} (h : t.root.children.IsSorted)
include h

/-- The walk of a member ends at a mark. -/
theorem mem_suffixes_iff_at? {s : Text} :
    s ∈ t.suffixes ↔ ∃ m, t.root.at? (t.orientation.trieOrder s) = some m ∧ m.terminal = true := by
  rw [mem_suffixes, Node.mem_words_iff_mark? h, Node.mark?_eq_true_iff]

theorem contains_iff {s : Text} : t.contains s = true ↔ s ≠ [] ∧ s ∈ t.suffixes := by
  rw [contains, Bool.and_eq_true, Option.any_eq_true, mem_suffixes_iff_at? h]
  simp

theorem size_suffixes : t.suffixes.size = t.length := by
  have hinjective : Function.Injective t.orientation.readingOrder :=
    Function.LeftInverse.injective (Orientation.trieOrder_readingOrder t.orientation)
  have hnodup : (strings t.root).toList.Nodup :=
    Ranked.nodup_of_ascending id (strings t.root).ascending
  have hstrings : (strings t.root).toList.length = t.root.words.length :=
    SortedSet.size_ofList (Node.nodup_words h)
  rw [suffixes, SortedSet.size_ofList (hnodup.map hinjective), List.length_map, hstrings,
    Node.length_words, length]

theorem mem_suffixes_iff_leads {s : Text} :
    s ∈ t.suffixes ↔
      ∃ m, t.root.Leads (t.orientation.trieOrder s) m ∧ m.terminal = true := by
  rw [mem_suffixes_iff_at? h]
  exact exists_congr fun m => and_congr_left fun _ => (Node.leads_iff_at? h).symm

end

/-- **All views of a trie agree.** The members are spelled by the paths to the marks. They are as
many as are counted, each but the empty one is found, and the compact trie has the same ones. -/
theorem views_agree {t : Trie} (h : t.root.children.IsSorted) :
    t.length = t.suffixes.size ∧
      (∀ s, t.contains s = true ↔ s ≠ [] ∧ s ∈ t.suffixes) ∧
      (∀ s, s ∈ t.suffixes ↔
        ∃ m, t.root.Leads (t.orientation.trieOrder s) m ∧ m.terminal = true) ∧
      t.compact.suffixes = t.suffixes ∧
      CompactTrie.strings t.compact.root = strings t.root := by
  refine ⟨(size_suffixes h).symm, fun s => contains_iff h, fun s => mem_suffixes_iff_leads h, ?_,
    strings_compact t.root⟩
  have hstrings : CompactTrie.strings t.compact.root = strings t.root := strings_compact t.root
  rw [CompactTrie.suffixes, hstrings, suffixes]
  rfl

/-- A tree that was laid from the start and is read from the end. -/
theorem views_agree_turned :
    Node.unevenTree.children.IsSorted ∧ length ⟨.fromEnd, Node.unevenTree⟩ = 2 ∧
      contains ⟨.fromEnd, Node.unevenTree⟩ "да".toList = true ∧
      contains ⟨.fromEnd, Node.unevenTree⟩ [] = false ∧
      (CompactTrie.suffixes (compact ⟨.fromEnd, Node.unevenTree⟩)).toList = [[], "да".toList] := by
  obtain ⟨hlength, hcontains, -, hcompact, -⟩ :=
    views_agree (t := ⟨.fromEnd, Node.unevenTree⟩) Node.isSorted_unevenTree
  refine ⟨Node.isSorted_unevenTree, ?_, (hcontains _).2 ⟨by decide, ?_⟩, ?_, ?_⟩
  · rw [hlength]
    decide
  · exact SortedSet.contains_iff.1 (by decide)
  · rw [Bool.eq_false_iff, Ne, hcontains]
    exact fun hnil => hnil.1 rfl
  · rw [hcompact]
    decide

end Trie
end SuffixPattern
