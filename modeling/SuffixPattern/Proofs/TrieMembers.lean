import SuffixPattern.Trie

/-!
# SuffixPattern.Proofs.TrieMembers

The words of a trie. Insertion adds exactly the word that is inserted (`mem_words_insert`), keeps
siblings in order (`IsSorted`) and leaves no branch without a word at its end (`IsPruned`). Such a
forest is determined by its words (`eq_of_same_words`), so a trie is a name for its set of members.
-/

namespace SuffixPattern

open Ranked (before)

namespace Forest

variable {κ : Type}

/-! ## Words by their first key -/

/-- The keys of the edges that leave the node. -/
def keys : Forest κ → List κ
  | .nil => []
  | .cons k _ _ rest => k :: rest.keys

theorem mem_words_cons {k : κ} {t : Bool} {below rest : Forest κ} {w : List κ} :
    w ∈ (cons k t below rest).words ↔
      (∃ v, w = k :: v ∧ (v = [] ∧ t = true ∨ v ∈ below.words)) ∨ w ∈ rest.words := by
  have hmark : w ∈ (if t then [[k]] else []) ↔ w = [k] ∧ t = true := by
    cases t <;> simp
  rw [words, List.mem_append, List.mem_append, hmark, List.mem_map]
  constructor
  · rintro ((⟨rfl, ht⟩ | ⟨v, hv, rfl⟩) | h)
    · exact .inl ⟨[], rfl, .inl ⟨rfl, ht⟩⟩
    · exact .inl ⟨v, rfl, .inr hv⟩
    · exact .inr h
  · rintro (⟨v, rfl, ⟨rfl, ht⟩ | hv⟩ | h)
    · exact .inl (.inl ⟨rfl, ht⟩)
    · exact .inl (.inr ⟨v, hv, rfl⟩)
    · exact .inr h

theorem exists_key_of_mem_words {f : Forest κ} {w : List κ} (h : w ∈ f.words) :
    ∃ k ∈ f.keys, ∃ v, w = k :: v := by
  induction f generalizing w with
  | nil => cases h
  | cons k t below rest _ ih =>
    rcases mem_words_cons.1 h with ⟨v, rfl, -⟩ | h
    · exact ⟨k, .head _, v, rfl⟩
    · obtain ⟨k', hk', v, rfl⟩ := ih h
      exact ⟨k', .tail _ hk', v, rfl⟩

theorem nil_not_mem_words {f : Forest κ} : [] ∉ f.words := by
  intro h
  obtain ⟨k, -, v, hv⟩ := exists_key_of_mem_words h
  cases hv

theorem mem_keys_of_cons_mem_words {f : Forest κ} {k : κ} {w : List κ} (h : k :: w ∈ f.words) :
    k ∈ f.keys := by
  obtain ⟨k', hk', v, hv⟩ := exists_key_of_mem_words h
  cases hv
  exact hk'

theorem nil_mem_words_iff {n : Node κ} : [] ∈ n.words ↔ n.terminal = true := by
  have hmark : ([] : List κ) ∈ (if n.terminal then [[]] else []) ↔ n.terminal = true := by
    cases n.terminal <;> simp
  rw [Node.words, List.mem_append, hmark]
  exact or_iff_left nil_not_mem_words

theorem cons_mem_node_words {n : Node κ} {k : κ} {w : List κ} :
    k :: w ∈ n.words ↔ k :: w ∈ n.children.words := by
  rw [Node.words, List.mem_append]
  refine or_iff_right ?_
  cases n.terminal <;> simp

theorem mem_keys_of_child? [DecidableEq κ] {f : Forest κ} {k : κ} {n : Node κ}
    (h : f.child? k = some n) : k ∈ f.keys := by
  induction f with
  | nil => cases h
  | cons k' t below rest _ ih =>
    rw [child?] at h
    split at h
    · rename_i heq
      exact heq ▸ .head _
    · exact .tail _ (ih h)

/-! ## Branches without a word -/

/-- Every leaf is marked. -/
def IsPruned : Forest κ → Prop
  | .nil => True
  | .cons _ t below rest => (below = .nil → t = true) ∧ below.IsPruned ∧ rest.IsPruned

theorem exists_word_below {k : κ} {t : Bool} {below rest : Forest κ}
    (hmark : below = .nil → t = true) (hbelow : below ≠ .nil → ∃ v, v ∈ below.words) :
    ∃ w, k :: w ∈ (cons k t below rest).words := by
  by_cases h : below = .nil
  · exact ⟨[], mem_words_cons.2 (.inl ⟨[], rfl, .inl ⟨rfl, hmark h⟩⟩)⟩
  · obtain ⟨v, hv⟩ := hbelow h
    exact ⟨v, mem_words_cons.2 (.inl ⟨v, rfl, .inr hv⟩)⟩

theorem exists_word {f : Forest κ} (hf : f.IsPruned) (hne : f ≠ .nil) : ∃ w, w ∈ f.words := by
  induction f with
  | nil => exact absurd rfl hne
  | cons k t below rest ihb _ =>
    obtain ⟨w, hw⟩ : ∃ w, k :: w ∈ (cons k t below rest).words :=
      exists_word_below hf.1 (ihb hf.2.1)
    exact ⟨k :: w, hw⟩

theorem exists_word_of_mem_keys {f : Forest κ} (hf : f.IsPruned) {k : κ} (h : k ∈ f.keys) :
    ∃ w, k :: w ∈ f.words := by
  induction f with
  | nil => cases h
  | cons k' t below rest _ ih =>
    rcases List.mem_cons.1 h with rfl | h
    · exact exists_word_below hf.1 (exists_word hf.2.1)
    · obtain ⟨w, hw⟩ := ih hf.2.2 h
      exact ⟨w, mem_words_cons.2 (.inr hw)⟩

theorem mem_keys_of_same_words {f g : Forest κ} (hf : f.IsPruned)
    (h : ∀ w, w ∈ f.words ↔ w ∈ g.words) {k : κ} (hk : k ∈ f.keys) : k ∈ g.keys := by
  obtain ⟨w, hw⟩ := exists_word_of_mem_keys hf hk
  exact mem_keys_of_cons_mem_words ((h _).1 hw)

theorem mem_words_path {ks w : List κ} : w ∈ (path ks).words ↔ w = ks ∧ ks ≠ [] := by
  induction ks generalizing w with
  | nil => simp [path, words]
  | cons k ks ih =>
    rw [path, mem_words_cons]
    constructor
    · rintro (⟨v, rfl, ⟨rfl, hks⟩ | hv⟩ | h)
      · rw [List.isEmpty_iff] at hks
        subst hks
        exact ⟨rfl, List.cons_ne_nil _ _⟩
      · rw [(ih.1 hv).1]
        exact ⟨rfl, List.cons_ne_nil _ _⟩
      · cases h
    · rintro ⟨rfl, -⟩
      refine .inl ⟨ks, rfl, ?_⟩
      cases ks with
      | nil => exact .inl ⟨rfl, rfl⟩
      | cons k' ks => exact .inr (ih.2 ⟨rfl, List.cons_ne_nil _ _⟩)

/-- A path beside other edges adds its own word. -/
theorem mem_words_cons_path {k : κ} {ks w : List κ} {f : Forest κ} :
    w ∈ (cons k ks.isEmpty (path ks) f).words ↔ w = k :: ks ∨ w ∈ f.words := by
  have hnil : w ∉ (Forest.nil : Forest κ).words := List.not_mem_nil
  have hpath : w ∈ (path (k :: ks)).words ↔ w = k :: ks :=
    mem_words_path.trans (and_iff_left (List.cons_ne_nil k ks))
  rw [path, mem_words_cons, or_iff_left hnil] at hpath
  rw [mem_words_cons, hpath]

theorem isPruned_path (ks : List κ) : (path ks).IsPruned := by
  induction ks with
  | nil => trivial
  | cons k ks ih =>
    refine ⟨fun h => ?_, ih, trivial⟩
    cases ks with
    | nil => rfl
    | cons k' ks => cases h

variable [Ranked κ]

/-! ## Order among siblings -/

/-- The keys of siblings ascend, at every node. -/
def IsSorted : Forest κ → Prop
  | .nil => True
  | .cons k _ below rest =>
    (∀ k' ∈ rest.keys, before k k' = true) ∧ below.IsSorted ∧ rest.IsSorted

/-- Among siblings in order, the words with the first key are those of the first edge. -/
theorem cons_mem_words_cons {k : κ} {t : Bool} {below rest : Forest κ} {w : List κ}
    (hk : ∀ k' ∈ rest.keys, before k k' = true) :
    k :: w ∈ (cons k t below rest).words ↔ w = [] ∧ t = true ∨ w ∈ below.words := by
  rw [mem_words_cons]
  constructor
  · rintro (⟨v, hv, h⟩ | h)
    · cases hv
      exact h
    · exact absurd rfl (Ranked.ne_of_before (hk k (mem_keys_of_cons_mem_words h)))
  · exact fun h => .inl ⟨w, rfl, h⟩

theorem mem_words_rest {k : κ} {t : Bool} {below rest : Forest κ} {w : List κ}
    (hk : ∀ k' ∈ rest.keys, before k k' = true) :
    w ∈ rest.words ↔ w ∈ (cons k t below rest).words ∧ ∀ v, w ≠ k :: v := by
  rw [mem_words_cons]
  constructor
  · intro h
    refine ⟨.inr h, ?_⟩
    rintro v rfl
    exact absurd rfl (Ranked.ne_of_before (hk k (mem_keys_of_cons_mem_words h)))
  · rintro ⟨⟨v, rfl, -⟩ | h, hne⟩
    · exact absurd rfl (hne v)
    · exact h

/-! ## Children -/

section Children

variable [DecidableEq κ]

theorem child?_rest_of_mem_keys {k : κ} {t : Bool} {below rest : Forest κ}
    (hk : ∀ k' ∈ rest.keys, before k k' = true) {k' : κ} (h : k' ∈ rest.keys) :
    (cons k t below rest).child? k' = rest.child? k' :=
  if_neg (Ranked.ne_of_before (hk k' h))

/-- Among siblings in order, the words with a key are those of the child with that key. -/
theorem cons_mem_words_iff {f : Forest κ} (hf : f.IsSorted) {k : κ} {w : List κ} :
    k :: w ∈ f.words ↔ ∃ n, f.child? k = some n ∧ w ∈ n.words := by
  induction f with
  | nil => simp [words, child?]
  | cons k' t below rest _ ih =>
    by_cases heq : k' = k
    · subst heq
      have hchild : (cons k' t below rest).child? k' = some ⟨t, below⟩ := if_pos rfl
      have hmark : w ∈ (if t then [[]] else []) ↔ w = [] ∧ t = true := by
        cases t <;> simp
      rw [cons_mem_words_cons hf.1, hchild]
      simp only [Option.some.injEq, exists_eq_left', Node.words, List.mem_append, hmark]
    · have hchild : (cons k' t below rest).child? k = rest.child? k := if_neg heq
      rw [hchild, ← ih hf.2.2, mem_words_cons]
      constructor
      · rintro (⟨v, hv, -⟩ | h)
        · cases hv
          exact absurd rfl heq
        · exact h
      · exact .inr

/-- A child is sorted and pruned as its parent is, and it is marked if it is a leaf. -/
theorem child?_invariants {f : Forest κ} (hsorted : f.IsSorted) (hpruned : f.IsPruned) {k : κ}
    {n : Node κ} (h : f.child? k = some n) :
    n.children.IsSorted ∧ n.children.IsPruned ∧ (n.children = .nil → n.terminal = true) := by
  induction f with
  | nil => cases h
  | cons k' t below rest _ ih =>
    rw [child?] at h
    split at h
    · cases h
      exact ⟨hsorted.2.1, hpruned.2.1, hpruned.1⟩
    · exact ih hsorted.2.2 hpruned.2.2 h

end Children

/-- The first keys of two ordered lists of siblings are the same if each is found in the other. -/
theorem first_key_eq {k k' : κ} {ks ks' : List κ} (hk : ∀ x ∈ ks, before k x = true)
    (hk' : ∀ x ∈ ks', before k' x = true) (h : k ∈ k' :: ks') (h' : k' ∈ k :: ks) : k = k' := by
  rcases List.mem_cons.1 h with h | h
  · exact h
  · rcases List.mem_cons.1 h' with h' | h'
    · exact h'.symm
    · exact absurd rfl (Ranked.ne_of_before (Ranked.trans k' k k' (hk' k h) (hk k' h')))

/-- **A trie is determined by its words**, if no branch is without one. -/
theorem eq_of_same_words {f g : Forest κ} (hf : f.IsSorted) (hf' : f.IsPruned) (hg : g.IsSorted)
    (hg' : g.IsPruned) (h : ∀ w, w ∈ f.words ↔ w ∈ g.words) : f = g := by
  induction f generalizing g with
  | nil =>
    cases g with
    | nil => rfl
    | cons k t below rest =>
      cases mem_keys_of_same_words hg' (fun w => (h w).symm) (.head _)
  | cons k t below rest ihb ihr =>
    cases g with
    | nil => cases mem_keys_of_same_words hf' h (.head _)
    | cons k' t' below' rest' =>
      have hk : k = k' := first_key_eq hf.1 hg.1 (mem_keys_of_same_words hf' h (.head _))
        (mem_keys_of_same_words hg' (fun w => (h w).symm) (.head _))
      subst hk
      have hsame : ∀ w, (w = [] ∧ t = true ∨ w ∈ below.words) ↔
          (w = [] ∧ t' = true ∨ w ∈ below'.words) := by
        intro w
        rw [← cons_mem_words_cons (t := t) hf.1, h, cons_mem_words_cons hg.1]
      have ht : t = t' := by
        have := hsame []
        simp only [true_and, nil_not_mem_words, or_false] at this
        exact Bool.eq_iff_iff.2 this
      have hbelow : below = below' := by
        refine ihb hf.2.1 hf'.2.1 hg.2.1 hg'.2.1 fun w => ?_
        cases w with
        | nil => simp [nil_not_mem_words]
        | cons a w => simpa using hsame (a :: w)
      have hrest : rest = rest' := by
        refine ihr hf.2.2 hf'.2.2 hg.2.2 hg'.2.2 fun w => ?_
        have hfirst : w ∈ rest.words ↔ w ∈ (cons k t below rest).words ∧ ∀ v, w ≠ k :: v :=
          mem_words_rest hf.1
        rw [hfirst, mem_words_rest hg.1, h]
      rw [ht, hbelow, hrest]

/-- A tree is determined by its words in the same way. -/
theorem node_eq_of_same_words {m n : Node κ} (hm : m.children.IsSorted)
    (hm' : m.children.IsPruned) (hn : n.children.IsSorted) (hn' : n.children.IsPruned)
    (h : ∀ w, w ∈ m.words ↔ w ∈ n.words) : m = n := by
  obtain ⟨t, f⟩ := m
  obtain ⟨t', f'⟩ := n
  have hterminal : t = t' := by
    rw [Bool.eq_iff_iff]
    exact (nil_mem_words_iff (n := ⟨t, f⟩)).symm.trans ((h []).trans nil_mem_words_iff)
  have hchildren : f = f' := by
    refine eq_of_same_words hm hm' hn hn' fun w => ?_
    cases w with
    | nil => exact iff_of_false nil_not_mem_words nil_not_mem_words
    | cons k w => exact cons_mem_node_words.symm.trans ((h (k :: w)).trans cons_mem_node_words)
  rw [hterminal, hchildren]

/-! ## Insertion -/

/-- What insertion does at a node depends on how the first key compares with that of the first
edge. -/
theorem insert_cons_cases (k' : κ) (t : Bool) (below rest : Forest κ) (k : κ) (ks : List κ) :
    before k k' = true ∧
        (cons k' t below rest).insert (k :: ks) =
          .cons k ks.isEmpty (path ks) (.cons k' t below rest) ∨
      before k' k = true ∧
        (cons k' t below rest).insert (k :: ks) = .cons k' t below (rest.insert (k :: ks)) ∨
      k = k' ∧
        (cons k' t below rest).insert (k :: ks) =
          .cons k' (t || ks.isEmpty) (below.insert ks) rest := by
  rw [insert]
  cases h₁ : before k k' with
  | true => exact .inl ⟨rfl, rfl⟩
  | false =>
    cases h₂ : before k' k with
    | true => exact .inr (.inl ⟨rfl, rfl⟩)
    | false => exact .inr (.inr ⟨Ranked.total k k' h₁ h₂, rfl⟩)

theorem insert_nil (f : Forest κ) : f.insert [] = f := by
  cases f <;> rfl

/-- Insertion below a node adds one word to those of the node, and marks the node for the empty
word. -/
theorem mem_words_insert_below {t : Bool} {below : Forest κ} {ks v : List κ}
    (h : v ∈ (below.insert ks).words ↔ v ∈ below.words ∨ v = ks ∧ ks ≠ []) :
    (v = [] ∧ (t || ks.isEmpty) = true ∨ v ∈ (below.insert ks).words) ↔
      (v = [] ∧ t = true ∨ v ∈ below.words) ∨ v = ks := by
  rw [h, Bool.or_eq_true, List.isEmpty_iff]
  constructor
  · rintro (⟨rfl, ht | rfl⟩ | hv | ⟨rfl, -⟩)
    · exact .inl (.inl ⟨rfl, ht⟩)
    · exact .inr rfl
    · exact .inl (.inr hv)
    · exact .inr rfl
  · rintro ((⟨rfl, ht⟩ | hv) | rfl)
    · exact .inl ⟨rfl, .inl ht⟩
    · exact .inr (.inl hv)
    · by_cases hks : v = []
      · exact .inl ⟨hks, .inr hks⟩
      · exact .inr (.inr ⟨rfl, hks⟩)

/-- **Insertion adds one word.** -/
theorem mem_words_insert {f : Forest κ} {word w : List κ} :
    w ∈ (f.insert word).words ↔ w ∈ f.words ∨ w = word ∧ word ≠ [] := by
  induction f generalizing word w with
  | nil =>
    cases word with
    | nil => simp [insert_nil]
    | cons k ks =>
      have hnil : (Forest.nil : Forest κ).insert (k :: ks) = path (k :: ks) := rfl
      rw [hnil, mem_words_path]
      simp [words]
  | cons k' t below rest ihb ihr =>
    cases word with
    | nil => simp [insert_nil]
    | cons k ks =>
      have hword : (w = k :: ks ∧ k :: ks ≠ []) ↔ w = k :: ks :=
        and_iff_left (List.cons_ne_nil k ks)
      rw [hword]
      rcases insert_cons_cases k' t below rest k ks with ⟨-, h⟩ | ⟨-, h⟩ | ⟨rfl, h⟩
      · rw [h, mem_words_cons_path, or_comm]
      · rw [h, mem_words_cons, mem_words_cons, ihr, hword, or_assoc]
      · rw [h, mem_words_cons, mem_words_cons]
        simp only [mem_words_insert_below ihb]
        constructor
        · rintro (⟨v, rfl, hv | rfl⟩ | hw)
          · exact .inl (.inl ⟨v, rfl, hv⟩)
          · exact .inr rfl
          · exact .inl (.inr hw)
        · rintro ((⟨v, rfl, hv⟩ | hw) | rfl)
          · exact .inl ⟨v, rfl, .inl hv⟩
          · exact .inr hw
          · exact .inl ⟨ks, rfl, .inr rfl⟩

theorem insert_eq_nil_iff {f : Forest κ} {word : List κ} :
    f.insert word = .nil ↔ f = .nil ∧ word = [] := by
  cases word with
  | nil => simp [insert_nil]
  | cons k ks =>
    cases f with
    | nil => simp [insert, path]
    | cons k' t below rest =>
      rcases insert_cons_cases k' t below rest k ks with ⟨-, h⟩ | ⟨-, h⟩ | ⟨-, h⟩ <;> simp [h]

theorem mem_keys_insert {f : Forest κ} {k : κ} {ks : List κ} {k' : κ} :
    k' ∈ (f.insert (k :: ks)).keys ↔ k' = k ∨ k' ∈ f.keys := by
  induction f with
  | nil => simp [insert, path, keys]
  | cons k₁ t below rest _ ih =>
    rcases insert_cons_cases k₁ t below rest k ks with ⟨-, h⟩ | ⟨-, h⟩ | ⟨rfl, h⟩
    · simp [h, keys]
    · simp [h, keys, ih, or_left_comm]
    · simp [h, keys]

theorem isSorted_path (ks : List κ) : (path ks).IsSorted := by
  induction ks with
  | nil => trivial
  | cons k ks ih => exact ⟨fun _ hk => absurd hk List.not_mem_nil, ih, trivial⟩

theorem isSorted_insert {f : Forest κ} (hf : f.IsSorted) (word : List κ) :
    (f.insert word).IsSorted := by
  induction f generalizing word with
  | nil =>
    cases word with
    | nil => trivial
    | cons k ks => exact isSorted_path (k :: ks)
  | cons k' t below rest ihb ihr =>
    cases word with
    | nil => exact hf
    | cons k ks =>
      obtain ⟨hk', hbelow, hrest⟩ := hf
      rcases insert_cons_cases k' t below rest k ks with ⟨hlt, h⟩ | ⟨hlt, h⟩ | ⟨rfl, h⟩
      · rw [h]
        refine ⟨fun k₁ hk₁ => ?_, isSorted_path ks, hk', hbelow, hrest⟩
        rcases List.mem_cons.1 hk₁ with rfl | hk₁
        · exact hlt
        · exact Ranked.trans k k' k₁ hlt (hk' k₁ hk₁)
      · rw [h]
        refine ⟨fun k₁ hk₁ => ?_, hbelow, ihr hrest (k :: ks)⟩
        rcases mem_keys_insert.1 hk₁ with rfl | hk₁
        · exact hlt
        · exact hk' k₁ hk₁
      · rw [h]
        exact ⟨hk', ihb hbelow ks, hrest⟩

theorem isPruned_insert {f : Forest κ} (hf : f.IsPruned) (word : List κ) :
    (f.insert word).IsPruned := by
  induction f generalizing word with
  | nil =>
    cases word with
    | nil => trivial
    | cons k ks => exact isPruned_path (k :: ks)
  | cons k' t below rest ihb ihr =>
    cases word with
    | nil => exact hf
    | cons k ks =>
      obtain ⟨hmark, hbelow, hrest⟩ := hf
      rcases insert_cons_cases k' t below rest k ks with ⟨-, h⟩ | ⟨-, h⟩ | ⟨rfl, h⟩
      · rw [h]
        exact ⟨(isPruned_path (k :: ks)).1, isPruned_path ks, hmark, hbelow, hrest⟩
      · rw [h]
        exact ⟨hmark, hbelow, ihr hrest (k :: ks)⟩
      · rw [h]
        refine ⟨fun hnil => ?_, ihb hbelow ks, hrest⟩
        simp [(insert_eq_nil_iff.1 hnil).2]

end Forest

/-! ## Tries of lists -/

namespace Trie

/-- What holds of every trie that is built by insertion. -/
structure IsBuilt (t : Trie) : Prop where
  unmarked : t.root.terminal = false
  sorted : t.root.children.IsSorted
  pruned : t.root.children.IsPruned

theorem isBuilt_empty (o : Orientation) : IsBuilt { orientation := o } :=
  ⟨rfl, trivial, trivial⟩

theorem isBuilt_insert {t : Trie} (h : t.IsBuilt) (s : Text) : (t.insert s).IsBuilt := by
  unfold insert
  split
  · exact h
  · rename_i hs
    have hne : t.orientation.trieOrder s ≠ [] := by
      cases t.orientation <;> simpa [Orientation.trieOrder] using hs
    refine ⟨?_, Forest.isSorted_insert h.sorted _, Forest.isPruned_insert h.pruned _⟩
    simp [Node.insert, h.unmarked, hne]

theorem orientation_insert (t : Trie) (s : Text) : (t.insert s).orientation = t.orientation := by
  unfold insert
  split <;> rfl

theorem mem_words_insert {t : Trie} {s w : Text} :
    w ∈ (t.insert s).root.children.words ↔
      w ∈ t.root.children.words ∨ s ≠ [] ∧ w = t.orientation.trieOrder s := by
  unfold insert
  split
  · rename_i hs
    simp [List.isEmpty_iff.1 hs]
  · rename_i hs
    have hs : s ≠ [] := by simpa using hs
    have hne : t.orientation.trieOrder s ≠ [] := by
      cases t.orientation <;> simpa [Orientation.trieOrder] using hs
    simp [Node.insert, Forest.mem_words_insert, hs, hne]

theorem foldl_insert (suffixes : List Text) {t : Trie} (h : t.IsBuilt) :
    (suffixes.foldl insert t).IsBuilt ∧
      (suffixes.foldl insert t).orientation = t.orientation ∧
      ∀ w, w ∈ (suffixes.foldl insert t).root.children.words ↔
        w ∈ t.root.children.words ∨ ∃ s ∈ suffixes, s ≠ [] ∧ w = t.orientation.trieOrder s := by
  induction suffixes generalizing t with
  | nil => simp [h]
  | cons s rest ih =>
    obtain ⟨hbuilt, horient, hwords⟩ := ih (isBuilt_insert h s)
    rw [orientation_insert] at horient hwords
    refine ⟨hbuilt, horient, fun w => ?_⟩
    rw [List.foldl_cons, hwords, mem_words_insert]
    simp [or_assoc]

variable (o : Orientation) (suffixes : List Text)

theorem isBuilt_ofList : (ofList o suffixes).IsBuilt :=
  (foldl_insert suffixes (isBuilt_empty o)).1

theorem orientation_ofList : (ofList o suffixes).orientation = o :=
  (foldl_insert suffixes (isBuilt_empty o)).2.1

/-- **The words of a trie** are the suffixes it was built from, but for the empty one. -/
theorem mem_words_ofList {w : Text} :
    w ∈ (ofList o suffixes).root.children.words ↔
      ∃ s ∈ suffixes, s ≠ [] ∧ w = o.trieOrder s := by
  rw [ofList, (foldl_insert suffixes (isBuilt_empty o)).2.2]
  simp [Forest.words]

theorem readingOrder_mem_iff {w : Text} :
    (∃ v ∈ (ofList o suffixes).root.children.words, w = o.readingOrder v) ↔
      w ∈ suffixes ∧ w ≠ [] := by
  simp only [mem_words_ofList]
  constructor
  · rintro ⟨v, ⟨s, hs, hne, rfl⟩, rfl⟩
    rw [Orientation.readingOrder_trieOrder]
    exact ⟨hs, hne⟩
  · rintro ⟨hw, hne⟩
    exact ⟨o.trieOrder w, ⟨w, hw, hne, rfl⟩, (Orientation.readingOrder_trieOrder o w).symm⟩

end Trie
end SuffixPattern
