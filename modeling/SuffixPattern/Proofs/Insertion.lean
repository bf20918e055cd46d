import SuffixPattern.Proofs.TrieMembers

/-!
# SuffixPattern.Proofs.Insertion

What insertion does to a tree of any shape (`insertion_adds_one_word`). It changes the nodes on the
way down its word (`at?_insert_append`) and nothing beside them (`at?_insert_beside`), and of
these nodes only the last one gets a mark (`mark?_insert`).

A tree whose siblings are in order is determined by the paths that lead somewhere and the marks at
their ends (`eq_of_mark?_eq`), so what two insertions come to is compared path by path.
-/

namespace SuffixPattern

open Ranked (before)

variable {κ : Type}

/-! ## Children -/

namespace Forest

theorem nil_insert [Ranked κ] (word : List κ) : (nil : Forest κ).insert word = path word := by
  cases word <;> rfl

variable [DecidableEq κ]

theorem child?_eq_none {f : Forest κ} {k : κ} (h : k ∉ f.keys) : f.child? k = none :=
  Option.eq_none_iff_forall_ne_some.2 fun _ hn => h (mem_keys_of_child? hn)

variable [Ranked κ] {f : Forest κ} {k : κ} {n : Node κ}

theorem child?_eq_none_of_before (h : ∀ k' ∈ f.keys, before k k' = true) : f.child? k = none :=
  child?_eq_none fun hk => Ranked.ne_of_before (h k hk) rfl

theorem isSorted_child? (hf : f.IsSorted) (h : f.child? k = some n) : n.children.IsSorted := by
  induction f with
  | nil => cases h
  | cons k' t below rest _ ih =>
    rw [child?] at h
    split at h
    · cases h
      exact hf.2.1
    · exact ih hf.2.2 h

/-- **Insertion changes one child**, which is a new one if there was none. -/
theorem child?_insert (hf : f.IsSorted) (k : κ) (ks : List κ) (k' : κ) :
    (f.insert (k :: ks)).child? k' =
      if k = k' then some (((f.child? k).getD {}).insert ks) else f.child? k' := by
  have hnew : Node.insert {} ks = ⟨ks.isEmpty, path ks⟩ := by
    rw [Node.insert, nil_insert, Bool.false_or]
  induction f with
  | nil => simp only [nil_insert, path, child?, Option.getD_none, hnew]
  | cons k₁ t below rest _ ih =>
    rcases insert_cons_cases k₁ t below rest k ks with ⟨hlt, h⟩ | ⟨hlt, h⟩ | ⟨rfl, h⟩
    · have hnone : (cons k₁ t below rest).child? k = none := by
        refine child?_eq_none_of_before fun k₂ hk₂ => ?_
        rcases List.mem_cons.1 hk₂ with rfl | hk₂
        · exact hlt
        · exact Ranked.trans k k₁ k₂ hlt (hf.1 k₂ hk₂)
      rw [h, child?, hnone, Option.getD_none, hnew]
    · have hne : k₁ ≠ k := Ranked.ne_of_before hlt
      have hk : (cons k₁ t below rest).child? k = rest.child? k := if_neg hne
      rw [h, child?, ih hf.2.2, hk, child?]
      by_cases heq : k₁ = k'
      · subst heq
        rw [if_pos rfl, if_pos rfl, if_neg hne.symm]
      · rw [if_neg heq, if_neg heq]
    · have hk : (cons k t below rest).child? k = some ⟨t, below⟩ := if_pos rfl
      rw [h, hk, child?, child?]
      split <;> rfl

/-- Insertion into a child is insertion at the node. -/
theorem place_insert (hf : f.IsSorted) (h : f.child? k = some n) (word : List κ) :
    f.place k (n.insert word) = f.insert (k :: word) := by
  induction f with
  | nil => cases h
  | cons k' t below rest _ ih =>
    rw [place, insert]
    rw [child?] at h
    split at h
    · rename_i heq
      subst heq
      cases h
      simp [Ranked.irrefl, Node.insert]
    · have hlt : before k' k = true := hf.1 k (mem_keys_of_child? h)
      simp [hlt, Ranked.asymm hlt, ih hf.2.2 h]

end Forest

/-! ## Paths -/

section Paths

variable [DecidableEq κ]

namespace Node

theorem getD_at?_cons (n : Node κ) (k : κ) (p : List κ) :
    (n.at? (k :: p)).getD {} = (((n.children.child? k).getD {}).at? p).getD {} := by
  rw [at?]
  cases n.children.child? k with
  | none => cases p <;> rfl
  | some c => rfl

/-- The mark at the end of a path, if there is a node. -/
def mark? (n : Node κ) (p : List κ) : Option Bool := (n.at? p).map (·.terminal)

theorem mark?_cons (n : Node κ) (k : κ) (p : List κ) :
    n.mark? (k :: p) = (n.children.child? k).bind (·.mark? p) :=
  Option.map_bind ..

theorem mark?_eq_true_iff {n : Node κ} {p : List κ} :
    n.mark? p = some true ↔ ∃ m, n.at? p = some m ∧ m.terminal = true :=
  Option.map_eq_some_iff

variable [Ranked κ] {n m : Node κ}

/-- On the way to the end of a word the rest of the word is inserted, and there is a node then. -/
theorem at?_insert_append (hn : n.children.IsSorted) (p word : List κ) :
    (n.insert (p ++ word)).at? p = some (((n.at? p).getD {}).insert word) := by
  induction p generalizing n with
  | nil => rfl
  | cons k p ih =>
    have hchild : ((n.children.child? k).getD {}).children.IsSorted := by
      cases h : n.children.child? k with
      | none => trivial
      | some c => exact Forest.isSorted_child? hn h
    rw [List.cons_append, insert, at?, Forest.child?_insert hn, if_pos rfl, Option.bind_some,
      ih hchild, getD_at?_cons]

/-- Off the way all is as before. -/
theorem at?_insert_beside (hn : n.children.IsSorted) {p word : List κ}
    (h : ¬ p <+: word) : (n.insert word).at? p = n.at? p := by
  induction p generalizing n word with
  | nil => exact absurd List.nil_prefix h
  | cons k p ih =>
    cases word with
    | nil => rw [insert, Forest.insert_nil, at?, at?]
    | cons k' ks =>
      rw [insert, at?, Forest.child?_insert hn, at?]
      split
      · rename_i heq
        subst heq
        have hp : ¬ p <+: ks := fun hp => h (List.cons_prefix_cons.2 ⟨rfl, hp⟩)
        rw [Option.bind_some]
        cases hchild : n.children.child? k' with
        | none =>
          have hnil : ({} : Node κ).children.IsSorted := trivial
          rw [Option.getD_none, ih hnil hp]
          cases p with
          | nil => exact absurd List.nil_prefix hp
          | cons k p => rfl
        | some c => exact ih (Forest.isSorted_child? hn hchild) hp
      · rfl

/-- Insertion at the end of a path is insertion of the longer word. -/
theorem updateAt?_insert (hn : n.children.IsSorted) {p : List κ} (h : n.at? p = some m)
    (word : List κ) : n.updateAt? (·.insert word) p = some (n.insert (p ++ word)) := by
  induction p generalizing n with
  | nil => rfl
  | cons k p ih =>
    obtain ⟨c, hc, hm⟩ := Option.bind_eq_some_iff.1 h
    rw [updateAt?, hc, Option.bind_some, ih (Forest.isSorted_child? hn hc) hm, Option.map_some,
      Forest.place_insert hn hc, insert, List.cons_append, List.isEmpty_cons, Bool.or_false]

/-- **Insertion marks the end of its word**, and brings the nodes on the way into being. -/
theorem mark?_insert (hn : n.children.IsSorted) (word p : List κ) :
    (n.insert word).mark? p =
      if p <+: word then some ((n.mark? p).getD false || decide (p = word)) else n.mark? p := by
  rw [mark?]
  split
  · rename_i hp
    obtain ⟨rest, rfl⟩ := hp
    have hend : rest.isEmpty = decide (p = p ++ rest) := by
      cases rest <;> simp
    rw [at?_insert_append hn, Option.map_some, insert, hend, mark?]
    cases n.at? p <;> rfl
  · rename_i hp
    rw [at?_insert_beside hn hp, mark?]

theorem mark?_insert_eq_true_iff (hn : n.children.IsSorted) {word p : List κ} :
    (n.insert word).mark? p = some true ↔ p = word ∨ n.mark? p = some true := by
  rw [mark?_insert hn]
  split
  · rw [Option.some_inj, Bool.or_eq_true, decide_eq_true_iff, or_comm]
    cases n.mark? p <;> simp
  · rename_i hp
    refine (or_iff_right ?_).symm
    rintro rfl
    exact hp (List.prefix_refl p)

end Node

/-! ## Trees by their marks -/

namespace Forest

/-- The same paths lead down from both, to the same marks. -/
def SameMarks (f g : Forest κ) : Prop :=
  ∀ k p, (f.child? k).bind (·.mark? p) = (g.child? k).bind (·.mark? p)

namespace SameMarks

variable {f g : Forest κ}

theorem symm (h : SameMarks f g) : SameMarks g f := fun k p => (h k p).symm

theorem mem_keys (h : SameMarks f g) {k : κ} {n : Node κ} (hn : f.child? k = some n) :
    k ∈ g.keys := by
  have hmark := h k []
  rw [hn] at hmark
  obtain ⟨m, hm, -⟩ := Option.bind_eq_some_iff.1 hmark.symm
  exact mem_keys_of_child? hm

end SameMarks

variable [Ranked κ] {f g : Forest κ}

theorem eq_of_sameMarks (hf : f.IsSorted) (hg : g.IsSorted) (h : SameMarks f g) : f = g := by
  induction f generalizing g with
  | nil =>
    cases g with
    | nil => rfl
    | cons k t below rest => cases h.symm.mem_keys (if_pos rfl)
  | cons k t below rest ihb ihr =>
    cases g with
    | nil => cases h.mem_keys (if_pos rfl)
    | cons k' t' below' rest' =>
      have hk : k = k' := first_key_eq hf.1 hg.1 (h.mem_keys (if_pos rfl))
        (h.symm.mem_keys (if_pos rfl))
      subst hk
      have hfirst : ∀ p, Node.mark? ⟨t, below⟩ p = Node.mark? ⟨t', below'⟩ p := by
        intro p
        have hp := h k p
        rw [child?, child?, if_pos rfl, if_pos rfl] at hp
        exact hp
      have ht : t = t' := Option.some.inj (hfirst [])
      have hbelow : below = below' := by
        refine ihb hf.2.1 hg.2.1 fun k p => ?_
        rw [← Node.mark?_cons ⟨t, below⟩, hfirst, Node.mark?_cons]
      have hrest : rest = rest' := by
        refine ihr hf.2.2 hg.2.2 fun k₁ p => ?_
        by_cases hk₁ : k = k₁
        · subst hk₁
          rw [child?_eq_none_of_before hf.1, child?_eq_none_of_before hg.1]
        · have hp := h k₁ p
          rw [child?, child?, if_neg hk₁, if_neg hk₁] at hp
          exact hp
      rw [ht, hbelow, hrest]

end Forest

namespace Node

variable [Ranked κ] {m n : Node κ}

/-- **A tree is determined by its paths and the marks at their ends.** -/
theorem eq_of_mark?_eq (hm : m.children.IsSorted) (hn : n.children.IsSorted)
    (h : ∀ p, m.mark? p = n.mark? p) : m = n := by
  obtain ⟨t, f⟩ := m
  obtain ⟨t', g⟩ := n
  have hroot : t = t' := Option.some.inj (h [])
  have hchildren : f = g := by
    refine Forest.eq_of_sameMarks hm hn fun k p => ?_
    rw [← mark?_cons ⟨t, f⟩, h, mark?_cons]
  rw [hroot, hchildren]

theorem insert_insert_self (hn : n.children.IsSorted) (word : List κ) :
    (n.insert word).insert word = n.insert word := by
  have hn' : (n.insert word).children.IsSorted := Forest.isSorted_insert hn word
  refine eq_of_mark?_eq (Forest.isSorted_insert hn' word) hn' fun p => ?_
  rw [mark?_insert hn', mark?_insert hn]
  split <;> simp

theorem insert_comm (hn : n.children.IsSorted) (word word' : List κ) :
    (n.insert word).insert word' = (n.insert word').insert word := by
  have hsorted : ∀ word, (n.insert word).children.IsSorted := Forest.isSorted_insert hn
  refine eq_of_mark?_eq (Forest.isSorted_insert (hsorted word) word')
    (Forest.isSorted_insert (hsorted word') word) fun p => ?_
  rw [mark?_insert (hsorted word), mark?_insert (hsorted word'), mark?_insert hn, mark?_insert hn]
  split <;> split <;> simp [Bool.or_right_comm]

end Node

end Paths

/-! ## Words -/

namespace Node

theorem mem_words_iff {n : Node κ} {w : List κ} :
    w ∈ n.words ↔ w = [] ∧ n.terminal = true ∨ w ∈ n.children.words := by
  rw [words, List.mem_append]
  cases n.terminal <;> simp

theorem mem_words_insert [Ranked κ] {n : Node κ} {word w : List κ} :
    w ∈ (n.insert word).words ↔ w = word ∨ w ∈ n.words := by
  rw [mem_words_iff, mem_words_iff, insert, Forest.mem_words_insert_below Forest.mem_words_insert,
    or_comm]

theorem strings_insert (n : Node Char) (word : Text) :
    Trie.strings (n.insert word) = (Trie.strings n).insert word := by
  refine SortedSet.ext fun w => ?_
  rw [SortedSet.mem_insert, Trie.strings, Trie.strings, SortedSet.mem_ofList, SortedSet.mem_ofList,
    mem_words_insert]

/-- **Insertion adds one word**, whatever the shape of the tree. The paths that lead somewhere
afterwards are those that did before and those to the nodes on the way; the mark at the end of the
word is the only new one. Repetition and order of insertions do not matter, and insertion into the
node at the end of a path is insertion of the path and the word. -/
theorem insertion_adds_one_word {n : Node Char} (hn : n.children.IsSorted) (word : Text) :
    (∀ p, ((n.insert word).at? p).isSome = true ↔ (n.at? p).isSome = true ∨ p <+: word) ∧
      (∀ p m, (n.insert word).at? p = some m →
        (m.terminal = true ↔ p = word ∨ ∃ m', n.at? p = some m' ∧ m'.terminal = true)) ∧
      Trie.strings (n.insert word) = (Trie.strings n).insert word ∧
      (n.insert word).insert word = n.insert word ∧
      (∀ word', (n.insert word).insert word' = (n.insert word').insert word) ∧
      ∀ p m, n.at? p = some m →
        n.updateAt? (·.insert word) p = some (n.insert (p ++ word)) ∧
          (n.insert (p ++ word)).at? p = some (m.insert word) := by
  refine ⟨fun p => ?_, fun p m hm => ?_, strings_insert n word, insert_insert_self hn word,
    insert_comm hn word, fun p m hm => ⟨updateAt?_insert hn hm word, ?_⟩⟩
  · by_cases hp : p <+: word
    · obtain ⟨rest, rfl⟩ := hp
      simp [at?_insert_append hn]
    · simp [at?_insert_beside hn hp, hp]
  · have hmark : (n.insert word).mark? p = some m.terminal := by
      rw [mark?, hm, Option.map_some]
    rw [← mark?_eq_true_iff, ← mark?_insert_eq_true_iff hn, hmark, Option.some_inj]
  · rw [at?_insert_append hn, hm, Option.getD_some]

/-- A marked root, a branch without a mark at its end, and the word "ад" beside it. -/
def unevenTree : Node Char :=
  ⟨true, .cons 'x' false (.cons 'y' false .nil .nil)
    (.cons 'а' false (.cons 'д' true .nil .nil) .nil)⟩

theorem isSorted_unevenTree : unevenTree.children.IsSorted := by
  simp [unevenTree, Forest.IsSorted, Forest.keys, Ranked.before]

theorem insertion_adds_one_word_uneven :
    unevenTree.children.IsSorted ∧ unevenTree.mark? ['x'] = some false ∧
      unevenTree.updateAt? (·.insert "yz".toList) ['x'] = some (unevenTree.insert "xyz".toList) ∧
      (Trie.strings (unevenTree.insert "xyz".toList)).toList = [[], "xyz".toList, "ад".toList] := by
  obtain ⟨-, -, hstrings, -, -, -⟩ := insertion_adds_one_word isSorted_unevenTree "xyz".toList
  obtain ⟨-, -, -, -, -, hbelow⟩ := insertion_adds_one_word isSorted_unevenTree "yz".toList
  refine ⟨isSorted_unevenTree, rfl, (hbelow ['x'] _ rfl).1, ?_⟩
  rw [hstrings]
  decide

end Node
end SuffixPattern
