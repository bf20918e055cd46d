import SuffixPattern.Proofs.Compaction
import SuffixPattern.Proofs.NodePaths

/-!
# SuffixPattern.Proofs.SpelledLabels

Compaction can be undone (`compaction_reversible`). `Node.spell` puts in place of every edge a chain
of edges with one character each, in which only the last node can have a mark or several children;
of a compact tree this makes the tree that was compacted, whatever its shape is.

* `IsLabelled`: no label is empty, at no node. Nothing more is asked of a tree to be spelled out.
* `leads_compact`, `exists_leads_compact`: what a path in the compact tree leads to, and the paths
  that lead to the marks.
-/

namespace SuffixPattern

namespace Forest

/-! ## Labels -/

def IsLabelled : Forest Text → Prop
  | .nil => True
  | .cons label _ below rest => label ≠ [] ∧ below.IsLabelled ∧ rest.IsLabelled

theorem isLabelled_compact (f : Forest Char) : f.compact.IsLabelled := by
  induction f with
  | nil => trivial
  | cons c t below rest ihb ihr =>
    rcases compact_cons_cases c t below rest with ⟨label, t', below', -, hb, h⟩ | ⟨-, h⟩
    · rw [hb] at ihb
      rw [h]
      exact ⟨List.cons_ne_nil _ _, ihb.2.1, ihr⟩
    · rw [h]
      exact ⟨List.cons_ne_nil _ _, ihb, ihr⟩

/-! ## Spelling out -/

/-- A chain of edges for the characters of a label; the mark and the edges below stand at its end.
An edge without a label is left out. -/
def spellEdge : Text → Bool → Forest Char → Forest Char → Forest Char
  | [], _, _, rest => rest
  | [c], t, below, rest => .cons c t below rest
  | c :: label, t, below, rest => .cons c false (spellEdge label t below .nil) rest

def spell : Forest Text → Forest Char
  | .nil => .nil
  | .cons label t below rest => spellEdge label t below.spell rest.spell

theorem spellEdge_cons (c : Char) {label : Text} (hne : label ≠ []) (t : Bool)
    (below rest : Forest Char) :
    spellEdge (c :: label) t below rest = .cons c false (spellEdge label t below .nil) rest := by
  cases label with
  | nil => exact absurd rfl hne
  | cons d label => rfl

/-- **Spelling out undoes compaction.** -/
theorem spell_compact (f : Forest Char) : f.compact.spell = f := by
  induction f with
  | nil => rfl
  | cons c t below rest ihb ihr =>
    rcases compact_cons_cases c t below rest with ⟨label, t', below', rfl, hb, h⟩ | ⟨-, h⟩
    · have hlabel : label ≠ [] := by
        have hlabelled := isLabelled_compact below
        rw [hb] at hlabelled
        exact hlabelled.1
      rw [hb, spell, spell] at ihb
      rw [h, spell, spellEdge_cons c hlabel, ihb, ihr]
    · rw [h, spell, spellEdge, ihb, ihr]

theorem terminals_compact (f : Forest Char) : f.compact.terminals = f.terminals := by
  induction f with
  | nil => rfl
  | cons c t below rest ihb ihr =>
    rcases compact_cons_cases c t below rest with ⟨label, t', below', rfl, hb, h⟩ | ⟨-, h⟩
    · rw [hb, terminals, terminals] at ihb
      rw [h, terminals, terminals, ← ihb, ihr, Bool.toNat_false]
      omega
    · rw [h, terminals, terminals, ihb, ihr]

end Forest

/-! ## Paths -/

namespace Forest

/-- The label of a compact edge leads to the node that was compacted to the one below the edge. -/
theorem exists_leads_of_hasEdge_compact {f : Forest Char} {label : Text} {m : Node Text}
    (h : f.compact.HasEdge label m) :
    ∃ c w child m', label = c :: w ∧ f.HasEdge c child ∧ child.Leads w m' ∧ m'.compact = m := by
  induction f generalizing label m with
  | nil => cases h
  | cons c t below rest ihb ihr =>
    have hlater : rest.compact.HasEdge label m → ∃ d w child m', label = d :: w ∧
        (cons c t below rest).HasEdge d child ∧ child.Leads w m' ∧ m'.compact = m := by
      intro h
      obtain ⟨d, w, child, m', hlabel, hedge, hrest⟩ := ihr h
      exact ⟨d, w, child, m', hlabel, .later hedge, hrest⟩
    rcases compact_cons_cases c t below rest with ⟨label', t', below', rfl, hb, hc⟩ | ⟨-, hc⟩
    · rw [hc, hasEdge_cons_iff] at h
      rcases h with ⟨rfl, rfl⟩ | h
      · have hfirst : below.compact.HasEdge label' ⟨t', below'⟩ := hb ▸ .first
        obtain ⟨d, w, child, m', rfl, hedge, hrest, hm'⟩ := ihb hfirst
        exact ⟨c, d :: w, ⟨false, below⟩, m', rfl, .first, .down hedge hrest, hm'⟩
      · exact hlater h
    · rw [hc, hasEdge_cons_iff] at h
      rcases h with ⟨rfl, rfl⟩ | h
      · exact ⟨c, [], ⟨t, below⟩, ⟨t, below⟩, rfl, .first, .here, rfl⟩
      · exact hlater h

/-- A path that goes on below an edge to a mark is a path in the compact forest, cut into labels. -/
theorem exists_hasEdge_compact {f : Forest Char} {c : Char} {child m : Node Char} {w : Text}
    (hedge : f.HasEdge c child) (hpath : child.Leads w m) (hm : m.terminal = true) :
    ∃ label child' p, f.compact.HasEdge label child' ∧ child'.Leads p m.compact ∧
      label ++ p.flatten = c :: w := by
  induction f generalizing c child w with
  | nil => cases hedge
  | cons k t below rest ihb ihr =>
    have hcases := compact_cons_cases k t below rest
    cases hedge with
    | later hedge =>
      obtain ⟨label, child', p, hedge', hrest⟩ := ihr hedge hpath
      refine ⟨label, child', p, ?_, hrest⟩
      rcases hcases with ⟨_, _, _, -, -, hc⟩ | ⟨-, hc⟩ <;> exact hc ▸ .later hedge'
    | first =>
      cases hpath with
      | here =>
        rcases hcases with ⟨_, _, _, hunmarked, -, -⟩ | ⟨-, hc⟩
        · exact absurd (hm.symm.trans hunmarked) Bool.noConfusion
        · exact ⟨[k], ⟨t, below.compact⟩, [], hc ▸ .first, .here, rfl⟩
      | down hedge hpath =>
        obtain ⟨label, child', p, hedge', hrest, hlabels⟩ := ihb hedge hpath
        rcases hcases with ⟨label', t', below', -, hb, hc⟩ | ⟨-, hc⟩
        · rw [hb] at hedge'
          cases hedge' with
          | first => exact ⟨k :: label, _, p, hc ▸ .first, hrest, congrArg (k :: ·) hlabels⟩
          | later hedge' => cases hedge'
        · exact ⟨[k], ⟨t, below.compact⟩, label :: p, hc ▸ .first, .down hedge' hrest,
            congrArg (k :: ·) hlabels⟩

end Forest

namespace Node

def spell (n : Node Text) : Node Char :=
  ⟨n.terminal, n.children.spell⟩

theorem Leads.append {κ : Type} {n m m' : Node κ} {p q : List κ} (h : n.Leads p m)
    (h' : m.Leads q m') : n.Leads (p ++ q) m' := by
  induction h with
  | here => exact h'
  | down hedge _ ih => exact .down hedge (ih h')

theorem spell_compact (n : Node Char) : n.compact.spell = n := by
  rw [spell, compact, Forest.spell_compact]

theorem leads_compact {n : Node Char} {p : List Text} {m : Node Text}
    (h : n.compact.Leads p m) : ∃ m', n.Leads p.flatten m' ∧ m'.compact = m := by
  induction p generalizing n with
  | nil =>
    cases h
    exact ⟨n, .here, rfl⟩
  | cons label p ih =>
    cases h with
    | down hedge hrest =>
      obtain ⟨c, w, child, m', rfl, hedge', hleads, rfl⟩ :=
        Forest.exists_leads_of_hasEdge_compact hedge
      obtain ⟨m'', hrest', hm''⟩ := ih hrest
      exact ⟨m'', .append (.down hedge' hleads) hrest', hm''⟩

theorem exists_leads_compact {n m : Node Char} {w : Text} (h : n.Leads w m)
    (hm : m.terminal = true) : ∃ p, n.compact.Leads p m.compact ∧ p.flatten = w := by
  cases h with
  | here => exact ⟨[], .here, rfl⟩
  | down hedge hrest =>
    obtain ⟨label, child', p, hedge', hleads, hlabels⟩ :=
      Forest.exists_hasEdge_compact hedge hrest hm
    exact ⟨label :: p, .down hedge' hleads, hlabels⟩

/-- **Compaction is reversible.** Spelling out gives back the tree, so no two trees are compacted to
one, and the labels of siblings stand in order, so none of them is met twice. The words are kept, a
path leads to what the path of its characters led to, the mark included, and there is such a path to
every mark. -/
theorem compaction_reversible (n : Node Char) :
    n.compact.spell = n ∧
      (∀ m : Node Char, m.compact = n.compact → m = n) ∧
      (n.children.IsSorted → n.compact.children.IsSorted) ∧
      CompactTrie.strings n.compact = Trie.strings n ∧
      (∀ p m, n.compact.Leads p m →
        ∃ m', n.Leads p.flatten m' ∧ m'.compact = m ∧ m'.terminal = m.terminal) ∧
      (∀ w m, n.Leads w m → m.terminal = true → ∃ p, n.compact.Leads p m.compact ∧ p.flatten = w) ∧
      n.compact.terminals = n.terminals := by
  have hsorted : n.children.IsSorted → n.compact.children.IsSorted :=
    fun hn => Forest.isSorted_of_isSpread (Forest.isSpread_compact hn)
  refine ⟨spell_compact n, fun m h => ?_, hsorted, ?_, fun p m h => ?_,
    fun w m => exists_leads_compact, ?_⟩
  · rw [← spell_compact m, h, spell_compact]
  · rw [CompactTrie.strings, Trie.strings, flatten_words_compact]
  · obtain ⟨m', hm', rfl⟩ := leads_compact h
    exact ⟨m', hm', rfl, rfl⟩
  · rw [terminals, terminals, compact, Forest.terminals_compact]

end Node
end SuffixPattern
