import SuffixPattern.Proofs.SpelledLabels

/-!
# SuffixPattern.Proofs.NormalForm

The compact tree is the smallest of the trees that spell out to the same one
(`compact_is_smallest`). The nodes that have to be reached by an edge of their own are the stops:
those with a mark, the leaves and the branchings. Spelling out neither adds a stop nor takes one
away (`count_spell`), so no tree has fewer edges than there are stops, and one in which all nodes
below the root are stops is found again by compaction (`compact_spell`).
-/

namespace SuffixPattern

variable {κ : Type}

/-! ## Stops -/

def Forest.isSingle : Forest κ → Bool
  | .cons _ _ _ .nil => true
  | _ => false

/-- A word ends at the node, or there is not one way on from it. -/
def Node.isStop (n : Node κ) : Bool := n.terminal || !n.children.isSingle

namespace Forest

/-- Number of nodes below the root with a property. -/
def count (p : Node κ → Bool) : Forest κ → Nat
  | .nil => 0
  | .cons _ t below rest => (p ⟨t, below⟩).toNat + below.count p + rest.count p

/-- Every node below the root has the property. -/
def Every (p : Node κ → Bool) : Forest κ → Prop
  | .nil => True
  | .cons _ t below rest => p ⟨t, below⟩ = true ∧ below.Every p ∧ rest.Every p

theorem count_le_size (p : Node κ → Bool) (f : Forest κ) : f.count p ≤ f.size := by
  induction f with
  | nil => exact Nat.le_refl _
  | cons k t below rest ihb ihr =>
    have hnode := Bool.toNat_le (p ⟨t, below⟩)
    rw [count, size]
    omega

theorem count_eq_size_iff {p : Node κ → Bool} {f : Forest κ} : f.count p = f.size ↔ f.Every p := by
  induction f with
  | nil => exact iff_of_true rfl trivial
  | cons k t below rest ihb ihr =>
    have hbelow := count_le_size p below
    have hrest := count_le_size p rest
    rw [Every, ← ihb, ← ihr, count, size]
    cases p ⟨t, below⟩ <;> simp <;> omega

theorem isSingle_eq_true_iff {f : Forest κ} :
    f.isSingle = true ↔ ∃ k t below, f = .cons k t below .nil := by
  cases f with
  | nil => simp [isSingle]
  | cons k t below rest => cases rest <;> simp [isSingle]

/-- Compaction leaves stops only. -/
theorem every_isStop_compact (f : Forest Char) : f.compact.Every Node.isStop := by
  induction f with
  | nil => trivial
  | cons c t below rest ihb ihr =>
    rcases compact_cons_cases c t below rest with ⟨label, t', below', -, hb, h⟩ | ⟨hkeep, h⟩
    · rw [hb] at ihb
      rw [h]
      exact ⟨ihb.1, ihb.2.1, ihr⟩
    · rw [h]
      refine ⟨?_, ihb, ihr⟩
      cases t with
      | true => rfl
      | false =>
        have hsingle : below.compact.isSingle ≠ true := by
          intro hsingle
          obtain ⟨label, t', below', hb⟩ := isSingle_eq_true_iff.1 hsingle
          exact hkeep rfl label t' below' hb
        simpa [Node.isStop] using hsingle

end Forest

/-! ## Spelled trees -/

namespace Forest

/-- Labels are not empty, and those of siblings begin with different characters, at every node. -/
def IsDeterministic : Forest Text → Prop
  | .nil => True
  | .cons label _ below rest =>
    label ≠ [] ∧ (∀ other ∈ rest.keys, label.head? ≠ other.head?) ∧ below.IsDeterministic ∧
      rest.IsDeterministic

theorem IsDeterministic.isLabelled {f : Forest Text} (h : f.IsDeterministic) : f.IsLabelled := by
  induction f with
  | nil => trivial
  | cons label t below rest ihb ihr => exact ⟨h.1, ihb h.2.2.1, ihr h.2.2.2⟩

theorem IsSpread.isDeterministic {f : Forest Text} (h : f.IsSpread) : f.IsDeterministic := by
  induction f with
  | nil => trivial
  | cons label t below rest ihb ihr =>
    obtain ⟨hne, hfirst, hbelow, hrest⟩ := h
    exact ⟨hne, fun other ho => head?_ne_of_startsBefore (hfirst other ho), ihb hbelow, ihr hrest⟩

/-- Number of characters on the edges. -/
def labelLength : Forest Text → Nat
  | .nil => 0
  | .cons label _ below rest => label.length + below.labelLength + rest.labelLength

variable {label : Text} {t : Bool} {below rest : Forest Char}

theorem isSingle_spellEdge (hne : label ≠ []) :
    (spellEdge label t below rest).isSingle = rest.isNil := by
  cases label with
  | nil => exact absurd rfl hne
  | cons c label => cases label <;> cases rest <;> rfl

theorem size_spellEdge (hne : label ≠ []) :
    (spellEdge label t below rest).size = label.length + below.size + rest.size := by
  induction label generalizing rest with
  | nil => exact absurd rfl hne
  | cons c label ih =>
    cases label with
    | nil => rfl
    | cons d label =>
      have hne := List.cons_ne_nil d label
      rw [spellEdge_cons c hne, size, ih hne]
      simp only [List.length_cons, size]
      omega

/-- The nodes inside a label are no stops. -/
theorem count_spellEdge (hne : label ≠ []) :
    (spellEdge label t below rest).count Node.isStop =
      (Node.isStop ⟨t, below⟩).toNat + below.count Node.isStop + rest.count Node.isStop := by
  induction label generalizing rest with
  | nil => exact absurd rfl hne
  | cons c label ih =>
    cases label with
    | nil => rfl
    | cons d label =>
      have hne := List.cons_ne_nil d label
      have hinside : Node.isStop ⟨false, spellEdge (d :: label) t below .nil⟩ = false := by
        rw [Node.isStop, isSingle_spellEdge hne]
        rfl
      rw [spellEdge_cons c hne, count, hinside, ih hne]
      simp [count]

theorem compact_spellEdge (hne : label ≠ []) (hstop : Node.isStop ⟨t, below.compact⟩ = true) :
    (spellEdge label t below rest).compact = .cons label t below.compact rest.compact := by
  induction label generalizing rest with
  | nil => exact absurd rfl hne
  | cons c label ih =>
    cases label with
    | nil =>
      rcases compact_cons_cases c t below rest with ⟨label', t', below', rfl, hb, -⟩ | ⟨-, h⟩
      · rw [hb] at hstop
        cases hstop
      · exact h
    | cons d label =>
      have hne := List.cons_ne_nil d label
      have hbelow : (spellEdge (d :: label) t below .nil).compact =
          .cons (d :: label) t below.compact .nil := ih hne
      rw [spellEdge_cons c hne]
      simp [compact, hbelow]

variable {f : Forest Text}

theorem isNil_spell (hf : f.IsLabelled) : f.spell.isNil = f.isNil := by
  cases f with
  | nil => rfl
  | cons label t below rest =>
    obtain ⟨c, label, rfl⟩ := List.exists_cons_of_ne_nil hf.1
    cases label <;> rfl

theorem isStop_spell (hf : f.IsLabelled) (t : Bool) :
    Node.isStop ⟨t, f.spell⟩ = Node.isStop ⟨t, f⟩ := by
  have hsingle : f.spell.isSingle = f.isSingle := by
    cases f with
    | nil => rfl
    | cons label t below rest =>
      rw [spell, isSingle_spellEdge hf.1, isNil_spell hf.2.2]
      cases rest <;> rfl
  rw [Node.isStop, Node.isStop, hsingle]

theorem size_spell (hf : f.IsLabelled) : f.spell.size = f.labelLength := by
  induction f with
  | nil => rfl
  | cons label t below rest ihb ihr =>
    rw [spell, size_spellEdge hf.1, ihb hf.2.1, ihr hf.2.2, labelLength]

/-- **Spelling out keeps the stops.** -/
theorem count_spell (hf : f.IsLabelled) : f.spell.count Node.isStop = f.count Node.isStop := by
  induction f with
  | nil => rfl
  | cons label t below rest ihb ihr =>
    rw [spell, count_spellEdge hf.1, isStop_spell hf.2.1, ihb hf.2.1, ihr hf.2.2, count]

/-- **Compaction undoes spelling out** where all nodes are stops. -/
theorem compact_spell (hf : f.IsLabelled) (hstops : f.Every Node.isStop) : f.spell.compact = f := by
  induction f with
  | nil => rfl
  | cons label t below rest ihb ihr =>
    obtain ⟨hne, hbelow, hrest⟩ := hf
    obtain ⟨hstop, hstopsb, hstopsr⟩ := hstops
    have hcompact := ihb hbelow hstopsb
    rw [spell, compact_spellEdge hne (hcompact.symm ▸ hstop), hcompact, ihr hrest hstopsr]

theorem size_compact (f : Forest Char) : f.compact.size = f.count Node.isStop := by
  rw [← count_eq_size_iff.2 (every_isStop_compact f), ← count_spell (isLabelled_compact f),
    spell_compact]

end Forest

/-! ## Trees that spell out to one -/

namespace Node

/-- **The compact tree is the smallest one.** Its labels tell its edges apart, every node below the
root is a stop, there is one edge for each stop of the tree, and the labels have a character for
each node. Any other tree that spells out to the same one has more edges. -/
theorem compact_is_smallest {n : Node Char} (hn : n.children.IsSorted) :
    n.compact.children.IsDeterministic ∧
      n.compact.children.Every isStop ∧
      n.compact.children.size = n.children.count isStop ∧
      n.compact.children.labelLength = n.size - 1 ∧
      ∀ m : Node Text, m.children.IsDeterministic → m.spell = n →
        n.compact.children.size ≤ m.children.size ∧
          (m.children.size = n.compact.children.size → m = n.compact) := by
  refine ⟨(Forest.isSpread_compact hn).isDeterministic, Forest.every_isStop_compact _,
    Forest.size_compact _, ?_, ?_⟩
  · rw [size, Nat.add_sub_cancel_left, compact,
      ← Forest.size_spell (Forest.isLabelled_compact n.children), Forest.spell_compact]
  · rintro m hm rfl
    have hlabelled := hm.isLabelled
    have hstops : m.spell.compact.children.size = m.children.count isStop :=
      (Forest.size_compact _).trans (Forest.count_spell hlabelled)
    rw [hstops]
    refine ⟨Forest.count_le_size _ _, fun hsize => ?_⟩
    have hcompact : m.children.spell.compact = m.children :=
      Forest.compact_spell hlabelled (Forest.count_eq_size_iff.1 hsize.symm)
    rw [spell, compact, hcompact]

/-- The words "cat", "co" and "com", and a branch at the end of which there is no mark. -/
def deadBranch : Node Char :=
  ⟨false, .cons 'c' false
    (.cons 'a' false (.cons 't' true .nil .nil) (.cons 'o' true (.cons 'm' true .nil .nil) .nil))
    (.cons 'x' false (.cons 'y' false .nil .nil) .nil)⟩

theorem compact_is_smallest_deadBranch :
    deadBranch.children.IsSorted ∧ deadBranch.compact.children.size = 5 ∧
      ∀ m : Node Text, m.children.IsDeterministic → m.spell = deadBranch → 5 ≤ m.children.size := by
  have hsorted : deadBranch.children.IsSorted := by
    simp [deadBranch, Forest.IsSorted, Forest.keys, Ranked.before]
  obtain ⟨-, -, -, -, hleast⟩ := compact_is_smallest hsorted
  exact ⟨hsorted, rfl, fun m hm hspell => (hleast m hm hspell).1⟩

end Node
end SuffixPattern
