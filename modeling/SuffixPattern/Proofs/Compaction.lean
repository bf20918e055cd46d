import SuffixPattern.CompactTrie
import SuffixPattern.Proofs.TrieMembers

/-!
# SuffixPattern.Proofs.Compaction

What compaction leaves as it is. The words of a compact forest spell the words of the forest
(`flatten_words_compact`), sibling labels begin with the keys that the siblings had
(`heads_keys_compact`), and no unmarked leaf appears (`isPruned_compact`).
-/

namespace SuffixPattern

/-- The first text begins with a lower character than the second. -/
def startsBefore (l m : Text) : Prop :=
  ∃ c, l.head? = some c ∧ ∃ d, m.head? = some d ∧ Ranked.before c d = true

theorem head?_ne_of_startsBefore {l m : Text} (h : startsBefore l m) : l.head? ≠ m.head? := by
  obtain ⟨c, hc, d, hd, hcd⟩ := h
  rw [hc, hd]
  exact fun heq => Ranked.ne_of_before hcd (Option.some.inj heq)

theorem before_of_startsBefore {l m : Text} (h : startsBefore l m) : Ranked.before l m = true := by
  obtain ⟨c, hc, d, hd, hcd⟩ := h
  obtain ⟨l, rfl⟩ := List.head?_eq_some_iff.1 hc
  obtain ⟨m, rfl⟩ := List.head?_eq_some_iff.1 hd
  exact Ranked.listBefore_cons.2 (.inl hcd)

namespace Forest

/-- The two things that compaction does with an edge: it joins the edge with the only edge below an
unmarked node, or keeps it. -/
theorem compact_cons_cases (c : Char) (t : Bool) (below rest : Forest Char) :
    (∃ label t' below', t = false ∧ below.compact = .cons label t' below' .nil ∧
        (cons c t below rest).compact = .cons (c :: label) t' below' rest.compact) ∨
      (t = false → ∀ label t' below', below.compact ≠ .cons label t' below' .nil) ∧
        (cons c t below rest).compact = .cons [c] t below.compact rest.compact := by
  cases t with
  | true => exact .inr ⟨nofun, by simp [compact]⟩
  | false =>
    cases hb : below.compact with
    | nil => exact .inr ⟨nofun, by simp [compact, hb]⟩
    | cons label t' below' rest' =>
      cases rest' with
      | nil => exact .inl ⟨label, t', below', rfl, rfl, by simp [compact, hb]⟩
      | cons label₁ t₁ below₁ rest₁ =>
        exact .inr ⟨nofun, by simp [compact, hb]⟩

theorem compact_eq_nil_iff {f : Forest Char} : f.compact = .nil ↔ f = .nil := by
  cases f with
  | nil => simp [compact]
  | cons c t below rest =>
    rcases compact_cons_cases c t below rest with ⟨label, t', below', -, -, h⟩ | ⟨-, h⟩ <;>
      simp [h]

/-- **Compaction keeps the words.** -/
theorem flatten_words_compact (f : Forest Char) :
    f.compact.words.map List.flatten = f.words := by
  induction f with
  | nil => rfl
  | cons c t below rest ihb ihr =>
    rcases compact_cons_cases c t below rest with ⟨label, t', below', rfl, hbelow, h⟩ | ⟨-, h⟩
    · have hjoined : below.words =
          (if t' then [label] else []) ++ below'.words.map fun w => label ++ w.flatten := by
        rw [← ihb, hbelow, words]
        cases t' <;> simp [words, Function.comp_def]
      rw [h, words, words, List.map_append, ihr, hjoined]
      cases t' <;> simp [Function.comp_def]
    · rw [h, words, words, List.map_append, ihr, ← ihb]
      cases t <;> simp [Function.comp_def]

/-- Sibling labels begin with the keys of the siblings. -/
theorem heads_keys_compact (f : Forest Char) :
    f.compact.keys.map List.head? = f.keys.map some := by
  induction f with
  | nil => rfl
  | cons c t below rest _ ih =>
    rcases compact_cons_cases c t below rest with ⟨label, t', below', -, -, h⟩ | ⟨-, h⟩ <;>
      simp [h, keys, ih]

theorem isPruned_compact {f : Forest Char} (hf : f.IsPruned) : f.compact.IsPruned := by
  induction f with
  | nil => trivial
  | cons c t below rest ihb ihr =>
    obtain ⟨hmark, hbelow, hrest⟩ := hf
    rcases compact_cons_cases c t below rest with ⟨label, t', below', -, hb, h⟩ | ⟨-, h⟩
    · have hjoined := ihb hbelow
      rw [hb] at hjoined
      rw [h]
      exact ⟨hjoined.1, hjoined.2.1, ihr hrest⟩
    · rw [h]
      exact ⟨fun hnil => hmark (compact_eq_nil_iff.1 hnil), ihb hbelow, ihr hrest⟩

/-- Labels are not empty, and the first characters of siblings ascend, at every node. -/
def IsSpread : Forest Text → Prop
  | .nil => True
  | .cons label _ below rest =>
    label ≠ [] ∧ (∀ other ∈ rest.keys, startsBefore label other) ∧ below.IsSpread ∧ rest.IsSpread

theorem isSorted_of_isSpread {f : Forest Text} (h : f.IsSpread) : f.IsSorted := by
  induction f with
  | nil => trivial
  | cons label t below rest ihb ihr =>
    obtain ⟨-, hlabel, hbelow, hrest⟩ := h
    exact ⟨fun other ho => before_of_startsBefore (hlabel other ho), ihb hbelow, ihr hrest⟩

theorem startsBefore_of_mem_keys_compact {c : Char} {rest : Forest Char}
    (hc : ∀ k ∈ rest.keys, Ranked.before c k = true) (label : Text) {other : Text}
    (h : other ∈ rest.compact.keys) : startsBefore (c :: label) other := by
  have hmem : other.head? ∈ rest.keys.map some := by
    rw [← heads_keys_compact]
    exact List.mem_map_of_mem h
  obtain ⟨k, hk, hother⟩ := List.mem_map.1 hmem
  exact ⟨c, rfl, k, hother.symm, hc k hk⟩

theorem isSpread_compact {f : Forest Char} (hf : f.IsSorted) : f.compact.IsSpread := by
  induction f with
  | nil => trivial
  | cons c t below rest ihb ihr =>
    obtain ⟨hc, hbelow, hrest⟩ := hf
    rcases compact_cons_cases c t below rest with ⟨label, t', below', -, hb, h⟩ | ⟨-, h⟩
    · have hjoined := ihb hbelow
      rw [hb] at hjoined
      rw [h]
      exact ⟨List.cons_ne_nil _ _, fun other ho => startsBefore_of_mem_keys_compact hc label ho,
        hjoined.2.2.1, ihr hrest⟩
    · rw [h]
      exact ⟨List.cons_ne_nil _ _, fun other ho => startsBefore_of_mem_keys_compact hc [] ho,
        ihb hbelow, ihr hrest⟩

end Forest

theorem Node.flatten_words_compact (n : Node Char) :
    n.compact.words.map List.flatten = n.words := by
  rw [words, words, List.map_append, compact, Forest.flatten_words_compact]
  cases n.terminal <;> rfl

end SuffixPattern
