import SuffixPattern.Proofs.Exactness

/-!
# SuffixPattern.Proofs.CanonicalText

The text of a compiled trie is a name for its set of members (`compile_eq_iff`). One set has one
trie, whatever the order of insertion (`ofList_eq_of_same_members`), hence one text; and a text is
read back as one expression only, whose words are the members.
-/

namespace SuffixPattern

open Regex

namespace Fragment

theorem expr_eq_of_text_eq {f g : Fragment} (hf : f.IsSound) (hg : g.IsSound)
    (h : f.text = g.text) : f.expr = g.expr := by
  have hread := read?_text hf
  rw [h, read?_text hg] at hread
  exact (Option.some.inj hread).symm

theorem choices_eq_of_text_eq {f g : Fragment} (hf : f.IsSound) (hg : g.IsSound)
    (h : f.text = g.text) : f.choices = g.choices := by
  rw [choices, choices, words, words, h, expr_eq_of_text_eq hf hg h]

end Fragment

namespace Trie

variable {o : Orientation} {suffixes others : List Text}

theorem IsBuilt.eq_of_same_words {t u : Trie} (ht : t.IsBuilt) (hu : u.IsBuilt)
    (horient : t.orientation = u.orientation)
    (h : ∀ w, w ∈ t.root.children.words ↔ w ∈ u.root.children.words) : t = u := by
  have hchildren : t.root.children = u.root.children :=
    Forest.eq_of_same_words ht.sorted ht.pruned hu.sorted hu.pruned h
  have hterminal : t.root.terminal = u.root.terminal := ht.unmarked.trans hu.unmarked.symm
  obtain ⟨o, terminal, children⟩ := t
  obtain ⟨o', terminal', children'⟩ := u
  cases horient
  cases hchildren
  cases hterminal
  rfl

/-- The order of the suffixes, repetitions and the empty suffix leave no trace in a trie. -/
theorem ofList_eq_of_same_members (h : ∀ s, s ≠ [] → (s ∈ suffixes ↔ s ∈ others)) :
    ofList o suffixes = ofList o others := by
  have horient : (ofList o suffixes).orientation = (ofList o others).orientation :=
    (orientation_ofList o suffixes).trans (orientation_ofList o others).symm
  refine (isBuilt_ofList o suffixes).eq_of_same_words (isBuilt_ofList o others) horient fun w => ?_
  rw [mem_words_ofList, mem_words_ofList]
  constructor
  · rintro ⟨s, hs, hne, rfl⟩
    exact ⟨s, (h s hne).1 hs, hne, rfl⟩
  · rintro ⟨s, hs, hne, rfl⟩
    exact ⟨s, (h s hne).2 hs, hne, rfl⟩

/-- **A text names a set.** Two lists of suffixes are compiled to the same text if and only if they
have the same members, the empty suffix left aside. -/
theorem compile_eq_iff (o : Orientation) (suffixes others : List Text) :
    (ofList o suffixes).compact.compile = (ofList o others).compact.compile ↔
      ∀ s, s ≠ [] → (s ∈ suffixes ↔ s ∈ others) := by
  constructor
  · intro h s hne
    have hchoices : (ofList o suffixes).compact.fragment.choices =
        (ofList o others).compact.fragment.choices :=
      Fragment.choices_eq_of_text_eq (isSound_fragment _) (isSound_fragment _) h
    have hleft : s ∈ (ofList o suffixes).compact.fragment.choices ↔ s ∈ suffixes := by
      rw [mem_choices, and_iff_left hne]
    have hright : s ∈ (ofList o others).compact.fragment.choices ↔ s ∈ others := by
      rw [mem_choices, and_iff_left hne]
    rw [← hleft, hchoices, hright]
  · intro h
    rw [ofList_eq_of_same_members h]

end Trie
end SuffixPattern
