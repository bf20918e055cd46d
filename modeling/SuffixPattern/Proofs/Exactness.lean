import SuffixPattern.Compilation
import SuffixPattern.Proofs.TrieFragment

/-!
# SuffixPattern.Proofs.Exactness

The pattern for a suffix list, read as an expression, matches the non-empty members of the list and
nothing else (`Compilation.pattern_matches_exactly`), whatever characters the members have.

* `Pattern.group`: the expression that is printed as the pattern.
* `Fragment.choices`: what a half adds to the alternatives of the group, which is nothing if it is
  empty.
-/

namespace SuffixPattern

open Regex

/-! ## Empty halves -/

namespace Fragment

/-- Only a fragment that matches nothing but the empty text is printed as nothing. -/
theorem words_of_text_eq_nil {f : Fragment} (hf : f.IsSound) (h : f.text = []) :
    f.words = [[]] := by
  have hread := read?_text hf
  have hnothing : Expr.read? [] = some .empty := rfl
  rw [h, hnothing] at hread
  have hempty : f.expr = .empty := (Option.some.inj hread).symm
  rw [words, hempty]
  rfl

/-- The words that a half adds to a pattern. -/
def choices (f : Fragment) : List Text :=
  if f.text.isEmpty then [] else f.words

end Fragment

namespace Trie

variable {o : Orientation} {suffixes : List Text}

theorem text_fragment_eq_nil_iff :
    (ofList o suffixes).compact.fragment.text = [] ↔ ∀ s ∈ suffixes, s = [] := by
  constructor
  · intro h s hs
    by_contra hne
    have hwords := Fragment.words_of_text_eq_nil (isSound_fragment (ofList o suffixes)) h
    have hmem := (mem_words_fragment (o := o) ⟨s, hs, hne⟩).2 ⟨hs, hne⟩
    rw [hwords] at hmem
    exact hne (List.mem_singleton.1 hmem)
  · intro h
    rw [fragment_eq_empty h]
    rfl

/-- A half adds its members that are not empty. -/
theorem mem_choices {w : Text} :
    w ∈ (ofList o suffixes).compact.fragment.choices ↔ w ∈ suffixes ∧ w ≠ [] := by
  by_cases h : ∀ s ∈ suffixes, s = []
  · have htext := (text_fragment_eq_nil_iff (o := o)).2 h
    rw [Fragment.choices, if_pos (List.isEmpty_iff.2 htext)]
    constructor
    · exact fun hw => absurd hw List.not_mem_nil
    · exact fun hw => absurd (h w hw.1) hw.2
  · have htext : (ofList o suffixes).compact.fragment.text ≠ [] :=
      fun htext => h (text_fragment_eq_nil_iff.1 htext)
    have hmember : ∃ s ∈ suffixes, s ≠ [] := by simpa using h
    rw [Fragment.choices, if_neg (fun h => htext (List.isEmpty_iff.1 h)),
      mem_words_fragment hmember]

end Trie

/-! ## The named group -/

namespace Pattern

/-- The alternatives in the named group. -/
def rows (literal decoded : Fragment) : List (List Expr) :=
  match literal.text.isEmpty, decoded.text.isEmpty with
  | false, false => [literal.items, decoded.items]
  | false, true => [literal.items]
  | true, false => [decoded.items]
  | true, true => [[.boundary, .interior]]

def group (name : Text) (literal decoded : Fragment) : Expr :=
  .capture name (.ofRows (rows literal decoded))

variable {name : Text} {literal decoded : Fragment}

theorem print_group :
    (group name literal decoded).print = ofHalves name literal.text decoded.text := by
  have hbody : (Expr.ofRows (rows literal decoded)).print = body literal.text decoded.text := by
    unfold rows body
    cases literal.text.isEmpty <;> cases decoded.text.isEmpty <;> rfl
  rw [group, Expr.print, hbody]
  rfl

theorem rows_ne_nil : rows literal decoded ≠ [] := by
  unfold rows
  split <;> exact List.cons_ne_nil _ _

theorem isUnit_of_mem_rows (hl : literal.IsSound) (hd : decoded.IsSound) :
    ∀ row ∈ rows literal decoded, ∀ e ∈ row, e.IsUnit ∧ e.names = [] := by
  have hhalf : ∀ {f : Fragment}, f.IsSound → ∀ e ∈ f.items, e.IsUnit ∧ e.names = [] :=
    fun hf e he => ⟨(hf.plain e he).unit, (hf.plain e he).unnamed⟩
  unfold rows
  split
  · intro row hrow
    rcases List.mem_cons.1 hrow with rfl | hrow
    · exact hhalf hl
    · exact List.mem_singleton.1 hrow ▸ hhalf hd
  · exact fun row hrow => List.mem_singleton.1 hrow ▸ hhalf hl
  · exact fun row hrow => List.mem_singleton.1 hrow ▸ hhalf hd
  · intro row hrow e he
    cases List.mem_singleton.1 hrow
    rcases List.mem_cons.1 he with rfl | he
    · exact ⟨.boundary, rfl⟩
    · cases List.mem_singleton.1 he
      exact ⟨.interior, rfl⟩

/-- **A pattern is read as a named group** with the two halves as its alternatives. -/
theorem read?_ofHalves (hname : isGroupName name = true) (hl : literal.IsSound)
    (hd : decoded.IsSound) :
    Expr.read? (ofHalves name literal.text decoded.text) = some (group name literal decoded) := by
  have hrows := isUnit_of_mem_rows hl hd
  have hunit : (group name literal decoded).IsUnit :=
    .capture hname rows_ne_nil fun row hrow e he => (hrows row hrow e he).1
  have hnames : (group name literal decoded).names = [name] := by
    have hinner : (Expr.ofRows (rows literal decoded)).names = [] := by
      rw [Expr.names_ofRows rows_ne_nil, List.flatMap_eq_nil_iff]
      exact fun row hrow => List.flatMap_eq_nil_iff.2 fun e he => (hrows row hrow e he).2
    rw [group, Expr.names, hinner]
  have hrow : ∀ row ∈ [[group name literal decoded]], ∀ e ∈ row, e.IsUnit := by
    intro row hrow e he
    cases List.mem_singleton.1 hrow
    exact List.mem_singleton.1 he ▸ hunit
  have hnodup : (group name literal decoded).names.Nodup := by simp [hnames]
  rw [← print_group]
  exact read?_print (List.cons_ne_nil _ _) hrow hnodup

/-- The preferred words of the first half come before those of the second. -/
theorem words_group (hl : literal.IsSound) (hd : decoded.IsSound)
    (hsome : literal.text ≠ [] ∨ decoded.text ≠ []) :
    (group name literal decoded).IsFinite ∧
      (group name literal decoded).words = literal.choices ++ decoded.choices := by
  have hgroup : ∀ f : Expr, (Expr.capture name f).words = f.words := fun _ => rfl
  rw [group, hgroup]
  unfold rows Fragment.choices
  split
  · rename_i h₁ h₂
    rw [h₁, h₂]
    exact ⟨⟨hl.isFinite, hd.isFinite⟩, rfl⟩
  · rename_i h₁ h₂
    rw [h₁, h₂]
    exact ⟨hl.isFinite, (List.append_nil _).symm⟩
  · rename_i h₁ h₂
    rw [h₁, h₂]
    exact ⟨hd.isFinite, rfl⟩
  · rename_i h₁ h₂
    rw [List.isEmpty_iff] at h₁ h₂
    exact absurd hsome (by simp [h₁, h₂])

/-- With both halves empty there is no place where the pattern matches. -/
theorem ends_group_of_empty (hl : literal.text = []) (hd : decoded.text = []) (p : Cursor) :
    (group name literal decoded).ends p = [] := by
  have hrows : rows literal decoded = [[.boundary, .interior]] := by
    unfold rows
    rw [hl, hd]
    rfl
  have hgroup : (group name literal decoded).ends p =
      (Expr.cat .boundary .interior).ends p := by
    rw [group, hrows]
    rfl
  rw [hgroup, Expr.ends]
  cases h : p.atBoundary <;> simp [Expr.ends, h]

end Pattern

/-! ## Suffix lists -/

namespace Compilation

variable (l : SuffixList) (o : Options)

/-- The expression of the pattern. -/
def expr : Expr :=
  Pattern.group o.groupName (ofList l o).literalCompact.fragment
    (ofList l o).decodedCompact.fragment

theorem read?_pattern (hname : isGroupName o.groupName = true) :
    Expr.read? (ofList l o).pattern = some (expr l o) :=
  Pattern.read?_ofHalves hname (Trie.isSound_fragment _) (Trie.isSound_fragment _)

theorem text_literal_eq_nil_iff :
    (ofList l o).literalCompact.fragment.text = [] ↔ ∀ s ∈ l.literal, s = [] :=
  Trie.text_fragment_eq_nil_iff

theorem text_decoded_eq_nil_iff :
    (ofList l o).decodedCompact.fragment.text = [] ↔ ∀ s ∈ l.decoded, s = [] :=
  Trie.text_fragment_eq_nil_iff

theorem mem_choices_literal {w : Text} :
    w ∈ (ofList l o).literalCompact.fragment.choices ↔ w ∈ l.literal ∧ w ≠ [] :=
  Trie.mem_choices

theorem mem_choices_decoded {w : Text} :
    w ∈ (ofList l o).decodedCompact.fragment.choices ↔ w ∈ l.decoded ∧ w ≠ [] :=
  Trie.mem_choices

/-- A list with a member that is not empty has an expression that is told by its words: the words
for the labels as written, then those for the decoded forms. -/
theorem words_expr (hmember : ∃ s, (s ∈ l.literal ∨ s ∈ l.decoded) ∧ s ≠ []) :
    (expr l o).IsFinite ∧
      (expr l o).words = (ofList l o).literalCompact.fragment.choices ++
        (ofList l o).decodedCompact.fragment.choices := by
  refine Pattern.words_group (Trie.isSound_fragment _) (Trie.isSound_fragment _) ?_
  obtain ⟨s, hs | hs, hne⟩ := hmember
  · exact .inl fun h => hne ((text_literal_eq_nil_iff l o).1 h s hs)
  · exact .inr fun h => hne ((text_decoded_eq_nil_iff l o).1 h s hs)

theorem mem_words_expr (hmember : ∃ s, (s ∈ l.literal ∨ s ∈ l.decoded) ∧ s ≠ []) {w : Text} :
    w ∈ (expr l o).words ↔ (w ∈ l.literal ∨ w ∈ l.decoded) ∧ w ≠ [] := by
  rw [(words_expr l o hmember).2, List.mem_append, mem_choices_literal, mem_choices_decoded,
    or_and_right]

theorem ends_expr_of_empty (hnone : ∀ s, s ∈ l.literal ∨ s ∈ l.decoded → s = []) (p : Cursor) :
    (expr l o).ends p = [] :=
  Pattern.ends_group_of_empty
    ((text_literal_eq_nil_iff l o).2 fun s hs => hnone s (.inl hs))
    ((text_decoded_eq_nil_iff l o).2 fun s hs => hnone s (.inr hs)) p

theorem matchesFully_expr_iff {s : Text} :
    (expr l o).matchesFully s = true ↔ s ≠ [] ∧ (s ∈ l.literal ∨ s ∈ l.decoded) := by
  by_cases hnone : ∀ s, s ∈ l.literal ∨ s ∈ l.decoded → s = []
  · rw [Expr.matchesFully_iff, ends_expr_of_empty l o hnone]
    constructor
    · rintro ⟨q, hq, -⟩
      cases hq
    · rintro ⟨hne, hs⟩
      exact absurd (hnone s hs) hne
  · have hmember : ∃ s, (s ∈ l.literal ∨ s ∈ l.decoded) ∧ s ≠ [] := by simpa using hnone
    rw [Expr.matchesFully_iff_mem_words (words_expr l o hmember).1, mem_words_expr l o hmember,
      and_comm]

/-- **A pattern matches exactly the list.** With a legal group name the pattern can be read; it
matches in full the members that are not empty, and without such a member it matches at no place of
any text. -/
theorem pattern_matches_exactly (hname : isGroupName o.groupName = true) :
    ∃ e, Expr.read? (ofList l o).pattern = some e ∧
      (∀ s, e.matchesFully s = true ↔ s ≠ [] ∧ (s ∈ l.literal ∨ s ∈ l.decoded)) ∧
      ((∀ s, s ∈ l.literal ∨ s ∈ l.decoded → s = []) → ∀ p, e.ends p = []) :=
  ⟨expr l o, read?_pattern l o hname, fun _ => matchesFully_expr_iff l o, ends_expr_of_empty l o⟩

/-- A dot in a member stands for itself, and the empty member is left out. -/
theorem pattern_matches_exactly_dotted :
    isGroupName Pattern.defaultGroupName = true ∧
      ∃ e, Expr.read?
          (ofList { literal := .ofList ["".toList, "a.b".toList] } {}).pattern = some e ∧
        e.matchesFully "a.b".toList = true ∧ e.matchesFully "axb".toList = false ∧
        e.matchesFully [] = false := by
  have hname : isGroupName Pattern.defaultGroupName = true := by decide
  have hliteral : ∀ s, s ∈ SortedSet.ofList ["".toList, "a.b".toList] ↔
      s ∈ ["".toList, "a.b".toList] := fun s => SortedSet.mem_ofList
  obtain ⟨e, hread, hexact, -⟩ := pattern_matches_exactly
    { literal := .ofList ["".toList, "a.b".toList] } {} hname
  simp only [hliteral, SortedSet.not_mem_empty, or_false] at hexact
  refine ⟨hname, e, hread, (hexact _).2 (by decide), ?_, ?_⟩
  · exact Bool.eq_false_iff.2 fun h => absurd ((hexact _).1 h) (by decide)
  · exact Bool.eq_false_iff.2 fun h => ((hexact _).1 h).1 rfl

end Compilation
end SuffixPattern
