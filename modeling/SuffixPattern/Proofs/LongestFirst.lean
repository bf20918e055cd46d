import SuffixPattern.Proofs.BranchOrder
import SuffixPattern.Proofs.TrieFragment

/-!
# SuffixPattern.Proofs.LongestFirst

Tries that are laid from the start prefer longer matches. Two members that match at one place of a
text are a text and a continuation of it, so it is enough that no word comes before its
continuations (`IsLongestFirst`). Branches of a node begin with different characters, and the empty
word is the last of its node, so that this carries over from the edges of a node to the node.
-/

namespace SuffixPattern

open Regex

/-- No text comes before a continuation of it. -/
def IsLongestFirst (ws : List Text) : Prop :=
  ws.Pairwise fun a b => ¬ a <+: b

theorem IsLongestFirst.map_append {ws : List Text} (h : IsLongestFirst ws) (l : Text) :
    IsLongestFirst (ws.map (l ++ ·)) := by
  refine List.pairwise_map.2 (h.imp fun hab hl => hab ?_)
  exact (List.prefix_append_right_inj l).1 hl

/-- Texts that begin differently are no continuations of each other. -/
theorem not_prefix_append_of_head?_ne {l m : Text} (hl : l ≠ []) (h : l.head? ≠ m.head?)
    (v : Text) {w : Text} (hm : m ≠ []) : ¬ l ++ v <+: m ++ w := by
  cases l with
  | nil => exact absurd rfl hl
  | cons c l =>
    cases m with
    | nil => exact absurd rfl hm
    | cons d m =>
      intro hpre
      have hcd : c = d := (List.cons_prefix_cons.1 hpre).1
      exact h (by rw [hcd]; rfl)

/-- Of the words that begin a text, those that are tried first are longer. -/
theorem IsLongestFirst.pairwise_length {ws : List Text} (h : IsLongestFirst ws) (t : Text) :
    (ws.filter (· <+: t)).Pairwise fun a b => b.length < a.length := by
  refine (h.filter _).imp_of_mem fun {a b} ha hb hab => ?_
  have hat : a <+: t := by simpa using (List.mem_filter.1 ha).2
  have hbt : b <+: t := by simpa using (List.mem_filter.1 hb).2
  by_contra hlen
  exact hab (List.prefix_of_prefix_length_le hat hbt (Nat.not_lt.1 hlen))

/-! ## Nodes -/

namespace Branch

theorem isLongestFirst_words {b : Branch} (hlabels : ∀ l ∈ b.head.labels, l ≠ [])
    (htail : IsLongestFirst b.tail.words) : IsLongestFirst (b.words .fromStart) := by
  rw [words_fromStart, IsLongestFirst, product, List.pairwise_flatMap]
  refine ⟨fun l _ => htail.map_append l, ?_⟩
  refine b.head.pairwise_labels.imp_of_mem fun {l m} hl hm hlm x hx y hy => ?_
  obtain ⟨v, -, rfl⟩ := List.mem_map.1 hx
  obtain ⟨w, -, rfl⟩ := List.mem_map.1 hy
  obtain ⟨c, d, rfl, rfl, hcd⟩ := hlm
  have hhead : [c].head? ≠ [d].head? := fun heq => Ranked.ne_of_before hcd (Option.some.inj heq)
  exact not_prefix_append_of_head?_ne (hlabels _ hl) hhead v (hlabels _ hm)

/-- **A node prefers longer matches** if what follows each of its edges does. -/
theorem isLongestFirst_choose {t : Bool} {edges : List Edge}
    (hspread : edges.Pairwise fun d e => startsBefore d.label e.label)
    (hlabels : ∀ e ∈ edges, e.label ≠ []) (htails : ∀ e ∈ edges, IsLongestFirst e.tail.words) :
    IsLongestFirst (choose .fromStart t edges).1.words := by
  by_cases hne : edges = []
  · subst hne
    rw [choose_nil, Fragment.words_empty]
    exact List.pairwise_singleton _ _
  · have hlabel : ∀ b ∈ sort (gather edges), ∀ l ∈ b.head.labels, l ≠ [] :=
      fun _ => label_ne_nil_of_mem_sort hlabels
    have hbranches : IsLongestFirst ((sort (gather edges)).flatMap (words .fromStart)) := by
      rw [IsLongestFirst, List.pairwise_flatMap]
      constructor
      · intro b hb
        obtain ⟨e, he, htail⟩ := exists_tail_eq hb
        exact isLongestFirst_words (hlabel b hb) (htail ▸ htails e he)
      · refine (pairwise_apart_sort_gather hspread).imp_of_mem fun {a b} ha hb hab x hx y hy => ?_
        obtain ⟨l, hl, v, -, rfl⟩ := mem_words.1 hx
        obtain ⟨m, hm, w, -, rfl⟩ := mem_words.1 hy
        exact not_prefix_append_of_head?_ne (hlabel a ha l hl) (hab l hl m hm) v
          (hlabel b hb m hm)
    rw [words_choose hne, IsLongestFirst, List.pairwise_append]
    refine ⟨hbranches, by cases t <;> simp, fun x hx y hy => ?_⟩
    obtain ⟨b, hb, hx⟩ := List.mem_flatMap.1 hx
    obtain ⟨l, hl, v, -, rfl⟩ := mem_words.1 hx
    rw [eq_nil_of_mem_mark hy, List.prefix_nil]
    exact Orientation.attach_ne_nil (hlabel b hb l hl) v

end Branch

theorem Forest.isLongestFirst_tail_of_mem_edges {f : Forest Text} (hf : f.IsSpread) :
    ∀ e ∈ f.edges .fromStart, IsLongestFirst e.tail.words := by
  induction f with
  | nil => exact fun e he => absurd he List.not_mem_nil
  | cons label t below rest ihb ihr =>
    obtain ⟨-, -, hbelow, hrest⟩ := hf
    intro e he
    rcases List.mem_cons.1 he with rfl | he
    · exact Branch.isLongestFirst_choose (pairwise_edges hbelow)
        (label_ne_nil_of_mem_edges hbelow) (ihb hbelow)
    · exact ihr hrest e he

/-! ## Tries -/

namespace Trie

variable (suffixes : List Text)

theorem isLongestFirst_fragment :
    IsLongestFirst (ofList .fromStart suffixes).compact.fragment.words := by
  have hspread := Forest.isSpread_compact (isBuilt_ofList .fromStart suffixes).sorted
  have horient : (ofList .fromStart suffixes).compact.orientation = .fromStart :=
    orientation_ofList .fromStart suffixes
  rw [CompactTrie.fragment, horient]
  exact Branch.isLongestFirst_choose (Forest.pairwise_edges hspread)
    (Forest.label_ne_nil_of_mem_edges hspread) (Forest.isLongestFirst_tail_of_mem_edges hspread)

/-- **Laid from the start, tries are longest first.** At the beginning of a text the members that
begin it are tried from the longest to the shortest, and what is captured is the longest one behind
which the rest of the pattern can match. -/
theorem tried_longest_first (hmember : ∃ s ∈ suffixes, s ≠ []) :
    ∃ e, Expr.read? (ofList .fromStart suffixes).compact.compile = some e ∧ ∀ t,
      (e.tried t).Pairwise (fun a b => b.length < a.length) ∧
      (∀ w, w ∈ e.tried t ↔ w ∈ suffixes ∧ w ≠ [] ∧ w <+: t) ∧
      (∀ w, e.captured? .empty t = some w ↔
        IsLongest (fun v => v ∈ suffixes ∧ v ≠ [] ∧ v <+: t) w) ∧
      ∀ k w, e.captured? k t = some w ↔
        IsLongest (fun v => (v ∈ suffixes ∧ v ≠ [] ∧ v <+: t) ∧ k.ends (.behind v t) ≠ []) w := by
  let f := (ofList .fromStart suffixes).compact.fragment
  have hfinite : f.expr.IsFinite := (isSound_fragment _).isFinite
  refine ⟨f.expr, Fragment.read?_text (isSound_fragment _), fun t => ?_⟩
  have hlength : (f.expr.tried t).Pairwise fun a b => b.length < a.length := by
    rw [Expr.tried_eq hfinite]
    exact (isLongestFirst_fragment suffixes).pairwise_length t
  have htried : ∀ w, w ∈ f.expr.tried t ↔ w ∈ suffixes ∧ w ≠ [] ∧ w <+: t := by
    intro w
    have hmem : w ∈ f.expr.words ↔ w ∈ suffixes ∧ w ≠ [] := mem_words_fragment hmember
    rw [Expr.tried_eq hfinite, List.mem_filter, hmem, decide_eq_true_eq, and_assoc]
  have hcaptured : ∀ k w, f.expr.captured? k t = some w ↔
      IsLongest (fun v => (v ∈ suffixes ∧ v ≠ [] ∧ v <+: t) ∧ k.ends (.behind v t) ≠ []) w := by
    intro k w
    rw [Expr.captured?_eq hfinite, find?_eq_some_iff_isLongest hlength]
    simp only [htried, Bool.not_eq_true', List.isEmpty_eq_false_iff]
  refine ⟨hlength, htried, fun w => ?_, hcaptured⟩
  rw [hcaptured]
  have hnothing : ∀ v, ((v ∈ suffixes ∧ v ≠ [] ∧ v <+: t) ∧
      Expr.empty.ends (.behind v t) ≠ []) ↔ v ∈ suffixes ∧ v ≠ [] ∧ v <+: t :=
    fun v => and_iff_left (List.cons_ne_nil _ _)
  simp only [IsLongest, hnothing]

/-- What is captured of a chain of members depends on what has to match behind it. -/
theorem tried_longest_first_chain :
    (∃ s ∈ ["c".toList, "co".toList, "com".toList], s ≠ []) ∧
      ∃ e, Expr.read? (ofList .fromStart ["c".toList, "co".toList, "com".toList]).compact.compile =
          some e ∧
        e.captured? .empty "comb".toList = some "com".toList ∧
        e.captured? (.char 'm') "comb".toList = some "co".toList := by
  have hmember : ∃ s ∈ ["c".toList, "co".toList, "com".toList], s ≠ [] := by decide
  obtain ⟨e, hread, hall⟩ := tried_longest_first _ hmember
  obtain ⟨-, -, hlongest, hbehind⟩ := hall "comb".toList
  refine ⟨hmember, e, hread, (hlongest _).2 ⟨by decide, ?_⟩, (hbehind _ _).2 ⟨by decide, ?_⟩⟩
  · rintro v ⟨hv, -⟩
    revert v
    decide
  · rintro v ⟨⟨hv, -⟩, hends⟩
    revert hends
    revert v
    decide

end Trie
end SuffixPattern
