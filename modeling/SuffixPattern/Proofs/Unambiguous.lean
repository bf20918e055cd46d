import SuffixPattern.Proofs.BranchOrder
import SuffixPattern.Proofs.Derivation
import SuffixPattern.Proofs.TrieFragment

/-!
# SuffixPattern.Proofs.Unambiguous

A compiled tree matches each of its texts in one way (`matches_in_one_way`). Laid from the start,
the branches of a node differ in the first characters of what they match; laid from the end they
differ in the last characters, and what a match began with is settled from its end. Either way the
node lists no word twice if nothing that follows its edges does (`isUnambiguous_choose`), and no
mark in the tree has to be where a word ends: a leaf matches the empty text whether it is marked or
not.
-/

namespace SuffixPattern

open Regex

namespace Orientation

/-- The first character on the way down can be told from a text in reading order. -/
theorem head?_eq_of_attach_eq {o : Orientation} {l m v w : Text} (hl : l ≠ []) (hm : m ≠ [])
    (h : o.attach l v = o.attach m w) : l.head? = m.head? := by
  cases o with
  | fromEnd =>
    have hlast : ∀ {l : Text} (v : Text), l ≠ [] → (v ++ l.reverse).getLast? = l.head? := by
      intro l v hl
      rw [List.getLast?_append_of_ne_nil _ (by simpa using hl), List.getLast?_reverse]
    rw [← hlast v hl, ← hlast w hm]
    exact congrArg List.getLast? h
  | fromStart =>
    have hfirst : ∀ {l : Text} (v : Text), l ≠ [] → (l ++ v).head? = l.head? :=
      fun v hl => List.head?_append_of_ne_nil _ hl
    rw [← hfirst v hl, ← hfirst w hm]
    exact congrArg List.head? h

end Orientation

theorem Regex.nodup_product {ws vs : List Text} (hws : ws.Nodup) (hvs : vs.Nodup)
    (hsplit : ∀ w ∈ ws, ∀ w' ∈ ws, ∀ v ∈ vs, ∀ v' ∈ vs, w ++ v = w' ++ v' → w = w') :
    (product ws vs).Nodup := by
  refine List.nodup_flatMap.2 ⟨fun w _ => hvs.map (List.append_right_injective w), ?_⟩
  refine hws.imp_of_mem fun {w w'} hw hw' hne u hu hu' => ?_
  obtain ⟨v, hv, rfl⟩ := List.mem_map.1 hu
  obtain ⟨v', hv', heq⟩ := List.mem_map.1 hu'
  exact hne (hsplit w hw w' hw' v hv v' hv' heq.symm)

/-! ## Separated expressions -/

namespace Regex
namespace Expr

theorem isSeparated_ofItems {items : List Expr} (h : ∀ e ∈ items, e.IsSeparated) :
    (ofItems items).IsSeparated := by
  induction items with
  | nil => trivial
  | cons a rest ih =>
    have hrest := ih fun e he => h e (.tail _ he)
    cases rest with
    | nil => exact h a (.head _)
    | cons b rest => exact ⟨h a (.head _), hrest⟩

theorem isSeparated_ofAlternatives {es : List Expr} (h : ∀ e ∈ es, e.IsSeparated)
    (hnodup : (es.flatMap words).Nodup) : (ofAlternatives es).IsSeparated := by
  induction es with
  | nil => trivial
  | cons a rest ih =>
    cases rest with
    | nil => exact h a (.head _)
    | cons b rest =>
      rw [List.flatMap_cons] at hnodup
      obtain ⟨-, hrest, hdisjoint⟩ := List.nodup_append'.1 hnodup
      rw [← words_ofAlternatives (List.cons_ne_nil b rest)] at hdisjoint
      exact ⟨h a (.head _), ih (fun e he => h e (.tail _ he)) hrest, hdisjoint⟩

theorem isSeparated_ofChars (cs : List Char) : (ofChars cs).IsSeparated := by
  rcases ofChars_cases cs with ⟨c, -, h⟩ | h <;> rw [h] <;> trivial

end Expr
end Regex

/-! ## Unambiguous fragments -/

namespace Fragment

structure IsUnambiguous (f : Fragment) : Prop where
  separated : ∀ e ∈ f.items, e.IsSeparated
  nodup : f.words.Nodup

theorem isUnambiguous_empty : IsUnambiguous .empty :=
  ⟨fun _ he => absurd he List.not_mem_nil, List.nodup_singleton _⟩

theorem IsUnambiguous.isSeparated_expr {f : Fragment} (h : f.IsUnambiguous) :
    f.expr.IsSeparated :=
  Expr.isSeparated_ofItems h.separated

/-- A choice between fragments that have no word in common. -/
theorem isUnambiguous_ofAlternatives {fs : List Fragment} (hne : fs ≠ [])
    (h : ∀ f ∈ fs, ∀ e ∈ f.items, e.IsSeparated) (hnodup : (fs.flatMap words).Nodup) :
    (ofAlternatives fs).IsUnambiguous := by
  refine ⟨?_, (words_ofAlternatives hne).symm ▸ hnodup⟩
  rcases ofAlternatives_cases hne with ⟨f, rfl, heq⟩ | heq
  · rw [heq]
    exact h f (.head _)
  · rw [heq]
    intro e he
    cases List.mem_singleton.1 he
    refine Expr.isSeparated_ofAlternatives (fun e he => ?_) ?_
    · obtain ⟨f, hf, rfl⟩ := List.mem_map.1 he
      exact Expr.isSeparated_ofItems (h f hf)
    · rw [List.flatMap_map]
      exact hnodup

/-- What does not match the empty text can be made optional. -/
theorem IsUnambiguous.optional {f : Fragment} (h : f.IsUnambiguous) (hne : f ≠ .empty)
    (hnil : [] ∉ f.words) : f.optional.IsUnambiguous := by
  have hnodup : f.optional.words.Nodup := by
    rw [words_optional hne]
    exact List.nodup_append'.2 ⟨h.nodup, List.nodup_singleton _, by simpa using hnil⟩
  refine ⟨fun e he => ?_, hnodup⟩
  cases f with
  | empty => exact absurd rfl hne
  | atom a =>
    cases List.mem_singleton.1 he
    exact ⟨h.separated a (.head _), hnil⟩
  | sequence items =>
    cases List.mem_singleton.1 he
    exact ⟨h.isSeparated_expr, hnil⟩

end Fragment

/-! ## Branches -/

namespace Head

theorem nodup_labels (h : Head) : h.labels.Nodup := by
  refine h.pairwise_labels.imp fun hlm heq => ?_
  obtain ⟨c, d, rfl, rfl, hcd⟩ := hlm
  exact Ranked.ne_of_before hcd (List.head_eq_of_cons_eq heq)

end Head

namespace Branch

variable {o : Orientation} {edges : List Edge}

theorem nodup_words {b : Branch} (htail : b.tail.words.Nodup) : (b.words o).Nodup := by
  cases o with
  | fromEnd =>
    rw [words_fromEnd]
    refine nodup_product htail (b.head.nodup_labels.map List.reverse_injective) ?_
    intro w _ w' _ v hv v' hv' heq
    obtain ⟨l, hl, rfl⟩ := List.mem_map.1 hv
    obtain ⟨m, hm, rfl⟩ := List.mem_map.1 hv'
    exact List.append_inj_left' heq (by simpa using Head.length_eq_of_mem_labels hl hm)
  | fromStart =>
    rw [words_fromStart]
    refine nodup_product b.head.nodup_labels htail fun l hl m hm _ _ _ _ heq => ?_
    exact List.append_inj_left heq (Head.length_eq_of_mem_labels hl hm)

theorem isSeparated_of_mem_items {b : Branch} (htail : ∀ e ∈ b.tail.items, e.IsSeparated) :
    ∀ e ∈ (b.fragment o).items, e.IsSeparated := by
  have hhead : ∀ e ∈ (headFragment o b.head).items, e.IsSeparated := by
    intro e he
    cases hb : b.head with
    | members cs =>
      rw [hb] at he
      cases List.mem_singleton.1 he
      exact Expr.isSeparated_ofChars cs
    | word label =>
      rw [hb] at he
      obtain ⟨c, -, rfl⟩ := List.mem_map.1 he
      trivial
  intro e he
  cases o with
  | fromEnd =>
    rw [fragment, Fragment.items_append] at he
    exact (List.mem_append.1 he).elim (htail e) (hhead e)
  | fromStart =>
    rw [fragment, Fragment.items_append] at he
    exact (List.mem_append.1 he).elim (hhead e) (htail e)

theorem nodup_branches (hspread : edges.Pairwise fun d e => startsBefore d.label e.label)
    (hlabels : ∀ e ∈ edges, e.label ≠ []) (htails : ∀ e ∈ edges, e.tail.IsUnambiguous) :
    ((sort (gather edges)).flatMap (words o)).Nodup := by
  refine List.nodup_flatMap.2 ⟨fun b hb => ?_, ?_⟩
  · obtain ⟨e, he, htail⟩ := exists_tail_eq hb
    exact nodup_words (htail ▸ (htails e he).nodup)
  · refine (pairwise_apart_sort_gather hspread).imp_of_mem fun {a b} ha hb hab x hx hy => ?_
    obtain ⟨l, hl, v, -, rfl⟩ := mem_words.1 hx
    obtain ⟨m, hm, w, -, heq⟩ := mem_words.1 hy
    have hl' := label_ne_nil_of_mem_sort hlabels ha l hl
    have hm' := label_ne_nil_of_mem_sort hlabels hb m hm
    exact hab l hl m hm (Orientation.head?_eq_of_attach_eq hl' hm' heq)

/-- **A node is unambiguous** if what follows each of its edges is. -/
theorem isUnambiguous_choose (t : Bool)
    (hspread : edges.Pairwise fun d e => startsBefore d.label e.label)
    (hlabels : ∀ e ∈ edges, e.label ≠ []) (htails : ∀ e ∈ edges, e.tail.IsUnambiguous) :
    (choose o t edges).1.IsUnambiguous := by
  by_cases hne : edges = []
  · rw [hne, choose_nil]
    exact Fragment.isUnambiguous_empty
  · have hfragments : (sort (gather edges)).map (fragment o) ≠ [] :=
      mt List.map_eq_nil_iff.1 (sort_gather_ne_nil hne)
    have hseparated : ∀ f ∈ (sort (gather edges)).map (fragment o), ∀ e ∈ f.items,
        e.IsSeparated := by
      intro f hf
      obtain ⟨b, hb, rfl⟩ := List.mem_map.1 hf
      obtain ⟨e, he, htail⟩ := exists_tail_eq hb
      exact isSeparated_of_mem_items (htail ▸ (htails e he).separated)
    have hwords : ((sort (gather edges)).map (fragment o)).flatMap Fragment.words =
        (sort (gather edges)).flatMap (words o) := List.flatMap_map ..
    have hchoice := Fragment.isUnambiguous_ofAlternatives hfragments hseparated
      (hwords ▸ nodup_branches hspread hlabels htails)
    cases t with
    | false => exact hchoice
    | true =>
      refine hchoice.optional (ofAlternatives_branches_ne_empty hne) fun hnil => ?_
      rw [words_ofAlternatives_branches hne] at hnil
      obtain ⟨b, hb, hnil⟩ := List.mem_flatMap.1 hnil
      obtain ⟨l, hl, v, -, heq⟩ := mem_words.1 hnil
      exact Orientation.attach_ne_nil (label_ne_nil_of_mem_sort hlabels hb l hl) v heq.symm

end Branch

/-! ## Trees -/

theorem Forest.isUnambiguous_tail_of_mem_edges {o : Orientation} {f : Forest Text}
    (hf : f.IsSpread) : ∀ e ∈ f.edges o, e.tail.IsUnambiguous := by
  induction f with
  | nil => exact fun e he => absurd he List.not_mem_nil
  | cons label t below rest ihb ihr =>
    obtain ⟨-, -, hbelow, hrest⟩ := hf
    intro e he
    rcases List.mem_cons.1 he with rfl | he
    · exact Branch.isUnambiguous_choose t (pairwise_edges hbelow)
        (label_ne_nil_of_mem_edges hbelow) (ihb hbelow)
    · exact ihr hrest e he

namespace Node

variable {o : Orientation}

theorem isUnambiguous_compile {n : Node Text} (hn : n.children.IsSpread) :
    (n.compile o).IsUnambiguous :=
  Branch.isUnambiguous_choose n.terminal (Forest.pairwise_edges hn)
    (Forest.label_ne_nil_of_mem_edges hn) (Forest.isUnambiguous_tail_of_mem_edges hn)

/-- **A tree matches in one way.** Whatever the marks of a tree are, the pattern for it can be read,
and what it matches in full it matches by making one series of choices. No optional part of it
matches the empty text, and the sides of a group have no match in common. -/
theorem matches_in_one_way (o : Orientation) {n : Node Char} (hn : n.children.IsSorted) :
    ∃ e, Expr.read? (n.compact.compile o).text = some e ∧
      (∀ t, e.matchesFully t = true → ∃! d, e.Parses d t) ∧
      (∀ a, .opt a ∈ e.parts → a.matchesFully [] = false) ∧
      ∀ a, .group a ∈ e.parts → a.alternatives.Pairwise fun b c =>
        ∀ t, ¬ (b.matchesFully t = true ∧ c.matchesFully t = true) := by
  have hsound := isSound_compile (o := o) n.compact
  have hfinite := hsound.isFinite
  have hunambiguous := isUnambiguous_compile (o := o) (n := n.compact) (Forest.isSpread_compact hn)
  have hseparated := hunambiguous.isSeparated_expr
  refine ⟨(n.compact.compile o).expr, Fragment.read?_text hsound, ?_, ?_, ?_⟩
  · intro t ht
    obtain ⟨d, hd⟩ := Expr.matchesFully_iff_parses.1 ht
    exact ⟨d, hd, fun d' hd' => hd'.unique hfinite hunambiguous.nodup hd⟩
  · intro a ha
    have hbody : a.IsFinite := hfinite.of_mem_parts (.opt a) ha
    rw [Bool.eq_false_iff, Ne, Expr.matchesFully_iff_mem_words hbody]
    exact (hseparated.of_mem_parts (.opt a) ha).2
  · intro a ha
    have hgroup : a.IsFinite := hfinite.of_mem_parts (.group a) ha
    have hsides : a.IsSeparated := hseparated.of_mem_parts (.group a) ha
    refine hsides.pairwise_alternatives.imp_of_mem fun {b c} hb hc hdisjoint t ht => ?_
    rw [Expr.matchesFully_iff_mem_words (hgroup.of_mem_alternatives b hb),
      Expr.matchesFully_iff_mem_words (hgroup.of_mem_alternatives c hc)] at ht
    exact hdisjoint ht.1 ht.2

/-- Two edges end at leaves without a mark; the pattern is `(?:[bc]?a|d)`. -/
def unmarkedLeaves : Node Char :=
  ⟨false, .cons 'a' true (.cons 'b' false .nil (.cons 'c' true .nil .nil))
    (.cons 'd' false .nil .nil)⟩

theorem matches_in_one_way_unmarkedLeaves :
    unmarkedLeaves.children.IsSorted ∧
      ∃ e, Expr.read? (unmarkedLeaves.compact.compile .fromEnd).text = some e ∧
        e.matchesFully "ba".toList = true ∧ ∃! d, e.Parses d "ba".toList := by
  have hsorted : unmarkedLeaves.children.IsSorted := by
    simp [unmarkedLeaves, Forest.IsSorted, Forest.keys, Ranked.before]
  have hmatch : (Expr.read? (unmarkedLeaves.compact.compile .fromEnd).text).any
      (·.matchesFully "ba".toList) = true := by decide
  obtain ⟨e, hread, hone, -⟩ := matches_in_one_way .fromEnd hsorted
  rw [hread] at hmatch
  exact ⟨hsorted, e, hread, hmatch, hone _ hmatch⟩

end Node
end SuffixPattern
