import Mathlib.Data.List.Pairwise
import SuffixPattern.Proofs.BranchWords
import SuffixPattern.Proofs.Compaction

/-!
# SuffixPattern.Proofs.BranchOrder

The order of the branches of a node. Edges whose first characters ascend are gathered to branches
whose first members ascend, with no character and no class in two places (`pairwise_gather`);
sorting them by span keeps that order among branches of one span (`pairwise_sort`).
-/

namespace SuffixPattern
namespace Branch

/-! ## Gathered branches -/

/-- How two branches stand to each other when the first is gathered before the second. -/
structure Precedes (a b : Branch) : Prop where
  first : ∃ l ∈ a.head.labels, ∀ m ∈ b.head.labels, startsBefore l m
  apart : ∀ l ∈ a.head.labels, ∀ m ∈ b.head.labels, l.head? ≠ m.head?
  classes : a.head.IsClass → b.head.IsClass → a.tail ≠ b.tail

variable {cs : List Char} {c : Char} {tail : Fragment} {span : Nat}

/-- A class that takes in a higher character still comes after the branches before it. -/
theorem Precedes.concat_right {a : Branch} (h : Precedes a ⟨.members cs, tail, span⟩)
    (hc : ∀ l ∈ a.head.labels, startsBefore l [c]) :
    Precedes a ⟨.members (cs ++ [c]), tail, span⟩ := by
  obtain ⟨l, hl, hfirst⟩ := h.first
  refine ⟨⟨l, hl, fun m hm => ?_⟩, fun l' hl' m hm => ?_, h.classes⟩
  · rcases Head.mem_labels_concat.1 hm with hm | rfl
    · exact hfirst m hm
    · exact hc l hl
  · rcases Head.mem_labels_concat.1 hm with hm | rfl
    · exact h.apart l' hl' m hm
    · exact head?_ne_of_startsBefore (hc l' hl')

/-- A class that takes in a character still comes before the branches after it. -/
theorem Precedes.concat_left {b : Branch} (h : Precedes ⟨.members cs, tail, span⟩ b)
    (hc : ∀ m ∈ b.head.labels, startsBefore m [c]) :
    Precedes ⟨.members (cs ++ [c]), tail, span⟩ b := by
  obtain ⟨l, hl, hfirst⟩ := h.first
  refine ⟨⟨l, Head.mem_labels_concat.2 (.inl hl), hfirst⟩, fun l' hl' m hm => ?_, h.classes⟩
  rcases Head.mem_labels_concat.1 hl' with hl' | rfl
  · exact h.apart l' hl' m hm
  · exact (head?_ne_of_startsBefore (hc m hm)).symm

theorem startsBefore_of_mem_gather {edges : List Edge} {label : Text}
    (h : ∀ e ∈ edges, startsBefore e.label label) :
    ∀ b ∈ gather edges, ∀ l ∈ b.head.labels, startsBefore l label := by
  intro b hb l hl
  obtain ⟨e, he, rfl, -⟩ := exists_mem_gather.1 ⟨b, hb, hl, rfl⟩
  exact h e he

theorem pairwise_gather {edges : List Edge}
    (h : edges.Pairwise fun d e => startsBefore d.label e.label) :
    (gather edges).Pairwise Precedes := by
  induction edges using List.reverseRecOn with
  | nil => exact .nil
  | append_singleton edges e ih =>
    obtain ⟨hedges, -, hlast⟩ := List.pairwise_append.1 h
    have hbranches := ih hedges
    have hlast := startsBefore_of_mem_gather fun d hd => hlast d hd e (.head _)
    rw [gather_concat]
    rcases add_cases (gather edges) e with
      ⟨before, cs, span, after, c, hc, hbs, hadd⟩ | ⟨hnew, hadd⟩
    · rw [hc, hbs] at hlast
      rw [hbs, List.pairwise_append, List.pairwise_cons] at hbranches
      obtain ⟨hbefore, ⟨hclass, hafter⟩, hacross⟩ := hbranches
      rw [hadd, List.pairwise_append, List.pairwise_cons]
      refine ⟨hbefore, ⟨fun b hb => ?_, hafter⟩, fun a ha b hb => ?_⟩
      · exact (hclass b hb).concat_left
          (hlast b (List.mem_append_right _ (.tail _ hb)))
      · rcases List.mem_cons.1 hb with rfl | hb
        · exact (hacross a ha _ (.head _)).concat_right (hlast a (List.mem_append_left _ ha))
        · exact hacross a ha b (.tail _ hb)
    · rw [hadd, List.pairwise_append]
      refine ⟨hbranches, List.pairwise_singleton _ _, fun a ha b hb => ?_⟩
      cases List.mem_singleton.1 hb
      obtain ⟨l, hl⟩ := List.exists_mem_of_ne_nil _ (labels_ne_nil_of_mem_gather a ha)
      refine ⟨⟨l, hl, fun m hm => ?_⟩, fun l' hl' m hm => ?_, fun hclass hclass' => ?_⟩
      · rw [Head.labels_ofLabel, List.mem_singleton] at hm
        exact hm ▸ hlast a ha l hl
      · rw [Head.labels_ofLabel, List.mem_singleton] at hm
        exact hm ▸ head?_ne_of_startsBefore (hlast a ha l' hl')
      · exact hnew hclass' a ha hclass

/-- The characters of a class are met in ascending order. -/
theorem ascending_of_mem_gather {edges : List Edge}
    (h : edges.Pairwise fun d e => startsBefore d.label e.label) :
    ∀ b ∈ gather edges, ∀ cs, b.head = .members cs →
      cs.Pairwise fun c d => Ranked.before c d = true := by
  induction edges using List.reverseRecOn with
  | nil => exact fun b hb => absurd hb List.not_mem_nil
  | append_singleton edges e ih =>
    obtain ⟨hedges, -, hlast⟩ := List.pairwise_append.1 h
    have ih := ih hedges
    have hlast := startsBefore_of_mem_gather fun d hd => hlast d hd e (.head _)
    intro b hb cs hcs
    rw [gather_concat] at hb
    rcases add_cases (gather edges) e with
      ⟨before, cs', span, after, c, hc, hbs, hadd⟩ | ⟨-, hadd⟩
    · rw [hbs] at ih hlast
      rw [hadd] at hb
      rcases List.mem_append.1 hb with hb | hb
      · exact ih b (List.mem_append_left _ hb) cs hcs
      · rcases List.mem_cons.1 hb with rfl | hb
        · cases hcs
          have hclass : ⟨.members cs', e.tail, span⟩ ∈
              before ++ ⟨.members cs', e.tail, span⟩ :: after := List.mem_append_right _ (.head _)
          refine List.pairwise_append.2
            ⟨ih _ hclass cs' rfl, List.pairwise_singleton _ _, fun d hd x hx => ?_⟩
          cases List.mem_singleton.1 hx
          have hbefore := hlast _ hclass [d] (Head.mem_labels_members.2 ⟨d, hd, rfl⟩)
          rw [hc] at hbefore
          obtain ⟨_, hd, _, hc, hbefore⟩ := hbefore
          cases hd
          cases hc
          exact hbefore
        · exact ih b (List.mem_append_right _ (.tail _ hb)) cs hcs
    · rw [hadd] at hb
      rcases List.mem_append.1 hb with hb | hb
      · exact ih b hb cs hcs
      · cases List.mem_singleton.1 hb
        have hhead : Head.ofLabel e.label = .members cs := hcs
        have hclass : (Head.ofLabel e.label).IsClass := hhead ▸ trivial
        obtain ⟨c, hlabel⟩ := Head.isClass_ofLabel_iff.1 hclass
        rw [hlabel] at hhead
        cases hhead
        exact List.pairwise_singleton _ _

/-! ## Sorted branches -/

/-- Longer spans come first, and branches of one span stand as they stood before. -/
def Outranks (R : Branch → Branch → Prop) (a b : Branch) : Prop :=
  b.span < a.span ∨ b.span = a.span ∧ R a b

theorem pairwise_place {R : Branch → Branch → Prop} {b : Branch} {bs : List Branch}
    (hb : ∀ a ∈ bs, R b a) (hbs : bs.Pairwise (Outranks R)) :
    (place b bs).Pairwise (Outranks R) := by
  induction bs with
  | nil => exact List.pairwise_singleton _ _
  | cons a rest ih =>
    obtain ⟨ha, hrest⟩ := List.pairwise_cons.1 hbs
    rw [place]
    split
    · rename_i hlt
      refine .cons (fun x hx => ?_) (ih (fun x hx => hb x (.tail _ hx)) hrest)
      rcases List.mem_cons.1 ((place_perm b rest).mem_iff.1 hx) with rfl | hx
      · exact .inl hlt
      · exact ha x hx
    · rename_i hle
      have hfirst : ∀ x ∈ a :: rest, x.span ≤ a.span := by
        intro x hx
        rcases List.mem_cons.1 hx with rfl | hx
        · exact Nat.le_refl _
        · rcases ha x hx with h | ⟨h, -⟩
          · exact Nat.le_of_lt h
          · exact Nat.le_of_eq h
      refine .cons (fun x hx => ?_) hbs
      have hspan := hfirst x hx
      by_cases hx' : x.span = b.span
      · exact .inr ⟨hx', hb x hx⟩
      · exact .inl (by omega)

/-- **Sorting is stable.** -/
theorem pairwise_sort {R : Branch → Branch → Prop} {bs : List Branch} (h : bs.Pairwise R) :
    (sort bs).Pairwise (Outranks R) := by
  induction bs with
  | nil => exact .nil
  | cons b rest ih =>
    obtain ⟨hb, hrest⟩ := List.pairwise_cons.1 h
    have hcons : sort (b :: rest) = place b (sort rest) := rfl
    rw [hcons]
    exact pairwise_place (fun a ha => hb a ((sort_perm rest).mem_iff.1 ha)) (ih hrest)

/-- No branch has a longer span than the one that is sorted to the front. -/
theorem span_le_of_sort_eq_cons {bs rest : List Branch} {a : Branch} (h : sort bs = a :: rest) :
    ∀ b ∈ bs, b.span ≤ a.span := by
  have hout : (sort bs).Pairwise (Outranks fun _ _ => True) :=
    pairwise_sort (List.pairwise_of_forall fun _ _ => trivial)
  intro b hb
  have hb := (sort_perm bs).mem_iff.2 hb
  rw [h] at hb hout
  rcases List.mem_cons.1 hb with rfl | hb
  · exact Nat.le_refl _
  · rcases (List.pairwise_cons.1 hout).1 b hb with hlt | ⟨heq, -⟩
    · exact Nat.le_of_lt hlt
    · exact Nat.le_of_eq heq

/-- Where the branches of a node stand in the order of preference, no two begin alike. -/
theorem pairwise_apart_sort_gather {edges : List Edge}
    (h : edges.Pairwise fun d e => startsBefore d.label e.label) :
    (sort (gather edges)).Pairwise fun a b =>
      ∀ l ∈ a.head.labels, ∀ m ∈ b.head.labels, l.head? ≠ m.head? := by
  have happart := (pairwise_gather h).imp Precedes.apart
  refine ((sort_perm _).pairwise_iff fun {a b} hab l hl m hm => ?_).2 happart
  exact (hab m hm l hl).symm

/-- There is one class for each tail. -/
theorem eq_of_same_tail {edges : List Edge}
    (h : edges.Pairwise fun d e => startsBefore d.label e.label) {a b : Branch}
    (ha : a ∈ gather edges) (hb : b ∈ gather edges) (hclass : a.head.IsClass)
    (hclass' : b.head.IsClass) (htail : a.tail = b.tail) : a = b := by
  let Same := fun a b : Branch => a.head.IsClass → b.head.IsClass → a.tail = b.tail → a = b
  have hsymm : Std.Symm Same := ⟨fun a b hab hb ha htail => (hab ha hb htail.symm).symm⟩
  have hsame : (gather edges).Pairwise Same :=
    (pairwise_gather h).imp fun hab ha hb htail => absurd htail (hab.classes ha hb)
  exact hsame.forall_of_forall (fun _ _ _ _ _ => rfl) ha hb hclass hclass' htail

end Branch

/-! ## Edges of a compact forest -/

namespace Forest

variable {o : Orientation}

theorem labels_edges (f : Forest Text) : (f.edges o).map Edge.label = f.keys := by
  induction f with
  | nil => rfl
  | cons label t below rest _ ih =>
    rw [edges, List.map_cons, ih]
    rfl

theorem label_ne_nil_of_mem_edges {f : Forest Text} (hf : f.IsSpread) :
    ∀ e ∈ f.edges o, e.label ≠ [] := by
  induction f with
  | nil => exact fun e he => absurd he List.not_mem_nil
  | cons label t below rest _ ih =>
    intro e he
    rcases List.mem_cons.1 he with rfl | he
    · exact hf.1
    · exact ih hf.2.2.2 e he

theorem pairwise_edges {f : Forest Text} (hf : f.IsSpread) :
    (f.edges o).Pairwise fun d e => startsBefore d.label e.label := by
  induction f with
  | nil => exact .nil
  | cons label t below rest _ ih =>
    refine .cons (fun e he => ?_) (ih hf.2.2.2)
    refine hf.2.1 e.label ?_
    rw [← labels_edges (o := o)]
    exact List.mem_map_of_mem he

end Forest
end SuffixPattern
