import Mathlib.Data.List.Induction
import SuffixPattern.Branch
import SuffixPattern.Proofs.FragmentWords

/-!
# SuffixPattern.Proofs.BranchWords

The words of a node from the words of its edges. Whatever the labels are, gathering and sorting keep
the pairs of label and tail (`exists_mem_gather`, `sort_perm`), so a node has the words of its
edges, and the empty one if a word ends there (`mem_words_choose`).
-/

namespace SuffixPattern

open Regex

namespace Orientation

/-- A label with what follows it on the way down, in reading order. -/
def attach : Orientation → Text → Text → Text
  | .fromEnd, label, v => v ++ label.reverse
  | .fromStart, label, v => label ++ v

theorem readingOrder_append (o : Orientation) (label w : Text) :
    o.readingOrder (label ++ w) = o.attach label (o.readingOrder w) := by
  cases o with
  | fromEnd => exact List.reverse_append
  | fromStart => rfl

theorem attach_ne_nil {o : Orientation} {label : Text} (hne : label ≠ []) (v : Text) :
    o.attach label v ≠ [] := by
  cases o <;> simp [attach, hne]

end Orientation

/-! ## Heads -/

namespace Head

/-- The labels of the edges that begin with the head. -/
def labels : Head → List Text
  | .members cs => (SortedSet.ofList cs).toList.map fun c => [c]
  | .word label => [label]

/-- The head of a branch with a single edge. -/
def ofLabel : Text → Head
  | [c] => .members [c]
  | label => .word label

def IsClass : Head → Prop
  | .members _ => True
  | .word _ => False

theorem mem_labels_members {cs : List Char} {l : Text} :
    l ∈ (members cs).labels ↔ ∃ c ∈ cs, l = [c] := by
  simp only [labels, List.mem_map, SortedSet.mem_toList_ofList, eq_comm]

theorem labels_ofLabel (label : Text) : (ofLabel label).labels = [label] := by
  unfold ofLabel
  split <;> rfl

theorem mem_labels_concat {cs : List Char} {c : Char} {l : Text} :
    l ∈ (members (cs ++ [c])).labels ↔ l ∈ (members cs).labels ∨ l = [c] := by
  rw [mem_labels_members, mem_labels_members]
  constructor
  · rintro ⟨d, hd, rfl⟩
    rcases List.mem_append.1 hd with hd | hd
    · exact .inl ⟨d, hd, rfl⟩
    · exact .inr (by rw [List.mem_singleton.1 hd])
  · rintro (⟨d, hd, rfl⟩ | rfl)
    · exact ⟨d, List.mem_append_left _ hd, rfl⟩
    · exact ⟨c, List.mem_append_right _ (.head _), rfl⟩

theorem pairwise_labels (h : Head) :
    h.labels.Pairwise fun l m => ∃ c d, l = [c] ∧ m = [d] ∧ Ranked.before c d = true := by
  cases h with
  | members cs =>
    refine List.pairwise_map.2 ((SortedSet.ofList cs).ascending.imp fun {c d} hcd => ?_)
    exact ⟨c, d, rfl, rfl, hcd⟩
  | word label => exact List.pairwise_singleton _ _

/-- Labels of one head differ in their first characters at most. -/
theorem tail_eq_of_mem_labels {h : Head} {l m : Text} (hl : l ∈ h.labels) (hm : m ∈ h.labels) :
    l.tail = m.tail := by
  cases h with
  | members cs =>
    obtain ⟨c, -, rfl⟩ := mem_labels_members.1 hl
    obtain ⟨d, -, rfl⟩ := mem_labels_members.1 hm
    rfl
  | word label =>
    rw [List.mem_singleton.1 hl, List.mem_singleton.1 hm]

theorem length_eq_of_mem_labels {h : Head} {l m : Text} (hl : l ∈ h.labels) (hm : m ∈ h.labels) :
    l.length = m.length := by
  cases h with
  | members cs =>
    obtain ⟨c, -, rfl⟩ := mem_labels_members.1 hl
    obtain ⟨d, -, rfl⟩ := mem_labels_members.1 hm
    rfl
  | word label => rw [List.mem_singleton.1 hl, List.mem_singleton.1 hm]

theorem ofLabel_eq_word {label : Text} (h : ¬ ∃ c, label = [c]) : ofLabel label = .word label := by
  unfold ofLabel
  split
  · exact absurd ⟨_, rfl⟩ h
  · rfl

theorem isClass_ofLabel_iff {label : Text} : (ofLabel label).IsClass ↔ ∃ c, label = [c] := by
  by_cases h : ∃ c, label = [c]
  · obtain ⟨c, rfl⟩ := h
    exact iff_of_true trivial ⟨c, rfl⟩
  · rw [ofLabel_eq_word h]
    exact iff_of_false id h

end Head

namespace Branch

/-! ## Branches -/

theorem words_headFragment (o : Orientation) (h : Head) :
    (headFragment o h).words = h.labels.map o.readingOrder := by
  cases h with
  | members cs =>
    have hatom : (headFragment o (.members cs)).words = (Expr.ofChars cs).words := rfl
    rw [hatom, Expr.words_ofChars, Head.labels, List.map_map]
    cases o <;> rfl
  | word label => exact Fragment.words_ofText _

/-- What a branch matches, in the order of preference. -/
def words (o : Orientation) (b : Branch) : List Text := (b.fragment o).words

theorem words_fromStart (b : Branch) :
    b.words .fromStart = product b.head.labels b.tail.words := by
  have hread : b.head.labels.map Orientation.fromStart.readingOrder = b.head.labels :=
    List.map_id _
  rw [words, fragment, Fragment.words_append, words_headFragment, hread]

theorem words_fromEnd (b : Branch) :
    b.words .fromEnd = product b.tail.words (b.head.labels.map List.reverse) := by
  rw [words, fragment, Fragment.words_append, words_headFragment]
  rfl

theorem mem_words {o : Orientation} {b : Branch} {w : Text} :
    w ∈ b.words o ↔ ∃ l ∈ b.head.labels, ∃ v ∈ b.tail.words, w = o.attach l v := by
  cases o with
  | fromEnd =>
    rw [words_fromEnd, mem_product]
    constructor
    · rintro ⟨v, hv, r, hr, rfl⟩
      obtain ⟨l, hl, rfl⟩ := List.mem_map.1 hr
      exact ⟨l, hl, v, hv, rfl⟩
    · rintro ⟨l, hl, v, hv, rfl⟩
      exact ⟨v, hv, l.reverse, List.mem_map_of_mem hl, rfl⟩
  | fromStart =>
    rw [words_fromStart, mem_product]
    rfl

theorem headFragment_ne_empty (o : Orientation) (h : Head) : headFragment o h ≠ .empty := by
  cases h <;> exact nofun

theorem fragment_ne_empty (o : Orientation) (b : Branch) : b.fragment o ≠ .empty := by
  have happ : ∀ f g : Fragment, f ++ g = .empty → f = .empty ∧ g = .empty := by
    intro f g h
    have heq : f ++ g = Fragment.append f g := rfl
    rw [heq] at h
    cases f <;> cases g <;> simp_all [Fragment.append]
  cases o with
  | fromEnd => exact fun h => headFragment_ne_empty .fromEnd b.head (happ _ _ h).2
  | fromStart => exact fun h => headFragment_ne_empty .fromStart b.head (happ _ _ h).1

theorem isSound_headFragment (o : Orientation) {h : Head} (hne : h.labels ≠ []) :
    (headFragment o h).IsSound := by
  cases h with
  | members cs =>
    have hcs : cs ≠ [] := by
      rintro rfl
      exact hne rfl
    exact Fragment.isSound_atom (Expr.isPlain_ofChars hcs) (Expr.not_isRepetition_ofChars cs)
  | word label => exact Fragment.isSound_ofText _

theorem isSound_fragment (o : Orientation) {b : Branch} (hhead : b.head.labels ≠ [])
    (htail : b.tail.IsSound) : (b.fragment o).IsSound := by
  have hh := isSound_headFragment o hhead
  cases o with
  | fromEnd => exact htail.append hh
  | fromStart => exact hh.append htail

/-! ## Gathering -/

/-- A character joins the class with the given tail, or opens one if there is none. -/
theorem addMember_cases (c : Char) (tail : Fragment) (span : Nat) (bs : List Branch) :
    (∃ before cs span' after, bs = before ++ ⟨.members cs, tail, span'⟩ :: after ∧
        addMember c tail span bs = before ++ ⟨.members (cs ++ [c]), tail, span'⟩ :: after) ∨
      (∀ b ∈ bs, b.head.IsClass → b.tail ≠ tail) ∧
        addMember c tail span bs = bs ++ [⟨.members [c], tail, span⟩] := by
  induction bs with
  | nil => exact .inr ⟨fun b hb => absurd hb List.not_mem_nil, rfl⟩
  | cons b rest ih =>
    obtain ⟨head, btail, bspan⟩ := b
    by_cases hb : head.IsClass → btail ≠ tail
    · have hskip : addMember c tail span (⟨head, btail, bspan⟩ :: rest) =
          ⟨head, btail, bspan⟩ :: addMember c tail span rest := by
        cases head with
        | members cs => simp [addMember, hb trivial]
        | word label => rfl
      rw [hskip]
      rcases ih with ⟨before, cs, span', after, hbs, hadd⟩ | ⟨hnew, hadd⟩
      · rw [hadd, hbs]
        exact .inl ⟨⟨head, btail, bspan⟩ :: before, cs, span', after, rfl, rfl⟩
      · rw [hadd]
        refine .inr ⟨fun b' hb' => ?_, rfl⟩
        rcases List.mem_cons.1 hb' with rfl | hb'
        · exact hb
        · exact hnew b' hb'
    · cases head with
      | members cs =>
        have htail : btail = tail := by simpa [Head.IsClass] using hb
        subst htail
        exact .inl ⟨[], cs, bspan, rest, rfl, by simp [addMember]⟩
      | word label => exact absurd (fun h => h.elim) hb

/-- The two things that happen to an edge: its character joins a class with the same tail, or the
edge opens a branch of its own. A class is opened if there is none with that tail. -/
theorem add_cases (bs : List Branch) (e : Edge) :
    (∃ before cs span after c, e.label = [c] ∧
        bs = before ++ ⟨.members cs, e.tail, span⟩ :: after ∧
        add bs e = before ++ ⟨.members (cs ++ [c]), e.tail, span⟩ :: after) ∨
      ((Head.ofLabel e.label).IsClass → ∀ b ∈ bs, b.head.IsClass → b.tail ≠ e.tail) ∧
        add bs e = bs ++ [⟨Head.ofLabel e.label, e.tail, e.span⟩] := by
  obtain ⟨label, tail, span⟩ := e
  by_cases hsingle : ∃ c, label = [c]
  · obtain ⟨c, rfl⟩ := hsingle
    rcases addMember_cases c tail span bs with ⟨before, cs, span', after, hbs, hadd⟩ | ⟨hnew, hadd⟩
    · exact .inl ⟨before, cs, span', after, c, rfl, hbs, hadd⟩
    · exact .inr ⟨fun _ => hnew, hadd⟩
  · refine .inr ⟨fun hclass => absurd (Head.isClass_ofLabel_iff.1 hclass) hsingle, ?_⟩
    rw [Head.ofLabel_eq_word hsingle]
    unfold add
    simp only
    split
    · exact absurd ⟨_, rfl⟩ hsingle
    · rfl

theorem gather_concat (edges : List Edge) (e : Edge) :
    gather (edges ++ [e]) = add (gather edges) e := by
  rw [gather, List.foldl_append]
  rfl

theorem exists_mem_add {bs : List Branch} {e : Edge} {l : Text} {tail : Fragment} :
    (∃ b ∈ add bs e, l ∈ b.head.labels ∧ b.tail = tail) ↔
      (∃ b ∈ bs, l ∈ b.head.labels ∧ b.tail = tail) ∨ e.label = l ∧ e.tail = tail := by
  rcases add_cases bs e with ⟨before, cs, span, after, c, hlabel, rfl, hadd⟩ | ⟨-, hadd⟩
  · rw [hadd, hlabel]
    simp only [List.mem_append, List.mem_cons, or_and_right, exists_or, exists_eq_left,
      Head.mem_labels_concat]
    rw [eq_comm (a := l)]
    constructor
    · rintro (h | (h | h) | h)
      · exact .inl (.inl h)
      · exact .inl (.inr (.inl h))
      · exact .inr h
      · exact .inl (.inr (.inr h))
    · rintro ((h | h | h) | h)
      · exact .inl h
      · exact .inr (.inl (.inl h))
      · exact .inr (.inr h)
      · exact .inr (.inl (.inr h))
  · rw [hadd]
    simp only [List.mem_append, List.mem_singleton, or_and_right, exists_or, exists_eq_left,
      Head.labels_ofLabel]
    rw [eq_comm (a := l)]

/-- **Gathering keeps the pairs of label and tail.** -/
theorem exists_mem_gather {edges : List Edge} {l : Text} {tail : Fragment} :
    (∃ b ∈ gather edges, l ∈ b.head.labels ∧ b.tail = tail) ↔
      ∃ e ∈ edges, e.label = l ∧ e.tail = tail := by
  induction edges using List.reverseRecOn with
  | nil => simp [gather]
  | append_singleton edges e ih =>
    rw [gather_concat, exists_mem_add, ih]
    simp only [List.mem_append, List.mem_singleton, or_and_right, exists_or, exists_eq_left]

/-- What holds of a branch with a single edge and is kept when a character joins a class holds of
every branch. -/
theorem forall_mem_gather {P : Branch → Prop} {edges : List Edge}
    (hopen : ∀ e ∈ edges, P ⟨Head.ofLabel e.label, e.tail, e.span⟩)
    (hjoin : ∀ cs c tail span, P ⟨.members cs, tail, span⟩ → P ⟨.members (cs ++ [c]), tail, span⟩) :
    ∀ b ∈ gather edges, P b := by
  induction edges using List.reverseRecOn with
  | nil => exact fun b hb => absurd hb List.not_mem_nil
  | append_singleton edges e ih =>
    have ih := ih fun d hd => hopen d (List.mem_append_left _ hd)
    intro b hb
    rw [gather_concat] at hb
    rcases add_cases (gather edges) e with ⟨before, cs, span, after, c, -, hbs, hadd⟩ | ⟨-, hadd⟩
    · rw [hadd] at hb
      rw [hbs] at ih
      rcases List.mem_append.1 hb with hb | hb
      · exact ih b (List.mem_append_left _ hb)
      · rcases List.mem_cons.1 hb with rfl | hb
        · exact hjoin cs c _ span (ih _ (List.mem_append_right _ (.head _)))
        · exact ih b (List.mem_append_right _ (.tail _ hb))
    · rw [hadd] at hb
      rcases List.mem_append.1 hb with hb | hb
      · exact ih b hb
      · cases List.mem_singleton.1 hb
        exact hopen e (List.mem_append_right _ (.head _))

theorem labels_ne_nil_of_mem_gather {edges : List Edge} :
    ∀ b ∈ gather edges, b.head.labels ≠ [] := by
  refine forall_mem_gather (fun e _ => ?_) fun cs c _ _ _ => ?_
  · rw [Head.labels_ofLabel]
    exact List.cons_ne_nil _ _
  · exact List.ne_nil_of_mem (Head.mem_labels_concat.2 (.inr rfl))

/-- An edge with a single character is always put in a class. -/
theorem isClass_of_mem_gather {edges : List Edge} {c : Char} :
    ∀ b ∈ gather edges, [c] ∈ b.head.labels → b.head.IsClass := by
  refine forall_mem_gather (fun e _ hc => ?_) fun _ _ _ _ _ _ => trivial
  rw [Head.labels_ofLabel, List.mem_singleton] at hc
  exact Head.isClass_ofLabel_iff.2 ⟨c, hc.symm⟩

/-- A branch has the span of one of its edges. -/
theorem exists_span_of_mem_gather {edges : List Edge} :
    ∀ b ∈ gather edges, ∃ e ∈ edges, e.label ∈ b.head.labels ∧ e.tail = b.tail ∧
      e.span = b.span := by
  refine forall_mem_gather (fun e he => ⟨e, he, ?_, rfl, rfl⟩) fun cs c tail span h => ?_
  · rw [Head.labels_ofLabel]
    exact .head _
  · obtain ⟨e, he, hlabel, hsame⟩ := h
    exact ⟨e, he, Head.mem_labels_concat.2 (.inl hlabel), hsame⟩

theorem gather_eq_nil_iff {edges : List Edge} : gather edges = [] ↔ edges = [] := by
  constructor
  · intro h
    refine List.eq_nil_iff_forall_not_mem.2 fun e he => ?_
    obtain ⟨b, hb, -⟩ := exists_mem_gather.2 ⟨e, he, rfl, rfl⟩
    rw [h] at hb
    cases hb
  · rintro rfl
    rfl

/-! ## Sorting -/

theorem place_perm (b : Branch) (bs : List Branch) : (place b bs).Perm (b :: bs) := by
  induction bs with
  | nil => exact .refl _
  | cons c rest ih =>
    rw [place]
    split
    · exact (ih.cons c).trans (.swap b c rest)
    · exact .refl _

theorem sort_perm (bs : List Branch) : (sort bs).Perm bs := by
  induction bs with
  | nil => exact .refl _
  | cons b rest ih =>
    have hcons : sort (b :: rest) = place b (sort rest) := rfl
    rw [hcons]
    exact (place_perm b _).trans (ih.cons b)

/-! ## Nodes -/

variable {o : Orientation} {t : Bool} {edges : List Edge}

theorem sort_gather_ne_nil (hne : edges ≠ []) : sort (gather edges) ≠ [] := by
  intro h
  have hperm := sort_perm (gather edges)
  rw [h] at hperm
  exact hne (gather_eq_nil_iff.1 hperm.symm.eq_nil)

theorem exists_tail_eq {b : Branch} (hb : b ∈ sort (gather edges)) :
    ∃ e ∈ edges, e.tail = b.tail := by
  obtain ⟨e, he, -, htail, -⟩ := exists_span_of_mem_gather b ((sort_perm _).mem_iff.1 hb)
  exact ⟨e, he, htail⟩

theorem label_ne_nil_of_mem_sort {b : Branch} (hlabels : ∀ e ∈ edges, e.label ≠ [])
    (hb : b ∈ sort (gather edges)) : ∀ l ∈ b.head.labels, l ≠ [] := by
  intro l hl
  obtain ⟨e, he, rfl, -⟩ := exists_mem_gather.1 ⟨b, (sort_perm _).mem_iff.1 hb, hl, rfl⟩
  exact hlabels e he

/-- The choice between the branches of a node. -/
theorem words_ofAlternatives_branches (hne : edges ≠ []) :
    (Fragment.ofAlternatives ((sort (gather edges)).map (fragment o))).words =
      (sort (gather edges)).flatMap (words o) := by
  rw [Fragment.words_ofAlternatives (mt List.map_eq_nil_iff.1 (sort_gather_ne_nil hne)),
    List.flatMap_map]
  rfl

theorem ofAlternatives_branches_ne_empty (hne : edges ≠ []) :
    Fragment.ofAlternatives ((sort (gather edges)).map (fragment o)) ≠ .empty := by
  have hmap := mt (List.map_eq_nil_iff (f := fragment o)).1 (sort_gather_ne_nil hne)
  refine Fragment.ofAlternatives_ne_empty hmap fun f hf => ?_
  obtain ⟨b, -, rfl⟩ := List.mem_map.1 hf
  exact fragment_ne_empty o b

/-- What a node matches, in the order of preference. -/
theorem words_choose (hne : edges ≠ []) :
    (choose o t edges).1.words =
      (sort (gather edges)).flatMap (words o) ++ (if t then [[]] else []) := by
  cases t with
  | false =>
    rw [choose, if_neg Bool.false_ne_true, words_ofAlternatives_branches hne,
      if_neg Bool.false_ne_true, List.append_nil]
  | true =>
    rw [choose, if_pos rfl, Fragment.words_optional (ofAlternatives_branches_ne_empty hne),
      words_ofAlternatives_branches hne, if_pos rfl]

theorem eq_nil_of_mem_mark {w : Text} (h : w ∈ if t then [[]] else []) : w = [] := by
  cases t with
  | false => cases h
  | true => exact List.mem_singleton.1 h

theorem choose_nil (o : Orientation) (t : Bool) : choose o t [] = (.empty, 0) := by
  cases t <;> rfl

/-- **The words of a node** are those of its edges, and the empty one at the end of a word. -/
theorem mem_words_choose {w : Text} :
    w ∈ (choose o t edges).1.words ↔
      (∃ e ∈ edges, ∃ v ∈ e.tail.words, w = o.attach e.label v) ∨
        w = [] ∧ (t = true ∨ edges = []) := by
  by_cases hne : edges = []
  · subst hne
    rw [choose_nil, Fragment.words_empty]
    simp
  · have hbranch : w ∈ (sort (gather edges)).flatMap (words o) ↔
        ∃ e ∈ edges, ∃ v ∈ e.tail.words, w = o.attach e.label v := by
      simp only [List.mem_flatMap, (sort_perm _).mem_iff, mem_words]
      constructor
      · rintro ⟨b, hb, l, hl, v, hv, rfl⟩
        obtain ⟨e, he, rfl, htail⟩ := exists_mem_gather.1 ⟨b, hb, hl, rfl⟩
        exact ⟨e, he, v, htail ▸ hv, rfl⟩
      · rintro ⟨e, he, v, hv, rfl⟩
        obtain ⟨b, hb, hl, htail⟩ := exists_mem_gather.2 ⟨e, he, rfl, rfl⟩
        exact ⟨b, hb, e.label, hl, v, htail ▸ hv, rfl⟩
    rw [words_choose hne, List.mem_append, hbranch]
    cases t <;> simp [hne]

theorem isSound_choose (h : ∀ e ∈ edges, e.tail.IsSound) : (choose o t edges).1.IsSound := by
  have hchoice : (Fragment.ofAlternatives ((sort (gather edges)).map (fragment o))).IsSound := by
    refine Fragment.isSound_ofAlternatives fun f hf => ?_
    obtain ⟨b, hb, rfl⟩ := List.mem_map.1 hf
    have hb := (sort_perm _).mem_iff.1 hb
    have hhead := labels_ne_nil_of_mem_gather b hb
    obtain ⟨l, hl⟩ := List.exists_mem_of_ne_nil _ hhead
    obtain ⟨e, he, -, htail⟩ := exists_mem_gather.1 ⟨b, hb, hl, rfl⟩
    exact isSound_fragment o hhead (htail ▸ h e he)
  cases t with
  | false => exact hchoice
  | true => exact hchoice.optional

end Branch
end SuffixPattern
