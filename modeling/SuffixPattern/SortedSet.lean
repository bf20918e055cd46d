import SuffixPattern.Ranked

/-!
# SuffixPattern.SortedSet

Finite sets over a strict linear order, kept as ascending lists, so that equal sets are equal values
(`ext`). `mem_insert` and `mem_ofList` say what the operations do to the members.
-/

namespace SuffixPattern

open Ranked (before)

structure SortedSet (α : Type) [Ranked α] where
  toList : List α
  ascending : toList.Pairwise fun a b => before a b

namespace SortedSet

variable {α : Type} [Ranked α]

instance : Membership α (SortedSet α) where
  mem s a := a ∈ s.toList

instance [DecidableEq α] : DecidableEq (SortedSet α) := fun s t =>
  match s, t with
  | ⟨l, _⟩, ⟨m, _⟩ => if h : l = m then .isTrue (by subst h; rfl) else .isFalse (by simp [h])

def empty : SortedSet α := ⟨[], .nil⟩

def size (s : SortedSet α) : Nat := s.toList.length

def isEmpty (s : SortedSet α) : Bool := s.toList.isEmpty

def contains [DecidableEq α] (s : SortedSet α) (a : α) : Bool := decide (a ∈ s.toList)

/-! ## Insertion -/

/-- Puts an element at its place in an ascending list, unless it is there already. -/
def place (a : α) : List α → List α
  | [] => [a]
  | b :: rest =>
    if before a b then a :: b :: rest
    else if before b a then b :: place a rest
    else b :: rest

theorem mem_place {a x : α} {l : List α} : x ∈ place a l ↔ x = a ∨ x ∈ l := by
  induction l with
  | nil => simp [place]
  | cons b rest ih =>
    rw [place]
    split
    · simp
    · split
      · rw [List.mem_cons, ih, List.mem_cons]
        exact or_left_comm
      · rename_i h₁ h₂
        have := Ranked.total a b (Bool.eq_false_iff.2 h₁) (Bool.eq_false_iff.2 h₂)
        subst this
        simp

theorem pairwise_place {a : α} {l : List α} (h : l.Pairwise fun a b => before a b) :
    (place a l).Pairwise fun a b => before a b := by
  induction l with
  | nil => simp [place]
  | cons b rest ih =>
    rw [List.pairwise_cons] at h
    rw [place]
    split
    · rename_i hab
      refine .cons (fun x hx => ?_) (.cons h.1 h.2)
      cases hx with
      | head => exact hab
      | tail _ hx => exact Ranked.trans a b x hab (h.1 x hx)
    · split
      · rename_i hba
        refine .cons (fun x hx => ?_) (ih h.2)
        rcases mem_place.1 hx with rfl | hx
        · exact hba
        · exact h.1 x hx
      · exact .cons h.1 h.2

def insert (a : α) (s : SortedSet α) : SortedSet α :=
  ⟨place a s.toList, pairwise_place s.ascending⟩

def ofList (l : List α) : SortedSet α :=
  l.foldl (fun s a => s.insert a) empty

/-! ## Members -/

theorem mem_insert {a x : α} {s : SortedSet α} : x ∈ s.insert a ↔ x = a ∨ x ∈ s :=
  mem_place

theorem contains_iff [DecidableEq α] {a : α} {s : SortedSet α} : s.contains a = true ↔ a ∈ s :=
  decide_eq_true_iff

theorem not_mem_empty {x : α} : ¬ x ∈ (empty : SortedSet α) :=
  List.not_mem_nil

theorem mem_foldl_insert {x : α} {l : List α} {s : SortedSet α} :
    x ∈ l.foldl (fun s a => s.insert a) s ↔ x ∈ l ∨ x ∈ s := by
  induction l generalizing s with
  | nil => simp
  | cons b rest ih =>
    rw [List.foldl_cons, ih, mem_insert, List.mem_cons]
    constructor
    · rintro (h | h | h)
      · exact .inl (.inr h)
      · exact .inl (.inl h)
      · exact .inr h
    · rintro ((h | h) | h)
      · exact .inr (.inl h)
      · exact .inl h
      · exact .inr (.inr h)

theorem mem_ofList {x : α} {l : List α} : x ∈ ofList l ↔ x ∈ l := by
  rw [ofList, mem_foldl_insert]
  exact ⟨fun h => h.resolve_right not_mem_empty, .inl⟩

theorem mem_toList_ofList {x : α} {l : List α} : x ∈ (ofList l).toList ↔ x ∈ l := mem_ofList

theorem length_place {a : α} {l : List α} (h : a ∉ l) : (place a l).length = l.length + 1 := by
  induction l with
  | nil => rfl
  | cons b rest ih =>
    rw [List.mem_cons, not_or] at h
    rw [place]
    split
    · rfl
    · split
      · rw [List.length_cons, ih h.2, List.length_cons]
      · rename_i h₁ h₂
        exact absurd (Ranked.total a b (Bool.eq_false_iff.2 h₁) (Bool.eq_false_iff.2 h₂)) h.1

theorem size_insert {a : α} {s : SortedSet α} (h : a ∉ s) : (s.insert a).size = s.size + 1 :=
  length_place h

/-- A list without repetitions is as long as the set of its elements is large. -/
theorem size_ofList {l : List α} (h : l.Nodup) : (ofList l).size = l.length := by
  have hnodup := Ranked.nodup_of_ascending id (ofList l).ascending
  exact ((List.perm_ext_iff_of_nodup hnodup h).2 fun _ => mem_ofList).length_eq

theorem ext {s t : SortedSet α} (h : ∀ x, x ∈ s ↔ x ∈ t) : s = t := by
  obtain ⟨l, hl⟩ := s
  obtain ⟨m, hm⟩ := t
  have := Ranked.eq_of_same_members id hl hm h
  subst this
  rfl

end SortedSet
end SuffixPattern
