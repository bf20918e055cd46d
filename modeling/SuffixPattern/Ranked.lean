/-!
# SuffixPattern.Ranked

Types whose elements come in a strict linear order. Characters are ranked by code point, and lists
lexicographically: a list comes before its continuations.
-/

namespace SuffixPattern

class Ranked (α : Type) where
  before : α → α → Bool
  irrefl : ∀ a, before a a = false
  trans : ∀ a b c, before a b → before b c → before a c
  total : ∀ a b, before a b = false → before b a = false → a = b

namespace Ranked

theorem asymm {α : Type} [Ranked α] {a b : α} (h : before a b) : before b a = false := by
  cases hba : before b a with
  | false => rfl
  | true => exact (trans a b a h hba).symm.trans (irrefl a)

theorem ne_of_before {α : Type} [Ranked α] {a b : α} (h : before a b) : a ≠ b := by
  rintro rfl
  exact Bool.false_ne_true ((irrefl a).symm.trans h)

/-! ## Ascending lists -/

section Ascending

variable {α β : Type} [Ranked α] (key : β → α)

theorem nodup_of_ascending {l : List β} (h : l.Pairwise fun x y => before (key x) (key y)) :
    l.Nodup :=
  h.imp fun hxy heq => ne_of_before hxy (congrArg key heq)

/-- Two ascending lists with the same members are equal. -/
theorem eq_of_same_members {l m : List β} (hl : l.Pairwise fun x y => before (key x) (key y))
    (hm : m.Pairwise fun x y => before (key x) (key y)) (h : ∀ x, x ∈ l ↔ x ∈ m) : l = m := by
  have hperm : l.Perm m :=
    (List.perm_ext_iff_of_nodup (nodup_of_ascending key hl) (nodup_of_ascending key hm)).2 h
  refine hperm.eq_of_pairwise (fun x y _ _ hxy hyx => ?_) hl hm
  rw [asymm hxy] at hyx
  exact absurd hyx Bool.false_ne_true

end Ascending

/-! ## Characters -/

instance : Ranked Char where
  before a b := decide (a.toNat < b.toNat)
  irrefl a := by simp
  trans a b c h₁ h₂ := by
    rw [decide_eq_true_eq] at *
    exact Nat.lt_trans h₁ h₂
  total a b h₁ h₂ := by
    rw [decide_eq_false_iff_not] at *
    exact Char.toNat_inj.1 (by omega)

/-! ## Lists -/

variable {α : Type} [Ranked α]

def listBefore : List α → List α → Bool
  | _, [] => false
  | [], _ :: _ => true
  | a :: l, b :: m => before a b || (!before b a && listBefore l m)

theorem listBefore_cons {a b : α} {l m : List α} :
    listBefore (a :: l) (b :: m) ↔ before a b ∨ a = b ∧ listBefore l m := by
  rw [listBefore]
  cases hab : before a b with
  | true => simp
  | false =>
    cases hba : before b a with
    | true => simp [(ne_of_before hba).symm]
    | false => simp [total a b hab hba]

instance : Ranked (List α) where
  before := listBefore
  irrefl l := by
    induction l with
    | nil => rfl
    | cons a l ih => simp [listBefore, irrefl, ih]
  trans l m n h₁ h₂ := by
    induction l generalizing m n with
    | nil =>
      cases n with
      | nil => cases m <;> exact absurd h₂ (by simp [listBefore])
      | cons c n => rfl
    | cons a l ih =>
      cases m with
      | nil => exact absurd h₁ (by simp [listBefore])
      | cons b m =>
        cases n with
        | nil => exact absurd h₂ (by simp [listBefore])
        | cons c n =>
          rw [listBefore_cons] at *
          rcases h₁ with h₁ | ⟨rfl, h₁⟩
          · rcases h₂ with h₂ | ⟨rfl, _⟩
            · exact .inl (trans a b c h₁ h₂)
            · exact .inl h₁
          · exact h₂.imp_right fun h => ⟨h.1, ih m n h₁ h.2⟩
  total l m h₁ h₂ := by
    induction l generalizing m with
    | nil =>
      cases m with
      | nil => rfl
      | cons b m => exact absurd h₁ (by simp [listBefore])
    | cons a l ih =>
      cases m with
      | nil => exact absurd h₂ (by simp [listBefore])
      | cons b m =>
        have h₁ : ¬ (before a b ∨ a = b ∧ listBefore l m) := by
          rw [← listBefore_cons, h₁]
          exact Bool.false_ne_true
        have h₂ : ¬ (before b a ∨ b = a ∧ listBefore m l) := by
          rw [← listBefore_cons, h₂]
          exact Bool.false_ne_true
        have hab : a = b := total a b
          (Bool.eq_false_iff.2 fun h => h₁ (.inl h)) (Bool.eq_false_iff.2 fun h => h₂ (.inl h))
        subst hab
        rw [ih m (Bool.eq_false_iff.2 fun h => h₁ (.inr ⟨rfl, h⟩))
          (Bool.eq_false_iff.2 fun h => h₂ (.inr ⟨rfl, h⟩))]

end Ranked
end SuffixPattern
