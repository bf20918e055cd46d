import Mathlib.Data.List.Basic
import SuffixPattern.Proofs.Preference
import SuffixPattern.Proofs.Reading
import SuffixPattern.Regex.CharSet

/-!
# SuffixPattern.Proofs.CharClass

The expression for a set of characters matches these characters one at a time (`words_ofChars`) and
is a unit of the grammar: the runs of a list, written out or as ranges, hold its characters in the
same order.
-/

namespace SuffixPattern
namespace Regex

/-! ## Runs -/

theorem chars_range_self (c : Char) : (ClassItem.range c c).chars = [c] := by
  have hone : c.toNat + 1 - c.toNat = 1 := by omega
  simp [ClassItem.chars, hone, charOfCode?_toNat]

theorem chars_range_cons {c first last : Char} (hfirst : first.toNat = c.toNat + 1)
    (hle : first.toNat ≤ last.toNat) :
    (ClassItem.range c last).chars = c :: (ClassItem.range first last).chars := by
  have hlen : last.toNat + 1 - c.toNat = (last.toNat + 1 - first.toNat) + 1 := by omega
  rw [ClassItem.chars, ClassItem.chars, hlen, List.range'_succ, hfirst, List.filterMap_cons,
    charOfCode?_toNat]

theorem le_of_mem_runs {l : List Char} : ∀ run ∈ runs l, run.1.toNat ≤ run.2.toNat := by
  induction l with
  | nil => intro run h; cases h
  | cons c rest ih =>
    intro run h
    rw [runs] at h
    split at h
    · simp only [List.mem_singleton] at h
      subst h
      exact Nat.le_refl _
    · rename_i first last more hrest
      rw [hrest] at ih
      have hhead := ih (first, last) (.head _)
      split at h
      · rcases List.mem_cons.1 h with rfl | h
        · simp only at hhead ⊢
          omega
        · exact ih run (.tail _ h)
      · rcases List.mem_cons.1 h with rfl | h
        · exact Nat.le_refl _
        · exact ih run h

theorem le_of_runs_eq_cons {l : List Char} {run : Char × Char} {more : List (Char × Char)}
    (h : runs l = run :: more) : run.1.toNat ≤ run.2.toNat := by
  have hrun : run ∈ runs l := h ▸ .head _
  exact le_of_mem_runs run hrun

/-- The runs of a list hold its characters, in the same order. -/
theorem flatMap_runs (l : List Char) :
    (runs l).flatMap (fun run => (ClassItem.range run.1 run.2).chars) = l := by
  induction l with
  | nil => rfl
  | cons c rest ih =>
    rw [runs]
    split
    · rename_i hrest
      rw [hrest] at ih
      have hnil : rest = [] := ih.symm
      simp [hnil, chars_range_self]
    · rename_i first last more hrest
      have hle : first.toNat ≤ last.toNat := le_of_runs_eq_cons hrest
      rw [hrest, List.flatMap_cons] at ih
      split
      · rename_i hnext
        rw [List.flatMap_cons, chars_range_cons hnext hle, List.cons_append, ih]
      · rw [List.flatMap_cons, List.flatMap_cons, ih, chars_range_self]
        rfl

theorem chars_ofRun {run : Char × Char} (hle : run.1.toNat ≤ run.2.toNat) :
    (ClassItem.ofRun run).flatMap ClassItem.chars = (ClassItem.range run.1 run.2).chars := by
  obtain ⟨first, last⟩ := run
  simp only at hle
  unfold ClassItem.ofRun
  split
  · rename_i h
    have heq : last = first := Char.toNat_inj.1 (by simp only at h; omega)
    rw [heq, chars_range_self]
    rfl
  · rename_i h
    have hnext : last.toNat = first.toNat + 1 := by simp only at h; omega
    rw [chars_range_cons hnext (Nat.le_refl _), chars_range_self]
    rfl
  · simp

theorem chars_runs (l : List Char) :
    ((runs l).flatMap ClassItem.ofRun).flatMap ClassItem.chars = l := by
  have hrun : ∀ run ∈ runs l, (ClassItem.ofRun run).flatMap ClassItem.chars =
      (ClassItem.range run.1 run.2).chars :=
    fun run h => chars_ofRun (le_of_mem_runs run h)
  rw [List.flatMap_assoc, List.flatMap_congr hrun, flatMap_runs]

theorem isProper_of_mem_ofRun {run : Char × Char} (hle : run.1.toNat ≤ run.2.toNat) :
    ∀ item ∈ ClassItem.ofRun run, item.IsProper := by
  intro item h
  unfold ClassItem.ofRun at h
  split at h
  · simp only [List.mem_singleton] at h
    subst h
    trivial
  · simp only [List.mem_cons, List.not_mem_nil, or_false] at h
    rcases h with rfl | rfl <;> trivial
  · simp only [List.mem_singleton] at h
    subst h
    exact char_le_iff.2 hle

/-! ## Sets of characters -/

namespace Expr

variable (cs : List Char)

/-- A set with one member is that character, any other set is a class. -/
theorem ofChars_cases :
    (∃ c, (SortedSet.ofList cs).toList = [c] ∧ ofChars cs = .char c) ∨
      ofChars cs =
        .set false ((runs (SortedSet.ofList cs).toList).flatMap ClassItem.ofRun) := by
  unfold ofChars
  split
  · rename_i c h
    exact .inl ⟨c, h, rfl⟩
  · exact .inr rfl

theorem words_ofChars : (ofChars cs).words = (SortedSet.ofList cs).toList.map fun c => [c] := by
  rcases ofChars_cases cs with ⟨c, hcs, h⟩ | h
  · rw [h, hcs]
    rfl
  · rw [h, words, chars_runs]

theorem isFinite_ofChars : (ofChars cs).IsFinite := by
  rcases ofChars_cases cs with ⟨c, -, h⟩ | h
  · rw [h]
    trivial
  · rw [h]
    refine ⟨rfl, ?_⟩
    rw [chars_runs]
    exact (SortedSet.ofList cs).ascending.imp Ranked.ne_of_before

theorem not_isRepetition_ofChars : ¬ (ofChars cs).IsRepetition := by
  rcases ofChars_cases cs with ⟨c, -, h⟩ | h
  · rw [h]
    exact id
  · rw [h]
    exact id

theorem isUnit_ofChars (hne : cs ≠ []) : (ofChars cs).IsUnit := by
  rcases ofChars_cases cs with ⟨c, -, h⟩ | h
  · rw [h]
    exact .char c
  · rw [h]
    refine .set false ?_ ?_
    · intro hnil
      obtain ⟨c, rest, rfl⟩ := List.exists_cons_of_ne_nil hne
      have hc : c ∈ (SortedSet.ofList (c :: rest)).toList :=
        SortedSet.mem_toList_ofList.2 (.head _)
      have hempty := chars_runs (SortedSet.ofList (c :: rest)).toList
      rw [hnil] at hempty
      rw [← hempty] at hc
      cases hc
    · intro item hitem
      obtain ⟨run, hrun, hitem⟩ := List.mem_flatMap.1 hitem
      exact isProper_of_mem_ofRun (le_of_mem_runs run hrun) item hitem

end Expr
end Regex
end SuffixPattern
