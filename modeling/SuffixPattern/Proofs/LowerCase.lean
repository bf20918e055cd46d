import SuffixPattern.Unicode.Casing

/-!
# SuffixPattern.Proofs.LowerCase

Lower-casing does not empty a text (`lower_ne_nil`). No character is lost: those beyond ASCII are
looked up in a table, and every word of its written form gives at least one character
(`hasForms_lowerForms`).
-/

namespace SuffixPattern
namespace Unicode

namespace Table

variable {α : Type}

/-- A search finds the value of one of the rows. -/
theorem exists_row_of_search {rows : Array (Nat × Nat × α)} {n lo hi : Nat} {a : α}
    (h : search rows n lo hi = some a) : ∃ r ∈ rows, r.2.2 = a := by
  fun_induction search rows n lo hi with
  | case1 lo hi hlt hnone => cases h
  | case2 lo hi hlt first last b hrow hbelow ih => exact ih h
  | case3 lo hi hlt first last b hrow _ habove ih => exact ih h
  | case4 lo hi hlt first last b hrow _ _ =>
    obtain rfl := Option.some.inj h
    exact ⟨_, Array.mem_of_getElem? hrow, rfl⟩
  | case5 lo hi hle => cases h

/-- The words that a table is written in. -/
def words (source : Text) : List Text :=
  (Text.pieces '\n' source).flatMap (Text.pieces ' ')

/-- Every row comes from a word, and has the value that is written behind the equals sign. -/
theorem exists_word_of_mem_read {value : Option Text → α} {source : Text} {r : Nat × Nat × α}
    (h : r ∈ (read value (String.ofList source)).rows) :
    ∃ word ∈ words source, word ≠ [] ∧ r.2.2 = value (word.cutAt '=').2 := by
  rw [read, String.toList_ofList] at h
  obtain ⟨word, hword, hrow⟩ := List.mem_filterMap.1 (List.mem_toArray.1 h)
  refine ⟨word, hword, ?_, ?_⟩
  · rintro rfl
    cases hrow
  · obtain ⟨n, -, rfl⟩ := Option.map_eq_some_iff.1 hrow
    rfl

/-- No value of the table is empty. -/
def HasForms (t : Table Text) : Prop := ∀ r ∈ t.rows, r.2.2 ≠ []

/-- Whether a word has characters behind the equals sign. Between two blanks there is no word. -/
def givesForm (word : Text) : Bool :=
  word.isEmpty || !(characters ((word.cutAt '=').2.getD [])).isEmpty

theorem hasForms_read {source : Text} (h : (words source).all givesForm = true) :
    HasForms (.read (fun t => characters (t.getD [])) (String.ofList source)) := by
  intro r hr
  obtain ⟨word, hword, hne, hvalue⟩ := exists_word_of_mem_read hr
  have hform := List.all_eq_true.1 h word hword
  rw [givesForm, ← hvalue] at hform
  simpa [hne] using hform

end Table

set_option maxRecDepth 100000 in
theorem hasForms_lowerForms : lowerForms.HasForms := by
  unfold lowerForms
  apply Table.hasForms_read
  decide +kernel

theorem lowerChar_ne_nil (c : Char) : lowerChar c ≠ [] := by
  rw [lowerChar]
  split
  · exact List.cons_ne_nil _ _
  · cases hform : lowerForms.get? c with
    | none => exact List.cons_ne_nil _ _
    | some form =>
      obtain ⟨r, hr, rfl⟩ := Table.exists_row_of_search hform
      exact hasForms_lowerForms r hr

theorem lowerAfter_ne_nil (before : Text) {t : Text} (h : t ≠ []) : lowerAfter before t ≠ [] := by
  cases t with
  | nil => exact absurd rfl h
  | cons c rest =>
    rw [lowerAfter]
    apply List.append_ne_nil_of_left_ne_nil
    split
    · split <;> exact List.cons_ne_nil _ _
    · exact lowerChar_ne_nil c

/-- **Lower-casing does not empty a text.** -/
theorem lower_ne_nil {t : Text} (h : t ≠ []) : lower t ≠ [] :=
  lowerAfter_ne_nil [] h

end Unicode
end SuffixPattern
