import Mathlib.Data.List.TakeWhile
import SuffixPattern.Proofs.Entries

/-!
# SuffixPattern.Proofs.EntryText

What the entry of a line does not depend on: the case of its ASCII letters (`content?_lowerAscii`)
and the white space around it (`content?_pad`).

A letter is not only lower-cased itself. It also counts for a capital sigma near it, and there both
cases of a letter have to count alike.
-/

namespace SuffixPattern
namespace Unicode

/-! ## ASCII letters -/

def capitals : Text :=
  (List.range 26).map fun i => Char.ofNat (65 + i)

theorem mem_capitals_or_toLower_eq (c : Char) : c ∈ capitals ∨ c.toLower = c := by
  by_cases h : c.val ≥ 'A'.val ∧ c.val ≤ 'Z'.val
  · have hlow : 65 ≤ c.toNat := UInt32.le_iff_toNat_le.1 h.1
    have hhigh : c.toNat ≤ 90 := UInt32.le_iff_toNat_le.1 h.2
    refine .inl (List.mem_map.2 ⟨c.toNat - 65, List.mem_range.2 (by omega), ?_⟩)
    rw [Nat.add_sub_cancel' hlow, Char.ofNat_toNat]
  · exact .inr (dif_neg h)

/-- What holds of both cases of every capital holds of both cases of every character. -/
theorem apply_toLower {β : Type} {f : Char → β}
    (h : capitals.map (fun c => f c.toLower) = capitals.map f) (c : Char) : f c.toLower = f c := by
  rcases mem_capitals_or_toLower_eq c with hc | hc
  · exact List.map_inj_left.1 h c hc
  · rw [hc]

theorem isBlank_toLower (c : Char) : isBlank c.toLower = isBlank c :=
  apply_toLower (by decide) c

theorem isCased_toLower (c : Char) : isCased c.toLower = isCased c :=
  apply_toLower (by decide) c

theorem isCaseIgnorable_toLower (c : Char) : isCaseIgnorable c.toLower = isCaseIgnorable c :=
  apply_toLower (by decide) c

theorem lowerChar_toLower (c : Char) : lowerChar c.toLower = lowerChar c :=
  apply_toLower (by decide) c

theorem toLower_eq_sigma_iff {c : Char} : c.toLower = 'Σ' ↔ c = 'Σ' :=
  decide_eq_decide.1 (apply_toLower (f := fun c => decide (c = 'Σ')) (by decide) c)

theorem toLower_eq_numberSign_iff {c : Char} : c.toLower = '#' ↔ c = '#' :=
  decide_eq_decide.1 (apply_toLower (f := fun c => decide (c = '#')) (by decide) c)

theorem meetsCased_lowerAscii (t : Text) : meetsCased t.lowerAscii = meetsCased t := by
  have hignorable : isCaseIgnorable ∘ Char.toLower = isCaseIgnorable :=
    funext isCaseIgnorable_toLower
  rw [meetsCased, meetsCased, Text.lowerAscii, List.dropWhile_map, hignorable]
  cases t.dropWhile isCaseIgnorable with
  | nil => rfl
  | cons c rest => exact isCased_toLower c

theorem lowerAfter_lowerAscii (before t : Text) :
    lowerAfter before.lowerAscii t.lowerAscii = lowerAfter before t := by
  induction t generalizing before with
  | nil => rfl
  | cons c rest ih =>
    have hrest := ih (c :: before)
    have hcased := meetsCased_lowerAscii rest
    simp only [Text.lowerAscii, List.map_cons] at hrest hcased ⊢
    rw [lowerAfter, lowerAfter, hrest, hcased, lowerChar_toLower]
    simp only [toLower_eq_sigma_iff]
    rw [← Text.lowerAscii, meetsCased_lowerAscii]

/-- **The case of the ASCII letters is lost in lower-casing**, and so is what it might do to the
characters around them. -/
theorem lower_lowerAscii (t : Text) : lower t.lowerAscii = lower t :=
  lowerAfter_lowerAscii [] t

end Unicode

namespace Text

/-! ## White space -/

variable {blank : Char → Bool}

theorem trimEnd_append {after : Text} (h : ∀ c ∈ after, blank c = true) (t : Text) :
    trimEnd blank (t ++ after) = trimEnd blank t := by
  rw [trimEnd, List.reverse_append, List.dropWhile_append_of_pos, trimEnd]
  exact fun c hc => h c (List.mem_reverse.1 hc)

theorem trim_pad {before after : Text} (hbefore : ∀ c ∈ before, blank c = true)
    (hafter : ∀ c ∈ after, blank c = true) (t : Text) :
    trim blank (before ++ t ++ after) = trim blank t := by
  rw [trim, trim, List.append_assoc, List.dropWhile_append_of_pos hbefore, List.dropWhile_append]
  split
  · rename_i hempty
    rw [List.dropWhile_eq_nil_iff.2 hafter, List.isEmpty_iff.1 hempty]
  · exact trimEnd_append hafter _

theorem trimEnd_cons {c : Char} (hc : blank c = false) (rest : Text) :
    trimEnd blank (c :: rest) = c :: trimEnd blank rest := by
  rw [trimEnd, List.reverse_cons, List.dropWhile_append]
  split
  · rename_i hempty
    rw [trimEnd, List.isEmpty_iff.1 hempty, List.dropWhile_cons_of_neg (by simp [hc])]
    rfl
  · rw [List.reverse_append, trimEnd]
    rfl

theorem trim_cons {c : Char} (hc : blank c = false) (rest : Text) :
    trim blank (c :: rest) = c :: trimEnd blank rest := by
  rw [trim, List.dropWhile_cons_of_neg (by simp [hc]), trimEnd_cons hc]

theorem trim_lowerAscii (h : ∀ c, blank c.toLower = blank c) (t : Text) :
    trim blank t.lowerAscii = (trim blank t).lowerAscii := by
  have hblank : blank ∘ Char.toLower = blank := funext h
  simp only [trim, trimEnd, lowerAscii, List.dropWhile_map, ← List.map_reverse, hblank]

/-! ## The entry of a line -/

theorem content?_pad {before after : Text} (hbefore : ∀ c ∈ before, Unicode.isBlank c = true)
    (hafter : ∀ c ∈ after, Unicode.isBlank c = true) (raw : Text) :
    (before ++ raw ++ after).content? = raw.content? := by
  rw [content?, content?, trimBlank, trim_pad hbefore hafter, trimBlank]

theorem content?_lowerAscii (raw : Text) : raw.lowerAscii.content? = raw.content? := by
  have htrim : raw.lowerAscii.trimBlank = raw.trimBlank.lowerAscii :=
    trim_lowerAscii Unicode.isBlank_toLower raw
  rw [content?, content?, htrim, Unicode.lower_lowerAscii]
  cases raw.trimBlank with
  | nil => rfl
  | cons c rest => simp [lowerAscii, Unicode.toLower_eq_numberSign_iff]

theorem content?_of_blank {raw : Text} (h : ∀ c ∈ raw, Unicode.isBlank c = true) :
    raw.content? = none := by
  have hpad := content?_pad h (fun _ hc => absurd hc List.not_mem_nil) []
  rw [List.append_nil, List.append_nil] at hpad
  exact hpad

theorem content?_of_comment {before : Text} (h : ∀ c ∈ before, Unicode.isBlank c = true)
    (comment : Text) : (before ++ '#' :: comment).content? = none := by
  have hpad := content?_pad h (fun _ hc => absurd hc List.not_mem_nil) ('#' :: comment)
  rw [List.append_nil] at hpad
  rw [hpad, content?, trimBlank, trim_cons (by decide)]
  exact if_pos (.inr rfl)

end Text
end SuffixPattern
