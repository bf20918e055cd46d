import Mathlib.Data.Set.Card
import SuffixPattern.Proofs.Exactness
import SuffixPattern.Proofs.Halves
import SuffixPattern.Proofs.Entries
import SuffixPattern.Proofs.LowerCase

/-!
# SuffixPattern.Proofs.Members

The length of a list is the number of texts that a pattern for it matches (`members_counted_once`),
whatever is taken for the Unicode form of a domain. No member is empty, and none is both a label and
a decoded form: labels are ASCII, and an accepted form is not (`validate_eq_ok_iff`).
-/

namespace SuffixPattern

open Regex

/-! ## Decoded forms -/

namespace Decoding

/-- What may stand as a decoded form: a text that is not ASCII, without anything that would split
it. -/
structure IsForm (t : Text) : Prop where
  notAscii : ∃ c ∈ t, 128 ≤ c.toNat
  unsplit : ∀ c ∈ t, Unicode.isControl c = false ∧ Unicode.isBlank c = false ∧ c ≠ '.'

theorem IsForm.ne_nil {t : Text} (h : IsForm t) : t ≠ [] := by
  rintro rfl
  obtain ⟨c, hc, -⟩ := h.notAscii
  cases hc

/-- A label is no decoded form. -/
theorem IsForm.not_isLabel {t : Text} (h : IsForm t) : ¬ IsLabel t := by
  intro hlabel
  obtain ⟨c, hc, hcode⟩ := h.notAscii
  have hlt := toNat_lt_of_isLiteralChar (isLiteralChar_iff.2 (hlabel c hc))
  omega

theorem validate_eq_ok_iff {t form : Text} : validate t = .ok form ↔ t = form ∧ IsForm form := by
  unfold validate
  split
  · rename_i hascii
    simp only [reduceCtorEq, false_iff]
    rintro ⟨rfl, hform⟩
    obtain ⟨c, hc, hcode⟩ := hform.notAscii
    have hlt := List.all_eq_true.1 hascii c hc
    simp at hlt
    omega
  · rename_i hascii
    have hnotAscii : ∃ c ∈ t, 128 ≤ c.toNat := by
      simpa [Text.isAscii] using hascii
    split
    · rename_i c hfind
      simp only [reduceCtorEq, false_iff]
      rintro ⟨rfl, hform⟩
      have hunsplit := hform.unsplit c (List.mem_of_find?_eq_some hfind)
      have hc := List.find?_some hfind
      simp [isDecodedChar, hunsplit] at hc
    · rename_i hfind
      have hunsplit : ∀ c ∈ t,
          Unicode.isControl c = false ∧ Unicode.isBlank c = false ∧ c ≠ '.' := by
        simpa [isDecodedChar, and_assoc] using hfind
      rw [Except.ok.injEq]
      refine ⟨?_, And.left⟩
      rintro rfl
      exact ⟨rfl, hnotAscii, hunsplit⟩

theorem isForm_of_decodeWith {toUnicode? : Text → Option Text} {label form : Text}
    (h : decodeWith toUnicode? label = .ok form) : IsForm form := by
  unfold decodeWith at h
  split at h
  · cases h
  · exact (validate_eq_ok_iff.1 h).2

end Decoding

/-! ## Lines -/

namespace Line

theorem ne_nil_of_ofText {raw s : Text} (h : ofText raw = .entry s) : s ≠ [] := by
  unfold ofText at h
  split at h
  · cases h
  · cases h
  · rename_i hnil _
    cases h
    exact Unicode.lower_ne_nil hnil

theorem ne_nil_of_ofSuffix {raw s : Text} (h : ofSuffix raw = .entry s) : s ≠ [] := by
  unfold ofSuffix at h
  split at h
  · cases h
  · rename_i hnil
    cases h
    exact Unicode.lower_ne_nil hnil

end Line

namespace SuffixList

variable {σ : Type} {decode : Decoder σ} {l : SuffixList}

/-- What holds of all answers of a decoder holds of the decoded members of a list. -/
theorem forall_mem_decoded_readFrom {P : Text → Prop}
    (hanswer : ∀ s label form, (decode s label).1 = .ok form → P form) {lines : List Line} {s : σ}
    (hlabels : ∀ p ∈ Line.entriesFrom 1 lines, IsLabel p.2) :
    ∀ form ∈ (readFrom decode 1 lines {} s).list.decoded, P form := by
  refine readFrom_induction decode (R := fun _ l _ => ∀ form ∈ l.decoded, P form)
    (fun _ l _ h => h) (fun _ l _ h => h) ?_ (fun form h => absurd h SortedSet.not_mem_empty)
    hlabels
  intro done l s suffix h _
  rcases add_cases decode (done.length + 1) suffix l.countLine s with
    ⟨-, hadd⟩ | ⟨-, -, hadd⟩ | ⟨-, -, hadd⟩
  · rw [hadd]
    exact h
  · rw [hadd]
    cases hcase : (decode s suffix).1 with
    | ok form =>
      intro x hx
      rcases SortedSet.mem_insert.1 hx with rfl | hx
      · exact hanswer s suffix x hcase
      · exact h x hx
    | error reason => exact h
  · rw [hadd]
    exact h

/-- Members as they are read: labels with at least one character, and decoded forms. -/
structure IsProper (l : SuffixList) : Prop where
  literal : ∀ s ∈ l.literal, s ≠ [] ∧ IsLabel s
  decoded : ∀ s ∈ l.decoded, Decoding.IsForm s

theorem isProper_of_readFrom {toUnicode? : Text → Option Text} {lines : List Line}
    (hlines : ∀ s, .entry s ∈ lines → s ≠ [])
    (h : (readFrom (.pure (Decoding.decodeWith toUnicode?)) 1 lines {} ()).result = .ok l) :
    l.IsProper := by
  obtain ⟨hlabels, rfl⟩ := (result_readFrom_eq_ok_iff _ ()).1 h
  constructor
  case literal =>
    intro s hs
    rw [mem_literal_readFrom _ hlabels] at hs
    obtain ⟨n, hn⟩ := Line.mem_iff_mem_entriesFrom.1 hs
    exact ⟨hlines s hs, hlabels (n, s) hn⟩
  case decoded =>
    exact forall_mem_decoded_readFrom
      (fun _ _ _ hanswer => Decoding.isForm_of_decodeWith hanswer) hlabels

theorem IsProper.not_mem_decoded (h : l.IsProper) : ∀ s ∈ l.literal, s ∉ l.decoded :=
  fun s hs hform => (h.decoded s hform).not_isLabel (h.literal s hs).2

/-- What a pattern matches is listed without repetition by the members of the two kinds. -/
theorem IsProper.encard_matches (h : l.IsProper) (o : Options) :
    {s | (Compilation.expr l o).matchesFully s = true}.encard = l.length := by
  have hset : {s | (Compilation.expr l o).matchesFully s = true} =
      {s | s ∈ l.literal.toList ++ l.decoded.toList} := by
    ext s
    simp only [Set.mem_ofPred_eq, Compilation.matchesFully_expr_iff, List.mem_append]
    refine and_iff_right_of_imp ?_
    rintro (hs | hs)
    · exact (h.literal s hs).1
    · exact (h.decoded s hs).ne_nil
  have hnodup : (l.literal.toList ++ l.decoded.toList).Nodup := by
    rw [List.nodup_append]
    refine ⟨Ranked.nodup_of_ascending id l.literal.ascending,
      Ranked.nodup_of_ascending id l.decoded.ascending, ?_⟩
    rintro s hs _ hform rfl
    exact h.not_mem_decoded s hs hform
  rw [hset, ← List.coe_toFinset, Set.encard_coe_eq_coe_finsetCard,
    List.toFinset_card_of_nodup hnodup, List.length_append]
  rfl

/-- **Every member is counted once and matched.** -/
theorem members_counted_once (toUnicode? : Text → Option Text)
    (h : (∃ text, (readText (.pure (Decoding.decodeWith toUnicode?)) () text).result = .ok l) ∨
      ∃ suffixes,
        (readSuffixes (.pure (Decoding.decodeWith toUnicode?)) () suffixes).result = .ok l) :
    (∀ form ∈ l.decoded, form ≠ [] ∧ (∃ c ∈ form, 128 ≤ c.toNat) ∧
      ∀ c ∈ form, Unicode.isControl c = false ∧ Unicode.isBlank c = false ∧ c ≠ '.') ∧
    (∀ s ∈ l.literal, s ∉ l.decoded) ∧
    ∀ o : Options, isGroupName o.groupName = true →
      ∃ e, Expr.read? (Compilation.ofList l o).pattern = some e ∧
        {s | e.matchesFully s = true}.encard = l.length := by
  have hproper : l.IsProper := by
    rcases h with ⟨text, h⟩ | ⟨suffixes, h⟩
    · refine isProper_of_readFrom (fun s hs => ?_) h
      obtain ⟨raw, -, hraw⟩ := List.mem_map.1 hs
      exact Line.ne_nil_of_ofText hraw
    · refine isProper_of_readFrom (fun s hs => ?_) h
      obtain ⟨raw, -, hraw⟩ := List.mem_map.1 hs
      exact Line.ne_nil_of_ofSuffix hraw
  refine ⟨fun form hform => ?_, hproper.not_mem_decoded, fun o hname => ?_⟩
  · have hf := hproper.decoded form hform
    exact ⟨hf.ne_nil, hf.notAscii, hf.unsplit⟩
  · exact ⟨Compilation.expr l o, Compilation.read?_pattern l o hname, hproper.encard_matches o⟩

/-- The Unicode form of a single label. -/
def greekForm? (label : Text) : Option Text :=
  if label = "xn--a".toList then some ['α'] else none

theorem members_counted_once_greek :
    ∃ l, (readText (.pure (Decoding.decodeWith greekForm?)) () "com\nxn--a\nxn--b".toList).result =
        .ok l ∧
      l.decoded.toList = [['α']] ∧
      ∃ e, Expr.read? (Compilation.ofList l {}).pattern = some e ∧
        {s | e.matchesFully s = true}.encard = 4 := by
  have hresult :
      (readText (.pure (Decoding.decodeWith greekForm?)) () "com\nxn--a\nxn--b".toList).result =
        .ok (readText (.pure (Decoding.decodeWith greekForm?)) ()
          "com\nxn--a\nxn--b".toList).list := by rfl
  obtain ⟨-, -, hcount⟩ := members_counted_once greekForm? (.inl ⟨_, hresult⟩)
  exact ⟨_, hresult, by decide, hcount {} (by decide)⟩

end SuffixList
end SuffixPattern
