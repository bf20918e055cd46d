import SuffixPattern.Proofs.Exactness
import SuffixPattern.Proofs.LongestFirst

/-!
# SuffixPattern.Proofs.Halves

Which half of a pattern captures, for lists that are laid from the start. The half for the labels as
written is tried first, so that a decoded form is captured only where no such label matches
(`captured?_eq_some_iff`). Decoded forms are never beginnings of labels, as they are not ASCII; so
the longest member is captured unless members of both halves match (`captured_isLongest_iff`).
-/

namespace SuffixPattern

open Regex

/-! ## Two lists of words -/

theorem Fragment.isLongestFirst_choices {f : Fragment} (h : IsLongestFirst f.words) :
    IsLongestFirst f.choices := by
  unfold choices
  split
  · exact .nil
  · exact h

/-- Of two lists of words one after the other, the first decides where it has a word at all. -/
theorem head?_filter_append_eq_some_iff {ws vs : List Text} (hws : IsLongestFirst ws)
    (hvs : IsLongestFirst vs) {t w : Text} :
    ((ws ++ vs).filter (· <+: t)).head? = some w ↔
      IsLongest (fun v => v ∈ ws ∧ v <+: t) w ∨
        (∀ v ∈ ws, ¬ v <+: t) ∧ IsLongest (fun v => v ∈ vs ∧ v <+: t) w := by
  have hmem : ∀ us : List Text,
      (fun v => v ∈ us.filter (· <+: t)) = fun v => v ∈ us ∧ v <+: t := by
    intro us
    funext v
    rw [List.mem_filter, decide_eq_true_eq]
  rw [← hmem ws, ← hmem vs, ← head?_eq_some_iff_isLongest (hws.pairwise_length t),
    ← head?_eq_some_iff_isLongest (hvs.pairwise_length t), List.filter_append]
  have hnone : (∀ v ∈ ws, ¬ v <+: t) ↔ ws.filter (· <+: t) = [] := by
    simp [List.filter_eq_nil_iff]
  rw [hnone]
  cases ws.filter (· <+: t) with
  | nil => simp
  | cons a rest => simp

/-! ## Characters of the halves -/

theorem toNat_lt_of_isLiteralChar {c : Char} (h : isLiteralChar c = true) : c.toNat < 128 := by
  have hlower : c.isLower = (decide ('a'.val ≤ c.val) && decide (c.val ≤ 'z'.val)) := rfl
  have hdigit : c.isDigit = (decide ('0'.val ≤ c.val) && decide (c.val ≤ '9'.val)) := rfl
  simp only [isLiteralChar, hlower, hdigit, Bool.or_eq_true, Bool.and_eq_true, decide_eq_true_eq,
    UInt32.le_iff_toNat_le] at h
  rcases h with (⟨-, h⟩ | ⟨-, h⟩) | rfl
  · exact Nat.lt_of_le_of_lt h (by decide)
  · exact Nat.lt_of_le_of_lt h (by decide)
  · decide

/-- A form that was accepted has a character beyond ASCII. -/
theorem exists_not_ascii_of_validate {t : Text} (h : Decoding.validate t = .ok t) :
    ∃ c ∈ t, 128 ≤ c.toNat := by
  unfold Decoding.validate at h
  split at h
  · cases h
  · rename_i hascii
    simpa [Text.isAscii] using hascii

theorem ne_nil_of_validate {t : Text} (h : Decoding.validate t = .ok t) : t ≠ [] := by
  rintro rfl
  obtain ⟨c, hc, -⟩ := exists_not_ascii_of_validate h
  cases hc

/-- A decoded form does not begin a label as written. -/
theorem not_prefix_of_decoded {a d : Text} (ha : ∀ c ∈ a, isLiteralChar c = true)
    (hd : Decoding.validate d = .ok d) : ¬ d <+: a := by
  intro hpre
  obtain ⟨c, hc, hcode⟩ := exists_not_ascii_of_validate hd
  have hlt := toNat_lt_of_isLiteralChar (ha c (hpre.subset hc))
  omega

namespace Compilation

variable {l : SuffixList} {o : Options}

/-- **The first half decides.** What the pattern captures is the longest member of the first half
that begins the text; only without one it is the longest member of the second. -/
theorem captured?_eq_some_iff (horient : o.orientation = .fromStart)
    (hmember : ∃ s, (s ∈ l.literal ∨ s ∈ l.decoded) ∧ s ≠ []) (t w : Text) :
    (expr l o).captured? .empty t = some w ↔
      IsLongest (fun v => (v ∈ l.literal ∧ v ≠ []) ∧ v <+: t) w ∨
        (∀ v, v ∈ l.literal ∧ v ≠ [] → ¬ v <+: t) ∧
          IsLongest (fun v => (v ∈ l.decoded ∧ v ≠ []) ∧ v <+: t) w := by
  obtain ⟨hfinite, hwords⟩ := words_expr l o hmember
  have hfirst : ∀ suffixes : List Text, IsLongestFirst
      (Trie.ofList o.orientation suffixes).compact.fragment.choices := by
    intro suffixes
    rw [horient]
    exact Fragment.isLongestFirst_choices (Trie.isLongestFirst_fragment suffixes)
  have hfirstLiteral : IsLongestFirst (ofList l o).literalCompact.fragment.choices := hfirst _
  have hfirstDecoded : IsLongestFirst (ofList l o).decodedCompact.fragment.choices := hfirst _
  rw [Expr.captured?_empty hfinite, Expr.tried_eq hfinite, hwords,
    head?_filter_append_eq_some_iff hfirstLiteral hfirstDecoded]
  simp only [mem_choices_literal, mem_choices_decoded]

/-- A pattern captures something at every text that begins with a member. -/
theorem exists_captured? {t s : Text} (hs : s ∈ l.literal ∨ s ∈ l.decoded) (hne : s ≠ [])
    (hst : s <+: t) : ∃ w, (expr l o).captured? .empty t = some w := by
  rw [← Option.ne_none_iff_exists']
  have hmember : ∃ s, (s ∈ l.literal ∨ s ∈ l.decoded) ∧ s ≠ [] := ⟨s, hs, hne⟩
  intro hnone
  have hwords := (Expr.captured?_empty_eq_none_iff (words_expr l o hmember).1 t).1 hnone
  exact hwords s ((mem_words_expr l o hmember).2 ⟨hs, hne⟩) hst

/-- **When a pattern captures the longest member.** For labels in the characters of a label and
accepted decoded forms, this is so at every text that begins with a member, unless it begins with
members of both halves. -/
theorem captured_isLongest_iff (hname : isGroupName o.groupName = true)
    (horient : o.orientation = .fromStart)
    (hliteral : ∀ s ∈ l.literal, s ≠ [] ∧ ∀ c ∈ s, isLiteralChar c = true)
    (hdecoded : ∀ s ∈ l.decoded, Decoding.validate s = .ok s) :
    ∃ e, Expr.read? (ofList l o).pattern = some e ∧
      ∀ t, (∃ s, (s ∈ l.literal ∨ s ∈ l.decoded) ∧ s <+: t) →
        ((∃ w, e.captured? .empty t = some w ∧
            IsLongest (fun v => (v ∈ l.literal ∨ v ∈ l.decoded) ∧ v <+: t) w) ↔
          ¬ ((∃ a ∈ l.literal, a <+: t) ∧ ∃ d ∈ l.decoded, d <+: t)) := by
  refine ⟨expr l o, read?_pattern l o hname, fun t ⟨s, hs, hst⟩ => ?_⟩
  have hneLiteral : ∀ v ∈ l.literal, v ≠ [] := fun v hv => (hliteral v hv).1
  have hneDecoded : ∀ v ∈ l.decoded, v ≠ [] := fun v hv => ne_nil_of_validate (hdecoded v hv)
  have hne : s ≠ [] := hs.elim (hneLiteral s) (hneDecoded s)
  have hcaptured := captured?_eq_some_iff horient ⟨s, hs, hne⟩ t
  simp only [fun v => and_iff_left_of_imp (hneLiteral v),
    fun v => and_iff_left_of_imp (hneDecoded v)] at hcaptured
  constructor
  · -- A decoded form is longer than any label that begins the same text.
    rintro ⟨w, hw, hlongest⟩ ⟨⟨a, ha, hat⟩, d, hd, hdt⟩
    rcases (hcaptured w).1 hw with ⟨⟨hwl, hwt⟩, -⟩ | ⟨hnone, -⟩
    · have hlen := hlongest.2 d ⟨.inr hd, hdt⟩
      exact not_prefix_of_decoded (hliteral w hwl).2 (hdecoded d hd)
        (List.prefix_of_prefix_length_le hdt hwt hlen)
    · exact hnone a ha hat
  · intro hone
    obtain ⟨w, hw⟩ := exists_captured? (o := o) hs hne hst
    refine ⟨w, hw, ?_⟩
    rcases (hcaptured w).1 hw with ⟨⟨hwl, hwt⟩, hlongest⟩ | ⟨hnone, ⟨hwd, hwt⟩, hlongest⟩
    · refine ⟨⟨.inl hwl, hwt⟩, ?_⟩
      rintro v ⟨hv | hv, hvt⟩
      · exact hlongest v ⟨hv, hvt⟩
      · exact absurd ⟨⟨w, hwl, hwt⟩, v, hv, hvt⟩ hone
    · refine ⟨⟨.inr hwd, hwt⟩, ?_⟩
      rintro v ⟨hv | hv, hvt⟩
      · exact absurd hvt (hnone v hv)
      · exact hlongest v ⟨hv, hvt⟩

/-- A label that begins the decoded form of another. -/
def mixed : SuffixList :=
  { literal := .ofList ["a".toList, "xn--a-eub".toList], decoded := .ofList ["aф".toList] }

theorem mem_literal_mixed {s : Text} :
    s ∈ mixed.literal ↔ s ∈ ["a".toList, "xn--a-eub".toList] := SortedSet.mem_ofList

theorem mem_decoded_mixed {s : Text} : s ∈ mixed.decoded ↔ s ∈ ["aф".toList] :=
  SortedSet.mem_ofList

theorem isLiteralChar_of_mem_mixed :
    ∀ s ∈ mixed.literal, s ≠ [] ∧ ∀ c ∈ s, isLiteralChar c = true := by
  intro s hs
  rw [mem_literal_mixed] at hs
  rcases List.mem_cons.1 hs with rfl | hs
  · exact ⟨by decide, List.all_eq_true.1 (by decide)⟩
  · cases List.mem_singleton.1 hs
    exact ⟨by decide, List.all_eq_true.1 (by decide)⟩

theorem validate_of_mem_mixed : ∀ s ∈ mixed.decoded, Decoding.validate s = .ok s := by
  intro s hs
  rw [mem_decoded_mixed] at hs
  cases List.mem_singleton.1 hs
  rfl

/-- The longest member is captured where the label ends, but not where the decoded form goes on. -/
theorem captured_isLongest_iff_mixed :
    ∃ e, Expr.read? (ofList mixed { orientation := .fromStart }).pattern = some e ∧
      (∃ w, e.captured? .empty "ab".toList = some w ∧
        IsLongest (fun v => (v ∈ mixed.literal ∨ v ∈ mixed.decoded) ∧ v <+: "ab".toList) w) ∧
      ¬ ∃ w, e.captured? .empty "aф".toList = some w ∧
        IsLongest (fun v => (v ∈ mixed.literal ∨ v ∈ mixed.decoded) ∧ v <+: "aф".toList) w := by
  obtain ⟨e, hread, hiff⟩ := captured_isLongest_iff (o := { orientation := .fromStart })
    (by decide) rfl isLiteralChar_of_mem_mixed validate_of_mem_mixed
  simp only [mem_literal_mixed, mem_decoded_mixed] at hiff ⊢
  refine ⟨e, hread, (hiff _ ?_).2 (by decide), fun h => (hiff _ ?_).1 h (by decide)⟩
  · exact ⟨"a".toList, by decide, by decide⟩
  · exact ⟨"a".toList, by decide, by decide⟩

/-- A pattern need not capture the longest member: the label is captured instead of the decoded form
that continues it. -/
theorem captured_label_not_longest :
    (∀ s ∈ mixed.literal, s ≠ [] ∧ ∀ c ∈ s, isLiteralChar c = true) ∧
      (∀ s ∈ mixed.decoded, Decoding.validate s = .ok s) ∧
      ∃ e, Expr.read? (ofList mixed { orientation := .fromStart }).pattern = some e ∧
        e.captured? .empty "aф".toList = some "a".toList ∧
        ¬ IsLongest (fun v => (v ∈ mixed.literal ∨ v ∈ mixed.decoded) ∧ v <+: "aф".toList)
          "a".toList := by
  refine ⟨isLiteralChar_of_mem_mixed, validate_of_mem_mixed, _, read?_pattern _ _ (by decide),
    ?_, ?_⟩
  · have hmember : ∃ s, (s ∈ mixed.literal ∨ s ∈ mixed.decoded) ∧ s ≠ [] :=
      ⟨"a".toList, .inl (mem_literal_mixed.2 (.head _)), by decide⟩
    rw [captured?_eq_some_iff rfl hmember]
    simp only [mem_literal_mixed]
    refine .inl ⟨by decide, ?_⟩
    rintro v ⟨⟨hv, -⟩, hvt⟩
    revert hvt
    revert v
    decide
  · intro hlongest
    have hlen := hlongest.2 "aф".toList ⟨.inr (mem_decoded_mixed.2 (.head _)), by decide⟩
    revert hlen
    decide

end Compilation
end SuffixPattern
