import SuffixPattern.Proofs.Entries

/-!
# SuffixPattern.Proofs.Accounting

The books of a list that was read: every line is counted once, and every encoded entry is either
decoded or skipped (`balance_of_read`). This holds for every decoder, also for one that remembers
what it was asked and for one that answers anything.

The invariant of the lines has three parts. `IsCounted` is about the counters, `IsAnswered` about
the collections alone, and `IsFirstSkipped` about the lines on which skipped entries stand.
-/

namespace SuffixPattern

namespace Line

theorem ofText_eq_blank_iff {raw : Text} : ofText raw = .blank ↔ raw.trimBlank = [] := by
  unfold ofText
  split
  · rename_i h
    simp [h]
  · rename_i h
    simp [h]
  · rename_i hnil _
    simpa using hnil

theorem ofText_eq_comment_iff {raw : Text} :
    ofText raw = .comment ↔ raw.trimBlank.head? = some '#' := by
  unfold ofText
  split
  · rename_i h
    simp [h]
  · rename_i h
    simp [h]
  · rename_i hcomment
    simp only [reduceCtorEq, false_iff]
    intro h
    obtain ⟨rest, hrest⟩ := List.head?_eq_some_iff.1 h
    exact hcomment rest hrest

theorem entriesFrom_append (number : Nat) (lines more : List Line) :
    entriesFrom number (lines ++ more) =
      entriesFrom number lines ++ entriesFrom (number + lines.length) more := by
  rw [entriesFrom, List.zipIdx_append, List.filterMap_append]
  rfl

/-- Entries do not stand behind the last line. -/
theorem lt_of_mem_entriesFrom {number n : Nat} {lines : List Line} {s : Text}
    (h : (n, s) ∈ entriesFrom number lines) : n < number + lines.length := by
  induction lines generalizing number with
  | nil => cases h
  | cons line rest ih =>
    rw [List.length_cons]
    cases line with
    | blank =>
      have := ih h
      omega
    | comment =>
      have := ih h
      omega
    | entry suffix =>
      rw [entriesFrom_entry, List.mem_cons, Prod.mk.injEq] at h
      rcases h with ⟨rfl, -⟩ | h
      · omega
      · have := ih h
        omega

end Line

namespace SuffixList

variable {σ : Type} {done : List Line} {l : SuffixList} {suffix : Text}

theorem isEncoded_iff : isEncoded suffix = true ↔ "xn--".toList <+: suffix :=
  List.isPrefixOf_iff_prefix

/-! ## Collections -/

/-- The encoded members of a list are those that were decoded and those that were skipped, and none
is both. -/
structure IsAnswered (l : SuffixList) : Prop where
  encoded : ∀ s, s ∈ l.decodedLabels.keys ∨ s ∈ l.skipped.map Skipped.suffix ↔
    s ∈ l.literal ∧ isEncoded s = true
  disjoint : ∀ s ∈ l.decodedLabels.keys, s ∉ l.skipped.map Skipped.suffix
  distinct : (l.skipped.map Skipped.suffix).Nodup
  forms : ∀ form, form ∈ l.decoded ↔ form ∈ l.decodedLabels.values

namespace IsAnswered

theorem empty : IsAnswered {} where
  encoded _ := iff_of_false (fun h => h.elim SortedMap.not_mem_keys_empty List.not_mem_nil)
    fun h => SortedSet.not_mem_empty h.1
  disjoint _ _ := List.not_mem_nil
  distinct := .nil
  forms _ := Iff.rfl

/-- What is counted does not matter. -/
theorem of_stats (h : IsAnswered l) (stats : Stats) : IsAnswered { l with stats := stats } :=
  ⟨h.encoded, h.disjoint, h.distinct, h.forms⟩

/-- What is new among the members was not answered before. -/
theorem not_mem_keys (h : IsAnswered l) (hnew : suffix ∉ l.literal) :
    suffix ∉ l.decodedLabels.keys :=
  fun hs => hnew ((h.encoded suffix).1 (.inl hs)).1

theorem not_mem_skipped (h : IsAnswered l) (hnew : suffix ∉ l.literal) :
    suffix ∉ l.skipped.map Skipped.suffix :=
  fun hs => hnew ((h.encoded suffix).1 (.inr hs)).1

theorem addLiteral (h : IsAnswered l) (hplain : isEncoded suffix = false) :
    IsAnswered (l.addLiteral suffix) where
  encoded s := by
    refine (h.encoded s).trans ?_
    rw [mem_addLiteral]
    constructor
    · rintro ⟨hs, hencoded⟩
      exact ⟨.inr hs, hencoded⟩
    · rintro ⟨rfl | hs, hencoded⟩
      · rw [hplain] at hencoded
        cases hencoded
      · exact ⟨hs, hencoded⟩
  disjoint := h.disjoint
  distinct := h.distinct
  forms := h.forms

theorem encoded_of_insert (h : IsAnswered l) (hencoded : isEncoded suffix = true) (s : Text) :
    s = suffix ∨ (s ∈ l.decodedLabels.keys ∨ s ∈ l.skipped.map Skipped.suffix) ↔
      s ∈ (l.addLiteral suffix).literal ∧ isEncoded s = true := by
  rw [h.encoded, mem_addLiteral, or_and_right]
  refine or_congr_left ⟨?_, And.left⟩
  rintro rfl
  exact ⟨rfl, hencoded⟩

theorem addAnswer_ok (h : IsAnswered l) (hnew : suffix ∉ l.literal)
    (hencoded : isEncoded suffix = true) (line : Nat) (form : Text) :
    IsAnswered ((l.addLiteral suffix).addAnswer line suffix (.ok form)) where
  encoded s := by
    rw [literal_addAnswer, ← h.encoded_of_insert hencoded, ← or_assoc]
    exact or_congr_left SortedMap.mem_keys_insert
  disjoint s hs := by
    rcases SortedMap.mem_keys_insert.1 hs with rfl | hs
    · exact h.not_mem_skipped hnew
    · exact h.disjoint s hs
  distinct := h.distinct
  forms x := by
    refine SortedSet.mem_insert.trans ?_
    refine Iff.trans ?_ (SortedMap.mem_values_insert (h.not_mem_keys hnew)).symm
    exact or_congr_right (h.forms x)

theorem addAnswer_error (h : IsAnswered l) (hnew : suffix ∉ l.literal)
    (hencoded : isEncoded suffix = true) (line : Nat) (reason : Rejection) :
    IsAnswered ((l.addLiteral suffix).addAnswer line suffix (.error reason)) := by
  have hskipped : ((l.addLiteral suffix).addAnswer line suffix (.error reason)).skipped.map
      Skipped.suffix = l.skipped.map Skipped.suffix ++ [suffix] :=
    List.map_append
  constructor
  case encoded =>
    intro s
    rw [literal_addAnswer, ← h.encoded_of_insert hencoded, hskipped, List.mem_append,
      List.mem_singleton, ← or_assoc, or_comm]
    rfl
  case disjoint =>
    intro s hs
    rw [hskipped, List.mem_append, List.mem_singleton, not_or]
    refine ⟨h.disjoint s hs, ?_⟩
    rintro rfl
    exact h.not_mem_keys hnew hs
  case distinct =>
    rw [hskipped, List.nodup_append]
    refine ⟨h.distinct, by simp, ?_⟩
    intro a ha b hb heq
    rw [heq, List.mem_singleton.1 hb] at ha
    exact h.not_mem_skipped hnew ha
  case forms => exact h.forms

theorem add (decode : Decoder σ) (h : IsAnswered l) (line : Nat) (suffix : Text) (s : σ) :
    IsAnswered (l.add decode line suffix s).1 := by
  rcases add_cases decode line suffix l s with
    ⟨-, hadd⟩ | ⟨hnew, hencoded, hadd⟩ | ⟨-, hplain, hadd⟩
  · rw [hadd]
    exact h.of_stats _
  · rw [hadd]
    cases (decode s suffix).1 with
    | ok form => exact h.addAnswer_ok hnew hencoded line form
    | error reason => exact h.addAnswer_error hnew hencoded line reason
  · rw [hadd]
    exact h.addLiteral hplain

end IsAnswered

/-! ## Counters -/

/-- Every line is counted as what it is, and every collection has as many elements as are
counted. -/
structure IsCounted (done : List Line) (l : SuffixList) : Prop where
  lines : l.stats.lines = done.length
  comments : l.stats.comments = done.count .comment
  total : l.stats.lines =
    done.count .blank + l.stats.comments + l.stats.entries + l.stats.duplicates
  entries : l.stats.entries = l.literal.size
  decoded : l.stats.decoded = l.decodedLabels.size
  skipped : l.stats.skipped = l.skipped.length

namespace IsCounted

theorem empty : IsCounted [] {} := ⟨rfl, rfl, rfl, rfl, rfl, rfl⟩

theorem blank (h : IsCounted done l) : IsCounted (done ++ [.blank]) l.countLine where
  lines := by simp [countLine, h.lines]
  comments := by simp [countLine, h.comments]
  total := by
    have := h.total
    simp [countLine]
    omega
  entries := h.entries
  decoded := h.decoded
  skipped := h.skipped

theorem comment (h : IsCounted done l) :
    IsCounted (done ++ [.comment]) l.countLine.countComment where
  lines := by simp [countLine, countComment, h.lines]
  comments := by simp [countLine, countComment, h.comments]
  total := by
    have := h.total
    simp [countLine, countComment]
    omega
  entries := h.entries
  decoded := h.decoded
  skipped := h.skipped

theorem duplicate (h : IsCounted done l) :
    IsCounted (done ++ [.entry suffix]) l.countLine.countDuplicate where
  lines := by simp [countLine, countDuplicate, h.lines]
  comments := by simp [countLine, countDuplicate, h.comments]
  total := by
    have := h.total
    simp [countLine, countDuplicate]
    omega
  entries := h.entries
  decoded := h.decoded
  skipped := h.skipped

theorem addLiteral (h : IsCounted done l) (hnew : suffix ∉ l.literal) :
    IsCounted (done ++ [.entry suffix]) (l.countLine.addLiteral suffix) where
  lines := by simp [countLine, SuffixList.addLiteral, h.lines]
  comments := by simp [countLine, SuffixList.addLiteral, h.comments]
  total := by
    have := h.total
    simp [countLine, SuffixList.addLiteral]
    omega
  entries := (congrArg (· + 1) h.entries).trans (SortedSet.size_insert hnew).symm
  decoded := h.decoded
  skipped := h.skipped

theorem addAnswer (h : IsCounted done l) (hnew : suffix ∉ l.decodedLabels.keys) (line : Nat)
    (answer : Except Rejection Text) : IsCounted done (l.addAnswer line suffix answer) := by
  cases answer with
  | ok form =>
    have hsize := SortedMap.size_insert (b := form) hnew
    exact ⟨h.lines, h.comments, h.total, h.entries, (congrArg (· + 1) h.decoded).trans hsize.symm,
      h.skipped⟩
  | error reason =>
    have hsize : (l.skipped ++ [(⟨line, suffix, reason⟩ : Skipped)]).length =
        l.skipped.length + 1 := List.length_append
    exact ⟨h.lines, h.comments, h.total, h.entries, h.decoded,
      (congrArg (· + 1) h.skipped).trans hsize.symm⟩

theorem add (decode : Decoder σ) (h : IsCounted done l) (hanswered : IsAnswered l) (line : Nat)
    (suffix : Text) (s : σ) :
    IsCounted (done ++ [.entry suffix]) (l.countLine.add decode line suffix s).1 := by
  rcases add_cases decode line suffix l.countLine s with
    ⟨-, hadd⟩ | ⟨hnew, -, hadd⟩ | ⟨hnew, -, hadd⟩
  · rw [hadd]
    exact h.duplicate
  · rw [hadd]
    exact (h.addLiteral hnew).addAnswer (hanswered.not_mem_keys hnew) line _
  · rw [hadd]
    exact h.addLiteral hnew

end IsCounted

/-! ## Lines of skipped entries -/

/-- The first of the entries with this text has this number. -/
def IsFirst (entries : List (Nat × Text)) (number : Nat) (s : Text) : Prop :=
  (number, s) ∈ entries ∧ ∀ n, (n, s) ∈ entries → number ≤ n

/-- What is skipped is skipped where it first occurs, and in the order of the lines. -/
structure IsFirstSkipped (done : List Line) (l : SuffixList) : Prop where
  read : ∀ s, .entry s ∈ done → s ∈ l.literal
  first : ∀ e ∈ l.skipped, IsFirst (Line.entriesFrom 1 done) e.line e.suffix
  ascending : (l.skipped.map Skipped.line).Pairwise (· < ·)

namespace IsFirstSkipped

theorem empty : IsFirstSkipped [] {} where
  read _ h := absurd h List.not_mem_nil
  first _ h := absurd h List.not_mem_nil
  ascending := .nil

/-- An entry stays the first of its kind when further lines are read. -/
theorem isFirst_append {number : Nat} {s : Text} (line : Line)
    (h : IsFirst (Line.entriesFrom 1 done) number s) :
    IsFirst (Line.entriesFrom 1 (done ++ [line])) number s := by
  rw [Line.entriesFrom_append]
  refine ⟨List.mem_append_left _ h.1, fun n hn => ?_⟩
  rcases List.mem_append.1 hn with hn | hn
  · exact h.2 n hn
  · -- The new line comes behind all those that were read.
    have hlt := Line.lt_of_mem_entriesFrom h.1
    have hge : 1 + done.length ≤ n := by
      cases line with
      | blank => cases hn
      | comment => cases hn
      | entry suffix =>
        simp only [Line.entriesFrom_entry, Line.entriesFrom_nil, List.mem_singleton,
          Prod.mk.injEq] at hn
        omega
    omega

theorem of_skipped {m : SuffixList} (h : IsFirstSkipped done l) (line : Line)
    (hread : ∀ s, .entry s ∈ done ++ [line] → s ∈ m.literal) (hskipped : m.skipped = l.skipped) :
    IsFirstSkipped (done ++ [line]) m where
  read := hread
  first e he := isFirst_append line (h.first e (hskipped ▸ he))
  ascending := hskipped ▸ h.ascending

theorem addAnswer_error (h : IsFirstSkipped done l) (hnew : suffix ∉ l.literal)
    (hread : ∀ s, .entry s ∈ done ++ [.entry suffix] → s ∈ (l.addLiteral suffix).literal)
    (reason : Rejection) :
    IsFirstSkipped (done ++ [.entry suffix])
      ((l.countLine.addLiteral suffix).addAnswer (done.length + 1) suffix (.error reason)) := by
  have hentries : Line.entriesFrom 1 (done ++ [.entry suffix]) =
      Line.entriesFrom 1 done ++ [(done.length + 1, suffix)] := by
    rw [Line.entriesFrom_append, Nat.add_comm 1]
    rfl
  constructor
  case read => exact hread
  case first =>
    intro e he
    rcases List.mem_append.1 he with he | he
    · exact isFirst_append _ (h.first e he)
    · obtain rfl := List.mem_singleton.1 he
      rw [IsFirst, hentries]
      refine ⟨by simp, fun n hn => ?_⟩
      rcases List.mem_append.1 hn with hn | hn
      · have hdone : .entry suffix ∈ done := Line.mem_iff_mem_entriesFrom.2 ⟨n, hn⟩
        exact absurd (h.read suffix hdone) hnew
      · simp only [List.mem_singleton, Prod.mk.injEq] at hn
        exact Nat.le_of_eq hn.1.symm
  case ascending =>
    have hlines : ((l.countLine.addLiteral suffix).addAnswer (done.length + 1) suffix
        (.error reason)).skipped.map Skipped.line =
          l.skipped.map Skipped.line ++ [done.length + 1] :=
      List.map_append
    rw [hlines, List.pairwise_append]
    refine ⟨h.ascending, by simp, fun n hn m hm => ?_⟩
    obtain ⟨e, he, rfl⟩ := List.mem_map.1 hn
    have hlt := Line.lt_of_mem_entriesFrom (h.first e he).1
    rw [List.mem_singleton.1 hm]
    omega

theorem add (decode : Decoder σ) (h : IsFirstSkipped done l) (suffix : Text) (s : σ) :
    IsFirstSkipped (done ++ [.entry suffix])
      (l.countLine.add decode (done.length + 1) suffix s).1 := by
  have hread : ∀ x, .entry x ∈ done ++ [.entry suffix] →
      x ∈ (l.countLine.add decode (done.length + 1) suffix s).1.literal := by
    intro x hx
    rw [mem_literal_add]
    simp only [List.mem_append, List.mem_singleton, Line.entry.injEq] at hx
    exact hx.symm.imp_right (h.read x)
  rcases add_cases decode (done.length + 1) suffix l.countLine s with
    ⟨-, hadd⟩ | ⟨hnew, -, hadd⟩ | ⟨-, -, hadd⟩
  · rw [hadd] at hread ⊢
    exact h.of_skipped _ hread rfl
  · rw [hadd] at hread ⊢
    rw [literal_addAnswer] at hread
    cases (decode s suffix).1 with
    | ok form => exact h.of_skipped _ hread rfl
    | error reason => exact h.addAnswer_error hnew hread reason
  · rw [hadd] at hread ⊢
    exact h.of_skipped _ hread rfl

end IsFirstSkipped

/-! ## Books -/

/-- The counters and the collections of a list that was read from a text. -/
structure Balance (text : Text) (l : SuffixList) : Prop where
  lines : l.stats.lines = text.lines.length
  comments : l.stats.comments = text.lines.countP (·.trimBlank.head? = some '#')
  total : l.stats.lines = text.lines.countP (·.trimBlank = []) + l.stats.comments +
    l.stats.entries + l.stats.duplicates
  entries : l.stats.entries = l.literal.size
  disjoint : ∀ s ∈ l.decodedLabels.keys, s ∉ l.skipped.map Skipped.suffix
  encoded : ∀ s, s ∈ l.decodedLabels.keys ∨ s ∈ l.skipped.map Skipped.suffix ↔
    s ∈ l.literal ∧ "xn--".toList <+: s
  decoded : l.stats.decoded = l.decodedLabels.size
  skipped : l.stats.skipped = l.skipped.length
  forms : ∀ form, form ∈ l.decoded ↔ form ∈ l.decodedLabels.values
  distinct : (l.skipped.map Skipped.suffix).Nodup
  ascending : (l.skipped.map Skipped.line).Pairwise (· < ·)
  first : ∀ e ∈ l.skipped, IsFirst (SuffixList.entries text) e.line e.suffix

theorem count_blank (text : Text) :
    (text.lines.map Line.ofText).count .blank = text.lines.countP (·.trimBlank = []) := by
  rw [List.count_eq_countP, List.countP_map]
  refine List.countP_congr fun raw _ => ?_
  simp [Line.ofText_eq_blank_iff]

theorem count_comment (text : Text) :
    (text.lines.map Line.ofText).count .comment =
      text.lines.countP (·.trimBlank.head? = some '#') := by
  rw [List.count_eq_countP, List.countP_map]
  refine List.countP_congr fun raw _ => ?_
  simp [Line.ofText_eq_comment_iff]

/-- **The books of a list are balanced.** -/
theorem balance_of_read (decode : Decoder σ) (memory : σ) (text : Text)
    (h : (readText decode memory text).result = .ok l) : Balance text l := by
  obtain ⟨hlabels, rfl⟩ := (result_eq_ok_iff decode memory text).1 h
  rw [← entriesFrom_ofText] at hlabels
  have hread := readFrom_induction decode
    (R := fun done l _ => IsAnswered l ∧ IsCounted done l ∧ IsFirstSkipped done l)
    (l := {}) (s := memory)
    (fun done l _ ⟨ha, hc, hf⟩ => ⟨ha.of_stats _, hc.blank,
      hf.of_skipped _ (fun s hs => hf.read s (by simpa using hs)) rfl⟩)
    (fun done l _ ⟨ha, hc, hf⟩ => ⟨ha.of_stats _, hc.comment,
      hf.of_skipped _ (fun s hs => hf.read s (by simpa using hs)) rfl⟩)
    (fun done l s suffix ⟨ha, hc, hf⟩ _ => by
      have hline : IsAnswered l.countLine := ha.of_stats _
      exact ⟨hline.add decode _ suffix s, hc.add decode ha _ suffix s, hf.add decode suffix s⟩)
    ⟨.empty, .empty, .empty⟩ hlabels
  obtain ⟨hanswered, hcounted, hfirst⟩ := hread
  constructor
  case lines => exact hcounted.lines.trans (List.length_map _)
  case comments => exact hcounted.comments.trans (count_comment text)
  case total => exact count_blank text ▸ hcounted.total
  case entries => exact hcounted.entries
  case disjoint => exact hanswered.disjoint
  case encoded =>
    exact fun s => (hanswered.encoded s).trans (and_congr_right fun _ => isEncoded_iff)
  case decoded => exact hcounted.decoded
  case skipped => exact hcounted.skipped
  case forms => exact hanswered.forms
  case distinct => exact hanswered.distinct
  case ascending => exact hfirst.ascending
  case first => exact entriesFrom_ofText text ▸ hfirst.first

/-- A decoder that answers only the first question. -/
def answerOnce : Decoder Nat := fun asked _ =>
  (if asked = 0 then .ok ['α'] else .error .notUnicode, asked + 1)

def repetitiveText : Text := "# labels\n\ncom\nxn--a\nXN--A\nxn--b\nxn--b".toList

theorem balance_of_read_repetitive :
    ∃ l, (readText answerOnce 0 repetitiveText).result = .ok l ∧ Balance repetitiveText l ∧
      l.stats = ⟨7, 1, 3, 2, 1, 1⟩ ∧ l.skipped = [⟨6, "xn--b".toList, .notUnicode⟩] := by
  have hresult : (readText answerOnce 0 repetitiveText).result =
      .ok (readText answerOnce 0 repetitiveText).list := by rfl
  exact ⟨_, hresult, balance_of_read answerOnce 0 repetitiveText hresult, by decide, by decide⟩

end SuffixList
end SuffixPattern
