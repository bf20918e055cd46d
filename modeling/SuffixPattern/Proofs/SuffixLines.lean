import SuffixPattern.Proofs.EntryText

/-!
# SuffixPattern.Proofs.SuffixLines

Suffixes that are given one by one are read as the lines of a text (`ofSuffixes_eq_lines`), as long
as none of them looks like a comment. There the two ways of reading part: what is a comment in a
text is an invalid suffix by itself.
-/

namespace SuffixPattern

namespace Text

/-- The text that has the given lines, each ended by a line feed. -/
def ofLines (lines : List Text) : Text := lines.flatMap (· ++ ['\n'])

theorem lines_cons {c : Char} {rest line : Text} {more : List Text} (hfeed : c ≠ '\n')
    (hreturn : c = '\r' → rest.head? ≠ some '\n') (h : lines rest = line :: more) :
    lines (c :: rest) = (c :: line) :: more := by
  rw [lines.eq_def]
  split
  · rename_i heq
    cases heq
  · rename_i heq
    obtain ⟨rfl, rfl⟩ := List.cons.inj heq
    exact absurd rfl (hreturn rfl)
  · rename_i heq
    exact absurd (List.cons.inj heq).1 hfeed
  · rename_i heq
    obtain ⟨rfl, rfl⟩ := List.cons.inj heq
    rw [h]

/-- A line goes as far as the text if nothing ends it. -/
theorem exists_lines_cons {c : Char} (hfeed : c ≠ '\n') (hreturn : c ≠ '\r') (rest : Text) :
    ∃ line more, lines (c :: rest) = (c :: line) :: more := by
  cases h : lines rest with
  | nil =>
    refine ⟨[], [], ?_⟩
    rw [lines, h]
    · simp [hreturn]
    · simp [hfeed]
  | cons line more => exact ⟨line, more, lines_cons hfeed (fun h => absurd h hreturn) h⟩

/-- A line is what stands before a line feed, but for a carriage return at its end. -/
theorem lines_append_feed {t : Text} (h : '\n' ∉ t) (rest : Text) :
    ∃ line, lines (t ++ '\n' :: rest) = line :: lines rest ∧ (t = line ∨ t = line ++ ['\r']) := by
  induction t with
  | nil => exact ⟨[], rfl, .inl rfl⟩
  | cons c t ih =>
    rw [List.mem_cons, not_or] at h
    obtain ⟨line, hlines, hline⟩ := ih h.2
    by_cases hreturn : c = '\r' ∧ t = []
    · obtain ⟨rfl, rfl⟩ := hreturn
      exact ⟨[], rfl, .inr rfl⟩
    · refine ⟨c :: line, lines_cons (Ne.symm h.1) ?_ hlines, ?_⟩
      · rintro rfl
        cases t with
        | nil => exact absurd ⟨rfl, rfl⟩ hreturn
        | cons d t =>
          intro hhead
          exact h.2 (List.mem_cons.2 (.inl (Option.some.inj hhead).symm))
      · rcases hline with rfl | rfl
        · exact .inl rfl
        · exact .inr rfl

theorem trimBlank_append_return (t : Text) : (t ++ ['\r']).trimBlank = t.trimBlank :=
  @trim_pad Unicode.isBlank [] ['\r'] (List.forall_mem_nil _)
    (List.forall_mem_singleton.2 (by decide)) t

/-- The lines come back from their text, as far as white space around them does not count. -/
theorem map_lines_ofLines {β : Type} {f : Text → β}
    (hf : ∀ t t' : Text, t.trimBlank = t'.trimBlank → f t = f t') {ts : List Text}
    (h : ∀ t ∈ ts, '\n' ∉ t) : (lines (ofLines ts)).map f = ts.map f := by
  induction ts with
  | nil => rfl
  | cons t ts ih =>
    rw [List.forall_mem_cons] at h
    have htext : ofLines (t :: ts) = t ++ '\n' :: ofLines ts := by
      simp [ofLines]
    obtain ⟨line, hlines, hline⟩ := lines_append_feed h.1 (ofLines ts)
    have htrim : line.trimBlank = t.trimBlank := by
      rcases hline with rfl | rfl
      · rfl
      · exact (trimBlank_append_return line).symm
    rw [htext, hlines, List.map_cons, List.map_cons, ih h.2, hf line t htrim]

end Text

namespace Line

theorem ofText_eq_of_trimBlank_eq {raw raw' : Text} (h : raw.trimBlank = raw'.trimBlank) :
    ofText raw = ofText raw' := by
  rw [ofText, ofText, h]

theorem ofSuffix_eq_ofText {raw : Text} (h : raw.trimBlank.head? ≠ some '#') :
    ofSuffix raw = ofText raw := by
  unfold ofSuffix ofText
  split
  · rename_i hnil
    rw [hnil]
  · rename_i hnil
    split
    · rename_i hnil'
      exact absurd hnil' hnil
    · rename_i rest hcomment
      rw [hcomment] at h
      exact absurd rfl h
    · rfl

/-- What looks like a comment is an entry that is no label. -/
theorem ofSuffix_of_comment {raw : Text} (h : raw.trimBlank.head? = some '#') :
    ∃ s, ofSuffix raw = .entry s ∧ ¬ IsLabel s := by
  obtain ⟨rest, hrest⟩ := List.head?_eq_some_iff.1 h
  refine ⟨'#' :: Unicode.lowerAfter ['#'] rest, ?_, ?_⟩
  · rw [ofSuffix, hrest]
    rfl
  · intro hlabel
    have hsign : IsLabelChar '#' := hlabel '#' (.head _)
    exact absurd hsign (by unfold IsLabelChar; decide)

end Line

namespace SuffixList

variable {σ : Type} (decode : Decoder σ) (memory : σ) {suffixes : List Text}

/-- Every decoder takes part in both ways of reading alike. -/
theorem readSuffixes_eq_readText (hfeed : ∀ s ∈ suffixes, '\n' ∉ s)
    (hplain : ∀ s ∈ suffixes, s.trimBlank.head? ≠ some '#') :
    readSuffixes decode memory suffixes = readText decode memory (Text.ofLines suffixes) := by
  have hlines : suffixes.map Line.ofSuffix =
      (Text.lines (Text.ofLines suffixes)).map Line.ofText :=
    calc suffixes.map Line.ofSuffix
      _ = suffixes.map Line.ofText :=
        List.map_congr_left fun s hs => Line.ofSuffix_eq_ofText (hplain s hs)
      _ = (Text.lines (Text.ofLines suffixes)).map Line.ofText :=
        (Text.map_lines_ofLines (fun _ _ => Line.ofText_eq_of_trimBlank_eq) hfeed).symm
  rw [readSuffixes, readText, hlines]

/-- A reading ends at an invalid entry, or before it. -/
theorem exists_fault_le {number i : Nat} {lines : List Line} {suffix : Text} (l : SuffixList)
    (s : σ) (hline : lines[i]? = some (.entry suffix)) (hinvalid : ¬ IsLabel suffix) :
    ∃ e, (readFrom decode number lines l s).fault = some e ∧ e.line ≤ number + i := by
  induction lines generalizing number i l s with
  | nil => cases hline
  | cons line rest ih =>
    cases i with
    | zero =>
      obtain rfl : line = .entry suffix := Option.some.inj hline
      rw [readFrom]
      cases hfind : suffix.find? fun c => !isLiteralChar c with
      | none => exact absurd (find?_not_isLiteralChar_eq_none_iff.1 hfind) hinvalid
      | some c => exact ⟨_, rfl, Nat.le_refl number⟩
    | succ i =>
      have hnumber : number + (i + 1) = number + 1 + i := by omega
      rw [hnumber]
      have hrest : rest[i]? = some (.entry suffix) := hline
      cases line with
      | blank => exact ih _ _ hrest
      | comment => exact ih _ _ hrest
      | entry other =>
        rw [readFrom]
        cases other.find? fun c => !isLiteralChar c with
        | none => exact ih _ _ hrest
        | some c => exact ⟨_, rfl, by simp only; omega⟩

/-- **Suffixes that are given one by one are read as lines.** If none of them begins with a number
sign, the list or the error is that of the text with a line for each of them. If one does, there is
an error, at this suffix or before it. -/
theorem ofSuffixes_eq_lines (hfeed : ∀ s ∈ suffixes, '\n' ∉ s) :
    ((∀ s ∈ suffixes, s.trimBlank.head? ≠ some '#') →
      ofSuffixes suffixes = parse (Text.ofLines suffixes)) ∧
    ∀ i s, suffixes[i]? = some s → s.trimBlank.head? = some '#' →
      ∃ e, ofSuffixes suffixes = .error e ∧ e.line ≤ i + 1 := by
  constructor
  · intro hplain
    rw [ofSuffixes, parse, readSuffixes_eq_readText _ _ hfeed hplain]
  · intro i s hs hcomment
    obtain ⟨suffix, hsuffix, hinvalid⟩ := Line.ofSuffix_of_comment hcomment
    have hline : (suffixes.map Line.ofSuffix)[i]? = some (.entry suffix) := by
      rw [List.getElem?_map, hs, Option.map_some, hsuffix]
    obtain ⟨e, hfault, hle⟩ : ∃ e, (readFrom (.pure Decoding.decode) 1
        (suffixes.map Line.ofSuffix) {} ()).fault = some e ∧ e.line ≤ 1 + i :=
      exists_fault_le _ _ _ hline hinvalid
    refine ⟨e, ?_, by omega⟩
    rw [ofSuffixes, readSuffixes, Reading.result, hfault]

/-- A blank suffix and a carriage return are read alike in both ways; a number sign is not. -/
theorem ofSuffixes_eq_lines_mixed :
    ofSuffixes ["Com".toList, " ".toList, "net\r".toList, "com".toList] =
        parse "Com\n \nnet\r\ncom\n".toList ∧
      (∃ l, ofSuffixes ["Com".toList, " ".toList, "net\r".toList, "com".toList] = .ok l) ∧
      ∃ e, ofSuffixes ["com".toList, " # net".toList] = .error e ∧ e.line ≤ 2 := by
  have hlines := @ofSuffixes_eq_lines
    ["Com".toList, " ".toList, "net\r".toList, "com".toList] (by decide)
  have hcomment := @ofSuffixes_eq_lines ["com".toList, " # net".toList] (by decide)
  exact ⟨hlines.1 (by decide), ⟨_, rfl⟩, hcomment.2 1 " # net".toList rfl (by decide)⟩

end SuffixList
end SuffixPattern
