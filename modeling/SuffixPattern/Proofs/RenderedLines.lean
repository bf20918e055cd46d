import SuffixPattern.Proofs.EntrySet
import SuffixPattern.Proofs.Members
import SuffixPattern.Proofs.SuffixLines

/-!
# SuffixPattern.Proofs.RenderedLines

The text of a list with the decoded forms behind it (`render_adds_forms`). Every form is a line of
its own, however the text before it ends: it comes behind a line feed, and no accepted form has a
character that would end a line or be trimmed.

* `Text.contents`: the lines of a text that are not blank, without the white space around them. A
  line feed separates them (`contents_append_feed`), also where it follows a carriage return.
* `Text.IsSolid`: a text without white space, which is a line as it stands (`lines_solid`).
-/

namespace SuffixPattern
namespace Text

/-! ## Contents -/

/-- The lines without the white space around them, blank ones left out. -/
def contents (t : Text) : List Text := (t.lines.map trimBlank).filter (· ≠ [])

variable {t : Text}

theorem lines_of_not_mem (h : '\n' ∉ t) (hne : t ≠ []) : lines t = [t] := by
  induction t with
  | nil => exact absurd rfl hne
  | cons c rest ih =>
    rw [List.mem_cons, not_or] at h
    cases rest with
    | nil =>
      rw [lines]
      · rfl
      · simp
      · exact fun heq => h.1 heq.symm
    | cons d rest =>
      refine lines_cons (Ne.symm h.1) (fun _ hhead => ?_) (ih h.2 (List.cons_ne_nil d rest))
      exact h.2 (List.mem_cons.2 (.inl (Option.some.inj hhead).symm))

theorem contents_of_not_mem (h : '\n' ∉ t) : contents t = [t.trimBlank].filter (· ≠ []) := by
  by_cases hne : t = []
  · rw [hne]
    rfl
  · rw [contents, lines_of_not_mem h hne]
    rfl

theorem contents_line (h : '\n' ∉ t) (rest : Text) :
    contents (t ++ '\n' :: rest) = contents t ++ contents rest := by
  obtain ⟨line, hlines, hline⟩ := lines_append_feed h rest
  have htrim : line.trimBlank = t.trimBlank := by
    rcases hline with rfl | rfl
    · rfl
    · exact (trimBlank_append_return line).symm
  rw [contents_of_not_mem h, contents, hlines, List.map_cons, htrim, ← List.singleton_append,
    List.filter_append]
  rfl

/-- What holds of a text without a line feed, and of a text with one more such line before it, holds
of every text. -/
theorem lines_induction {P : Text → Prop} (hlast : ∀ t, '\n' ∉ t → P t)
    (hline : ∀ t rest, '\n' ∉ t → P rest → P (t ++ '\n' :: rest)) (t : Text) : P t := by
  induction hlength : t.length using Nat.strongRecOn generalizing t with
  | ind n ih =>
    by_cases h : '\n' ∈ t
    · obtain ⟨before, rest, rfl, hbefore⟩ := List.eq_append_cons_of_mem h
      refine hline before rest hbefore (ih rest.length ?_ rest rfl)
      rw [← hlength, List.length_append, List.length_cons]
      omega
    · exact hlast t h

/-- **A line feed separates contents.** -/
theorem contents_append_feed (t rest : Text) :
    contents (t ++ '\n' :: rest) = contents t ++ contents rest := by
  induction t using lines_induction with
  | hlast t h => exact contents_line h rest
  | hline t more h ih =>
    rw [List.append_assoc, List.cons_append, contents_line h, ih, contents_line h,
      List.append_assoc]

/-- What stands behind a line feed has the same lines as by itself. -/
theorem exists_lines_append_feed (t rest : Text) :
    ∃ before, lines (t ++ '\n' :: rest) = before ++ lines rest := by
  induction t using lines_induction with
  | hlast t h =>
    obtain ⟨line, hlines, -⟩ := lines_append_feed h rest
    exact ⟨[line], hlines⟩
  | hline t more h ih =>
    obtain ⟨before, ih⟩ := ih
    obtain ⟨line, hlines, -⟩ := lines_append_feed h (more ++ '\n' :: rest)
    refine ⟨line :: before, ?_⟩
    rw [List.append_assoc, List.cons_append, hlines, ih]
    rfl

/-! ## Texts without white space -/

structure IsSolid (t : Text) : Prop where
  nonempty : t ≠ []
  unblank : ∀ c ∈ t, Unicode.isBlank c = false

theorem IsSolid.not_mem (h : IsSolid t) {c : Char} (hc : Unicode.isBlank c = true) : c ∉ t := by
  intro hmem
  rw [h.unblank c hmem] at hc
  cases hc

theorem IsSolid.trimBlank_eq (h : IsSolid t) : t.trimBlank = t := by
  have hdrop : ∀ u : Text, (∀ c ∈ u, c ∈ t) → u.dropWhile Unicode.isBlank = u := by
    intro u hu
    cases u with
    | nil => rfl
    | cons c u =>
      rw [List.dropWhile_cons_of_neg]
      rw [h.unblank c (hu c (.head _))]
      exact Bool.false_ne_true
  rw [trimBlank, trim, hdrop t fun _ hc => hc, trimEnd,
    hdrop t.reverse fun _ hc => List.mem_reverse.1 hc, List.reverse_reverse]

theorem IsSolid.contents_eq (h : IsSolid t) : contents t = [t] := by
  rw [contents_of_not_mem (h.not_mem (by decide)), h.trimBlank_eq]
  simp [h.nonempty]

variable {ts : List Text}

theorem contents_append_solid (h : ∀ u ∈ ts, IsSolid u) (t : Text) :
    contents (t ++ ts.flatMap ('\n' :: ·)) = contents t ++ ts := by
  induction ts generalizing t with
  | nil => simp
  | cons u ts ih =>
    obtain ⟨hu, hts⟩ := List.forall_mem_cons.1 h
    rw [List.flatMap_cons, ← List.append_assoc, ih hts, contents_append_feed, hu.contents_eq,
      List.append_assoc]
    rfl

theorem lines_solid (ht : IsSolid t) (h : ∀ u ∈ ts, IsSolid u) :
    lines (t ++ ts.flatMap ('\n' :: ·)) = t :: ts := by
  induction ts generalizing t with
  | nil =>
    rw [List.flatMap_nil, List.append_nil]
    exact lines_of_not_mem (ht.not_mem (by decide)) ht.nonempty
  | cons u ts ih =>
    obtain ⟨hu, hts⟩ := List.forall_mem_cons.1 h
    obtain ⟨line, hlines, hline⟩ := lines_append_feed (ht.not_mem (by decide))
      (u ++ ts.flatMap ('\n' :: ·))
    have hsame : t = line := hline.resolve_right fun heq =>
      ht.not_mem (c := '\r') (by decide) (heq ▸ List.mem_append_right _ (.head _))
    rw [List.flatMap_cons, List.cons_append, hlines, ← hsame, ih hu hts]

theorem exists_lines_append_solid (h : ∀ u ∈ ts, IsSolid u) (t : Text) :
    ∃ before, lines (t ++ ts.flatMap ('\n' :: ·)) = before ++ ts := by
  cases ts with
  | nil => exact ⟨lines t, by simp⟩
  | cons u ts =>
    obtain ⟨hu, hts⟩ := List.forall_mem_cons.1 h
    obtain ⟨before, hlines⟩ := exists_lines_append_feed t (u ++ ts.flatMap ('\n' :: ·))
    exact ⟨before, by rw [List.flatMap_cons, List.cons_append, hlines, lines_solid hu hts]⟩

end Text

theorem Decoding.IsForm.isSolid {form : Text} (h : IsForm form) : form.IsSolid :=
  ⟨h.ne_nil, fun c hc => (h.unsplit c hc).2.1⟩

namespace SuffixList

variable {toUnicode? : Text → Option Text} {text : Text} {l : SuffixList}

theorem isSolid_of_mem_values
    (h : (readText (.pure (Decoding.decodeWith toUnicode?)) () text).result = .ok l) :
    ∀ form ∈ l.decodedLabels.values, form.IsSolid := by
  obtain ⟨hlabels, rfl⟩ := (result_eq_ok_iff _ () text).1 h
  intro form hform
  obtain ⟨s, hs⟩ := SortedMap.mem_values.1 hform
  obtain ⟨-, -, hanswer⟩ := ((collected_readText _ hlabels).decodedLabels s form).1 hs
  exact (Decoding.isForm_of_decodeWith hanswer).isSolid

/-- **A rendered list is the text and a line for each decoded form.** Whatever is taken for the
Unicode form of a domain and however the text ends: the lines that are not blank are those of the
text and, as they stand, the forms of the decoded labels in the ascending order of the labels. -/
theorem render_adds_forms (toUnicode? : Text → Option Text)
    (h : (readText (.pure (Decoding.decodeWith toUnicode?)) () text).result = .ok l) :
    text <+: render text l ∧
    (render text l).contents = text.contents ++ l.decodedLabels.values ∧
    (∃ before, (render text l).lines = before ++ l.decodedLabels.values) ∧
    l.decodedLabels.keys.map l.decodedLabels.get? = l.decodedLabels.values.map some ∧
    l.decodedLabels.keys.Pairwise fun j k => Ranked.before j k = true := by
  have hsolid := isSolid_of_mem_values h
  exact ⟨List.prefix_append _ _, Text.contents_append_solid hsolid text,
    Text.exists_lines_append_solid hsolid text, l.decodedLabels.map_get?_keys,
    List.pairwise_map.2 l.decodedLabels.ascending⟩

/-- The Unicode forms of two labels. -/
def twoForms? (label : Text) : Option Text :=
  if label = "xn--a".toList then some ['α']
  else if label = "xn--b".toList then some ['β']
  else none

def unendedText : Text := "# labels\nXN--B\r\n\nxn--a\r".toList

/-- A carriage return at the end of the text becomes part of the line feed that is put behind it. -/
theorem render_adds_forms_unended :
    ∃ l, (readText (.pure (Decoding.decodeWith twoForms?)) () unendedText).result = .ok l ∧
      render unendedText l = "# labels\nXN--B\r\n\nxn--a\r\nα\nβ".toList ∧
      (render unendedText l).contents =
        ["# labels", "XN--B", "xn--a", "α", "β"].map String.toList := by
  have hresult : (readText (.pure (Decoding.decodeWith twoForms?)) () unendedText).result =
      .ok (readText (.pure (Decoding.decodeWith twoForms?)) () unendedText).list := by rfl
  have hsource : unendedText.contents ++
      (readText (.pure (Decoding.decodeWith twoForms?)) () unendedText).list.decodedLabels.values =
        ["# labels", "XN--B", "xn--a", "α", "β"].map String.toList := by decide
  obtain ⟨-, hcontents, -⟩ := render_adds_forms twoForms? hresult
  exact ⟨_, hresult, by decide, hcontents.trans hsource⟩

end SuffixList
end SuffixPattern
