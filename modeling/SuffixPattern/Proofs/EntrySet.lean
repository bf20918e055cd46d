import SuffixPattern.Diagnostics
import SuffixPattern.Proofs.EntryText

/-!
# SuffixPattern.Proofs.EntrySet

Only the set of entries matters (`only_entries_matter`). A list is collected line by line, but with
a decoder that remembers nothing its three collections are determined by the set of entries
(`Collected`), whatever their order and however often they are repeated.

`Rearranged` lists the changes to the lines of a text that keep this set.
-/

namespace SuffixPattern
namespace SuffixList

/-! ## What is collected -/

variable {decode : Text → Except Rejection Text} {W : Text → Prop} {l m : SuffixList}

/-- The list has collected the entries of `W`: they are the literal members, and what is decoded are
the encoded ones among them to which the decoder has an answer. -/
structure Collected (decode : Text → Except Rejection Text) (W : Text → Prop) (l : SuffixList) :
    Prop where
  literal : ∀ s, s ∈ l.literal ↔ W s
  decodedLabels : ∀ s form,
    (s, form) ∈ l.decodedLabels.entries ↔ W s ∧ isEncoded s = true ∧ decode s = .ok form
  decoded : ∀ form, form ∈ l.decoded ↔ ∃ s, W s ∧ isEncoded s = true ∧ decode s = .ok form

namespace Collected

/-- There is at most one list of given entries, but for what is skipped and counted. -/
theorem unique (hl : Collected decode W l) (hm : Collected decode W m) :
    l.literal = m.literal ∧ l.decoded = m.decoded ∧ l.decodedLabels = m.decodedLabels := by
  refine ⟨SortedSet.ext fun s => ?_, SortedSet.ext fun form => ?_, SortedMap.ext fun e => ?_⟩
  · rw [hl.literal, hm.literal]
  · rw [hl.decoded, hm.decoded]
  · rw [hl.decodedLabels, hm.decodedLabels]

theorem empty : Collected decode (fun _ => False) {} where
  literal _ := iff_of_false SortedSet.not_mem_empty id
  decodedLabels _ _ := iff_of_false List.not_mem_nil fun h => h.1
  decoded _ := iff_of_false SortedSet.not_mem_empty fun ⟨_, h, _⟩ => h

theorem of_iff {W' : Text → Prop} (h : Collected decode W l) (hW : ∀ s, W' s ↔ W s) :
    Collected decode W' l := by
  obtain rfl : W' = W := funext fun s => propext (hW s)
  exact h

/-- What is skipped and what is counted do not matter. -/
theorem of_eq (h : Collected decode W l) (hliteral : m.literal = l.literal)
    (hdecoded : m.decoded = l.decoded) (hlabels : m.decodedLabels = l.decodedLabels) :
    Collected decode W m where
  literal := hliteral ▸ h.literal
  decodedLabels := hlabels ▸ h.decodedLabels
  decoded := hdecoded ▸ h.decoded

/-- A new entry that has a decoded form. -/
theorem addLiteral_addAnswer_ok {suffix form : Text} (line : Nat) (h : Collected decode W l)
    (hmem : suffix ∉ l.literal) (hencoded : isEncoded suffix = true)
    (hanswer : decode suffix = .ok form) :
    Collected decode (fun s => W s ∨ s = suffix)
      ((l.addLiteral suffix).addAnswer line suffix (.ok form)) where
  literal s := by
    rw [literal_addAnswer, mem_addLiteral, h.literal, or_comm]
  decodedLabels s form' := by
    have hnew : W s → s ≠ suffix := by
      rintro hs rfl
      exact hmem ((h.literal s).2 hs)
    have hinsert : (s, form') ∈ (l.decodedLabels.insert suffix form).entries ↔ _ :=
      SortedMap.mem_insert
    refine hinsert.trans ?_
    rw [h.decodedLabels, Prod.mk.injEq]
    constructor
    · rintro (⟨rfl, rfl⟩ | ⟨-, hs, hrest⟩)
      · exact ⟨.inr rfl, hencoded, hanswer⟩
      · exact ⟨.inl hs, hrest⟩
    · rintro ⟨hs | rfl, hrest⟩
      · exact .inr ⟨hnew hs, hs, hrest⟩
      · rw [hanswer, Except.ok.injEq] at hrest
        exact .inl ⟨rfl, hrest.2.symm⟩
  decoded form' := by
    refine SortedSet.mem_insert.trans ?_
    have hold : form' ∈ (l.addLiteral suffix).decoded ↔ _ := h.decoded form'
    rw [hold]
    constructor
    · rintro (rfl | ⟨s, hs, hrest⟩)
      · exact ⟨suffix, .inr rfl, hencoded, hanswer⟩
      · exact ⟨s, .inl hs, hrest⟩
    · rintro ⟨s, hs | rfl, hrest⟩
      · exact .inr ⟨s, hs, hrest⟩
      · rw [hanswer, Except.ok.injEq] at hrest
        exact .inl hrest.2.symm

/-- A new entry that has no decoded form. -/
theorem addLiteral {suffix : Text} (h : Collected decode W l)
    (hnone : isEncoded suffix = true → ∀ form, decode suffix ≠ .ok form) :
    Collected decode (fun s => W s ∨ s = suffix) (l.addLiteral suffix) where
  literal s := by
    rw [mem_addLiteral, h.literal, or_comm]
  decodedLabels s form := by
    refine (h.decodedLabels s form).trans ⟨fun hs => ⟨.inl hs.1, hs.2⟩, ?_⟩
    rintro ⟨hs | rfl, hencoded, hanswer⟩
    · exact ⟨hs, hencoded, hanswer⟩
    · exact absurd hanswer (hnone hencoded form)
  decoded form := by
    refine (h.decoded form).trans ⟨fun ⟨s, hs⟩ => ⟨s, .inl hs.1, hs.2⟩, ?_⟩
    rintro ⟨s, hs | rfl, hencoded, hanswer⟩
    · exact ⟨s, hs, hencoded, hanswer⟩
    · exact absurd hanswer (hnone hencoded form)

/-- **One entry more.** -/
theorem add (line : Nat) (suffix : Text) (h : Collected decode W l) :
    Collected decode (fun s => W s ∨ s = suffix) (l.add (.pure decode) line suffix ()).1 := by
  rcases add_cases (.pure decode) line suffix l () with
    ⟨hmem, hadd⟩ | ⟨hmem, hencoded, hadd⟩ | ⟨-, hencoded, hadd⟩
  · rw [hadd]
    have hsame : Collected decode W l.countDuplicate := h.of_eq rfl rfl rfl
    refine hsame.of_iff fun s => or_iff_left_of_imp ?_
    rintro rfl
    exact (h.literal s).1 hmem
  · rw [hadd, Decoder.pure]
    cases hanswer : decode suffix with
    | ok form => exact h.addLiteral_addAnswer_ok line hmem hencoded hanswer
    | error reason =>
      have hnone : ∀ form, decode suffix ≠ .ok form := by
        rw [hanswer]
        exact fun _ => nofun
      exact (h.addLiteral fun _ => hnone).of_eq rfl rfl rfl
  · rw [hadd]
    exact h.addLiteral fun htrue => absurd htrue (Bool.eq_false_iff.1 hencoded)

end Collected

/-! ## The set of entries -/

/-- The text has this entry on some line. -/
def IsEntry (text s : Text) : Prop := ∃ number, (number, s) ∈ entries text

theorem isEntry_iff {text s : Text} : IsEntry text s ↔ .entry s ∈ text.lines.map Line.ofText := by
  rw [IsEntry, ← entriesFrom_ofText, Line.mem_iff_mem_entriesFrom]

theorem forall_mem_entries_iff {text : Text} {P : Text → Prop} :
    (∀ p ∈ entries text, P p.2) ↔ ∀ s, IsEntry text s → P s :=
  ⟨fun h _ ⟨_, hs⟩ => h _ hs, fun h p hp => h p.2 ⟨p.1, hp⟩⟩

/-- **A reading collects the set of entries.** -/
theorem collected_readText (decode : Text → Except Rejection Text) {text : Text}
    (hlabels : ∀ p ∈ entries text, IsLabel p.2) :
    Collected decode (IsEntry text) (readText (.pure decode) () text).list := by
  rw [← entriesFrom_ofText] at hlabels
  have hread := readFrom_induction (.pure decode)
    (R := fun done l _ => Collected decode (fun s => .entry s ∈ done) l)
    (l := {}) (s := ())
    (fun done l _ h => .of_iff (h.of_eq rfl rfl rfl) fun s => by simp)
    (fun done l _ h => .of_iff (h.of_eq rfl rfl rfl) fun s => by simp)
    (fun done l _ suffix h _ => by
      have hnext : Collected decode (fun s => .entry s ∈ done) l.countLine := h.of_eq rfl rfl rfl
      exact (hnext.add (done.length + 1) suffix).of_iff fun s => by simp)
    (Collected.empty.of_iff fun s => by simp) hlabels
  exact hread.of_iff fun s => isEntry_iff

/-! ## Changes that keep the entries -/

/-- What may be done to the lines of a text: they change places, are repeated, are written with
other cases of their ASCII letters or with other white space around them, and blank lines and
comments come in. -/
inductive Rearranged : List Text → List Text → Prop
  | perm {lines lines' : List Text} : lines.Perm lines' → Rearranged lines lines'
  | repeated {raw : Text} {rest : List Text} : raw ∈ rest → Rearranged rest (raw :: rest)
  | recased {raw raw' : Text} {rest : List Text} :
    raw.lowerAscii = raw'.lowerAscii → Rearranged (raw :: rest) (raw' :: rest)
  | padded {before raw after : Text} {rest : List Text} :
    (∀ c ∈ before, Unicode.isBlank c = true) → (∀ c ∈ after, Unicode.isBlank c = true) →
      Rearranged (raw :: rest) ((before ++ raw ++ after) :: rest)
  | blank {raw : Text} {rest : List Text} :
    (∀ c ∈ raw, Unicode.isBlank c = true) → Rearranged rest (raw :: rest)
  | comment {before comment : Text} {rest : List Text} :
    (∀ c ∈ before, Unicode.isBlank c = true) → Rearranged rest ((before ++ '#' :: comment) :: rest)
  | symm {lines lines' : List Text} : Rearranged lines lines' → Rearranged lines' lines
  | trans {lines lines' lines'' : List Text} :
    Rearranged lines lines' → Rearranged lines' lines'' → Rearranged lines lines''

/-- One of the lines comes to this entry. -/
def HasEntry (lines : List Text) (s : Text) : Prop := ∃ raw ∈ lines, raw.content? = some s

theorem hasEntry_cons {raw : Text} {rest : List Text} {s : Text} :
    HasEntry (raw :: rest) s ↔ raw.content? = some s ∨ HasEntry rest s := by
  simp only [HasEntry, List.mem_cons, exists_eq_or_imp]

theorem hasEntry_lines_iff {text s : Text} : HasEntry text.lines s ↔ IsEntry text s := by
  rw [isEntry_iff, List.mem_map]
  refine exists_congr fun raw => and_congr_right fun _ => ?_
  rw [← Line.content?_ofText]
  cases Line.ofText raw <;> simp [Line.content?]

/-- **No change to the lines changes the set of entries.** -/
theorem Rearranged.hasEntry_iff {lines lines' : List Text} (h : Rearranged lines lines')
    (s : Text) : HasEntry lines s ↔ HasEntry lines' s := by
  induction h with
  | perm h => exact exists_congr fun raw => and_congr_left fun _ => h.mem_iff
  | repeated h =>
    rw [hasEntry_cons]
    exact (or_iff_right_of_imp fun hs => ⟨_, h, hs⟩).symm
  | recased h =>
    rw [hasEntry_cons, hasEntry_cons, ← Text.content?_lowerAscii, h,
      Text.content?_lowerAscii]
  | padded hbefore hafter =>
    rw [hasEntry_cons, hasEntry_cons, Text.content?_pad hbefore hafter]
  | blank h =>
    rw [hasEntry_cons, Text.content?_of_blank h]
    exact (or_iff_right nofun).symm
  | comment h =>
    rw [hasEntry_cons, Text.content?_of_comment h]
    exact (or_iff_right nofun).symm
  | symm _ ih => exact ih.symm
  | trans _ _ ih ih' => exact ih.trans ih'

/-! ## Outcomes -/

/-- Both readings fail, or both give lists with the same members. The second case names what is made
of such lists: the pattern and the diagnostics, in both ways of writing them. -/
inductive SameOutcome : Except InvalidEntry SuffixList → Except InvalidEntry SuffixList → Prop
  | error (e e' : InvalidEntry) : SameOutcome (.error e) (.error e')
  | ok {l m : SuffixList} (literal : l.literal = m.literal) (decoded : l.decoded = m.decoded)
    (decodedLabels : l.decodedLabels = m.decodedLabels)
    (pattern : ∀ o, (Compilation.ofList l o).pattern = (Compilation.ofList m o).pattern)
    (compact : ∀ o, (Diagnostics.ofCompilation (.ofList l o)).compact =
      (Diagnostics.ofCompilation (.ofList m o)).compact)
    (pretty : ∀ o, (Diagnostics.ofCompilation (.ofList l o)).pretty =
      (Diagnostics.ofCompilation (.ofList m o)).pretty) : SameOutcome (.ok l) (.ok m)

theorem ofList_eq_of_same_members (hliteral : l.literal = m.literal)
    (hdecoded : l.decoded = m.decoded) (hlabels : l.decodedLabels = m.decodedLabels) (o : Options) :
    Compilation.ofList l o = Compilation.ofList m o := by
  rw [Compilation.ofList, Compilation.ofList, hliteral, hdecoded, hlabels]

theorem exists_error (decode : Text → Except Rejection Text) {text : Text}
    (h : ¬ ∀ p ∈ entries text, IsLabel p.2) :
    ∃ e, (readText (.pure decode) () text).result = .error e := by
  cases hresult : (readText (.pure decode) () text).result with
  | error e => exact ⟨e, rfl⟩
  | ok l => exact absurd ((result_eq_ok_iff (.pure decode) () text).1 hresult).1 h

theorem SameOutcome.of_same_entries {text text' : Text}
    (h : ∀ s, IsEntry text s ↔ IsEntry text' s) :
    SameOutcome (readText (.pure decode) () text).result
      (readText (.pure decode) () text').result := by
  have hsame : (∀ p ∈ entries text, IsLabel p.2) ↔ ∀ p ∈ entries text', IsLabel p.2 := by
    simp only [forall_mem_entries_iff, h]
  by_cases hlabels : ∀ p ∈ entries text, IsLabel p.2
  · have hlabels' := hsame.1 hlabels
    have hcollected := collected_readText decode hlabels
    have hcollected' := (collected_readText decode hlabels').of_iff h
    obtain ⟨hliteral, hdecoded, hdecodedLabels⟩ := hcollected.unique hcollected'
    have hcompiled := ofList_eq_of_same_members hliteral hdecoded hdecodedLabels
    rw [(result_eq_ok_iff (.pure decode) () text).2 ⟨hlabels, rfl⟩,
      (result_eq_ok_iff (.pure decode) () text').2 ⟨hlabels', rfl⟩]
    refine .ok hliteral hdecoded hdecodedLabels (fun o => ?_) (fun o => ?_) fun o => ?_
    · rw [hcompiled]
    · rw [hcompiled]
    · rw [hcompiled]
  · obtain ⟨e, he⟩ := exists_error decode hlabels
    obtain ⟨e', he'⟩ := exists_error decode (mt hsame.2 hlabels)
    rw [he, he']
    exact .error e e'

/-- **Only the entries matter.** Texts with the same set of entries are both read or both not, and
are read as lists with the same members, the same pattern and the same diagnostics. The set stays
the same whenever lines are rearranged. -/
theorem only_entries_matter (decode : Text → Except Rejection Text) (text text' : Text) :
    ((∀ s, IsEntry text s ↔ IsEntry text' s) →
      SameOutcome (readText (.pure decode) () text).result
        (readText (.pure decode) () text').result) ∧
      (Rearranged text.lines text'.lines → ∀ s, IsEntry text s ↔ IsEntry text' s) := by
  refine ⟨SameOutcome.of_same_entries, fun h s => ?_⟩
  rw [← hasEntry_lines_iff, ← hasEntry_lines_iff]
  exact h.hasEntry_iff s

def tidyText : Text := "com\nxn--a\n".toList

/-- The entries of `tidyText` in another order, with everything between them that does not count. -/
def shuffledText : Text := "# as below\n\nCom\ncom\n XN--A".toList

theorem only_entries_matter_shuffled :
    Rearranged (Text.lines tidyText) (Text.lines shuffledText) ∧
      SameOutcome (readText (.pure fun _ => .ok ['α']) () tidyText).result
        (readText (.pure fun _ => .ok ['α']) () shuffledText).result ∧
      (readText (.pure fun _ => .ok ['α']) () tidyText).fault = none := by
  have hencoded : Rearranged ["com".toList, "xn--a".toList] ["com".toList, " XN--A".toList] :=
    (Rearranged.perm (.swap ..)).trans <|
      (Rearranged.recased (by decide)).trans <|
        (@Rearranged.padded [' '] "XN--A".toList [] _ (List.forall_mem_singleton.2 (by decide))
          (List.forall_mem_nil _)).trans <|
          .perm (.swap ..)
  have hplain : Rearranged ["com".toList, " XN--A".toList]
      ["Com".toList, "com".toList, " XN--A".toList] :=
    (Rearranged.repeated (.head _)).trans (.recased (by decide))
  have h : Rearranged (Text.lines tidyText) (Text.lines shuffledText) :=
    hencoded.trans <| hplain.trans <| (@Rearranged.blank [] _ (List.forall_mem_nil _)).trans <|
      @Rearranged.comment [] _ _ (List.forall_mem_nil _)
  have hboth := only_entries_matter (fun _ => .ok ['α']) tidyText shuffledText
  exact ⟨h, hboth.1 (hboth.2 h), by decide⟩

end SuffixList
end SuffixPattern
