import SuffixPattern.SuffixList

/-!
# SuffixPattern.Proofs.Entries

What a list is read as, told from the entries of the text (`read_iff_entries`). `entries` numbers
them by the lines on which they stand.

* `fault_readFrom`: the entry that ends a reading is the first invalid one. Neither the decoder nor
  what was read before has a part in it.
* `readFrom_induction`: what holds of the list at first and is kept by every line holds of the list
  at the end, if no entry is invalid.
-/

namespace SuffixPattern

/-! ## Labels -/

def IsLabelChar (c : Char) : Prop :=
  'a' ≤ c ∧ c ≤ 'z' ∨ '0' ≤ c ∧ c ≤ '9' ∨ c = '-'

def IsLabel (t : Text) : Prop := ∀ c ∈ t, IsLabelChar c

theorem isLiteralChar_iff {c : Char} : isLiteralChar c = true ↔ IsLabelChar c := by
  have hlower : c.isLower = true ↔ 'a' ≤ c ∧ c ≤ 'z' :=
    Bool.and_eq_true_iff.trans (and_congr decide_eq_true_iff decide_eq_true_iff)
  have hdigit : c.isDigit = true ↔ '0' ≤ c ∧ c ≤ '9' :=
    Bool.and_eq_true_iff.trans (and_congr decide_eq_true_iff decide_eq_true_iff)
  rw [isLiteralChar, IsLabelChar, Bool.or_eq_true, Bool.or_eq_true, hlower, hdigit,
    decide_eq_true_iff, or_assoc]

/-- The first character that keeps a text from being a label. -/
theorem find?_not_isLiteralChar_eq_some_iff {t : Text} {c : Char} :
    t.find? (fun c => !isLiteralChar c) = some c ↔
      ∃ before after, t = before ++ c :: after ∧ IsLabel before ∧ ¬ IsLabelChar c := by
  rw [List.find?_eq_some_iff_append]
  simp only [Bool.not_eq_true', Bool.not_not, Bool.eq_false_iff, Ne, isLiteralChar_iff]
  constructor
  · rintro ⟨hc, before, after, rfl, hbefore⟩
    exact ⟨before, after, rfl, hbefore, hc⟩
  · rintro ⟨before, after, rfl, hbefore, hc⟩
    exact ⟨hc, before, after, rfl, hbefore⟩

theorem find?_not_isLiteralChar_eq_none_iff {t : Text} :
    t.find? (fun c => !isLiteralChar c) = none ↔ IsLabel t := by
  simp only [List.find?_eq_none, Bool.not_eq_true', Bool.not_eq_false, isLiteralChar_iff, IsLabel]

/-! ## Lines -/

/-- What a line comes to: its text without the white space around it and in lower case. A line that
is blank or begins a comment comes to nothing. -/
def Text.content? (raw : Text) : Option Text :=
  if raw.trimBlank = [] ∨ raw.trimBlank.head? = some '#' then none
  else some (Unicode.lower raw.trimBlank)

namespace Line

def content? : Line → Option Text
  | .entry suffix => some suffix
  | _ => none

theorem content?_ofText (raw : Text) : (ofText raw).content? = raw.content? := by
  unfold ofText Text.content?
  split
  · rename_i h
    simp [h, content?]
  · rename_i h
    simp [h, content?]
  · rename_i hne hcomment
    have hhead : raw.trimBlank.head? ≠ some '#' := by
      intro h
      obtain ⟨rest, hrest⟩ := List.head?_eq_some_iff.1 h
      exact hcomment rest hrest
    have hnil : raw.trimBlank ≠ [] := hne
    simp [hnil, hhead, content?]

/-- The entries among lines of which the first has the given number. -/
def entriesFrom (number : Nat) (lines : List Line) : List (Nat × Text) :=
  (lines.zipIdx number).filterMap fun (line, number) => line.content?.map fun s => (number, s)

theorem entriesFrom_nil (number : Nat) : entriesFrom number [] = [] := rfl

theorem entriesFrom_blank (number : Nat) (rest : List Line) :
    entriesFrom number (.blank :: rest) = entriesFrom (number + 1) rest := rfl

theorem entriesFrom_comment (number : Nat) (rest : List Line) :
    entriesFrom number (.comment :: rest) = entriesFrom (number + 1) rest := rfl

theorem entriesFrom_entry (number : Nat) (suffix : Text) (rest : List Line) :
    entriesFrom number (.entry suffix :: rest) =
      (number, suffix) :: entriesFrom (number + 1) rest := rfl

theorem mem_iff_mem_entriesFrom {number : Nat} {lines : List Line} {s : Text} :
    .entry s ∈ lines ↔ ∃ n, (n, s) ∈ entriesFrom number lines := by
  induction lines generalizing number with
  | nil => simp [entriesFrom_nil]
  | cons line rest ih =>
    cases line with
    | blank => simpa [entriesFrom_blank] using ih
    | comment => simpa [entriesFrom_comment] using ih
    | entry suffix =>
      rw [entriesFrom_entry, List.mem_cons, @ih (number + 1)]
      simp only [List.mem_cons, Prod.mk.injEq, Line.entry.injEq, exists_or, exists_eq_left]

end Line

namespace SuffixList

/-- The entries of a text, each with the number of its line. -/
def entries (text : Text) : List (Nat × Text) :=
  (text.lines.zipIdx 1).filterMap fun (raw, number) => raw.content?.map fun s => (number, s)

theorem entriesFrom_ofText (text : Text) :
    Line.entriesFrom 1 (text.lines.map .ofText) = entries text := by
  rw [Line.entriesFrom, List.zipIdx_map, List.filterMap_map, entries]
  congr 1
  funext ⟨raw, number⟩
  exact congrArg (Option.map fun s => (number, s)) (Line.content?_ofText raw)

/-! ## The first invalid entry -/

/-- Where a reading would end if it came to this entry. -/
def fault? (e : Nat × Text) : Option InvalidEntry :=
  (e.2.find? fun c => !isLiteralChar c).map fun c => ⟨e.1, e.2, c⟩

/-- The first of the entries that is no label, and what keeps it from being one. -/
structure IsFirstInvalid (entries : List (Nat × Text)) (e : InvalidEntry) : Prop where
  entry : ∃ before after, entries = before ++ (e.line, e.suffix) :: after ∧
    ∀ p ∈ before, IsLabel p.2
  character : ∃ before after, e.suffix = before ++ e.character :: after ∧ IsLabel before ∧
    ¬ IsLabelChar e.character

theorem fault?_eq_none_iff {p : Nat × Text} : fault? p = none ↔ IsLabel p.2 := by
  rw [fault?, Option.map_eq_none_iff, find?_not_isLiteralChar_eq_none_iff]

theorem fault?_eq_some_iff {p : Nat × Text} {e : InvalidEntry} :
    fault? p = some e ↔ p = (e.line, e.suffix) ∧
      ∃ before after, e.suffix = before ++ e.character :: after ∧ IsLabel before ∧
        ¬ IsLabelChar e.character := by
  rw [← find?_not_isLiteralChar_eq_some_iff, fault?, Option.map_eq_some_iff]
  constructor
  · rintro ⟨c, hc, rfl⟩
    exact ⟨rfl, hc⟩
  · rintro ⟨rfl, hc⟩
    exact ⟨e.character, hc, rfl⟩

theorem findSome?_fault?_eq_none_iff {entries : List (Nat × Text)} :
    entries.findSome? fault? = none ↔ ∀ p ∈ entries, IsLabel p.2 := by
  simp only [List.findSome?_eq_none_iff, fault?_eq_none_iff]

theorem findSome?_fault?_eq_some_iff {entries : List (Nat × Text)} {e : InvalidEntry} :
    entries.findSome? fault? = some e ↔ IsFirstInvalid entries e := by
  rw [List.findSome?_eq_some_iff]
  simp only [fault?_eq_none_iff, fault?_eq_some_iff]
  constructor
  · rintro ⟨before, p, after, heq, ⟨rfl, hcharacter⟩, hbefore⟩
    exact ⟨⟨before, after, heq, hbefore⟩, hcharacter⟩
  · rintro ⟨⟨before, after, heq, hbefore⟩, hcharacter⟩
    exact ⟨before, _, after, heq, ⟨rfl, hcharacter⟩, hbefore⟩

/-! ## Readings -/

variable {σ : Type} (decode : Decoder σ)

/-- **The first invalid entry ends a reading.** -/
theorem fault_readFrom (number : Nat) (lines : List Line) (l : SuffixList) (s : σ) :
    (readFrom decode number lines l s).fault =
      (Line.entriesFrom number lines).findSome? fault? := by
  induction lines generalizing number l s with
  | nil => rfl
  | cons line rest ih =>
    cases line with
    | blank => rw [readFrom, ih, Line.entriesFrom_blank]
    | comment => rw [readFrom, ih, Line.entriesFrom_comment]
    | entry suffix =>
      rw [readFrom, Line.entriesFrom_entry, List.findSome?_cons, fault?]
      cases suffix.find? fun c => !isLiteralChar c with
      | some c => rfl
      | none => exact ih ..

/-- **What every line keeps, a reading keeps.** The invariant `R` relates the lines that were read
to the list and to the decoder's memory. -/
theorem readFrom_induction {R : List Line → SuffixList → σ → Prop}
    (hblank : ∀ done l s, R done l s → R (done ++ [.blank]) l.countLine s)
    (hcomment : ∀ done l s, R done l s → R (done ++ [.comment]) l.countLine.countComment s)
    (hentry : ∀ done l s suffix, R done l s → IsLabel suffix →
      R (done ++ [.entry suffix]) (l.countLine.add decode (done.length + 1) suffix s).1
        (l.countLine.add decode (done.length + 1) suffix s).2)
    {lines : List Line} {l : SuffixList} {s : σ} (h : R [] l s)
    (hlabels : ∀ p ∈ Line.entriesFrom 1 lines, IsLabel p.2) :
    R lines (readFrom decode 1 lines l s).list (readFrom decode 1 lines l s).memory := by
  -- The lines split into those that were read and those that are left.
  suffices hrun : ∀ left done l s, R done l s →
      (∀ p ∈ Line.entriesFrom (done.length + 1) left, IsLabel p.2) →
      R (done ++ left) (readFrom decode (done.length + 1) left l s).list
        (readFrom decode (done.length + 1) left l s).memory from hrun lines [] l s h hlabels
  intro left
  induction left with
  | nil =>
    intro done l s h _
    rw [List.append_nil]
    exact h
  | cons line rest ih =>
    intro done l s h hlabels
    have hnumber : (done ++ [line]).length + 1 = done.length + 1 + 1 := by
      rw [List.length_append, List.length_singleton]
    rw [List.append_cons]
    cases line with
    | blank =>
      rw [Line.entriesFrom_blank, ← hnumber] at hlabels
      rw [readFrom, ← hnumber]
      exact ih _ _ _ (hblank done l s h) hlabels
    | comment =>
      rw [Line.entriesFrom_comment, ← hnumber] at hlabels
      rw [readFrom, ← hnumber]
      exact ih _ _ _ (hcomment done l s h) hlabels
    | entry suffix =>
      rw [Line.entriesFrom_entry, List.forall_mem_cons, ← hnumber] at hlabels
      have hvalid := find?_not_isLiteralChar_eq_none_iff.2 hlabels.1
      rw [readFrom, hvalid, ← hnumber]
      exact ih _ _ _ (hentry done l s suffix h hlabels.1) hlabels.2

/-! ## Members -/

theorem mem_addLiteral {l : SuffixList} {suffix x : Text} :
    x ∈ (l.addLiteral suffix).literal ↔ x = suffix ∨ x ∈ l.literal :=
  SortedSet.mem_insert

theorem literal_addAnswer (line : Nat) (suffix : Text) (answer : Except Rejection Text)
    (l : SuffixList) : (l.addAnswer line suffix answer).literal = l.literal := by
  cases answer <;> rfl

/-- What becomes of an entry: it was there before, it is encoded and the decoder is asked, or it is
neither. -/
theorem add_cases (line : Nat) (suffix : Text) (l : SuffixList) (s : σ) :
    suffix ∈ l.literal ∧ l.add decode line suffix s = (l.countDuplicate, s) ∨
      suffix ∉ l.literal ∧ isEncoded suffix = true ∧
        l.add decode line suffix s =
          ((l.addLiteral suffix).addAnswer line suffix (decode s suffix).1, (decode s suffix).2) ∨
      suffix ∉ l.literal ∧ isEncoded suffix = false ∧
        l.add decode line suffix s = (l.addLiteral suffix, s) := by
  rw [add]
  by_cases hmem : suffix ∈ l.literal
  · rw [if_pos (SortedSet.contains_iff.2 hmem)]
    exact .inl ⟨hmem, rfl⟩
  · rw [if_neg (mt SortedSet.contains_iff.1 hmem)]
    cases hencoded : isEncoded suffix with
    | true => exact .inr (.inl ⟨hmem, rfl, rfl⟩)
    | false => exact .inr (.inr ⟨hmem, rfl, rfl⟩)

theorem mem_literal_add {line : Nat} {suffix x : Text} {l : SuffixList} {s : σ} :
    x ∈ (l.add decode line suffix s).1.literal ↔ x = suffix ∨ x ∈ l.literal := by
  rcases add_cases decode line suffix l s with ⟨hmem, h⟩ | ⟨-, -, h⟩ | ⟨-, -, h⟩
  · rw [h]
    exact (or_iff_right_of_imp fun heq => heq ▸ hmem).symm
  · rw [h, literal_addAnswer]
    exact mem_addLiteral
  · rw [h]
    exact mem_addLiteral

theorem mem_literal_readFrom {lines : List Line} {s : σ}
    (hlabels : ∀ p ∈ Line.entriesFrom 1 lines, IsLabel p.2) {x : Text} :
    x ∈ (readFrom decode 1 lines {} s).list.literal ↔ .entry x ∈ lines := by
  have hread := readFrom_induction decode
    (R := fun done l _ => ∀ x, x ∈ l.literal ↔ Line.entry x ∈ done)
    (l := {}) (s := s)
    (fun done l s h x => by simpa [countLine] using h x)
    (fun done l s h x => by simpa [countLine, countComment] using h x)
    (fun done l s suffix h _ x => by
      rw [mem_literal_add, List.mem_append, List.mem_singleton, Line.entry.injEq, ← h x, or_comm]
      rfl)
    (fun x => iff_of_false SortedSet.not_mem_empty List.not_mem_nil) hlabels
  exact hread x

/-! ## Results -/

variable (memory : σ) (text : Text)

theorem result_eq_error_iff {e : InvalidEntry} :
    (readText decode memory text).result = .error e ↔ IsFirstInvalid (entries text) e := by
  rw [← findSome?_fault?_eq_some_iff, ← entriesFrom_ofText, ← fault_readFrom decode 1 _ {} memory,
    readText, Reading.result]
  split
  · rename_i e' h
    rw [h, Except.error.injEq, Option.some.injEq]
  · rename_i h
    rw [h]
    exact iff_of_false nofun nofun

theorem result_readFrom_eq_ok_iff {lines : List Line} {l : SuffixList} :
    (readFrom decode 1 lines {} memory).result = .ok l ↔
      (∀ p ∈ Line.entriesFrom 1 lines, IsLabel p.2) ∧
        (readFrom decode 1 lines {} memory).list = l := by
  rw [← findSome?_fault?_eq_none_iff, ← fault_readFrom decode 1 _ {} memory, Reading.result]
  cases (readFrom decode 1 lines {} memory).fault with
  | none => simp
  | some e => simp

theorem result_eq_ok_iff {l : SuffixList} :
    (readText decode memory text).result = .ok l ↔
      (∀ p ∈ entries text, IsLabel p.2) ∧ (readText decode memory text).list = l := by
  rw [← entriesFrom_ofText]
  exact result_readFrom_eq_ok_iff decode memory

/-- **A list is read as its entries.** A text is read if and only if all of its entries are labels,
and these are then the members of the list. Otherwise the first entry that is no label is reported,
with the number of its line and the first character that no label has. -/
theorem read_iff_entries :
    ((∃ l, (readText decode memory text).result = .ok l) ↔ ∀ p ∈ entries text, IsLabel p.2) ∧
      (∀ l, (readText decode memory text).result = .ok l →
        ∀ s, s ∈ l.literal ↔ ∃ number, (number, s) ∈ entries text) ∧
      ∀ e, (readText decode memory text).result = .error e ↔ IsFirstInvalid (entries text) e := by
  refine ⟨?_, fun l h s => ?_, fun e => result_eq_error_iff decode memory text⟩
  · simp only [result_eq_ok_iff, exists_and_left, exists_eq', and_true]
  · obtain ⟨hlabels, rfl⟩ := (result_eq_ok_iff decode memory text).1 h
    rw [← entriesFrom_ofText] at hlabels ⊢
    rw [readText, mem_literal_readFrom decode hlabels, Line.mem_iff_mem_entriesFrom]

example : (readText (.pure .ok) () "com\n# second level\n\n Co uk".toList).fault =
    some ⟨4, "co uk".toList, ' '⟩ := by decide

end SuffixList
end SuffixPattern
