import Mathlib.Data.List.Induction
import Mathlib.Data.List.TakeWhile
import SuffixPattern.Proofs.Accounting

/-!
# SuffixPattern.Proofs.Questions

What a decoder is asked while a list is read, and what its answers do (`asked_once_in_order`). It is
asked for the encoded entries before the first invalid one, for each where it stands first. This
holds of every decoder, whatever it remembers, as the questions do not depend on the answers.

* `questions_concat`: what one more entry adds to the questions.
* `IsAsked`: the invariant of the lines. The decoder remembers what it was asked for, and the list
  keeps what it answered.
* `recorded`: a decoder that writes down its questions, by which they become visible.
-/

namespace SuffixPattern

/-! ## Decoders -/

/-- A question to a decoder about the entry on a line, and the answer. -/
structure Call where
  line : Nat
  label : Text
  answer : Except Rejection Text

/-- What is skipped because of the answer. -/
def Call.skipped? (c : Call) : Option Skipped :=
  match c.answer with
  | .ok _ => none
  | .error reason => some ⟨c.line, c.label, reason⟩

namespace Decoder

variable {σ : Type}

/-- The calls by which a decoder is asked for one entry after the other. -/
def calls (decode : Decoder σ) : σ → List (Nat × Text) → List Call
  | _, [] => []
  | s, (line, label) :: rest =>
    ⟨line, label, (decode s label).1⟩ :: decode.calls (decode s label).2 rest

/-- What a decoder remembers when it was asked for the entries. -/
def memoryAfter (decode : Decoder σ) (s : σ) (entries : List (Nat × Text)) : σ :=
  entries.foldl (fun s e => (decode s e.2).2) s

/-- The decoder with a record of what it was asked and what it answered. -/
def recorded (decode : Decoder σ) : Decoder (σ × List (Text × Except Rejection Text)) :=
  fun (s, record) label =>
    ((decode s label).1, (decode s label).2, record ++ [(label, (decode s label).1)])

variable (decode : Decoder σ) (s : σ)

theorem calls_concat (entries : List (Nat × Text)) (line : Nat) (label : Text) :
    decode.calls s (entries ++ [(line, label)]) =
      decode.calls s entries ++
        [⟨line, label, (decode (decode.memoryAfter s entries) label).1⟩] := by
  induction entries generalizing s with
  | nil => rfl
  | cons e rest ih => exact congrArg (_ :: ·) (ih _)

theorem memoryAfter_concat (entries : List (Nat × Text)) (line : Nat) (label : Text) :
    decode.memoryAfter s (entries ++ [(line, label)]) =
      (decode (decode.memoryAfter s entries) label).2 := by
  rw [memoryAfter, List.foldl_append]
  rfl

theorem map_entry_calls (entries : List (Nat × Text)) :
    (decode.calls s entries).map (fun c => (c.line, c.label)) = entries := by
  induction entries generalizing s with
  | nil => rfl
  | cons e rest ih => exact congrArg (e :: ·) (ih _)

/-- The record holds the calls. -/
theorem memoryAfter_recorded (record : List (Text × Except Rejection Text))
    (entries : List (Nat × Text)) :
    decode.recorded.memoryAfter (s, record) entries =
      (decode.memoryAfter s entries,
        record ++ (decode.calls s entries).map fun c => (c.label, c.answer)) := by
  induction entries generalizing s record with
  | nil => rw [calls, List.map_nil, List.append_nil]; rfl
  | cons e rest ih =>
    refine (ih _ _).trans ?_
    rw [List.append_assoc]
    rfl

end Decoder

/-! ## Questions -/

instance : DecidablePred IsLabelChar :=
  fun c => inferInstanceAs (Decidable ('a' ≤ c ∧ c ≤ 'z' ∨ '0' ≤ c ∧ c ≤ '9' ∨ c = '-'))

instance : DecidablePred IsLabel :=
  fun t => inferInstanceAs (Decidable (∀ c ∈ t, IsLabelChar c))

namespace SuffixList

/-- The encoded entries, each where it stands first. -/
def questions (entries : List (Nat × Text)) : List (Nat × Text) :=
  entries.filter fun e => isEncoded e.2 ∧ ∀ e' ∈ entries, e'.2 = e.2 → e.1 ≤ e'.1

theorem mem_questions {entries : List (Nat × Text)} {line : Nat} {label : Text} :
    (line, label) ∈ questions entries ↔
      IsFirst entries line label ∧ "xn--".toList <+: label := by
  rw [questions, List.mem_filter, decide_eq_true_iff, isEncoded_iff]
  constructor
  · rintro ⟨hmem, hencoded, hfirst⟩
    exact ⟨⟨hmem, fun n hn => hfirst (n, label) hn rfl⟩, hencoded⟩
  · rintro ⟨⟨hmem, hfirst⟩, hencoded⟩
    refine ⟨hmem, hencoded, ?_⟩
    rintro ⟨n, _⟩ hn rfl
    exact hfirst n hn

/-- **A further entry is asked for** if it is encoded and new. -/
theorem questions_concat {entries : List (Nat × Text)} {line : Nat} {label : Text}
    (hline : ∀ e ∈ entries, e.1 < line) :
    questions (entries ++ [(line, label)]) = questions entries ++
      if isEncoded label = true ∧ ∀ e ∈ entries, e.2 ≠ label then [(line, label)] else [] := by
  -- Of those that were there before, each stands before the new one.
  have hbefore : ∀ e ∈ entries, ((∀ e' ∈ entries ++ [(line, label)], e'.2 = e.2 → e.1 ≤ e'.1) ↔
      ∀ e' ∈ entries, e'.2 = e.2 → e.1 ≤ e'.1) := by
    intro e he
    rw [List.forall_mem_append, List.forall_mem_singleton]
    exact and_iff_left fun _ => Nat.le_of_lt (hline e he)
  have hnew : (∀ e' ∈ entries ++ [(line, label)], e'.2 = label → line ≤ e'.1) ↔
      ∀ e ∈ entries, e.2 ≠ label := by
    rw [List.forall_mem_append, List.forall_mem_singleton, and_iff_left fun _ => Nat.le_refl line]
    refine forall₂_congr fun e he => imp_congr_right fun _ => ?_
    rw [iff_false, Nat.not_le]
    exact hline e he
  rw [questions, List.filter_append, questions]
  congr 1
  · refine List.filter_congr fun e he => ?_
    rw [decide_eq_decide, hbefore e he]
  · rw [List.filter_cons, List.filter_nil]
    simp only [decide_eq_true_iff, hnew]

/-! ## What the answers do -/

/-- The list keeps the answers: every label that was asked for is a member, a decoded form is
recorded for its label, and what has none is skipped where it stands. -/
structure Keeps (l : SuffixList) (calls : List Call) : Prop where
  literal : ∀ c ∈ calls, c.label ∈ l.literal
  decodedLabels : ∀ label form,
    (label, form) ∈ l.decodedLabels.entries ↔ ∃ c ∈ calls, c.label = label ∧ c.answer = .ok form
  decoded : ∀ form, form ∈ l.decoded ↔ ∃ c ∈ calls, c.answer = .ok form
  skipped : l.skipped = calls.filterMap Call.skipped?

namespace Keeps

variable {l : SuffixList} {calls : List Call}

theorem empty : Keeps {} [] where
  literal _ h := absurd h List.not_mem_nil
  decodedLabels _ _ := iff_of_false List.not_mem_nil fun ⟨_, h, _⟩ => List.not_mem_nil h
  decoded _ := iff_of_false SortedSet.not_mem_empty fun ⟨_, h, _⟩ => List.not_mem_nil h
  skipped := rfl

/-- What is counted does not matter. -/
theorem of_stats (h : Keeps l calls) (stats : Stats) : Keeps { l with stats := stats } calls :=
  ⟨h.literal, h.decodedLabels, h.decoded, h.skipped⟩

theorem addLiteral (h : Keeps l calls) (suffix : Text) : Keeps (l.addLiteral suffix) calls :=
  ⟨fun c hc => mem_addLiteral.2 (.inr (h.literal c hc)), h.decodedLabels, h.decoded, h.skipped⟩

/-- **One answer more.** -/
theorem addAnswer (h : Keeps l calls) {suffix : Text} (hliteral : suffix ∈ l.literal)
    (hnew : ∀ c ∈ calls, c.label ≠ suffix) (line : Nat) (answer : Except Rejection Text) :
    Keeps (l.addAnswer line suffix answer) (calls ++ [⟨line, suffix, answer⟩]) := by
  have hlabels : ∀ c ∈ calls ++ [⟨line, suffix, answer⟩], c.label ∈ l.literal := by
    rw [List.forall_mem_append, List.forall_mem_singleton]
    exact ⟨h.literal, hliteral⟩
  have hcalls : ∀ P : Call → Prop, (∃ c ∈ calls ++ [⟨line, suffix, answer⟩], P c) ↔
      (∃ c ∈ calls, P c) ∨ P ⟨line, suffix, answer⟩ := by
    intro P
    simp only [List.mem_append, List.mem_singleton, or_and_right, exists_or, exists_eq_left]
  cases answer with
  | ok form =>
    constructor
    case literal => exact hlabels
    case decodedLabels =>
      intro label form'
      have hold : (∃ c ∈ calls, c.label = label ∧ c.answer = .ok form') → label ≠ suffix := by
        rintro ⟨c, hc, rfl, -⟩
        exact hnew c hc
      refine SortedMap.mem_insert.trans ?_
      rw [hcalls, h.decodedLabels, and_iff_right_of_imp hold, Prod.mk.injEq, Except.ok.injEq,
        or_comm, eq_comm, @eq_comm _ form']
    case decoded =>
      intro form'
      refine SortedSet.mem_insert.trans ?_
      rw [hcalls, Except.ok.injEq, or_comm, @eq_comm _ form']
      exact or_congr_left (h.decoded form')
    case skipped =>
      rw [List.filterMap_append, ← h.skipped]
      exact (List.append_nil _).symm
  | error reason =>
    constructor
    case literal => exact hlabels
    case decodedLabels =>
      intro label form
      rw [hcalls]
      exact (h.decodedLabels label form).trans (or_iff_left fun hform => nomatch hform.2).symm
    case decoded =>
      intro form
      rw [hcalls]
      exact (h.decoded form).trans (or_iff_left nofun).symm
    case skipped =>
      rw [List.filterMap_append, ← h.skipped]
      rfl

end Keeps

/-! ## Lines -/

section Lines

variable {done : List Line} {suffix : Text}

theorem forall_ne_iff_not_mem :
    (∀ e ∈ Line.entriesFrom 1 done, e.2 ≠ suffix) ↔ .entry suffix ∉ done := by
  have hmem : .entry suffix ∈ done ↔ ∃ n, (n, suffix) ∈ Line.entriesFrom 1 done :=
    Line.mem_iff_mem_entriesFrom
  rw [hmem, not_exists]
  exact ⟨fun h n hn => h _ hn rfl, fun h e he heq => h e.1 (heq ▸ he)⟩

theorem questions_entry (done : List Line) (suffix : Text) :
    questions (Line.entriesFrom 1 (done ++ [.entry suffix])) =
      questions (Line.entriesFrom 1 done) ++
        if isEncoded suffix = true ∧ .entry suffix ∉ done then [(done.length + 1, suffix)]
        else [] := by
  have hline : ∀ e ∈ Line.entriesFrom 1 done, e.1 < 1 + done.length :=
    fun _ he => Line.lt_of_mem_entriesFrom he
  rw [Line.entriesFrom_append, Line.entriesFrom_entry, Line.entriesFrom_nil,
    questions_concat hline, Nat.add_comm 1]
  simp only [forall_ne_iff_not_mem]

end Lines

section Readings

variable {σ : Type} {decode : Decoder σ} {memory s : σ} {done : List Line} {l : SuffixList}

/-- What holds when lines were read: the decoder was asked for the entries, and the list keeps what
it answered. -/
structure IsAsked (decode : Decoder σ) (memory : σ) (done : List Line) (l : SuffixList) (s : σ) :
    Prop where
  read : ∀ x, x ∈ l.literal ↔ .entry x ∈ done
  remembered : s = decode.memoryAfter memory (questions (Line.entriesFrom 1 done))
  keeps : l.Keeps (decode.calls memory (questions (Line.entriesFrom 1 done)))

namespace IsAsked

theorem empty : IsAsked decode memory [] {} memory where
  read _ := iff_of_false SortedSet.not_mem_empty List.not_mem_nil
  remembered := rfl
  keeps := .empty

/-- A line without an entry asks for nothing. -/
theorem other (h : IsAsked decode memory done l s) {line : Line} (hline : line.content? = none)
    (stats : Stats) : IsAsked decode memory (done ++ [line]) { l with stats := stats } s := by
  have hentries : Line.entriesFrom 1 (done ++ [line]) = Line.entriesFrom 1 done := by
    cases line with
    | entry suffix => cases hline
    | blank => rw [Line.entriesFrom_append]; exact List.append_nil _
    | comment => rw [Line.entriesFrom_append]; exact List.append_nil _
  constructor
  case read =>
    intro x
    refine (h.read x).trans ?_
    rw [List.mem_append, List.mem_singleton, iff_comm]
    refine or_iff_left ?_
    rintro rfl
    cases hline
  case remembered => rw [hentries, h.remembered]
  case keeps => exact hentries ▸ h.keeps.of_stats stats

theorem entry (h : IsAsked decode memory done l s) (suffix : Text) :
    IsAsked decode memory (done ++ [.entry suffix])
      (l.countLine.add decode (done.length + 1) suffix s).1
      (l.countLine.add decode (done.length + 1) suffix s).2 := by
  have hread : ∀ x, x ∈ (l.countLine.add decode (done.length + 1) suffix s).1.literal ↔
      .entry x ∈ done ++ [.entry suffix] := by
    intro x
    rw [mem_literal_add, List.mem_append, List.mem_singleton, Line.entry.injEq, ← h.read x, or_comm]
    rfl
  have hline : Keeps l.countLine _ := h.keeps.of_stats _
  have hquestions := questions_entry done suffix
  rcases add_cases decode (done.length + 1) suffix l.countLine s with
    ⟨hmem, hadd⟩ | ⟨hmem, hencoded, hadd⟩ | ⟨hmem, hencoded, hadd⟩
  · rw [if_neg fun hnew => hnew.2 ((h.read suffix).1 hmem), List.append_nil] at hquestions
    refine ⟨hread, ?_, ?_⟩
    · rw [hadd, hquestions, h.remembered]
    · rw [hadd, hquestions]
      exact hline.of_stats _
  · rw [if_pos ⟨hencoded, mt (h.read suffix).2 hmem⟩] at hquestions
    refine ⟨hread, ?_, ?_⟩
    · rw [hadd, hquestions, Decoder.memoryAfter_concat, ← h.remembered]
    · rw [hadd, hquestions, Decoder.calls_concat, ← h.remembered]
      refine (hline.addLiteral suffix).addAnswer (mem_addLiteral.2 (.inl rfl)) ?_ _ _
      rintro c hc rfl
      exact hmem (h.keeps.literal c hc)
  · rw [if_neg fun hnew => Bool.false_ne_true (hencoded.symm.trans hnew.1), List.append_nil]
      at hquestions
    refine ⟨hread, ?_, ?_⟩
    · rw [hadd, hquestions, h.remembered]
    · rw [hadd, hquestions]
      exact hline.addLiteral suffix

end IsAsked

/-- **A reading asks for the entries and keeps the answers.** -/
theorem isAsked_readFrom (decode : Decoder σ) (memory : σ) {lines : List Line}
    (hlabels : ∀ p ∈ Line.entriesFrom 1 lines, IsLabel p.2) :
    IsAsked decode memory lines (readFrom decode 1 lines {} memory).list
      (readFrom decode 1 lines {} memory).memory :=
  readFrom_induction decode (R := IsAsked decode memory) (fun _ _ _ h => h.other rfl _)
    (fun _ _ _ h => h.other rfl _) (fun _ _ _ suffix h _ => h.entry suffix) .empty hlabels

end Readings

/-! ## Readings that end early -/

end SuffixList

namespace Line

/-- The line does not end a reading. -/
def goesOn : Line → Bool
  | .entry suffix => decide (IsLabel suffix)
  | _ => true

theorem entriesFrom_takeWhile (number : Nat) (lines : List Line) :
    entriesFrom number (lines.takeWhile goesOn) =
      (entriesFrom number lines).takeWhile fun e => IsLabel e.2 := by
  induction lines generalizing number with
  | nil => rfl
  | cons line rest ih =>
    cases line with
    | blank => exact ih (number + 1)
    | comment => exact ih (number + 1)
    | entry suffix =>
      rw [entriesFrom_entry, List.takeWhile_cons, List.takeWhile_cons, goesOn]
      split
      · rw [entriesFrom_entry, ih]
      · rfl

end Line

namespace SuffixList

variable {σ : Type} (decode : Decoder σ)

/-- Nothing is asked for behind the line that ends a reading. -/
theorem memory_readFrom_takeWhile (number : Nat) (lines : List Line) (l : SuffixList) (s : σ) :
    (readFrom decode number (lines.takeWhile Line.goesOn) l s).memory =
      (readFrom decode number lines l s).memory := by
  induction lines generalizing number l s with
  | nil => rfl
  | cons line rest ih =>
    cases line with
    | blank => exact ih ..
    | comment => exact ih ..
    | entry suffix =>
      rw [List.takeWhile_cons, Line.goesOn, readFrom]
      cases hfind : suffix.find? fun c => !isLiteralChar c with
      | none =>
        rw [if_pos (decide_eq_true (find?_not_isLiteralChar_eq_none_iff.1 hfind)), readFrom, hfind]
        exact ih ..
      | some c =>
        have hlabel : ¬ IsLabel suffix := by
          rw [← find?_not_isLiteralChar_eq_none_iff, hfind]
          exact Option.some_ne_none c
        rw [if_neg fun h => hlabel (of_decide_eq_true h)]
        rfl

/-- The entries before the first that is no label. -/
def validEntries (text : Text) : List (Nat × Text) :=
  (entries text).takeWhile fun e => IsLabel e.2

theorem memory_readText (memory : σ) (text : Text) :
    (readText decode memory text).memory =
      decode.memoryAfter memory (questions (validEntries text)) := by
  have hlabels : ∀ p ∈ Line.entriesFrom 1 ((text.lines.map Line.ofText).takeWhile Line.goesOn),
      IsLabel p.2 := by
    rw [Line.entriesFrom_takeWhile]
    exact fun p hp => of_decide_eq_true (List.all_eq_true.1 List.all_takeWhile p hp)
  rw [readText, ← memory_readFrom_takeWhile, (isAsked_readFrom decode memory hlabels).remembered,
    Line.entriesFrom_takeWhile, entriesFrom_ofText, validEntries]

theorem keeps_readText {memory : σ} {text : Text} {l : SuffixList}
    (h : (readText decode memory text).result = .ok l) :
    l.Keeps (decode.calls memory (questions (validEntries text))) := by
  obtain ⟨hlabels, rfl⟩ := (result_eq_ok_iff decode memory text).1 h
  have hvalid : validEntries text = entries text :=
    List.takeWhile_eq_self_iff.2 fun p hp => decide_eq_true (hlabels p hp)
  rw [← entriesFrom_ofText] at hlabels hvalid
  rw [hvalid]
  exact (isAsked_readFrom decode memory hlabels).keeps

/-! ## Records -/

/-- A record is kept aside. -/
theorem add_recorded (line : Nat) (suffix : Text) (l : SuffixList) (s : σ)
    (record : List (Text × Except Rejection Text)) :
    ∃ record', l.add decode.recorded line suffix (s, record) =
      ((l.add decode line suffix s).1, (l.add decode line suffix s).2, record') := by
  rw [add, add]
  split
  · exact ⟨_, rfl⟩
  · split
    · exact ⟨_, rfl⟩
    · exact ⟨_, rfl⟩

theorem result_readFrom_recorded (number : Nat) (lines : List Line) (l : SuffixList) (s : σ)
    (record : List (Text × Except Rejection Text)) :
    (readFrom decode.recorded number lines l (s, record)).result =
      (readFrom decode number lines l s).result := by
  induction lines generalizing number l s record with
  | nil => rfl
  | cons line rest ih =>
    cases line with
    | blank => exact ih ..
    | comment => exact ih ..
    | entry suffix =>
      rw [readFrom, readFrom]
      cases suffix.find? fun c => !isLiteralChar c with
      | some c => rfl
      | none =>
        obtain ⟨record', hadd⟩ := add_recorded decode number suffix l.countLine s record
        simp only [hadd]
        exact ih ..

/-! ## Calls -/

theorem pairwise_entriesFrom (number : Nat) (lines : List Line) :
    (Line.entriesFrom number lines).Pairwise fun e e' => e.1 < e'.1 := by
  induction lines using List.reverseRecOn with
  | nil => exact .nil
  | append_singleton lines line ih =>
    rw [Line.entriesFrom_append, List.pairwise_append]
    refine ⟨ih, ?_, fun e he e' he' => ?_⟩
    · cases line with
      | blank => exact .nil
      | comment => exact .nil
      | entry suffix => exact List.pairwise_singleton ..
    · have hlt := Line.lt_of_mem_entriesFrom he
      cases line with
      | blank => cases he'
      | comment => cases he'
      | entry suffix =>
        rw [Line.entriesFrom_entry, Line.entriesFrom_nil, List.mem_singleton] at he'
        rw [he']
        exact hlt

/-- Questions are in the order of their lines, and no two are about one label. -/
theorem pairwise_questions {entries : List (Nat × Text)}
    (h : entries.Pairwise fun e e' => e.1 < e'.1) :
    (questions entries).Pairwise fun e e' => e.1 < e'.1 ∧ e.2 ≠ e'.2 := by
  refine (h.filter _).imp_of_mem fun {e e'} he he' hlt => ⟨hlt, fun hlabel => ?_⟩
  have hfirst := (mem_questions.1 he').1.2 e.1
  rw [← hlabel] at hfirst
  exact Nat.not_le_of_lt hlt (hfirst (mem_questions.1 he).1.1)

/-- The calls of the decoder while a text is read. -/
def calls (memory : σ) (text : Text) : List Call :=
  decode.calls memory (questions (validEntries text))

theorem pairwise_calls (memory : σ) (text : Text) :
    (calls decode memory text).Pairwise fun c c' => c.line < c'.line ∧ c.label ≠ c'.label := by
  have hentries : (validEntries text).Pairwise fun e e' => e.1 < e'.1 := by
    rw [validEntries, ← entriesFrom_ofText]
    exact (pairwise_entriesFrom 1 _).sublist (List.takeWhile_sublist _)
  have hquestions := pairwise_questions hentries
  rw [← decode.map_entry_calls memory (questions _), List.pairwise_map] at hquestions
  exact hquestions

/-- **The decoder is asked once for each entry, in order.** The calls are about the encoded entries
before the first invalid one, each with the line where it stands first; they are what a record of
the decoder holds, and a record does not change what is read. The list that is read keeps the
answers. -/
theorem asked_once_in_order (memory : σ) (text : Text) :
    (∀ line label, (∃ c ∈ calls decode memory text, c.line = line ∧ c.label = label) ↔
      IsFirst (validEntries text) line label ∧ "xn--".toList <+: label) ∧
      (calls decode memory text).Pairwise (fun c c' => c.line < c'.line ∧ c.label ≠ c'.label) ∧
      (readText decode.recorded (memory, []) text).memory =
        ((readText decode memory text).memory,
          (calls decode memory text).map fun c => (c.label, c.answer)) ∧
      (readText decode.recorded (memory, []) text).result =
        (readText decode memory text).result ∧
      ∀ l, (readText decode memory text).result = .ok l → l.Keeps (calls decode memory text) := by
  refine ⟨fun line label => ?_, pairwise_calls decode memory text, ?_,
    result_readFrom_recorded .., fun l h => keeps_readText decode h⟩
  · rw [← mem_questions, ← decode.map_entry_calls memory (questions _), List.mem_map]
    simp only [Prod.mk.injEq]
    rfl
  · rw [memory_readText, memory_readText, Decoder.memoryAfter_recorded]
    rfl

end SuffixList
end SuffixPattern
