import SuffixPattern.Regex.Reader
import SuffixPattern.Regex.Search

/-!
# SuffixPattern.Proofs.Preference

Expressions with finitely many matches, as lists of words. `Expr.words` lists the texts that an
expression matches in the order in which a backtracking engine prefers them; where the engine stands
only decides which of them come next in the text (`ends_eq_words`). All that is said about captures
is read off this list.

* `Expr.tried e t`: what a match at the beginning of `t` takes in, in the order of trying.
* `Expr.captured? e k t`: what `e` takes in there if `k` has to match behind it.
-/

namespace SuffixPattern
namespace Regex

/-! ## Following a word -/

namespace Cursor

/-- The place behind a word, if the word comes next. -/
def follow? : Text → Cursor → Option Cursor
  | [], p => some p
  | c :: w, p =>
    match p.after with
    | [] => none
    | d :: rest => if d = c then follow? w (p.past d rest) else none

theorem follow?_append (w v : Text) (p : Cursor) :
    follow? (w ++ v) p = (follow? w p).bind (follow? v) := by
  induction w generalizing p with
  | nil => rfl
  | cons c w ih =>
    rw [List.cons_append, follow?, follow?]
    split
    · rfl
    · split
      · exact ih _
      · rfl

theorem follow?_eq_some_iff {w : Text} {p q : Cursor} :
    follow? w p = some q ↔
      p.after = w ++ q.after ∧ q.before = w.reverse ++ p.before ∧ q.index = p.index + w.length := by
  induction w generalizing p with
  | nil =>
    obtain ⟨i, b, a⟩ := p
    obtain ⟨j, b', a'⟩ := q
    simp only [follow?, Option.some.injEq, Cursor.mk.injEq, List.nil_append, List.reverse_nil,
      List.length_nil, Nat.add_zero]
    constructor
    · rintro ⟨rfl, rfl, rfl⟩
      exact ⟨rfl, rfl, rfl⟩
    · rintro ⟨rfl, rfl, rfl⟩
      exact ⟨rfl, rfl, rfl⟩
  | cons c w ih =>
    rw [follow?]
    split
    · rename_i h
      simp [h]
    · rename_i d rest h
      by_cases hd : d = c
      · subst hd
        rw [if_pos rfl, ih]
        simp [h, past, Nat.add_assoc, Nat.add_comm 1]
      · simp [h, hd]

/-- The place in a text behind its beginning `w`. -/
def behind (w t : Text) : Cursor := ⟨w.length, w.reverse, t.drop w.length⟩

theorem follow?_ofText {w t : Text} :
    follow? w (.ofText t) = if w <+: t then some (behind w t) else none := by
  split
  · rename_i h
    obtain ⟨rest, rfl⟩ := h
    rw [follow?_eq_some_iff]
    simp [ofText, behind]
  · rename_i h
    cases hf : follow? w (.ofText t) with
    | none => rfl
    | some q => exact absurd ⟨q.after, (follow?_eq_some_iff.1 hf).1.symm⟩ h

theorem follow?_single (c : Char) (p : Cursor) :
    follow? [c] p = (p.eat (· = c)).head? := by
  unfold follow? eat
  cases p.after with
  | nil => rfl
  | cons d rest =>
    by_cases hd : d = c
    · simp [hd, follow?]
    · simp [hd]

end Cursor

/-! ## Words -/

/-- The characters of an item in ascending order. -/
def ClassItem.chars : ClassItem → List Char
  | .single c => [c]
  | .range first last =>
    (List.range' first.toNat (last.toNat + 1 - first.toNat)).filterMap charOfCode?

theorem charOfCode?_eq_some_iff {n : Nat} {c : Char} : charOfCode? n = some c ↔ n = c.toNat := by
  unfold charOfCode?
  constructor
  · intro h
    split at h
    · rename_i hv
      cases h
      unfold Char.ofNat
      rw [dif_pos hv]
      rfl
    · cases h
  · rintro rfl
    have hv : c.toNat.isValidChar := c.valid
    simp [hv]

theorem char_le_iff {a b : Char} : a ≤ b ↔ a.toNat ≤ b.toNat := UInt32.le_iff_toNat_le

theorem ClassItem.mem_chars {c : Char} {item : ClassItem} :
    c ∈ item.chars ↔ item.contains c = true := by
  cases item with
  | single d => simp [chars, contains]
  | range first last =>
    simp only [chars, contains, List.mem_filterMap, charOfCode?_eq_some_iff, List.mem_range'_1,
      exists_eq_right, Bool.and_eq_true, decide_eq_true_eq, char_le_iff]
    omega

/-- Every text of the first list followed by every text of the second. -/
def product (ws vs : List Text) : List Text :=
  ws.flatMap fun w => vs.map (w ++ ·)

theorem mem_product {ws vs : List Text} {u : Text} :
    u ∈ product ws vs ↔ ∃ w ∈ ws, ∃ v ∈ vs, u = w ++ v := by
  simp only [product, List.mem_flatMap, List.mem_map, eq_comm]

theorem product_nil_right (ws : List Text) : product ws [[]] = ws := by
  simp [product]

theorem product_nil_left (vs : List Text) : product [[]] vs = vs := by
  simp [product]

theorem product_assoc (us vs ws : List Text) :
    product (product us vs) ws = product us (product vs ws) := by
  simp [product, List.flatMap_assoc, List.map_flatMap, List.flatMap_map, Function.comp_def]

namespace Expr

/-- The texts that an expression matches, the preferred ones first. Anchors, negated classes and
repetitions without a bound have no such list. -/
def words : Expr → List Text
  | .empty => [[]]
  | .char c => [[c]]
  | .set _ items => (items.flatMap ClassItem.chars).map fun c => [c]
  | .cat a b => product a.words b.words
  | .alt a b => a.words ++ b.words
  | .group a => a.words
  | .capture _ a => a.words
  | .opt a => a.words ++ [[]]
  | _ => []

/-- Expressions that are told by their words. No character is in a class twice. -/
def IsFinite : Expr → Prop
  | .empty => True
  | .char _ => True
  | .set negated items => negated = false ∧ (items.flatMap ClassItem.chars).Nodup
  | .cat a b => a.IsFinite ∧ b.IsFinite
  | .alt a b => a.IsFinite ∧ b.IsFinite
  | .group a => a.IsFinite
  | .capture _ a => a.IsFinite
  | .opt a => a.IsFinite
  | _ => False

theorem eat_mem_chars {cs : List Char} (hnodup : cs.Nodup) (p : Cursor) :
    p.eat (· ∈ cs) = (cs.map fun c => [c]).filterMap (Cursor.follow? · p) := by
  induction cs with
  | nil => cases h : p.after <;> simp [Cursor.eat, h]
  | cons c cs ih =>
    rw [List.nodup_cons] at hnodup
    rw [List.map_cons, List.filterMap_cons, ← ih hnodup.2, Cursor.follow?_single]
    unfold Cursor.eat
    cases h : p.after with
    | nil => rfl
    | cons d rest =>
      by_cases hd : d = c
      · subst hd
        simp [hnodup.1]
      · simp [hd]

theorem filterMap_follow?_product (ws vs : List Text) (p : Cursor) :
    (product ws vs).filterMap (Cursor.follow? · p) =
      (ws.filterMap (Cursor.follow? · p)).flatMap fun q =>
        vs.filterMap (Cursor.follow? · q) := by
  induction ws with
  | nil => rfl
  | cons w ws ih =>
    have hw : (vs.map (w ++ ·)).filterMap (Cursor.follow? · p) =
        vs.filterMap fun v => (Cursor.follow? w p).bind (Cursor.follow? v) := by
      rw [List.filterMap_map]
      congr 1
      funext v
      exact Cursor.follow?_append w v p
    have hcons : product (w :: ws) vs = vs.map (w ++ ·) ++ product ws vs := rfl
    rw [hcons, List.filterMap_append, ih, hw, List.filterMap_cons]
    cases Cursor.follow? w p with
    | none => simp
    | some q => rfl

/-- **The engine goes through the words.** From any place, the matches are found in the order of the
words, and those words are found that come next in the text. -/
theorem ends_eq_words {e : Expr} (h : e.IsFinite) (p : Cursor) :
    e.ends p = e.words.filterMap (Cursor.follow? · p) := by
  induction e generalizing p with
  | empty => rfl
  | char c =>
    rw [words, List.filterMap_cons, Cursor.follow?_single, ends]
    unfold Cursor.eat
    cases p.after with
    | nil => rfl
    | cons d rest => by_cases hd : d = c <;> simp [hd]
  | set negated items =>
    obtain ⟨rfl, hnodup⟩ := h
    rw [words, ← eat_mem_chars hnodup, ends]
    congr 1
    funext c
    rw [Bool.eq_iff_iff]
    simp [ClassItem.mem_chars]
  | any => exact h.elim
  | start => exact h.elim
  | finish => exact h.elim
  | boundary => exact h.elim
  | interior => exact h.elim
  | cat a b iha ihb =>
    rw [words, filterMap_follow?_product, ← iha h.1, ends]
    congr 1
    funext q
    exact ihb h.2 q
  | alt a b iha ihb => rw [ends, words, List.filterMap_append, iha h.1, ihb h.2]
  | group a ih => exact ih h p
  | capture name a ih => exact ih h p
  | opt a ih => rw [ends, words, List.filterMap_append, ih h]; rfl
  | star a ih => exact h.elim

/-! ## Full matches -/

theorem matchesFully_iff (e : Expr) (t : Text) :
    e.matchesFully t = true ↔ ∃ q ∈ e.ends (.ofText t), q.after = [] := by
  simp only [matchesFully, List.any_eq_true, mem_reach, List.mem_singleton, exists_eq_left,
    List.isEmpty_iff]

theorem matchesFully_iff_mem_words {e : Expr} (h : e.IsFinite) (t : Text) :
    e.matchesFully t = true ↔ t ∈ e.words := by
  rw [matchesFully_iff, ends_eq_words h]
  simp only [List.mem_filterMap]
  constructor
  · rintro ⟨q, ⟨w, hw, hq⟩, hend⟩
    have hafter := (Cursor.follow?_eq_some_iff.1 hq).1
    rw [hend, List.append_nil] at hafter
    have ht : t = w := hafter
    exact ht ▸ hw
  · intro ht
    refine ⟨Cursor.behind t t, ⟨t, ht, ?_⟩, by simp [Cursor.behind]⟩
    rw [Cursor.follow?_ofText, if_pos (List.prefix_refl t)]

/-! ## Matches at the beginning of a text -/

/-- What a match at the beginning of a text takes in, in the order in which the matches are
tried. -/
def tried (e : Expr) (t : Text) : List Text :=
  (e.ends (.ofText t)).map fun q => q.before.reverse

/-- What `e` takes in at the beginning of a text if `k` has to match behind it: the first match of
`e` behind which there is one of `k`. Nothing is required behind `e` if `k` is empty. -/
def captured? (e k : Expr) (t : Text) : Option Text :=
  ((e.ends (.ofText t)).find? fun q => !(k.ends q).isEmpty).map fun q => q.before.reverse

theorem ends_ofText {e : Expr} (h : e.IsFinite) (t : Text) :
    e.ends (.ofText t) = (e.words.filter (· <+: t)).map (Cursor.behind · t) := by
  rw [ends_eq_words h]
  induction e.words with
  | nil => rfl
  | cons w ws ih =>
    rw [List.filterMap_cons, List.filter_cons, Cursor.follow?_ofText, ih]
    by_cases hw : w <+: t <;> simp [hw]

theorem tried_eq {e : Expr} (h : e.IsFinite) (t : Text) :
    e.tried t = e.words.filter (· <+: t) := by
  rw [tried, ends_ofText h, List.map_map]
  simp [Cursor.behind, Function.comp_def]

theorem captured?_eq {e : Expr} (h : e.IsFinite) (k : Expr) (t : Text) :
    e.captured? k t = (e.tried t).find? fun w => !(k.ends (.behind w t)).isEmpty := by
  rw [captured?, ends_ofText h, tried_eq h, List.find?_map, Option.map_map]
  simp [Cursor.behind, Function.comp_def]

theorem captured?_empty {e : Expr} (h : e.IsFinite) (t : Text) :
    e.captured? .empty t = (e.tried t).head? := by
  rw [captured?_eq h]
  cases e.tried t <;> simp [ends]

theorem captured?_empty_eq_none_iff {e : Expr} (h : e.IsFinite) (t : Text) :
    e.captured? .empty t = none ↔ ∀ w ∈ e.words, ¬ w <+: t := by
  rw [captured?_empty h, tried_eq h, List.head?_eq_none_iff, List.filter_eq_nil_iff]
  simp only [decide_eq_true_eq]

end Expr

/-! ## The longest of several texts -/

/-- A text with the given property that no other such text exceeds in length. -/
def IsLongest (P : Text → Prop) (w : Text) : Prop :=
  P w ∧ ∀ v, P v → v.length ≤ w.length

/-- In a list of falling lengths the first element with a property is the longest one. -/
theorem find?_eq_some_iff_isLongest {l : List Text} {p : Text → Bool}
    (hl : l.Pairwise fun a b => b.length < a.length) {w : Text} :
    l.find? p = some w ↔ IsLongest (fun v => v ∈ l ∧ p v = true) w := by
  induction l with
  | nil => simp [IsLongest]
  | cons a l ih =>
    rw [List.pairwise_cons] at hl
    rw [List.find?_cons]
    cases ha : p a with
    | true =>
      simp only [Option.some.injEq]
      constructor
      · rintro rfl
        refine ⟨⟨.head _, ha⟩, ?_⟩
        rintro v ⟨hv, -⟩
        rcases List.mem_cons.1 hv with rfl | hv
        · exact Nat.le_refl _
        · exact Nat.le_of_lt (hl.1 v hv)
      · rintro ⟨⟨hw, -⟩, hlongest⟩
        rcases List.mem_cons.1 hw with rfl | hw
        · rfl
        · exact absurd (hlongest a ⟨.head _, ha⟩) (Nat.not_le.2 (hl.1 w hw))
    | false =>
      have hsame : ∀ v, (v ∈ a :: l ∧ p v = true) ↔ (v ∈ l ∧ p v = true) := by
        intro v
        rw [List.mem_cons]
        constructor
        · rintro ⟨rfl | hv, hp⟩
          · rw [ha] at hp
            cases hp
          · exact ⟨hv, hp⟩
        · exact fun h => ⟨.inr h.1, h.2⟩
      rw [ih hl.2]
      simp only [IsLongest, hsame]

theorem head?_eq_some_iff_isLongest {l : List Text}
    (hl : l.Pairwise fun a b => b.length < a.length) {w : Text} :
    l.head? = some w ↔ IsLongest (· ∈ l) w := by
  have hfind : l.find? (fun _ => true) = l.head? := by
    cases l <;> rfl
  rw [← hfind, find?_eq_some_iff_isLongest hl]
  simp only [and_true]

/-- The head of a list in a strict order is what comes before all others. -/
theorem head?_eq_some_iff_of_pairwise {R : Text → Text → Prop} {l : List Text} (hl : l.Pairwise R)
    (hasymm : ∀ a b, R a b → ¬ R b a) {v : Text} :
    l.head? = some v ↔ v ∈ l ∧ ∀ u ∈ l, u ≠ v → R v u := by
  cases l with
  | nil => simp
  | cons a rest =>
    rw [List.pairwise_cons] at hl
    rw [List.head?_cons, Option.some.injEq]
    constructor
    · rintro rfl
      refine ⟨.head _, fun u hu hne => ?_⟩
      exact hl.1 u ((List.mem_cons.1 hu).resolve_left hne)
    · rintro ⟨hv, hfirst⟩
      by_cases heq : a = v
      · exact heq
      · have hrest : v ∈ rest := (List.mem_cons.1 hv).resolve_left fun h => heq h.symm
        exact absurd (hfirst a (.head _) heq) (hasymm a v (hl.1 v hrest))

end Regex
end SuffixPattern
