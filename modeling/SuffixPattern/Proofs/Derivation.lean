import Mathlib.Data.List.Nodup
import Mathlib.Data.List.Pairwise
import SuffixPattern.Proofs.Preference

/-!
# SuffixPattern.Proofs.Derivation

The ways in which an expression matches, as data. `Choices` tells a way apart from the others: which
side of each choice is entered and whether each optional part is there. `Derives e d p q` says that
`e` can be matched from the place `p` to the place `q` by making the choices `d`; such `q` are the
places that the engine finds (`mem_ends_iff_derives`).

* `Derives.unique`: an expression that lists no word twice matches from one place to another in one
  way at most.
* `IsSeparated`: the sides of every choice have no word in common, and no optional part has the
  empty one, wherever in the expression they are (`IsSeparated.of_mem_parts`).
-/

namespace SuffixPattern
namespace Regex

inductive Choices where
  | nothing
  | both (first second : Choices)
  | left (d : Choices)
  | right (d : Choices)
  | taken (d : Choices)
  | skipped
  deriving DecidableEq, Repr

namespace Expr

/-- A repetition is taken once more, as long as it makes progress, or it is over. -/
inductive Derives : Expr → Choices → Cursor → Cursor → Prop where
  | empty {p : Cursor} : Derives .empty .nothing p p
  | char {c : Char} {p q : Cursor} (h : q ∈ p.eat (· = c)) : Derives (.char c) .nothing p q
  | set {negated : Bool} {items : List ClassItem} {p q : Cursor}
      (h : q ∈ p.eat fun c => negated != items.any (·.contains c)) :
      Derives (.set negated items) .nothing p q
  | any {p q : Cursor} (h : q ∈ p.eat (· ≠ '\n')) : Derives .any .nothing p q
  | start {p : Cursor} (h : p.before = []) : Derives .start .nothing p p
  | finish {p : Cursor} (h : p.after = []) : Derives .finish .nothing p p
  | boundary {p : Cursor} (h : p.atBoundary = true) : Derives .boundary .nothing p p
  | interior {p : Cursor} (h : p.atBoundary = false) : Derives .interior .nothing p p
  | cat {a b : Expr} {d d' : Choices} {p r q : Cursor} (ha : Derives a d p r)
      (hb : Derives b d' r q) : Derives (.cat a b) (.both d d') p q
  | altLeft {a b : Expr} {d : Choices} {p q : Cursor} (h : Derives a d p q) :
      Derives (.alt a b) (.left d) p q
  | altRight {a b : Expr} {d : Choices} {p q : Cursor} (h : Derives b d p q) :
      Derives (.alt a b) (.right d) p q
  | group {a : Expr} {d : Choices} {p q : Cursor} (h : Derives a d p q) :
      Derives (.group a) d p q
  | capture {name : Text} {a : Expr} {d : Choices} {p q : Cursor} (h : Derives a d p q) :
      Derives (.capture name a) d p q
  | optTaken {a : Expr} {d : Choices} {p q : Cursor} (h : Derives a d p q) :
      Derives (.opt a) (.taken d) p q
  | optSkipped {a : Expr} {p : Cursor} : Derives (.opt a) .skipped p p
  | starTaken {a : Expr} {d d' : Choices} {p r q : Cursor} (ha : Derives a d p r)
      (hprogress : r.after.length < p.after.length) (hrest : Derives (.star a) d' r q) :
      Derives (.star a) (.both (.taken d) d') p q
  | starSkipped {a : Expr} {p : Cursor} : Derives (.star a) .skipped p p

/-! ## Agreement with the engine -/

theorem Derives.mem_ends {e : Expr} {d : Choices} {p q : Cursor} (h : e.Derives d p q) :
    q ∈ e.ends p := by
  induction h with
  | empty => exact .head _
  | char h => exact h
  | set h => exact h
  | any h => exact h
  | start h => simp [ends, h]
  | finish h => simp [ends, h]
  | boundary h => simp [ends, h]
  | interior h => simp [ends, h]
  | cat _ _ iha ihb => exact List.mem_flatMap.2 ⟨_, iha, ihb⟩
  | altLeft _ ih => exact List.mem_append_left _ ih
  | altRight _ ih => exact List.mem_append_right _ ih
  | group _ ih => exact ih
  | capture _ ih => exact ih
  | optTaken _ ih => exact List.mem_append_left _ ih
  | optSkipped => exact List.mem_append_right _ (.head _)
  | @starTaken a _ _ p r q _ _ _ iha ihrest =>
    have hforward := forward_of_mem_ends a
    have hreach : Reaches a.ends r q := (mem_repeated_iff hforward (Nat.le_refl _)).1 ihrest
    exact (mem_repeated_iff hforward (Nat.le_refl _)).2 (.step iha hreach)
  | @starSkipped a p =>
    exact (mem_repeated_iff (forward_of_mem_ends a) (Nat.le_refl _)).2 .refl

theorem exists_derives_star {a : Expr}
    (ha : ∀ p q, q ∈ a.ends p → ∃ d, a.Derives d p q) (n : Nat) {p q : Cursor}
    (h : q ∈ repeated a.ends n p) : ∃ d, (star a).Derives d p q := by
  induction n generalizing p with
  | zero =>
    cases List.mem_singleton.1 h
    exact ⟨_, .starSkipped⟩
  | succ n ih =>
    rw [repeated, List.mem_append, List.mem_flatMap, List.mem_singleton] at h
    rcases h with ⟨r, hr, hq⟩ | rfl
    · obtain ⟨hr, hprogress⟩ := List.mem_filter.1 hr
      obtain ⟨d, hd⟩ := ha p r hr
      obtain ⟨d', hd'⟩ := ih hq
      exact ⟨_, .starTaken hd (of_decide_eq_true hprogress) hd'⟩
    · exact ⟨_, .starSkipped⟩

theorem exists_derives_of_mem_ends (e : Expr) :
    ∀ p q, q ∈ e.ends p → ∃ d, e.Derives d p q := by
  induction e with
  | empty =>
    intro p q h
    cases List.mem_singleton.1 h
    exact ⟨_, .empty⟩
  | char c => exact fun p q h => ⟨_, .char h⟩
  | set negated items => exact fun p q h => ⟨_, .set h⟩
  | any => exact fun p q h => ⟨_, .any h⟩
  | start =>
    intro p q h
    obtain ⟨hb, rfl⟩ : p.before = [] ∧ q = p := by simpa [ends] using h
    exact ⟨_, .start hb⟩
  | finish =>
    intro p q h
    obtain ⟨ha, rfl⟩ : p.after = [] ∧ q = p := by simpa [ends] using h
    exact ⟨_, .finish ha⟩
  | boundary =>
    intro p q h
    obtain ⟨hb, rfl⟩ : p.atBoundary = true ∧ q = p := by simpa [ends] using h
    exact ⟨_, .boundary hb⟩
  | interior =>
    intro p q h
    obtain ⟨hb, rfl⟩ : p.atBoundary = false ∧ q = p := by simpa [ends] using h
    exact ⟨_, .interior hb⟩
  | cat a b iha ihb =>
    intro p q h
    obtain ⟨r, hr, hq⟩ := List.mem_flatMap.1 h
    obtain ⟨d, hd⟩ := iha p r hr
    obtain ⟨d', hd'⟩ := ihb r q hq
    exact ⟨_, .cat hd hd'⟩
  | alt a b iha ihb =>
    intro p q h
    rcases List.mem_append.1 h with h | h
    · obtain ⟨d, hd⟩ := iha p q h
      exact ⟨_, .altLeft hd⟩
    · obtain ⟨d, hd⟩ := ihb p q h
      exact ⟨_, .altRight hd⟩
  | group a ih =>
    intro p q h
    obtain ⟨d, hd⟩ := ih p q h
    exact ⟨_, .group hd⟩
  | capture name a ih =>
    intro p q h
    obtain ⟨d, hd⟩ := ih p q h
    exact ⟨_, .capture hd⟩
  | opt a ih =>
    intro p q h
    rcases List.mem_append.1 h with h | h
    · obtain ⟨d, hd⟩ := ih p q h
      exact ⟨_, .optTaken hd⟩
    · cases List.mem_singleton.1 h
      exact ⟨_, .optSkipped⟩
  | star a ih => exact fun p q h => exists_derives_star ih _ h

/-- **The engine finds what can be derived.** -/
theorem mem_ends_iff_derives {e : Expr} {p q : Cursor} :
    q ∈ e.ends p ↔ ∃ d, e.Derives d p q :=
  ⟨exists_derives_of_mem_ends e p q, fun ⟨_, h⟩ => h.mem_ends⟩

/-! ## One way at most -/

/-- A product without repetitions splits each of its texts in one way. -/
theorem eq_of_nodup_product {ws vs : List Text} (h : (product ws vs).Nodup) {w w' v v' : Text}
    (hw : w ∈ ws) (hw' : w' ∈ ws) (hv : v ∈ vs) (hv' : v' ∈ vs) (heq : w ++ v = w' ++ v') :
    w = w' ∧ v = v' := by
  have hapart := (List.nodup_flatMap.1 h).2
  have hsame : w = w' := by
    by_contra hne
    have hsymm : Std.Symm (Function.onFun List.Disjoint fun w => vs.map (w ++ ·)) :=
      ⟨fun _ _ h _ hw hw' => h hw' hw⟩
    exact hapart.forall hw hw' hne (List.mem_map_of_mem hv) (heq ▸ List.mem_map_of_mem hv')
  subst hsame
  exact ⟨rfl, List.append_cancel_left heq⟩

theorem nodup_of_nodup_product {ws vs : List Text} (h : (product ws vs).Nodup) {w v : Text}
    (hw : w ∈ ws) (hv : v ∈ vs) : ws.Nodup ∧ vs.Nodup := by
  obtain ⟨hparts, hapart⟩ := List.nodup_flatMap.1 h
  refine ⟨hapart.imp fun hdisjoint heq => ?_, (hparts w hw).of_map _⟩
  exact hdisjoint (List.mem_map_of_mem hv) (heq ▸ List.mem_map_of_mem hv)

/-- The words that lead from one place to another are one. -/
theorem eq_of_follow? {w v : Text} {p q : Cursor} (hw : Cursor.follow? w p = some q)
    (hv : Cursor.follow? v p = some q) : w = v := by
  have hafter := (Cursor.follow?_eq_some_iff.1 hw).1
  rw [(Cursor.follow?_eq_some_iff.1 hv).1] at hafter
  exact (List.append_cancel_right hafter).symm

theorem Derives.exists_word {e : Expr} (hfinite : e.IsFinite) {d : Choices} {p q : Cursor}
    (h : e.Derives d p q) : ∃ w ∈ e.words, Cursor.follow? w p = some q := by
  have hmem := h.mem_ends
  rw [ends_eq_words hfinite] at hmem
  exact List.mem_filterMap.1 hmem

theorem Derives.not_of_disjoint {a b : Expr} (ha : a.IsFinite) (hb : b.IsFinite)
    (hdisjoint : a.words.Disjoint b.words) {d d' : Choices} {p q : Cursor}
    (h : a.Derives d p q) : ¬ b.Derives d' p q := by
  intro h'
  obtain ⟨w, hw, hpq⟩ := h.exists_word ha
  obtain ⟨v, hv, hpq'⟩ := h'.exists_word hb
  exact hdisjoint hw (eq_of_follow? hpq hpq' ▸ hv)

theorem not_derives_self {a : Expr} (ha : a.IsFinite) (hnil : [] ∉ a.words) {d : Choices}
    {p : Cursor} : ¬ a.Derives d p p := by
  intro h
  obtain ⟨w, hw, hp⟩ := h.exists_word ha
  exact hnil (eq_of_follow? hp (v := []) rfl ▸ hw)

/-- **Different words, one way.** Two derivations between the same places go through the same
word, and where the words of an expression are all different this word tells how they choose. -/
theorem Derives.unique {e : Expr} (hfinite : e.IsFinite) (hnodup : e.words.Nodup)
    {d d' : Choices} {p q : Cursor} (h : e.Derives d p q) (h' : e.Derives d' p q) : d = d' := by
  induction h generalizing d' with
  | empty => cases h'; rfl
  | char => cases h'; rfl
  | set => cases h'; rfl
  | any => cases h'; rfl
  | start => cases h'; rfl
  | finish => cases h'; rfl
  | boundary => cases h'; rfl
  | interior => cases h'; rfl
  | @cat a b _ _ p r q ha hb iha ihb =>
    cases h' with
    | @cat _ _ _ _ _ r' _ ha' hb' =>
      obtain ⟨w, hw, hpr⟩ := ha.exists_word hfinite.1
      obtain ⟨v, hv, hrq⟩ := hb.exists_word hfinite.2
      obtain ⟨w', hw', hpr'⟩ := ha'.exists_word hfinite.1
      obtain ⟨v', hv', hrq'⟩ := hb'.exists_word hfinite.2
      have hwhole : w ++ v = w' ++ v' :=
        eq_of_follow? (p := p) (q := q) (by simp [Cursor.follow?_append, hpr, hrq])
          (by simp [Cursor.follow?_append, hpr', hrq'])
      obtain ⟨rfl, -⟩ := eq_of_nodup_product hnodup hw hw' hv hv' hwhole
      cases hpr.symm.trans hpr'
      obtain ⟨hleft, hright⟩ := nodup_of_nodup_product hnodup hw hv
      rw [iha hfinite.1 hleft ha', ihb hfinite.2 hright hb']
  | altLeft h ih =>
    obtain ⟨hleft, -, hdisjoint⟩ := List.nodup_append'.1 hnodup
    cases h' with
    | altLeft h' => rw [ih hfinite.1 hleft h']
    | altRight h' => exact absurd h' (h.not_of_disjoint hfinite.1 hfinite.2 hdisjoint)
  | altRight h ih =>
    obtain ⟨-, hright, hdisjoint⟩ := List.nodup_append'.1 hnodup
    cases h' with
    | altLeft h' => exact absurd h (h'.not_of_disjoint hfinite.1 hfinite.2 hdisjoint)
    | altRight h' => rw [ih hfinite.2 hright h']
  | group _ ih =>
    cases h' with
    | group h' => exact ih hfinite hnodup h'
  | capture _ ih =>
    cases h' with
    | capture h' => exact ih hfinite hnodup h'
  | @optTaken a _ _ _ h ih =>
    have hbody : a.IsFinite := hfinite
    obtain ⟨htaken, -, hdisjoint⟩ := List.nodup_append'.1 hnodup
    cases h' with
    | optTaken h' => rw [ih hbody htaken h']
    | optSkipped => exact absurd h (not_derives_self hbody fun hnil => hdisjoint hnil (.head _))
  | @optSkipped a _ =>
    have hbody : a.IsFinite := hfinite
    obtain ⟨-, -, hdisjoint⟩ := List.nodup_append'.1 hnodup
    cases h' with
    | optTaken h' => exact absurd h' (not_derives_self hbody fun hnil => hdisjoint hnil (.head _))
    | optSkipped => rfl
  | starTaken => exact hfinite.elim
  | starSkipped => exact hfinite.elim

/-! ## Whole texts -/

/-- The whole text is matched by making these choices. -/
def Parses (e : Expr) (d : Choices) (t : Text) : Prop :=
  ∃ q, e.Derives d (.ofText t) q ∧ q.after = []

theorem matchesFully_iff_parses {e : Expr} {t : Text} :
    e.matchesFully t = true ↔ ∃ d, e.Parses d t := by
  rw [matchesFully_iff]
  constructor
  · rintro ⟨q, hq, hend⟩
    obtain ⟨d, hd⟩ := mem_ends_iff_derives.1 hq
    exact ⟨d, q, hd, hend⟩
  · rintro ⟨d, q, hd, hend⟩
    exact ⟨q, hd.mem_ends, hend⟩

theorem Parses.unique {e : Expr} (hfinite : e.IsFinite) (hnodup : e.words.Nodup) {d d' : Choices}
    {t : Text} (h : e.Parses d t) (h' : e.Parses d' t) : d = d' := by
  obtain ⟨q, hd, hend⟩ := h
  obtain ⟨q', hd', hend'⟩ := h'
  obtain ⟨w, -, hw⟩ := hd.exists_word hfinite
  obtain ⟨w', -, hw'⟩ := hd'.exists_word hfinite
  -- Both ends are behind the whole text, so they are one place.
  have hwhole : ∀ {v : Text} {r : Cursor}, Cursor.follow? v (.ofText t) = some r → r.after = [] →
      v = t := by
    intro v r hv hr
    have hafter := (Cursor.follow?_eq_some_iff.1 hv).1
    rw [hr, List.append_nil] at hafter
    exact hafter.symm
  cases hwhole hw hend
  cases hwhole hw' hend'
  cases hw.symm.trans hw'
  exact hd.unique hfinite hnodup hd'

/-! ## Parts -/

/-- The expression and all that it is put together from. -/
def parts : Expr → List Expr
  | .cat a b => .cat a b :: (a.parts ++ b.parts)
  | .alt a b => .alt a b :: (a.parts ++ b.parts)
  | .group a => .group a :: a.parts
  | .capture name a => .capture name a :: a.parts
  | .opt a => .opt a :: a.parts
  | .star a => .star a :: a.parts
  | e => [e]

/-- The sides of a choice, from left to right. -/
def alternatives : Expr → List Expr
  | .alt a b => a.alternatives ++ b.alternatives
  | e => [e]

def IsSeparated : Expr → Prop
  | .cat a b => a.IsSeparated ∧ b.IsSeparated
  | .alt a b => a.IsSeparated ∧ b.IsSeparated ∧ a.words.Disjoint b.words
  | .group a => a.IsSeparated
  | .capture _ a => a.IsSeparated
  | .opt a => a.IsSeparated ∧ [] ∉ a.words
  | .star a => a.IsSeparated
  | _ => True

/-- What passes from each expression to those it is put together from holds of all parts. -/
theorem forall_mem_parts {P : Expr → Prop} (hcat : ∀ a b, P (.cat a b) → P a ∧ P b)
    (halt : ∀ a b, P (.alt a b) → P a ∧ P b) (hgroup : ∀ a, P (.group a) → P a)
    (hcapture : ∀ name a, P (.capture name a) → P a) (hopt : ∀ a, P (.opt a) → P a)
    (hstar : ∀ a, P (.star a) → P a) {e : Expr} (h : P e) : ∀ a ∈ e.parts, P a := by
  have hsingle : ∀ {e : Expr}, P e → ∀ a ∈ [e], P a :=
    fun h a ha => List.mem_singleton.1 ha ▸ h
  have hbelow : ∀ {e b : Expr}, P e → (∀ a ∈ b.parts, P a) → ∀ a ∈ e :: b.parts, P a :=
    fun h ih a ha => (List.mem_cons.1 ha).elim (fun heq => heq ▸ h) (ih a)
  have hboth : ∀ {e b c : Expr}, P e → (∀ a ∈ b.parts, P a) → (∀ a ∈ c.parts, P a) →
      ∀ a ∈ e :: (b.parts ++ c.parts), P a :=
    fun h ihb ihc a ha => (List.mem_cons.1 ha).elim (fun heq => heq ▸ h) fun ha =>
      (List.mem_append.1 ha).elim (ihb a) (ihc a)
  induction e with
  | empty => exact hsingle h
  | char c => exact hsingle h
  | set negated items => exact hsingle h
  | any => exact hsingle h
  | start => exact hsingle h
  | finish => exact hsingle h
  | boundary => exact hsingle h
  | interior => exact hsingle h
  | cat a b iha ihb => exact hboth h (iha (hcat a b h).1) (ihb (hcat a b h).2)
  | alt a b iha ihb => exact hboth h (iha (halt a b h).1) (ihb (halt a b h).2)
  | group a ih => exact hbelow h (ih (hgroup a h))
  | capture name a ih => exact hbelow h (ih (hcapture name a h))
  | opt a ih => exact hbelow h (ih (hopt a h))
  | star a ih => exact hbelow h (ih (hstar a h))

theorem IsSeparated.of_mem_parts {e : Expr} (h : e.IsSeparated) :
    ∀ a ∈ e.parts, a.IsSeparated :=
  forall_mem_parts (fun _ _ h => h) (fun _ _ h => ⟨h.1, h.2.1⟩) (fun _ h => h) (fun _ _ h => h)
    (fun _ h => h.1) (fun _ h => h) h

theorem IsFinite.of_mem_parts {e : Expr} (h : e.IsFinite) : ∀ a ∈ e.parts, a.IsFinite :=
  forall_mem_parts (fun _ _ h => h) (fun _ _ h => h) (fun _ h => h) (fun _ _ h => h)
    (fun _ h => h) (fun _ h => h.elim) h

theorem IsFinite.of_mem_alternatives {e : Expr} (h : e.IsFinite) :
    ∀ a ∈ e.alternatives, a.IsFinite := by
  induction e with
  | alt a b iha ihb =>
    intro c hc
    exact (List.mem_append.1 hc).elim (iha h.1 c) (ihb h.2 c)
  | _ => exact fun a ha => List.mem_singleton.1 ha ▸ h

theorem words_of_mem_alternatives {e : Expr} :
    ∀ a ∈ e.alternatives, ∀ w ∈ a.words, w ∈ e.words := by
  induction e with
  | alt a b iha ihb =>
    intro c hc w hw
    rcases List.mem_append.1 hc with hc | hc
    · exact List.mem_append_left _ (iha c hc w hw)
    · exact List.mem_append_right _ (ihb c hc w hw)
  | _ => exact fun a ha w hw => List.mem_singleton.1 ha ▸ hw

theorem IsSeparated.pairwise_alternatives {e : Expr} (h : e.IsSeparated) :
    e.alternatives.Pairwise fun a b => a.words.Disjoint b.words := by
  induction e with
  | alt a b iha ihb =>
    obtain ⟨ha, hb, hdisjoint⟩ := h
    refine List.pairwise_append.2 ⟨iha ha, ihb hb, fun c hc c' hc' w hw hw' => ?_⟩
    exact hdisjoint (words_of_mem_alternatives c hc w hw) (words_of_mem_alternatives c' hc' w hw')
  | _ => exact List.pairwise_singleton _ _

end Expr
end Regex
end SuffixPattern
