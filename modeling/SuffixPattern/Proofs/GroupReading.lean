import Mathlib.Tactic.SplitIfs
import SuffixPattern.Proofs.Reading

/-!
# SuffixPattern.Proofs.GroupReading

A text that can be read by itself is read to the same expression between the parentheses of a group
(`read?_anchored`). It need not be the text that the expression is printed as.

* `scans_of_scan`: the symbols of a text do not depend on what follows it.
* `Reader.within`: the reader that goes through the same states inside an open group.
* `bottom_of_step`: the reader of the text never closes what it did not open.
-/

namespace SuffixPattern
namespace Regex

/-! ## Symbols -/

theorem scan_append {m : Scan} {t : Text} {ss : List Symbol} (h : scan m t = some ss) (u : Text) :
    scan m (t ++ u) = (scan .between u).map (ss ++ ·) := by
  induction t generalizing m ss with
  | nil =>
    cases m with
    | between =>
      cases h
      simp
    | escape => cases h
    | code => cases h
    | digits value => cases h
  | cons c t ih =>
    have hrest : ∀ {s : Symbol} {ss : List Symbol}, (scan .between t).map (s :: ·) = some ss →
        (scan .between (t ++ u)).map (s :: ·) = (scan .between u).map (ss ++ ·) := by
      intro s ss h
      obtain ⟨rest, hscan, rfl⟩ := Option.map_eq_some_iff.1 h
      rw [ih hscan, Option.map_map]
      rfl
    rw [List.cons_append]
    cases m with
    | between =>
      rw [scan] at h ⊢
      split_ifs at h ⊢
      · exact ih h
      · exact hrest h
    | escape =>
      rw [scan] at h ⊢
      split_ifs at h ⊢
      · exact ih h
      · obtain ⟨s, hs, h⟩ := Option.bind_eq_some_iff.1 h
        rw [hs]
        exact hrest h
    | code =>
      rw [scan] at h ⊢
      split_ifs at h ⊢
      exact ih h
    | digits value =>
      rw [scan] at h ⊢
      split_ifs at h ⊢
      · obtain ⟨d, hd, h⟩ := Option.bind_eq_some_iff.1 h
        rw [hd]
        exact hrest h
      · obtain ⟨d, hd, h⟩ := Option.bind_eq_some_iff.1 h
        rw [hd]
        exact ih h

theorem scans_of_scan {t : Text} {ss : List Symbol} (h : scan .between t = some ss) : Scans t ss :=
  scan_append h

/-! ## Open groups -/

/-- What stands for the whole of a text stands for the group if the text is inside one. -/
def Opening.inner : Opening → Opening
  | .whole => .group
  | opening => opening

def Frame.inner (f : Frame) : Frame := { f with opening := f.opening.inner }

namespace Reader

/-- The reader inside an open group that has these frames around it. -/
def within (around : List Frame) (r : Reader) : Reader :=
  ⟨r.top.inner, r.outer.map Frame.inner ++ around, r.mode⟩

variable {around : List Frame} {r r' : Reader} {s : Symbol}

theorem push_within (e : Expr) : (r.within around).push e = (r.push e).within around := rfl

theorem classStep_within (negated : Bool) (soFar : List ClassItem) :
    (r.within around).classStep negated soFar s =
      (r.classStep negated soFar s).map (within around) := by
  unfold classStep
  split
  · rfl
  · split_ifs <;> rfl
  · cases soFar with
    | nil => rfl
    | cons item before => cases item <;> rfl
  · split_ifs <;> rfl
  · rfl

theorem rangeStep_within (negated : Bool) (soFar : List ClassItem) (first last : Char) :
    (r.within around).rangeStep negated soFar first last =
      (r.rangeStep negated soFar first last).map (within around) := by
  unfold rangeStep
  split_ifs <;> rfl

theorem quantify?_inner (repetition : Expr → Expr) (f : Frame) :
    f.inner.quantify? repetition = (f.quantify? repetition).map Frame.inner := by
  obtain ⟨opening, alternatives, items⟩ := f
  cases items with
  | nil => rfl
  | cons e rest => cases e <;> rfl

theorem close?_within (h : r.close? = some r') :
    (r.within around).close? = some (r'.within around) := by
  obtain ⟨⟨opening, alternatives, items⟩, outer, mode⟩ := r
  cases outer with
  | nil => cases h
  | cons f outer =>
    cases opening with
    | whole => cases h
    | group =>
      cases h
      rfl
    | capture name =>
      cases h
      rfl

theorem bodyStep_within (h : r.bodyStep s = some r') :
    (r.within around).bodyStep s = some (r'.within around) := by
  have hrepeat : ∀ {repetition : Expr → Expr},
      (r.top.quantify? repetition).map (fun f => { r with top := f }) = some r' →
      ((r.within around).top.quantify? repetition).map
        (fun f => { r.within around with top := f }) = some (r'.within around) := by
    intro repetition h
    obtain ⟨f, hf, rfl⟩ := Option.map_eq_some_iff.1 h
    have htop : (r.within around).top = r.top.inner := rfl
    rw [htop, quantify?_inner, hf]
    rfl
  unfold bodyStep at h ⊢
  split at h
  case h_5 => exact close?_within h
  case h_8 => exact hrepeat h
  case h_9 => exact hrepeat h
  case h_13 =>
    split_ifs at h with hmem
    cases h
    split <;> simp_all [push_within]
  all_goals
    cases h
    rfl

theorem step_within (h : r.step s = some r') :
    (r.within around).step s = some (r'.within around) := by
  have hmode : (r.within around).mode = r.mode := rfl
  have hclass : ∀ {negated : Bool} {soFar : List ClassItem}, r.classStep negated soFar s = some r' →
      (r.within around).classStep negated soFar s = some (r'.within around) := by
    intro negated soFar h
    rw [classStep_within, h]
    rfl
  have hrange : ∀ {negated : Bool} {soFar : List ClassItem} {first last : Char},
      r.rangeStep negated soFar first last = some r' →
      (r.within around).rangeStep negated soFar first last = some (r'.within around) := by
    intro negated soFar first last h
    rw [rangeStep_within, h]
    rfl
  unfold step at h ⊢
  rw [hmode]
  cases hr : r.mode with
  | body =>
    rw [hr] at h
    exact bodyStep_within h
  | opened =>
    rw [hr] at h
    simp only at h ⊢
    split_ifs at h ⊢
    cases h
    rfl
  | opening =>
    rw [hr] at h
    simp only at h ⊢
    split_ifs at h ⊢ <;> cases h <;> rfl
  | name soFar =>
    rw [hr] at h
    cases s with
    | plain c =>
      simp only at h ⊢
      split_ifs at h ⊢ <;> cases h <;> rfl
    | escaped c => cases h
    | boundary => cases h
    | interior => cases h
  | bracket =>
    rw [hr] at h
    simp only at h ⊢
    split_ifs at h ⊢
    · cases h
      rfl
    · exact hclass h
  | items negated soFar =>
    rw [hr] at h
    exact hclass h
  | range negated soFar first =>
    rw [hr] at h
    cases s with
    | plain c =>
      simp only at h ⊢
      split_ifs at h ⊢
      exact hrange h
    | escaped c => exact hrange h
    | boundary => cases h
    | interior => cases h

/-! ## Groups that are left open -/

/-- What the outermost frame will be closed as. -/
def bottom (r : Reader) : Opening := (r.outer.getLast?.getD r.top).opening

theorem bottom_eq {f : Frame} {mode : Mode} (h : f.opening = r.top.opening) :
    bottom ⟨f, r.outer, mode⟩ = r.bottom := by
  unfold bottom
  cases r.outer.getLast? with
  | none => exact h
  | some g => rfl

theorem bottom_openGroup (opening : Opening) : (r.openGroup opening).bottom = r.bottom := by
  simp [bottom, openGroup, List.getLast?_cons]

theorem bottom_of_close? (h : r.close? = some r') : r'.bottom = r.bottom := by
  obtain ⟨⟨opening, alternatives, items⟩, outer, mode⟩ := r
  cases outer with
  | nil => cases h
  | cons f outer =>
    have hbottom : bottom ⟨⟨opening, alternatives, items⟩, f :: outer, mode⟩ =
        bottom ⟨f, outer, mode⟩ := by
      simp [bottom, List.getLast?_cons]
    rw [hbottom]
    cases opening with
    | whole => cases h
    | group =>
      cases h
      exact bottom_eq (r := ⟨f, outer, mode⟩) rfl
    | capture name =>
      cases h
      exact bottom_eq (r := ⟨f, outer, mode⟩) rfl

theorem bottom_of_quantify? {repetition : Expr → Expr}
    (h : (r.top.quantify? repetition).map (fun f => { r with top := f }) = some r') :
    r'.bottom = r.bottom := by
  obtain ⟨f, hf, rfl⟩ := Option.map_eq_some_iff.1 h
  refine bottom_eq ?_
  unfold Frame.quantify? at hf
  split at hf <;> cases hf
  rfl

theorem bottom_of_classStep {negated : Bool} {soFar : List ClassItem}
    (h : r.classStep negated soFar s = some r') : r'.bottom = r.bottom := by
  unfold classStep at h
  split at h
  · cases h
    exact bottom_eq rfl
  · split_ifs at h
    cases h
    exact bottom_eq rfl
  · split at h <;> cases h
    exact bottom_eq rfl
  · split_ifs at h
    cases h
    exact bottom_eq rfl
  · cases h

/-- **A step leaves the outermost frame what it is.** -/
theorem bottom_of_step (h : r.step s = some r') : r'.bottom = r.bottom := by
  unfold step at h
  split at h
  · unfold bodyStep at h
    split at h
    case h_5 => exact bottom_of_close? h
    case h_8 => exact bottom_of_quantify? h
    case h_9 => exact bottom_of_quantify? h
    case h_13 =>
      split_ifs at h
      cases h
      exact bottom_eq rfl
    all_goals
      cases h
      exact bottom_eq rfl
  · split_ifs at h
    cases h
    exact bottom_eq rfl
  · split_ifs at h <;> cases h
    · exact bottom_openGroup _
    · exact bottom_eq rfl
  · split at h
    · split_ifs at h <;> cases h
      · exact bottom_eq rfl
      · exact bottom_openGroup _
    · cases h
  · split_ifs at h
    · cases h
      exact bottom_eq rfl
    · exact bottom_of_classStep h
  · exact bottom_of_classStep h
  · have hrange : ∀ {negated : Bool} {soFar : List ClassItem} {first last : Char},
        r.rangeStep negated soFar first last = some r' → r'.bottom = r.bottom := by
      intro negated soFar first last h
      unfold rangeStep at h
      split_ifs at h
      cases h
      exact bottom_eq rfl
    split at h
    · exact hrange h
    · split_ifs at h
      exact hrange h
    · cases h

/-- Symbols that are read alone are read inside a group, where they leave the same behind. -/
theorem reads_within {ss : List Symbol} (h : Reads ss r r') (around : List Frame) :
    Reads ss (r.within around) (r'.within around) ∧ r'.bottom = r.bottom := by
  induction ss generalizing r with
  | nil =>
    cases h
    exact ⟨.nil _, rfl⟩
  | cons s ss ih =>
    obtain ⟨r₁, hstep, hrest⟩ := Option.bind_eq_some_iff.1 h
    obtain ⟨hread, hbottom⟩ := ih hrest
    exact ⟨.cons (step_within hstep) hread, hbottom.trans (bottom_of_step hstep)⟩

theorem finish?_eq_some_iff {r : Reader} {e : Expr} :
    r.finish? = some e ↔ r.mode = .body ∧ r.outer = [] ∧ r.top.body = e := by
  obtain ⟨top, outer, mode⟩ := r
  cases mode <;> cases outer <;> simp [finish?]

end Reader

/-! ## The whole of a text -/

theorem read?_eq_some_iff {t : Text} {e : Expr} :
    Expr.read? t = some e ↔ ∃ ss r, scan .between t = some ss ∧ Reads ss .start r ∧
      r.finish? = some e ∧ e.names.Nodup := by
  constructor
  · intro h
    obtain ⟨ss, hscan, h⟩ := Option.bind_eq_some_iff.1 h
    obtain ⟨r, hread, h⟩ := Option.bind_eq_some_iff.1 h
    obtain ⟨e', hfinish, h⟩ := Option.bind_eq_some_iff.1 h
    split_ifs at h with hnodup
    cases h
    exact ⟨ss, r, hscan, hread, hfinish, hnodup⟩
  · rintro ⟨ss, r, hscan, hread, hfinish, hnodup⟩
    have hfold : ss.foldlM Reader.step .start = some r := hread
    simp [Expr.read?, hscan, hfold, hfinish, hnodup]

/-- Matches where the expression matches from the beginning of a text to its end. -/
def Expr.anchored (e : Expr) : Expr := .cat .start (.cat (.group e) .finish)

/-- **What can be read can be read in a group**, between the two anchors. -/
theorem read?_anchored {t : Text} {e : Expr} (h : Expr.read? t = some e) :
    Expr.read? (['^', '(', '?', ':'] ++ t ++ [')', '$']) = some e.anchored := by
  obtain ⟨ss, r, hscan, hread, hfinish, hnodup⟩ := read?_eq_some_iff.1 h
  obtain ⟨hmode, houter, hbody⟩ := Reader.finish?_eq_some_iff.1 hfinish
  have hsymbols : scan .between (['^', '(', '?', ':'] ++ t ++ [')', '$']) =
      some ([.plain '^', .plain '(', .plain '?', .plain ':'] ++ ss ++
        [.plain ')', .plain '$']) := by
    have hopen : Scans ['^', '(', '?', ':'] [.plain '^', .plain '(', .plain '?', .plain ':'] :=
      .map_plain (by decide)
    rw [(hopen.append (scans_of_scan hscan)) [')', '$']]
    rfl
  -- The frame around the group holds what was read before it.
  let outside : Frame := ⟨.whole, [], [.start]⟩
  have hopen : Reads [.plain '^', .plain '(', .plain '?', .plain ':'] .start
      (Reader.start.within [outside]) :=
    .cons rfl (.cons rfl (.cons rfl (.single rfl)))
  obtain ⟨hinside, hbottom⟩ := Reader.reads_within hread [outside]
  have hclose : (r.within [outside]).step (.plain ')') =
      some ⟨outside.push (.group e), [], .body⟩ := by
    obtain ⟨⟨opening, alternatives, items⟩, outer, mode⟩ := r
    obtain rfl : mode = .body := hmode
    obtain rfl : outer = [] := houter
    obtain rfl : opening = .whole := hbottom
    subst hbody
    rfl
  have hnames : e.anchored.names = e.names := by simp [Expr.anchored, Expr.names]
  exact read?_eq_some_iff.2 ⟨_, _, hsymbols,
    (hopen.append hinside).append (.cons hclose (.single rfl)), rfl, hnames ▸ hnodup⟩

end Regex
end SuffixPattern
