import SuffixPattern.Regex.Match

/-!
# SuffixPattern.Regex.Search

Whether an expression matches, found without trying every way to match. `Expr.reach` takes a set of
places through an expression at once, and holds every place at most once however often it is
reached. The places are the same as those that backtracking finds (`mem_reach`).
-/

namespace SuffixPattern
namespace Regex

namespace Cursor

/-- All places of a text from the given one on; `rest` is the text after it. -/
def onwards (p : Cursor) : Text → List Cursor
  | [] => [p]
  | c :: rest => p :: onwards (p.past c rest) rest

/-- The places of two lists; those of the first are not repeated. -/
def union (ps qs : List Cursor) : List Cursor :=
  ps ++ qs.filter fun q => q ∉ ps

theorem mem_union {ps qs : List Cursor} {q : Cursor} : q ∈ union ps qs ↔ q ∈ ps ∨ q ∈ qs := by
  by_cases h : q ∈ ps <;> simp [union, h]

/-- The places that are reached by repeating a step, at most `n` times, from the places `fresh`.
Those in `seen` are known already, and only new places are gone on from. -/
def closure (step : List Cursor → List Cursor) : Nat → List Cursor → List Cursor → List Cursor
  | 0, seen, _ => seen
  | n + 1, seen, fresh =>
    match (step fresh).filter fun q => q ∉ seen with
    | [] => seen
    | new => closure step n (seen ++ new) new

/-- How many characters there are at most after one of the places. -/
def farthest (ps : List Cursor) : Nat :=
  (ps.map (·.after.length)).max?.getD 0

end Cursor

namespace Expr

/-- The places where a match that begins at one of the given places can end. -/
def reach : Expr → List Cursor → List Cursor
  | .empty, ps => ps
  | .char c, ps => ps.flatMap fun p => p.eat (· = c)
  | .set negated items, ps =>
    ps.flatMap fun p => p.eat fun c => negated != items.any (·.contains c)
  | .any, ps => ps.flatMap fun p => p.eat (· ≠ '\n')
  | .start, ps => ps.filter fun p => p.before.isEmpty
  | .finish, ps => ps.filter fun p => p.after.isEmpty
  | .boundary, ps => ps.filter fun p => p.atBoundary
  | .interior, ps => ps.filter fun p => !p.atBoundary
  | .cat a b, ps =>
    match a.reach ps with
    | [] => []
    | qs => b.reach qs
  | .alt a b, ps => Cursor.union (a.reach ps) (b.reach ps)
  | .group a, ps => a.reach ps
  | .capture _ a, ps => a.reach ps
  | .opt a, ps => Cursor.union (a.reach ps) ps
  | .star a, ps => Cursor.closure a.reach (Cursor.farthest ps) ps ps

/-- Whether a match that begins at the start of the text can end at its end. -/
def matchesFully (e : Expr) (t : Text) : Bool :=
  (e.reach [.ofText t]).any (·.after.isEmpty)

/-- Whether there is a match anywhere in the text. -/
def occursIn (e : Expr) (t : Text) : Bool :=
  !(e.reach (Cursor.onwards (.ofText t) t)).isEmpty

/-! ## Agreement with backtracking -/

/-- Every match ends where it began or after it. -/
def Forward (p q : Cursor) : Prop := q = p ∨ q.after.length < p.after.length

theorem Forward.trans {p q r : Cursor} (hq : Forward p q) (hr : Forward q r) : Forward p r := by
  rcases hq with rfl | hq
  · exact hr
  · rcases hr with rfl | hr
    · exact .inr hq
    · exact .inr (Nat.lt_trans hr hq)

theorem forward_of_mem_eat {accepts : Char → Bool} {p q : Cursor} (h : q ∈ p.eat accepts) :
    Forward p q := by
  simp only [Cursor.eat] at h
  split at h
  · cases h
  · rename_i c rest hp
    split at h
    · simp only [List.mem_singleton] at h
      exact .inr (by simp [h, Cursor.past, hp])
    · cases h

theorem forward_of_mem_repeated {step : Cursor → List Cursor}
    (hstep : ∀ p q, q ∈ step p → Forward p q) :
    ∀ (n : Nat) (p q : Cursor), q ∈ repeated step n p → Forward p q := by
  intro n
  induction n with
  | zero => intro p q h; simp only [repeated, List.mem_singleton] at h; exact .inl h
  | succ n ih =>
    intro p q h
    simp only [repeated, List.mem_append, List.mem_flatMap, List.mem_filter,
      List.mem_singleton] at h
    rcases h with ⟨r, ⟨hr, _⟩, hq⟩ | rfl
    · exact (hstep p r hr).trans (ih r q hq)
    · exact .inl rfl

theorem forward_of_mem_ends (e : Expr) : ∀ (p q : Cursor), q ∈ e.ends p → Forward p q := by
  have whole : ∀ {b : Bool} {p q : Cursor}, q ∈ (if b then [p] else []) → Forward p q := by
    intro b p q h
    cases b with
    | true => exact .inl (by simpa using h)
    | false => cases h
  induction e with
  | empty => intro p q h; exact .inl (by simpa [ends] using h)
  | char c => intro p q h; exact forward_of_mem_eat h
  | set negated items => intro p q h; exact forward_of_mem_eat h
  | any => intro p q h; exact forward_of_mem_eat h
  | start => intro p q h; exact whole h
  | finish => intro p q h; exact whole h
  | boundary => intro p q h; exact whole h
  | interior =>
    intro p q h
    simp only [ends] at h
    split at h
    · cases h
    · exact .inl (by simpa using h)
  | cat a b iha ihb =>
    intro p q h
    simp only [ends, List.mem_flatMap] at h
    obtain ⟨r, hr, hq⟩ := h
    exact (iha p r hr).trans (ihb r q hq)
  | alt a b iha ihb =>
    intro p q h
    simp only [ends, List.mem_append] at h
    exact h.elim (iha p q) (ihb p q)
  | group a ih => exact ih
  | capture name a ih => exact ih
  | opt a ih =>
    intro p q h
    simp only [ends, List.mem_append, List.mem_singleton] at h
    exact h.elim (ih p q) .inl
  | star a ih => intro p q h; exact forward_of_mem_repeated ih _ p q h

/-- Zero or more steps. -/
inductive Reaches (step : Cursor → List Cursor) : Cursor → Cursor → Prop where
  | refl {p : Cursor} : Reaches step p p
  | step {p r q : Cursor} (hr : r ∈ step p) (hq : Reaches step r q) : Reaches step p q

theorem mem_repeated_iff {step : Cursor → List Cursor}
    (hstep : ∀ p q, q ∈ step p → Forward p q) {n : Nat} {p q : Cursor}
    (hn : p.after.length ≤ n) : q ∈ repeated step n p ↔ Reaches step p q := by
  constructor
  · intro h
    clear hn
    induction n generalizing p with
    | zero => simp only [repeated, List.mem_singleton] at h; subst h; exact .refl
    | succ n ih =>
      simp only [repeated, List.mem_append, List.mem_flatMap, List.mem_filter,
        List.mem_singleton] at h
      rcases h with ⟨r, ⟨hr, _⟩, hq⟩ | rfl
      · exact .step hr (ih hq)
      · exact .refl
  · intro h
    induction h generalizing n with
    | refl => cases n <;> simp [repeated]
    | step hr hq ih =>
      rename_i p r q
      rcases hstep p r hr with rfl | hlt
      · exact ih hn
      · cases n with
        | zero => omega
        | succ n =>
          simp only [repeated, List.mem_append, List.mem_flatMap, List.mem_filter,
            List.mem_singleton]
          exact .inl ⟨r, ⟨hr, by simpa using hlt⟩, ih (by omega)⟩

/-- No step leads out of the places that are known. -/
def IsClosed (step : Cursor → List Cursor) (seen : List Cursor) : Prop :=
  ∀ p ∈ seen, ∀ q ∈ step p, q ∈ seen

theorem Reaches.mem_of_isClosed {step : Cursor → List Cursor} {seen : List Cursor}
    (hclosed : IsClosed step seen) {p q : Cursor} (h : Reaches step p q) (hp : p ∈ seen) :
    q ∈ seen := by
  induction h with
  | refl => exact hp
  | step hr _ ih => exact ih (hclosed _ hp _ hr)

theorem IsClosed.mem_iff {step : Cursor → List Cursor} {seen : List Cursor}
    (hclosed : IsClosed step seen) {q : Cursor} :
    q ∈ seen ↔ ∃ p ∈ seen, Reaches step p q :=
  ⟨fun h => ⟨q, h, .refl⟩, fun ⟨_, hp, h⟩ => h.mem_of_isClosed hclosed hp⟩

/-- Among the places that are known, only the fresh ones can have steps that are not, and `n` rounds
are enough to take these steps: each of them takes in a character. -/
structure IsFrontier (step : Cursor → List Cursor) (n : Nat) (seen fresh : List Cursor) : Prop where
  known : ∀ p ∈ fresh, p ∈ seen
  bound : ∀ p ∈ fresh, p.after.length ≤ n
  taken : ∀ p ∈ seen, p ∉ fresh → ∀ q ∈ step p, q ∈ seen

namespace IsFrontier

variable {step : Cursor → List Cursor} {n : Nat} {seen fresh : List Cursor}

theorem isClosed_of_fresh (h : IsFrontier step n seen fresh)
    (hfresh : ∀ p ∈ fresh, ∀ q ∈ step p, q ∈ seen) : IsClosed step seen := by
  intro p hp
  by_cases hf : p ∈ fresh
  · exact hfresh p hf
  · exact h.taken p hp hf

/-- At the end of the text there is no step but to the place itself. -/
theorem isClosed_of_zero (hstep : ∀ p q, q ∈ step p → Forward p q)
    (h : IsFrontier step 0 seen fresh) : IsClosed step seen := by
  refine h.isClosed_of_fresh fun p hp q hq => ?_
  rcases hstep p q hq with rfl | hlt
  · exact h.known _ hp
  · have hbound := h.bound p hp
    omega

/-- **One round** goes on from the fresh places to those that are new. -/
theorem next (hstep : ∀ p q, q ∈ step p → Forward p q) (h : IsFrontier step (n + 1) seen fresh)
    {new : List Cursor} (hnew : ∀ q, q ∈ new ↔ (∃ p ∈ fresh, q ∈ step p) ∧ q ∉ seen) :
    IsFrontier step n (seen ++ new) new where
  known q hq := List.mem_append.2 (.inr hq)
  bound q hq := by
    obtain ⟨⟨p, hp, hpq⟩, hunseen⟩ := (hnew q).1 hq
    rcases hstep p q hpq with rfl | hlt
    · exact absurd (h.known _ hp) hunseen
    · have hbound := h.bound p hp
      omega
  taken p hp hfresh q hq := by
    have hseen : p ∈ seen := (List.mem_append.1 hp).resolve_right hfresh
    by_cases hunseen : q ∈ seen
    · exact List.mem_append.2 (.inl hunseen)
    · by_cases hf : p ∈ fresh
      · exact List.mem_append.2 (.inr ((hnew q).2 ⟨⟨p, hf, hq⟩, hunseen⟩))
      · exact absurd (h.taken p hseen hf q hq) hunseen

end IsFrontier

theorem mem_closure_iff {step : Cursor → List Cursor} {steps : List Cursor → List Cursor}
    (hsteps : ∀ ps q, q ∈ steps ps ↔ ∃ p ∈ ps, q ∈ step p)
    (hstep : ∀ p q, q ∈ step p → Forward p q) {n : Nat} {seen fresh : List Cursor}
    (h : IsFrontier step n seen fresh) {q : Cursor} :
    q ∈ Cursor.closure steps n seen fresh ↔ ∃ p ∈ seen, Reaches step p q := by
  induction n generalizing seen fresh with
  | zero => exact (h.isClosed_of_zero hstep).mem_iff
  | succ n ih =>
    have hnew : ∀ r, r ∈ (steps fresh).filter (fun q => q ∉ seen) ↔
        (∃ p ∈ fresh, r ∈ step p) ∧ r ∉ seen := by
      intro r
      simp [List.mem_filter, hsteps]
    rw [Cursor.closure]
    split
    · rename_i hnil
      rw [hnil] at hnew
      have hfresh : ∀ p ∈ fresh, ∀ r ∈ step p, r ∈ seen := by
        intro p hp r hr
        refine Decidable.byContradiction fun hunseen => ?_
        exact List.not_mem_nil ((hnew r).2 ⟨⟨p, hp, hr⟩, hunseen⟩)
      exact (h.isClosed_of_fresh hfresh).mem_iff
    · rw [ih (h.next hstep hnew)]
      constructor
      · rintro ⟨p, hp, hq⟩
        rcases List.mem_append.1 hp with hp | hp
        · exact ⟨p, hp, hq⟩
        · obtain ⟨⟨r, hr, hpr⟩, -⟩ := (hnew p).1 hp
          exact ⟨r, h.known r hr, .step hpr hq⟩
      · rintro ⟨p, hp, hq⟩
        exact ⟨p, List.mem_append.2 (.inl hp), hq⟩

theorem length_le_farthest {ps : List Cursor} {p : Cursor} (h : p ∈ ps) :
    p.after.length ≤ Cursor.farthest ps := by
  have hm : p.after.length ∈ ps.map (·.after.length) := List.mem_map.2 ⟨p, h, rfl⟩
  simp only [Cursor.farthest]
  cases hmax : (ps.map (·.after.length)).max? with
  | none => rw [List.max?_eq_none_iff] at hmax; rw [hmax] at hm; cases hm
  | some m => exact (List.max?_eq_some_iff.1 hmax).2 _ hm

/-- The search finds the places that backtracking finds. -/
theorem mem_reach (e : Expr) : ∀ (ps : List Cursor) (q : Cursor),
    q ∈ e.reach ps ↔ ∃ p ∈ ps, q ∈ e.ends p := by
  induction e with
  | empty => intro ps q; simp [reach, ends]
  | char c => intro ps q; simp [reach, ends]
  | set negated items => intro ps q; simp [reach, ends]
  | any => intro ps q; simp [reach, ends]
  | start => intro ps q; simp [reach, ends]
  | finish => intro ps q; simp [reach, ends]
  | boundary => intro ps q; simp [reach, ends]
  | interior => intro ps q; simp [reach, ends]
  | cat a b iha ihb =>
    intro ps q
    have split : q ∈ (Expr.cat a b).reach ps ↔ q ∈ b.reach (a.reach ps) := by
      simp only [reach]
      split
      · rename_i h; rw [h, ihb]; simp
      · rfl
    rw [split, ihb]
    simp only [iha, ends, List.mem_flatMap]
    constructor
    · rintro ⟨r, ⟨p, hp, hr⟩, hq⟩; exact ⟨p, hp, r, hr, hq⟩
    · rintro ⟨p, hp, r, hr, hq⟩; exact ⟨r, ⟨p, hp, hr⟩, hq⟩
  | alt a b iha ihb =>
    intro ps q
    simp only [reach, Cursor.mem_union, iha, ihb, ends, List.mem_append]
    constructor
    · rintro (⟨p, hp, h⟩ | ⟨p, hp, h⟩)
      · exact ⟨p, hp, .inl h⟩
      · exact ⟨p, hp, .inr h⟩
    · rintro ⟨p, hp, h | h⟩
      · exact .inl ⟨p, hp, h⟩
      · exact .inr ⟨p, hp, h⟩
  | group a ih => exact ih
  | capture name a ih => exact ih
  | opt a ih =>
    intro ps q
    simp only [reach, Cursor.mem_union, ih, ends, List.mem_append, List.mem_singleton]
    constructor
    · rintro (⟨p, hp, h⟩ | h)
      · exact ⟨p, hp, .inl h⟩
      · exact ⟨q, h, .inr rfl⟩
    · rintro ⟨p, hp, h | rfl⟩
      · exact .inl ⟨p, hp, h⟩
      · exact .inr hp
  | star a ih =>
    intro ps q
    have forward := forward_of_mem_ends a
    have start : IsFrontier a.ends (Cursor.farthest ps) ps ps :=
      ⟨fun _ hp => hp, fun _ hp => length_le_farthest hp, fun _ hp hnp => absurd hp hnp⟩
    rw [reach, mem_closure_iff ih forward start]
    simp only [ends, mem_repeated_iff forward (Nat.le_refl _)]

end Expr
end Regex
end SuffixPattern
