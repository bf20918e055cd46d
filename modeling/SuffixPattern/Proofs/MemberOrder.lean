import SuffixPattern.Ranked
import SuffixPattern.Text

/-!
# SuffixPattern.Proofs.MemberOrder

The order in which the members of a set are tried when the trie is laid from the end, told from the
set alone. Members are given in the order of the trie, so that they are compared from their last
characters on.

* `after W c`: what goes on behind the character `c` in the words of `W`.
* `Joined W c d`: words with `c` and words with `d` are one branch.
* `Ahead W c d`: the branch of `c` is tried before that of `d`.
* `TriedBefore W v w`: `v` is tried before `w`. No two words are tried before each other (`asymm`).
-/

namespace SuffixPattern

open Ranked (before)

def after (W : Text → Prop) (c : Char) : Text → Prop := fun w => W (c :: w)

/-- A word ends here, or two words part. -/
def IsStop (W : Text → Prop) : Prop :=
  W [] ∨ ∃ c d, c ≠ d ∧ (∃ v, W (c :: v)) ∧ ∃ v, W (d :: v)

/-- Characters share a branch if the same goes on behind them, beginning with a stop. -/
def Joined (W : Text → Prop) (c d : Char) : Prop :=
  c = d ∨ IsStop (after W c) ∧ after W c = after W d

/-- Some word with `c` is longer than all words with `d`. -/
def Longer (W : Text → Prop) (c d : Char) : Prop :=
  ∃ v, W (c :: v) ∧ ∀ w, W (d :: w) → w.length < v.length

/-- The branch with the longest word comes first. Between branches that are alike in this the lowest
character decides. -/
def Ahead (W : Text → Prop) (c d : Char) : Prop :=
  Longer W c d ∨
    ¬ Longer W d c ∧ ∃ c', Joined W c c' ∧ ∀ d', Joined W d d' → before c' d' = true

inductive TriedBefore : (Text → Prop) → Text → Text → Prop where
  | longer {W : Text → Prop} {c : Char} {v : Text} : TriedBefore W (c :: v) []
  | within {W : Text → Prop} {c d : Char} {v w : Text} (hjoined : Joined W c d)
      (h : TriedBefore (after W c) v w) : TriedBefore W (c :: v) (d :: w)
  | member {W : Text → Prop} {c d : Char} {v : Text} (hjoined : Joined W c d)
      (h : before c d = true) : TriedBefore W (c :: v) (d :: v)
  | across {W : Text → Prop} {c d : Char} {v w : Text} (hjoined : ¬ Joined W c d)
      (h : Ahead W c d) : TriedBefore W (c :: v) (d :: w)

/-! ## Branches -/

namespace Joined

variable {W : Text → Prop} {c d e : Char}

theorem refl (W : Text → Prop) (c : Char) : Joined W c c := .inl rfl

theorem after_eq (h : Joined W c d) : after W c = after W d := by
  rcases h with rfl | ⟨-, h⟩
  · rfl
  · exact h

theorem symm (h : Joined W c d) : Joined W d c := by
  rcases h with rfl | ⟨hstop, h⟩
  · exact .inl rfl
  · exact .inr ⟨h ▸ hstop, h.symm⟩

end Joined

theorem Longer.asymm {W : Text → Prop} {c d : Char} (h : Longer W c d) : ¬ Longer W d c := by
  rintro ⟨w, hw, hlonger⟩
  obtain ⟨v, hv, hlonger'⟩ := h
  have h₁ := hlonger v hv
  have h₂ := hlonger' w hw
  omega

theorem Ahead.asymm {W : Text → Prop} {c d : Char} (h : Ahead W c d) : ¬ Ahead W d c := by
  intro h'
  rcases h with h | ⟨hlonger, c', hc, hfirst⟩
  · rcases h' with h' | ⟨hlonger, -⟩
    · exact h.asymm h'
    · exact hlonger h
  · rcases h' with h' | ⟨-, d', hd, hfirst'⟩
    · exact hlonger h'
    · have hbefore := Ranked.asymm (hfirst d' hd)
      rw [hfirst' c' hc] at hbefore
      cases hbefore

/-! ## Words -/

namespace TriedBefore

theorem irrefl {W : Text → Prop} {v : Text} : ¬ TriedBefore W v v := by
  induction v generalizing W with
  | nil => exact nofun
  | cons c v ih =>
    intro h
    cases h with
    | within _ h => exact ih h
    | member _ h => exact Ranked.ne_of_before h rfl
    | across hjoined _ => exact hjoined (Joined.refl W c)

theorem asymm {W : Text → Prop} {v w : Text} (h : TriedBefore W v w) : ¬ TriedBefore W w v := by
  induction h with
  | longer => exact nofun
  | within hjoined h ih =>
    intro h'
    cases h' with
    | within _ h' => exact ih (hjoined.after_eq ▸ h')
    | member => exact irrefl h
    | across hapart _ => exact hapart hjoined.symm
  | member hjoined h =>
    intro h'
    cases h' with
    | within _ h' => exact irrefl h'
    | member _ h' =>
      rw [Ranked.asymm h] at h'
      cases h'
    | across hapart _ => exact hapart hjoined.symm
  | across hapart h =>
    intro h'
    cases h' with
    | within hjoined _ => exact hapart hjoined.symm
    | member hjoined _ => exact hapart hjoined.symm
    | across _ h' => exact h.asymm h'

end TriedBefore
end SuffixPattern
