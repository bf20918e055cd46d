import Mathlib.Data.List.Pairwise
import SuffixPattern.Proofs.FragmentText

/-!
# SuffixPattern.Proofs.CharRuns

The text of a set of characters (`class_names_its_members`): it matches the members one at a time
and is a name of the set. More than one member is written as a class with the maximal runs of
consecutive code points in ascending order.

* `IsMaximalRun cs run`: what a maximal run is, told from the members.
* `mem_runs_iff`: the runs that are collected from the right are the maximal ones. They hold the
  code points of the members (`exists_code_iff`) and there is a gap between one and the next
  (`pairwise_runs`).
-/

namespace SuffixPattern
namespace Regex

/-! ## Maximal runs -/

/-- Every code point from the first to the last is that of a member, and the two beside them are
not. Where the code points of characters have a gap, there is a gap between runs. -/
structure IsMaximalRun (cs : List Char) (run : Char × Char) : Prop where
  le : run.1.toNat ≤ run.2.toNat
  inside : ∀ n, run.1.toNat ≤ n → n ≤ run.2.toNat → ∃ c ∈ cs, c.toNat = n
  before : ∀ c ∈ cs, c.toNat + 1 ≠ run.1.toNat
  after : ∀ c ∈ cs, c.toNat ≠ run.2.toNat + 1

namespace IsMaximalRun

variable {cs : List Char} {a b : Char × Char} {n : Nat}

theorem first_le (ha : IsMaximalRun cs a) (hb : IsMaximalRun cs b) (hlast : n ≤ a.2.toNat)
    (hfirst : b.1.toNat ≤ n) : b.1.toNat ≤ a.1.toNat := by
  by_contra hlt
  obtain ⟨c, hc, hcode⟩ := ha.inside (b.1.toNat - 1) (by omega) (by omega)
  exact hb.before c hc (by omega)

theorem last_le (ha : IsMaximalRun cs a) (hb : IsMaximalRun cs b) (hfirst : a.1.toNat ≤ n)
    (hlast : n ≤ b.2.toNat) : a.2.toNat ≤ b.2.toNat := by
  by_contra hlt
  obtain ⟨c, hc, hcode⟩ := ha.inside (b.2.toNat + 1) (by omega) (by omega)
  exact hb.after c hc hcode

/-- No code point is in two maximal runs. -/
theorem eq_of_overlap (ha : IsMaximalRun cs a) (hb : IsMaximalRun cs b)
    (ha₁ : a.1.toNat ≤ n) (ha₂ : n ≤ a.2.toNat) (hb₁ : b.1.toNat ≤ n) (hb₂ : n ≤ b.2.toNat) :
    a = b := by
  have hfirst : a.1.toNat = b.1.toNat :=
    Nat.le_antisymm (hb.first_le ha hb₂ ha₁) (ha.first_le hb ha₂ hb₁)
  have hlast : a.2.toNat = b.2.toNat :=
    Nat.le_antisymm (ha.last_le hb ha₁ hb₂) (hb.last_le ha hb₁ ha₂)
  exact Prod.ext (Char.toNat_inj.1 hfirst) (Char.toNat_inj.1 hlast)

end IsMaximalRun

theorem exists_code_iff {l : List Char} {n : Nat} :
    (∃ run ∈ runs l, run.1.toNat ≤ n ∧ n ≤ run.2.toNat) ↔ ∃ c ∈ l, c.toNat = n := by
  induction l with
  | nil => simp [runs]
  | cons c rest ih =>
    rw [List.exists_mem_cons_iff, ← ih, runs]
    cases hrest : runs rest with
    | nil =>
      simp only [List.exists_mem_cons_iff, List.not_mem_nil, false_and, exists_false, or_false]
      omega
    | cons run more =>
      obtain ⟨first, last⟩ := run
      have hle : first.toNat ≤ last.toNat := le_of_runs_eq_cons hrest
      simp only
      split
      · simp only [List.exists_mem_cons_iff, ← or_assoc]
        refine or_congr_left ?_
        omega
      · simp only [List.exists_mem_cons_iff]
        refine or_congr_left ?_
        omega

/-- What comes after all members comes after all runs. -/
theorem lt_of_mem_runs {l : List Char} {n : Nat} (h : ∀ c ∈ l, n < c.toNat) :
    ∀ run ∈ runs l, n < run.1.toNat := by
  intro run hrun
  obtain ⟨c, hc, heq⟩ := exists_code_iff.1 ⟨run, hrun, Nat.le_refl _, le_of_mem_runs run hrun⟩
  exact heq ▸ h c hc

theorem pairwise_runs {l : List Char} (h : l.Pairwise fun c d => c.toNat < d.toNat) :
    (runs l).Pairwise fun a b => a.2.toNat + 1 < b.1.toNat := by
  induction l with
  | nil => exact .nil
  | cons c rest ih =>
    obtain ⟨hc, hrest⟩ := List.pairwise_cons.1 h
    have hafter := lt_of_mem_runs hc
    have ih := ih hrest
    rw [runs]
    split
    · exact List.pairwise_singleton _ _
    · rename_i first last more hruns
      rw [hruns] at ih hafter
      split
      · exact List.pairwise_cons.2 (List.pairwise_cons.1 ih)
      · rename_i hgap
        refine .cons (fun run hrun => ?_) ih
        have hfirst : c.toNat < first.toNat := hafter _ (.head _)
        rcases List.mem_cons.1 hrun with rfl | hrun
        · simp only
          omega
        · have hle : first.toNat ≤ last.toNat := le_of_runs_eq_cons hruns
          have hmore : last.toNat + 1 < run.1.toNat := (List.pairwise_cons.1 ih).1 run hrun
          simp only
          omega

/-- Of two runs one is before the other, or they are the same. -/
theorem apart_of_mem_runs {l : List Char} (h : l.Pairwise fun c d => c.toNat < d.toNat)
    {a b : Char × Char} (ha : a ∈ runs l) (hb : b ∈ runs l) :
    a = b ∨ a.2.toNat + 1 < b.1.toNat ∨ b.2.toNat + 1 < a.1.toNat := by
  let Apart := fun a b : Char × Char =>
    a = b ∨ a.2.toNat + 1 < b.1.toNat ∨ b.2.toNat + 1 < a.1.toNat
  have hsymm : Std.Symm Apart := ⟨fun a b hab => hab.imp Eq.symm Or.symm⟩
  have hapart : (runs l).Pairwise Apart := (pairwise_runs h).imp fun hab => .inr (.inl hab)
  exact hapart.forall_of_forall (fun _ _ => .inl rfl) ha hb

theorem isMaximalRun_of_mem_runs {l : List Char} (h : l.Pairwise fun c d => c.toNat < d.toNat)
    {run : Char × Char} (hrun : run ∈ runs l) : IsMaximalRun l run := by
  -- A member beside the run would be in a run that is apart from this one.
  have hbeside : ∀ c ∈ l, c.toNat + 1 = run.1.toNat ∨ c.toNat = run.2.toNat + 1 → False := by
    intro c hc hcode
    obtain ⟨other, hother, hfirst, hlast⟩ := exists_code_iff.2 ⟨c, hc, rfl⟩
    have hle := le_of_mem_runs run hrun
    rcases apart_of_mem_runs h hrun hother with rfl | hapart
    · omega
    · omega
  exact ⟨le_of_mem_runs run hrun,
    fun n hfirst hlast => exists_code_iff.1 ⟨run, hrun, hfirst, hlast⟩,
    fun c hc hcode => hbeside c hc (.inl hcode), fun c hc hcode => hbeside c hc (.inr hcode)⟩

/-- **The runs of an ascending list are the maximal ones.** -/
theorem mem_runs_iff {l : List Char} (h : l.Pairwise fun c d => c.toNat < d.toNat)
    {run : Char × Char} : run ∈ runs l ↔ IsMaximalRun l run := by
  constructor
  · exact isMaximalRun_of_mem_runs h
  · intro hmax
    obtain ⟨own, hown, hfirst, hlast⟩ :=
      exists_code_iff.2 (hmax.inside run.1.toNat (Nat.le_refl _) hmax.le)
    have heq : own = run :=
      (isMaximalRun_of_mem_runs h hown).eq_of_overlap hmax hfirst hlast (Nat.le_refl _) hmax.le
    exact heq ▸ hown

/-! ## Written runs -/

/-- One or two characters are written out, more are written as a range. -/
def writtenRun (run : Char × Char) : Text :=
  if run.1 = run.2 then classMember run.1
  else if run.2.toNat = run.1.toNat + 1 then classMember run.1 ++ classMember run.2
  else classMember run.1 ++ '-' :: classMember run.2

theorem print_ofRun {run : Char × Char} (hle : run.1.toNat ≤ run.2.toNat) :
    (ClassItem.ofRun run).flatMap ClassItem.print = writtenRun run := by
  obtain ⟨first, last⟩ := run
  simp only at hle
  unfold ClassItem.ofRun writtenRun
  simp only
  split
  · rename_i h
    have heq : first = last := Char.toNat_inj.1 (by omega)
    simp [heq, ClassItem.print]
  · rename_i h
    have hne : first ≠ last := by
      rintro rfl
      omega
    have hnext : last.toNat = first.toNat + 1 := by omega
    simp [hne, hnext, ClassItem.print]
  · rename_i hone htwo
    have hne : first ≠ last := by
      rintro rfl
      exact hone (Nat.sub_self _)
    have hfar : last.toNat ≠ first.toNat + 1 := by
      intro hnext
      exact htwo (by omega)
    simp [hne, hfar, ClassItem.print]

/-! ## Sets of characters -/

theorem IsMaximalRun.of_same_members {cs ds : List Char} (h : ∀ c, c ∈ cs ↔ c ∈ ds)
    {run : Char × Char} (hrun : IsMaximalRun cs run) : IsMaximalRun ds run where
  le := hrun.le
  inside n hfirst hlast := by
    obtain ⟨c, hc, hcode⟩ := hrun.inside n hfirst hlast
    exact ⟨c, (h c).1 hc, hcode⟩
  before c hc := hrun.before c ((h c).2 hc)
  after c hc := hrun.after c ((h c).2 hc)

namespace Expr

variable {cs ds : List Char}

theorem ofChars_eq_of_same_members (h : ∀ c, c ∈ cs ↔ c ∈ ds) : ofChars cs = ofChars ds := by
  have hset : SortedSet.ofList cs = SortedSet.ofList ds :=
    SortedSet.ext fun c => by rw [SortedSet.mem_ofList, SortedSet.mem_ofList, h]
  rw [ofChars, ofChars, hset]

theorem matchesFully_ofChars {s : Text} :
    (ofChars cs).matchesFully s = true ↔ ∃ c ∈ cs, s = [c] := by
  rw [matchesFully_iff_mem_words (isFinite_ofChars cs), words_ofChars]
  simp only [List.mem_map, SortedSet.mem_toList_ofList, eq_comm]

theorem matchesFully_ofChars_singleton {c : Char} :
    (ofChars cs).matchesFully [c] = true ↔ c ∈ cs := by
  rw [matchesFully_ofChars]
  simp

theorem read?_ofChars (hne : cs ≠ []) : Expr.read? (ofChars cs).print = some (ofChars cs) := by
  have hsound : (Fragment.atom (ofChars cs)).IsSound :=
    Fragment.isSound_atom (isPlain_ofChars hne) (not_isRepetition_ofChars cs)
  exact Fragment.read?_text hsound

/-- More than one character is written as the class of its maximal runs. -/
theorem ofChars_eq_set {c d : Char} (hc : c ∈ cs) (hd : d ∈ cs) (hne : c ≠ d) :
    ∃ rs : List (Char × Char), (∀ run, run ∈ rs ↔ IsMaximalRun cs run) ∧
      (rs.Pairwise fun a b => a.2.toNat < b.1.toNat) ∧
      ofChars cs = .set false (rs.flatMap ClassItem.ofRun) := by
  have hmem : ∀ c, c ∈ (SortedSet.ofList cs).toList ↔ c ∈ cs :=
    fun c => SortedSet.mem_toList_ofList
  have hascending : (SortedSet.ofList cs).toList.Pairwise fun c d => c.toNat < d.toNat :=
    (SortedSet.ofList cs).ascending.imp of_decide_eq_true
  refine ⟨runs (SortedSet.ofList cs).toList, fun run => ?_, ?_, ?_⟩
  · rw [mem_runs_iff hascending]
    exact ⟨.of_same_members hmem, .of_same_members fun c => (hmem c).symm⟩
  · exact (pairwise_runs hascending).imp fun hab => by omega
  · rcases ofChars_cases cs with ⟨only, honly, -⟩ | h
    · rw [← hmem, honly, List.mem_singleton] at hc hd
      exact absurd (hc.trans hd.symm) hne
    · exact h

theorem print_set_runs {rs : List (Char × Char)} (h : ∀ run ∈ rs, run.1.toNat ≤ run.2.toNat) :
    (set false (rs.flatMap ClassItem.ofRun)).print = '[' :: rs.flatMap writtenRun ++ [']'] := by
  rw [print, List.flatMap_assoc, List.flatMap_congr fun run hrun => print_ofRun (h run hrun)]
  rfl

/-- **The text of a set of characters** matches its members one at a time. A single member is
written as such, several are written as a class: its items are the maximal runs of consecutive code
points in ascending order. Another list of characters has the same text if it has the same members,
and only then. -/
theorem class_names_its_members (hne : cs ≠ []) :
    (∃ e, Expr.read? (ofChars cs).print = some e ∧
      ∀ s, e.matchesFully s = true ↔ ∃ c ∈ cs, s = [c]) ∧
    (∀ c ∈ cs, (∀ d ∈ cs, d = c) → (ofChars cs).print = literal c) ∧
    (∀ c ∈ cs, ∀ d ∈ cs, c ≠ d →
      ∃ rs : List (Char × Char), (∀ run, run ∈ rs ↔ IsMaximalRun cs run) ∧
        (rs.Pairwise fun a b => a.2.toNat < b.1.toNat) ∧
        (ofChars cs).print = '[' :: rs.flatMap writtenRun ++ [']'] ∧
        Expr.read? (ofChars cs).print = some (.set false (rs.flatMap ClassItem.ofRun))) ∧
    ∀ ds, ds ≠ [] → ((ofChars cs).print = (ofChars ds).print ↔ ∀ c, c ∈ cs ↔ c ∈ ds) := by
  refine ⟨⟨ofChars cs, read?_ofChars hne, fun s => matchesFully_ofChars⟩, ?_, ?_, ?_⟩
  · intro c hc hall
    have hsingle : ofChars cs = ofChars [c] := by
      refine ofChars_eq_of_same_members fun d => ?_
      rw [List.mem_singleton]
      exact ⟨hall d, fun h => h ▸ hc⟩
    rw [hsingle]
    rfl
  · intro c hc d hd hdistinct
    obtain ⟨rs, hmax, hascending, hset⟩ := ofChars_eq_set hc hd hdistinct
    refine ⟨rs, hmax, hascending, ?_, hset ▸ read?_ofChars hne⟩
    rw [hset, print_set_runs fun run hrun => ((hmax run).1 hrun).le]
  · intro ds hne'
    constructor
    · intro h c
      have hread := read?_ofChars hne
      rw [h, read?_ofChars hne', Option.some.injEq] at hread
      rw [← matchesFully_ofChars_singleton, ← hread, matchesFully_ofChars_singleton]
    · intro h
      rw [ofChars_eq_of_same_members h]

/-- The last code point before the surrogates and the first behind them, what is escaped in a class,
and letters. -/
def scatteredChars : List Char :=
  ['\uE000', '\uD7FF', 'c', 'a', 'b', '_', '^', ']', '\\', 'a', '\t']

theorem class_names_its_members_scattered :
    scatteredChars ≠ [] ∧
      ∃ e, Expr.read? "[\\x\x7b9\x7d\\\\-_a-c\uD7FF\uE000]".toList = some e ∧
        ∀ s, e.matchesFully s = true ↔ ∃ c ∈ scatteredChars, s = [c] := by
  have hne : scatteredChars ≠ [] := by decide
  have htext : (ofChars scatteredChars).print =
      "[\\x\x7b9\x7d\\\\-_a-c\uD7FF\uE000]".toList := by decide
  exact ⟨hne, htext ▸ (class_names_its_members hne).1⟩

end Expr
end Regex
end SuffixPattern
