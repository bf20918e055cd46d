import SuffixPattern.CommandLine.Run

/-!
# SuffixPattern.Proofs.HostRuns

Runs on a host with a state, whatever the state is. A host is known by what its operations do to the
files (`Host.Behaves`): a file is written as a whole or not at all, and no other operation does
anything to files. Making the directories above a file is no exception (`writeText_cases`), and a
row of files is written up to the first that cannot be (`writeAll_cases`).

A compilation writes its files in one go at its end, so that there are four ways in which it can
end: the list cannot be read, it is not one, a file cannot be written, or all are.
-/

namespace SuffixPattern
namespace Host

variable {σ : Type}

theorem bind_run {α β : Type} (action : StateM σ α) (next : α → StateM σ β) (s : σ) :
    (action >>= next) s = next (action s).1 (action s).2 := rfl

/-- What the operations of a host do to files. `Keeps s s'` says that the files in `s'` are those in
`s`, and `Puts path contents s s'` that the file at the path has these contents in `s'` and all else
is as in `s`. -/
structure Behaves (host : Host (StateM σ)) (Keeps : σ → σ → Prop)
    (Puts : Text → Text → σ → σ → Prop) : Prop where
  refl : ∀ s : σ, Keeps s s
  trans : ∀ {s s' s'' : σ}, Keeps s s' → Keeps s' s'' → Keeps s s''
  puts_of_keeps : ∀ {path contents : Text} {s s' s'' : σ},
    Keeps s s' → Puts path contents s' s'' → Puts path contents s s''
  isDirectory : ∀ (path : Text) (s : σ), Keeps s (host.isDirectory path s).2
  makeDirectory : ∀ (path : Text) (s : σ), Keeps s (host.makeDirectory path s).2
  writeFile : ∀ (path contents : Text) (s : σ),
    (∃ s', host.writeFile path contents s = (.ok (), s') ∧ Puts path contents s s') ∨
      ∃ fault s', host.writeFile path contents s = (.error fault, s') ∧ Keeps s s'

/-- The files were written, one after the other. -/
inductive Writes (host : Host (StateM σ)) (Puts : Text → Text → σ → σ → Prop) :
    List (Text × Text) → σ → σ → Prop where
  | nil (s : σ) : Writes host Puts [] s s
  | cons {path contents : Text} {rest : List (Text × Text)} {s s' s'' : σ} :
    host.writeText path contents s = (.ok (), s') → Puts path contents s s' →
      Writes host Puts rest s' s'' → Writes host Puts ((path, contents) :: rest) s s''

namespace Behaves

variable {host : Host (StateM σ)} {Keeps : σ → σ → Prop} {Puts : Text → Text → σ → σ → Prop}

theorem accept (h : host.Behaves Keeps Puts) (path : Text) (made : Except Fault Unit) (s : σ) :
    Keeps s (host.accept path made s).2 := by
  cases made with
  | ok _ => exact h.refl s
  | error fault =>
    have hkept := h.isDirectory path s
    rw [Host.accept, bind_run]
    cases (host.isDirectory path s).1 with
    | true => exact hkept
    | false => exact hkept

theorem makeDirectories (h : host.Behaves Keeps Puts) (paths : List Text) (s : σ) :
    Keeps s (host.makeDirectories paths s).2 := by
  induction paths generalizing s with
  | nil => exact h.refl s
  | cons path above ih =>
    have hfirst := h.makeDirectory path s
    rw [Host.makeDirectories, bind_run]
    generalize host.makeDirectory path s = made at hfirst
    obtain ⟨made, s₁⟩ := made
    simp only
    split
    · have habove := h.trans hfirst (ih s₁)
      rw [bind_run]
      generalize host.makeDirectories above s₁ = madeAbove at habove
      obtain ⟨madeAbove, s₂⟩ := madeAbove
      cases madeAbove with
      | error fault => exact habove
      | ok _ => exact h.trans habove (h.trans (h.makeDirectory path s₂) (h.accept path _ _))
    · exact h.trans hfirst (h.accept path _ s₁)

/-- **A file is written as a whole or not at all**, the directories above it included. -/
theorem writeText_cases (h : host.Behaves Keeps Puts) (path contents : Text) (s : σ) :
    (∃ s', host.writeText path contents s = (.ok (), s') ∧ Puts path contents s s') ∨
      ∃ f s', host.writeText path contents s = (.error f, s') ∧ Keeps s s' := by
  have hmade := h.makeDirectories (Path.ancestors path) s
  rw [Host.writeText, bind_run]
  cases hmake : host.makeDirectories (Path.ancestors path) s with
  | mk made s₁ =>
    rw [hmake] at hmade
    cases made with
    | error fault => exact .inr ⟨_, s₁, rfl, hmade⟩
    | ok _ =>
      simp only [bind_run]
      rcases h.writeFile path contents s₁ with ⟨s', hwrite, hputs⟩ | ⟨fault, s', hwrite, hkept⟩
      · rw [hwrite]
        exact .inl ⟨s', rfl, h.puts_of_keeps hmade hputs⟩
      · rw [hwrite]
        exact .inr ⟨_, s', rfl, h.trans hmade hkept⟩

/-- **Files are written up to the first that cannot be written.** -/
theorem writeAll_cases (h : host.Behaves Keeps Puts) (files : List (Text × Text)) (s : σ) :
    (∃ s', host.writeAll files s = (.ok (), s') ∧ Writes host Puts files s s') ∨
      ∃ f s', host.writeAll files s = (.error f, s') ∧
        ∃ before failing after s₁, files = before ++ failing :: after ∧
          Writes host Puts before s s₁ ∧
          host.writeText failing.1 failing.2 s₁ = (.error f, s') ∧ Keeps s₁ s' := by
  induction files generalizing s with
  | nil => exact .inl ⟨s, rfl, .nil s⟩
  | cons file rest ih =>
    obtain ⟨path, contents⟩ := file
    rw [Host.writeAll, bind_run]
    rcases h.writeText_cases path contents s with ⟨s₁, hwrite, hputs⟩ | ⟨f, s₁, hwrite, hkept⟩
    · rw [hwrite]
      rcases ih s₁ with ⟨s', hall, hrest⟩ | ⟨f, s', hall, before, failing, after, s₂, hsplit,
        hbefore, hfails, hkept⟩
      · exact .inl ⟨s', hall, .cons hwrite hputs hrest⟩
      · exact .inr ⟨f, s', hall, (path, contents) :: before, failing, after, s₂,
          congrArg ((path, contents) :: ·) hsplit, .cons hwrite hputs hbefore, hfails, hkept⟩
    · rw [hwrite]
      exact .inr ⟨f, s₁, rfl, [], (path, contents), rest, s, rfl, .nil s, hwrite, hkept⟩

end Behaves

end Host

/-! ## Compiling a file -/

namespace Command

open Host

variable {σ : Type} {host : Host (StateM σ)} {input text : Text} {s s₀ s₁ : σ}
  (output : Text) (o : Options) (verbose : Bool) (diagnostics : Option Text)

theorem read_of_error {path : Text} {fault : Fault}
    (h : host.readText path s = (.error fault, s₀)) :
    host.read path s = (.error (.read path fault), s₀) := by
  rw [Host.read, bind_run, h]
  rfl

theorem read_of_ok {path : Text} (h : host.readText path s = (.ok text, s₀)) :
    host.read path s = (.ok text, s₀) := by
  rw [Host.read, bind_run, h]
  rfl

theorem runCompile_of_unread {fault : Fault} (hread : host.readText input s = (.error fault, s₀)) :
    ∃ records, runCompile host (.file input) output o verbose diagnostics s =
      (.failure verbose records [] (.read input fault), s₀) := by
  rw [runCompile, obtainText, bind_run, read_of_error hread]
  exact ⟨_, rfl⟩

theorem runCompile_of_unparsed {e : InvalidEntry} (hread : host.readText input s = (.ok text, s₀))
    (hparse : SuffixList.parse text = .error e) :
    ∃ records, runCompile host (.file input) output o verbose diagnostics s =
      (.failure verbose records [] (.parse input e), s₀) := by
  rw [SuffixList.parse] at hparse
  rw [runCompile, obtainText, bind_run, read_of_ok hread]
  simp only [hparse]
  exact ⟨_, rfl⟩

variable {l : SuffixList}

theorem runCompile_of_unwritten {f : Failure} (hread : host.readText input s = (.ok text, s₀))
    (hparse : SuffixList.parse text = .ok l)
    (hwrite : host.writeAll (compiledFiles output diagnostics (.ofList l o) (l.render text)) s₀ =
      (.error f, s₁)) :
    ∃ records, runCompile host (.file input) output o verbose diagnostics s =
      (.failure verbose records [] f, s₁) := by
  rw [SuffixList.parse] at hparse
  rw [runCompile, obtainText, bind_run, read_of_ok hread]
  simp only [hparse, bind_run, hwrite]
  exact ⟨_, rfl⟩

theorem runCompile_of_written (hread : host.readText input s = (.ok text, s₀))
    (hparse : SuffixList.parse text = .ok l)
    (hwrite : host.writeAll (compiledFiles output diagnostics (.ofList l o) (l.render text)) s₀ =
      (.ok (), s₁)) :
    ∃ records summary, runCompile host (.file input) output o verbose diagnostics s =
      (.success verbose records summary, s₁) := by
  rw [SuffixList.parse] at hparse
  rw [runCompile, obtainText, bind_run, read_of_ok hread]
  simp only [hparse, bind_run, hwrite]
  exact ⟨_, _, rfl⟩

end Command
end SuffixPattern
