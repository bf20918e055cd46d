import SuffixPattern.Proofs.CompiledFiles
import SuffixPattern.Proofs.HostRuns

/-!
# SuffixPattern.Proofs.FailedCompile

What a failing compilation leaves behind (`failing_compile_is_clean`), on any host on which a file
is written as a whole or not at all (`FileStore.IsSound`), for whatever reason it may not be.
Nothing is reported, and the files are those that were there and, if a file could not be written,
those that come before it: the pattern first, then the diagnostics.
-/

namespace SuffixPattern

open FileSystem (encodeText)

/-! ## Files on a host -/

/-- A host of which the files can be seen. -/
structure FileStore (σ π : Type) where
  host : Host (StateM σ)
  /-- Where a path leads. -/
  place? : σ → Text → Option π
  /-- What the file at a place holds. -/
  file? : σ → π → Option (List UInt8)

namespace FileStore

variable {σ π : Type} (st : FileStore σ π)

/-- No file was created, changed or removed. -/
def SameFiles (s s' : σ) : Prop :=
  ∀ q, st.file? s' q = st.file? s q

/-- The path leads to a file with these contents, and all other files are what they were. -/
def Puts (path contents : Text) (s s' : σ) : Prop :=
  ∃ place, st.place? s' path = some place ∧
    st.file? s' place = some (encodeText contents) ∧
    ∀ q, q ≠ place → st.file? s' q = st.file? s q

/-- Only writing does anything to files. A file is written as a whole or not at all, and what is
read as a text is the file that the path leads to. -/
structure IsSound : Prop where
  readText : ∀ (path : Text) (s : σ), st.SameFiles s (st.host.readText path s).2
  encoded : ∀ {path t : Text} {s : σ}, (st.host.readText path s).1 = .ok t →
    ∃ place, st.place? s path = some place ∧ st.file? s place = some (encodeText t)
  isDirectory : ∀ (path : Text) (s : σ), st.SameFiles s (st.host.isDirectory path s).2
  makeDirectory : ∀ (path : Text) (s : σ), st.SameFiles s (st.host.makeDirectory path s).2
  writeFile : ∀ (path contents : Text) (s : σ),
    (∃ s', st.host.writeFile path contents s = (.ok (), s') ∧ st.Puts path contents s s') ∨
      ∃ fault s', st.host.writeFile path contents s = (.error fault, s') ∧ st.SameFiles s s'

/-- There is no list to compile at a path: it cannot be read, it leads to a file that is not encoded
text, or the text is no list. -/
inductive NoList (input : Text) (s : σ) : Prop where
  | unread {fault : Fault} : (st.host.readText input s).1 = .error fault → NoList input s
  | notText {place : π} {bytes : List UInt8} : st.place? s input = some place →
    st.file? s place = some bytes → (∀ t, bytes ≠ encodeText t) → NoList input s
  | unparsed {text : Text} {e : InvalidEntry} : (st.host.readText input s).1 = .ok text →
    SuffixList.parse text = .error e → NoList input s

variable {st}

theorem SameFiles.trans {s s' s'' : σ} (h : st.SameFiles s s') (h' : st.SameFiles s' s'') :
    st.SameFiles s s'' := by
  intro q
  rw [h' q, h q]

theorem IsSound.behaves (h : st.IsSound) : st.host.Behaves st.SameFiles st.Puts where
  refl _ _ := rfl
  trans := SameFiles.trans
  puts_of_keeps := by
    rintro path contents s s' s'' hsame ⟨place, hplace, hfile, hother⟩
    refine ⟨place, hplace, hfile, ?_⟩
    intro q hq
    rw [hother q hq, hsame q]
  isDirectory := h.isDirectory
  makeDirectory := h.makeDirectory
  writeFile := h.writeFile

/-- A text that is read where there is no list is none. -/
theorem NoList.parse_eq_error (hst : st.IsSound) {input text : Text} {s : σ}
    (h : st.NoList input s) (hread : (st.host.readText input s).1 = .ok text) :
    ∃ e, SuffixList.parse text = .error e := by
  cases h with
  | unread hfault => cases hfault.symm.trans hread
  | notText hplace hbytes hne =>
    obtain ⟨place, hplace', hfile⟩ := hst.encoded hread
    cases hplace.symm.trans hplace'
    exact absurd (Option.some.inj (hbytes.symm.trans hfile)) (hne text)
  | unparsed htext hparse =>
    cases htext.symm.trans hread
    exact ⟨_, hparse⟩

end FileStore

namespace FileSystem

/-- A file system as a value is a host of which the files can be seen. -/
def store : FileStore FileSystem (List Text) where
  host := host
  place? fs path := (fs.resolve path).toOption
  file? := file?

theorem place?_store {fs : FileSystem} {path : Text} {place : List Text}
    (h : fs.resolve path = .ok place) : store.place? fs path = some place := by
  show (fs.resolve path).toOption = some place
  rw [h]
  rfl

theorem puts_of_isWritten {path contents : Text} {fs fs' : FileSystem}
    (h : IsWritten path contents fs fs') : store.Puts path contents fs fs' := by
  obtain ⟨place, hplace, hfile⟩ := h.place
  refine ⟨place, place?_store hplace, (hfile place).trans (if_pos rfl), ?_⟩
  intro q hq
  exact (hfile q).trans (if_neg hq)

theorem isSound_store : store.IsSound where
  readText _ _ _ := rfl
  encoded := by
    intro path t fs h
    obtain ⟨place, hplace, -, hfile⟩ := readBytes_eq_ok_iff.1 (readText_eq_ok_iff.1 h)
    exact ⟨place, place?_store hplace, hfile⟩
  isDirectory path fs := (KeepsFiles.isDirectory path fs).files
  makeDirectory path fs := (KeepsFiles.makeDirectory path fs).files
  writeFile := by
    intro path contents fs
    rcases behaves_host.writeFile path contents fs with ⟨fs', hwrite, hfile⟩ |
      ⟨fault, fs', hwrite, hkept⟩
    · exact .inl ⟨fs', hwrite, puts_of_isWritten hfile⟩
    · exact .inr ⟨fault, fs', hwrite, hkept.files⟩

end FileSystem

namespace Command

open Host

/-! ## Failing compilations -/

theorem compiledFiles_map_fst (output : Text) (diagnostics : Option Text) (c : Compilation)
    (list : Text) : (compiledFiles output diagnostics c list).map Prod.fst =
      output :: diagnostics.toList.flatMap fun d => diagnosticNames.map (Path.join d) := by
  cases diagnostics with
  | none => rfl
  | some d => simp [compiledFiles, diagnosticFiles_map_fst]

variable {σ π : Type} {st : FileStore σ π} {args : List Text} {input output : Text} {o : Options}
  {verbose : Bool} {diagnostics : Option Text} {s s' : σ} {outcome : Outcome}

/-- Without a list nothing is reported and no file is touched. -/
theorem runCompile_of_noList (hst : st.IsSound) (hnone : st.NoList input s)
    (h : runCompile st.host (.file input) output o verbose diagnostics s = (outcome, s')) :
    outcome.exit = 1 ∧ outcome.output = [] ∧ st.SameFiles s s' := by
  have hsame := hst.readText input s
  cases hread : st.host.readText input s with
  | mk result s₀ =>
    rw [hread] at hsame
    cases result with
    | error fault =>
      obtain ⟨records, hend⟩ := runCompile_of_unread output o verbose diagnostics hread
      cases hend.symm.trans h
      exact ⟨rfl, rfl, hsame⟩
    | ok text =>
      have htext : (st.host.readText input s).1 = .ok text := by rw [hread]
      obtain ⟨e, hparse⟩ := hnone.parse_eq_error hst htext
      obtain ⟨records, hend⟩ := runCompile_of_unparsed output o verbose diagnostics hread hparse
      cases hend.symm.trans h
      exact ⟨rfl, rfl, hsame⟩

/-- With a list the files are written in turn, until one cannot be. -/
theorem runCompile_of_list (hst : st.IsSound) {text : Text} {l : SuffixList} {s₀ : σ}
    (hread : st.host.readText input s = (.ok text, s₀)) (hparse : SuffixList.parse text = .ok l)
    (h : runCompile st.host (.file input) output o verbose diagnostics s = (outcome, s')) :
    outcome.exit = 0 ∧ Writes st.host st.Puts
        (compiledFiles output diagnostics (.ofList l o) (l.render text)) s₀ s' ∨
      ∃ before failing after s₁ f,
        compiledFiles output diagnostics (.ofList l o) (l.render text) =
          before ++ failing :: after ∧
        Writes st.host st.Puts before s₀ s₁ ∧
        (st.host.writeText failing.1 failing.2 s₁).1 = .error f ∧
        outcome.exit = 1 ∧ outcome.output = [] ∧ st.SameFiles s₁ s' := by
  rcases hst.behaves.writeAll_cases
      (compiledFiles output diagnostics (.ofList l o) (l.render text)) s₀ with
    ⟨s₁, hwrite, hall⟩ | ⟨f, s₂, hwrite, before, failing, after, s₁, hsplit, hbefore, hfails, hkept⟩
  · obtain ⟨records, summary, hend⟩ := runCompile_of_written output o verbose diagnostics hread
      hparse hwrite
    cases hend.symm.trans h
    exact .inl ⟨rfl, hall⟩
  · obtain ⟨records, hend⟩ := runCompile_of_unwritten output o verbose diagnostics hread hparse
      hwrite
    cases hend.symm.trans h
    have hfault : (st.host.writeText failing.1 failing.2 s₁).1 = .error f := by rw [hfails]
    exact .inr ⟨before, failing, after, s₁, f, hsplit, hbefore, hfault, rfl, rfl, hkept⟩

/-- **A failing compilation is clean.** If there is no list to compile, then nothing is reported and
no file is touched. Otherwise the files of the compilation are written one after the other, in the
order in which their paths are given here: all of them, or those before the first that cannot be
written, and then nothing is reported and no other file is touched. -/
theorem failing_compile_is_clean (hst : st.IsSound)
    (hargs : ofArguments? args = some (.compile (.file input) output o verbose diagnostics))
    (hrun : runLine st.host args s = (outcome, s')) :
    (st.NoList input s → outcome.exit = 1 ∧ outcome.output = [] ∧ st.SameFiles s s') ∧
    ∀ text l s₀, st.host.readText input s = (.ok text, s₀) → SuffixList.parse text = .ok l →
      let files := compiledFiles output diagnostics (.ofList l o) (l.render text)
      files.map Prod.fst = output :: (diagnostics.toList.flatMap fun d =>
          ["tld_tree.json", "tld_itree.json", "xntlds.json", "tlds.txt"].map fun name =>
            Path.join d name.toList) ∧
        st.SameFiles s s₀ ∧
        (outcome.exit = 0 ∧ Writes st.host st.Puts files s₀ s' ∨
          ∃ before failing after s₁ f, files = before ++ failing :: after ∧
            Writes st.host st.Puts before s₀ s₁ ∧
            (st.host.writeText failing.1 failing.2 s₁).1 = .error f ∧
            outcome.exit = 1 ∧ outcome.output = [] ∧ st.SameFiles s₁ s') := by
  have hcompile : runCompile st.host (.file input) output o verbose diagnostics s =
      (outcome, s') := by
    rw [runLine, hargs] at hrun
    exact hrun
  constructor
  · intro hnone
    exact runCompile_of_noList hst hnone hcompile
  · intro text l s₀ hread hparse
    have hsame := hst.readText input s
    rw [hread] at hsame
    exact ⟨compiledFiles_map_fst output diagnostics _ _, hsame,
      runCompile_of_list hst hread hparse hcompile⟩

/-- A list, and a directory where one of the diagnostics would go. -/
def blockedList : FileSystem :=
  FileSystem.addFile "list.txt".toList (encodeText "com\n".toList)
    (FileSystem.addFile "out/xntlds.json/note.txt".toList [] {})

def blockedLine : List Text :=
  ["compile", "-i", "list.txt", "-o", "out/pattern.txt", "--diagnostics-dir", "out"].map
    String.toList

/-- The pattern and both files of trees are written, but not the labels and nothing after them. -/
theorem failing_compile_is_clean_blocked :
    ∃ l outcome fs, SuffixList.parse "com\n".toList = .ok l ∧
      runLine FileSystem.host blockedLine blockedList = (outcome, fs) ∧
      outcome.exit = 1 ∧ outcome.output = [] ∧
      (∃ before failing after fs₁,
        compiledFiles "out/pattern.txt".toList (some "out".toList) (.ofList l {})
          (l.render "com\n".toList) = before ++ failing :: after ∧
        Writes FileSystem.host FileSystem.store.Puts before blockedList fs₁ ∧
        FileSystem.store.SameFiles fs₁ fs) ∧
      fs.file? ["out".toList, "pattern.txt".toList] =
        some (encodeText "(?<tld>com)".toList) ∧
      (fs.file? ["out".toList, "tld_itree.json".toList]).isSome = true ∧
      fs.file? ["out".toList, "tlds.txt".toList] = none := by
  have hparse : SuffixList.parse "com\n".toList =
      .ok (SuffixList.readText (.pure Decoding.decode) () "com\n".toList).list := by rfl
  obtain ⟨-, hwrites⟩ := @failing_compile_is_clean _ _ FileSystem.store blockedLine
    "list.txt".toList "out/pattern.txt".toList {} false (some "out".toList) blockedList
    (runLine FileSystem.host blockedLine blockedList).2
    (runLine FileSystem.host blockedLine blockedList).1 FileSystem.isSound_store (by decide) rfl
  have hexit : (runLine FileSystem.host blockedLine blockedList).1.exit ≠ 0 := by decide +kernel
  have htext : blockedList.readText "list.txt".toList = .ok "com\n".toList := by decide +kernel
  have hread : FileSystem.store.host.readText "list.txt".toList blockedList =
      (.ok "com\n".toList, blockedList) := by
    show (blockedList.readText "list.txt".toList, blockedList) = _
    rw [htext]
  obtain ⟨-, -, ⟨hzero, -⟩ | ⟨before, failing, after, fs₁, f, hsplit, hbefore, -, hone, hnothing,
    hkept⟩⟩ := hwrites _ _ _ hread hparse
  · exact absurd hzero hexit
  · refine ⟨_, _, _, hparse, rfl, hone, hnothing,
      ⟨before, failing, after, fs₁, hsplit, hbefore, hkept⟩, ?_, ?_, ?_⟩ <;> decide +kernel

end Command
end SuffixPattern
