import SuffixPattern.CommandLine.Run
import SuffixPattern.Proofs.EntrySet
import SuffixPattern.Proofs.SuffixLines
import SuffixPattern.Proofs.Writing

/-!
# SuffixPattern.Proofs.CompiledFiles

What a successful compilation leaves of its two files: of the list that it reads and of the pattern
that it writes (`files_survive_compile_iff`). The pattern is written first. The diagnostics have
fixed names and are written after it, over whatever stands there, so that they may end up in the
place of either.

* `runCompile_ends`: how a compilation ends, and what it wrote until then.
* `apart_diagnosticFiles`: the diagnostics never replace each other.
* `head?_ne_of_mem_diagnosticFiles`: none of them reads like a pattern.
-/

namespace SuffixPattern

open FileSystem

/-! ## What the files begin with -/

theorem Json.head?_pretty_object (members : Members) :
    (Json.object members).pretty.head? = some '{' := by
  cases members <;> simp [Json.pretty, Json.prettyAt]

theorem Pattern.head?_ofHalves (name literal decoded : Text) :
    (ofHalves name literal decoded).head? = some '(' := by
  simp [ofHalves]

namespace SuffixList

/-- No label begins with a parenthesis, and so no list does. -/
theorem parse_paren_ne_ok (rest : Text) (l : SuffixList) : parse ('(' :: rest) ≠ .ok l := by
  intro h
  obtain ⟨line, more, hlines⟩ := @Text.exists_lines_cons '(' (by decide) (by decide) rest
  have hlabels := ((result_eq_ok_iff _ _ _).1 h).1
  have hcontent : Text.content? ('(' :: line) =
      some ('(' :: Unicode.lowerAfter ['('] (Text.trimEnd Unicode.isBlank line)) := by
    rw [Text.content?, Text.trimBlank, Text.trim_cons (by decide)]
    rfl
  have hentry := hasEntry_lines_iff.1 ⟨'(' :: line, by rw [hlines]; exact .head _, hcontent⟩
  obtain ⟨number, hmem⟩ := hentry
  have hparen : IsLabelChar '(' := hlabels _ hmem '(' (.head _)
  exact absurd hparen (by unfold IsLabelChar; decide)

theorem head?_render_ne {text : Text} {l : SuffixList} (h : parse text = .ok l) :
    (l.render text).head? ≠ some '(' := by
  cases text with
  | nil =>
    obtain rfl : {} = l := Except.ok.inj h
    exact nofun
  | cons c rest =>
    intro hhead
    obtain rfl : c = '(' := Option.some.inj hhead
    exact parse_paren_ne_ok rest l h

end SuffixList

namespace Command

/-! ## The diagnostics -/

/-- The names of the files that diagnostics consist of. -/
def diagnosticNames : List Text :=
  ["tld_tree.json".toList, "tld_itree.json".toList, "xntlds.json".toList, "tlds.txt".toList]

theorem isName_of_mem_diagnosticNames {name : Text} (h : name ∈ diagnosticNames) :
    Path.IsName name := by
  simp only [diagnosticNames, List.mem_cons, List.not_mem_nil, or_false] at h
  rcases h with rfl | rfl | rfl | rfl <;> constructor <;> decide

theorem diagnosticFiles_map_fst (directory : Text) (c : Compilation) (list : Text) :
    (diagnosticFiles directory c list).map Prod.fst =
      diagnosticNames.map (Path.join directory) := rfl

/-- **Diagnostics never replace each other.** -/
theorem apart_diagnosticFiles (fs : FileSystem) (directory : Text) (c : Compilation) (list : Text) :
    (diagnosticFiles directory c list).Pairwise fun f g =>
      ∀ q, fs.resolve f.1 = .ok q → fs.resolve g.1 ≠ .ok q := by
  have hnames : diagnosticNames.Pairwise fun n m => ∀ q,
      fs.resolve (Path.join directory n) = .ok q → fs.resolve (Path.join directory m) ≠ .ok q := by
    have hnodup : diagnosticNames.Nodup := by decide
    refine hnodup.imp_of_mem fun hn hm hne q hnq hmq => hne ?_
    have hlast := getLast?_of_resolve_join (isName_of_mem_diagnosticNames hn) hnq
    rw [getLast?_of_resolve_join (isName_of_mem_diagnosticNames hm) hmq] at hlast
    exact (Option.some.inj hlast).symm
  rw [← List.pairwise_map (f := Path.join directory)
    (R := fun p p' => ∀ q, fs.resolve p = .ok q → fs.resolve p' ≠ .ok q),
    ← diagnosticFiles_map_fst directory c list, List.pairwise_map] at hnames
  exact hnames

/-- None of the diagnostics reads like a pattern, unless the list does. -/
theorem head?_ne_of_mem_diagnosticFiles {directory list : Text} {c : Compilation}
    {f : Text × Text} (hlist : list.head? ≠ some '(') (hf : f ∈ diagnosticFiles directory c list) :
    f.2.head? ≠ some '(' := by
  simp only [diagnosticFiles, List.mem_cons, List.not_mem_nil, or_false] at hf
  rcases hf with rfl | rfl | rfl | rfl
  · simp [Diagnostics.raw, Diagnostics.pair, Json.head?_pretty_object]
  · simp [Diagnostics.compacted, Diagnostics.pair, Json.head?_pretty_object]
  · simp [Diagnostics.decodedLabels, Json.head?_pretty_object]
  · exact hlist

/-! ## Runs -/

/-- How the compilation of a file ends: what is reported, and the file system that is left. -/
inductive CompileEnd (input output : Text) (o : Options) (verbose : Bool)
    (diagnostics : Option Text) (fs : FileSystem) : Outcome → FileSystem → Prop where
  | unread {fault : Fault} (records : List Record) :
    fs.readText input = .error fault →
      CompileEnd input output o verbose diagnostics fs
        (.failure verbose records [] (.read input fault)) fs
  | unparsed {text : Text} {e : InvalidEntry} (records : List Record) :
    fs.readText input = .ok text → SuffixList.parse text = .error e →
      CompileEnd input output o verbose diagnostics fs
        (.failure verbose records [] (.parse input e)) fs
  | unwritten {text : Text} {l : SuffixList} {f : Failure} {fs' : FileSystem}
    (records : List Record) :
    fs.readText input = .ok text → SuffixList.parse text = .ok l →
      host.writeAll (compiledFiles output diagnostics (.ofList l o) (l.render text)) fs =
        (.error f, fs') →
      CompileEnd input output o verbose diagnostics fs (.failure verbose records [] f) fs'
  | written {text : Text} {l : SuffixList} {fs' : FileSystem} (records : List Record)
    (summary : List String) :
    fs.readText input = .ok text → SuffixList.parse text = .ok l →
      AreWritten (compiledFiles output diagnostics (.ofList l o) (l.render text)) fs fs' →
      CompileEnd input output o verbose diagnostics fs (.success verbose records summary) fs'

variable {input output : Text} {o : Options} {verbose : Bool} {diagnostics : Option Text}
  {fs fs' : FileSystem} {outcome : Outcome}

theorem readText_apply (path : Text) (fs : FileSystem) :
    host.readText path fs = (fs.readText path, fs) := rfl

/-- **A compilation ends in one of these ways.** -/
theorem runCompile_ends (h : runCompile host (.file input) output o verbose diagnostics fs =
    (outcome, fs')) : CompileEnd input output o verbose diagnostics fs outcome fs' := by
  have happly := readText_apply input fs
  cases hread : fs.readText input with
  | error fault =>
    rw [hread] at happly
    obtain ⟨records, hend⟩ := runCompile_of_unread output o verbose diagnostics happly
    cases hend.symm.trans h
    exact .unread records hread
  | ok text =>
    rw [hread] at happly
    cases hparse : SuffixList.parse text with
    | error e =>
      obtain ⟨records, hend⟩ := runCompile_of_unparsed output o verbose diagnostics happly hparse
      cases hend.symm.trans h
      exact .unparsed records hread hparse
    | ok l =>
      rcases writeAll_cases (compiledFiles output diagnostics (.ofList l o) (l.render text)) fs with
        ⟨left, hwrite, hfiles⟩ | ⟨f, left, hwrite, -⟩
      · obtain ⟨records, summary, hend⟩ := runCompile_of_written output o verbose diagnostics
          happly hparse hwrite
        cases hend.symm.trans h
        exact .written records summary hread hparse hfiles
      · obtain ⟨records, hend⟩ := runCompile_of_unwritten output o verbose diagnostics happly
          hparse hwrite
        cases hend.symm.trans h
        exact .unwritten records hread hparse hwrite

/-! ## What survives -/

theorem exists_written_of_exit (hend : CompileEnd input output o verbose diagnostics fs outcome fs')
    (hexit : outcome.exit = 0) :
    ∃ text l, fs.readText input = .ok text ∧ SuffixList.parse text = .ok l ∧
      AreWritten (compiledFiles output diagnostics (.ofList l o) (l.render text)) fs fs' := by
  cases hend with
  | unread => cases hexit
  | unparsed => cases hexit
  | unwritten => cases hexit
  | written _ _ hread hparse hfiles => exact ⟨_, _, hread, hparse, hfiles⟩

theorem compiledFiles_eq (output : Text) (diagnostics : Option Text) (c : Compilation)
    (list : Text) : compiledFiles output diagnostics c list =
      (output, c.pattern) :: (compiledFiles output diagnostics c list).tail := rfl

theorem apart_tail_compiledFiles (fs : FileSystem) (output : Text) (diagnostics : Option Text)
    (c : Compilation) (list : Text) :
    (compiledFiles output diagnostics c list).tail.Pairwise fun f g =>
      ∀ q, fs.resolve f.1 = .ok q → fs.resolve g.1 ≠ .ok q := by
  cases diagnostics with
  | none => exact .nil
  | some directory => exact apart_diagnosticFiles fs directory c list

theorem ne_pattern_of_mem_tail {text : Text} {l : SuffixList} {f : Text × Text}
    (hparse : SuffixList.parse text = .ok l)
    (hf : f ∈ (compiledFiles output diagnostics (.ofList l o) (l.render text)).tail) :
    f.2 ≠ (Compilation.ofList l o).pattern := by
  cases diagnostics with
  | none => cases hf
  | some directory =>
    intro heq
    have hhead := head?_ne_of_mem_diagnosticFiles (SuffixList.head?_render_ne hparse) hf
    rw [heq] at hhead
    exact hhead (Pattern.head?_ofHalves _ _ _)

/-- **What a successful compilation leaves of the pattern and of the list.** The pattern stands
where it was asked for if and only if none of the diagnostics leads there. The list is what it was
if and only if those of them that lead to it, if any, have its very text. -/
theorem files_survive_compile_iff {args : List Text}
    (hargs : ofArguments? args = some (.compile (.file input) output o verbose diagnostics))
    (hrun : runLine host args fs = (outcome, fs')) (hexit : outcome.exit = 0)
    (hdifferent : fs'.resolve output ≠ fs'.resolve input) :
    ∃ text l, fs.readText input = .ok text ∧ SuffixList.parse text = .ok l ∧
      let c := Compilation.ofList l o
      let dumps := (compiledFiles output diagnostics c (l.render text)).tail
      (fs'.readText output = .ok c.pattern ↔
        ∀ f ∈ dumps, fs'.resolve f.1 ≠ fs'.resolve output) ∧
      (fs'.readText input = .ok text ↔
        ∀ f ∈ dumps, fs'.resolve f.1 = fs'.resolve input → f.2 = text) := by
  rw [runLine, hargs] at hrun
  obtain ⟨text, l, hread, hparse, hfiles⟩ := exists_written_of_exit (runCompile_ends hrun) hexit
  refine ⟨text, l, hread, hparse, ?_⟩
  have hapart := apart_tail_compiledFiles fs' output diagnostics (.ofList l o) (l.render text)
  -- The pattern is written first, the diagnostics after it.
  rw [compiledFiles_eq] at hfiles
  cases hfiles with
  | cons hpattern hdumps =>
    rename_i fs₁
    obtain ⟨place, hplace, hfile⟩ := hpattern.place
    have houtput : fs'.resolve output = .ok place := resolve_of_extends hdumps.grown hplace
    obtain ⟨source, hsource, hname, hlist⟩ := readBytes_eq_ok_iff.1 (readText_eq_ok_iff.1 hread)
    have hinput : fs'.resolve input = .ok source :=
      resolve_of_extends (hdumps.grown.trans hpattern.grown) hsource
    have hne : source ≠ place := by
      rintro rfl
      exact hdifferent (houtput.trans hinput.symm)
    constructor
    · rw [readText_eq_ok_iff_file? houtput hpattern.file,
        hdumps.file?_eq_iff hapart ((hfile place).trans (if_pos rfl)), houtput]
      exact forall₂_congr fun f hf =>
        ⟨fun h hq => ne_pattern_of_mem_tail hparse hf (h hq), fun h hq => absurd hq h⟩
    · have hkept : fs₁.file? source = some (encodeText text) := by
        rw [hfile source, if_neg hne, hlist]
      rw [readText_eq_ok_iff_file? hinput hname, hdumps.file?_eq_iff hapart hkept, hinput]

/-! ## Runs with diagnostics -/

-- What the runs below leave is found by evaluation.
deriving instance DecidableEq for Except

/-- One list, in the working directory. -/
def oneList : FileSystem :=
  addFile "list.txt".toList (encodeText "com\n".toList) {}

/-- A verbose line that asks for the pattern at a place of its own. -/
def plainLine : List Text :=
  ["compile", "-i", "list.txt", "-o", "tldregex.txt", "-v"].map String.toList

/-- A verbose line that asks for the pattern where one of the diagnostics goes. -/
def clashingLine : List Text :=
  ["compile", "-i", "list.txt", "-o", "tlds.txt", "-v"].map String.toList

/-- What a line leaves of it. -/
def leftBy (args : List Text) : FileSystem := (runLine host args oneList).2

/-- Nothing is replaced by diagnostics that go elsewhere. -/
theorem files_survive_compile_iff_plain :
    ∃ text l, oneList.readText "list.txt".toList = .ok text ∧ SuffixList.parse text = .ok l ∧
      (leftBy plainLine).readText "tldregex.txt".toList = .ok (Compilation.ofList l {}).pattern ∧
      (leftBy plainLine).readText "list.txt".toList = .ok text := by
  obtain ⟨text, l, hread, hparse, hpattern, hlist⟩ :=
    @files_survive_compile_iff "list.txt".toList "tldregex.txt".toList {} true (some ['.'])
      oneList (leftBy plainLine) (runLine host plainLine oneList).1 plainLine
      (by decide) rfl (by decide +kernel) (by decide +kernel)
  have hnames : ∀ name ∈ diagnosticNames, ∀ path ∈ ["tldregex.txt".toList, "list.txt".toList],
      (leftBy plainLine).resolve (Path.join ['.'] name) ≠ (leftBy plainLine).resolve path := by
    decide +kernel
  have hapart : ∀ f ∈ diagnosticFiles ['.'] (.ofList l {}) (l.render text),
      ∀ path ∈ ["tldregex.txt".toList, "list.txt".toList],
        (leftBy plainLine).resolve f.1 ≠ (leftBy plainLine).resolve path := by
    intro f hf
    have hpath := List.mem_map_of_mem (f := Prod.fst) hf
    rw [diagnosticFiles_map_fst] at hpath
    obtain ⟨name, hname, hjoin⟩ := List.mem_map.1 hpath
    rw [← hjoin]
    exact hnames name hname
  refine ⟨text, l, hread, hparse, hpattern.2 fun f hf => ?_, hlist.2 fun f hf hleads => ?_⟩
  · exact hapart f hf _ (by simp)
  · exact absurd hleads (hapart f hf _ (by simp))

/-- The run succeeds and reports that the pattern went to a file of its own, but there the list
stands. -/
theorem diagnostics_replace_pattern :
    ofArguments? clashingLine =
        some (.compile (.file "list.txt".toList) "tlds.txt".toList {} true (some ['.'])) ∧
      (runLine host clashingLine oneList).1.exit = 0 ∧
      (runLine host clashingLine oneList).1.output.head? =
        some "Compiled 'list.txt' to 'tlds.txt'" ∧
      (leftBy clashingLine).resolve "tlds.txt".toList ≠
        (leftBy clashingLine).resolve "list.txt".toList ∧
      oneList.readText "list.txt".toList = .ok "com\n".toList ∧
      (Compilation.ofText "com\n".toList {}).map (·.pattern) = .ok "(?<tld>com)".toList ∧
      (leftBy clashingLine).readText "tlds.txt".toList = .ok "com\n".toList := by
  refine ⟨?_, ?_, ?_, ?_, ?_, ?_, ?_⟩ <;> decide +kernel

end Command
end SuffixPattern
