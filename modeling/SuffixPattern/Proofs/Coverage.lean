import SuffixPattern.Proofs.CompiledFiles
import SuffixPattern.Proofs.GroupReading
import SuffixPattern.Proofs.Members

/-!
# SuffixPattern.Proofs.Coverage

A check tells whether a pattern matches every member of a list, and which members it does not match
(`check_decides_coverage`). A pattern is searched for between two anchors, with a group around it:
such a search finds a text if and only if the pattern matches the whole of it (`occursIn_anchored`),
alternatives at the top included.
-/

namespace SuffixPattern

namespace Regex

/-! ## Anchored search -/

/-- Behind the first place of a text there is a character before every place. -/
theorem Cursor.before_of_mem_onwards {p q : Cursor} {rest : Text} (h : q ∈ p.onwards rest) :
    q = p ∨ q.before ≠ [] := by
  induction rest generalizing p with
  | nil => exact .inl (List.mem_singleton.1 h)
  | cons c rest ih =>
    cases h with
    | head => exact .inl rfl
    | tail _ h =>
      rcases ih h with rfl | hne
      · exact .inr (List.cons_ne_nil _ _)
      · exact .inr hne

theorem Cursor.mem_onwards_self (p : Cursor) (rest : Text) : p ∈ p.onwards rest := by
  cases rest with
  | nil => exact .head _
  | cons c rest => exact .head _

namespace Expr

theorem mem_ends_anchored {e : Expr} {p q : Cursor} :
    q ∈ e.anchored.ends p ↔ p.before = [] ∧ q ∈ e.ends p ∧ q.after = [] := by
  cases hp : p.before with
  | nil => simp [anchored, ends, hp, List.isEmpty_iff]
  | cons c before => simp [anchored, ends, hp]

/-- **Between the anchors an expression is found where it matches the whole text.** -/
theorem occursIn_anchored (e : Expr) (t : Text) : e.anchored.occursIn t = e.matchesFully t := by
  have hiff : e.anchored.occursIn t = true ↔ e.matchesFully t = true := by
    have hfound : e.anchored.occursIn t = true ↔
        ∃ q, q ∈ e.anchored.reach (Cursor.onwards (.ofText t) t) := by
      rw [occursIn, Bool.not_eq_true', List.isEmpty_eq_false_iff_exists_mem]
    rw [hfound, matchesFully_iff]
    constructor
    · rintro ⟨q, hq⟩
      obtain ⟨p, hp, hq⟩ := (mem_reach _ _ _).1 hq
      obtain ⟨hbefore, hends, hafter⟩ := mem_ends_anchored.1 hq
      rcases Cursor.before_of_mem_onwards hp with rfl | hne
      · exact ⟨q, hends, hafter⟩
      · exact absurd hbefore hne
    · rintro ⟨q, hends, hafter⟩
      exact ⟨q, (mem_reach _ _ _).2 ⟨.ofText t, Cursor.mem_onwards_self _ t,
        mem_ends_anchored.2 ⟨rfl, hends, hafter⟩⟩⟩
  exact Bool.eq_iff_iff.2 hiff

end Expr
end Regex

/-! ## Patterns -/

theorem Text.trimEnd_concat {blank : Char → Bool} {c : Char} (hc : blank c = false) (t : Text) :
    trimEnd blank (t ++ [c]) = t ++ [c] := by
  simp [trimEnd, hc]

/-- A pattern ends in the parenthesis of its group. -/
theorem Pattern.trimEnd_ofHalves (name literal decoded : Text) :
    (ofHalves name literal decoded).trimEnd Unicode.isBlank = ofHalves name literal decoded :=
  Text.trimEnd_concat (by decide) _

/-- A list that is read matches its pattern. -/
theorem SuffixList.IsProper.matchesFully_expr {l : SuffixList} (h : l.IsProper) (o : Options)
    {s : Text} (hs : s ∈ l.literal.toList ++ l.decoded.toList) :
    (Compilation.expr l o).matchesFully s = true := by
  rw [Compilation.matchesFully_expr_iff]
  rcases List.mem_append.1 hs with hs | hs
  · exact ⟨(h.literal s hs).1, .inl hs⟩
  · exact ⟨(h.decoded s hs).ne_nil, .inr hs⟩

theorem SuffixList.isProper_of_parse {text : Text} {l : SuffixList} (h : parse text = .ok l) :
    l.IsProper := by
  have hlines : ∀ s, .entry s ∈ text.lines.map Line.ofText → s ≠ [] := by
    intro s hs
    obtain ⟨raw, -, hraw⟩ := List.mem_map.1 hs
    exact Line.ne_nil_of_ofText hraw
  exact @isProper_of_readFrom l Domain.toUnicode? _ hlines h

namespace Command

open FileSystem Regex

/-! ## Checks -/

/-- The members of a list that an expression does not match in full: those as written first, in
ascending order, then the decoded forms. -/
def missing (e : Expr) (l : SuffixList) : List Text :=
  (l.literal.toList ++ l.decoded.toList).filter fun suffix => !e.matchesFully suffix

theorem wholeMatch?_eq_some {t : Text} {e : Expr} (hread : Expr.read? t = some e)
    (hlimits : e.anchored.isWithinLimits = true) : wholeMatch? t = some e.anchored := by
  rw [wholeMatch?, read?_anchored hread]
  simp [hlimits]

theorem unmatched_anchored (e : Expr) (l : SuffixList) : unmatched e.anchored l = missing e l := by
  unfold unmatched missing
  simp only [Expr.occursIn_anchored]

variable {args : List Text} {input pattern text written : Text} {fs : FileSystem} {l : SuffixList}

/-- How a check ends when both files can be read. -/
theorem runCheck_apply {e : Expr} (hlist : fs.readText input = .ok text)
    (hparse : SuffixList.parse text = .ok l) (hpattern : fs.readText pattern = .ok written)
    (hwhole : wholeMatch? (written.trimEnd Unicode.isBlank) = some e.anchored) :
    ∃ outcome, runCheck host input pattern fs = (outcome, fs) ∧
      outcome.output = checkedSummary input pattern l (missing e l) ∧
      outcome.exit = if missing e l = [] then 0 else 1 := by
  have hreadList := readText_apply input fs
  have hreadPattern := readText_apply pattern fs
  rw [hlist] at hreadList
  rw [hpattern] at hreadPattern
  rw [SuffixList.parse] at hparse
  rw [runCheck, Host.bind_run, read_of_ok hreadList]
  simp only [hparse, Host.bind_run, read_of_ok hreadPattern, hwhole, unmatched_anchored]
  cases hmissing : missing e l with
  | nil => exact ⟨_, rfl, rfl, rfl⟩
  | cons suffix rest => exact ⟨_, rfl, rfl, rfl⟩

/-- **A check decides coverage.** It leaves all files alone, reports how many members there are and
how many the pattern does not match, names the first of these and counts the others, and succeeds if
and only if there are none. So it accepts every pattern that is made for the list, with any white
space behind it. The pattern is assumed to keep the limits of the engine. -/
theorem check_decides_coverage (hargs : ofArguments? args = some (.check input pattern))
    (hlist : fs.readText input = .ok text) (hparse : SuffixList.parse text = .ok l)
    (hpattern : fs.readText pattern = .ok written)
    (hlimits : ∀ e, Expr.read? (written.trimEnd Unicode.isBlank) = some e →
      e.anchored.isWithinLimits = true) :
    (∀ e, Expr.read? (written.trimEnd Unicode.isBlank) = some e →
      ∃ outcome, runLine host args fs = (outcome, fs) ∧
        outcome.output =
          [s!"Checked '{String.ofList pattern}' against '{String.ofList input}'",
            s!"  Suffixes: {l.literal.size + l.decoded.size}",
            s!"  Missing:  {(missing e l).length}"] ++
          ((missing e l).take 20).map (fun suffix => s!"    {String.ofList suffix}") ++
          (if 20 < (missing e l).length then [s!"    ... and {(missing e l).length - 20} more"]
            else []) ∧
        (outcome.exit = 0 ↔ missing e l = []) ∧ (missing e l ≠ [] → outcome.exit = 1)) ∧
    ∀ (o : Options) (blanks : Text), isGroupName o.groupName = true →
      (∀ c ∈ blanks, Unicode.isBlank c = true) →
      written = (Compilation.ofList l o).pattern ++ blanks →
        (runLine host args fs).1.exit = 0 := by
  have hrun : runLine host args fs = runCheck host input pattern fs := by
    rw [runLine, hargs]
    rfl
  have hends : ∀ e, Expr.read? (written.trimEnd Unicode.isBlank) = some e →
      ∃ outcome, runLine host args fs = (outcome, fs) ∧
        outcome.output = checkedSummary input pattern l (missing e l) ∧
        outcome.exit = if missing e l = [] then 0 else 1 := by
    intro e hread
    rw [hrun]
    exact runCheck_apply hlist hparse hpattern (wholeMatch?_eq_some hread (hlimits e hread))
  constructor
  · intro e hread
    obtain ⟨outcome, happly, houtput, hexit⟩ := hends e hread
    refine ⟨outcome, happly, houtput, ?_, fun hne => ?_⟩
    · rw [hexit]
      split_ifs with hnil <;> simp [hnil]
    · rw [hexit, if_neg hne]
  · intro o blanks hname hblanks hwritten
    have htrim : written.trimEnd Unicode.isBlank = (Compilation.ofList l o).pattern := by
      rw [hwritten, Text.trimEnd_append hblanks]
      exact Pattern.trimEnd_ofHalves _ _ _
    have hread : Expr.read? (written.trimEnd Unicode.isBlank) = some (Compilation.expr l o) := by
      rw [htrim]
      exact Compilation.read?_pattern l o hname
    have hnil : missing (Compilation.expr l o) l = [] := by
      rw [missing, List.filter_eq_nil_iff]
      intro s hs
      simp [(SuffixList.isProper_of_parse hparse).matchesFully_expr o hs]
    obtain ⟨outcome, happly, -, hexit⟩ := hends _ hread
    rw [happly, hexit, if_pos hnil]

/-- A list with the letters up to `w`, and a pattern for two of them. -/
def lettersAndPattern : FileSystem :=
  addFile "list.txt".toList (encodeText ("abcdefghijklmnopqrstuvw".toList.flatMap ([·, '\n'])))
    (addFile "pattern.txt".toList (encodeText "a|w\n".toList) {})

/-- Alternatives at the top are between the anchors like all else, and of the 21 members that are
missing the last is not named. -/
theorem check_decides_coverage_letters :
    ∃ outcome, runLine host (["check", "-i", "list.txt", "-p", "pattern.txt"].map String.toList)
        lettersAndPattern = (outcome, lettersAndPattern) ∧
      outcome.exit = 1 ∧
      outcome.output.take 4 = ["Checked 'pattern.txt' against 'list.txt'", "  Suffixes: 23",
        "  Missing:  21", "    b"] ∧
      outcome.output.getLast? = some "    ... and 1 more" := by
  let text := "abcdefghijklmnopqrstuvw".toList.flatMap ([·, '\n'])
  let e : Expr := .alt (.char 'a') (.char 'w')
  have hread : Expr.read? (Text.trimEnd Unicode.isBlank "a|w\n".toList) = some e := by
    decide +kernel
  have hparse : SuffixList.parse text =
      .ok (SuffixList.readText (.pure Decoding.decode) () text).list := by rfl
  obtain ⟨outcome, hrun, houtput, -, hexit⟩ := (@check_decides_coverage
    (["check", "-i", "list.txt", "-p", "pattern.txt"].map String.toList) "list.txt".toList
    "pattern.txt".toList text "a|w\n".toList lettersAndPattern _ (by decide) (by decide +kernel)
    hparse (by decide +kernel) (fun e' he' => by
      rw [hread] at he'
      cases he'
      decide)).1 e hread
  refine ⟨outcome, hrun, hexit (by decide +kernel), ?_, ?_⟩
  · rw [houtput]
    decide +kernel
  · rw [houtput]
    decide +kernel

end Command
end SuffixPattern
