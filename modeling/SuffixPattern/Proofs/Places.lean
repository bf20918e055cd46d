import Mathlib.Tactic.SplitIfs
import SuffixPattern.CommandLine.FileSystem

/-!
# SuffixPattern.Proofs.Places

What the operations of a system do to its files and directories.

* `file?` is what the file at a place holds. Making a directory changes no file
  (`file?_of_makeDirectory`), writing a file changes this one only (`file?_of_writeFile`).
* A directory stays a directory (`Extends`). So a path that leads somewhere leads there for good
  (`resolve_of_extends`).
* A name below a directory leads to a place with this name (`getLast?_of_resolve_join`), however the
  directory is written.
-/

namespace SuffixPattern

/-! ## Names -/

theorem Text.pieces_ne_nil (sep : Char) (t : Text) : t.pieces sep ≠ [] := by
  cases t with
  | nil => exact List.cons_ne_nil _ _
  | cons c rest =>
    rw [pieces]
    split_ifs
    · exact List.cons_ne_nil _ _
    · split <;> exact List.cons_ne_nil _ _

theorem Text.pieces_append_cons (sep : Char) (t rest : Text) :
    pieces sep (t ++ sep :: rest) = pieces sep t ++ pieces sep rest := by
  induction t with
  | nil => simp [pieces]
  | cons c t ih =>
    rw [List.cons_append, pieces, pieces, ih]
    split_ifs
    · rfl
    · cases h : pieces sep t with
      | nil => exact absurd h (pieces_ne_nil sep t)
      | cons piece more => rfl

theorem Text.pieces_eq_singleton {sep : Char} {t : Text} (h : sep ∉ t) : pieces sep t = [t] := by
  induction t with
  | nil => rfl
  | cons c t ih =>
    rw [List.mem_cons, not_or] at h
    rw [pieces, if_neg (Ne.symm h.1), ih h.2]

namespace Path

/-- What can stand between two slashes and leads from a directory to something in it. -/
structure IsName (name : Text) : Prop where
  noSlash : '/' ∉ name
  nonempty : name ≠ []
  noDot : name ≠ ['.']
  noDots : name ≠ ['.', '.']

variable {name : Text}

theorem names_of_isName (h : IsName name) : names name = [name] := by
  simp [names, Text.pieces_eq_singleton h.noSlash, h.nonempty]

/-- The way to a name below a directory ends with the name. -/
theorem exists_names_join (directory : Text) (h : IsName name) :
    ∃ before, names (join directory name) = before ++ [name] := by
  have hslash (above : Text) : names (above ++ '/' :: name) = names above ++ [name] := by
    have hname := names_of_isName h
    unfold names at hname ⊢
    rw [Text.pieces_append_cons, List.filter_append, hname]
  rw [join]
  split_ifs with hends
  · rcases hends with rfl | hends
    · exact ⟨[], names_of_isName h⟩
    · obtain ⟨above, rfl⟩ := List.getLast?_eq_some_iff.1 hends
      rw [List.append_assoc]
      exact ⟨names above, hslash above⟩
  · exact ⟨names directory, hslash directory⟩

end Path

namespace FileSystem

variable {fs fs' fs'' : FileSystem} {path contents : Text} {place q : List Text}

/-! ## Entries -/

theorem entry?_of_isAbove (h : isAbove place = true) : fs.entry? place = some .directory := by
  unfold entry?
  exact if_pos h

theorem entry?_put (h : isAbove place = false) (e : FileEntry) (q : List Text) :
    FileSystem.entry? (fs.put place e) q = if q = place then some e else fs.entry? q := by
  by_cases hq : isAbove q = true
  · have hne : q ≠ place := by
      rintro rfl
      rw [h] at hq
      cases hq
    rw [entry?_of_isAbove hq, entry?_of_isAbove hq, if_neg hne]
  · unfold entry?
    rw [if_neg hq, if_neg hq]
    exact SortedMap.get?_insert place q e fs.entries

/-- What the file at a place holds, if there is a file. -/
def file? (fs : FileSystem) (place : List Text) : Option (List UInt8) :=
  match fs.entry? place with
  | some (.file contents) => some contents
  | _ => none

theorem entry?_eq_file_iff {bytes : List UInt8} :
    fs.entry? place = some (.file bytes) ↔ fs.file? place = some bytes := by
  unfold file?
  split
  · rename_i contents h
    simp [h]
  · rename_i h
    simp only [reduceCtorEq, iff_false]
    exact h bytes

/-! ## Directories -/

/-- All directories of another system are there. -/
def Extends (fs' fs : FileSystem) : Prop :=
  ∀ place, fs.entry? place = some .directory → fs'.entry? place = some .directory

theorem Extends.refl (fs : FileSystem) : fs.Extends fs := fun _ h => h

theorem Extends.trans (h' : fs''.Extends fs') (h : fs'.Extends fs) : fs''.Extends fs :=
  fun place hplace => h' place (h place hplace)

theorem extends_put (h : isAbove place = false) (hplace : fs.entry? place ≠ some .directory)
    (e : FileEntry) : (fs.put place e).Extends fs := by
  intro q hq
  rw [entry?_put h, if_neg]
  · exact hq
  · rintro rfl
    exact hplace hq

/-- Where a name leads from a directory. -/
def follow (place : List Text) (name : Text) : Except Fault (List Text) :=
  if name = ['.'] then .ok place
  else if name = ['.', '.'] ∧ !isAbove place then .ok place.dropLast
  else if name.byteLength ≤ longestName then .ok (place ++ [name])
  else .error .nameTooLong

theorem walk_cons_eq_ok_iff {start : List Text} {name : Text} {rest : List Text} :
    fs.walk start (name :: rest) = .ok place ↔ fs.entry? start = some .directory ∧
      ∃ next, follow start name = .ok next ∧ fs.walk next rest = .ok place := by
  rw [walk, follow]
  cases fs.entry? start with
  | none => simp
  | some e =>
    cases e with
    | file bytes => simp
    | directory =>
      simp only
      split_ifs <;> simp

theorem walk_of_extends (h : fs'.Extends fs) {names : List Text} {start : List Text}
    (hwalk : fs.walk start names = .ok place) : fs'.walk start names = .ok place := by
  induction names generalizing start with
  | nil => exact hwalk
  | cons name rest ih =>
    obtain ⟨hentry, next, hnext, hrest⟩ := walk_cons_eq_ok_iff.1 hwalk
    exact walk_cons_eq_ok_iff.2 ⟨h start hentry, next, hnext, ih hrest⟩

/-- **A path that leads somewhere leads there for good.** -/
theorem resolve_of_extends (h : fs'.Extends fs) (hresolve : fs.resolve path = .ok place) :
    fs'.resolve path = .ok place := by
  unfold resolve at hresolve ⊢
  split_ifs at hresolve ⊢
  · exact walk_of_extends h hresolve
  · exact walk_of_extends h hresolve

theorem walk_append {start before after : List Text}
    (h : fs.walk start (before ++ after) = .ok place) :
    ∃ middle, fs.walk start before = .ok middle ∧ fs.walk middle after = .ok place := by
  induction before generalizing start with
  | nil => exact ⟨start, rfl, h⟩
  | cons name rest ih =>
    obtain ⟨hentry, next, hnext, hrest⟩ := walk_cons_eq_ok_iff.1 h
    obtain ⟨middle, hbefore, hafter⟩ := ih hrest
    exact ⟨middle, walk_cons_eq_ok_iff.2 ⟨hentry, next, hnext, hbefore⟩, hafter⟩

theorem walk_name {start : List Text} {name : Text} (hname : Path.IsName name)
    (h : fs.walk start [name] = .ok place) : place = start ++ [name] := by
  obtain ⟨-, next, hnext, hrest⟩ := walk_cons_eq_ok_iff.1 h
  obtain rfl : next = place := Except.ok.inj hrest
  rw [follow, if_neg hname.noDot, if_neg fun h => hname.noDots h.1] at hnext
  split_ifs at hnext
  exact (Except.ok.inj hnext).symm

/-- **A name below a directory leads to a place with this name.** -/
theorem getLast?_of_resolve_join {directory name : Text} (hname : Path.IsName name)
    (h : fs.resolve (Path.join directory name) = .ok place) : place.getLast? = some name := by
  obtain ⟨before, hnames⟩ := Path.exists_names_join directory hname
  rw [resolve, hnames] at h
  split_ifs at h
  · obtain ⟨middle, -, hlast⟩ := walk_append h
    rw [walk_name hname hlast, List.getLast?_concat]
  · obtain ⟨middle, -, hlast⟩ := walk_append h
    rw [walk_name hname hlast, List.getLast?_concat]

/-! ## Operations -/

theorem writeFile_eq_ok_iff :
    fs.writeFile path contents = .ok fs' ↔ ∃ place, fs.resolve path = .ok place ∧
      Path.namesDirectory path = false ∧ fs.entry? place ≠ some .directory ∧
      fs' = fs.put place (.file (encodeText contents)) := by
  unfold writeFile
  cases fs.resolve path with
  | error fault => simp
  | ok place =>
    simp only [Except.ok.injEq, exists_eq_left']
    split_ifs with hdirectory
    · simp only [false_iff]
      rintro ⟨hname, hentry, -⟩
      rcases hdirectory with h | h
      · rw [hname] at h
        cases h
      · exact hentry h
    · rw [not_or, Bool.not_eq_true] at hdirectory
      simp [hdirectory, eq_comm]

theorem makeDirectory_eq_ok_iff :
    fs.makeDirectory path = .ok fs' ↔ ∃ place, fs.resolve path = .ok place ∧
      fs.entry? place = none ∧ fs' = fs.put place .directory := by
  unfold makeDirectory
  cases fs.resolve path with
  | error fault => simp
  | ok place =>
    simp only [Except.ok.injEq, exists_eq_left']
    cases hentry : fs.entry? place with
    | none => simp [eq_comm]
    | some e => simp

theorem isAbove_eq_false (h : fs.entry? place ≠ some .directory) : isAbove place = false := by
  rw [← Bool.not_eq_true]
  exact fun habove => h (entry?_of_isAbove habove)

theorem extends_of_makeDirectory (h : fs.makeDirectory path = .ok fs') : fs'.Extends fs := by
  obtain ⟨place, -, hentry, rfl⟩ := makeDirectory_eq_ok_iff.1 h
  have hplace : fs.entry? place ≠ some .directory := by simp [hentry]
  exact extends_put (isAbove_eq_false hplace) hplace _

/-- Making a directory changes no file. -/
theorem file?_of_makeDirectory (h : fs.makeDirectory path = .ok fs') (q : List Text) :
    fs'.file? q = fs.file? q := by
  obtain ⟨place, -, hentry, rfl⟩ := makeDirectory_eq_ok_iff.1 h
  have hplace : fs.entry? place ≠ some .directory := by simp [hentry]
  rw [file?, file?, entry?_put (isAbove_eq_false hplace)]
  split_ifs with hq
  · rw [hq, hentry]
  · rfl

theorem extends_of_writeFile (h : fs.writeFile path contents = .ok fs') : fs'.Extends fs := by
  obtain ⟨place, -, -, hplace, rfl⟩ := writeFile_eq_ok_iff.1 h
  exact extends_put (isAbove_eq_false hplace) hplace _

/-- Writing a file changes what the path leads to, and no other file. -/
theorem file?_of_writeFile (h : fs.writeFile path contents = .ok fs') :
    ∃ place, fs'.resolve path = .ok place ∧ Path.namesDirectory path = false ∧
      ∀ q, fs'.file? q = if q = place then some (encodeText contents) else fs.file? q := by
  have hextends := extends_of_writeFile h
  obtain ⟨place, hresolve, hname, hplace, rfl⟩ := writeFile_eq_ok_iff.1 h
  refine ⟨place, resolve_of_extends hextends hresolve, hname, fun q => ?_⟩
  rw [file?, file?, entry?_put (isAbove_eq_false hplace)]
  split_ifs <;> rfl

/-! ## Reading -/

theorem readBytes_eq_ok_iff {bytes : List UInt8} :
    fs.readBytes path = .ok bytes ↔ ∃ place, fs.resolve path = .ok place ∧
      Path.namesDirectory path = false ∧ fs.file? place = some bytes := by
  unfold readBytes
  cases fs.resolve path with
  | error fault => simp
  | ok place =>
    simp only [Except.ok.injEq, exists_eq_left', ← entry?_eq_file_iff]
    cases hentry : fs.entry? place with
    | none => simp
    | some e =>
      cases e with
      | directory => simp
      | file contents =>
        cases Path.namesDirectory path with
        | true => simp
        | false => simp

theorem decodeText_eq_ok_iff {bytes : List UInt8} {t : Text} :
    decodeText bytes = .ok t ↔ bytes = encodeText t := by
  unfold decodeText String.fromUTF8?
  constructor
  · intro h
    split_ifs at h with hvalid
    obtain rfl := Except.ok.inj h
    rw [encodeText, String.ofList_toList]
    rfl
  · rintro rfl
    have hvalid : (⟨⟨encodeText t⟩⟩ : ByteArray).IsValidUTF8 := (String.ofList t).isValidUTF8
    rw [dif_pos hvalid]
    exact congrArg Except.ok (String.toList_ofList (l := t))

theorem encodeText_injective {t t' : Text} (h : encodeText t = encodeText t') : t = t' := by
  have hdecode := decodeText_eq_ok_iff.2 h
  rw [decodeText_eq_ok_iff.2 rfl] at hdecode
  exact Except.ok.inj hdecode

theorem readText_eq_ok_iff {t : Text} :
    fs.readText path = .ok t ↔ fs.readBytes path = .ok (encodeText t) := by
  unfold readText
  cases fs.readBytes path with
  | error fault => simp
  | ok bytes => simp [decodeText_eq_ok_iff]

theorem readText_eq_ok_iff_file? {t : Text} (hresolve : fs.resolve path = .ok place)
    (hname : Path.namesDirectory path = false) :
    fs.readText path = .ok t ↔ fs.file? place = some (encodeText t) := by
  simp [readText_eq_ok_iff, readBytes_eq_ok_iff, hresolve, hname]

end FileSystem
end SuffixPattern
