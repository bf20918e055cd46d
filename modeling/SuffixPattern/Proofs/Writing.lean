import SuffixPattern.Proofs.HostRuns
import SuffixPattern.Proofs.Places

/-!
# SuffixPattern.Proofs.Writing

What a row of files leaves in a file system that writes them one after the other.

* A file is written as a whole or not at all, and no other operation does anything to files
  (`behaves_host`).
* So a row of files is written up to the first that cannot be (`writeAll_cases`). Where several of
  them lead to the same place, the last one stands there (`AreWritten.file?_of_last`).
-/

namespace SuffixPattern
namespace FileSystem

/-! ## Making directories -/

/-- The files are what they were, and all directories are still there. -/
structure HasFilesOf (fs' fs : FileSystem) : Prop where
  grown : fs'.Extends fs
  files : ∀ q, fs'.file? q = fs.file? q

theorem HasFilesOf.refl (fs : FileSystem) : fs.HasFilesOf fs := ⟨.refl fs, fun _ => rfl⟩

theorem HasFilesOf.trans {fs fs' fs'' : FileSystem} (h' : fs''.HasFilesOf fs')
    (h : fs'.HasFilesOf fs) : fs''.HasFilesOf fs :=
  ⟨h'.grown.trans h.grown, fun q => (h'.files q).trans (h.files q)⟩

/-- The action does nothing to files. -/
def KeepsFiles {α : Type} (action : StateM FileSystem α) : Prop :=
  ∀ fs, FileSystem.HasFilesOf (action fs).2 fs

namespace KeepsFiles

theorem isDirectory (path : Text) : KeepsFiles (host.isDirectory path) := fun fs => .refl fs

theorem makeDirectory (path : Text) : KeepsFiles (host.makeDirectory path) := by
  intro fs
  have happly : host.makeDirectory path fs = change (·.makeDirectory path) fs := rfl
  rw [happly, change]
  cases hmake : fs.makeDirectory path with
  | error fault => exact .refl fs
  | ok fs' => exact ⟨extends_of_makeDirectory hmake, file?_of_makeDirectory hmake⟩

end KeepsFiles

/-! ## Writing a file -/

/-- The path leads to a file with these contents, and all other files are what they were. -/
structure IsWritten (path contents : Text) (fs fs' : FileSystem) : Prop where
  grown : fs'.Extends fs
  file : Path.namesDirectory path = false
  place : ∃ place, fs'.resolve path = .ok place ∧
    ∀ q, fs'.file? q = if q = place then some (encodeText contents) else fs.file? q

variable {fs fs' : FileSystem} {path contents : Text} {files : List (Text × Text)} {q : List Text}

theorem IsWritten.of_writeFile (h : fs.writeFile path contents = .ok fs') :
    IsWritten path contents fs fs' := by
  obtain ⟨place, hresolve, hname, hfile⟩ := file?_of_writeFile h
  exact ⟨extends_of_writeFile h, hname, place, hresolve, hfile⟩

theorem IsWritten.of_hasFilesOf {made : FileSystem} (hmade : made.HasFilesOf fs)
    (h : IsWritten path contents made fs') : IsWritten path contents fs fs' := by
  obtain ⟨place, hresolve, hfile⟩ := h.place
  refine ⟨h.grown.trans hmade.grown, h.file, place, hresolve, ?_⟩
  intro q
  rw [hfile q, hmade.files q]

/-- **A file is written as a whole or not at all**, and all else leaves the files alone. -/
theorem behaves_host : host.Behaves (fun fs fs' => fs'.HasFilesOf fs) IsWritten where
  refl := .refl
  trans h h' := h'.trans h
  puts_of_keeps := .of_hasFilesOf
  isDirectory := KeepsFiles.isDirectory
  makeDirectory := KeepsFiles.makeDirectory
  writeFile := by
    intro path contents fs
    have happly : host.writeFile path contents fs = change (·.writeFile path contents) fs := rfl
    rw [happly, change]
    cases hwrite : fs.writeFile path contents with
    | error fault => exact .inr ⟨fault, fs, rfl, .refl fs⟩
    | ok fs' => exact .inl ⟨fs', rfl, .of_writeFile hwrite⟩

/-! ## Writing a row of files -/

/-- The files were written, one after the other. -/
inductive AreWritten : List (Text × Text) → FileSystem → FileSystem → Prop where
  | nil (fs : FileSystem) : AreWritten [] fs fs
  | cons {path contents : Text} {rest : List (Text × Text)} {fs fs' fs'' : FileSystem} :
    IsWritten path contents fs fs' → AreWritten rest fs' fs'' →
      AreWritten ((path, contents) :: rest) fs fs''

theorem AreWritten.of_writes (h : host.Writes IsWritten files fs fs') :
    AreWritten files fs fs' := by
  induction h with
  | nil fs => exact .nil fs
  | cons _ hfile _ ih => exact .cons hfile ih

/-- **Files are written up to the first that cannot be written.** -/
theorem writeAll_cases (files : List (Text × Text)) (fs : FileSystem) :
    (∃ fs', host.writeAll files fs = (.ok (), fs') ∧ AreWritten files fs fs') ∨
      ∃ f fs', host.writeAll files fs = (.error f, fs') ∧
        ∃ before failing after written, files = before ++ failing :: after ∧
          AreWritten before fs written ∧ fs'.HasFilesOf written := by
  rcases behaves_host.writeAll_cases files fs with ⟨fs', hall, hfiles⟩ |
    ⟨f, fs', hall, before, failing, after, written, hsplit, hbefore, -, hkept⟩
  · exact .inl ⟨fs', hall, .of_writes hfiles⟩
  · exact .inr ⟨f, fs', hall, before, failing, after, written, hsplit, .of_writes hbefore, hkept⟩

namespace AreWritten

theorem grown (h : AreWritten files fs fs') : fs'.Extends fs := by
  induction h with
  | nil fs => exact .refl fs
  | cons hfile _ ih => exact ih.trans hfile.grown

/-- What no path leads to stays as it was. -/
theorem file?_of_forall_ne (h : AreWritten files fs fs')
    (hq : ∀ f ∈ files, fs'.resolve f.1 ≠ .ok q) : fs'.file? q = fs.file? q := by
  induction h with
  | nil fs => rfl
  | cons hfile hrest ih =>
    rw [List.forall_mem_cons] at hq
    obtain ⟨place, hresolve, hfiles⟩ := hfile.place
    rw [ih hq.2, hfiles q, if_neg]
    rintro rfl
    exact hq.1 (resolve_of_extends hrest.grown hresolve)

/-- **What was written last stands there.** -/
theorem file?_of_last {before after : List (Text × Text)} {f : Text × Text}
    (h : AreWritten (before ++ f :: after) fs fs') (hf : fs'.resolve f.1 = .ok q)
    (hafter : ∀ g ∈ after, fs'.resolve g.1 ≠ .ok q) :
    fs'.file? q = some (encodeText f.2) := by
  induction before generalizing fs with
  | nil =>
    cases h with
    | cons hfile hrest =>
      obtain ⟨place, hresolve, hfiles⟩ := hfile.place
      obtain rfl : place = q :=
        Except.ok.inj ((resolve_of_extends hrest.grown hresolve).symm.trans hf)
      rw [hrest.file?_of_forall_ne hafter, hfiles, if_pos rfl]
  | cons first before ih =>
    cases h with
    | cons _ hrest => exact ih hrest

/-- Files that lead to different places replace what was there before, but not each other. -/
theorem file?_eq_iff {t : Text} (h : AreWritten files fs fs')
    (hapart : files.Pairwise fun f g => ∀ q, fs'.resolve f.1 = .ok q → fs'.resolve g.1 ≠ .ok q)
    (hq : fs.file? q = some (encodeText t)) :
    fs'.file? q = some (encodeText t) ↔ ∀ f ∈ files, fs'.resolve f.1 = .ok q → f.2 = t := by
  by_cases hleads : ∃ f ∈ files, fs'.resolve f.1 = .ok q
  · obtain ⟨f, hf, hfq⟩ := hleads
    obtain ⟨before, after, rfl⟩ := List.append_of_mem hf
    obtain ⟨-, hcons, hbefore⟩ := List.pairwise_append.1 hapart
    have hafter : ∀ g ∈ after, fs'.resolve g.1 ≠ .ok q :=
      fun g hg => (List.pairwise_cons.1 hcons).1 g hg q hfq
    rw [h.file?_of_last hfq hafter]
    constructor
    · intro heq g hg hgq
      rcases List.mem_append.1 hg with hg | hg
      · exact absurd hfq (hbefore g hg f (.head _) q hgq)
      · rcases List.mem_cons.1 hg with rfl | hg
        · exact encodeText_injective (Option.some.inj heq)
        · exact absurd hgq (hafter g hg)
    · intro hall
      rw [hall f hf hfq]
  · have hne : ∀ f ∈ files, fs'.resolve f.1 ≠ .ok q := fun f hf hfq => hleads ⟨f, hf, hfq⟩
    rw [h.file?_of_forall_ne hne]
    exact iff_of_true hq fun f hf hfq => absurd hfq (hne f hf)

end AreWritten
end FileSystem
end SuffixPattern
