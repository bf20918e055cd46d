import SuffixPattern.Diagnostics
import SuffixPattern.Proofs.Compaction
import SuffixPattern.Proofs.JsonReading

/-!
# SuffixPattern.Proofs.DiagnosticsReading

What is read back from the diagnostics of a compilation: both pairs of trees and the decoded labels,
as they were (`diagnostics_lose_nothing`), from either layout. A node says nothing of a mark that it
has not and of children that it has not, and is read back from what it says, since children are
written in the order in which they are kept.

* `Json.node?`: the node that a value stands for.
* `Forest.forest?_members`: a forest with its keys in order is read back from its members.
* `Diagnostics.read?`: the trees and labels that a text tells of.
-/

namespace SuffixPattern

/-! ## Members -/

/-- The value of the first member with a name. -/
def Members.get? (name : Text) : Members → Option Json
  | .nil => none
  | .cons key value rest => if key = name then some value else rest.get? name

def Json.get? (name : Text) : Json → Option Json
  | .object members => members.get? name
  | _ => none

def Json.text? : Json → Option Text
  | .string t => some t
  | _ => none

/-! ## Nodes -/

section Nodes

variable {κ : Type} [Ranked κ] (key? : Text → Option κ)

mutual

/-- The node that a value stands for. -/
def Json.node? : Json → Option (Node κ)
  | .object fields => fields.node?
  | _ => none

/-- The node that has the given fields. A mark that is not given is not set, and children that are
not given are not there. -/
def Members.node? : Members → Option (Node κ)
  | .nil => some {}
  | .cons name (.bool b) rest =>
    if name = "terminal".toList then rest.node?.map fun n => { n with terminal := b } else none
  | .cons name (.object below) rest =>
    if name = "children".toList then
      below.forest?.bind fun f => rest.node?.map fun n => { n with children := f }
    else none
  | .cons _ (.string _) _ => none

/-- The children that members stand for, each put at its place among the others. -/
def Members.forest? : Members → Option (Forest κ)
  | .nil => some .nil
  | .cons name child rest =>
    (key? name).bind fun k => child.node?.bind fun n => rest.forest?.map fun f => f.place k n

end

variable {key?}

theorem Json.node?_ofNode {members : Members} {f : Forest κ}
    (h : members.forest? key? = some f) (t : Bool) :
    (Json.ofNode t members).node? key? = some ⟨t, f⟩ := by
  cases members with
  | nil =>
    rw [Members.forest?] at h
    cases h
    cases t with
    | false => simp [Json.ofNode, Json.node?, Members.node?]
    | true => simp [Json.ofNode, Json.node?, Members.node?]
  | cons name child rest =>
    cases t with
    | false => simp [Json.ofNode, Json.node?, Members.node?, h]
    | true => simp [Json.ofNode, Json.node?, Members.node?, h]

namespace Forest

theorem place_of_before {k : κ} {rest : Forest κ}
    (h : ∀ k' ∈ rest.keys, Ranked.before k k' = true) (n : Node κ) :
    rest.place k n = .cons k n.terminal n.children rest := by
  cases rest with
  | nil => rfl
  | cons k' t below rest =>
    have hk : Ranked.before k k' = true := h k' (.head _)
    rw [place, if_pos hk]

/-- **A forest is read back from its members**, if its keys are and stand in order. -/
theorem forest?_members {spell : κ → Text} (hkey : ∀ k, key? (spell k) = some k) {f : Forest κ}
    (hf : f.IsSorted) : (f.members spell).forest? key? = some f := by
  induction f with
  | nil => rfl
  | cons k t below rest ihb ihr =>
    obtain ⟨hk, hbelow, hrest⟩ := hf
    have hnode := Json.node?_ofNode (ihb hbelow) t
    rw [members, Members.forest?, hkey, hnode, ihr hrest]
    simp [place_of_before hk]

end Forest

theorem Node.node?_json {spell : κ → Text} (hkey : ∀ k, key? (spell k) = some k) {n : Node κ}
    (hn : n.children.IsSorted) : (n.json spell).node? key? = some n :=
  Json.node?_ofNode (Forest.forest?_members hkey hn) n.terminal

end Nodes

/-! ## Trees -/

/-- A key of one character. -/
def charKey? : Text → Option Char
  | [c] => some c
  | _ => none

namespace Json

/-- A tree is told by its orientation and its root. -/
def tree? {α : Type} (root? : Json → Option α) (j : Json) : Option (Orientation × α) := do
  let name ← (← j.get? "orientation".toList).text?
  let root ← root? (← j.get? "root".toList)
  some (← Orientation.ofName? name, root)

def trie? (j : Json) : Option Trie :=
  (j.tree? (node? charKey?)).map fun (o, root) => ⟨o, root⟩

def compactTrie? (j : Json) : Option CompactTrie :=
  (j.tree? (node? some)).map fun (o, root) => ⟨o, root⟩

/-- The two halves of a list. -/
def pair? {α : Type} (half? : Json → Option α) (j : Json) : Option (α × α) := do
  let literal ← half? (← j.get? "literal".toList)
  let decoded ← half? (← j.get? "decoded".toList)
  some (literal, decoded)

theorem tree?_ofRoot {α : Type} {root? : Json → Option α} {root : Json} {a : α}
    (h : root? root = some a) (o : Orientation) :
    (Diagnostics.ofRoot o root).tree? root? = some (o, a) := by
  have hname : Orientation.ofName? o.name.toList = some o := by
    cases o with
    | fromEnd => decide
    | fromStart => decide
  simp [tree?, Diagnostics.ofRoot, get?, Members.ofList, Members.get?, text?, hname, h]

theorem pair?_pair {α : Type} {half? : Json → Option α} {literal decoded : Json} {a b : α}
    (hliteral : half? literal = some a) (hdecoded : half? decoded = some b) :
    (Diagnostics.pair literal decoded).pair? half? = some (a, b) := by
  simp [pair?, Diagnostics.pair, get?, Members.ofList, Members.get?, hliteral, hdecoded]

end Json

theorem Trie.IsBuilt.trie?_ofTrie {t : Trie} (h : t.IsBuilt) :
    (Diagnostics.ofTrie t).trie? = some t := by
  have hkey : ∀ c : Char, charKey? [c] = some c := fun _ => rfl
  have hroot := Node.node?_json hkey h.sorted
  rw [Diagnostics.ofTrie, Json.trie?, Json.tree?_ofRoot hroot]
  rfl

theorem Trie.IsBuilt.compactTrie?_ofCompactTrie {t : Trie} (h : t.IsBuilt) :
    (Diagnostics.ofCompactTrie t.compact).compactTrie? = some t.compact := by
  have hsorted : t.compact.root.children.IsSorted :=
    Forest.isSorted_of_isSpread (Forest.isSpread_compact h.sorted)
  have hkey : ∀ label : Text, some (id label) = some label := fun _ => rfl
  have hroot := Node.node?_json hkey hsorted
  rw [Diagnostics.ofCompactTrie, Json.compactTrie?, Json.tree?_ofRoot hroot]
  rfl

/-! ## Labels -/

/-- The map that members stand for, each put at its place among the others. -/
def Members.labels? : Members → Option (SortedMap Text Text)
  | .nil => some .empty
  | .cons label form rest =>
    form.text?.bind fun form => rest.labels?.map fun labels => labels.insert label form

def Json.labels? : Json → Option (SortedMap Text Text)
  | .object members => members.labels?
  | _ => none

theorem SortedMap.insert_of_before {κ β : Type} [Ranked κ] {e : κ × β} {m : SortedMap κ β}
    (h : ∀ x ∈ m.entries, Ranked.before e.1 x.1 = true) :
    m.insert e.1 e.2 = ⟨e :: m.entries, .cons h m.ascending⟩ := by
  obtain ⟨entries, ascending⟩ := m
  cases entries with
  | nil => rfl
  | cons x rest =>
    have hx : Ranked.before e.1 x.1 = true := h x (.head _)
    simp [insert, place, hx]

theorem Json.labels?_decodedLabels (m : SortedMap Text Text) :
    (Diagnostics.decodedLabels m).labels? = some m := by
  obtain ⟨entries, ascending⟩ := m
  induction entries with
  | nil => rfl
  | cons e rest ih =>
    obtain ⟨hbefore, hrest⟩ := List.pairwise_cons.1 ascending
    have hlabels : (Members.ofList (rest.map fun e => (e.1, .string e.2))).labels? =
        some ⟨rest, hrest⟩ := ih hrest
    have hinsert := SortedMap.insert_of_before (m := ⟨rest, hrest⟩) hbefore
    show (Members.cons e.1 (.string e.2)
      (Members.ofList (rest.map fun e => (e.1, .string e.2)))).labels? = _
    simp [Members.labels?, Json.text?, hlabels, hinsert]

/-! ## Diagnostics -/

namespace Diagnostics

/-- What diagnostics are about: the trees of the two halves, the compact trees, and the decoded
labels. -/
structure Content where
  literal : Trie
  decoded : Trie
  literalCompact : CompactTrie
  decodedCompact : CompactTrie
  decodedLabels : SortedMap Text Text

/-- What the diagnostics of a compilation are about. -/
def content (c : Compilation) : Content :=
  ⟨c.literal, c.decoded, c.literalCompact, c.decodedCompact, c.decodedLabels⟩

/-- What a value tells of. -/
def content? (j : Json) : Option Content := do
  let (literal, decoded) ← (← j.get? "raw".toList).pair? Json.trie?
  let (literalCompact, decodedCompact) ← (← j.get? "compacted".toList).pair? Json.compactTrie?
  let labels ← (← j.get? "decoded_labels".toList).labels?
  some ⟨literal, decoded, literalCompact, decodedCompact, labels⟩

/-- What a text tells of. -/
def read? (t : Text) : Option Content :=
  (Json.read? t).bind content?

theorem content?_ofCompilation (l : SuffixList) (o : Options) :
    content? (ofCompilation (.ofList l o)) = some (content (.ofList l o)) := by
  have hliteral := Trie.isBuilt_ofList o.orientation l.literal.toList
  have hdecoded := Trie.isBuilt_ofList o.orientation l.decoded.toList
  have hraw := Json.pair?_pair hliteral.trie?_ofTrie hdecoded.trie?_ofTrie
  have hcompact := Json.pair?_pair hliteral.compactTrie?_ofCompactTrie
    hdecoded.compactTrie?_ofCompactTrie
  have hlabels := Json.labels?_decodedLabels l.decodedLabels
  simp [content?, ofCompilation, Json.get?, Members.ofList, Members.get?, raw, compacted, content,
    Compilation.ofList, hraw, hcompact, hlabels]

theorem read?_compact (l : SuffixList) (o : Options) :
    read? (ofCompilation (.ofList l o)).compact = some (content (.ofList l o)) := by
  rw [read?, Json.read?_compact]
  exact content?_ofCompilation l o

theorem read?_pretty (l : SuffixList) (o : Options) :
    read? (ofCompilation (.ofList l o)).pretty = some (content (.ofList l o)) := by
  rw [read?, Json.read?_pretty]
  exact content?_ofCompilation l o

theorem ofCompilation_eq {c c' : Compilation} (h : content c = content c') :
    ofCompilation c = ofCompilation c' := by
  obtain ⟨hliteral, hdecoded, hliteralCompact, hdecodedCompact, hlabels⟩ := Content.mk.inj h
  simp [ofCompilation, raw, compacted, hliteral, hdecoded, hliteralCompact, hdecodedCompact,
    hlabels]

/-- Texts that are read back are the same if and only if what they are about is. -/
theorem eq_iff_of_read? {layout : Json → Text}
    (hread : ∀ l o, read? (layout (ofCompilation (.ofList l o))) = some (content (.ofList l o)))
    (l l' : SuffixList) (o o' : Options) :
    layout (ofCompilation (.ofList l o)) = layout (ofCompilation (.ofList l' o')) ↔
      content (.ofList l o) = content (.ofList l' o') := by
  constructor
  · intro h
    have hcontent := hread l o
    rw [h, hread l' o'] at hcontent
    exact (Option.some.inj hcontent).symm
  · intro h
    rw [ofCompilation_eq h]

/-- **Diagnostics lose nothing.** Either layout of them is read back as the trees, the compact trees
and the decoded labels of the compilation, whatever characters there are in the list. So the texts
for two compilations are the same if and only if these are. -/
theorem diagnostics_lose_nothing (l : SuffixList) (o : Options) :
    read? (ofCompilation (.ofList l o)).compact = some (content (.ofList l o)) ∧
      read? (ofCompilation (.ofList l o)).pretty = some (content (.ofList l o)) ∧
      ∀ (l' : SuffixList) (o' : Options),
        ((ofCompilation (.ofList l o)).compact = (ofCompilation (.ofList l' o')).compact ↔
          content (.ofList l o) = content (.ofList l' o')) ∧
        ((ofCompilation (.ofList l o)).pretty = (ofCompilation (.ofList l' o')).pretty ↔
          content (.ofList l o) = content (.ofList l' o')) := by
  refine ⟨read?_compact l o, read?_pretty l o, ?_⟩
  intro l' o'
  exact ⟨eq_iff_of_read? read?_compact l l' o o', eq_iff_of_read? read?_pretty l l' o o'⟩

end Diagnostics
end SuffixPattern
