import SuffixPattern.Ranked

/-!
# SuffixPattern.SortedMap

Finite maps from a strict linear order, kept as lists of entries with ascending keys, so that equal
maps are equal values (`ext`). `mem_insert` says what an insertion does to the entries.
-/

namespace SuffixPattern

open Ranked (before)

structure SortedMap (κ β : Type) [Ranked κ] where
  entries : List (κ × β)
  ascending : entries.Pairwise fun x y => before x.1 y.1

namespace SortedMap

variable {κ β : Type} [Ranked κ]

instance [DecidableEq κ] [DecidableEq β] : DecidableEq (SortedMap κ β) := fun s t =>
  match s, t with
  | ⟨l, _⟩, ⟨m, _⟩ => if h : l = m then .isTrue (by subst h; rfl) else .isFalse (by simp [h])

def empty : SortedMap κ β := ⟨[], .nil⟩

def size (m : SortedMap κ β) : Nat := m.entries.length

def keys (m : SortedMap κ β) : List κ := m.entries.map Prod.fst

/-- The values in the order of their keys. -/
def values (m : SortedMap κ β) : List β := m.entries.map Prod.snd

/-- The value of the entry with the given key. -/
def get? [DecidableEq κ] (m : SortedMap κ β) (k : κ) : Option β :=
  (m.entries.find? fun e => e.1 = k).map Prod.snd

/-! ## Insertion -/

/-- Puts an entry at its place, instead of an entry with the same key. -/
def place (k : κ) (b : β) : List (κ × β) → List (κ × β)
  | [] => [(k, b)]
  | e :: rest =>
    if before k e.1 then (k, b) :: e :: rest
    else if before e.1 k then e :: place k b rest
    else (k, b) :: rest

theorem eq_or_mem_of_mem_place {k : κ} {b : β} {x : κ × β} {l : List (κ × β)}
    (h : x ∈ place k b l) : x = (k, b) ∨ x ∈ l := by
  induction l with
  | nil => simpa [place] using h
  | cons e rest ih =>
    rw [place] at h
    split at h
    · simpa using h
    · split at h
      · rcases List.mem_cons.1 h with rfl | h
        · exact .inr (.head _)
        · exact (ih h).imp_right (.tail _)
      · rcases List.mem_cons.1 h with rfl | h
        · exact .inl rfl
        · exact .inr (.tail _ h)

theorem pairwise_place {k : κ} {b : β} {l : List (κ × β)}
    (h : l.Pairwise fun x y => before x.1 y.1) :
    (place k b l).Pairwise fun x y => before x.1 y.1 := by
  induction l with
  | nil => simp [place]
  | cons e rest ih =>
    rw [List.pairwise_cons] at h
    rw [place]
    split
    · rename_i hke
      refine .cons (fun x hx => ?_) (.cons h.1 h.2)
      cases hx with
      | head => exact hke
      | tail _ hx => exact Ranked.trans k e.1 x.1 hke (h.1 x hx)
    · split
      · rename_i hek
        refine .cons (fun x hx => ?_) (ih h.2)
        rcases eq_or_mem_of_mem_place hx with rfl | hx
        · exact hek
        · exact h.1 x hx
      · rename_i h₁ h₂
        refine .cons (fun x hx => ?_) h.2
        have : k = e.1 := Ranked.total k e.1 (Bool.eq_false_iff.2 h₁) (Bool.eq_false_iff.2 h₂)
        exact this ▸ h.1 x hx

def insert (k : κ) (b : β) (m : SortedMap κ β) : SortedMap κ β :=
  ⟨place k b m.entries, pairwise_place m.ascending⟩

def ofList (l : List (κ × β)) : SortedMap κ β :=
  l.foldl (fun m e => m.insert e.1 e.2) empty

/-! ## Entries -/

theorem mem_place {k : κ} {b : β} {x : κ × β} {l : List (κ × β)}
    (h : l.Pairwise fun x y => before x.1 y.1) :
    x ∈ place k b l ↔ x = (k, b) ∨ x.1 ≠ k ∧ x ∈ l := by
  induction l with
  | nil => simp [place]
  | cons e rest ih =>
    rw [List.pairwise_cons] at h
    rw [place]
    split
    · rename_i hke
      -- The new key comes before all the others.
      have hne : ∀ y ∈ e :: rest, y.1 ≠ k := by
        intro y hy
        rcases List.mem_cons.1 hy with rfl | hy
        · exact (Ranked.ne_of_before hke).symm
        · exact (Ranked.ne_of_before (Ranked.trans k e.1 y.1 hke (h.1 y hy))).symm
      rw [List.mem_cons]
      exact or_congr_right ⟨fun hx => ⟨hne x hx, hx⟩, fun hx => hx.2⟩
    · split
      · rename_i hek
        rw [List.mem_cons, List.mem_cons, ih h.2, and_or_left, or_left_comm]
        refine or_congr_right (or_congr_left ⟨?_, fun hx => hx.2⟩)
        rintro rfl
        exact ⟨Ranked.ne_of_before hek, rfl⟩
      · rename_i h₁ h₂
        have hk : k = e.1 := Ranked.total k e.1 (Bool.eq_false_iff.2 h₁) (Bool.eq_false_iff.2 h₂)
        subst hk
        rw [List.mem_cons, List.mem_cons]
        refine or_congr_right ⟨fun hx => ⟨(Ranked.ne_of_before (h.1 x hx)).symm, .inr hx⟩, ?_⟩
        rintro ⟨hne, rfl | hx⟩
        · exact absurd rfl hne
        · exact hx

theorem mem_insert {k : κ} {b : β} {x : κ × β} {m : SortedMap κ β} :
    x ∈ (m.insert k b).entries ↔ x = (k, b) ∨ x.1 ≠ k ∧ x ∈ m.entries :=
  mem_place m.ascending

theorem mem_keys {k : κ} {m : SortedMap κ β} : k ∈ m.keys ↔ ∃ b, (k, b) ∈ m.entries := by
  simp [keys]

theorem mem_values {b : β} {m : SortedMap κ β} : b ∈ m.values ↔ ∃ k, (k, b) ∈ m.entries := by
  simp [values]

theorem not_mem_keys_empty {k : κ} : k ∉ (empty : SortedMap κ β).keys :=
  List.not_mem_nil

theorem mem_keys_insert {k x : κ} {b : β} {m : SortedMap κ β} :
    x ∈ (m.insert k b).keys ↔ x = k ∨ x ∈ m.keys := by
  simp only [mem_keys, mem_insert, Prod.mk.injEq]
  by_cases h : x = k
  · simp [h]
  · simp [h]

/-- A key has one value. -/
theorem eq_of_mem_entries {k : κ} {b b' : β} {m : SortedMap κ β} (h : (k, b) ∈ m.entries)
    (h' : (k, b') ∈ m.entries) : b = b' := by
  obtain ⟨l, ascending⟩ := m
  induction l with
  | nil => cases h
  | cons e rest ih =>
    obtain ⟨hbefore, hrest⟩ := List.pairwise_cons.1 ascending
    rcases List.mem_cons.1 h with rfl | hmem
    · rcases List.mem_cons.1 h' with heq | hmem'
      · exact (Prod.mk.inj heq).2.symm
      · exact absurd rfl (Ranked.ne_of_before (hbefore (k, b') hmem'))
    · rcases List.mem_cons.1 h' with rfl | hmem'
      · exact absurd rfl (Ranked.ne_of_before (hbefore (k, b) hmem))
      · exact ih hrest hmem hmem'

theorem get?_eq_some_iff [DecidableEq κ] {k : κ} {b : β} {m : SortedMap κ β} :
    m.get? k = some b ↔ (k, b) ∈ m.entries := by
  have hfound : ∀ e, m.entries.find? (fun e => e.1 = k) = some e → e ∈ m.entries ∧ e.1 = k :=
    fun e h => ⟨List.mem_of_find?_eq_some h, by simpa using List.find?_some h⟩
  rw [get?, Option.map_eq_some_iff]
  constructor
  · rintro ⟨e, hfind, rfl⟩
    obtain ⟨hmem, rfl⟩ := hfound e hfind
    exact hmem
  · intro h
    cases hfind : m.entries.find? fun e => e.1 = k with
    | none => exact absurd (decide_eq_true rfl) (List.find?_eq_none.1 hfind (k, b) h)
    | some e =>
      obtain ⟨hmem, rfl⟩ := hfound e hfind
      exact ⟨e, rfl, eq_of_mem_entries hmem h⟩

/-- Every key has its value at the same place. -/
theorem map_get?_keys [DecidableEq κ] (m : SortedMap κ β) :
    m.keys.map m.get? = m.values.map some := by
  rw [keys, values, List.map_map, List.map_map]
  exact List.map_congr_left fun e he => get?_eq_some_iff.2 he

theorem get?_insert [DecidableEq κ] (k x : κ) (b : β) (m : SortedMap κ β) :
    (m.insert k b).get? x = if x = k then some b else m.get? x := by
  refine Option.ext fun c => ?_
  rw [get?_eq_some_iff, mem_insert]
  split
  · rename_i h
    simp [h, eq_comm]
  · rename_i h
    simp [h, get?_eq_some_iff]

/-- A new key adds its value to the values. -/
theorem mem_values_insert {k : κ} {b x : β} {m : SortedMap κ β} (h : k ∉ m.keys) :
    x ∈ (m.insert k b).values ↔ x = b ∨ x ∈ m.values := by
  have hne : ∀ k', (k', x) ∈ m.entries → k' ≠ k := by
    rintro k' hk' rfl
    exact h (mem_keys.2 ⟨x, hk'⟩)
  simp only [mem_values, mem_insert, Prod.mk.injEq, exists_or, exists_eq_left]
  exact or_congr_right ⟨fun ⟨k', hk'⟩ => ⟨k', hk'.2⟩, fun ⟨k', hk'⟩ => ⟨k', hne k' hk', hk'⟩⟩

theorem length_place {k : κ} {b : β} {l : List (κ × β)} (h : ∀ e ∈ l, e.1 ≠ k) :
    (place k b l).length = l.length + 1 := by
  induction l with
  | nil => rfl
  | cons e rest ih =>
    rw [List.forall_mem_cons] at h
    rw [place]
    split
    · rfl
    · split
      · rw [List.length_cons, ih h.2, List.length_cons]
      · rename_i h₁ h₂
        exact absurd (Ranked.total k e.1 (Bool.eq_false_iff.2 h₁) (Bool.eq_false_iff.2 h₂)).symm h.1

theorem size_insert {k : κ} {b : β} {m : SortedMap κ β} (h : k ∉ m.keys) :
    (m.insert k b).size = m.size + 1 :=
  length_place fun e he hk => h (mem_keys.2 ⟨e.2, hk ▸ he⟩)

theorem ext {s t : SortedMap κ β} (h : ∀ x, x ∈ s.entries ↔ x ∈ t.entries) : s = t := by
  obtain ⟨l, hl⟩ := s
  obtain ⟨m, hm⟩ := t
  have := Ranked.eq_of_same_members Prod.fst hl hm h
  subst this
  rfl

end SortedMap
end SuffixPattern
