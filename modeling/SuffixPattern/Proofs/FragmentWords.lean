import SuffixPattern.Fragment
import SuffixPattern.Proofs.CharClass

/-!
# SuffixPattern.Proofs.FragmentWords

The words of a fragment, operation by operation, and what makes a fragment sound: its items are
units without names that are told by their words, and an atom carries no repetition yet. Every
operation keeps fragments sound.
-/

namespace SuffixPattern
namespace Regex
namespace Expr

/-! ## Rows and choices -/

theorem words_ofItems_cons (a : Expr) (rest : List Expr) :
    (ofItems (a :: rest)).words = product a.words (ofItems rest).words := by
  cases rest with
  | nil =>
    have hnil : (ofItems []).words = [[]] := rfl
    rw [hnil, product_nil_right]
    rfl
  | cons b rest => rfl

theorem words_ofItems_append (es fs : List Expr) :
    (ofItems (es ++ fs)).words = product (ofItems es).words (ofItems fs).words := by
  induction es with
  | nil =>
    have hnil : (ofItems []).words = [[]] := rfl
    rw [List.nil_append, hnil, product_nil_left]
  | cons a rest ih =>
    rw [List.cons_append, words_ofItems_cons, words_ofItems_cons, ih, product_assoc]

theorem words_ofItems_chars (t : Text) : (ofItems (t.map .char)).words = [t] := by
  induction t with
  | nil => rfl
  | cons c t ih =>
    rw [List.map_cons, words_ofItems_cons, ih]
    rfl

theorem words_ofAlternatives {es : List Expr} (hne : es ≠ []) :
    (ofAlternatives es).words = es.flatMap words :=
  flatMap_ofAlternatives (fun _ _ => rfl) hne

theorem isFinite_ofItems {items : List Expr} (h : ∀ e ∈ items, e.IsFinite) :
    (ofItems items).IsFinite := by
  induction items with
  | nil => trivial
  | cons a rest ih =>
    have hrest := ih fun e he => h e (.tail _ he)
    cases rest with
    | nil => exact h a (.head _)
    | cons b rest => exact ⟨h a (.head _), hrest⟩

theorem isFinite_ofAlternatives {es : List Expr} (h : ∀ e ∈ es, e.IsFinite) :
    (ofAlternatives es).IsFinite := by
  induction es with
  | nil => trivial
  | cons a rest ih =>
    have hrest := ih fun e he => h e (.tail _ he)
    cases rest with
    | nil => exact h a (.head _)
    | cons b rest => exact ⟨h a (.head _), hrest⟩

/-- An item of a row that is told by its words and captures nothing. -/
structure IsPlain (e : Expr) : Prop where
  unit : e.IsUnit
  finite : e.IsFinite
  unnamed : e.names = []

theorem isPlain_char (c : Char) : (char c).IsPlain := ⟨.char c, trivial, rfl⟩

theorem isPlain_ofChars {cs : List Char} (hne : cs ≠ []) : (ofChars cs).IsPlain := by
  refine ⟨isUnit_ofChars cs hne, isFinite_ofChars cs, ?_⟩
  rcases ofChars_cases cs with ⟨c, -, h⟩ | h
  · rw [h]
    rfl
  · rw [h]
    rfl

theorem IsPlain.opt {e : Expr} (h : e.IsPlain) (honce : ¬ e.IsRepetition) : (opt e).IsPlain :=
  ⟨.opt h.unit honce, h.finite, h.unnamed⟩

theorem isPlain_group {rows : List (List Expr)} (hne : rows ≠ [])
    (h : ∀ row ∈ rows, ∀ e ∈ row, e.IsPlain) : (group (ofRows rows)).IsPlain := by
  refine ⟨.group hne fun row hrow e he => (h row hrow e he).unit, ?_, ?_⟩
  · refine isFinite_ofAlternatives fun e he => ?_
    obtain ⟨row, hrow, rfl⟩ := List.mem_map.1 he
    exact isFinite_ofItems fun e he => (h row hrow e he).finite
  · have hnames : (ofRows rows).names = [] := by
      rw [names_ofRows hne, List.flatMap_eq_nil_iff]
      exact fun row hrow => List.flatMap_eq_nil_iff.2 fun e he => (h row hrow e he).unnamed
    exact hnames

end Expr
end Regex

open Regex

namespace Fragment

def words (f : Fragment) : List Text := f.expr.words

/-- What every fragment of a compiled trie is: it can be printed, read back and told by its
words. -/
structure IsSound (f : Fragment) : Prop where
  plain : ∀ e ∈ f.items, e.IsPlain
  once : ∀ e, f = .atom e → ¬ e.IsRepetition

theorem IsSound.isFinite {f : Fragment} (h : f.IsSound) : f.expr.IsFinite :=
  Expr.isFinite_ofItems fun e he => (h.plain e he).finite

/-- A fragment is read back from its text. -/
theorem read?_text {f : Fragment} (hf : f.IsSound) : Expr.read? f.text = some f.expr := by
  have hunit : ∀ row ∈ [f.items], ∀ e ∈ row, e.IsUnit := by
    intro row hrow e he
    cases List.mem_singleton.1 hrow
    exact (hf.plain e he).unit
  have hnames : (Expr.ofRows [f.items]).names = [] := by
    rw [Expr.names_ofRows (List.cons_ne_nil _ _), List.flatMap_singleton]
    exact List.flatMap_eq_nil_iff.2 fun e he => (hf.plain e he).unnamed
  have hnodup : (Expr.ofRows [f.items]).names.Nodup := hnames ▸ List.nodup_nil
  exact read?_print (List.cons_ne_nil _ _) hunit hnodup

theorem isSound_empty : IsSound .empty :=
  ⟨fun _ he => absurd he List.not_mem_nil, nofun⟩

theorem words_empty : Fragment.empty.words = [[]] := rfl

theorem isSound_atom {e : Expr} (hplain : e.IsPlain) (honce : ¬ e.IsRepetition) :
    IsSound (.atom e) := by
  refine ⟨fun e' he => ?_, fun e' he => ?_⟩
  · cases List.mem_singleton.1 he
    exact hplain
  · cases he
    exact honce

theorem isSound_sequence {items : List Expr} (hplain : ∀ e ∈ items, e.IsPlain) :
    IsSound (.sequence items) :=
  ⟨hplain, nofun⟩

/-! ## Fragments in a row -/

theorem items_append (f g : Fragment) : (f ++ g).items = f.items ++ g.items := by
  have happ : f ++ g = append f g := rfl
  rw [happ]
  cases f <;> cases g <;> simp [append, items]

theorem append_eq_atom {f g : Fragment} {e : Expr} (h : f ++ g = .atom e) :
    f = .atom e ∨ g = .atom e := by
  have happ : f ++ g = append f g := rfl
  rw [happ] at h
  cases f <;> cases g <;> simp_all [append]

theorem words_append (f g : Fragment) : (f ++ g).words = product f.words g.words := by
  rw [words, expr, items_append, Expr.words_ofItems_append]
  rfl

theorem IsSound.append {f g : Fragment} (hf : f.IsSound) (hg : g.IsSound) : (f ++ g).IsSound := by
  refine ⟨fun e he => ?_, fun e he => ?_⟩
  · rw [items_append] at he
    exact (List.mem_append.1 he).elim (hf.plain e) (hg.plain e)
  · exact (append_eq_atom he).elim (hf.once e) (hg.once e)

/-! ## Optional fragments -/

/-- A fragment that is there comes before its absence. -/
theorem words_optional {f : Fragment} (hne : f ≠ .empty) : f.optional.words = f.words ++ [[]] := by
  cases f with
  | empty => exact absurd rfl hne
  | atom e => rfl
  | sequence es => rfl

theorem IsSound.optional {f : Fragment} (hf : f.IsSound) : f.optional.IsSound := by
  have hsingle : ∀ {e : Expr}, e.IsPlain → ¬ e.IsRepetition → IsSound (.sequence [.opt e]) := by
    intro e hplain honce
    exact isSound_sequence fun e' he => (List.mem_singleton.1 he) ▸ hplain.opt honce
  cases f with
  | empty => exact hf
  | atom e => exact hsingle (hf.plain e (.head _)) (hf.once e rfl)
  | sequence es =>
    have hplain : (Expr.group (.ofRows [es])).IsPlain :=
      Expr.isPlain_group (List.cons_ne_nil _ _)
        fun row hrow => (List.mem_singleton.1 hrow) ▸ hf.plain
    exact hsingle hplain id

/-! ## Texts and choices -/

theorem words_ofText (t : Text) : (ofText t).words = [t] := Expr.words_ofItems_chars t

theorem isSound_ofText (t : Text) : (ofText t).IsSound := by
  refine isSound_sequence fun e he => ?_
  obtain ⟨c, -, rfl⟩ := List.mem_map.1 he
  exact Expr.isPlain_char c

/-- Several fragments to choose from are a group. -/
theorem ofAlternatives_cases {fs : List Fragment} (hne : fs ≠ []) :
    (∃ f, fs = [f] ∧ ofAlternatives fs = f) ∨
      ofAlternatives fs = .atom (.group (.ofAlternatives (fs.map expr))) := by
  cases fs with
  | nil => exact absurd rfl hne
  | cons f rest =>
    cases rest with
    | nil => exact .inl ⟨f, rfl, rfl⟩
    | cons g rest => exact .inr rfl

theorem words_ofAlternatives {fs : List Fragment} (hne : fs ≠ []) :
    (ofAlternatives fs).words = fs.flatMap words := by
  rcases ofAlternatives_cases hne with ⟨f, rfl, h⟩ | h
  · rw [h, List.flatMap_singleton]
  · have hmap : fs.map expr ≠ [] := by simpa using hne
    have hwords := Expr.words_ofAlternatives hmap
    rw [List.flatMap_map] at hwords
    rw [h]
    exact hwords

theorem isSound_ofAlternatives {fs : List Fragment} (h : ∀ f ∈ fs, f.IsSound) :
    (ofAlternatives fs).IsSound := by
  by_cases hne : fs = []
  · rw [hne]
    exact isSound_empty
  · rcases ofAlternatives_cases hne with ⟨f, rfl, heq⟩ | heq
    · rw [heq]
      exact h f (.head _)
    · rw [heq]
      have hrows : fs.map expr = (fs.map items).map Expr.ofItems := by
        rw [List.map_map]
        rfl
      rw [hrows]
      refine isSound_atom (Expr.isPlain_group (by simpa using hne) fun row hrow => ?_) id
      obtain ⟨f, hf, rfl⟩ := List.mem_map.1 hrow
      exact (h f hf).plain

theorem ofAlternatives_ne_empty {fs : List Fragment} (hne : fs ≠ []) (h : ∀ f ∈ fs, f ≠ .empty) :
    ofAlternatives fs ≠ .empty := by
  rcases ofAlternatives_cases hne with ⟨f, rfl, heq⟩ | heq
  · rw [heq]
    exact h f (.head _)
  · rw [heq]
    exact nofun

end Fragment
end SuffixPattern
