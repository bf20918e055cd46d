import SuffixPattern.Proofs.TrieFragment

/-!
# SuffixPattern.Proofs.FragmentText

The text of a fragment, as something that is put beside other text (`Node.fragments_compose`). Its
groups and classes are closed, no bar is outside them, and no character in it is invisible; the text
of an atom is one unit, which a question mark behind it takes as a whole.

* `IsClassText`, `IsBalanced`: the grammar of such texts, without regard to what they match.
* `IsUnitText`: a character, a class or a group.
* `IsVisible`: a text without control characters and white space.
-/

namespace SuffixPattern

namespace Regex

/-! ## Texts with closed groups -/

/-- What can stand between the brackets of a class. -/
inductive IsClassText : Text → Prop where
  | nil : IsClassText []
  | plain {c : Char} {u : Text} (hc : c ∉ ['\\', '[', ']']) (h : IsClassText u) :
      IsClassText (c :: u)
  | escaped {c : Char} {u : Text} (h : IsClassText u) : IsClassText ('\\' :: c :: u)

/-- What is opened is closed, and a bar is between the rows of a group only. -/
inductive IsBalanced : Text → Prop where
  | nil : IsBalanced []
  | plain {c : Char} {u : Text} (hc : c ∉ ['\\', '(', ')', '[', ']', '|']) (h : IsBalanced u) :
      IsBalanced (c :: u)
  | escaped {c : Char} {u : Text} (h : IsBalanced u) : IsBalanced ('\\' :: c :: u)
  | set {body u : Text} (hbody : IsClassText body) (h : IsBalanced u) :
      IsBalanced ('[' :: body ++ ']' :: u)
  | group {rows : List Text} {u : Text} (hrows : ∀ row ∈ rows, IsBalanced row)
      (h : IsBalanced u) : IsBalanced (['(', '?', ':'] ++ Text.join ['|'] rows ++ ')' :: u)

/-- What a question mark behind it takes as a whole. -/
inductive IsUnitText : Text → Prop where
  | char (c : Char) : IsUnitText (literal c)
  | set {body : Text} (hbody : IsClassText body) : IsUnitText ('[' :: body ++ [']'])
  | group {rows : List Text} (hrows : ∀ row ∈ rows, IsBalanced row) :
      IsUnitText (['(', '?', ':'] ++ Text.join ['|'] rows ++ [')'])

theorem IsClassText.append {u v : Text} (hu : IsClassText u) (hv : IsClassText v) :
    IsClassText (u ++ v) := by
  induction hu with
  | nil => exact hv
  | plain hc _ ih => exact .plain hc ih
  | escaped _ ih => exact .escaped ih

theorem IsBalanced.append {u v : Text} (hu : IsBalanced u) (hv : IsBalanced v) :
    IsBalanced (u ++ v) := by
  induction hu with
  | nil => exact hv
  | plain hc _ ih => exact .plain hc ih
  | escaped _ ih => exact .escaped ih
  | set hbody _ ih =>
    rw [List.append_assoc]
    exact .set hbody ih
  | group hrows _ _ ih =>
    rw [List.append_assoc]
    exact .group hrows ih

/-- No character is a control character or white space. -/
def IsVisible (t : Text) : Prop :=
  ∀ c ∈ t, Unicode.isControl c = false ∧ Unicode.isBlank c = false

instance (t : Text) : Decidable (IsVisible t) := List.decidableBAll _ t

theorem IsVisible.append {u v : Text} (hu : IsVisible u) (hv : IsVisible v) : IsVisible (u ++ v) :=
  List.forall_mem_append.2 ⟨hu, hv⟩

section Append

variable {P : Text → Prop} (hnil : P []) (happend : ∀ {u v : Text}, P u → P v → P (u ++ v))
include hnil happend

/-- What holds of texts put side by side if it holds of each of them. -/
theorem flatMap_of_append {α : Type} {f : α → Text} {l : List α} (h : ∀ a ∈ l, P (f a)) :
    P (l.flatMap f) := by
  induction l with
  | nil => exact hnil
  | cons a l ih =>
    rw [List.flatMap_cons]
    exact happend (h a (.head _)) (ih fun b hb => h b (.tail _ hb))

/-- The same with a separator between them. -/
theorem join_of_append {sep : Text} {ts : List Text} (hsep : P sep) (h : ∀ t ∈ ts, P t) :
    P (Text.join sep ts) := by
  induction ts with
  | nil => exact hnil
  | cons t rest ih =>
    cases rest with
    | nil => exact h t (.head _)
    | cons t' rest =>
      have hjoin : Text.join sep (t :: t' :: rest) = t ++ sep ++ Text.join sep (t' :: rest) := rfl
      rw [hjoin]
      exact happend (happend (h t (.head _)) hsep) (ih fun u hu => h u (.tail _ hu))

end Append

/-! ## Escapes -/

/-- What an escape by code point is written with. -/
def codeChars : List Char := "{0123456789ABCDEF}".toList

theorem mem_hexUpper {n : Nat} {c : Char} (h : c ∈ Text.hexUpper n) : c ∈ codeChars := by
  have hdigit : ∀ d < 16, d.digitChar.toUpper ∈ codeChars := by decide
  induction n using Nat.strongRecOn with
  | ind n ih =>
    by_cases hn : n < 16
    · rw [hexUpper_of_lt hn, List.mem_singleton] at h
      exact h ▸ hdigit n hn
    · rw [hexUpper_of_le (by omega), List.mem_append, List.mem_singleton] at h
      rcases h with h | rfl
      · exact ih (n / 16) (Nat.div_lt_self (by omega) (by decide)) h
      · exact hdigit _ (Nat.mod_lt n (by decide))

/-- The three ways to write a character. -/
theorem escape_cases (special : List Char) (c : Char) :
    (∃ code, code ⊆ codeChars ∧ escape special c = '\\' :: 'x' :: code) ∨
      IsVisible [c] ∧ (escape special c = ['\\', c] ∨ c ∉ special ∧ escape special c = [c]) := by
  unfold escape
  split
  · refine .inl ⟨'{' :: Text.hexUpper c.toNat ++ ['}'], fun d hd => ?_, rfl⟩
    rcases List.mem_append.1 hd with hd | hd
    · rcases List.mem_cons.1 hd with rfl | hd
      · decide
      · exact mem_hexUpper hd
    · exact List.mem_singleton.1 hd ▸ by decide
  · rename_i hvisible
    rw [Bool.or_eq_true, not_or, Bool.not_eq_true, Bool.not_eq_true] at hvisible
    have hvisible : IsVisible [c] := fun d hd => List.mem_singleton.1 hd ▸ hvisible
    split
    · exact .inr ⟨hvisible, .inl rfl⟩
    · rename_i hmem
      exact .inr ⟨hvisible, .inr ⟨hmem, rfl⟩⟩

theorem isVisible_escape (special : List Char) (c : Char) : IsVisible (escape special c) := by
  have hcode : IsVisible codeChars := by decide
  rcases escape_cases special c with ⟨code, hmem, h⟩ | ⟨hc, h | ⟨-, h⟩⟩
  · have hmark : IsVisible ['\\', 'x'] := by decide
    rw [h]
    exact hmark.append fun d hd => hcode d (hmem hd)
  · have hmark : IsVisible ['\\'] := by decide
    rw [h]
    exact hmark.append hc
  · rw [h]
    exact hc

/-- A written character is built by the rules for raw and for escaped characters, if those that
cannot be raw are all escaped. -/
theorem escape_of_rules {P : Text → Prop} {special closing : List Char} (hnil : P [])
    (hplain : ∀ {c : Char} {u : Text}, c ∉ closing → P u → P (c :: u))
    (hescaped : ∀ {c : Char} {u : Text}, P u → P ('\\' :: c :: u))
    (hspecial : closing ⊆ special) (hcode : codeChars.all (· ∉ closing) = true) (c : Char) :
    P (escape special c) := by
  rcases escape_cases special c with ⟨code, hmem, h⟩ | ⟨-, h | ⟨hc, h⟩⟩
  · have hraw : ∀ d ∈ code, d ∉ closing :=
      fun d hd => of_decide_eq_true (List.all_eq_true.1 hcode d (hmem hd))
    rw [h]
    refine hescaped ?_
    clear h hmem
    induction code with
    | nil => exact hnil
    | cons d code ih => exact hplain (hraw d (.head _)) (ih fun e he => hraw e (.tail _ he))
  · rw [h]
    exact hescaped hnil
  · rw [h]
    exact hplain (fun hmem => hc (hspecial hmem)) hnil

theorem isClassText_classMember (c : Char) : IsClassText (classMember c) :=
  escape_of_rules .nil .plain .escaped (by decide) (by decide) c

theorem isBalanced_literal (c : Char) : IsBalanced (literal c) :=
  escape_of_rules .nil .plain .escaped (by decide) (by decide) c

/-! ## Written expressions -/

theorem ClassItem.isClassText_print (item : ClassItem) : IsClassText item.print := by
  cases item with
  | single c => exact isClassText_classMember c
  | range first last =>
    exact (isClassText_classMember first).append
      (.plain (by decide) (isClassText_classMember last))

theorem ClassItem.isVisible_print (item : ClassItem) : IsVisible item.print := by
  cases item with
  | single c => exact isVisible_escape _ c
  | range first last =>
    have hdash : IsVisible ['-'] := by decide
    exact (isVisible_escape _ first).append (hdash.append (isVisible_escape _ last))

namespace Expr

theorem print_ofItems (items : List Expr) : (ofItems items).print = items.flatMap print :=
  flatMap_ofItems rfl (fun _ _ => rfl) items

theorem print_ofAlternatives (es : List Expr) :
    (ofAlternatives es).print = Text.join ['|'] (es.map print) := by
  induction es with
  | nil => rfl
  | cons a rest ih =>
    cases rest with
    | nil => rfl
    | cons b rest =>
      rw [ofAlternatives_cons_cons, print, ih]
      simp [Text.join]

theorem print_ofRows (rows : List (List Expr)) :
    (ofRows rows).print = Text.join ['|'] (rows.map fun row => row.flatMap print) := by
  rw [ofRows, print_ofAlternatives, List.map_map]
  exact congrArg _ (List.map_congr_left fun row _ => print_ofItems row)

/-- The items of a group without names have no names. -/
theorem names_of_mem_rows {rows : List (List Expr)} (hne : rows ≠ [])
    (h : (ofRows rows).names = []) : ∀ row ∈ rows, ∀ e ∈ row, e.names = [] := by
  rw [names_ofRows hne, List.flatMap_eq_nil_iff] at h
  exact fun row hrow => List.flatMap_eq_nil_iff.1 (h row hrow)

theorem isClassText_items (negated : Bool) (items : List ClassItem) :
    IsClassText ((if negated then ['^'] else []) ++ items.flatMap ClassItem.print) := by
  have hitems : IsClassText (items.flatMap ClassItem.print) :=
    flatMap_of_append .nil .append fun item _ => item.isClassText_print
  cases negated with
  | true => exact .plain (by decide) hitems
  | false => exact hitems

theorem IsUnit.isBalanced_print {e : Expr} (h : e.IsUnit) (hnames : e.names = []) :
    IsBalanced e.print := by
  induction h with
  | char c => exact isBalanced_literal c
  | set negated hne hproper => exact .set (isClassText_items negated _) .nil
  | any => exact .plain (by decide) .nil
  | start => exact .plain (by decide) .nil
  | finish => exact .plain (by decide) .nil
  | boundary => exact .escaped .nil
  | interior => exact .escaped .nil
  | group hne hrows ih =>
    rw [print, print_ofRows]
    refine .group (fun text htext => ?_) .nil
    obtain ⟨row, hrow, rfl⟩ := List.mem_map.1 htext
    have hunnamed := names_of_mem_rows hne hnames row hrow
    exact flatMap_of_append .nil .append fun e he => ih row hrow e he (hunnamed e he)
  | capture hname hne hrows ih => cases hnames
  | opt h honce ih => exact (ih hnames).append (.plain (by decide) .nil)
  | star h honce ih => exact (ih hnames).append (.plain (by decide) .nil)

theorem IsUnit.isVisible_print {e : Expr} (h : e.IsUnit) (hnames : e.names = []) :
    IsVisible e.print := by
  have hnil : IsVisible [] := by decide
  induction h with
  | char c => exact isVisible_escape _ c
  | @set negated items hne hproper =>
    have hopen : IsVisible (if negated then ['[', '^'] else ['[']) := by cases negated <;> decide
    have hclose : IsVisible [']'] := by decide
    have hitems : IsVisible (items.flatMap ClassItem.print) :=
      flatMap_of_append hnil .append fun item _ => item.isVisible_print
    cases negated with
    | true => exact (hopen.append hitems).append hclose
    | false => exact (hopen.append hitems).append hclose
  | any => decide
  | start => decide
  | finish => decide
  | boundary => decide
  | interior => decide
  | @group rows hne hrows ih =>
    have hopen : IsVisible ['(', '?', ':'] := by decide
    have hbar : IsVisible ['|'] := by decide
    have hclose : IsVisible [')'] := by decide
    rw [print, print_ofRows]
    refine (hopen.append (join_of_append hnil .append hbar fun text htext => ?_)).append hclose
    obtain ⟨row, hrow, rfl⟩ := List.mem_map.1 htext
    have hunnamed := names_of_mem_rows hne hnames row hrow
    exact flatMap_of_append hnil .append fun e he => ih row hrow e he (hunnamed e he)
  | capture hname hne hrows ih => cases hnames
  | opt h honce ih =>
    have hmark : IsVisible ['?'] := by decide
    exact (ih hnames).append hmark
  | star h honce ih =>
    have hmark : IsVisible ['*'] := by decide
    exact (ih hnames).append hmark

/-- What matches a list of words and is not repeated is a character, a class or a group. -/
theorem IsPlain.isUnitText_print {e : Expr} (h : e.IsPlain) (honce : ¬ e.IsRepetition) :
    IsUnitText e.print := by
  obtain ⟨hunit, hfinite, hnames⟩ := h
  cases hunit with
  | char c => exact .char c
  | set negated hne hproper => exact .set (isClassText_items negated _)
  | any => exact hfinite.elim
  | start => exact hfinite.elim
  | finish => exact hfinite.elim
  | boundary => exact hfinite.elim
  | interior => exact hfinite.elim
  | @group rows hne hrows =>
    rw [print, print_ofRows]
    refine .group fun text htext => ?_
    obtain ⟨row, hrow, rfl⟩ := List.mem_map.1 htext
    have hunnamed := names_of_mem_rows hne hnames row hrow
    exact flatMap_of_append .nil .append
      fun e he => (hrows row hrow e he).isBalanced_print (hunnamed e he)
  | capture hname hne hrows => cases hnames
  | opt h _ => exact absurd trivial honce
  | star h _ => exact absurd trivial honce

end Expr
end Regex

open Regex

/-! ## Fragments -/

namespace Fragment

theorem text_append (f g : Fragment) : (f ++ g).text = f.text ++ g.text := by
  simp only [text, expr, Expr.print_ofItems, items_append, List.flatMap_append]

theorem IsSound.isBalanced_text {f : Fragment} (h : f.IsSound) : IsBalanced f.text := by
  rw [text, expr, Expr.print_ofItems]
  exact flatMap_of_append .nil .append
    fun e he => (h.plain e he).unit.isBalanced_print (h.plain e he).unnamed

theorem IsSound.isVisible_text {f : Fragment} (h : f.IsSound) : IsVisible f.text := by
  rw [text, expr, Expr.print_ofItems]
  exact flatMap_of_append (by decide) .append
    fun e he => (h.plain e he).unit.isVisible_print (h.plain e he).unnamed

/-- Put side by side, fragments match what they match one after the other. -/
theorem IsSound.matches_append {f g : Fragment} (hf : f.IsSound) (hg : g.IsSound) :
    ∃ a b e, Expr.read? f.text = some a ∧ Expr.read? g.text = some b ∧
      Expr.read? (f.text ++ g.text) = some e ∧
      ∀ s, e.matchesFully s = true ↔
        ∃ u v, s = u ++ v ∧ a.matchesFully u = true ∧ b.matchesFully v = true := by
  have hread := read?_text (hf.append hg)
  rw [text_append] at hread
  refine ⟨f.expr, g.expr, (f ++ g).expr, read?_text hf, read?_text hg, hread, fun s => ?_⟩
  have hwords : (f ++ g).expr.words = product f.expr.words g.expr.words := words_append f g
  simp only [Expr.matchesFully_iff_mem_words (hf.append hg).isFinite,
    Expr.matchesFully_iff_mem_words hf.isFinite, Expr.matchesFully_iff_mem_words hg.isFinite,
    hwords, mem_product]
  constructor
  · rintro ⟨u, hu, v, hv, rfl⟩
    exact ⟨u, v, rfl, hu, hv⟩
  · rintro ⟨u, v, rfl, hu, hv⟩
    exact ⟨u, hu, v, hv, rfl⟩

/-- An atom is a unit, and it can be followed by a question mark. -/
theorem IsSound.atom_is_unit {e : Expr} (h : (atom e).IsSound) :
    IsUnitText (atom e).text ∧ Expr.read? (atom e).text = some e ∧
      Expr.read? ((atom e).text ++ ['?']) = some (.opt e) ∧
      ∀ s, (Expr.opt e).matchesFully s = true ↔ e.matchesFully s = true ∨ s = [] := by
  have hplain : e.IsPlain := h.plain e (.head _)
  have honce : ¬ e.IsRepetition := h.once e rfl
  refine ⟨hplain.isUnitText_print honce, read?_text h, read?_text h.optional, fun s => ?_⟩
  have hopt : (Expr.opt e).IsFinite := (hplain.opt honce).finite
  rw [Expr.matchesFully_iff_mem_words hopt, Expr.matchesFully_iff_mem_words hplain.finite,
    Expr.words, List.mem_append, List.mem_singleton]

theorem optional_eq_empty_iff {f : Fragment} : f.optional = .empty ↔ f = .empty := by
  cases f <;> simp [optional]

end Fragment

/-! ## Compiled trees -/

namespace Branch

/-- A node with an edge does not compile to the empty fragment, be it marked or not. -/
theorem choose_eq_empty_iff {o : Orientation} {t : Bool} {edges : List Edge} :
    (choose o t edges).1 = .empty ↔ edges = [] := by
  constructor
  · intro h
    by_contra hne
    have hchoice := ofAlternatives_branches_ne_empty (o := o) hne
    cases t with
    | false => exact hchoice h
    | true => exact hchoice (Fragment.optional_eq_empty_iff.1 h)
  · rintro rfl
    rw [choose_nil]

end Branch

namespace Node

variable {o : Orientation}

theorem compile_eq_empty_iff {n : Node Text} : n.compile o = .empty ↔ n.isLeaf = true := by
  rw [compile, spanned, Branch.choose_eq_empty_iff, Forest.edges_eq_nil_iff, isLeaf,
    Forest.isNil_eq_true_iff]

/-- **Fragments can be put side by side.** Whatever the labels of the trees are: a fragment is empty
exactly for a leaf, its text shows every character and closes its groups and classes, with no bar
outside them, and a question mark behind an atom takes the whole of it. The texts of two fragments,
one behind the other, match what the fragments match, one after the other. -/
theorem fragments_compose (o o' : Orientation) (n m : Node Text) :
    (n.compile o = .empty ↔ n.isLeaf = true) ∧
      IsVisible (n.compile o).text ∧
      IsBalanced (n.compile o).text ∧
      (∀ e, n.compile o = .atom e →
        IsUnitText (n.compile o).text ∧ Expr.read? (n.compile o).text = some e ∧
          Expr.read? ((n.compile o).text ++ ['?']) = some (.opt e) ∧
          ∀ s, (Expr.opt e).matchesFully s = true ↔ e.matchesFully s = true ∨ s = []) ∧
      ∃ a b e, Expr.read? (n.compile o).text = some a ∧ Expr.read? (m.compile o').text = some b ∧
        Expr.read? ((n.compile o).text ++ (m.compile o').text) = some e ∧
        ∀ s, e.matchesFully s = true ↔
          ∃ u v, s = u ++ v ∧ a.matchesFully u = true ∧ b.matchesFully v = true := by
  have hn : (n.compile o).IsSound := isSound_compile n
  have hm : (m.compile o').IsSound := isSound_compile m
  refine ⟨compile_eq_empty_iff, hn.isVisible_text, hn.isBalanced_text, ?_,
    hn.matches_append hm⟩
  intro e he
  rw [he] at hn ⊢
  exact hn.atom_is_unit

end Node
end SuffixPattern
