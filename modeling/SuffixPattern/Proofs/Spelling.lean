import SuffixPattern.Regex.Reader

/-!
# SuffixPattern.Proofs.Spelling

The symbols that an expression is written with. Scanning the written form of an expression gives
these symbols back (`scans_print`), whatever is written behind it: no escape runs on into the
characters that follow, and no character that is written raw is taken for an escape.

* `Text.IsCut`: a text is cut into pieces whatever follows it. This is closed under putting texts
  side by side.
* `Scans u ss`: the text `u` is scanned as the symbols `ss`, so the proof for an expression follows
  its parts.
-/

namespace SuffixPattern

/-! ## Cutting a text into pieces -/

namespace Text

variable {τ : Type} {cut : Text → Option (List τ)}

/-- The text is cut into the given pieces, whatever follows it. -/
def IsCut (cut : Text → Option (List τ)) (u : Text) (ss : List τ) : Prop :=
  ∀ t, cut (u ++ t) = (cut t).map (ss ++ ·)

theorem IsCut.nil : IsCut cut [] [] := by
  intro t
  simp

theorem IsCut.append {u v : Text} {ss ts : List τ} (hu : IsCut cut u ss) (hv : IsCut cut v ts) :
    IsCut cut (u ++ v) (ss ++ ts) := by
  intro t
  rw [List.append_assoc, hu, hv, Option.map_map]
  simp [Function.comp_def]

end Text

namespace Regex

/-- A text that is scanned as the given symbols, whatever follows it. -/
def Scans (u : Text) (ss : List Symbol) : Prop :=
  ∀ t, scan .between (u ++ t) = (scan .between t).map (ss ++ ·)

namespace Scans

theorem nil : Scans [] [] := Text.IsCut.nil

theorem append {u v : Text} {ss ts : List Symbol} (hu : Scans u ss) (hv : Scans v ts) :
    Scans (u ++ v) (ss ++ ts) := Text.IsCut.append hu hv

theorem plain {c : Char} (hc : c ≠ '\\') : Scans [c] [.plain c] := by
  intro t
  simp [scan, hc]

theorem cons {c : Char} {u : Text} {ss : List Symbol} (hc : c ≠ '\\') (hu : Scans u ss) :
    Scans (c :: u) (.plain c :: ss) :=
  (plain hc).append hu

theorem map_plain {u : Text} (hu : '\\' ∉ u) : Scans u (u.map .plain) := by
  induction u with
  | nil => exact nil
  | cons c u ih =>
    rw [List.mem_cons, not_or] at hu
    exact cons (Ne.symm hu.1) (ih hu.2)

theorem flatMap {α : Type} {f : α → Text} {g : α → List Symbol} {l : List α}
    (h : ∀ a ∈ l, Scans (f a) (g a)) : Scans (l.flatMap f) (l.flatMap g) := by
  induction l with
  | nil => exact nil
  | cons a l ih =>
    rw [List.flatMap_cons, List.flatMap_cons]
    exact (h a (.head _)).append (ih fun b hb => h b (.tail _ hb))

end Scans

/-! ## Numerals -/

theorem hexDigit?_digitChar {d : Nat} (h : d < 16) :
    Text.hexDigit? d.digitChar.toUpper = some d ∧ d.digitChar.toUpper ≠ '}' := by
  have all : ∀ d < 16, Text.hexDigit? d.digitChar.toUpper = some d ∧
      d.digitChar.toUpper ≠ '}' := by decide
  exact all d h

theorem scan_digit (value : Option Nat) {d : Nat} (h : d < 16) (t : Text) :
    scan (.digits value) (d.digitChar.toUpper :: t) =
      scan (.digits (some (16 * value.getD 0 + d))) t := by
  obtain ⟨hd, hne⟩ := hexDigit?_digitChar h
  simp [scan, hd, hne]

theorem hexUpper_of_lt {n : Nat} (h : n < 16) : Text.hexUpper n = [n.digitChar.toUpper] := by
  simp [Text.hexUpper, Text.hex, Nat.toDigits_of_lt_base h]

theorem hexUpper_of_le {n : Nat} (h : 16 ≤ n) :
    Text.hexUpper n = Text.hexUpper (n / 16) ++ [(n % 16).digitChar.toUpper] := by
  simp [Text.hexUpper, Text.hex, Nat.toDigits_of_base_le (by decide : 1 < 16) h]

/-- The digits of a number are read as that number: by induction on it, the last digit apart. -/
theorem scan_hexUpper (n : Nat) (t : Text) :
    scan (.digits none) (Text.hexUpper n ++ t) = scan (.digits (some n)) t := by
  induction n using Nat.strongRecOn generalizing t with
  | ind n ih =>
    by_cases h : n < 16
    · rw [hexUpper_of_lt h, List.singleton_append, scan_digit none h]
      simp
    · have hdiv : n / 16 < n := Nat.div_lt_self (by omega) (by decide)
      rw [hexUpper_of_le (by omega), List.append_assoc, ih (n / 16) hdiv, List.singleton_append,
        scan_digit _ (Nat.mod_lt n (by decide)), Option.getD_some, Nat.div_add_mod]

theorem charOfCode?_toNat (c : Char) : charOfCode? c.toNat = some c := by
  have hv : c.toNat.isValidChar := c.valid
  simp [charOfCode?, hv]

/-! ## Characters -/

/-- The symbol for a character that is to stand for itself. -/
def Symbol.ofChar (special : List Char) (c : Char) : Symbol :=
  if Unicode.isControl c || Unicode.isBlank c || c ∈ special then .escaped c else .plain c

theorem scans_escape {special : List Char} (hback : '\\' ∈ special)
    (hspecial : (special.all fun c => Symbol.ofEscape? c = some (.escaped c)) = true) (c : Char) :
    Scans (escape special c) [.ofChar special c] := by
  have hspecial : ∀ c ∈ special, Symbol.ofEscape? c = some (.escaped c) := by
    simpa only [List.all_eq_true, decide_eq_true_eq] using hspecial
  intro t
  unfold escape
  by_cases hblank : (Unicode.isControl c || Unicode.isBlank c) = true
  · rw [if_pos hblank]
    have hsym : Symbol.ofChar special c = .escaped c := by simp [Symbol.ofChar, hblank]
    have hread : scan (.digits none) (Text.hexUpper c.toNat ++ '}' :: t) =
        (scan .between t).map (.escaped c :: ·) := by
      rw [scan_hexUpper]
      simp [scan, charOfCode?_toNat]
    simpa [scan, hsym] using hread
  · rw [if_neg hblank]
    by_cases hmem : c ∈ special
    · have hx : c ≠ 'x' := by
        rintro rfl
        exact absurd (hspecial _ hmem) (by decide)
      have hsym : Symbol.ofChar special c = .escaped c := by simp [Symbol.ofChar, hmem]
      rw [if_pos hmem, hsym]
      simp [scan, hx, hspecial c hmem]
    · have hne : c ≠ '\\' := fun h => hmem (h ▸ hback)
      have hsym : Symbol.ofChar special c = .plain c := by
        simpa [Symbol.ofChar, hmem] using hblank
      rw [if_neg hmem, hsym]
      exact Scans.plain hne t

theorem scans_literal (c : Char) : Scans (literal c) [.ofChar literalSpecial c] :=
  scans_escape (by decide) (by decide) c

theorem scans_classMember (c : Char) : Scans (classMember c) [.ofChar classSpecial c] :=
  scans_escape (by decide) (by decide) c

/-! ## Expressions -/

def ClassItem.symbols : ClassItem → List Symbol
  | .single c => [.ofChar classSpecial c]
  | .range first last => [.ofChar classSpecial first, .plain '-', .ofChar classSpecial last]

theorem ClassItem.scans_print (item : ClassItem) : Scans item.print item.symbols := by
  cases item with
  | single c => exact scans_classMember c
  | range first last =>
    exact (scans_classMember first).append (.cons (by decide) (scans_classMember last))

namespace Expr

/-- The symbols of the written form. -/
def symbols : Expr → List Symbol
  | .empty => []
  | .char c => [.ofChar literalSpecial c]
  | .set negated items =>
    .plain '[' :: (if negated then [.plain '^'] else []) ++ items.flatMap ClassItem.symbols ++
      [.plain ']']
  | .any => [.plain '.']
  | .start => [.plain '^']
  | .finish => [.plain '$']
  | .boundary => [.boundary]
  | .interior => [.interior]
  | .cat a b => a.symbols ++ b.symbols
  | .alt a b => a.symbols ++ .plain '|' :: b.symbols
  | .group a => [.plain '(', .plain '?', .plain ':'] ++ a.symbols ++ [.plain ')']
  | .capture name a =>
    [.plain '(', .plain '?', .plain '<'] ++ name.map .plain ++ .plain '>' :: a.symbols ++
      [.plain ')']
  | .opt a => a.symbols ++ [.plain '?']
  | .star a => a.symbols ++ [.plain '*']

/-- A backslash in the name of a group would be scanned as an escape; there is none in a legal
name. -/
theorem scans_print (e : Expr) (hnames : ∀ name ∈ e.names, '\\' ∉ name) :
    Scans e.print e.symbols := by
  induction e with
  | empty => exact .nil
  | char c => exact scans_literal c
  | set negated items =>
    have hitems := Scans.flatMap fun item (_ : item ∈ items) => item.scans_print
    have hneg : Scans (if negated then ['^'] else []) (if negated then [.plain '^'] else []) := by
      cases negated with
      | true => exact .plain (by decide)
      | false => exact .nil
    exact (Scans.cons (by decide) hneg).append hitems |>.append (.plain (by decide))
  | any => exact .plain (by decide)
  | start => exact .plain (by decide)
  | finish => exact .plain (by decide)
  | boundary => intro t; simp [print, symbols, scan, Symbol.ofEscape?]
  | interior => intro t; simp [print, symbols, scan, Symbol.ofEscape?]
  | cat a b iha ihb =>
    exact (iha fun n hn => hnames n (by simp [names, hn])).append
      (ihb fun n hn => hnames n (by simp [names, hn]))
  | alt a b iha ihb =>
    exact (iha fun n hn => hnames n (by simp [names, hn])).append
      (.cons (by decide) (ihb fun n hn => hnames n (by simp [names, hn])))
  | group a ih =>
    have hopen : Scans ['(', '?', ':'] [.plain '(', .plain '?', .plain ':'] :=
      .map_plain (by decide)
    exact (hopen.append (ih hnames)).append (.plain (by decide))
  | capture name a ih =>
    have hopen : Scans ['(', '?', '<'] [.plain '(', .plain '?', .plain '<'] :=
      .map_plain (by decide)
    have hname : Scans name (name.map .plain) := .map_plain (hnames name (by simp [names]))
    have hbody := ih fun n hn => hnames n (by simp [names, hn])
    exact ((hopen.append hname).append (.cons (by decide) hbody)).append (.plain (by decide))
  | opt a ih => exact (ih hnames).append (.plain (by decide))
  | star a ih => exact (ih hnames).append (.plain (by decide))

end Expr
end Regex
end SuffixPattern
