import SuffixPattern.Proofs.FragmentText

/-!
# SuffixPattern.Proofs.Escaping

Escaped characters are read back as themselves (`escapes_are_read_back`): outside a class as a row
of characters, between brackets as the members of a class. What stands beside an escaped character
never joins with it, as every character is written so that it is scanned as one symbol, and no such
symbol has a meaning of its own where it stands.

* `ReadsAs u row`: the text `u` adds the items `row` to the row in which it stands.
-/

namespace SuffixPattern
namespace Regex

/-! ## Items in a row -/

/-- The text is read as these items, whatever stands before and behind it. -/
def ReadsAs (u : Text) (row : List Expr) : Prop :=
  ∃ ss, Scans u ss ∧ ∀ r : Reader, r.mode = .body → Reads ss r (r.pushRow row)

theorem readsAs_print {row : List Expr} (hunit : ∀ e ∈ row, e.IsUnit)
    (hnames : ∀ e ∈ row, e.names = []) : ReadsAs (row.flatMap Expr.print) row := by
  refine ⟨row.flatMap Expr.symbols, .flatMap fun e he => ?_, fun r hr => ?_⟩
  · refine e.scans_print ?_
    rw [hnames e he]
    exact List.forall_mem_nil _
  · rw [← Expr.symbols_ofItems]
    exact Reader.reads_row (fun e he => Reader.reads_unit (hunit e he)) hr

theorem ReadsAs.read? {u : Text} {row : List Expr} (h : ReadsAs u row)
    (hnames : (Expr.ofItems row).names = []) : Expr.read? u = some (.ofItems row) := by
  obtain ⟨ss, hscans, hreads⟩ := h
  have hscan : scan .between u = some ss := by
    simpa [scan] using hscans []
  have hfold : ss.foldlM Reader.step .start = some (Reader.start.pushRow row) :=
    hreads .start rfl
  have hfinish : (Reader.start.pushRow row).finish? = some (.ofItems row) := by
    simp [Reader.finish?, Reader.pushRow, Reader.start, Frame.body, Frame.nextAlternative,
      Expr.ofAlternatives]
  simp [Expr.read?, hscan, hfold, hfinish, hnames]

/-! ## Characters -/

theorem Symbol.ofChar_injective {special : List Char} {c d : Char}
    (h : ofChar special c = ofChar special d) : c = d := by
  unfold ofChar at h
  split at h <;> split at h <;> cases h <;> rfl

/-- Different texts are written differently, if those characters are escaped that would not be
scanned as themselves. -/
theorem flatMap_escape_injective {special : List Char} (hback : '\\' ∈ special)
    (hspecial : (special.all fun c => Symbol.ofEscape? c = some (.escaped c)) = true)
    {s t : List Char} (h : s.flatMap (escape special) = t.flatMap (escape special)) : s = t := by
  have hscan : ∀ u : List Char, scan .between (u.flatMap (escape special)) =
      some (u.map (Symbol.ofChar special)) := by
    intro u
    have hscans := Scans.flatMap fun c (_ : c ∈ u) => scans_escape hback hspecial c
    simpa [scan, List.map_eq_flatMap] using hscans []
  have hsymbols : s.map (Symbol.ofChar special) = t.map (Symbol.ofChar special) :=
    Option.some.inj ((hscan s).symm.trans (h ▸ hscan t))
  exact (List.map_inj_right fun _ _ => Symbol.ofChar_injective).1 hsymbols

theorem isVisible_flatMap_escape (special s : List Char) :
    IsVisible (s.flatMap (escape special)) :=
  flatMap_of_append (by decide) .append fun c _ => isVisible_escape special c

theorem readsAs_escaped (s : Text) : ReadsAs s.escaped (s.map .char) := by
  have htext : s.escaped = (s.map Expr.char).flatMap Expr.print := by
    rw [List.flatMap_map]
    rfl
  rw [htext]
  refine readsAs_print (fun e he => ?_) fun e he => ?_
  · obtain ⟨c, -, rfl⟩ := List.mem_map.1 he
    exact .char c
  · obtain ⟨c, -, rfl⟩ := List.mem_map.1 he
    rfl

theorem names_ofItems_chars (s : Text) : (Expr.ofItems (s.map .char)).names = [] := by
  have hnames : (Expr.ofItems (s.map .char)).names = (s.map Expr.char).flatMap Expr.names :=
    Expr.flatMap_ofItems rfl (fun _ _ => rfl) _
  rw [hnames, List.flatMap_map, List.flatMap_eq_nil_iff]
  exact fun _ _ => rfl

/-- The class whose members are written one after the other. -/
theorem readsAs_members {cs : List Char} (hne : cs ≠ []) :
    ReadsAs ('[' :: cs.flatMap classMember ++ [']']) [.set false (cs.map .single)] := by
  have htext : '[' :: cs.flatMap classMember ++ [']'] =
      [Expr.set false (cs.map .single)].flatMap Expr.print := by
    rw [List.flatMap_singleton, Expr.print, List.flatMap_map]
    rfl
  rw [htext]
  refine readsAs_print (fun e he => ?_) fun e he => ?_
  · rw [List.mem_singleton.1 he]
    refine .set false (by simpa using hne) fun item hitem => ?_
    obtain ⟨c, -, rfl⟩ := List.mem_map.1 hitem
    trivial
  · rw [List.mem_singleton.1 he]
    rfl

/-! ## Both escapes -/

/-- **Escapes are read back.** Whatever the characters are and whatever stands beside them: outside
a class they are read as so many single characters, between brackets as the members of a class in
their order. So no two texts are written alike, and all that is written can be seen. -/
theorem escapes_are_read_back (s : Text) (cs : List Char) :
    (ReadsAs s.escaped (s.map .char) ∧
      Expr.read? s.escaped = some (.ofItems (s.map .char))) ∧
    (cs ≠ [] → ReadsAs ('[' :: cs.flatMap classMember ++ [']']) [.set false (cs.map .single)] ∧
      Expr.read? ('[' :: cs.flatMap classMember ++ [']']) =
        some (.set false (cs.map .single))) ∧
    (∀ t : Text, s.escaped = t.escaped → s = t) ∧
    (∀ ds : List Char, cs.flatMap classMember = ds.flatMap classMember → cs = ds) ∧
    IsVisible s.escaped ∧ IsVisible (cs.flatMap classMember) := by
  refine ⟨⟨readsAs_escaped s, (readsAs_escaped s).read? (names_ofItems_chars s)⟩,
    fun hne => ⟨readsAs_members hne, (readsAs_members hne).read? rfl⟩, ?_, ?_,
    isVisible_flatMap_escape _ s, isVisible_flatMap_escape _ cs⟩
  · intro t h
    have hwritten : s.flatMap (escape literalSpecial) = t.flatMap (escape literalSpecial) := h
    exact flatMap_escape_injective (by decide) (by decide) hwritten
  · intro ds h
    have hwritten : cs.flatMap (escape classSpecial) = ds.flatMap (escape classSpecial) := h
    exact flatMap_escape_injective (by decide) (by decide) hwritten

/-- What would negate, close, nest or combine a class, and a shorthand. -/
def hazards : List Char := "^]-&&~~[:\\d\n".toList

theorem escapes_are_read_back_hazards :
    hazards ≠ [] ∧
      Expr.read? "[\\^\\]\\-\\&\\&\\~\\~\\[:\\\\d\\x\x7bA\x7d]".toList =
        some (.set false (hazards.map .single)) := by
  have hne : hazards ≠ [] := by decide
  have htext : '[' :: hazards.flatMap classMember ++ [']'] =
      "[\\^\\]\\-\\&\\&\\~\\~\\[:\\\\d\\x\x7bA\x7d]".toList := by decide
  obtain ⟨-, hclass, -⟩ := escapes_are_read_back [] hazards
  exact ⟨hne, htext ▸ (hclass hne).2⟩

end Regex
end SuffixPattern
