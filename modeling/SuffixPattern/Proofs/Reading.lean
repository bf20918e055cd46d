import SuffixPattern.Proofs.Spelling

/-!
# SuffixPattern.Proofs.Reading

Printing and reading agree: the written form of an expression is read back as that expression
(`read?_print`), for every expression that is put together the way the grammar puts it together.

* `Expr.IsUnit`: what can stand as an item of a row. The rows of a group are lists of units, so that
  a row or a choice among rows leans to the right, as the reader builds them.
* `Reads ss r r'`: taking in the symbols `ss` leads the reader from `r` to `r'`.
* `reads_unit`: a unit adds itself to the open group and changes nothing else.
-/

namespace SuffixPattern
namespace Regex

/-! ## Expressions that can be read back -/

/-- The ends of a range are in order. -/
def ClassItem.IsProper : ClassItem → Prop
  | .single _ => True
  | .range first last => first ≤ last

namespace Expr

/-- Rows of items, with a choice between the rows. -/
def ofRows (rows : List (List Expr)) : Expr := ofAlternatives (rows.map ofItems)

/-- What carries a repetition already cannot carry another. -/
def IsRepetition : Expr → Prop
  | .opt _ => True
  | .star _ => True
  | _ => False

inductive IsUnit : Expr → Prop where
  | char (c : Char) : IsUnit (.char c)
  | set (negated : Bool) {items : List ClassItem} (hne : items ≠ [])
      (hproper : ∀ item ∈ items, item.IsProper) : IsUnit (.set negated items)
  | any : IsUnit .any
  | start : IsUnit .start
  | finish : IsUnit .finish
  | boundary : IsUnit .boundary
  | interior : IsUnit .interior
  | group {rows : List (List Expr)} (hne : rows ≠ [])
      (hrows : ∀ row ∈ rows, ∀ e ∈ row, IsUnit e) : IsUnit (.group (ofRows rows))
  | capture {name : Text} {rows : List (List Expr)} (hname : isGroupName name = true)
      (hne : rows ≠ []) (hrows : ∀ row ∈ rows, ∀ e ∈ row, IsUnit e) :
      IsUnit (.capture name (ofRows rows))
  | opt {e : Expr} (h : IsUnit e) (honce : ¬ e.IsRepetition) : IsUnit (.opt e)
  | star {e : Expr} (h : IsUnit e) (honce : ¬ e.IsRepetition) : IsUnit (.star e)

theorem ofItems_cons_cons (a b : Expr) (rest : List Expr) :
    ofItems (a :: b :: rest) = .cat a (ofItems (b :: rest)) := rfl

theorem ofAlternatives_cons_cons (a b : Expr) (rest : List Expr) :
    ofAlternatives (a :: b :: rest) = .alt a (ofAlternatives (b :: rest)) := rfl

/-- What a sequence collects from its two parts, a row collects from its items. -/
theorem flatMap_ofItems {α : Type} {f : Expr → List α} (hempty : f .empty = [])
    (hcat : ∀ a b, f (.cat a b) = f a ++ f b) (items : List Expr) :
    f (ofItems items) = items.flatMap f := by
  induction items with
  | nil => exact hempty
  | cons a rest ih =>
    cases rest with
    | nil => simp [ofItems]
    | cons b rest =>
      rw [ofItems_cons_cons, hcat, ih]
      rfl

/-- What a choice collects from its two sides, a list of alternatives collects from them all. -/
theorem flatMap_ofAlternatives {α : Type} {f : Expr → List α}
    (halt : ∀ a b, f (.alt a b) = f a ++ f b) {es : List Expr} (hne : es ≠ []) :
    f (ofAlternatives es) = es.flatMap f := by
  induction es with
  | nil => exact absurd rfl hne
  | cons a rest ih =>
    cases rest with
    | nil => simp [ofAlternatives]
    | cons b rest =>
      rw [ofAlternatives_cons_cons, halt, ih (List.cons_ne_nil b rest)]
      rfl

theorem symbols_ofItems (items : List Expr) :
    (ofItems items).symbols = items.flatMap symbols :=
  flatMap_ofItems rfl (fun _ _ => rfl) items

theorem names_ofRows {rows : List (List Expr)} (hne : rows ≠ []) :
    (ofRows rows).names = rows.flatMap fun row => row.flatMap names := by
  have hmap : rows.map ofItems ≠ [] := by simpa using hne
  have hrow : ∀ row, (ofItems row).names = row.flatMap names :=
    fun row => flatMap_ofItems rfl (fun _ _ => rfl) row
  rw [ofRows, flatMap_ofAlternatives (f := names) (fun _ _ => rfl) hmap, List.flatMap_map]
  simp only [hrow]

end Expr

/-! ## Names -/

theorem isGroupName_chars {name : Text} (h : isGroupName name = true) :
    ∀ c ∈ name, c ≠ '\\' ∧ c ≠ '>' := by
  have hbackslash : Unicode.isAlphabetic '\\' = false ∧ Unicode.isAlphanumeric '\\' = false := by
    decide
  have hclosing : Unicode.isAlphabetic '>' = false ∧ Unicode.isAlphanumeric '>' = false := by
    decide
  cases name with
  | nil => intro c hc; cases hc
  | cons first rest =>
    simp only [isGroupName, Bool.and_eq_true, Bool.or_eq_true, decide_eq_true_eq,
      List.all_eq_true] at h
    intro c hc
    rcases List.mem_cons.1 hc with rfl | hc
    · constructor
      · rintro rfl
        simp [hbackslash] at h
      · rintro rfl
        simp [hclosing] at h
    · have hrest := h.2 c hc
      constructor
      · rintro rfl
        simp [hbackslash] at hrest
      · rintro rfl
        simp [hclosing] at hrest

namespace Expr

/-- The names in a unit are legal. -/
theorem IsUnit.isGroupName_of_mem {e : Expr} (h : e.IsUnit) :
    ∀ name ∈ e.names, isGroupName name = true := by
  induction h with
  | char c => intro name hn; cases hn
  | set negated hne hproper => intro name hn; cases hn
  | any => intro name hn; cases hn
  | start => intro name hn; cases hn
  | finish => intro name hn; cases hn
  | boundary => intro name hn; cases hn
  | interior => intro name hn; cases hn
  | group hne hrows ih =>
    intro name hn
    simp only [names, names_ofRows hne, List.mem_flatMap] at hn
    obtain ⟨row, hrow, e, he, hn⟩ := hn
    exact ih row hrow e he name hn
  | capture hname hne hrows ih =>
    intro name hn
    simp only [names, names_ofRows hne, List.mem_cons, List.mem_flatMap] at hn
    rcases hn with rfl | ⟨row, hrow, e, he, hn⟩
    · exact hname
    · exact ih row hrow e he name hn
  | opt h honce ih => exact ih
  | star h honce ih => exact ih

end Expr

/-! ## Taking in symbols -/

/-- The symbols lead from one state of the reader to another. -/
def Reads (ss : List Symbol) (r r' : Reader) : Prop :=
  ss.foldlM Reader.step r = some r'

namespace Reads

theorem nil (r : Reader) : Reads [] r r := rfl

theorem cons {s : Symbol} {ss : List Symbol} {r r₁ r₂ : Reader} (h₁ : r.step s = some r₁)
    (h₂ : Reads ss r₁ r₂) : Reads (s :: ss) r r₂ := by
  simpa [Reads, List.foldlM_cons, h₁] using h₂

theorem single {s : Symbol} {r r' : Reader} (h : r.step s = some r') : Reads [s] r r' :=
  .cons h (.nil r')

theorem append {ss ts : List Symbol} {r r₁ r₂ : Reader} (h₁ : Reads ss r r₁)
    (h₂ : Reads ts r₁ r₂) : Reads (ss ++ ts) r r₂ := by
  unfold Reads at *
  rw [List.foldlM_append, h₁]
  exact h₂

end Reads

namespace Reader

variable {r : Reader}

/-- The reader with the items of a row in the open group. -/
def pushRow (row : List Expr) (r : Reader) : Reader :=
  { r with top := { r.top with items := row.reverse ++ r.top.items }, mode := .body }

theorem step_body (hr : r.mode = .body) (s : Symbol) : r.step s = r.bodyStep s := by
  simp [step, hr]

theorem bodyStep_ofChar (c : Char) :
    r.bodyStep (.ofChar literalSpecial c) = some (r.push (.char c)) := by
  unfold Symbol.ofChar
  split
  · rfl
  · rename_i h
    have hc : c ∉ literalSpecial := by
      intro hmem
      exact h (by simp [hmem])
    simp only [literalSpecial, List.mem_cons, List.not_mem_nil, or_false, not_or] at hc
    unfold bodyStep
    split <;> simp_all

theorem classStep_ofChar (negated : Bool) (soFar : List ClassItem) (c : Char) :
    r.classStep negated soFar (.ofChar classSpecial c) =
      some { r with mode := .items negated (.single c :: soFar) } := by
  unfold Symbol.ofChar
  split
  · rfl
  · rename_i h
    have hc : c ∉ classSpecial := by
      intro hmem
      exact h (by simp [hmem])
    simp only [classSpecial, List.mem_cons, List.not_mem_nil, or_false, not_or] at hc
    unfold classStep
    split <;> simp_all

theorem step_range_ofChar (negated : Bool) (soFar : List ClassItem) {first last : Char}
    (hle : first ≤ last) :
    ({ r with mode := .range negated soFar first } : Reader).step (.ofChar classSpecial last) =
      some { r with mode := .items negated (.range first last :: soFar) } := by
  unfold Symbol.ofChar
  split
  · simp [step, rangeStep, hle]
  · rename_i h
    have hc : last ∉ classSpecial := by
      intro hmem
      exact h (by simp [hmem])
    simp [step, rangeStep, hle, hc]

/-! ## Classes -/

theorem step_items (negated : Bool) (soFar : List ClassItem) (c : Char) :
    ({ r with mode := .items negated soFar } : Reader).step (.ofChar classSpecial c) =
      some { r with mode := .items negated (.single c :: soFar) } :=
  classStep_ofChar negated soFar c

/-- At the beginning of a class only a raw circumflex is special, and no item begins with one. -/
theorem step_bracket (c : Char) :
    ({ r with mode := .bracket } : Reader).step (.ofChar classSpecial c) =
      some { r with mode := .items false [.single c] } := by
  have hne : Symbol.ofChar classSpecial c ≠ .plain '^' := by
    unfold Symbol.ofChar
    split
    · exact Symbol.noConfusion
    · rename_i h
      intro heq
      cases heq
      exact h (by decide)
  simp only [step, if_neg hne]
  exact classStep_ofChar false [] c

/-- An item is read wherever its first character would be taken as a member of the class. -/
theorem reads_item {negated : Bool} {soFar : List ClassItem} {item : ClassItem} {mode : Mode}
    (hfirst : ∀ c, ({ r with mode := mode } : Reader).step (.ofChar classSpecial c) =
      some { r with mode := .items negated (.single c :: soFar) })
    (hproper : item.IsProper) :
    Reads item.symbols { r with mode := mode }
      { r with mode := .items negated (item :: soFar) } := by
  cases item with
  | single c => exact .single (hfirst c)
  | range first last =>
    have hlast := step_range_ofChar (r := r) negated soFar hproper
    exact .cons (hfirst first) (.cons rfl (.single hlast))

theorem reads_items (negated : Bool) {items : List ClassItem}
    (hproper : ∀ item ∈ items, item.IsProper) (soFar : List ClassItem) :
    Reads (items.flatMap ClassItem.symbols) { r with mode := .items negated soFar }
      { r with mode := .items negated (items.reverse ++ soFar) } := by
  induction items generalizing soFar with
  | nil => exact .nil _
  | cons item rest ih =>
    have hitem := reads_item (r := r) (step_items negated soFar) (hproper item (.head _))
    have hrest := ih (fun i hi => hproper i (.tail _ hi)) (item :: soFar)
    rw [List.flatMap_cons, List.reverse_cons, List.append_assoc]
    exact hitem.append hrest

theorem reads_set (negated : Bool) {items : List ClassItem} (hne : items ≠ [])
    (hproper : ∀ item ∈ items, item.IsProper) (hr : r.mode = .body) :
    Reads (Expr.set negated items).symbols r (r.push (.set negated items)) := by
  have hopen : r.step (.plain '[') = some { r with mode := .bracket } := by
    rw [step_body hr]
    rfl
  have hitems : Reads ((if negated then [.plain '^'] else []) ++
      items.flatMap ClassItem.symbols) { r with mode := .bracket }
      { r with mode := .items negated items.reverse } := by
    cases negated with
    | true =>
      have hcaret : ({ r with mode := .bracket } : Reader).step (.plain '^') =
          some { r with mode := .items true [] } := rfl
      simpa using Reads.cons hcaret (reads_items true hproper [])
    | false =>
      obtain ⟨item, rest, rfl⟩ := List.exists_cons_of_ne_nil hne
      have hitem := reads_item (r := r) step_bracket (hproper item (.head _))
      have hrest := reads_items (r := r) false (fun i hi => hproper i (.tail _ hi)) [item]
      simpa [List.flatMap_cons] using hitem.append hrest
  have hclose : ({ r with mode := .items negated items.reverse } : Reader).step (.plain ']') =
      some (r.push (.set negated items)) := by
    simp [step, classStep, hne, push]
  rw [Expr.symbols, List.cons_append, List.cons_append]
  exact .cons hopen (hitems.append (.single hclose))

/-! ## Groups -/

section Groups

variable {row : List Expr} {rows : List (List Expr)}

theorem reads_row (hread : ∀ e ∈ row, ∀ r : Reader, r.mode = .body → Reads e.symbols r (r.push e))
    (hr : r.mode = .body) : Reads (Expr.ofItems row).symbols r (r.pushRow row) := by
  rw [Expr.symbols_ofItems]
  induction row generalizing r with
  | nil =>
    have : r.pushRow [] = r := by simp [pushRow, ← hr]
    rw [this]
    exact .nil r
  | cons e rest ih =>
    have hrest := ih (r := r.push e) (fun e he => hread e (.tail _ he)) rfl
    have hpush : (r.push e).pushRow rest = r.pushRow (e :: rest) := by
      simp [pushRow, push, Frame.push]
    rw [hpush] at hrest
    rw [List.flatMap_cons]
    exact (hread e (.head _) r hr).append hrest

/-- The rows of a group are finished alternatives but for the last, which is still open. -/
theorem reads_rows (hne : rows ≠ [])
    (hread : ∀ row ∈ rows, ∀ e ∈ row, ∀ r : Reader, r.mode = .body →
      Reads e.symbols r (r.push e))
    (hr : r.mode = .body) (hitems : r.top.items = []) :
    ∃ r', Reads (Expr.ofRows rows).symbols r r' ∧ r'.mode = .body ∧ r'.outer = r.outer ∧
      r'.top.nextAlternative =
        ⟨r.top.opening, (rows.map Expr.ofItems).reverse ++ r.top.alternatives, []⟩ := by
  induction rows generalizing r with
  | nil => exact absurd rfl hne
  | cons row rest ih =>
    have hrow := reads_row (fun e he => hread row (.head _) e he) hr
    cases rest with
    | nil =>
      refine ⟨r.pushRow row, hrow, rfl, rfl, ?_⟩
      simp [pushRow, Frame.nextAlternative, hitems]
    | cons next rest =>
      let r₁ : Reader := { r.pushRow row with top := (r.pushRow row).top.nextAlternative }
      have hbar : (r.pushRow row).step (.plain '|') = some r₁ := rfl
      obtain ⟨r', hrest, hmode, houter, htop⟩ := ih (r := r₁) (List.cons_ne_nil next rest)
        (fun row' h' => hread row' (.tail _ h')) rfl rfl
      refine ⟨r', ?_, hmode, houter, ?_⟩
      · have hsym : (Expr.ofRows (row :: next :: rest)).symbols =
            (Expr.ofItems row).symbols ++ .plain '|' :: (Expr.ofRows (next :: rest)).symbols := rfl
        rw [hsym]
        exact hrow.append (.cons hbar hrest)
      · rw [htop]
        simp [r₁, pushRow, Frame.nextAlternative, hitems]

/-- A group whose rows have been read is closed as an item of the group around it. -/
theorem body_eq_ofRows {r' : Reader} {opening : Opening}
    (htop : r'.top.nextAlternative = ⟨opening, (rows.map Expr.ofItems).reverse ++ [], []⟩) :
    r'.top.body = Expr.ofRows rows ∧ r'.top.opening = opening := by
  constructor
  · rw [Frame.body, htop]
    simp [Expr.ofRows]
  · exact congrArg Frame.opening htop

theorem reads_name {name : Text} (hname : ∀ c ∈ name, c ≠ '>') (soFar : Text) :
    Reads (name.map .plain) { r with mode := .name soFar }
      { r with mode := .name (name.reverse ++ soFar) } := by
  induction name generalizing soFar with
  | nil => exact .nil _
  | cons c rest ih =>
    have hstep : ({ r with mode := .name soFar } : Reader).step (.plain c) =
        some { r with mode := .name (c :: soFar) } := by
      simp [step, hname c (.head _)]
    rw [List.map_cons, List.reverse_cons, List.append_assoc]
    exact .cons hstep (ih (fun d hd => hname d (.tail _ hd)) (c :: soFar))

end Groups

theorem bodyStep_repetition {e : Expr} (symbol : Expr → Expr) (honce : ¬ e.IsRepetition) :
    ((r.push e).top.quantify? symbol).map (fun f => { r.push e with top := f }) =
      some (r.push (symbol e)) := by
  cases e <;> first | exact absurd trivial honce | rfl

/-- A unit is added to the items of the open group, and nothing else changes. -/
theorem reads_unit {e : Expr} (h : e.IsUnit) :
    ∀ r : Reader, r.mode = .body → Reads e.symbols r (r.push e) := by
  induction h with
  | char c =>
    intro r hr
    refine .single ?_
    rw [step_body hr, bodyStep_ofChar]
  | set negated hne hproper => exact fun r hr => reads_set negated hne hproper hr
  | any => exact fun r hr => .single (step_body hr _)
  | start => exact fun r hr => .single (step_body hr _)
  | finish => exact fun r hr => .single (step_body hr _)
  | boundary => exact fun r hr => .single (step_body hr _)
  | interior => exact fun r hr => .single (step_body hr _)
  | @group rows hne hrows ih =>
    intro r hr
    have hopen : Reads [.plain '(', .plain '?', .plain ':'] r (r.openGroup .group) :=
      .cons (step_body hr _) (.cons rfl (.single rfl))
    obtain ⟨r', hrows, hmode, houter, htop⟩ :=
      reads_rows (r := r.openGroup .group) hne ih rfl rfl
    obtain ⟨hbody, hopening⟩ := body_eq_ofRows htop
    have hclose : r'.step (.plain ')') = some (r.push (.group (Expr.ofRows rows))) := by
      rw [step_body hmode]
      simp [bodyStep, close?, houter, hopening, hbody, openGroup, push]
    exact (hopen.append hrows).append (.single hclose)
  | @capture name rows hname hne _ ih =>
    intro r hr
    have hchars := isGroupName_chars hname
    have hopen : Reads [.plain '(', .plain '?', .plain '<'] r { r with mode := .name [] } :=
      .cons (step_body hr _) (.cons rfl (.single rfl))
    have hread := reads_name (r := r) (fun c hc => (hchars c hc).2) []
    have hend : ({ r with mode := .name (name.reverse ++ []) } : Reader).step (.plain '>') =
        some (r.openGroup (.capture name)) := by
      simp [step, hname, openGroup]
    obtain ⟨r', hrows, hmode, houter, htop⟩ :=
      reads_rows (r := r.openGroup (.capture name)) hne ih rfl rfl
    obtain ⟨hbody, hopening⟩ := body_eq_ofRows htop
    have hclose : r'.step (.plain ')') = some (r.push (.capture name (Expr.ofRows rows))) := by
      rw [step_body hmode]
      simp [bodyStep, close?, houter, hopening, hbody, openGroup, push]
    exact ((hopen.append hread).append (.cons hend hrows)).append (.single hclose)
  | @opt e _ honce ih =>
    intro r hr
    refine (ih r hr).append (.single ?_)
    rw [step_body rfl]
    exact bodyStep_repetition .opt honce
  | @star e _ honce ih =>
    intro r hr
    refine (ih r hr).append (.single ?_)
    rw [step_body rfl]
    exact bodyStep_repetition .star honce

end Reader

/-! ## Whole expressions -/

/-- **Printing and reading agree.** A choice between rows of units, in which no two groups have the
same name, is read back from its written form. -/
theorem read?_print {rows : List (List Expr)} (hne : rows ≠ [])
    (hrows : ∀ row ∈ rows, ∀ e ∈ row, e.IsUnit) (hnodup : (Expr.ofRows rows).names.Nodup) :
    Expr.read? (Expr.ofRows rows).print = some (Expr.ofRows rows) := by
  have hnames : ∀ name ∈ (Expr.ofRows rows).names, '\\' ∉ name := by
    intro name hn hmem
    rw [Expr.names_ofRows hne] at hn
    simp only [List.mem_flatMap] at hn
    obtain ⟨row, hrow, e, he, hn⟩ := hn
    exact (isGroupName_chars ((hrows row hrow e he).isGroupName_of_mem name hn) _ hmem).1 rfl
  have hscan : scan .between (Expr.ofRows rows).print = some (Expr.ofRows rows).symbols := by
    simpa [scan] using Expr.scans_print _ hnames []
  obtain ⟨r, hread, hmode, houter, htop⟩ := Reader.reads_rows (r := .start) hne
    (fun row hrow e he => Reader.reads_unit (hrows row hrow e he)) rfl rfl
  have hbody := (Reader.body_eq_ofRows htop).1
  have hfold : (Expr.ofRows rows).symbols.foldlM Reader.step .start = some r := hread
  have hfinish : r.finish? = some (Expr.ofRows rows) := by
    simp [Reader.finish?, hmode, houter, hbody, Reader.start]
  simp [Expr.read?, hscan, hfold, hfinish, hnodup]

end Regex
end SuffixPattern
