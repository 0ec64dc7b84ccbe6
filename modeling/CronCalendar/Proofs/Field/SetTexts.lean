import CronCalendar.Proofs.Field.Bounds
import CronCalendar.Proofs.Field.Meaning

/-!
# The texts of stored fields

A set of values is written as its members parted by commas. Read as an expression, that text gives
the set back if all members lie within the bounds, and nothing at all if one does not
(`evaluate_setText`, `evaluate_setText_outside`), while the set itself only loses the members outside.
So two stored fields of one text have the same values unless one is a set on both sides of the
bounds and the other one a text (`evaluate_eq_iff_of_toText`).
-/

namespace CronCalendar.Field
set_option autoImplicit false

/-- A number as a numeral without leading zeros. -/
def Numeral.ofNat (n : Nat) : Numeral :=
  ⟨Decimal.digits n, Decimal.digits_ne_nil n, fun _ => Decimal.isDigit_of_mem_digits⟩

@[simp] theorem Numeral.value_ofNat (n : Nat) : (Numeral.ofNat n).value = n := Decimal.value_digits n

/-- A number as a term. -/
def Term.ofNat (n : Nat) : Term := ⟨.number (.ofNat n), none⟩

@[simp] theorem Term.values_ofNat (b : Bounds) (n : Nat) : (Term.ofNat n).values b = .singleton n := by
  rw [ofNat, values, Atom.values, Numeral.value_ofNat]

/-- An expression that lists numbers has these numbers for its numerals, and no steps. -/
theorem Expression.numerals_of_terms {e : Expression} {ns : List Nat}
    (terms : e.terms = ns.map Term.ofNat) :
    e.literals = ns.map Numeral.ofNat ∧ e.steps = [] := by
  constructor
  · rw [literals, terms, List.flatMap_map, List.map_eq_flatMap]
    rfl
  · rw [steps, terms, List.flatMap_map]
    exact List.flatMap_eq_nil_iff.2 fun _ _ => rfl

/-- The text of a set of values. -/
def setText (v : Values) : String := (Expr.values v).toText

theorem toList_setText (v : Values) :
    (setText v).toList = [','].intercalate (v.toList.map Decimal.digits) := by
  have texts : String.toList ∘ Decimal.text = Decimal.digits :=
    funext fun n => String.toList_ofList
  rw [setText, Expr.toText, String.toList_intercalate, List.map_map, texts]
  rfl

/-- The text of a set with members is an expression that lists them. -/
theorem exists_setText {v : Values} (nonempty : v.isEmpty = false) :
    ∃ e : Expression, (setText v).toList = e.text ∧ e.terms = v.toList.map Term.ofNat := by
  rw [toList_setText]
  obtain ⟨list, ascending⟩ := v
  cases list with
  | nil => cases nonempty
  | cons n ns =>
    refine ⟨⟨.ofNat n, ns.map .ofNat⟩, ?_, rfl⟩
    dsimp only
    clear nonempty ascending
    simp only [Expression.text, Expression.lexemes, Lexeme.spell_append, List.map_cons]
    induction ns generalizing n with
    | nil => simp [Term.lexemes, Term.ofNat, Atom.lexemes, Lexeme.text, Numeral.ofNat]
    | cons m ns ih =>
      have rest := ih m
      rw [List.map_cons, List.intercalate_cons_cons, rest]
      simp [Term.lexemes, Term.ofNat, Atom.lexemes, Lexeme.text, Numeral.ofNat]

/-- Sets with the same text are the same. -/
theorem setText_injective {v w : Values} (h : setText v = setText w) : v = w := by
  have digits_split : ∀ u : Values, u.toList ≠ [] →
      ((setText u).toList.splitOn ',') = u.toList.map Decimal.digits := by
    intro u nonempty
    rw [toList_setText]
    refine List.splitOn_intercalate ',' ?_ (by simpa using nonempty)
    intro ds hds comma
    obtain ⟨n, -, rfl⟩ := List.mem_map.1 hds
    exact absurd (Decimal.isDigit_of_mem_digits comma) (by decide)
  have ne_empty : ∀ u : Values, u.toList ≠ [] → (setText u).toList ≠ [] := by
    intro u nonempty empty
    have split := digits_split u nonempty
    rw [empty] at split
    obtain ⟨n, ns, list⟩ := List.exists_cons_of_ne_nil nonempty
    rw [list, List.map_cons] at split
    exact Decimal.digits_ne_nil n (List.cons.inj split).1.symm
  have lists : v.toList = w.toList := by
    by_cases hv : v.toList = []
    · by_cases hw : w.toList = []
      · rw [hv, hw]
      · refine absurd ?_ (ne_empty w hw)
        rw [← h, toList_setText, hv]
        rfl
    · by_cases hw : w.toList = []
      · refine absurd ?_ (ne_empty v hv)
        rw [h, toList_setText, hw]
        rfl
      · have same := digits_split v hv
        rw [h, digits_split w hw] at same
        have values := congrArg (List.map Decimal.value) same
        simpa [List.map_map, Function.comp_def, Decimal.value_digits] using values.symm
  exact Values.eq_of_toList lists

variable {b : Bounds} {v : Values}

/-- The text of a set is read as the set, if its members lie within the bounds. -/
theorem evaluate_setText (words : b.greatest < numberLimit)
    (within : ∀ n ∈ v, b.least ≤ n ∧ n ≤ b.greatest) : evaluate (setText v) b = v := by
  cases h : v.isEmpty with
  | true =>
    have nil : v.toList = [] := List.isEmpty_iff.1 h
    have empty : v = .empty := Values.eq_of_toList nil
    have written : Text.trim (setText v).toList = (⟨none, []⟩ : LooseExpression).text := by
      rw [toList_setText, nil]
      rfl
    have value := evaluate_loose (b := b) written (fun n hn => (List.not_mem_nil hn).elim)
      (fun t ht => (List.not_mem_nil ht).elim)
    rw [value, empty]
    rfl
  | false =>
    obtain ⟨e, text, terms⟩ := exists_setText h
    have written := (congrArg Text.trim text).trans e.trim_text
    rw [Expression.evaluate_allowed written words]
    · refine Values.ext_mem fun n => ?_
      rw [Expression.values, terms, Values.mem_unionAll, List.map_map]
      simp only [List.mem_map, Function.comp_apply, Term.values_ofNat]
      constructor
      · rintro ⟨_, ⟨m, hm, rfl⟩, hn⟩
        exact Values.mem_singleton.1 hn ▸ hm
      · intro hn
        exact ⟨_, ⟨n, hn, rfl⟩, Values.mem_singleton.2 rfl⟩
    · intro n hn
      rw [(Expression.numerals_of_terms terms).1] at hn
      obtain ⟨m, hm, rfl⟩ := List.mem_map.1 hn
      rw [Numeral.Within, Numeral.value_ofNat]
      exact within m hm
    · rw [(Expression.numerals_of_terms terms).2]
      exact fun n hn => absurd hn List.not_mem_nil

/-- The text of a set with a member outside of the bounds matches nothing. -/
theorem evaluate_setText_outside {m : Nat} (member : m ∈ v)
    (outside : ¬ (b.least ≤ m ∧ m ≤ b.greatest)) : evaluate (setText v) b = .empty := by
  obtain ⟨e, text, terms⟩ := exists_setText (Values.isEmpty_eq_false_iff.2 ⟨m, member⟩)
  have written := (congrArg Text.trim text).trans e.trim_text
  refine Expression.evaluate_disallowed written (Or.inl ⟨.ofNat m, ?_, Or.inl ?_⟩)
  · rw [(Expression.numerals_of_terms terms).1]
    exact List.mem_map_of_mem member
  · rw [Numeral.Within, Numeral.value_ofNat]
    exact outside

/-- What a schedule stores: a text is trimmed, and a lone star is kept as no restriction. -/
def Expr.Settled : Expr → Prop
  | .text s => Text.trimmed s = s ∧ s ≠ "*"
  | _ => True

namespace Expr

theorem settled_ofText (s : String) : (ofText s).Settled := by
  unfold ofText
  dsimp only
  split
  · trivial
  · rename_i star
    exact ⟨Text.trimmed_trimmed s, star⟩

/-- A field that is set from a text has that text, trimmed. -/
theorem toText_ofText (s : String) : (ofText s).toText = Text.trimmed s := by
  unfold ofText
  dsimp only
  split
  · rename_i star
    exact star.symm
  · rfl

/-- The text of a set has digits and commas only. -/
theorem digit_or_comma_of_mem_setText {v : Values} {c : Char} (h : c ∈ (setText v).toList) :
    c.isDigit = true ∨ c = ',' := by
  rw [toList_setText] at h
  generalize v.toList = ns at h
  induction ns with
  | nil => cases h
  | cons n ns ih =>
    cases ns with
    | nil =>
      rw [List.map_singleton, List.intercalate_singleton] at h
      exact Or.inl (Decimal.isDigit_of_mem_digits h)
    | cons m ns =>
      rw [List.map_cons, List.map_cons, List.intercalate_cons_cons, ← List.map_cons] at h
      rcases List.mem_append.1 h with h | h
      · rcases List.mem_append.1 h with h | h
        · exact Or.inl (Decimal.isDigit_of_mem_digits h)
        · exact Or.inr (List.mem_singleton.1 h)
      · exact ih h

theorem setText_settled (v : Values) : (text (setText v)).Settled := by
  constructor
  · rw [Text.trimmed, Text.trim_of_no_blanks, String.ofList_toList]
    intro c hc
    rcases digit_or_comma_of_mem_setText hc with digit | rfl
    · exact Text.isBlank_of_isDigit digit
    · decide
  · intro star
    have member : '*' ∈ (setText v).toList := by
      rw [star]
      decide
    rcases digit_or_comma_of_mem_setText member with digit | comma
    · exact absurd digit (by decide)
    · exact absurd comma (by decide)

/-- What a stored field becomes when it is set from its own text: a set is then a text. -/
def reread : Expr → Expr
  | values v => text (setText v)
  | e => e

theorem ofText_toText {e : Expr} (settled : e.Settled) : ofText e.toText = e.reread := by
  have read : ∀ s : String, (text s).Settled → ofText s = text s := by
    intro s h
    unfold ofText
    dsimp only
    rw [h.1, if_neg h.2]
  cases e with
  | any => decide
  | values v => exact read _ (setText_settled v)
  | text s => exact read s settled

@[simp] theorem toText_reread (e : Expr) : e.reread.toText = e.toText := by
  cases e <;> rfl

@[simp] theorem isAny_reread (e : Expr) : e.reread.isAny = e.isAny := by
  cases e <;> rfl

/-- The text of a stored field says whether it is restricted. -/
theorem isAny_iff {e : Expr} (settled : e.Settled) : e.isAny = true ↔ e.toText = "*" := by
  cases e with
  | any => exact ⟨fun _ => rfl, fun _ => rfl⟩
  | values v => exact ⟨fun h => (nomatch h), fun h => absurd h (setText_settled v).2⟩
  | text s => exact ⟨fun h => (nomatch h), fun h => absurd h settled.2⟩

end Expr

/-- A set lies on both sides of the bounds of a kind. -/
def Straddles (kind : Kind) (v : Values) : Prop :=
  (∃ n ∈ v, kind.expressionBounds.least ≤ n ∧ n ≤ kind.expressionBounds.greatest) ∧
    ∃ n ∈ v, ¬ (kind.expressionBounds.least ≤ n ∧ n ≤ kind.expressionBounds.greatest)

/-- Of two stored fields, one is a set on both sides of the bounds and the other one a text. -/
inductive Expr.Torn (kind : Kind) : Expr → Expr → Prop
  | setText {v : Values} {s : String} (straddles : Straddles kind v) : Torn kind (.values v) (.text s)
  | textSet {v : Values} {s : String} (straddles : Straddles kind v) : Torn kind (.text s) (.values v)

theorem Kind.words (kind : Kind) : kind.expressionBounds.greatest < numberLimit := by
  cases kind <;> decide

/-- Folding Sundays neither empties a set nor fills one. -/
theorem foldSunday_eq_empty_iff {v : Values} : foldSunday v = .empty ↔ v = .empty := by
  constructor
  · intro h
    unfold foldSunday at h
    split at h
    · have zero : 0 ∈ (Values.singleton 0).union (v.filter (· != 7)) :=
        Values.mem_union.2 (Or.inl (Values.mem_singleton.2 rfl))
      rw [h] at zero
      exact absurd zero List.not_mem_nil
    · exact h
  · rintro rfl
    rfl

/-- A set of values has the values of its text, unless it lies on both sides of the bounds. -/
theorem Kind.evaluate_setText_iff {kind : Kind} {v : Values} :
    kind.evaluate (.values v) = kind.evaluate (.text (setText v)) ↔ ¬ Straddles kind v := by
  by_cases within : ∀ n ∈ v, kind.expressionBounds.least ≤ n ∧ n ≤ kind.expressionBounds.greatest
  · have whole : v.within kind.expressionBounds.least kind.expressionBounds.greatest = v :=
      Values.ext_mem fun n => Values.mem_within.trans ⟨And.left, fun h => ⟨h, within n h⟩⟩
    simp only [Kind.evaluate, whole, evaluate_setText kind.words within, true_iff]
    rintro ⟨-, n, hn, outside⟩
    exact outside (within n hn)
  · obtain ⟨n, some⟩ := Classical.not_forall.1 within
    obtain ⟨hn, outside⟩ := Classical.not_imp.1 some
    have text : kind.evaluate (.text (setText v)) = .empty := by
      simp only [Kind.evaluate, evaluate_setText_outside hn outside]
      split
      · exact foldSunday_eq_empty_iff.2 rfl
      · rfl
    have set : kind.evaluate (.values v) = .empty ↔
        v.within kind.expressionBounds.least kind.expressionBounds.greatest = .empty := by
      simp only [Kind.evaluate]
      split
      · exact foldSunday_eq_empty_iff
      · exact Iff.rfl
    rw [text, set]
    constructor
    · rintro empty ⟨⟨m, hm, inside⟩, -⟩
      have member := Values.mem_within.2 ⟨hm, inside⟩
      rw [empty] at member
      exact List.not_mem_nil member
    · intro oneSided
      refine Values.ext_mem fun m => ⟨fun hm => ?_, fun hm => absurd hm List.not_mem_nil⟩
      obtain ⟨hm, inside⟩ := Values.mem_within.1 hm
      exact absurd ⟨⟨m, hm, inside⟩, n, hn, outside⟩ oneSided

/-- Stored fields of one text are restricted alike, and they have the same values exactly if they are
not torn. -/
theorem evaluate_eq_iff_of_toText {kind : Kind} {e f : Expr} (settled : e.Settled)
    (settled' : f.Settled) (same : e.toText = f.toText) :
    e.isAny = f.isAny ∧ (kind.evaluate e = kind.evaluate f ↔ ¬ Expr.Torn kind e f) := by
  have alike : e.isAny = f.isAny := by
    rw [Bool.eq_iff_iff, Expr.isAny_iff settled, Expr.isAny_iff settled', same]
  refine ⟨alike, ?_⟩
  cases e with
  | any =>
    cases f with
    | any => exact ⟨fun _ => nofun, fun _ => rfl⟩
    | values w => cases alike
    | text t => cases alike
  | values v =>
    cases f with
    | any => cases alike
    | values w =>
      obtain rfl : v = w := setText_injective same
      exact ⟨fun _ => nofun, fun _ => rfl⟩
    | text t =>
      have text : setText v = t := same
      rw [← text, Kind.evaluate_setText_iff]
      exact not_congr ⟨.setText, fun | .setText straddles => straddles⟩
  | text s =>
    cases f with
    | any => cases alike
    | values w =>
      have text : s = setText w := same
      rw [text, eq_comm, Kind.evaluate_setText_iff]
      exact not_congr ⟨.textSet, fun | .textSet straddles => straddles⟩
    | text t =>
      obtain rfl : s = t := same
      exact ⟨fun _ => nofun, fun _ => rfl⟩

/-- A stored field is a set on both sides of the bounds. -/
def Expr.Straddling (kind : Kind) (e : Expr) : Prop := ∃ v, e = .values v ∧ Straddles kind v

/-- Reading a stored field again keeps its values exactly if it is no set on both sides of the
bounds. -/
theorem Kind.evaluate_reread_iff {kind : Kind} {e : Expr} :
    kind.evaluate e.reread = kind.evaluate e ↔ ¬ Expr.Straddling kind e := by
  cases e with
  | any => exact ⟨fun _ => nofun, fun _ => rfl⟩
  | values v =>
    rw [Expr.reread, eq_comm, Kind.evaluate_setText_iff]
    exact not_congr ⟨fun straddles => ⟨v, rfl, straddles⟩, fun ⟨_, rfl, straddles⟩ => straddles⟩
  | text s => exact ⟨fun _ => nofun, fun _ => rfl⟩

end CronCalendar.Field
