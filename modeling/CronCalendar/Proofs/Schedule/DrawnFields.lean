import CronCalendar.Proofs.Schedule.Documents

/-!
# Fields set from texts

Setting the fields of a schedule one after the other stores what each text stands for, with a value in
place of a text that asks for a random one (`setFieldsDrawing_all`). Whatever source the values come
from, they are values of the calendar (`Random.draw_within`), which their texts match
(`Kind.mem_evaluate_numeral`).
-/

namespace CronCalendar
set_option autoImplicit false

open Field (Bounds Kind Expr)
open Random (Source draw drawBelow attempts wordLimit)

/-- A number lies between the ends of a range. -/
def Field.Bounds.Contains (b : Bounds) (n : Nat) : Prop := b.least ≤ n ∧ n ≤ b.greatest

namespace Random

variable {σ : Type} [Source σ]

/-- A word scaled to a range lies in it. -/
theorem drawBelow_lt {size : Nat} (some : 0 < size) (n : Nat) (s : σ) :
    (drawBelow size n s).1 < size := by
  induction n generalizing s with
  | zero => exact some
  | succ n ih =>
    rw [drawBelow]
    dsimp only
    split
    · have word : (Source.next s).1.toNat < wordLimit := (Source.next s).1.toNat_lt
      exact Nat.div_lt_of_lt_mul ((Nat.mul_lt_mul_right some).2 word)
    · exact ih _

theorem draw_within {b : Bounds} (ordered : b.least ≤ b.greatest) (s : σ) :
    b.Contains (draw b s).1 := by
  rw [draw]
  dsimp only
  split
  · omega
  · split
    · rename_i full
      have word : (Source.next s).1.toNat < wordLimit := (Source.next s).1.toNat_lt
      exact ⟨Nat.le_add_right _ _, by dsimp only; omega⟩
    · have below := @drawBelow_lt σ _ (b.greatest + 1 - b.least) (by omega) attempts s
      exact ⟨Nat.le_add_right _ _, by dsimp only; omega⟩

end Random

theorem Field.Kind.mem_all (kind : Kind) : kind ∈ Kind.all := by
  cases kind <;> decide

theorem Field.Kind.calendarBounds_ordered (kind : Kind) :
    kind.calendarBounds.least ≤ kind.calendarBounds.greatest := by
  cases kind <;> decide

namespace Fields

/-- The fields that texts stand for. -/
def ofTexts (text : Kind → String) : Fields where
  minute := .ofText (text .minute)
  hour := .ofText (text .hour)
  day := .ofText (text .day)
  month := .ofText (text .month)
  dayOfWeek := .ofText (text .dayOfWeek)

theorem get_ofTexts (text : Kind → String) (kind : Kind) :
    (ofTexts text).get kind = .ofText (text kind) := by
  cases kind <;> simp only [get, ofTexts]

end Fields

namespace Schedule

variable {s : Schedule} {text : Kind → String}

theorem field_of_texts (set : s.fields = .ofTexts text) (kind : Kind) :
    s.field kind = .ofText (text kind) := by
  rw [field, set, Fields.get_ofTexts]

theorem settled_of_texts (set : s.fields = .ofTexts text) : s.Settled := by
  intro kind
  have settled := Expr.settled_ofText (text kind)
  rwa [← field_of_texts set kind] at settled

/-- Fields that are stored from texts are read back as they are. -/
theorem reread_of_texts (set : s.fields = .ofTexts text) : s.reread = s := by
  have same (text : String) : (Expr.ofText text).reread = Expr.ofText text := by
    rw [Expr.ofText]
    split <;> rfl
  cases s
  dsimp only at set
  subst set
  simp only [reread, Fields.ofTexts, same]

/-- Setting all fields one after the other leaves none as it was. -/
theorem foldl_setField (s : Schedule) (text : Kind → String) :
    (Kind.all.map fun kind => (kind, text kind)).foldl (fun s p => s.setField p.1 p.2) s =
      { s with fields := .ofTexts text } := by
  simp only [Kind.all, List.map_cons, List.map_nil, List.foldl_cons, List.foldl_nil, setField, setExpr,
    Fields.set, Fields.ofTexts]

end Schedule

namespace Field

theorem setText_singleton (n : Nat) : setText (.singleton n) = Decimal.text n := by
  simp [setText, Expr.toText, Values.singleton]

/-- The text of a number is stored as it is. -/
theorem Expr.ofText_numeral (n : Nat) : ofText (Decimal.text n) = text (Decimal.text n) := by
  have read : ofText (setText (.singleton n)) = text (setText (.singleton n)) :=
    ofText_toText (e := .values (.singleton n)) trivial
  rwa [setText_singleton] at read

/-- The text of a value of the calendar matches that value. -/
theorem Kind.mem_evaluate_numeral {kind : Kind} {n : Nat} (within : kind.calendarBounds.Contains n) :
    n ∈ kind.evaluate (.ofText (Decimal.text n)) := by
  have inside : kind.expressionBounds.least ≤ n ∧ n ≤ kind.expressionBounds.greatest := by
    unfold Bounds.Contains at within
    cases kind <;> simp only [Kind.calendarBounds, Kind.expressionBounds] at * <;> omega
  have values : Field.evaluate (Decimal.text n) kind.expressionBounds = .singleton n := by
    rw [← setText_singleton]
    apply evaluate_setText kind.words
    intro m member
    rw [Values.mem_singleton.1 member]
    exact inside
  have member : n ∈ Values.singleton n := Values.mem_singleton.2 rfl
  rw [Expr.ofText_numeral]
  simp only [Kind.evaluate, values]
  split
  · rename_i weekday
    subst weekday
    have le : n ≤ 6 := within.2
    refine (mem_foldSunday fun m hm => ?_).2 ⟨by omega, Or.inl member⟩
    rw [Values.mem_singleton.1 hm]
    omega
  · exact member

end Field

/-- A text with a value in place of a random one. -/
def drawnText (draws : Kind → Nat) (kind : Kind) (text : String) : String :=
  if Field.isRandom text then Decimal.text (draws kind) else text

/-- Whatever value of the calendar is drawn, a random text matches it, and another text what it did. -/
theorem evaluate_drawnText {draws : Kind → Nat} {kind : Kind}
    (within : kind.calendarBounds.Contains (draws kind)) (text : String) :
    (kind.evaluate (.ofText (drawnText draws kind text))).isEmpty = false ↔
      Field.isRandom text = true ∨ (kind.evaluate (.ofText text)).isEmpty = false := by
  rw [drawnText]
  split
  · rename_i random
    exact iff_of_true
      (Values.isEmpty_eq_false_iff.2 ⟨_, Field.Kind.mem_evaluate_numeral within⟩) (.inl random)
  · rename_i fixed
    rw [or_iff_right fixed]

namespace Schedule

variable {σ : Type} [Source σ]

theorem setFieldsDrawing_cons (s : Schedule) (source : σ) (kind : Kind) (text : String)
    (rest : List (Kind × String)) :
    s.setFieldsDrawing source ((kind, text) :: rest) =
      (s.setField kind (Field.expandRandom text kind.calendarBounds source).1).setFieldsDrawing
        (Field.expandRandom text kind.calendarBounds source).2 rest := by
  rw [setFieldsDrawing, setFieldDrawing]

/-- A text is expanded with the value that is drawn. -/
theorem expandRandom_text {draws : Kind → Nat} {kind : Kind} {source : σ}
    (drawn : draws kind = (draw kind.calendarBounds source).1) (text : String) :
    (Field.expandRandom text kind.calendarBounds source).1 = drawnText draws kind text := by
  rw [drawnText, drawn, Field.expandRandom]
  split <;> rfl

/-- Texts that ask for no random value are stored without a draw. -/
theorem setFieldsDrawing_fixed (s : Schedule) (source : σ) {texts : List (Kind × String)}
    (fixed : ∀ p ∈ texts, ¬ Field.isRandom p.2 = true) :
    s.setFieldsDrawing source texts = (texts.foldl (fun s p => s.setField p.1 p.2) s, source) := by
  induction texts generalizing s with
  | nil => rfl
  | cons first rest ih =>
    obtain ⟨kind, text⟩ := first
    obtain ⟨first, fixed⟩ := List.forall_mem_cons.1 fixed
    rw [setFieldsDrawing_cons, Field.expandRandom, if_neg first, ih _ fixed, List.foldl_cons]

/-- Whatever the source, fields are set to texts with some values of the calendar. -/
theorem exists_setFieldsDrawing (s : Schedule) (source : σ) {texts : List (Kind × String)}
    (distinct : (texts.map Prod.fst).Nodup) :
    ∃ draws : Kind → Nat, (∀ kind : Kind, kind.calendarBounds.Contains (draws kind)) ∧
      (s.setFieldsDrawing source texts).1 =
        texts.foldl (fun s p => s.setField p.1 (drawnText draws p.1 p.2)) s := by
  induction texts generalizing s source with
  | nil =>
    exact ⟨fun kind => kind.calendarBounds.least,
      fun kind => ⟨Nat.le_refl _, kind.calendarBounds_ordered⟩, rfl⟩
  | cons first rest ih =>
    obtain ⟨kind, text⟩ := first
    rw [List.map_cons, List.nodup_cons] at distinct
    obtain ⟨fresh, distinct⟩ := distinct
    obtain ⟨draws, within, set⟩ := ih
      (s.setField kind (Field.expandRandom text kind.calendarBounds source).1)
      (Field.expandRandom text kind.calendarBounds source).2 distinct
    refine ⟨Function.update draws kind (draw kind.calendarBounds source).1, fun other => ?_, ?_⟩
    · by_cases eq : other = kind
      · rw [eq, Function.update_self]
        exact Random.draw_within kind.calendarBounds_ordered source
      · rw [Function.update_of_ne eq]
        exact within other
    · rw [setFieldsDrawing_cons, set, List.foldl_cons,
        expandRandom_text (Function.update_self kind (draw kind.calendarBounds source).1 draws)]
      apply List.foldl_ext
      intro s p mem
      have apart : p.1 ≠ kind := fun eq => fresh (eq ▸ List.mem_map.2 ⟨p, mem, rfl⟩)
      rw [drawnText, drawnText, Function.update_of_ne apart]

theorem setFieldsDrawing_all (s : Schedule) (source : σ) (text : Kind → String) :
    ∃ draws : Kind → Nat, (∀ kind : Kind, kind.calendarBounds.Contains (draws kind)) ∧
      (s.setFieldsDrawing source (Kind.all.map fun kind => (kind, text kind))).1 =
        { s with fields := .ofTexts fun kind => drawnText draws kind (text kind) } := by
  have distinct : ((Kind.all.map fun kind => (kind, text kind)).map Prod.fst).Nodup := by
    rw [List.map_map]
    exact (by decide : Kind.all.Nodup)
  obtain ⟨draws, within, set⟩ := exists_setFieldsDrawing s source distinct
  refine ⟨draws, within, ?_⟩
  rw [set, ← foldl_setField, List.foldl_map, List.foldl_map]

end Schedule

end CronCalendar
