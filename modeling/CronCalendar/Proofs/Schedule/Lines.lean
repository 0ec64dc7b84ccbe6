import CronCalendar.Proofs.Schedule.DrawnFields
import CronCalendar.Proofs.Schedule.NamedDays
import CronCalendar.Proofs.Text.Messages
import CronCalendar.Proofs.Text.Words
import CronCalendar.Schedule.Validation

/-!
# Schedule lines

A line of five words has a text for each kind (`exists_texts`), and is read as the schedule of these texts
with a drawn value in place of each `R` (`ofLine_of_words`). The validation takes the words as they are and
passes over each `R`; since a drawn value matches its own text, it accepts the lines that are read as
schedules whose fields all match something, whatever is drawn (`validateLine_agrees`).

A schedule that was read is written as a line of five words without an `R`, so reading that line draws
nothing and stores the same fields (`written_line_read`).
-/

namespace CronCalendar
set_option autoImplicit false

open Field (Kind Expr)
open Random (Source)

theorem isWord_of_mem_lineWords {line w : String} (mem : w ∈ Schedule.lineWords line) :
    Text.IsWord w.toList := by
  obtain ⟨cs, word, rfl⟩ := List.mem_map.1 mem
  rw [String.toList_ofList]
  exact Text.isWord_of_mem_words word

theorem lineWords_unwords {ws : List String} (all : ∀ w ∈ ws, Text.IsWord w.toList) :
    Schedule.lineWords (Text.unwords ws) = ws := by
  have space : " ".toList = [' '] := rfl
  rw [Schedule.lineWords, Text.unwords, String.toList_intercalate, space,
    Text.words_intercalate (List.forall_mem_map.2 all), List.map_map]
  exact (List.map_congr_left fun w _ => String.ofList_toList).trans (List.map_id ws)

theorem isWord_numeral (n : Nat) : Text.IsWord (Decimal.text n).toList := by
  rw [Decimal.text, String.toList_ofList]
  exact ⟨Decimal.digits_ne_nil n, fun c mem => Text.isBlank_of_isDigit (Decimal.isDigit_of_mem_digits mem)⟩

/-- A word asks for a random value just if it is the letter for one. -/
theorem isRandom_iff_of_isWord {w : String} (word : Text.IsWord w.toList) :
    Field.isRandom w = true ↔ w = "R" := by
  rw [Field.isRandom, Text.trimmed_of_isWord word, beq_iff_eq]

theorem validateFields_eq_ok_iff {texts : List (Kind × String)} :
    validateFields texts = .ok () ↔
      ∀ p ∈ texts, Field.isRandom p.2 = true ∨ (p.1.evaluate (.ofText p.2)).isEmpty = false := by
  induction texts with
  | nil => simp [validateFields]
  | cons first rest ih =>
    obtain ⟨kind, text⟩ := first
    rw [List.forall_mem_cons, ← ih, validateFields, validateField]
    by_cases ok : Field.isRandom text = true ∨ (kind.evaluate (.ofText text)).isEmpty = false
    · have accepted : (Field.isRandom text || !(kind.evaluate (.ofText text)).isEmpty) = true := by
        simpa using ok
      rw [if_pos accepted, and_iff_right ok]
    · have refused : ¬(Field.isRandom text || !(kind.evaluate (.ofText text)).isEmpty) = true := by
        simpa using ok
      simp only [if_neg refused, ok, false_and, reduceCtorEq]

/-- A refusal is about a field that matches nothing. -/
theorem exists_of_validateFields {texts : List (Kind × String)} {e : Error}
    (refused : validateFields texts = .error e) : ∃ kind text, e = .matchesNothing kind text := by
  induction texts with
  | nil => cases refused
  | cons first rest ih =>
    obtain ⟨kind, text⟩ := first
    rw [validateFields, validateField] at refused
    by_cases accepted : (Field.isRandom text || !(kind.evaluate (.ofText text)).isEmpty) = true
    · rw [if_pos accepted] at refused
      exact ih refused
    · rw [if_neg accepted] at refused
      exact ⟨kind, text, (Except.error.inj refused).symm⟩

/-- The schedule of a task that some texts stand for. -/
def Schedule.ofTexts (taskId : String) (text : Kind → String) : Schedule :=
  { taskId, fields := .ofTexts text }

theorem Schedule.isSatisfiable_ofTexts (taskId : String) (text : Kind → String) :
    (ofTexts taskId text).isSatisfiable = true ↔
      ∀ kind : Kind, (kind.evaluate (.ofText (text kind))).isEmpty = false := by
  have set : (ofTexts taskId text).fields = .ofTexts text := rfl
  simp only [isSatisfiable_iff, values, field_of_texts set]

variable {σ : Type} [Source σ] {line : String} {text : Kind → String}

/-- Five words are the texts of the kinds. -/
theorem exists_texts (five : (Schedule.lineWords line).length = 5) :
    ∃ text : Kind → String, Schedule.lineWords line = Kind.all.map text := by
  match words : Schedule.lineWords line, five with
  | [a, b, c, d, e], _ => exact ⟨fun kind => [a, b, c, d, e].getD kind.index "", rfl⟩

theorem length_texts (text : Kind → String) : (Kind.all.map text).length = Kind.all.length :=
  List.length_map _

/-- The texts of the kinds, each with its kind. -/
theorem zip_texts (text : Kind → String) :
    Kind.all.zip (Kind.all.map text) = Kind.all.map fun kind => (kind, text kind) := rfl

theorem not_isRandom_of_fixed (words : Schedule.lineWords line = Kind.all.map text)
    (fixed : "R" ∉ Schedule.lineWords line) (kind : Kind) : ¬ Field.isRandom (text kind) = true := by
  have word : text kind ∈ Schedule.lineWords line := words ▸ List.mem_map_of_mem kind.mem_all
  exact mt (isRandom_iff_of_isWord (isWord_of_mem_lineWords word)).1 fun eq => fixed (eq ▸ word)

/-- A line of another number of words is neither accepted nor read. -/
theorem refused_of_length (other : (Schedule.lineWords line).length ≠ 5) (taskId : String) (source : σ) :
    validateLine line = .error (.wordCount (Schedule.lineWords line).length) ∧
      Schedule.ofLine? taskId line source = .error (.wordCount (Schedule.lineWords line).length) := by
  rw [validateLine, Schedule.ofLine?]
  exact ⟨if_neg other, if_neg other⟩

theorem validateLine_of_words (words : Schedule.lineWords line = Kind.all.map text) :
    validateLine line = validateFields (Kind.all.map fun kind => (kind, text kind)) := by
  rw [validateLine, words, if_pos (length_texts text), zip_texts]

/-- A line is read as the schedule of its words, with some values of the calendar for the random ones. -/
theorem ofLine_of_words (words : Schedule.lineWords line = Kind.all.map text) (taskId : String)
    (source : σ) :
    ∃ draws : Kind → Nat, (∀ kind : Kind, kind.calendarBounds.Contains (draws kind)) ∧ ∃ after,
      Schedule.ofLine? taskId line source =
        .ok (.ofTexts taskId fun kind => drawnText draws kind (text kind), after) := by
  obtain ⟨draws, within, set⟩ := Schedule.setFieldsDrawing_all { taskId } source text
  change _ = Schedule.ofTexts taskId fun kind => drawnText draws kind (text kind) at set
  refine ⟨draws, within, ?_⟩
  rw [Schedule.ofLine?, words, if_pos (length_texts text), zip_texts, ← set]
  exact ⟨_, rfl⟩

/-- Without random words, a line is read without a draw. -/
theorem ofLine_eq_of_fixed (words : Schedule.lineWords line = Kind.all.map text)
    (fixed : "R" ∉ Schedule.lineWords line) (taskId : String) (source : σ) :
    Schedule.ofLine? taskId line source = .ok (.ofTexts taskId text, source) := by
  have set := Schedule.setFieldsDrawing_fixed { taskId } source
    (List.forall_mem_map.2 fun kind _ => not_isRandom_of_fixed words fixed kind :
      ∀ p ∈ Kind.all.map fun kind => (kind, text kind), ¬ Field.isRandom p.2 = true)
  rw [Schedule.foldl_setField] at set
  rw [Schedule.ofLine?, words, if_pos (length_texts text), zip_texts, set, Schedule.ofTexts]

/-! ## Lines that are accepted -/

/-- A line is read as a schedule whose fields all match something. -/
def ReadsSatisfiable (taskId line : String) (source : σ) : Prop :=
  ∃ s after, Schedule.ofLine? taskId line source = .ok (s, after) ∧ s.isSatisfiable = true

/-- Whatever is drawn, the words of a line are valid just if its schedule has a value for each field. -/
theorem validateLine_eq_ok_iff (taskId : String) (source : σ) :
    validateLine line = .ok () ↔ ReadsSatisfiable taskId line source := by
  by_cases five : (Schedule.lineWords line).length = 5
  · obtain ⟨text, words⟩ := exists_texts five
    obtain ⟨draws, within, after, read⟩ := ofLine_of_words words taskId source
    have valid : validateLine line = .ok () ↔
        (Schedule.ofTexts taskId fun kind => drawnText draws kind (text kind)).isSatisfiable = true := by
      rw [validateLine_of_words words, validateFields_eq_ok_iff, List.forall_mem_map,
        Schedule.isSatisfiable_ofTexts]
      simp only [evaluate_drawnText (within _)]
      exact ⟨fun valid kind => valid kind kind.mem_all, fun valid kind _ => valid kind⟩
    rw [valid]
    constructor
    · exact fun satisfiable => ⟨_, after, read, satisfiable⟩
    · rintro ⟨s, _, read', satisfiable⟩
      obtain rfl := congrArg Prod.fst (Except.ok.inj (read.symm.trans read'))
      exact satisfiable
  · obtain ⟨refused, unread⟩ := refused_of_length five taskId source
    refine iff_of_false (fun accepted => ?_) ?_
    · cases refused.symm.trans accepted
    · rintro ⟨s, _, read, -⟩
      cases unread.symm.trans read

/-- The message about the number of words is for lines of another number than five. -/
theorem validateLine_wordCount_iff {n : Nat} :
    (∃ e, validateLine line = .error e ∧ e.message = (Error.wordCount n).message) ↔
      (Schedule.lineWords line).length = n ∧ n ≠ 5 := by
  constructor
  · rintro ⟨e, refused, message⟩
    by_cases five : (Schedule.lineWords line).length = 5
    · obtain ⟨text, words⟩ := exists_texts five
      rw [validateLine_of_words words] at refused
      obtain ⟨kind, text, rfl⟩ := exists_of_validateFields refused
      exact absurd message (Error.matchesNothing_message_ne kind text n)
    · obtain ⟨refused', -⟩ := refused_of_length five "" (Random.ChaCha.ofSeed 0)
      cases refused'.symm.trans refused
      obtain rfl := Error.wordCount_message_inj message
      exact ⟨rfl, five⟩
  · rintro ⟨rfl, other⟩
    exact ⟨_, (refused_of_length other "" (Random.ChaCha.ofSeed 0)).1, rfl⟩

theorem ofLine_wordCount_iff {n : Nat} (taskId : String) (source : σ) :
    (∃ e, Schedule.ofLine? taskId line source = .error e ∧ e.message = (Error.wordCount n).message) ↔
      (Schedule.lineWords line).length = n ∧ n ≠ 5 := by
  constructor
  · rintro ⟨e, refused, message⟩
    by_cases five : (Schedule.lineWords line).length = 5
    · obtain ⟨text, words⟩ := exists_texts five
      obtain ⟨_, -, _, read⟩ := ofLine_of_words words taskId source
      cases read.symm.trans refused
    · obtain ⟨-, unread⟩ := refused_of_length five taskId source
      cases unread.symm.trans refused
      obtain rfl := Error.wordCount_message_inj message
      exact ⟨rfl, five⟩
  · rintro ⟨rfl, other⟩
    exact ⟨_, (refused_of_length other taskId source).2, rfl⟩

/-- The validation accepts a line exactly if it is read as a schedule whose fields all match something, and
both refuse it with one message about its words exactly if there are not five of them. So what is accepted
does not depend on the values that are drawn. -/
theorem validateLine_agrees (taskId line : String) (source : σ) :
    (validateLine line = .ok () ↔ ReadsSatisfiable taskId line source) ∧
      (∀ n, (∃ e, validateLine line = .error e ∧ e.message = (Error.wordCount n).message) ↔
        (Schedule.lineWords line).length = n ∧ n ≠ 5) ∧
      (∀ n, (∃ e, Schedule.ofLine? taskId line source = .error e ∧
          e.message = (Error.wordCount n).message) ↔
        (Schedule.lineWords line).length = n ∧ n ≠ 5) ∧
      ∀ {τ : Type} [Source τ] (taskId' : String) (source' : τ),
        ReadsSatisfiable taskId line source ↔ ReadsSatisfiable taskId' line source' := by
  refine ⟨validateLine_eq_ok_iff taskId source, fun n => validateLine_wordCount_iff,
    fun n => ofLine_wordCount_iff taskId source, fun taskId' source' => ?_⟩
  rw [← validateLine_eq_ok_iff, ← validateLine_eq_ok_iff]

/-! ## Lines that are written -/

/-- What is stored for a word is written as that word. -/
theorem expression_ofTexts (taskId : String) {text : Kind → String}
    (word : ∀ kind, Text.IsWord (text kind).toList) (kind : Kind) :
    (Schedule.ofTexts taskId text).expression kind = text kind := by
  have set : (Schedule.ofTexts taskId text).fields = .ofTexts text := rfl
  rw [Schedule.expression, Schedule.field_of_texts set, Expr.toText_ofText,
    Text.trimmed_of_isWord (word kind)]

/-- The schedule of some words is written as a line of these words. -/
theorem lineWords_line_ofTexts (taskId : String) {text : Kind → String}
    (word : ∀ kind, Text.IsWord (text kind).toList) :
    Schedule.lineWords (Schedule.ofTexts taskId text).line = Kind.all.map text := by
  rw [Schedule.line, List.map_congr_left fun kind _ => expression_ofTexts taskId word kind]
  exact lineWords_unwords (List.forall_mem_map.2 fun kind _ => word kind)

theorem isWord_drawnText {draws : Kind → Nat} {kind : Kind} {text : String}
    (word : Text.IsWord text.toList) : Text.IsWord (drawnText draws kind text).toList := by
  rw [drawnText]
  split
  · exact isWord_numeral _
  · exact word

/-- A word with a drawn value in place of a random one is no letter for a random one. -/
theorem drawnText_ne_random {draws : Kind → Nat} {kind : Kind} {text : String}
    (word : Text.IsWord text.toList) : drawnText draws kind text ≠ "R" := by
  rw [drawnText]
  split
  · intro numeral
    have letter : 'R' ∈ (Decimal.text (draws kind)).toList := by
      rw [numeral]
      decide
    rw [Decimal.text, String.toList_ofList] at letter
    exact absurd (Decimal.isDigit_of_mem_digits letter) (by decide)
  · rename_i fixed
    exact mt (isRandom_iff_of_isWord word).2 fixed

/-- A schedule that was read is written as a line of five words, none of which is random. That line is read
again without a draw, as a schedule with the same fields, which is written as the same line. -/
theorem written_line_read {taskId line : String} {source after : σ} {s : Schedule}
    (read : Schedule.ofLine? taskId line source = .ok (s, after)) :
    (Schedule.lineWords s.line).length = 5 ∧ "R" ∉ Schedule.lineWords s.line ∧
      ∀ {τ : Type} [Source τ] (taskId' : String) (source' : τ), ∃ s',
        Schedule.ofLine? taskId' s.line source' = .ok (s', source') ∧ s'.fields = s.fields ∧
          (∀ kind, s'.expression kind = s.expression kind ∧
            (s'.field kind).isAny = (s.field kind).isAny ∧ s'.values kind = s.values kind) ∧
          s'.line = s.line := by
  have five : (Schedule.lineWords line).length = 5 := by
    apply Decidable.byContradiction
    intro other
    cases (refused_of_length other taskId source).2.symm.trans read
  obtain ⟨text, words⟩ := exists_texts five
  have word (kind : Kind) : Text.IsWord (text kind).toList :=
    isWord_of_mem_lineWords (words ▸ List.mem_map_of_mem kind.mem_all)
  obtain ⟨draws, -, _, read'⟩ := ofLine_of_words words taskId source
  obtain rfl := congrArg Prod.fst (Except.ok.inj (read'.symm.trans read))
  have written : Schedule.lineWords
      (Schedule.ofTexts taskId fun kind => drawnText draws kind (text kind)).line =
        Kind.all.map fun kind => drawnText draws kind (text kind) :=
    lineWords_line_ofTexts taskId fun kind => isWord_drawnText (word kind)
  have fixed : "R" ∉ Schedule.lineWords
      (Schedule.ofTexts taskId fun kind => drawnText draws kind (text kind)).line := by
    rw [written, List.mem_map]
    rintro ⟨kind, -, eq⟩
    exact drawnText_ne_random (word kind) eq
  refine ⟨by rw [written, length_texts]; rfl, fixed, fun taskId' source' => ?_⟩
  exact ⟨_, ofLine_eq_of_fixed written fixed taskId' source', rfl, fun kind => ⟨rfl, rfl, rfl⟩, rfl⟩

/-- A line with an `R` and with blanks of several kinds is written with a value and with spaces. -/
theorem randomMinute_written_read :
    ∃ s after, Schedule.ofLine? "backup" "\tR\u3000*/6  1,15\n* 1-5" (Random.ChaCha.ofSeed 7) = .ok (s, after) ∧
      s.line = "1 */6 1,15 * 1-5" ∧ ∃ s',
        Schedule.ofLine? "copy" s.line (Random.ChaCha.ofSeed 8) = .ok (s', Random.ChaCha.ofSeed 8) ∧
          s'.fields = s.fields ∧ s'.line = s.line := by
  have written : (Schedule.ofLine? "backup" "\tR\u3000*/6  1,15\n* 1-5" (Random.ChaCha.ofSeed 7)).map
      (fun p => p.1.line) = .ok "1 */6 1,15 * 1-5" := by decide +kernel
  cases read : Schedule.ofLine? "backup" "\tR\u3000*/6  1,15\n* 1-5" (Random.ChaCha.ofSeed 7) with
  | error e =>
    rw [read] at written
    cases written
  | ok p =>
    rw [read] at written
    obtain ⟨-, -, again⟩ := written_line_read read
    obtain ⟨s', read', fields, -, line⟩ := again "copy" (Random.ChaCha.ofSeed 8)
    exact ⟨p.1, p.2, rfl, Except.ok.inj written, s', read', fields, line⟩

end CronCalendar
