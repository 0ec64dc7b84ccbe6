import CronCalendar.Proofs.Field.Scanning
import CronCalendar.Proofs.Field.Spelling
import CronCalendar.Proofs.Text.Trimming

/-!
# What expressions mean

Evaluating an expression gives the values that its grammar says (`evaluate_expression`), and the
empty set as soon as one of its numerals is not allowed. Texts outside of the grammar match nothing
either, unless they are irregular: loose expressions in which a term is missing or has a second step
are evaluated all the same (`evaluate_outside_iff`).
-/

namespace CronCalendar.Field
set_option autoImplicit false

open Lexeme (token spell numerals Parted)

variable {b : Bounds}

namespace Lexeme

/-- Lexemes go on parted behind other ones if a sign comes first. -/
theorem Parted.append {ls ms : List Lexeme} (left : Parted ls) (right : Parted ms)
    (sign : ∀ m ∈ ms.head?, m.isNumeral = false) : Parted (ls ++ ms) :=
  List.isChain_append.2 ⟨left, right, fun l _ m hm => by rw [sign m hm, Bool.and_false]⟩

/-- Runs of lexemes that begin with the same sign are parted together. -/
theorem parted_flatMap {α : Type} {sign : Lexeme} (isSign : sign.isNumeral = false)
    {run : α → List Lexeme} {as : List α} (each : ∀ a ∈ as, Parted (sign :: run a)) :
    Parted (as.flatMap fun a => sign :: run a) := by
  induction as with
  | nil => exact List.IsChain.nil
  | cons a as ih =>
    rw [List.flatMap_cons]
    refine (each a List.mem_cons_self).append (ih fun a ha => each a (List.mem_cons_of_mem _ ha)) ?_
    intro m hm
    cases as with
    | nil => cases hm
    | cons a' as => exact Option.mem_some.1 hm ▸ isSign

end Lexeme

theorem Atom.parted (a : Atom) : Parted a.lexemes := by
  cases a <;> simp [Parted, Atom.lexemes, Lexeme.isNumeral]

theorem LooseTerm.parted (t : LooseTerm) : Parted t.lexemes := by
  refine t.atom.parted.append (Lexeme.parted_flatMap rfl fun s _ => ?_) fun m hm => ?_
  · simp [Parted, Lexeme.isNumeral]
  · cases h : t.steps with
    | nil => rw [h] at hm; cases hm
    | cons s ss => rw [h] at hm; exact Option.mem_some.1 hm ▸ rfl

theorem LooseExpression.parted (e : LooseExpression) : Parted e.lexemes := by
  have piece_parted : ∀ t, Parted (piece t) := by
    intro t
    cases t with
    | none => exact List.IsChain.nil
    | some t => exact t.parted
  have behind_comma : ∀ t, Parted (.comma :: piece t) := fun t =>
    List.isChain_cons.2 ⟨fun _ _ => rfl, piece_parted t⟩
  refine (piece_parted e.first).append (Lexeme.parted_flatMap rfl fun t _ => behind_comma t) ?_
  intro m hm
  cases h : e.more with
  | nil => rw [h] at hm; cases hm
  | cons t ts => rw [h] at hm; exact Option.mem_some.1 hm ▸ rfl

theorem Atom.numerals_lexemes (a : Atom) : numerals a.lexemes = a.literals := by
  cases a <;> rfl

theorem LooseTerm.numerals_lexemes (t : LooseTerm) : numerals t.lexemes = t.literals := by
  have steps : ∀ ss : List Numeral, numerals (ss.flatMap fun s => [.slash, .numeral s]) = ss := by
    intro ss
    induction ss with
    | nil => rfl
    | cons s ss ih => rw [List.flatMap_cons, Lexeme.numerals_append, ih]; rfl
  rw [lexemes, Lexeme.numerals_append, Atom.numerals_lexemes, steps, literals]

theorem LooseExpression.numerals_lexemes (e : LooseExpression) :
    numerals e.lexemes = e.terms.flatMap LooseTerm.literals := by
  have piece_numerals : ∀ t, numerals (piece t) = t.toList.flatMap LooseTerm.literals := by
    intro t
    cases t with
    | none => rfl
    | some t => simp [piece, t.numerals_lexemes]
  have more : ∀ ts : List (Option LooseTerm),
      numerals (ts.flatMap fun t => .comma :: piece t) =
        (ts.filterMap id).flatMap LooseTerm.literals := by
    intro ts
    induction ts with
    | nil => rfl
    | cons t ts ih =>
      have comma : numerals (.comma :: piece t) = numerals (piece t) := rfl
      rw [List.flatMap_cons, Lexeme.numerals_append, ih, comma, piece_numerals]
      cases t <;> simp
  rw [lexemes, Lexeme.numerals_append, piece_numerals, more, terms, pieces]
  cases e.first <;> simp

/-- Where 32 bits suffice for the bounds, they suffice for what lies within them. -/
theorem LooseExpression.Admissible.small {e : LooseExpression} (admissible : e.Admissible b)
    (words : b.greatest < numberLimit) : ∀ n ∈ numerals e.lexemes, n.value < numberLimit := by
  intro n hn
  rw [e.numerals_lexemes] at hn
  obtain ⟨t, ht, hn⟩ := List.mem_flatMap.1 hn
  exact Nat.lt_of_le_of_lt ((admissible t ht).1 n hn).2 words

section Evaluation

variable {s : String} {e : LooseExpression}

theorem evaluate_loose (written : Text.trim s.toList = e.text)
    (small : ∀ n ∈ numerals e.lexemes, n.value < numberLimit) (admissible : e.Admissible b) :
    evaluate s b = e.values b := by
  have tokens : tokens? s = some (e.lexemes.map token) := by
    rw [tokens?, written, LooseExpression.text, tokens_spell e.parted, if_pos small]
  rcases run_lexemes b e with ⟨-, scan, ps, run, ends, values⟩ | ⟨bad, -⟩
  · have terms : terms? s b = some ps := by
      simp only [terms?, tokens, run, ends, Option.bind_eq_bind, Option.bind_some]
    rw [evaluate, terms, ← values]
  · exact absurd admissible bad

theorem evaluate_refused (written : Text.trim s.toList = e.text)
    (bad : ¬ ((∀ n ∈ numerals e.lexemes, n.value < numberLimit) ∧ e.Admissible b)) :
    evaluate s b = .empty := by
  have terms : terms? s b = none := by
    by_cases small : ∀ n ∈ numerals e.lexemes, n.value < numberLimit
    · have tokens : tokens? s = some (e.lexemes.map token) := by
        rw [tokens?, written, LooseExpression.text, tokens_spell e.parted, if_pos small]
      rcases run_lexemes b e with ⟨admissible, -⟩ | ⟨-, refused⟩
      · exact absurd ⟨small, admissible⟩ bad
      · simp only [terms?, tokens, refused, Option.bind_eq_bind, Option.bind_some, Option.bind_none]
    · have tokens : tokens? s = none := by
        rw [tokens?, written, LooseExpression.text, tokens_spell e.parted, if_neg small]
      simp only [terms?, tokens, Option.bind_eq_bind, Option.bind_none]
  rw [evaluate, terms]

/-- A text that matches something is a loose expression. -/
theorem exists_loose (found : evaluate s b ≠ .empty) :
    ∃ e : LooseExpression, Text.trim s.toList = e.text := by
  unfold evaluate at found
  split at found
  · rename_i ps terms
    obtain ⟨ts, tokens, h⟩ := Option.bind_eq_some_iff.1 terms
    obtain ⟨scan, run, ends⟩ := Option.bind_eq_some_iff.1 h
    obtain ⟨ls, text, rfl⟩ := exists_lexemes tokens
    obtain ⟨e, rfl⟩ := exists_expression run ends
    exact ⟨e, text.symm⟩
  · exact absurd rfl found

end Evaluation

/-- A term as a loose one. -/
def Term.loose (t : Term) : LooseTerm := ⟨t.atom, t.step.toList⟩

theorem Term.lexemes_loose (t : Term) : t.loose.lexemes = t.lexemes := by
  obtain ⟨atom, step⟩ := t
  cases step <;> rfl

theorem Term.values_loose (t : Term) : t.loose.values b = t.values b := by
  obtain ⟨atom, step⟩ := t
  cases step <;> rfl

/-- An expression as a loose one. -/
def Expression.loose (e : Expression) : LooseExpression :=
  ⟨some e.first.loose, e.more.map fun t => some t.loose⟩

namespace Expression

theorem terms_loose (e : Expression) : e.loose.terms = e.terms.map Term.loose := by
  simp [loose, LooseExpression.terms, LooseExpression.pieces, terms, List.filterMap_map]

theorem text_loose (e : Expression) : e.loose.text = e.text := by
  simp [loose, LooseExpression.text, LooseExpression.lexemes, LooseExpression.piece, text, lexemes,
    List.flatMap_map, Term.lexemes_loose]

theorem values_loose (e : Expression) : e.loose.values b = e.values b := by
  have each : LooseTerm.values b ∘ Term.loose = Term.values b := funext fun t => t.values_loose
  rw [LooseExpression.values, terms_loose, List.map_map, each, values]

theorem numerals_loose (e : Expression) : numerals e.loose.lexemes = e.literals := by
  rw [LooseExpression.numerals_lexemes, terms_loose, List.flatMap_map]
  rfl

theorem admissible_loose_iff (e : Expression) :
    e.loose.Admissible b ↔ (∀ n ∈ e.literals, n.Within b) ∧ ∀ n ∈ e.steps, n.value ≠ 0 := by
  simp only [LooseExpression.Admissible, terms_loose, List.forall_mem_map, literals, steps,
    List.mem_flatMap, LooseTerm.Admissible]
  constructor
  · intro h
    exact ⟨fun n ⟨t, ht, hn⟩ => (h t ht).1 n hn, fun n ⟨t, ht, hn⟩ => (h t ht).2 n hn⟩
  · intro h t ht
    exact ⟨fun n hn => h.1 n ⟨t, ht, hn⟩, fun n hn => h.2 n ⟨t, ht, hn⟩⟩

theorem not_blank_of_mem_text {e : Expression} {c : Char} (h : c ∈ e.text) :
    Text.isBlank c = false := Lexeme.not_blank_of_mem_spell h

theorem trim_text (e : Expression) : Text.trim e.text = e.text :=
  Text.trim_of_no_blanks fun _ => not_blank_of_mem_text

variable {s : String}

/-- What an expression with allowed numerals is evaluated to. -/
theorem evaluate_allowed {e : Expression} (written : Text.trim s.toList = e.text)
    (words : b.greatest < numberLimit) (within : ∀ n ∈ e.literals, n.Within b)
    (positive : ∀ n ∈ e.steps, n.value ≠ 0) : evaluate s b = e.values b := by
  have admissible := e.admissible_loose_iff.2 ⟨within, positive⟩
  rw [evaluate_loose (written.trans e.text_loose.symm) (admissible.small words) admissible,
    e.values_loose]

/-- A single numeral that is not allowed empties the whole expression. -/
theorem evaluate_disallowed {e : Expression} (written : Text.trim s.toList = e.text)
    (bad : (∃ n ∈ e.literals, ¬ n.Within b ∨ numberLimit ≤ n.value) ∨ ∃ n ∈ e.steps, n.value = 0) :
    evaluate s b = .empty := by
  refine evaluate_refused (written.trans e.text_loose.symm) ?_
  rw [e.numerals_loose, e.admissible_loose_iff]
  rintro ⟨small, within, positive⟩
  rcases bad with ⟨n, hn, outside | large⟩ | ⟨n, hn, zero⟩
  · exact outside (within n hn)
  · exact absurd (small n hn) (Nat.not_lt.2 large)
  · exact positive n hn zero

end Expression

/-- An expression, with or without blanks around it, is evaluated to the values of its terms, and to
the empty set if a numeral lies outside of the bounds or does not fit into 32 bits, or a step is
zero. -/
theorem evaluate_expression (e : Expression) (before after : List Char)
    (blankBefore : ∀ c ∈ before, Text.isBlank c = true)
    (blankAfter : ∀ c ∈ after, Text.isBlank c = true) (words : b.greatest < numberLimit) :
    ((∀ n ∈ e.literals, n.Within b) → (∀ n ∈ e.steps, n.value ≠ 0) →
        evaluate (String.ofList (before ++ e.text ++ after)) b = e.values b) ∧
      ((∃ n ∈ e.literals, ¬ n.Within b ∨ numberLimit ≤ n.value) ∨ (∃ n ∈ e.steps, n.value = 0) →
        evaluate (String.ofList (before ++ e.text ++ after)) b = .empty) := by
  have written : Text.trim (String.ofList (before ++ e.text ++ after)).toList = e.text := by
    rw [String.toList_ofList, Text.trim_surrounded _ blankBefore blankAfter, e.trim_text]
  exact ⟨Expression.evaluate_allowed written words, Expression.evaluate_disallowed written⟩

/-- The numbers 10, 15 and 20, and those from 5 on at a distance of 25. -/
def mixedSteps : Expression where
  first := ⟨.range ⟨['1', '0'], nofun, List.all_eq_true.1 rfl⟩
      ⟨['0', '2', '0'], nofun, List.all_eq_true.1 rfl⟩,
    some ⟨['5'], nofun, List.all_eq_true.1 rfl⟩⟩
  more := [⟨.number ⟨['5'], nofun, List.all_eq_true.1 rfl⟩,
    some ⟨['2', '5'], nofun, List.all_eq_true.1 rfl⟩⟩]

/-- The numbers are named for the minute, and the step 25 is too large for the hour. -/
theorem mixedSteps_evaluated :
    ((∀ n ∈ mixedSteps.literals, n.Within ⟨0, 59⟩) ∧ (∀ n ∈ mixedSteps.steps, n.value ≠ 0) ∧
        evaluate " 10-020/5,5/25\t" ⟨0, 59⟩ = .ofList [5, 10, 15, 20, 30, 55]) ∧
      (∃ n ∈ mixedSteps.literals, ¬ n.Within ⟨0, 23⟩) ∧
        evaluate " 10-020/5,5/25\t" ⟨0, 23⟩ = .empty := by
  have text : " 10-020/5,5/25\t" = String.ofList ([' '] ++ mixedSteps.text ++ ['\t']) := by rfl
  have within : ∀ n ∈ mixedSteps.literals, n.Within ⟨0, 59⟩ := by decide
  have positive : ∀ n ∈ mixedSteps.steps, n.value ≠ 0 := by decide
  have outside : ∃ n ∈ mixedSteps.literals, ¬ n.Within ⟨0, 23⟩ := by decide
  have values : mixedSteps.values ⟨0, 59⟩ = .ofList [5, 10, 15, 20, 30, 55] := by decide +kernel
  have space : ∀ c ∈ [' '], Text.isBlank c = true := List.all_eq_true.1 rfl
  have tab : ∀ c ∈ ['\t'], Text.isBlank c = true := List.all_eq_true.1 rfl
  have minutes := (evaluate_expression (b := ⟨0, 59⟩) mixedSteps [' '] ['\t'] space tab
    (by decide)).1 within positive
  have hours := (evaluate_expression (b := ⟨0, 23⟩) mixedSteps [' '] ['\t'] space tab
    (by decide)).2 (Or.inl (outside.imp fun _ h => ⟨h.1, Or.inl h.2⟩))
  rw [text]
  exact ⟨⟨within, positive, minutes.trans values⟩, outside, hours⟩

/-- A loose expression in which nothing is missing and no step is a second one is an expression. -/
theorem LooseExpression.exists_of_regular {e : LooseExpression} (regular : ¬ e.Irregular) :
    ∃ f : Expression, f.loose = e := by
  have strict : ∀ t ∈ e.pieces, ∃ u : Term, some u.loose = t := by
    intro t ht
    cases t with
    | none => exact absurd (Or.inl ht) regular
    | some t =>
      obtain ⟨atom, steps⟩ := t
      cases steps with
      | nil => exact ⟨⟨atom, none⟩, rfl⟩
      | cons s ss =>
        cases ss with
        | nil => exact ⟨⟨atom, some s⟩, rfl⟩
        | cons s' ss =>
          refine absurd (Or.inr ⟨⟨atom, s :: s' :: ss⟩, ?_, by simp⟩) regular
          exact List.mem_filterMap.2 ⟨_, ht, rfl⟩
  obtain ⟨first, same⟩ := strict e.first List.mem_cons_self
  have rest : ∀ ts : List (Option LooseTerm), (∀ t ∈ ts, ∃ u : Term, some u.loose = t) →
      ∃ us : List Term, us.map (fun u => some u.loose) = ts := by
    intro ts all
    induction ts with
    | nil => exact ⟨[], rfl⟩
    | cons t ts ih =>
      obtain ⟨u, rfl⟩ := all t List.mem_cons_self
      obtain ⟨us, rfl⟩ := ih fun t ht => all t (List.mem_cons_of_mem _ ht)
      exact ⟨u :: us, rfl⟩
  obtain ⟨more, same'⟩ := rest e.more fun t ht => strict t (List.mem_cons_of_mem _ ht)
  exact ⟨⟨first, more⟩, by rw [Expression.loose, same, same']⟩

/-- A text outside of the grammar matches nothing, unless it is a loose expression with allowed numerals
in which a term is missing or has a second step, and some term has a value. -/
theorem evaluate_outside_iff {s : String} (words : b.greatest < numberLimit)
    (outside : ∀ e : Expression, Text.trim s.toList ≠ e.text) :
    evaluate s b = .empty ↔
      ¬ ∃ e : LooseExpression, Text.trim s.toList = e.text ∧ e.Irregular ∧ e.Admissible b ∧
        ∃ m, m ∈ e.values b := by
  constructor
  · rintro empty ⟨e, written, -, admissible, m, hm⟩
    rw [← evaluate_loose written (admissible.small words) admissible, empty] at hm
    exact List.not_mem_nil hm
  · intro none
    apply Classical.byContradiction
    intro found
    obtain ⟨e, written⟩ := exists_loose found
    have admissible : e.Admissible b := by
      apply Classical.byContradiction
      intro bad
      exact found (evaluate_refused written fun h => bad h.2)
    have irregular : e.Irregular := by
      apply Classical.byContradiction
      intro regular
      obtain ⟨f, rfl⟩ := LooseExpression.exists_of_regular regular
      exact outside f (written.trans f.text_loose)
    rw [evaluate_loose written (admissible.small words) admissible] at found
    apply none
    refine ⟨e, written, irregular, admissible, ?_⟩
    apply Classical.byContradiction
    intro nothing
    refine found (Values.ext_mem fun m => ⟨fun hm => absurd ⟨m, hm⟩ nothing, ?_⟩)
    exact fun hm => (List.not_mem_nil hm).elim

/-- A term has one slash at most and no comma. -/
theorem Term.count_slash_le (t : Term) :
    (spell t.lexemes).count '/' ≤ 1 ∧ (spell t.lexemes).count ',' = 0 := by
  have signs : ∀ n : Numeral, n.digits.count '/' = 0 ∧ n.digits.count ',' = 0 := by
    intro n
    refine ⟨List.count_eq_zero_of_not_mem fun h => ?_, List.count_eq_zero_of_not_mem fun h => ?_⟩
    · exact absurd (n.all_isDigit _ h) (by decide)
    · exact absurd (n.all_isDigit _ h) (by decide)
  obtain ⟨atom, step⟩ := t
  cases atom <;> cases step <;>
    simp [Term.lexemes, Atom.lexemes, Lexeme.text, signs]

/-- An expression has at most one slash more than commas. -/
theorem Expression.count_slash_le (e : Expression) : e.text.count '/' ≤ e.text.count ',' + 1 := by
  have more : ∀ ts : List Term,
      (spell (ts.flatMap fun t => .comma :: t.lexemes)).count '/' ≤
        (spell (ts.flatMap fun t => .comma :: t.lexemes)).count ',' := by
    intro ts
    induction ts with
    | nil => exact Nat.le_refl _
    | cons t ts ih =>
      have here := t.count_slash_le
      have split : spell ((t :: ts).flatMap fun t => .comma :: t.lexemes) =
          ',' :: (spell t.lexemes ++ spell (ts.flatMap fun t => .comma :: t.lexemes)) := by
        simp [Lexeme.text]
      rw [split, List.count_cons_of_ne (by decide), List.count_cons_self, List.count_append,
        List.count_append]
      omega
  have first := e.first.count_slash_le
  have rest := more e.more
  rw [text, lexemes, Lexeme.spell_append, List.count_append, List.count_append]
  omega

/-- No expression begins with a comma. -/
theorem Expression.head_ne_comma (e : Expression) : e.text.head? ≠ some ',' := by
  have digit : ∀ (n : Numeral) (rest : List Char), (n.digits ++ rest).head? ≠ some ',' := by
    intro n rest h
    rw [List.head?_append_of_ne_nil _ n.nonempty] at h
    exact absurd (n.head_isDigit h) (by decide)
  obtain ⟨⟨atom, step⟩, more⟩ := e
  cases atom with
  | star => simp [text, lexemes, Term.lexemes, Atom.lexemes, Lexeme.text]
  | number n =>
    simp only [text, lexemes, Term.lexemes, Atom.lexemes, Lexeme.spell_append, Lexeme.spell_cons,
      Lexeme.text, List.append_assoc]
    exact digit n _
  | range lo hi =>
    simp only [text, lexemes, Term.lexemes, Atom.lexemes, Lexeme.spell_append, Lexeme.spell_cons,
      Lexeme.text, List.append_assoc]
    exact digit lo _

theorem doubleStep_outside (e : Expression) : Text.trim "*/2/3".toList ≠ e.text := by
  have slashes := e.count_slash_le
  have text : Text.trim "*/2/3".toList = ['*', '/', '2', '/', '3'] := by decide
  intro h
  rw [← h, text] at slashes
  exact absurd slashes (by decide)

theorem missingTerm_outside (e : Expression) : Text.trim ",5".toList ≠ e.text := by
  have text : Text.trim ",5".toList = [',', '5'] := by decide
  intro h
  exact e.head_ne_comma (by rw [← h, text]; rfl)

/-- The text with a second step matches what its loose reading says. -/
theorem doubleStep_outside_iff :
    (∀ e : Expression, Text.trim "*/2/3".toList ≠ e.text) ∧
      (evaluate "*/2/3" ⟨0, 59⟩ = .empty ↔
        ¬ ∃ e : LooseExpression, Text.trim "*/2/3".toList = e.text ∧ e.Irregular ∧
          e.Admissible ⟨0, 59⟩ ∧ ∃ m, m ∈ e.values ⟨0, 59⟩) :=
  ⟨doubleStep_outside, evaluate_outside_iff (by decide) doubleStep_outside⟩

/-- A second step is taken, and a missing term is passed over. -/
theorem outside_matches :
    ((∀ e : Expression, Text.trim "*/2/3".toList ≠ e.text) ∧ 6 ∈ evaluate "*/2/3" ⟨0, 59⟩) ∧
      (∀ e : Expression, Text.trim ",5".toList ≠ e.text) ∧ 5 ∈ evaluate ",5" ⟨0, 59⟩ :=
  ⟨⟨doubleStep_outside, by decide +kernel⟩, missingTerm_outside, by decide +kernel⟩

end CronCalendar.Field
