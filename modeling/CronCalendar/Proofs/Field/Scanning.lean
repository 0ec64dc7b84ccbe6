import CronCalendar.Proofs.Field.Grammar
import CronCalendar.Proofs.Field.Members

/-!
# Scanning an expression

The scanner looks at one token at a time, and what it keeps of a term is a cursor. Behind a whole
term the cursor `Holds` what the term stands for and what a step behind it would thin out; this is
what one more step preserves (`Holds.step`), and with it the scanner reads a loose expression to its
end and holds the values of its terms, or refuses it because of a numeral (`run_lexemes`).

The other way round, `Shape` says what must have been written for the scanner to be where it is. One
token keeps it (`Shape.next`), so whatever the scanner accepts is a loose expression
(`exists_expression`).
-/

namespace CronCalendar.Field
set_option autoImplicit false

open Lexeme (token)

/-- From one cursor, the scanner reads some tokens of a term to the other. -/
def Cursor.Reads (b : Bounds) (c : Cursor) (ts : List Token) (c' : Cursor) : Prop :=
  ∀ finished rest, Scan.run? b ⟨finished, c⟩ (ts ++ rest) = Scan.run? b ⟨finished, c'⟩ rest

/-- From a cursor, the scanner does not get past some tokens of a term. -/
def Cursor.Refuses (b : Bounds) (c : Cursor) (ts : List Token) : Prop :=
  ∀ finished rest, Scan.run? b ⟨finished, c⟩ (ts ++ rest) = none

/-- What the scanner holds behind a term. -/
structure Cursor.Holds (b : Bounds) (t : LooseTerm) (c : Cursor) : Prop where
  /-- The term may end here. -/
  ends : ∃ p : Progression, c.finish? = some [p] ∧ p.values = t.values b
  /-- A step may follow. -/
  goesOn : ∃ p : Progression, c.next? b .slash = some (.stepOf p) ∧ p.values = t.valuesToStep b

variable {b : Bounds} {c c' d : Cursor} {ts us : List Token} {t : LooseTerm}

theorem Numeral.within_iff {n : Numeral} :
    n.Within b ↔ ¬ (n.value < b.least ∨ b.greatest < n.value) := by
  unfold Numeral.Within
  omega

/-- Up to the next comma, the scanner only moves its cursor. -/
theorem Scan.next_of_ne_comma {s : Scan} {token : Token} (h : token ≠ .comma) :
    s.next? b token = (s.cursor.next? b token).map fun c => ⟨s.finished, c⟩ := by
  cases token with
  | comma => exact absurd rfl h
  | _ => rfl

namespace Cursor

theorem Reads.trans (h : c.Reads b ts c') (h' : c'.Reads b us d) : c.Reads b (ts ++ us) d := by
  intro finished rest
  rw [List.append_assoc, h finished, h' finished]

theorem Reads.refuses (h : c.Reads b ts c') (h' : c'.Refuses b us) : c.Refuses b (ts ++ us) := by
  intro finished rest
  rw [List.append_assoc, h finished, h' finished]

theorem Refuses.append (h : c.Refuses b ts) (us : List Token) : c.Refuses b (ts ++ us) := by
  intro finished rest
  rw [List.append_assoc, h finished]

theorem reads_nil (b : Bounds) (c : Cursor) : c.Reads b [] c := fun _ _ => rfl

/-- One token other than a comma moves the cursor. -/
theorem reads_of_next {token : Token} (h : token ≠ .comma) (moves : c.next? b token = some c') :
    c.Reads b [token] c' := by
  intro finished rest
  rw [List.singleton_append, Scan.run?, Scan.next_of_ne_comma h, moves, Option.map_some]
  rfl

theorem refuses_of_next {token : Token} (h : token ≠ .comma) (stops : c.next? b token = none) :
    c.Refuses b [token] := by
  intro finished rest
  rw [List.singleton_append, Scan.run?, Scan.next_of_ne_comma h, stops, Option.map_none]
  rfl

/-- A numeral outside the bounds is refused wherever it stands. -/
theorem refuses_number {n : Numeral} (h : ¬ n.Within b) : c.Refuses b [.number n.value] := by
  rw [Numeral.within_iff, Decidable.not_not] at h
  exact refuses_of_next (by simp) (by simp only [next?, if_pos h])

end Cursor

open Cursor

theorem mem_span {lo hi m : Nat} : m ∈ span lo hi ↔ lo ≤ m ∧ m ≤ hi := by
  have listed : m ∈ span lo hi ↔ lo ≤ m ∧ m < lo + (hi + 1 - lo) := List.mem_range'_1
  rw [listed]
  omega

theorem values_interval (lo hi : Nat) : (Progression.interval lo hi).values = span lo hi := by
  refine Values.ext_mem fun m => ?_
  rw [Progression.mem_values, mem_span]
  simp only [Progression.interval, Nat.one_mul]
  constructor
  · rintro ⟨i, rfl, le⟩
    omega
  · rintro ⟨ge, le⟩
    exact ⟨m - lo, by omega, by omega⟩

theorem values_single (n : Nat) : (Progression.single n).values = .singleton n := by
  rw [Progression.single, values_interval]
  refine Values.ext_mem fun m => ?_
  rw [mem_span, Values.mem_singleton]
  omega

/-- The scanner reads an atom whose numerals lie within the bounds, and no other. -/
theorem reads_atom (b : Bounds) (a : Atom) :
    ((∀ n ∈ a.literals, n.Within b) ∧
        ∃ c, Cursor.start.Reads b (a.lexemes.map token) c ∧ c.Holds b ⟨a, []⟩) ∨
      (¬ ∀ n ∈ a.literals, n.Within b) ∧ Cursor.start.Refuses b (a.lexemes.map token) := by
  have first : ∀ n : Numeral, n.Within b → Cursor.start.Reads b [.number n.value] (.literal n.value) := by
    intro n within
    exact reads_of_next (by simp) (by simp only [next?, if_neg (Numeral.within_iff.1 within)])
  cases a with
  | star =>
    refine Or.inl ⟨by simp [Atom.literals], _, reads_of_next (by simp [token]) rfl, ?_⟩
    exact ⟨⟨_, rfl, values_interval _ _⟩, ⟨_, rfl, values_interval _ _⟩⟩
  | number n =>
    by_cases within : n.Within b
    · refine Or.inl ⟨by simpa [Atom.literals] using within, _, first n within, ?_⟩
      exact ⟨⟨_, rfl, values_single _⟩, ⟨_, rfl, values_interval _ _⟩⟩
    · exact Or.inr ⟨by simpa [Atom.literals] using within, refuses_number within⟩
  | range lo hi =>
    by_cases low : lo.Within b
    · have dash : (Cursor.literal lo.value).Reads b [.dash] (.rangeFrom lo.value) :=
        reads_of_next (by simp) rfl
      have front := (first lo low).trans dash
      by_cases high : hi.Within b
      · have upper : (Cursor.rangeFrom lo.value).Reads b [.number hi.value]
            (.members (.interval lo.value hi.value)) :=
          reads_of_next (by simp) (by simp only [next?, if_neg (Numeral.within_iff.1 high)])
        refine Or.inl ⟨by simp [Atom.literals, low, high], _, front.trans upper, ?_⟩
        exact ⟨⟨_, rfl, values_interval _ _⟩, ⟨_, rfl, values_interval _ _⟩⟩
      · exact Or.inr ⟨by simp [Atom.literals, high], front.refuses (refuses_number high)⟩
    · exact Or.inr ⟨by simp [Atom.literals, low], (refuses_number low).append [.dash, .number hi.value]⟩

/-- The scanner reads a step within the bounds other than zero, and then holds what the step leaves. -/
theorem Cursor.Holds.step (holds : c.Holds b t) {s : Numeral} (within : s.Within b)
    (positive : s.value ≠ 0) :
    ∃ c', c.Reads b [.slash, .number s.value] c' ∧ c'.Holds b ⟨t.atom, t.steps ++ [s]⟩ := by
  obtain ⟨p, slash, values⟩ := holds.goesOn
  have pos := Nat.pos_of_ne_zero positive
  have thinned : (p.everyNth s.value pos).values =
      LooseTerm.valuesToStep b ⟨t.atom, t.steps ++ [s]⟩ := by
    rw [Progression.values_everyNth, values, LooseTerm.valuesToStep, LooseTerm.valuesToStep,
      List.foldl_append]
    rfl
  have number : (Cursor.stepOf p).next? b (.number s.value) =
      some (.members (p.everyNth s.value pos)) := by
    simp only [next?, if_neg (Numeral.within_iff.1 within), dif_pos pos]
  refine ⟨.members (p.everyNth s.value pos),
    (reads_of_next (by simp) slash).trans (reads_of_next (by simp) number), ?_, ?_⟩
  · exact ⟨_, rfl, by rw [LooseTerm.values, if_neg (by simp), thinned]⟩
  · exact ⟨_, rfl, thinned⟩

theorem Cursor.Holds.refuses (holds : c.Holds b t) {s : Numeral}
    (bad : ¬ (s.Within b ∧ s.value ≠ 0)) : c.Refuses b [.slash, .number s.value] := by
  obtain ⟨p, slash, -⟩ := holds.goesOn
  have front : c.Reads b [.slash] (.stepOf p) := reads_of_next (by simp) slash
  refine front.refuses ?_
  by_cases within : s.Within b
  · have zero : ¬ 0 < s.value := fun pos => bad ⟨within, Nat.ne_of_gt pos⟩
    exact refuses_of_next (by simp)
      (by simp only [next?, if_neg (Numeral.within_iff.1 within), dif_neg zero])
  · exact refuses_number within

/-- The scanner reads steps one after the other, up to one that it refuses. -/
theorem Cursor.Holds.steps (holds : c.Holds b t) (ss : List Numeral) :
    ((∀ s ∈ ss, s.Within b ∧ s.value ≠ 0) ∧
        ∃ c', c.Reads b ((ss.flatMap fun s => [.slash, .numeral s]).map token) c' ∧
          c'.Holds b ⟨t.atom, t.steps ++ ss⟩) ∨
      (¬ ∀ s ∈ ss, s.Within b ∧ s.value ≠ 0) ∧
        c.Refuses b ((ss.flatMap fun s => [.slash, .numeral s]).map token) := by
  induction ss generalizing c t with
  | nil => exact Or.inl ⟨by simp, c, reads_nil b c, by simpa using holds⟩
  | cons s ss ih =>
    by_cases good : s.Within b ∧ s.value ≠ 0
    · obtain ⟨c', reads, holds'⟩ := holds.step good.1 good.2
      rcases ih holds' with ⟨all, d, reads', holds''⟩ | ⟨some, refuses⟩
      · refine Or.inl ⟨by simpa [good] using all, d, reads.trans reads', ?_⟩
        simpa using holds''
      · exact Or.inr ⟨by simpa [good] using some, reads.refuses refuses⟩
    · exact Or.inr ⟨by simp [good], (holds.refuses good).append _⟩

/-- The scanner reads an admissible term, and no other. -/
theorem reads_term (b : Bounds) (t : LooseTerm) :
    (t.Admissible b ∧ ∃ c, Cursor.start.Reads b (t.lexemes.map token) c ∧ c.Holds b t) ∨
      ¬ t.Admissible b ∧ Cursor.start.Refuses b (t.lexemes.map token) := by
  have split : t.Admissible b ↔
      (∀ n ∈ t.atom.literals, n.Within b) ∧ ∀ s ∈ t.steps, s.Within b ∧ s.value ≠ 0 := by
    unfold LooseTerm.Admissible LooseTerm.literals
    simp only [List.mem_append]
    grind
  rw [split, LooseTerm.lexemes, List.map_append]
  rcases reads_atom b t.atom with ⟨within, c, reads, holds⟩ | ⟨bad, refuses⟩
  · rcases holds.steps t.steps with ⟨good, d, reads', holds'⟩ | ⟨bad, refuses⟩
    · exact Or.inl ⟨⟨within, good⟩, d, reads.trans reads', holds'⟩
    · exact Or.inr ⟨fun h => bad h.2, reads.refuses refuses⟩
  · exact Or.inr ⟨fun h => bad h.1, refuses.append _⟩

/-- What the scanner holds where a term may be missing. -/
def Cursor.HoldsPiece (b : Bounds) (t : Option LooseTerm) (c : Cursor) : Prop :=
  ∃ ps : List Progression, c.finish? = some ps ∧
    ps.map Progression.values = t.toList.map (LooseTerm.values b)

/-- The scanner reads what stands between two commas, if it is nothing or an admissible term. -/
theorem reads_piece (b : Bounds) (t : Option LooseTerm) :
    ((∀ u ∈ t, u.Admissible b) ∧
        ∃ c, Cursor.start.Reads b ((LooseExpression.piece t).map token) c ∧ c.HoldsPiece b t) ∨
      (¬ ∀ u ∈ t, u.Admissible b) ∧
        Cursor.start.Refuses b ((LooseExpression.piece t).map token) := by
  cases t with
  | none => exact Or.inl ⟨by simp, .start, reads_nil b _, [], rfl, rfl⟩
  | some u =>
    rcases reads_term b u with ⟨good, c, reads, holds⟩ | ⟨bad, refuses⟩
    · obtain ⟨p, ends, values⟩ := holds.ends
      refine Or.inl ⟨by simpa using good, c, reads, [p], ends, by simp [values]⟩
    · exact Or.inr ⟨by simpa using bad, refuses⟩

/-- The scanner goes on behind a piece, from comma to comma. -/
theorem run_pieces (finished : List Progression) {u : Option LooseTerm} (holds : c.HoldsPiece b u)
    (more : List (Option LooseTerm)) :
    ((∀ t ∈ more, ∀ v ∈ t, v.Admissible b) ∧ ∃ s ps,
        Scan.run? b ⟨finished, c⟩
            ((more.flatMap fun t => .comma :: LooseExpression.piece t).map token) = some s ∧
          s.terms? = some ps ∧ ∀ v, v ∈ ps.map Progression.values ↔
            v ∈ finished.map Progression.values ∨
              v ∈ ((u :: more).filterMap id).map (LooseTerm.values b)) ∨
      (¬ ∀ t ∈ more, ∀ v ∈ t, v.Admissible b) ∧
        Scan.run? b ⟨finished, c⟩
          ((more.flatMap fun t => .comma :: LooseExpression.piece t).map token) = none := by
  obtain ⟨ps, ends, values⟩ := holds
  induction more generalizing finished u c ps with
  | nil =>
    refine Or.inl ⟨by simp, ⟨finished, c⟩, ps ++ finished, rfl, ?_, fun v => ?_⟩
    · simp [Scan.terms?, ends]
    · rw [List.map_append, List.mem_append, values]
      cases u <;> simp [or_comm]
  | cons t more ih =>
    have comma : ∀ rest, Scan.run? b ⟨finished, c⟩ (.comma :: rest) =
        Scan.run? b ⟨ps ++ finished, .start⟩ rest := by
      intro rest
      simp [Scan.run?, Scan.next?, ends]
    rw [List.flatMap_cons, List.cons_append, List.map_cons, List.map_append, token, comma]
    rcases reads_piece b t with ⟨good, d, reads, ps', ends', values'⟩ | ⟨bad, refuses⟩
    · rw [reads]
      rcases ih (ps ++ finished) ps' ends' values' with
        ⟨all, s, qs, run, terms, mem⟩ | ⟨some, none⟩
      · refine Or.inl ⟨by simpa using ⟨by simpa using good, all⟩, s, qs, run, terms, fun v => ?_⟩
        rw [mem, List.map_append, List.mem_append, values]
        cases u <;> simp [or_assoc, or_left_comm]
      · exact Or.inr ⟨fun h => some fun t ht => h t (List.mem_cons_of_mem _ ht), none⟩
    · exact Or.inr ⟨fun h => bad (h t List.mem_cons_self), refuses _ _⟩

/-- The scanner reads an admissible expression to its end and then has the values of its terms, and
refuses every other one. -/
theorem run_lexemes (b : Bounds) (e : LooseExpression) :
    (e.Admissible b ∧ ∃ s ps, Scan.initial.run? b (e.lexemes.map token) = some s ∧
        s.terms? = some ps ∧ .unionAll (ps.map Progression.values) = e.values b) ∨
      ¬ e.Admissible b ∧ Scan.initial.run? b (e.lexemes.map token) = none := by
  have split : e.Admissible b ↔
      (∀ u ∈ e.first, u.Admissible b) ∧ ∀ t ∈ e.more, ∀ u ∈ t, u.Admissible b := by
    unfold LooseExpression.Admissible LooseExpression.terms LooseExpression.pieces
    simp only [List.mem_filterMap, List.mem_cons, id, Option.mem_def]
    grind
  rw [split, LooseExpression.lexemes, List.map_append, Scan.initial]
  rcases reads_piece b e.first with ⟨good, c, reads, holds⟩ | ⟨bad, refuses⟩
  · rw [reads]
    rcases run_pieces [] holds e.more with ⟨all, s, ps, run, terms, mem⟩ | ⟨some, none⟩
    · refine Or.inl ⟨⟨good, all⟩, s, ps, run, terms, Values.ext_mem fun m => ?_⟩
      simp only [LooseExpression.values, Values.mem_unionAll, mem]
      simp [LooseExpression.terms, LooseExpression.pieces]
    · exact Or.inr ⟨fun h => some h.2, none⟩
  · exact Or.inr ⟨fun h => bad h.1, refuses _ _⟩

/-- What has been written of a term when the scanner has a cursor. -/
def Cursor.Shape : Cursor → List Lexeme → Prop
  | .start, ls => ls = []
  | .literal _, ls => ∃ n, ls = [.numeral n]
  | .members _, ls => ∃ t : LooseTerm, ls = t.lexemes
  | .rangeFrom _, ls => ∃ n, ls = [.numeral n, .dash]
  | .stepOf _, ls => ∃ t : LooseTerm, ls = t.lexemes ++ [.slash]

/-- A loose expression with a piece more. -/
def LooseExpression.append (e : LooseExpression) (t : Option LooseTerm) : LooseExpression :=
  ⟨e.first, e.more ++ [t]⟩

theorem LooseExpression.lexemes_append (e : LooseExpression) (t : Option LooseTerm) :
    (e.append t).lexemes = e.lexemes ++ .comma :: piece t := by
  simp [append, lexemes]

/-- What has been written when the scanner stands somewhere: whole pieces up to the last comma, and
what its cursor says behind that. -/
def Scan.Shape (s : Scan) (ls : List Lexeme) : Prop :=
  ∃ last, s.cursor.Shape last ∧
    (ls = last ∨ ∃ e : LooseExpression, ls = e.lexemes ++ .comma :: last)

/-- One token other than a comma goes on with the term. -/
theorem Cursor.Shape.next {ls : List Lexeme} (shape : c.Shape ls) {l : Lexeme}
    (h : c.next? b l.token = some c') : c'.Shape (ls ++ [l]) := by
  cases l with
  | numeral n =>
    simp only [Lexeme.token, Cursor.next?] at h
    split at h
    · cases h
    cases c with
    | start => cases h; exact ⟨n, by rw [shape, List.nil_append]⟩
    | rangeFrom =>
      cases h
      obtain ⟨lo, rfl⟩ := shape
      exact ⟨⟨.range lo n, []⟩, rfl⟩
    | stepOf =>
      obtain ⟨t, rfl⟩ := shape
      dsimp only at h
      split at h
      · cases h
        exact ⟨⟨t.atom, t.steps ++ [n]⟩, by simp [LooseTerm.lexemes]⟩
      · cases h
    | _ => cases h
  | star =>
    cases c with
    | start => cases h; exact ⟨⟨.star, []⟩, by rw [shape]; rfl⟩
    | _ => cases h
  | comma => cases c <;> cases h
  | slash =>
    cases c with
    | literal =>
      cases h
      obtain ⟨n, rfl⟩ := shape
      exact ⟨⟨.number n, []⟩, rfl⟩
    | members =>
      cases h
      obtain ⟨t, rfl⟩ := shape
      exact ⟨t, rfl⟩
    | _ => cases h
  | dash =>
    cases c with
    | literal =>
      cases h
      obtain ⟨n, rfl⟩ := shape
      exact ⟨n, rfl⟩
    | _ => cases h

/-- Where a term may end, a piece has been written. -/
theorem Cursor.Shape.finish {ls : List Lexeme} (shape : c.Shape ls) {ps : List Progression}
    (h : c.finish? = some ps) : ∃ t, ls = LooseExpression.piece t := by
  cases c with
  | start => exact ⟨none, shape⟩
  | literal n =>
    obtain ⟨n, rfl⟩ := shape
    exact ⟨some ⟨.number n, []⟩, rfl⟩
  | members p =>
    obtain ⟨t, rfl⟩ := shape
    exact ⟨some t, rfl⟩
  | rangeFrom n => cases h
  | stepOf p => cases h

theorem Scan.Shape.finish {s : Scan} {ls : List Lexeme} (shape : s.Shape ls) {ps : List Progression}
    (h : s.cursor.finish? = some ps) : ∃ e : LooseExpression, ls = e.lexemes := by
  obtain ⟨last, cursor, written⟩ := shape
  obtain ⟨t, rfl⟩ := cursor.finish h
  rcases written with rfl | ⟨e, rfl⟩
  · exact ⟨⟨t, []⟩, by simp [LooseExpression.lexemes]⟩
  · exact ⟨e.append t, (e.lexemes_append t).symm⟩

theorem Scan.Shape.next {s s' : Scan} {ls : List Lexeme} (shape : s.Shape ls) {l : Lexeme}
    (h : s.next? b l.token = some s') : s'.Shape (ls ++ [l]) := by
  by_cases comma : l = .comma
  · subst comma
    obtain ⟨ps, ends, rfl⟩ := Option.map_eq_some_iff.1 h
    obtain ⟨e, rfl⟩ := shape.finish ends
    exact ⟨[], rfl, Or.inr ⟨e, rfl⟩⟩
  · have notComma : l.token ≠ .comma := by
      cases l with
      | comma => exact absurd rfl comma
      | _ => nofun
    rw [Scan.next_of_ne_comma notComma] at h
    obtain ⟨c', moves, rfl⟩ := Option.map_eq_some_iff.1 h
    obtain ⟨last, cursor, written⟩ := shape
    refine ⟨last ++ [l], cursor.next moves, ?_⟩
    rcases written with rfl | ⟨e, rfl⟩
    · exact Or.inl rfl
    · exact Or.inr ⟨e, by simp⟩

theorem Scan.Shape.run {s s' : Scan} {ls ms : List Lexeme} (shape : s.Shape ls)
    (h : s.run? b (ms.map token) = some s') : s'.Shape (ls ++ ms) := by
  induction ms generalizing s ls with
  | nil =>
    cases h
    rwa [List.append_nil]
  | cons m ms ih =>
    obtain ⟨next, first, h⟩ := Option.bind_eq_some_iff.1 h
    have shape' := ih (shape.next first) h
    rwa [List.append_assoc, List.singleton_append] at shape'

/-- Whatever the scanner accepts is a loose expression. -/
theorem exists_expression {ls : List Lexeme} {s : Scan} {ps : List Progression}
    (run : Scan.initial.run? b (ls.map token) = some s) (ends : s.terms? = some ps) :
    ∃ e : LooseExpression, e.lexemes = ls := by
  have initial : Scan.initial.Shape [] := ⟨[], rfl, Or.inl rfl⟩
  obtain ⟨last, ends, -⟩ := Option.map_eq_some_iff.1 ends
  obtain ⟨e, written⟩ := (initial.run run).finish ends
  exact ⟨e, written.symm⟩

end CronCalendar.Field
