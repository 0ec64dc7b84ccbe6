import CronCalendar.Proofs.Field.Grammar
import CronCalendar.Proofs.Text.Digits

/-!
# Lexemes and tokens

The tokens of a text are read from the lexemes it is written with. Two numerals in a row would run
together; where none do, `tokens_spell` says which tokens are read, and that a numeral that does not
fit into 32 bits spoils the text. `exists_lexemes` goes the other way: a text that has tokens is
written with lexemes.
-/

namespace CronCalendar.Field
set_option autoImplicit false

namespace Numeral

theorem head_isDigit {n : Numeral} {c : Char} (h : c ∈ n.digits.head?) : c.isDigit = true :=
  n.all_isDigit c (List.mem_of_head? h)

end Numeral

namespace Lexeme

def isNumeral : Lexeme → Bool
  | numeral _ => true
  | _ => false

/-- The numerals among some lexemes. -/
def numerals (ls : List Lexeme) : List Numeral :=
  ls.filterMap fun
    | numeral n => some n
    | _ => none

/-- No two numerals stand side by side. -/
def Parted (ls : List Lexeme) : Prop := ls.IsChain fun l m => (l.isNumeral && m.isNumeral) = false

@[simp] theorem spell_nil : spell [] = [] := rfl

@[simp] theorem spell_cons (l : Lexeme) (ls : List Lexeme) : spell (l :: ls) = l.text ++ spell ls := rfl

@[simp] theorem spell_append (ls ms : List Lexeme) : spell (ls ++ ms) = spell ls ++ spell ms :=
  List.flatMap_append

@[simp] theorem numerals_append (ls ms : List Lexeme) :
    numerals (ls ++ ms) = numerals ls ++ numerals ms := List.filterMap_append

/-- A sign is one character and no digit. -/
theorem text_of_sign {l : Lexeme} (h : l.isNumeral = false) :
    ∃ c, l.text = [c] ∧ c.isDigit = false ∧ sign? c = some l.token := by
  cases l with
  | numeral n => cases h
  | star => exact ⟨'*', rfl, rfl, rfl⟩
  | comma => exact ⟨',', rfl, rfl, rfl⟩
  | slash => exact ⟨'/', rfl, rfl, rfl⟩
  | dash => exact ⟨'-', rfl, rfl, rfl⟩

/-- The character of a sign is that of a lexeme. -/
theorem exists_sign {c : Char} {t : Token} (h : sign? c = some t) :
    ∃ l : Lexeme, l.text = [c] ∧ l.token = t := by
  unfold sign? at h
  split at h
  · cases h; exact ⟨.star, rfl, rfl⟩
  · cases h; exact ⟨.comma, rfl, rfl⟩
  · cases h; exact ⟨.slash, rfl, rfl⟩
  · cases h; exact ⟨.dash, rfl, rfl⟩
  · cases h

/-- Blanks are no part of any lexeme. -/
theorem not_blank_of_mem_spell {ls : List Lexeme} {c : Char} (h : c ∈ spell ls) :
    Text.isBlank c = false := by
  obtain ⟨l, -, hc⟩ := List.mem_flatMap.1 h
  cases l with
  | numeral n => exact Text.isBlank_of_isDigit (n.all_isDigit c hc)
  | star => exact List.mem_singleton.1 hc ▸ by decide
  | comma => exact List.mem_singleton.1 hc ▸ by decide
  | slash => exact List.mem_singleton.1 hc ▸ by decide
  | dash => exact List.mem_singleton.1 hc ▸ by decide

end Lexeme

open Lexeme

theorem tokensOf_sign {l : Lexeme} (h : l.isNumeral = false) (rest : List Char) :
    tokensOf? (l.text ++ rest) = (tokensOf? rest).map (l.token :: ·) := by
  obtain ⟨c, text, notDigit, sign⟩ := text_of_sign h
  rw [text, List.singleton_append, tokensOf?, if_neg (by simp [notDigit]), sign]

theorem tokensOf_numeral {n : Numeral} {rest : List Char} (ends : Text.EndsRun Char.isDigit rest) :
    tokensOf? (n.digits ++ rest) =
      if n.value < numberLimit then (tokensOf? rest).map (.number n.value :: ·) else none := by
  obtain ⟨digits, nonempty, all⟩ := n
  cases digits with
  | nil => exact absurd rfl nonempty
  | cons c ds =>
    have first : c.isDigit = true := all c List.mem_cons_self
    have others : ∀ d ∈ ds, d.isDigit = true := fun d hd => all d (List.mem_cons_of_mem _ hd)
    rw [List.cons_append, tokensOf?, if_pos first]
    simp only [Text.takeWhile_run others ends, Text.dropWhile_run others ends]
    rfl

/-- The tokens of a text written with lexemes of which no two are numerals in a row. -/
theorem tokens_spell {ls : List Lexeme} (parted : Parted ls) :
    tokensOf? (spell ls) =
      if ∀ n ∈ numerals ls, n.value < numberLimit then some (ls.map token) else none := by
  induction ls with
  | nil => simp [tokensOf?, numerals]
  | cons l ls ih =>
    have rest := ih parted.tail
    by_cases h : l.isNumeral = true
    · cases l with
      | numeral n =>
        have ends : Text.EndsRun Char.isDigit (spell ls) := by
          intro c hc
          cases ls with
          | nil => cases hc
          | cons m ls =>
            have apart := (List.isChain_cons_cons.1 parted).1
            obtain ⟨d, text, notDigit, -⟩ := text_of_sign (l := m) (by simpa [isNumeral] using apart)
            rw [spell_cons, text, List.singleton_append, List.head?_cons, Option.mem_some] at hc
            exact hc ▸ notDigit
        have numbers : numerals (.numeral n :: ls) = n :: numerals ls := rfl
        rw [spell_cons, Lexeme.text, tokensOf_numeral ends, rest, numbers]
        simp only [List.forall_mem_cons]
        split <;> split <;> simp_all [token]
      | star => cases h
      | comma => cases h
      | slash => cases h
      | dash => cases h
    · have sign := Bool.eq_false_iff.2 h
      have numbers : numerals (l :: ls) = numerals ls := by
        cases l with
        | numeral n => cases sign
        | star => rfl
        | comma => rfl
        | slash => rfl
        | dash => rfl
      rw [spell_cons, tokensOf_sign sign, rest, numbers]
      split <;> rfl

/-- A text that has tokens is written with lexemes. -/
theorem exists_lexemes {cs : List Char} {ts : List Token} (h : tokensOf? cs = some ts) :
    ∃ ls, spell ls = cs ∧ ls.map token = ts := by
  fun_induction tokensOf? cs generalizing ts with
  | case1 => exact ⟨[], rfl, Option.some.inj h⟩
  | case2 c rest isDigit digits n small =>
    rename_i ih
    obtain ⟨tokens, found, rfl⟩ := Option.map_eq_some_iff.1 h
    obtain ⟨ls, text, read⟩ := ih found
    have all : ∀ d ∈ digits, d.isDigit = true := by
      intro d hd
      rcases List.mem_cons.1 hd with rfl | hd
      · exact isDigit
      · exact List.all_eq_true.1 List.all_takeWhile d hd
    refine ⟨.numeral ⟨digits, List.cons_ne_nil _ _, all⟩ :: ls, ?_, ?_⟩
    · rw [spell_cons, text, Lexeme.text, List.cons_append, List.takeWhile_append_dropWhile]
    · rw [List.map_cons, read]
      rfl
  | case3 => cases h
  | case4 => cases h
  | case5 c rest notDigit token sign ih =>
    obtain ⟨tokens, found, rfl⟩ := Option.map_eq_some_iff.1 h
    obtain ⟨ls, text, read⟩ := ih found
    obtain ⟨l, written, means⟩ := exists_sign sign
    exact ⟨l :: ls, by rw [spell_cons, written, text]; rfl, by rw [List.map_cons, read, means]⟩

end CronCalendar.Field
