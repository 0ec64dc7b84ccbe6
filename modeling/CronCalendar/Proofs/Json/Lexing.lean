import CronCalendar.Json.Reader
import CronCalendar.Proofs.Text.Digits

/-!
# The tokens of written JSON

Both ways of writing a value, on one line and over several lines, are read as the same tokens
(`tokens_compact`, `tokens_pretty`). A string literal is read one written character at a time, and a
bare word is complete only where the text goes on with something else or ends, so what is proved of a
part of the text says how the lexer goes on behind it (`Lexer.rest?`).

The values here are `Plain`: strings are texts, and there are no numbers among them.
-/

namespace CronCalendar.Json
set_option autoImplicit false

mutual

/-- Strings and keys are texts, and there are no numbers. -/
def Plain : Json → Prop
  | null => True
  | bool _ => True
  | number _ => False
  | string content => content.isSome = true
  | array items => PlainItems items
  | object members => PlainMembers members

/-- All items are plain. -/
def PlainItems : List Json → Prop
  | [] => True
  | item :: items => item.Plain ∧ PlainItems items

/-- All keys are texts and all values plain. -/
def PlainMembers : List (Option String × Json) → Prop
  | [] => True
  | (key, value) :: members => key.isSome = true ∧ value.Plain ∧ PlainMembers members

end

mutual

/-- The tokens of a value. -/
def tokens : Json → List Token
  | null => [.scalar null]
  | bool b => [.scalar (bool b)]
  | number numeral => [.scalar (number numeral)]
  | string content => [.string content]
  | array [] => [.openArray, .closeArray]
  | array (item :: items) => .openArray :: (item.tokens ++ itemTokens items)
  | object [] => [.openObject, .closeObject]
  | object ((key, value) :: members) =>
    .openObject :: .string key :: .colon :: (value.tokens ++ memberTokens members)

/-- The tokens of the items of an array behind its first, and its end. -/
def itemTokens : List Json → List Token
  | [] => [.closeArray]
  | item :: items => .comma :: (item.tokens ++ itemTokens items)

/-- The tokens of the members of an object behind its first, and its end. -/
def memberTokens : List (Option String × Json) → List Token
  | [] => [.closeObject]
  | (key, value) :: members =>
    .comma :: .string key :: .colon :: (value.tokens ++ memberTokens members)

end

namespace Lexer

/-- The tokens of a text, of which the lexer has read some already. -/
def rest? (l : Lexer) (s : List Char) : Option (List Token) := (l.run? s).bind finish?

/-- The lexer between tokens. -/
def between (ts : List Token) : Lexer := ⟨.between, ts⟩

theorem rest_cons (l : Lexer) (c : Char) (s : List Char) :
    l.rest? (c :: s) = (l.step? c).bind fun l => l.rest? s := by
  simp only [rest?, run?]
  cases l.step? c <;> rfl

theorem rest_of_step {l m : Lexer} {c : Char} (h : l.step? c = some m) (s : List Char) :
    l.rest? (c :: s) = m.rest? s := by
  rw [rest_cons, h, Option.bind_some]

variable {ts : List Token}

@[simp] theorem rest_openArray (s : List Char) :
    (between ts).rest? ('[' :: s) = (between (.openArray :: ts)).rest? s := rest_of_step rfl s

@[simp] theorem rest_closeArray (s : List Char) :
    (between ts).rest? (']' :: s) = (between (.closeArray :: ts)).rest? s := rest_of_step rfl s

@[simp] theorem rest_openObject (s : List Char) :
    (between ts).rest? ('\x7b' :: s) = (between (.openObject :: ts)).rest? s := rest_of_step rfl s

@[simp] theorem rest_closeObject (s : List Char) :
    (between ts).rest? ('\x7d' :: s) = (between (.closeObject :: ts)).rest? s := rest_of_step rfl s

@[simp] theorem rest_colon (s : List Char) :
    (between ts).rest? (':' :: s) = (between (.colon :: ts)).rest? s := rest_of_step rfl s

@[simp] theorem rest_comma (s : List Char) :
    (between ts).rest? (',' :: s) = (between (.comma :: ts)).rest? s := rest_of_step rfl s

@[simp] theorem rest_space (s : List Char) :
    (between ts).rest? (' ' :: s) = (between ts).rest? s := rest_of_step rfl s

@[simp] theorem rest_newline (level : Nat) (s : List Char) :
    (between ts).rest? (newline level ++ s) = (between ts).rest? s := by
  rw [newline, List.cons_append, rest_of_step (m := between ts) rfl]
  induction 2 * level with
  | zero => rfl
  | succ n ih => rw [List.replicate_succ, List.cons_append, rest_space, ih]

end Lexer

open Lexer

/-- The text does not go on with a character that could be part of a bare word. -/
def EndsWord (s : List Char) : Prop := Text.EndsRun isWordChar s

/-- Inside a bare word, the lexer keeps the characters of the word. -/
theorem rest_inWord (read : List Char) (ts : List Token) {cs : List Char}
    (all : ∀ d ∈ cs, isWordChar d = true) (s : List Char) :
    (⟨.word read, ts⟩ : Lexer).rest? (cs ++ s) = (⟨.word (cs.reverse ++ read), ts⟩ : Lexer).rest? s := by
  induction cs generalizing read with
  | nil => rfl
  | cons d ds ih =>
    have here := all d List.mem_cons_self
    have step : (⟨.word read, ts⟩ : Lexer).step? d = some ⟨.word (d :: read), ts⟩ := by
      simp [step?, here]
    rw [List.cons_append, rest_of_step step, ih _ fun d hd => all d (List.mem_cons_of_mem _ hd)]
    simp

/-- At the end of a bare word, its value is read. -/
theorem rest_endWord {read s : List Char} {value : Json} (means : wordValue? read.reverse = some value)
    (ends : EndsWord s) (ts : List Token) :
    (⟨.word read, ts⟩ : Lexer).rest? s = (between (.scalar value :: ts)).rest? s := by
  cases s with
  | nil => simp [rest?, run?, finish?, endWord?, means, between]
  | cons d s =>
    have other : isWordChar d = false := ends d rfl
    rw [rest_cons, rest_cons]
    simp [step?, other, endWord?, means, between]

/-- A bare word is read to its end. -/
theorem rest_word {ts : List Token} {c : Char} {cs s : List Char} {value : Json}
    (all : ∀ d ∈ c :: cs, isWordChar d = true) (means : wordValue? (c :: cs) = some value)
    (ends : EndsWord s) :
    (between ts).rest? (c :: cs ++ s) = (between (.scalar value :: ts)).rest? s := by
  have opens : (between ts).step? c = some ⟨.word [c], ts⟩ := by
    have isWord := all c List.mem_cons_self
    have not_sign : ∀ d, isWordChar d = false → c ≠ d := by
      rintro d h rfl
      rw [isWord] at h
      cases h
    simp [step?, between, stepBetween?, isWord, not_sign ' ' rfl, not_sign '\n' rfl,
      not_sign '\t' rfl, not_sign '\r' rfl, not_sign '[' rfl, not_sign ']' rfl,
      not_sign '\x7b' rfl, not_sign '\x7d' rfl, not_sign ':' rfl, not_sign ',' rfl,
      not_sign '"' rfl]
  rw [List.cons_append, rest_of_step opens,
    rest_inWord _ _ fun d hd => all d (List.mem_cons_of_mem _ hd), rest_endWord _ ends]
  simpa using means

theorem hexValue_digitChar {n : Nat} (h : n < 16) : hexValue? (Nat.digitChar n) = some n := by
  have all : ∀ n < 16, hexValue? (Nat.digitChar n) = some n := by decide
  exact all n h

section Literals

variable (pieces : List Piece) (ts : List Token)

/-- An escape of one letter. -/
theorem rest_letter {d e : Char} (named : escaped? d = some e) (not_u : d ≠ 'u') (s : List Char) :
    (⟨.literal pieces, ts⟩ : Lexer).rest? ('\\' :: d :: s) =
      (⟨.literal (.char e :: pieces), ts⟩ : Lexer).rest? s := by
  rw [rest_of_step (m := ⟨.escape pieces, ts⟩) rfl]
  exact rest_of_step (by simp [step?, not_u, named]) s

/-- A control character is written by its number. -/
theorem rest_control {c : Char} (control : c.toNat < 0x20) (s : List Char) :
    (⟨.literal pieces, ts⟩ : Lexer).rest? ('\\' :: 'u' :: (fourHex c.toNat ++ s)) =
      (⟨.literal (.char c :: pieces), ts⟩ : Lexer).rest? s := by
  have digit : ∀ k, hexValue? (Nat.digitChar (c.toNat / k % 16)) = some (c.toNat / k % 16) :=
    fun k => hexValue_digitChar (Nat.mod_lt _ (by decide))
  have value : 16 * (16 * (16 * (16 * 0 + c.toNat / 4096 % 16) + c.toNat / 256 % 16) +
      c.toNat / 16 % 16) + c.toNat / 1 % 16 = c.toNat := by omega
  have piece : unicodePiece c.toNat = .char c := by
    have low : isHighHalf c.toNat = false ∧ isLowHalf c.toNat = false := by
      simp [isHighHalf, isLowHalf]
      omega
    simp [unicodePiece, low, Char.ofNat_toNat]
  simp only [fourHex, List.cons_append, List.nil_append]
  rw [rest_of_step (m := ⟨.escape pieces, ts⟩) rfl,
    rest_of_step (m := ⟨.unicode pieces 0 0, ts⟩) rfl,
    rest_of_step (m := ⟨.unicode pieces 1 (16 * 0 + c.toNat / 4096 % 16), ts⟩)
      (by simp [step?, digit]),
    rest_of_step (m := ⟨.unicode pieces 2
      (16 * (16 * 0 + c.toNat / 4096 % 16) + c.toNat / 256 % 16), ts⟩) (by simp [step?, digit]),
    rest_of_step (m := ⟨.unicode pieces 3
      (16 * (16 * (16 * 0 + c.toNat / 4096 % 16) + c.toNat / 256 % 16) + c.toNat / 16 % 16), ts⟩)
      (by simp [step?, digit])]
  refine rest_of_step ?_ s
  have last := digit 1
  simp only [step?, last, Option.map_some, value, piece, if_true]

/-- A written character is read as the character. -/
theorem rest_escape (c : Char) (s : List Char) :
    (⟨.literal pieces, ts⟩ : Lexer).rest? (escape c ++ s) =
      (⟨.literal (.char c :: pieces), ts⟩ : Lexer).rest? s := by
  unfold escape
  split
  · rename_i h; exact h ▸ rest_letter pieces ts (d := '"') rfl (by decide) s
  split
  · rename_i h; exact h ▸ rest_letter pieces ts (d := '\\') rfl (by decide) s
  split
  · rename_i h; exact h ▸ rest_letter pieces ts (d := 'n') rfl (by decide) s
  split
  · rename_i h; exact h ▸ rest_letter pieces ts (d := 'r') rfl (by decide) s
  split
  · rename_i h; exact h ▸ rest_letter pieces ts (d := 't') rfl (by decide) s
  split
  · rename_i h; exact h ▸ rest_letter pieces ts (d := 'b') rfl (by decide) s
  split
  · rename_i h; exact h ▸ rest_letter pieces ts (d := 'f') rfl (by decide) s
  split
  · rename_i control
    exact rest_control pieces ts control s
  · rename_i quote backslash _ _ _ _ _ printed
    rw [List.singleton_append]
    exact rest_of_step (by simp [step?, quote, backslash, printed]) s

/-- Written characters are read one after the other. -/
theorem rest_escapes (cs s : List Char) :
    (⟨.literal pieces, ts⟩ : Lexer).rest? (cs.flatMap escape ++ s) =
      (⟨.literal (cs.reverse.map Piece.char ++ pieces), ts⟩ : Lexer).rest? s := by
  induction cs generalizing pieces with
  | nil => rfl
  | cons c cs ih =>
    rw [List.flatMap_cons, List.append_assoc, rest_escape, ih]
    simp

end Literals

theorem joinPieces_chars (cs : List Char) : joinPieces? (cs.map Piece.char) = some cs := by
  induction cs with
  | nil => rfl
  | cons c cs ih => simp [joinPieces?, ih]

/-- A written text is read as the text. -/
theorem rest_quote (ts : List Token) (text : String) (s : List Char) :
    (between ts).rest? (quote (some text) ++ s) = (between (.string (some text) :: ts)).rest? s := by
  have token : literalToken (text.toList.reverse.map Piece.char ++ []) = .string (some text) := by
    rw [literalToken, List.append_nil, ← List.map_reverse, List.reverse_reverse, joinPieces_chars,
      Option.map_some, String.ofList_toList]
  simp only [quote, List.cons_append, List.append_assoc, List.nil_append]
  rw [rest_of_step (m := ⟨.literal [], ts⟩) rfl, rest_escapes]
  refine rest_of_step ?_ s
  simp only [step?, if_true, token]
  rfl

theorem rest_key {key : Option String} (isText : key.isSome = true) (ts : List Token)
    (s : List Char) :
    (between ts).rest? (quote key ++ s) = (between (.string key :: ts)).rest? s := by
  obtain ⟨text, rfl⟩ := Option.isSome_iff_exists.1 isText
  exact rest_quote ts text s

theorem rest_null {s : List Char} (ends : EndsWord s) (ts : List Token) :
    (between ts).rest? (['n', 'u', 'l', 'l'] ++ s) = (between (.scalar null :: ts)).rest? s :=
  rest_word (List.all_eq_true.1 rfl) rfl ends

theorem rest_true {s : List Char} (ends : EndsWord s) (ts : List Token) :
    (between ts).rest? (['t', 'r', 'u', 'e'] ++ s) = (between (.scalar (bool true) :: ts)).rest? s :=
  rest_word (List.all_eq_true.1 rfl) rfl ends

theorem rest_false {s : List Char} (ends : EndsWord s) (ts : List Token) :
    (between ts).rest? (['f', 'a', 'l', 's', 'e'] ++ s) =
      (between (.scalar (bool false) :: ts)).rest? s :=
  rest_word (List.all_eq_true.1 rfl) rfl ends

/-- Behind an item, the text goes on with a comma or a bracket. -/
theorem endsWord_compactItems (items : List Json) (s : List Char) :
    EndsWord (compactItems items ++ s) := by
  cases items <;> exact Text.endsRun_cons rfl _

theorem endsWord_compactMembers (members : List (Option String × Json)) (s : List Char) :
    EndsWord (compactMembers members ++ s) := by
  cases members <;> exact Text.endsRun_cons rfl _

mutual

theorem rest_compact (j : Json) (plain : j.Plain) (ts : List Token) {s : List Char}
    (ends : EndsWord s) :
    (between ts).rest? (j.compact ++ s) = (between (j.tokens.reverse ++ ts)).rest? s := by
  cases j with
  | null => rw [compact, rest_null ends]; rfl
  | bool b =>
    cases b with
    | true => rw [compact, rest_true ends]; rfl
    | false => rw [compact, rest_false ends]; rfl
  | number numeral => exact plain.elim
  | string content => rw [compact, rest_key plain]; rfl
  | array items =>
    cases items with
    | nil => exact (rest_openArray _).trans (rest_closeArray s)
    | cons item items =>
      simp only [compact, List.cons_append, List.append_assoc, rest_openArray]
      rw [rest_compact item plain.1 _ (endsWord_compactItems items s),
        rest_compactItems items plain.2, tokens]
      simp
  | object members =>
    cases members with
    | nil => exact (rest_openObject _).trans (rest_closeObject s)
    | cons member members =>
      obtain ⟨key, value⟩ := member
      simp only [compact, List.cons_append, List.append_assoc, rest_openObject,
        rest_key plain.1, rest_colon]
      rw [rest_compact value plain.2.1 _ (endsWord_compactMembers members s),
        rest_compactMembers members plain.2.2, tokens]
      simp

theorem rest_compactItems (items : List Json) (plain : PlainItems items) (ts : List Token)
    (s : List Char) :
    (between ts).rest? (compactItems items ++ s) =
      (between ((itemTokens items).reverse ++ ts)).rest? s := by
  cases items with
  | nil => exact rest_closeArray s
  | cons item items =>
    simp only [compactItems, List.cons_append, List.append_assoc, rest_comma]
    rw [rest_compact item plain.1 _ (endsWord_compactItems items s),
      rest_compactItems items plain.2, itemTokens]
    simp

theorem rest_compactMembers (members : List (Option String × Json)) (plain : PlainMembers members)
    (ts : List Token) (s : List Char) :
    (between ts).rest? (compactMembers members ++ s) =
      (between ((memberTokens members).reverse ++ ts)).rest? s := by
  cases members with
  | nil => exact rest_closeObject s
  | cons member members =>
    obtain ⟨key, value⟩ := member
    simp only [compactMembers, List.cons_append, List.append_assoc, rest_comma, rest_key plain.1,
      rest_colon]
    rw [rest_compact value plain.2.1 _ (endsWord_compactMembers members s),
      rest_compactMembers members plain.2.2, memberTokens]
    simp

end

theorem endsWord_prettyItems (level : Nat) (items : List Json) (s : List Char) :
    EndsWord (prettyItems level items ++ s) := by
  cases items <;> exact Text.endsRun_cons rfl _

theorem endsWord_prettyMembers (level : Nat) (members : List (Option String × Json))
    (s : List Char) : EndsWord (prettyMembers level members ++ s) := by
  cases members <;> exact Text.endsRun_cons rfl _

mutual

theorem rest_prettyAt (level : Nat) (j : Json) (plain : j.Plain) (ts : List Token) {s : List Char}
    (ends : EndsWord s) :
    (between ts).rest? (j.prettyAt level ++ s) = (between (j.tokens.reverse ++ ts)).rest? s := by
  cases j with
  | null => rw [prettyAt, rest_null ends]; rfl
  | bool b =>
    cases b with
    | true => rw [prettyAt, rest_true ends]; rfl
    | false => rw [prettyAt, rest_false ends]; rfl
  | number numeral => exact plain.elim
  | string content => rw [prettyAt, rest_key plain]; rfl
  | array items =>
    cases items with
    | nil => exact (rest_openArray _).trans (rest_closeArray s)
    | cons item items =>
      simp only [prettyAt, List.cons_append, List.append_assoc, rest_openArray, rest_newline]
      rw [rest_prettyAt (level + 1) item plain.1 _ (endsWord_prettyItems level items s),
        rest_prettyItems level items plain.2, tokens]
      simp
  | object members =>
    cases members with
    | nil => exact (rest_openObject _).trans (rest_closeObject s)
    | cons member members =>
      obtain ⟨key, value⟩ := member
      simp only [prettyAt, List.cons_append, List.append_assoc, rest_openObject, rest_newline,
        rest_key plain.1, rest_colon, rest_space]
      rw [rest_prettyAt (level + 1) value plain.2.1 _ (endsWord_prettyMembers level members s),
        rest_prettyMembers level members plain.2.2, tokens]
      simp

theorem rest_prettyItems (level : Nat) (items : List Json) (plain : PlainItems items)
    (ts : List Token) (s : List Char) :
    (between ts).rest? (prettyItems level items ++ s) =
      (between ((itemTokens items).reverse ++ ts)).rest? s := by
  cases items with
  | nil =>
    rw [prettyItems, List.append_assoc, rest_newline]
    exact rest_closeArray s
  | cons item items =>
    simp only [prettyItems, List.cons_append, List.append_assoc, rest_comma, rest_newline]
    rw [rest_prettyAt (level + 1) item plain.1 _ (endsWord_prettyItems level items s),
      rest_prettyItems level items plain.2, itemTokens]
    simp

theorem rest_prettyMembers (level : Nat) (members : List (Option String × Json))
    (plain : PlainMembers members) (ts : List Token) (s : List Char) :
    (between ts).rest? (prettyMembers level members ++ s) =
      (between ((memberTokens members).reverse ++ ts)).rest? s := by
  cases members with
  | nil =>
    rw [prettyMembers, List.append_assoc, rest_newline]
    exact rest_closeObject s
  | cons member members =>
    obtain ⟨key, value⟩ := member
    simp only [prettyMembers, List.cons_append, List.append_assoc, rest_comma, rest_newline,
      rest_key plain.1, rest_colon, rest_space]
    rw [rest_prettyAt (level + 1) value plain.2.1 _ (endsWord_prettyMembers level members s),
      rest_prettyMembers level members plain.2.2, memberTokens]
    simp

end

/-- The tokens of the text on one line. -/
theorem tokens_compact {j : Json} (plain : j.Plain) : tokens? j.compact = some j.tokens := by
  have reads := rest_compact j plain [] Text.endsRun_nil
  rw [List.append_nil, List.append_nil] at reads
  exact reads.trans (by simp [rest?, run?, finish?, between])

/-- The tokens of the text over several lines. -/
theorem tokens_pretty {j : Json} (plain : j.Plain) : tokens? j.pretty = some j.tokens := by
  have reads := rest_prettyAt 0 j plain [] Text.endsRun_nil
  rw [List.append_nil, List.append_nil] at reads
  exact reads.trans (by simp [rest?, run?, finish?, between])

end CronCalendar.Json
