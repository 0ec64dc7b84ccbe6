import CronCalendar.Proofs.Json.Lexing

/-!
# Reading written JSON

The tokens of a value take the reader from where a value is expected to where that value is
complete, whatever arrays and objects are open around it (`run_tokens`). With the lexer's half, a
plain value is read back from its text on one line (`parse_compact`) and over several lines
(`parse_pretty`).
-/

namespace CronCalendar.Json
set_option autoImplicit false

open Reader

theorem run_cons_of_step {r r' : Reader} {token : Token} (h : r.step? token = some r')
    (rest : List Token) : r.run? (token :: rest) = r'.run? rest := by
  rw [run?, h]

/-- No value starts with the end of an array. -/
theorem tokens_starts (j : Json) : ∃ token more, j.tokens = token :: more ∧ token ≠ .closeArray := by
  cases j with
  | null | bool _ | number _ | string _ => exact ⟨_, [], rfl, nofun⟩
  | array items => cases items <;> exact ⟨_, _, rfl, nofun⟩
  | object members => cases members <;> exact ⟨_, _, rfl, nofun⟩

/-- Where an array may end, its first item is taken as it is where an item has to come. -/
theorem run_firstItem (j : Json) (frames : List Frame) (rest : List Token) :
    (Reader.firstItem frames).run? (j.tokens ++ rest) =
      (Reader.anyValue (.array [] :: frames)).run? (j.tokens ++ rest) := by
  obtain ⟨token, more, starts, not_end⟩ := tokens_starts j
  have same : (Reader.firstItem frames).step? token =
      (Reader.anyValue (.array [] :: frames)).step? token := by
    cases token <;> first | rfl | exact absurd rfl not_end
  simp only [starts, List.cons_append, run?, same]

mutual

/-- The tokens of a value complete it, inside any open arrays and objects. -/
theorem run_tokens (j : Json) (frames : List Frame) (rest : List Token) :
    (Reader.anyValue frames).run? (j.tokens ++ rest) = (complete j frames).run? rest := by
  cases j with
  | null | bool _ | number _ | string _ => exact run_cons_of_step rfl rest
  | array items =>
    cases items with
    | nil =>
      rw [tokens, List.cons_append, run_cons_of_step rfl]
      exact run_cons_of_step rfl rest
    | cons item items =>
      rw [tokens, List.cons_append, List.append_assoc, run_cons_of_step rfl, run_firstItem,
        run_tokens item, complete, run_itemTokens items]
      rfl
  | object members =>
    cases members with
    | nil =>
      rw [tokens, List.cons_append, run_cons_of_step rfl]
      exact run_cons_of_step rfl rest
    | cons member members =>
      obtain ⟨key, value⟩ := member
      simp only [tokens, List.cons_append, List.append_assoc]
      rw [run_cons_of_step rfl, run_cons_of_step rfl, run_cons_of_step rfl, run_tokens value,
        complete, run_memberTokens members]
      rfl

/-- The tokens behind the items that are read complete the array. -/
theorem run_itemTokens (items before : List Json) (frames : List Frame) (rest : List Token) :
    (Reader.moreItems before frames).run? (itemTokens items ++ rest) =
      (complete (.array (before.reverse ++ items)) frames).run? rest := by
  cases items with
  | nil => rw [List.append_nil]; exact run_cons_of_step rfl rest
  | cons item items =>
    rw [itemTokens, List.cons_append, List.append_assoc, run_cons_of_step rfl, run_tokens item,
      complete, run_itemTokens items, List.reverse_cons, List.append_assoc, List.singleton_append]

/-- The tokens behind the members that are read complete the object. -/
theorem run_memberTokens (members before : Members) (frames : List Frame) (rest : List Token) :
    (Reader.moreMembers before frames).run? (memberTokens members ++ rest) =
      (complete (.object (before.reverse ++ members)) frames).run? rest := by
  cases members with
  | nil => rw [List.append_nil]; exact run_cons_of_step rfl rest
  | cons member members =>
    obtain ⟨key, value⟩ := member
    simp only [memberTokens, List.cons_append, List.append_assoc]
    rw [run_cons_of_step rfl, run_cons_of_step rfl, run_cons_of_step rfl, run_tokens value,
      complete, run_memberTokens members, List.reverse_cons, List.append_assoc,
      List.singleton_append]

end

/-- The tokens of a value make up that value. -/
theorem ofTokens_tokens (j : Json) : ofTokens? j.tokens = some j := by
  have reads := run_tokens j [] []
  rw [List.append_nil] at reads
  rw [ofTokens?, reads]
  rfl

/-- A value is read back from its text on one line. -/
theorem parse_compact {j : Json} (plain : j.Plain) : parse? j.compact = some j := by
  rw [parse?, tokens_compact plain, Option.bind_some, ofTokens_tokens]

/-- A value is read back from its text over several lines. -/
theorem parse_pretty {j : Json} (plain : j.Plain) : parse? j.pretty = some j := by
  rw [parse?, tokens_pretty plain, Option.bind_some, ofTokens_tokens]

end CronCalendar.Json
