import CronCalendar.Error
import CronCalendar.Proofs.Text.Digits

/-!
# What messages tell apart

A message about a field that matches nothing begins with the name of the field, which ends at the first
colon (`name_of_message`), so it tells the field and the text that it is about
(`matchesNothing_message_inj`). A message about the words of a line tells how many there are
(`wordCount_message_inj`).
-/

namespace CronCalendar
set_option autoImplicit false

open Field (Kind)

theorem Decimal.text_injective {m n : Nat} (h : text m = text n) : m = n := by
  have same := congrArg String.toList h
  rw [text, text, String.toList_ofList, String.toList_ofList] at same
  rw [← value_digits m, same, value_digits]

theorem Field.Kind.name_injective {kind kind' : Kind} (h : kind.name = kind'.name) : kind = kind' := by
  revert h
  cases kind <;> cases kind' <;> decide

namespace Error

variable {kind kind' : Kind} {text text' : String}

theorem message_wordCount (n : Nat) : (wordCount n).message =
    "expected 5 fields (minute hour day month day_of_week), got " ++ Decimal.text n := rfl

/-- What a message about a field says behind its name. -/
def noMatchText (kind : Kind) (text : String) : String :=
  ": '" ++ (text ++ ("' matches nothing; expected *, N, N-M, lists and /steps within " ++
    (Decimal.text kind.expressionBounds.least ++ ("..=" ++
      Decimal.text kind.expressionBounds.greatest))))

theorem message_matchesNothing (kind : Kind) (text : String) :
    (matchesNothing kind text).message = kind.name ++ noMatchText kind text := by
  rw [noMatchText]
  simp only [← String.append_assoc]
  rfl

theorem name_of_message (kind : Kind) (text : String) :
    (matchesNothing kind text).message.toList.takeWhile (· != ':') = kind.name.toList := by
  have noColon : ∀ c ∈ kind.name.toList, (c != ':') = true := by cases kind <;> simp [Field.Kind.name]
  rw [message_matchesNothing, String.toList_append]
  refine Text.takeWhile_run noColon fun c first => ?_
  rw [noMatchText, String.toList_append] at first
  cases first
  rfl

theorem matchesNothing_message_inj
    (h : (matchesNothing kind text).message = (matchesNothing kind' text').message) :
    kind = kind' ∧ text = text' := by
  have names := name_of_message kind text
  rw [h, name_of_message, String.toList_inj] at names
  obtain rfl := Field.Kind.name_injective names
  rw [message_matchesNothing, message_matchesNothing, String.append_right_inj] at h
  simpa [noMatchText] using h

theorem wordCount_message_inj {m n : Nat} (h : (wordCount m).message = (wordCount n).message) : m = n := by
  rw [message_wordCount, message_wordCount, String.append_right_inj] at h
  exact Decimal.text_injective h

/-- No name of a field begins like a message about the words of a line. -/
theorem matchesNothing_message_ne (kind : Kind) (text : String) (n : Nat) :
    (matchesNothing kind text).message ≠ (wordCount n).message := by
  intro h
  rw [message_matchesNothing, message_wordCount] at h
  have first := congrArg (fun message => message.toList.head?) h
  cases kind <;> simp [Kind.name] at first

end Error

end CronCalendar
