import CronCalendar.Schedule.Validation
import CronCalendar.Proofs.Calendar.Timestamps
import CronCalendar.Proofs.Schedule.Sequences
import CronCalendar.Proofs.Search.Steps
import CronCalendar.Zone.Table.Europe

/-!
# Listings that are continued

A line of a listing starts with the instant of a run, and the text up to the first blank is read as a starting
point: as that instant, if it is at the start of a second of the years 0 to 9999 (`beforeBlank_describeInstant`
and `Timestamp.read_secondsText`). Runs are found at the start of a second (`nanos_of_mem_nextRuns`). So a
listing can be continued from the line with which it stopped (`startingPoint_describeInstant_iff`).
-/

namespace CronCalendar
set_option autoImplicit false

/-- What stands in front of the first blank of a line. -/
def beforeBlank (line : String) : String := String.ofList (line.toList.takeWhile (· != ' '))

namespace Timestamp

theorem ne_blank_of_mem_padded {width n : Nat} : ∀ c ∈ Decimal.padded width n, c ≠ ' ' := by
  rintro c member rfl
  exact nomatch Decimal.isDigit_of_mem_padded member

theorem ne_blank_of_mem_yearText {year : Int} : ∀ c ∈ yearText year, c ≠ ' ' := by
  unfold yearText
  split
  · exact List.forall_mem_cons.2 ⟨by decide, ne_blank_of_mem_padded⟩
  split
  · exact List.forall_mem_cons.2 ⟨by decide, ne_blank_of_mem_padded⟩
  · exact ne_blank_of_mem_padded

/-- No blank stands in the text of an instant. -/
theorem ne_blank_of_mem_secondsText {t : Instant} : ∀ c ∈ secondsText t, c ≠ ' ' := by
  have date : ∀ c ∈ dateText (utcWall t).date, c ≠ ' ' := by
    simp only [dateText, List.forall_mem_append, List.forall_mem_cons]
    exact ⟨⟨ne_blank_of_mem_yearText, by decide, ne_blank_of_mem_padded⟩, by decide, ne_blank_of_mem_padded⟩
  have minute : ∀ c ∈ minuteText (utcWall t), c ≠ ' ' := by
    simp only [minuteText, List.forall_mem_append, List.forall_mem_cons]
    exact ⟨ne_blank_of_mem_padded, by decide, ne_blank_of_mem_padded⟩
  simp only [secondsText, wallText, List.forall_mem_append, List.forall_mem_cons]
  exact ⟨⟨⟨date, by decide, minute⟩, by decide, ne_blank_of_mem_padded⟩, by decide, List.forall_mem_nil _⟩

end Timestamp

theorem exists_toList_describeInstant (z : Zone) (t : Instant) :
    ∃ rest, (describeInstant z t).toList = Timestamp.secondsText t ++ ' ' :: rest := by
  have opens : " (".toList = [' ', '('] := rfl
  simp only [describeInstant, String.toList_append, String.toList_ofList, opens, List.append_assoc,
    List.cons_append]
  exact ⟨_, rfl⟩

/-- A line of a listing starts with the text of the instant. -/
theorem beforeBlank_describeInstant (z : Zone) (t : Instant) :
    beforeBlank (describeInstant z t) = String.ofList (Timestamp.secondsText t) := by
  obtain ⟨rest, line⟩ := exists_toList_describeInstant z t
  have plain : ∀ c ∈ Timestamp.secondsText t, (c != ' ') = true :=
    fun c member => bne_iff_ne.2 (Timestamp.ne_blank_of_mem_secondsText c member)
  have stops : Text.EndsRun (· != ' ') (' ' :: rest) := Text.endsRun_cons (by decide) rest
  rw [beforeBlank, line, Text.takeWhile_run plain stops]

namespace Schedule

variable {s : Schedule} {z : Zone} {now t : Instant} {n : Nat}

/-- Runs are at the start of a second. -/
theorem nanos_of_mem_nextRuns (member : t ∈ s.nextRuns z now n) : t.nanos = 0 := by
  obtain ⟨v, rfl, found⟩ := exists_nextRun_of_mem member
  obtain ⟨proper, run⟩ := run_of_nextRun found
  exact Search.iterate_nanos proper (Search.run_eq_some.1 run)

/-- The first word of the line for an instant is read as a starting point and gives the instant back, exactly
if it is at the start of a second of the years 0 to 9999; and a listing of runs that stopped in these years
goes on behind the starting point that its last line gives. -/
theorem startingPoint_describeInstant_iff (z : Zone) (t : Instant) :
    (startingPoint (beforeBlank (describeInstant z t)) = .ok t ↔
      t.nanos = 0 ∧ 0 ≤ (Timestamp.utcWall t).date.year ∧ (Timestamp.utcWall t).date.year ≤ 9999) ∧
    ∀ (s : Schedule) (now : Instant) (n : Nat), (s.nextRuns z now n).getLast? = some t →
      0 ≤ (Timestamp.utcWall t).date.year → (Timestamp.utcWall t).date.year ≤ 9999 →
      ∃ start, startingPoint (beforeBlank (describeInstant z t)) = .ok start ∧
        ∀ m, s.nextRuns z now (n + m) = s.nextRuns z now n ++ s.nextRuns z start m := by
  have reads : startingPoint (beforeBlank (describeInstant z t)) = .ok t ↔
      Timestamp.read? (Timestamp.secondsText t) = some t := by
    rw [beforeBlank_describeInstant, startingPoint, String.toList_ofList]
    cases Timestamp.read? (Timestamp.secondsText t) <;> simp
  rw [Timestamp.read_secondsText] at reads
  refine ⟨reads, fun s now n stops first last => ⟨t, ?_, fun m => ?_⟩⟩
  · exact reads.2 ⟨nanos_of_mem_nextRuns (List.mem_of_getLast? stops), first, last⟩
  · rw [nextRuns_add, List.getLastD_eq_getLast?, stops, Option.getD_some]

/-- On the hour. -/
def onTheHour : Schedule where
  taskId := "cli"
  fields := { minute := .ofText "0" }

/-- A listing of two runs from 2024-06-15T12:32:00Z on is continued from the first word of its second line. -/
theorem onTheHour_continued :
    ∃ now last : Instant, now.seconds = 1718454720 ∧
      (onTheHour.nextRuns Zone.berlin now 2).getLast? = some last ∧
      describeInstant Zone.berlin last = "2024-06-15T14:00:00Z (2024-06-15 16:00 CEST)" ∧
      startingPoint (beforeBlank (describeInstant Zone.berlin last)) = .ok last ∧
      ∃ start, startingPoint (beforeBlank (describeInstant Zone.berlin last)) = .ok start ∧
        ∀ m, onTheHour.nextRuns Zone.berlin now (2 + m) =
          onTheHour.nextRuns Zone.berlin now 2 ++ onTheHour.nextRuns Zone.berlin start m := by
  obtain ⟨reads, goes_on⟩ := startingPoint_describeInstant_iff Zone.berlin
    ⟨1718460000, 0, by decide, by decide, by decide⟩
  have stops : (onTheHour.nextRuns Zone.berlin ⟨1718454720, 0, by decide, by decide, by decide⟩ 2).getLast? =
      some ⟨1718460000, 0, by decide, by decide, by decide⟩ := by decide +kernel
  exact ⟨_, _, rfl, stops, by decide +kernel, reads.2 (by decide +kernel),
    goes_on _ _ _ stops (by decide +kernel) (by decide +kernel)⟩

end Schedule
end CronCalendar
