import CronCalendar.Proofs.Schedule.Lines
import CronCalendar.Proofs.Search.Exhaustion

/-!
# Which lines the check approves

A schedule whose fields all match something has a run behind the epoch exactly if it names any instant
at all (`nextRun_epoch_ne_never_iff`): a named date comes back in the eight years behind 1970, long
before the sentinel. The check of a line tests its words one by one and then searches from the epoch, so
it approves the lines of five words that match something and name some instant (`checkLine_ok_iff`).
-/

namespace CronCalendar
set_option autoImplicit false

open Field (Kind Expr)
open Random (Source)
open Zone (utc)

namespace Schedule

variable {s : Schedule} {line taskId : String}

/-- A schedule whose fields all match something runs behind the epoch if it names any instant. -/
theorem nextRun_epoch_ne_never_iff (satisfiable : s.isSatisfiable = true) :
    s.nextRun utc Instant.epoch ≠ never ↔ ∃ t, s.matchesAt utc t = true := by
  have proper := timetable_proper satisfiable
  constructor
  · intro real
    obtain ⟨-, found⟩ := run_of_nextRun real
    obtain ⟨-, named⟩ := Search.run_utc proper found
    refine ⟨s.nextRun utc Instant.epoch, ?_⟩
    rw [matchesAt, Zone.wallAt_utc]
    exact named
  · rintro ⟨t, named⟩ stops
    rw [matchesAt, Zone.wallAt_utc] at named
    obtain ⟨n, date, after, before⟩ :=
      Timetable.exists_namesDate (Timetable.names_iff.1 named).1 1970
    obtain ⟨w, day, named⟩ := Timetable.exists_names proper date
    have year : w.date.year = (Date.ofDayNumber n).year := by rw [WallTime.date, day]
    have early := (@year_lt_never w).1 (by omega)
    have late : 365 ≤ w.dayNumber := (@Date.firstDay_le_iff_year 1971 _).2 (day.symm ▸ after)
    have sentinel : never.seconds = 60 * 132539040 := rfl
    have epoch : Instant.epoch.seconds = 0 := rfl
    unfold WallTime.dayNumber secondsPerDay at late
    obtain ⟨m, place⟩ := @Instant.exists_ofSeconds w.count (by unfold firstSecond; omega)
      (by unfold lastSecond; omega)
    obtain ⟨seconds, -⟩ := Instant.ofSeconds_eq_some_iff.1 place
    have named : s.matchesAt utc m = true := by
      rw [matchesAt, Zone.wallAt_utc, seconds]
      exact named
    rcases nextRun_utc_eq_never_iff.1 stops with none | cut
    · cases named.symm.trans (none m (by omega))
    · cases cut with
      | emptyField empty => cases satisfiable.symm.trans empty
      | sentinel next =>
        have whole : m.seconds / 60 < never.seconds / 60 := by omega
        cases named.symm.trans (next.first m (by omega) whole)

end Schedule

section FixedLine

variable {σ : Type} [Source σ] {line taskId : String} {text : Kind → String}

/-- A line without random fields is read as the schedule of its words, whatever the source. -/
theorem ofLine_of_fixed (words : Schedule.lineWords line = Kind.all.map text)
    (fixed : "R" ∉ Schedule.lineWords line) (taskId : String) (source : σ) :
    ∃ after, Schedule.ofLine? taskId line source = .ok (.ofTexts taskId text, after) :=
  ⟨source, ofLine_eq_of_fixed words fixed taskId source⟩

/-- The words of a line are valid if each matches something. -/
theorem validateLine_of_fixed (words : Schedule.lineWords line = Kind.all.map text)
    (fixed : "R" ∉ Schedule.lineWords line) :
    validateLine line = .ok () ↔
      ∀ kind : Kind, (kind.evaluate (.ofText (text kind))).isEmpty = false := by
  rw [validateLine_of_words words, validateFields_eq_ok_iff, List.forall_mem_map]
  constructor
  · exact fun valid kind => (valid kind kind.mem_all).resolve_left (not_isRandom_of_fixed words fixed kind)
  · exact fun valid kind _ => .inr (valid kind)

/-- The check approves a line whose words match something if its schedule ever runs. -/
theorem checkLine_of_fixed (words : Schedule.lineWords line = Kind.all.map text)
    (fixed : "R" ∉ Schedule.lineWords line) :
    (∃ answer, checkLine line = .ok answer) ↔
      (∀ kind : Kind, (kind.evaluate (.ofText (text kind))).isEmpty = false) ∧
        ∃ t, (Schedule.ofTexts "check" text).matchesAt utc t = true := by
  rw [← validateLine_of_fixed words fixed]
  obtain ⟨after, read⟩ := ofLine_of_fixed words fixed "check" (Random.ChaCha.ofSeed 0)
  rw [checkLine, read]
  cases validated : validateLine line with
  | error e => simp [bind, Except.bind]
  | ok _ =>
    have satisfiable := (Schedule.isSatisfiable_ofTexts "check" text).2
      ((validateLine_of_fixed words fixed).1 validated)
    rw [← Schedule.nextRun_epoch_ne_never_iff satisfiable]
    simp only [bind, Except.bind]
    generalize (Schedule.ofTexts "check" text).nextRun utc Instant.epoch = next
    by_cases stops : next = never
    · simp [isNever, stops, throw, throwThe, MonadExceptOf.throw]
    · simp [isNever, stops, pure, Except.pure]

end FixedLine

/-- Without a random field, the check approves a line exactly if it has five words, each of them matches
something, and the schedule that it stands for names some instant. -/
theorem checkLine_ok_iff {σ : Type} [Source σ] {line : String}
    (fixed : "R" ∉ Schedule.lineWords line) (taskId : String) (source : σ) :
    (∃ answer, checkLine line = .ok answer) ↔
      (Schedule.lineWords line).length = 5 ∧
        (∀ p ∈ Kind.all.zip (Schedule.lineWords line), (p.1.evaluate (.ofText p.2)).isEmpty = false) ∧
        ∃ s after, Schedule.ofLine? taskId line source = .ok (s, after) ∧
          ∃ t, s.matchesAt utc t = true := by
  by_cases five : (Schedule.lineWords line).length = 5
  · obtain ⟨text, words⟩ := exists_texts five
    obtain ⟨after, read⟩ := ofLine_of_fixed words fixed taskId source
    have matched : (∃ t, (Schedule.ofTexts "check" text).matchesAt utc t = true) ↔
        ∃ s after, Schedule.ofLine? taskId line source = .ok (s, after) ∧
          ∃ t, s.matchesAt utc t = true := by
      constructor
      · exact fun some => ⟨_, after, read, some⟩
      · rintro ⟨s, _, read', some⟩
        obtain rfl := congrArg Prod.fst (Except.ok.inj (read.symm.trans read'))
        exact some
    rw [checkLine_of_fixed words fixed, and_iff_right five, ← matched, words, zip_texts,
      List.forall_mem_map]
    exact and_congr_left' ⟨fun valid kind _ => valid kind, fun valid kind => valid kind kind.mem_all⟩
  · have refused : validateLine line = .error (.wordCount (Schedule.lineWords line).length) := by
      rw [validateLine]
      exact if_neg five
    refine iff_of_false ?_ fun h => five h.1
    rintro ⟨answer, approved⟩
    rw [checkLine, refused] at approved
    cases approved

/-- A line that stands for a leap day is approved. -/
theorem leapDay_approved :
    "R" ∉ Schedule.lineWords "0 12 29 2 *" ∧ (∃ answer, checkLine "0 12 29 2 *" = .ok answer) ∧
      ∃ s after, Schedule.ofLine? "leap" "0 12 29 2 *" (Random.ChaCha.ofSeed 7) = .ok (s, after) ∧
        ∃ t, s.matchesAt utc t = true := by
  have fixed : "R" ∉ Schedule.lineWords "0 12 29 2 *" := by decide +kernel
  have approved : ∃ answer, checkLine "0 12 29 2 *" = .ok answer :=
    ⟨"'0 12 29 2 *' OK", by decide +kernel⟩
  exact ⟨fixed, approved, ((checkLine_ok_iff fixed "leap" (Random.ChaCha.ofSeed 7)).1 approved).2.2⟩

end CronCalendar
