import CronCalendar.Main
import CronCalendar.Files.Tree
import CronCalendar.Proofs.Zone.Showing
import CronCalendar.Proofs.Search.Endings
import CronCalendar.Proofs.Search.LeaptDays
import CronCalendar.Proofs.Search.StrayRuns
import CronCalendar.Proofs.Search.Setbacks
import CronCalendar.Proofs.Schedule.Recurrence
import CronCalendar.Proofs.Search.Completeness
import CronCalendar.Proofs.Search.Exhaustion
import CronCalendar.Proofs.Zone.Stretches
import CronCalendar.Proofs.Search.EveryDay
import CronCalendar.Proofs.Search.NamedMinutes
import CronCalendar.Proofs.Search.AskingAgain
import CronCalendar.Proofs.Search.NewDays
import CronCalendar.Proofs.Search.LostDays
import CronCalendar.Proofs.Search.EveryHour
import CronCalendar.Proofs.Search.Termination
import CronCalendar.Proofs.Search.SameMinutes
import CronCalendar.Proofs.Schedule.SameTexts
import CronCalendar.Proofs.Schedule.CheckedLines
import CronCalendar.Proofs.Schedule.SavedCopies
import CronCalendar.Proofs.Tasks.OverrideHistories
import CronCalendar.Proofs.Tasks.Rows
import CronCalendar.Proofs.Tasks.TaskHistories
import CronCalendar.Proofs.Tasks.ValidatedDefaults
import CronCalendar.Proofs.Tasks.Listings
import CronCalendar.Proofs.Tasks.FailedUpdates
import CronCalendar.Proofs.Tasks.Findings
import CronCalendar.Proofs.Search.DayStarts
import CronCalendar.Proofs.Search.GuardedSteps
import CronCalendar.Proofs.Schedule.ContinuedListings
