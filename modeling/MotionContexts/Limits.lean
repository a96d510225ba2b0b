/-
# Resource limits

What a context hands to the solver as bounds: five whole numbers and a length.  A limit is named
by its `LimitKey`, and the keys have a fixed order, in which overrides are applied and in which a
document may list the values.
-/
import MotionContexts.Datum
import MotionContexts.Number.Literal
import MotionContexts.Text.Blank

namespace MotionContexts

/-- The limits of a context. -/
structure Limits where
  /-- States sampled in the goal region. -/
  maxGoalSamples : UInt32 := 10
  /-- Attempts at sampling one valid state. -/
  maxStateSamplingAttempts : UInt32 := 4
  /-- Attempts at sampling a goal. -/
  maxGoalSamplingAttempts : UInt32 := 1000
  /-- Passed through to the solver, not enforced here. -/
  maxPlanningThreads : UInt32 := 4
  /-- Zero lets the solver pick its own. -/
  maxSolutionSegmentLength : Binary64 := .zero
  minimumWaypointCount : UInt32 := 2
  deriving DecidableEq, Repr

/-- Which limit. -/
inductive LimitKey where
  | maxGoalSamples
  | maxStateSamplingAttempts
  | maxGoalSamplingAttempts
  | maxPlanningThreads
  | maxSolutionSegmentLength
  | minimumWaypointCount
  deriving DecidableEq, Repr

namespace LimitKey

/-- Every key, in order. -/
def all : List LimitKey :=
  [.maxGoalSamples, .maxStateSamplingAttempts, .maxGoalSamplingAttempts, .maxPlanningThreads,
    .maxSolutionSegmentLength, .minimumWaypointCount]

/-- The name of a key, as option and as field. -/
def name : LimitKey → String
  | .maxGoalSamples => "max_goal_samples"
  | .maxStateSamplingAttempts => "max_state_sampling_attempts"
  | .maxGoalSamplingAttempts => "max_goal_sampling_attempts"
  | .maxPlanningThreads => "max_planning_threads"
  | .maxSolutionSegmentLength => "max_solution_segment_length"
  | .minimumWaypointCount => "minimum_waypoint_count"

/-- The key of a name. -/
def ofName? (s : String) : Option LimitKey := all.find? fun k => k.name == s

end LimitKey

/-- The value of a limit: a whole number, or a length. -/
inductive LimitValue where
  | word (n : UInt32)
  | length (x : Binary64)
  deriving DecidableEq, Repr

namespace Limits

/-- The value of one limit. -/
def get (l : Limits) : LimitKey → LimitValue
  | .maxGoalSamples => .word l.maxGoalSamples
  | .maxStateSamplingAttempts => .word l.maxStateSamplingAttempts
  | .maxGoalSamplingAttempts => .word l.maxGoalSamplingAttempts
  | .maxPlanningThreads => .word l.maxPlanningThreads
  | .maxSolutionSegmentLength => .length l.maxSolutionSegmentLength
  | .minimumWaypointCount => .word l.minimumWaypointCount

/-- One limit changed, by a way to read a whole number and a way to read a length.  None where
the value cannot be read. -/
def setBy (l : Limits) (word : Option UInt32) (length : Option Binary64) : LimitKey → Option Limits
  | .maxGoalSamples => word.map fun n => { l with maxGoalSamples := n }
  | .maxStateSamplingAttempts => word.map fun n => { l with maxStateSamplingAttempts := n }
  | .maxGoalSamplingAttempts => word.map fun n => { l with maxGoalSamplingAttempts := n }
  | .maxPlanningThreads => word.map fun n => { l with maxPlanningThreads := n }
  | .maxSolutionSegmentLength => length.map fun x => { l with maxSolutionSegmentLength := x }
  | .minimumWaypointCount => word.map fun n => { l with minimumWaypointCount := n }

/-- One limit changed to a value of its sort. -/
def set? (l : Limits) (k : LimitKey) : LimitValue → Option Limits
  | .word n => l.setBy (some n) none k
  | .length x => l.setBy none (some x) k

/-! ## Reading limits from a document -/

/-- Fields that are there, in the order of the keys. -/
def readFields? {δ : Type} [Datum δ] (f : Datum.Fields δ) : List LimitKey → Limits → Option Limits
  | [], l => some l
  | k :: ks, l =>
    match Entries.find k.name f with
    | none => readFields? f ks l
    | some v => (l.setBy (Datum.word? v) (Datum.real? v) k).bind (readFields? f ks)

/-- A record of limits; a missing one has its default. -/
def read? {δ : Type} [Datum δ] (v : δ) : Option Limits :=
  (Datum.fields? (LimitKey.all.map LimitKey.name) v).bind fun f => readFields? f LimitKey.all {}

end Limits

end MotionContexts
