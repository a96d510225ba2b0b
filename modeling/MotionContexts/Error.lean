/-
# What can go wrong

Three kinds of failure, each told apart by its CAUSE: planner data that could not be loaded, stored
or used (`DataError`), a context that could not be resolved (`ResolutionError`), a manager document
that could not be applied (`DocumentError`).  The wording is in one function each.  A request that
fails is answered by a code only, which is a function of the cause.
-/
import MotionContexts.Path

namespace MotionContexts

/-! ## 1. Planner data -/

/-- Why planner data could not be loaded, stored or used. -/
inductive DataError where
  /-- The storage failed, for the reason that is given. -/
  | io (reason : String)
  /-- What is stored is no planner data. -/
  | serialization (reason : String)
  /-- The data was produced by another planner type. -/
  | formatMismatch (expected found : String)
  /-- Planners of this type cannot start from stored data. -/
  | unsupported (plannerType : String)
  /-- Nothing is stored there. -/
  | notFound (path : Path)
  deriving DecidableEq, Repr

def DataError.message : DataError → String
  | .io reason => "I/O error: " ++ reason
  | .serialization reason => "serialization error: " ++ reason
  | .formatMismatch expected found =>
    "planner data was produced by '" ++ found ++ "', expected '" ++ expected ++ "'"
  | .unsupported plannerType => "planner '" ++ plannerType ++ "' cannot be seeded with stored data"
  | .notFound path => "no planner data stored at " ++ path.text

/-! ## 2. Contexts -/

/-- Why a planning context could not be resolved, and the two ways in which a planner's data can
be out of reach. -/
inductive ResolutionError where
  | unknownConfiguration (name : String)
  | unknownRepresentation (spaceType : String)
  | noSuitableRepresentation (group : String)
  | unknownAlgorithm (plannerId : String)
  | buildFailed (spaceType group reason : String)
  | invalidOptionValue (option value : String)
  | loadFailed (name : String) (path : Path) (source : DataError)
  | storeFailed (name : String) (path : Path) (source : DataError)
  deriving DecidableEq, Repr

namespace ResolutionError

def message : ResolutionError → String
  | .unknownConfiguration name => "no planner configuration named '" ++ name ++ "'"
  | .unknownRepresentation spaceType => "no representation factory of type '" ++ spaceType ++ "'"
  | .noSuitableRepresentation group =>
    "no representation factory can handle a request for group '" ++ group ++ "'"
  | .unknownAlgorithm plannerId => "unknown planner '" ++ plannerId ++ "'"
  | .buildFailed spaceType group reason =>
    "representation '" ++ spaceType ++ "' could not be built for group '" ++ group ++ "': " ++ reason
  | .invalidOptionValue option value =>
    "invalid value '" ++ value ++ "' for option '" ++ option ++ "'"
  | .loadFailed name path source =>
    "failed to load planner data for '" ++ name ++ "' from " ++ path.text ++ ": " ++ source.message
  | .storeFailed name path source =>
    "failed to store planner data for '" ++ name ++ "' to " ++ path.text ++ ": " ++ source.message

/-- The failure behind this one. -/
def source? : ResolutionError → Option DataError
  | .loadFailed _ _ source => some source
  | .storeFailed _ _ source => some source
  | _ => none

end ResolutionError

/-! ## 3. Requests -/

/-- The answer to a request that failed. -/
inductive ErrorCode where
  | invalidGroupName
  | configurationNotFound
  | representationNotFound
  | plannerAllocationFailed
  | invalidConfiguration
  deriving DecidableEq, Repr

namespace ErrorCode

/-- Every code. -/
def all : List ErrorCode :=
  [.invalidGroupName, .configurationNotFound, .representationNotFound, .plannerAllocationFailed,
    .invalidConfiguration]

/-- The name of a code, as it is written. -/
def name : ErrorCode → String
  | .invalidGroupName => "InvalidGroupName"
  | .configurationNotFound => "ConfigurationNotFound"
  | .representationNotFound => "RepresentationNotFound"
  | .plannerAllocationFailed => "PlannerAllocationFailed"
  | .invalidConfiguration => "InvalidConfiguration"

/-- The code of a name. -/
def ofName? (s : String) : Option ErrorCode := all.find? fun c => c.name == s

theorem ofName?_name (c : ErrorCode) : ofName? c.name = some c := by
  cases c <;> decide +kernel

end ErrorCode

/-- The code of a cause. -/
def ResolutionError.code : ResolutionError → ErrorCode
  | .unknownConfiguration _ => .configurationNotFound
  | .unknownRepresentation _ => .representationNotFound
  | .noSuitableRepresentation _ => .representationNotFound
  | .buildFailed _ _ _ => .representationNotFound
  | .unknownAlgorithm _ => .plannerAllocationFailed
  | .loadFailed _ _ _ => .plannerAllocationFailed
  | .storeFailed _ _ _ => .plannerAllocationFailed
  | .invalidOptionValue _ _ => .invalidConfiguration

/-! ## 4. Manager documents -/

/-- Why a manager document could not be loaded or applied. -/
inductive DocumentError where
  /-- The file could not be read. -/
  | io
  /-- The text is no manager document. -/
  | parse
  /-- Two configurations have this name. -/
  | duplicateConfiguration (name : String)
  deriving DecidableEq, Repr

/-- The wording, where it does not depend on the system. -/
def DocumentError.message? : DocumentError → Option String
  | .io => none
  | .parse => none
  | .duplicateConfiguration name => some ("duplicate planner configuration '" ++ name ++ "'")

end MotionContexts
