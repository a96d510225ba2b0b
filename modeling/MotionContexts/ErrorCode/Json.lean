/-
# Codes in JSON

The code that answers a failed request is written as its name.  It is read back from its name, or
from an object whose ONLY field has that name and holds nothing.

Main statement: `ofJson?_toJson`, a code is read back from what it is written as.
-/
import MotionContexts.Error
import MotionContexts.Json.Value

namespace MotionContexts.ErrorCode

def toJson (c : ErrorCode) : Json := .ofString c.name

/-- The value of a JSON value as a code. -/
def ofJson? : Json → Option ErrorCode
  | .text name => name.bind ofName?
  | .object [(name, .null)] => name.bind ofName?
  | _ => none

theorem ofJson?_toJson (c : ErrorCode) : ofJson? c.toJson = some c := ofName?_name c

end MotionContexts.ErrorCode
