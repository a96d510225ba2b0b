/-
# Limits from options

A configuration may override limits among its options.  Every override is TAKEN OUT of the options
as it is applied, in the order of the keys.  An option value that cannot be read ends the matter at
once: it is taken out too, and what came before stays applied.
-/
import MotionContexts.Limits
import MotionContexts.Error

namespace MotionContexts.Limits

/-- One limit changed to what an option value says, blanks around it aside. -/
def assign? (l : Limits) (k : LimitKey) (raw : String) : Option Limits :=
  let s := Text.trim raw.toList
  l.setBy (Literal.word? s) (Literal.real? s) k

/-- The overrides of some keys, one after the other: whether all could be read, the limits, and
the options that are left. -/
def override : List LimitKey → Limits → Table String →
    Except ResolutionError Unit × Limits × Table String
  | [], l, options => (.ok (), l, options)
  | k :: ks, l, options =>
    match options.get? k.name with
    | none => override ks l options
    | some raw =>
      match l.assign? k raw with
      | some l => override ks l (options.erase k.name)
      | none => (.error (.invalidOptionValue k.name raw), l, options.erase k.name)

/-- Every override among the options. -/
def applyOverrides (l : Limits) (options : Table String) :
    Except ResolutionError Unit × Limits × Table String :=
  override LimitKey.all l options

end MotionContexts.Limits
