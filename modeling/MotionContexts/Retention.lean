/-
# Retention: the options about keeping planners

Four options of a configuration are not for the planner.  Three flags say whether the planner is
kept for later queries, whether it starts from stored data and whether its data is stored; a path
says where.  They are TAKEN OUT of the options as they are read, in this order.  A flag that cannot
be read ends the matter at once: it is taken out too, and what comes after it stays.

Main statement: `flag?_eq_some_iff`, the exact spellings of a flag.
-/
import MotionContexts.Error
import MotionContexts.Table
import MotionContexts.Text.Blank

namespace MotionContexts

/-- What the options say about keeping a planner. -/
structure Retention where
  /-- Keep the planner for later queries of its name. -/
  multiQuery : Bool := false
  /-- Start it from the data at the path. -/
  load : Bool := false
  /-- Store its data at the path before it goes. -/
  store : Bool := false
  path : Option Path := none
  deriving DecidableEq, Repr

namespace Retention

/-! ## 1. Flags -/

/-- ASCII letters in lower case. -/
def lower (s : List Char) : List Char := s.map Char.toLower

/-- A flag, blanks around it and the case of its letters aside. -/
def flag? (raw : String) : Option Bool :=
  let s := lower (Text.trim raw.toList)
  if s = ['t', 'r', 'u', 'e'] ∨ s = ['1'] then some true
  else if s = ['f', 'a', 'l', 's', 'e'] ∨ s = ['0'] then some false
  else none

theorem flag?_eq_some_iff (raw : String) (b : Bool) :
    flag? raw = some b ↔
      lower (Text.trim raw.toList) ∈
        (if b then [['t', 'r', 'u', 'e'], ['1']] else [['f', 'a', 'l', 's', 'e'], ['0']]) := by
  unfold flag?
  cases b
  · simp only [Bool.false_eq_true, if_false, List.mem_cons, List.not_mem_nil, or_false]
    split
    · rename_i h
      rcases h with h | h <;> simp [h]
    · split <;> simp_all
  · simp only [if_true, List.mem_cons, List.not_mem_nil, or_false]
    split
    · simp_all
    · split <;> simp_all

/-! ## 2. Taking the options out -/

def multiQueryKey : String := "multi_query_planning_enabled"
def loadKey : String := "load_planner_data"
def storeKey : String := "store_planner_data"
def pathKey : String := "planner_data_path"

/-- The four keys, in the order in which they are taken out. -/
def keys : List String := [multiQueryKey, loadKey, storeKey, pathKey]

/-- A flag taken out of the options; it is false where it is missing. -/
def takeFlag (key : String) (options : Table String) : Except ResolutionError Bool × Table String :=
  match options.get? key with
  | none => (.ok false, options)
  | some raw =>
    match flag? raw with
    | some b => (.ok b, options.erase key)
    | none => (.error (.invalidOptionValue key raw), options.erase key)

/-- A path taken as it stands, unless it is blank. -/
def pathOf? (raw : Option String) : Option Path :=
  match raw with
  | some s => if Text.blank s.toList then none else some ⟨s⟩
  | none => none

/-- The four options, and the options that are left. -/
def extract (options : Table String) : Except ResolutionError Retention × Table String :=
  match takeFlag multiQueryKey options with
  | (.error e, options) => (.error e, options)
  | (.ok multiQuery, options) =>
    match takeFlag loadKey options with
    | (.error e, options) => (.error e, options)
    | (.ok load, options) =>
      match takeFlag storeKey options with
      | (.error e, options) => (.error e, options)
      | (.ok store, options) =>
        (.ok { multiQuery, load, store, path := pathOf? (options.get? pathKey) },
          options.erase pathKey)

/-- Where the planner is to start from, if it is to start from somewhere. -/
def loadFrom (r : Retention) : Option Path := if r.load then r.path else none

/-- Where the planner's data is to be stored, if it is to be stored somewhere. -/
def storeTo (r : Retention) : Option Path := if r.store then r.path else none

end Retention

end MotionContexts
