/-
# Where planner data is kept

A `Storage` over some contents of type `σ` loads the data kept at a path and stores data there.
Both may fail, and a store that fails still leaves contents.  Loading is without effect: what a load
answers, a failure included, is decided by the contents, and they stay as they are.

There are two kinds: a map in memory, and files with an envelope each.  `Storage.refusing` makes
either of them fail at given paths, and `Storage.onFirst`, `Storage.onSecond` let two kinds of
contents stand side by side.
-/
import MotionContexts.FileTree
import MotionContexts.PlannerData

namespace MotionContexts

universe u v

/-- A durable place for planner data, over its contents. -/
structure Storage (σ : Type u) where
  /-- Without effect on the contents: asked twice with nothing stored between, it answers the
  same. -/
  load : Path → σ → Except DataError PlannerData
  store : PlannerData → Path → σ → Except DataError Unit × σ

/-! ## 1. In memory -/

/-- Planner data by path components. -/
abbrev Blobs := KeyedList (List Path.Component) PlannerData

namespace Blobs

/-- The data kept at a path. -/
def load (p : Path) (m : Blobs) : Except DataError PlannerData :=
  match m.get? p.components with
  | some d => .ok d
  | none => .error (.notFound p)

/-- The contents with data kept at a path. -/
def store (d : PlannerData) (p : Path) (m : Blobs) : Blobs := m.insert p.components d

/-- Whether something is kept at a path. -/
def holds (p : Path) (m : Blobs) : Bool := m.contains p.components

end Blobs

namespace Storage

/-- Data kept in memory; storing never fails. -/
def memory : Storage Blobs where
  load := Blobs.load
  store d p m := (.ok (), Blobs.store d p m)

/-! ## 2. In files -/

/-- The failure of the storage behind a trouble with files; what cannot be written is laid to the
envelope. -/
def ofTrouble : Trouble → DataError
  | .missing => .io "no such file or directory"
  | .refused reason => .io reason
  | .unwritten reason => .serialization reason

/-- Data kept in files.  A path that cannot be opened because nothing is there is NOT FOUND; what
can be opened but holds no envelope is no planner data. -/
def files {working : Place} : Storage (FileTree working) where
  load p t :=
    match t.open? p with
    | .error .missing => .error (.notFound p)
    | .error e => .error (ofTrouble e)
    | .ok .directory => .error (.serialization "is a directory")
    | .ok (.file bytes) =>
      match PlannerData.ofBytes? bytes with
      | some d => .ok d
      | none => .error (.serialization "no planner data")
  store d p t :=
    match t.store p d.toBytes with
    | (.ok _, t) => (.ok (), t)
    | (.error e, t) => (.error (ofTrouble e), t)

/-! ## 3. Storages made of storages -/

variable {σ : Type u} {τ : Type v}

/-- The failure at a path where loading or storing is refused. -/
def refusal : DataError := .io "read-only volume"

/-- A storage that refuses to load from some places and to store to some. -/
def refusing (s : Storage σ) (loads stores : List Path) : Storage σ where
  load p c := if loads.any p.same then .error refusal else s.load p c
  store d p c := if stores.any p.same then (.error refusal, c) else s.store d p c

/-- A storage on the first of two contents. -/
def onFirst (s : Storage σ) : Storage (σ × τ) where
  load p c := s.load p c.1
  store d p c := ((s.store d p c.1).1, (s.store d p c.1).2, c.2)

/-- A storage on the second of two contents. -/
def onSecond (s : Storage τ) : Storage (σ × τ) where
  load p c := s.load p c.2
  store d p c := ((s.store d p c.2).1, c.1, (s.store d p c.2).2)

end Storage

end MotionContexts
