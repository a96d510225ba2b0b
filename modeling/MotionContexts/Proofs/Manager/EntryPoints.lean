/-
# The two ways in agree

A context may be asked for by the name of a configuration or by a request that means the name.  The
first way makes up a request of its own, on the group of the configuration and without constraints;
the second passes the request on as it is, with a planner identifier and a representation type in
it.  So a request WITHOUT constraints should get what its name gets.

It does, wherever the configuration is for the group of the request.  Both ways come to one look-up
(`Manager.lookUp`), and that look-up reads the request only to choose a representation.  The
choice can tell the two requests apart only if some representation looks at more of a request than
its group and its constraints; those that do not are `Impartial`, and the built-in ones are.

An empty representation type is no type at all, whichever way it comes in.

Main statement: `request_answered_as_by_name`, for every run of a new manager that registers
impartial representations.
-/
import MotionContexts.Proofs.Manager.Layers

namespace MotionContexts

universe u

/-! ## 1. What representations look at -/

/-- The requests are for one group under the same constraints, whichever planner and representation
they name. -/
structure Request.Alike (r r' : Request) : Prop where
  group : r.group = r'.group
  goals : r.goals = r'.goals
  path : r.path = r'.path

/-- The representation does not look at which planner and which representation a request names. -/
def Representation.Impartial (f : Representation) : Prop :=
  ∀ group (r r' : Request), r.Alike r' → f.canRepresent group r = f.canRepresent group r'

theorem Representation.jointModel_impartial : jointModel.Impartial := fun _ _ _ _ => rfl

theorem Representation.poseModel_impartial (ikGroups : List String) :
    (poseModel ikGroups).Impartial := by
  intro group r r' h
  unfold poseModel
  dsimp only
  rw [h.goals]

/-! ## 2. What is chosen -/

namespace RepresentationCatalog

variable {c : RepresentationCatalog} {group : String}

/-- Impartial representations are chosen alike for alike requests. -/
theorem select_congr (hc : ∀ f ∈ c.entries, f.Impartial) {r r' : Request} (h : r.Alike r') :
    c.select group r = c.select group r' :=
  select_eq_of_canRepresent fun f hf => hc f hf group r r' h

/-- So they are where a type is given, which settles the choice unless it is empty. -/
theorem resolve_congr (hc : ∀ f ∈ c.entries, f.Impartial) (hint : Option String) {r r' : Request}
    (h : r.Alike r') : c.resolve group hint r = c.resolve group hint r' := by
  cases hint with
  | none => exact select_congr hc h
  | some t =>
    rw [resolve, resolve]
    simp only [select_congr hc h]

/-- An empty type is no type at all. -/
theorem resolve_empty (r : Request) : c.resolve group (some "") r = c.resolve group none r := rfl

end RepresentationCatalog

/-! ## 3. One look-up behind both ways -/

namespace Manager

variable {σ : Type u} {m : Manager σ}

/-- **A look-up reads hint and request only for the choice of the representation.** -/
theorem lookUp_congr {name : String} {hint hint' : Option String}
    {request request' : Configuration → Request}
    (h : ∀ c, m.configurations.get? name = some c →
      m.representations.resolve c.group hint (request c) =
        m.representations.resolve c.group hint' (request' c)) (w : Workspace σ) :
    m.lookUp name hint request w = m.lookUp name hint' request' w := by
  unfold lookUp
  cases hc : m.configurations.find name with
  | error e => rfl
  | ok c =>
    dsimp only
    rw [contextFrom, h c (Configurations.get?_of_find hc), contextFrom]

/-- In a scene that knows its group, a request is answered as it is resolved, a cause of failure by
its code. -/
theorem contextForRequest_of_scene {scene : Scene} {request : Request}
    (h : scene request.group = true) (w : Workspace σ) :
    m.contextForRequest scene request w =
      ((m.resolve request w).1.mapError ResolutionError.code, (m.resolve request w).2) := by
  unfold contextForRequest
  rw [h]
  rcases m.resolve request w with ⟨_ | _, m', w'⟩ <;> rfl

/-- **The two ways in**: a request without constraints is resolved as the name that it means, if the
configuration of the name is for its group. -/
theorem resolve_eq_context (hm : ∀ f ∈ m.representations.entries, f.Impartial) {request : Request}
    (hgoals : request.goals = []) (hpath : request.path.isEmpty = true)
    (hgroup : ∀ c, m.configurations.get? request.configurationName = some c →
      c.group = request.group) (w : Workspace σ) :
    m.resolve request w = m.context request.configurationName request.representation w := by
  rw [resolve_eq_lookUp, context_eq_lookUp]
  refine lookUp_congr (fun c hc => ?_) w
  have hpath' : request.path = {} := congrArg Constraints.mk (List.isEmpty_iff.mp hpath)
  exact RepresentationCatalog.resolve_congr hm _ ⟨(hgroup c hc).symm, hgoals, hpath'⟩

/-- By name, an empty type is no type at all. -/
theorem context_empty (name : String) (w : Workspace σ) :
    m.context name (some "") w = m.context name none w :=
  lookUp_congr (fun _ _ => RepresentationCatalog.resolve_empty _) w

/-- Nor is it one in a request, whatever its constraints are. -/
theorem resolve_without_type (hm : ∀ f ∈ m.representations.entries, f.Impartial) {request : Request}
    (h : request.representation = some "") (w : Workspace σ) :
    m.resolve request w = m.resolve { request with representation := none } w := by
  rw [resolve_eq_lookUp, resolve_eq_lookUp, h]
  refine lookUp_congr (fun c _ => ?_) w
  rw [RepresentationCatalog.resolve_empty]
  exact RepresentationCatalog.resolve_congr hm none ⟨rfl, rfl, rfl⟩

/-! ## 4. The theorem -/

/-- **The two entry points agree.**  In every run of a new manager that registers impartial
representations: a request without constraints, for a group of the scene, gets exactly what the
name that it means gets under its representation type, if the configuration of that name is for its
group or there is none.  It is the same context, with the same manager and workspace behind it, or a
failure of which the request is told the code, and then nothing has changed.  An empty
representation type counts as none in both. -/
theorem request_answered_as_by_name (storage : Storage σ) (w : Workspace σ) (ops : List Operation)
    (hops : ∀ f, .registerRepresentation f ∈ ops → f.Impartial) :
    let s := (Session.new storage w).run ops
    (∀ scene request, scene request.group = true → request.goals = [] →
      request.path.isEmpty = true →
      (∀ c, s.manager.configurations.get? request.configurationName = some c →
        c.group = request.group) →
      let named := s.manager.context request.configurationName request.representation s.workspace
      s.manager.contextForRequest scene request s.workspace =
        (named.1.mapError ResolutionError.code, named.2) ∧
      ∀ e, named.1 = .error e → named.2 = (s.manager, s.workspace)) ∧
    (∀ name, s.manager.context name (some "") s.workspace =
      s.manager.context name none s.workspace) ∧
    (∀ scene request, request.representation = some "" →
      s.manager.contextForRequest scene request s.workspace =
        s.manager.contextForRequest scene { request with representation := none } s.workspace) := by
  intro s
  have hm : ∀ f ∈ s.manager.representations.entries, f.Impartial := by
    refine Session.representations_run hops (s := Session.new storage w) fun f hf => ?_
    rw [List.mem_singleton.mp hf]
    exact Representation.jointModel_impartial
  refine ⟨?agree, fun name => context_empty name s.workspace, ?untyped⟩
  case agree =>
    intro scene request hscene hgoals hpath hgroup named
    refine ⟨?_, fun e he => ?_⟩
    · rw [contextForRequest_of_scene hscene, resolve_eq_context hm hgoals hpath hgroup]
    · rcases hnamed : named with ⟨result, m', w'⟩
      rw [hnamed] at he
      dsimp only at he
      subst he
      obtain ⟨rfl, rfl⟩ := (looksUp_context hnamed).eq_of_none
      rfl
  case untyped =>
    intro scene request h
    unfold contextForRequest
    dsimp only
    rw [resolve_without_type hm h]

open Session in
/-- The context in joint space is there, and its planner is kept; the request is for pose space. -/
theorem request_answered_as_by_name_posedRun :
    let s := (Session.new .memory { contents := ∅ }).run posedRun
    let request : Request := { group := "arm", representation := some "PoseModel" }
    s.manager.contextForRequest (fun _ => true) request s.workspace =
        ((s.manager.context "arm" (some "PoseModel") s.workspace).1.mapError ResolutionError.code,
          (s.manager.context "arm" (some "PoseModel") s.workspace).2) ∧
      ∃ c, (s.manager.context "arm" (some "PoseModel") s.workspace).1 = .ok c ∧ c.number = 1 := by
  intro s request
  have hops : ∀ f, .registerRepresentation f ∈ posedRun → f.Impartial := by
    intro f hf
    obtain rfl : f = .poseModel ["arm"] := by simpa [posedRun] using hf
    exact Representation.poseModel_impartial _
  obtain ⟨hagree, -, -⟩ := request_answered_as_by_name .memory { contents := ∅ } posedRun hops
  have hgroup : ∀ c, s.manager.configurations.get? request.configurationName = some c →
      c.group = request.group := by
    intro c hc
    cases hc
    rfl
  exact ⟨(hagree (fun _ => true) request rfl rfl rfl hgroup).1, _, rfl, rfl⟩

end Manager

end MotionContexts
