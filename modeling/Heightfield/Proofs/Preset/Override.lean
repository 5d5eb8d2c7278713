import Heightfield.Proofs.Graph.Shape
import Heightfield.Proofs.Number.Clamp

/-!
# Overrides

An override sets the value of one parameter, within the range of the parameter. Which parameter a
text addresses does not depend on values, so overrides do not get in each other's way: of those that
address the same parameter the last one counts.

* `Node.assign` sets the value of a parameter, and `Graph.bake` the values of all parameters that
  are addressed.
* `Preset.applyOverrides_eq` says what becomes of a preset: the overrides before the first one that
  addresses nothing take effect.
* `Preset.applyOverrides_refused` says what is left when overrides are refused.
-/

namespace Heightfield

/-! ## Nodes -/

namespace Node

/-- The node with its parameter at a value, moved into the range; other nodes stay as they are. -/
def assign (n : Node) (x : Float32) : Node :=
  match n.parameter? with
  | some s => n.withParameterValue (s.clampValue x)
  | none => n

/-- What sets the value of a node leaves its shape alone. -/
@[simp] theorem shape_assign (n : Node) (x : Float32) : (n.assign x).shape = n.shape := by
  unfold assign
  cases n.parameter? <;> simp [shape]

@[simp] theorem parameter?_assign (n : Node) (x : Float32) :
    (n.assign x).parameter? =
      n.parameter?.map fun s => { s with value := s.clampValue x } := by
  cases h : n.parameter? <;> simp [assign, h]

/-- Only the last value that is assigned counts. -/
@[simp] theorem assign_assign (n : Node) (x y : Float32) :
    (n.assign x).assign y = n.assign y := by
  cases h : n.parameter? with
  | none => simp [assign, h]
  | some s =>
    have hclamp : ({ s with value := s.clampValue x } : ParameterSettings).clampValue y =
      s.clampValue y := rfl
    simp [assign, h, hclamp]

end Node

/-! ## Graphs -/

namespace Graph

variable {g : Graph} {o : Override} {i : Nat}

/-- The last one of the overrides that address the parameter at a place. -/
def lastOverride? (g : Graph) (os : List Override) (i : Nat) : Option Override :=
  os.reverse.find? fun o => g.parameterIndex? o.target = some i

/-- The graph with every parameter at the value of the last override that addresses it. -/
def bake (g : Graph) (os : List Override) : Graph :=
  { g with
    nodes := g.nodes.mapIdx fun i n =>
      (g.lastOverride? os i).elim n fun o => n.assign o.value }

/-- The override addresses a parameter. -/
def addresses (g : Graph) (o : Override) : Bool := (g.parameterIndex? o.target).isSome

theorem getElem?_bake (g : Graph) (os : List Override) (i : Nat) :
    (g.bake os).nodes[i]? = (g.nodes[i]?).map fun n =>
      (g.lastOverride? os i).elim n fun o => n.assign o.value :=
  List.getElem?_mapIdx

@[simp] theorem shape_bake (g : Graph) (os : List Override) : (g.bake os).shape = g.shape := by
  refine eq_of_getElem? (fun i => ?_) rfl rfl
  rw [shape, shape, List.getElem?_map, List.getElem?_map, getElem?_bake, Option.map_map]
  cases h : g.lastOverride? os i <;> simp [Function.comp_def]

@[simp] theorem parameterIndex?_bake (g : Graph) (os : List Override) (target : String) :
    (g.bake os).parameterIndex? target = g.parameterIndex? target := by
  rw [← parameterIndex?_shape, shape_bake, parameterIndex?_shape]

theorem lastOverride?_append (g : Graph) (os os' : List Override) (i : Nat) :
    g.lastOverride? (os ++ os') i = (g.lastOverride? os' i).or (g.lastOverride? os i) := by
  rw [lastOverride?, List.reverse_append, List.find?_append]
  rfl

@[simp] theorem lastOverride?_bake (g : Graph) (os os' : List Override) (i : Nat) :
    (g.bake os).lastOverride? os' i = g.lastOverride? os' i := by
  simp [lastOverride?]

@[simp] theorem bake_nil (g : Graph) : g.bake [] = g := by
  refine eq_of_getElem? (fun i => ?_) rfl rfl
  rw [getElem?_bake]
  simp [lastOverride?]

/-- Baking one list of overrides after another is baking both. -/
theorem bake_bake (g : Graph) (os os' : List Override) :
    (g.bake os).bake os' = g.bake (os ++ os') := by
  refine eq_of_getElem? (fun i => ?_) rfl rfl
  rw [getElem?_bake, getElem?_bake, getElem?_bake, lastOverride?_bake, lastOverride?_append,
    Option.map_map]
  cases g.lastOverride? os i <;> cases g.lastOverride? os' i <;> simp [Function.comp_def]

/-- Setting a parameter is baking one override. -/
theorem setParameter?_eq (h : g.parameterIndex? o.target = some i) {n : Node}
    {s : ParameterSettings} (hn : g.nodes[i]? = some n) (hs : n.parameter? = some s) :
    g.setParameter? o.target o.value = some (g.bake [o], s.clampValue o.value) := by
  have hbake : { g with nodes := g.nodes.modify i (·.withParameterValue (s.clampValue o.value)) } =
      g.bake [o] := by
    refine eq_of_getElem? (fun k => ?_) rfl rfl
    rw [getElem?_bake, List.getElem?_modify]
    by_cases hk : i = k
    · subst hk
      simp [hn, lastOverride?, h, Node.assign, hs]
    · simp [lastOverride?, h, hk]
  simp [setParameter?, h, hn, hs, hbake]

end Graph

/-! ## Presets -/

namespace Preset

variable {p : Preset} {os : List Override} {e : ParameterError}

/-- Overrides take effect up to the first one that addresses nothing. -/
theorem applyOverrides_eq (p : Preset) (os : List Override) :
    p.applyOverrides os = ({ p with graph := p.graph.bake (os.takeWhile p.graph.addresses) },
      match os.find? (!p.graph.addresses ·) with
      | some o => .error (.unknown o.target)
      | none => .ok ()) := by
  induction os generalizing p with
  | nil => simp [applyOverrides]
  | cons o rest ih =>
    cases h : p.graph.parameterIndex? o.target with
    | none => simp [applyOverrides, Graph.setParameter?, Graph.addresses, h]
    | some i =>
      obtain ⟨n, s, hn, hs⟩ := Graph.exists_parameter h
      have haddresses : (p.graph.bake [o]).addresses = p.graph.addresses := by
        funext o'
        simp [Graph.addresses]
      have ho : p.graph.addresses o = true := by simp [Graph.addresses, h]
      rw [applyOverrides, Graph.setParameter?_eq h hn hs]
      simp [ih, haddresses, ho, Graph.bake_bake]

/-- Overrides that address parameters all take effect. -/
theorem applyOverrides_of_addresses (h : ∀ o ∈ os, p.graph.addresses o = true) :
    p.applyOverrides os = ({ p with graph := p.graph.bake os }, .ok ()) := by
  have hall : os.takeWhile p.graph.addresses = os := List.takeWhile_eq_self_iff.mpr h
  have hnone : os.find? (!p.graph.addresses ·) = none := by simpa using h
  rw [applyOverrides_eq, hall, hnone]

/-- **Refused overrides leave what stands before them.** If overrides are refused, then for the
first one that addresses no parameter. Those before it have taken effect, as they do on their own;
it and those behind it change nothing. So if it is the very first one the preset is as it was. -/
theorem applyOverrides_refused (h : (p.applyOverrides os).2 = .error e) :
    ∃ before o after, os = before ++ o :: after ∧
      (∀ b ∈ before, (p.graph.parameterIndex? b.target).isSome) ∧
      p.graph.parameterIndex? o.target = none ∧ e = .unknown o.target ∧
      (p.applyOverrides os).1 = { p with graph := p.graph.bake before } ∧
      p.applyOverrides before = ((p.applyOverrides os).1, .ok ()) ∧
      (before = [] → (p.applyOverrides os).1 = p) := by
  have hend := applyOverrides_eq p os
  cases hfind : os.find? (!p.graph.addresses ·) with
  | none =>
    rw [hfind] at hend
    rw [hend] at h
    cases h
  | some o =>
    obtain ⟨ho, before, after, rfl, hbefore⟩ := List.find?_eq_some_iff_append.mp hfind
    have ho : p.graph.addresses o = false := by simpa using ho
    have hbefore : ∀ b ∈ before, p.graph.addresses b = true := by simpa using hbefore
    have htake : (before ++ o :: after).takeWhile p.graph.addresses = before := by
      rw [List.takeWhile_append_of_pos hbefore, List.takeWhile_cons_of_neg (by simp [ho]),
        List.append_nil]
    rw [hfind, htake] at hend
    rw [hend] at h ⊢
    refine ⟨before, o, after, rfl, hbefore, by simpa [Graph.addresses] using ho,
      (Except.error.inj h).symm, rfl, applyOverrides_of_addresses hbefore, ?_⟩
    rintro rfl
    rw [Graph.bake_nil]

/-- A preset whose height is a parameter. -/
def dial : Preset where
  name := "dial"
  graph := {
    nodes := [⟨"k", .parameter ⟨"amp", 0.5, 0, 2, 0, 0⟩, [], 0, 0⟩, ⟨"o", .output, [], 0, 0⟩]
    connections := [.between "k" "value" "o" "value"] }
  resolution := none
  layerHeight := none
  cellSize := none
  worldSize := none
  colorRamp := .standard

theorem applyOverrides_refused_dial :
    let os : List Override := [⟨"amp", 1⟩, ⟨"missing", 2⟩]
    (dial.applyOverrides os).2 = .error (.unknown "missing") ∧
      ∃ before o after, os = before ++ o :: after ∧
        dial.applyOverrides before = ((dial.applyOverrides os).1, .ok ()) ∧
        (dial.applyOverrides os).1 = { dial with graph := dial.graph.bake before } := by
  have herror : (dial.applyOverrides [⟨"amp", 1⟩, ⟨"missing", 2⟩]).2 =
      .error (.unknown "missing") := by decide
  obtain ⟨before, o, after, hos, -, -, -, hgraph, happly, -⟩ := applyOverrides_refused herror
  exact ⟨herror, before, o, after, hos, happly, hgraph⟩

/-- Refused overrides need not leave a preset as it was. -/
theorem not_applyOverrides_atomic :
    ¬ ∀ (p : Preset) (os : List Override) (e : ParameterError),
      (p.applyOverrides os).2 = .error e → (p.applyOverrides os).1 = p := by
  intro h
  have hdial := h dial [⟨"amp", 1⟩, ⟨"missing", 2⟩] (.unknown "missing") (by decide)
  exact absurd hdial (by decide)

end Preset
end Heightfield
