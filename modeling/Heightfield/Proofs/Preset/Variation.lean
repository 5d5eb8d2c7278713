import Heightfield.Proofs.Graph.Restrict
import Heightfield.Proofs.Preset.Override
import Heightfield.Proofs.Program.Literal

/-!
# Variations

The variations of a preset are what overrides of one parameter make of it, at evenly spaced points
of the range of the parameter. Overrides and variations touch no more than the literals of the
parameters that are addressed.

* `Preset.variations_eq` lists the variations.
* `Preset.applyOverrides_bakes` says what overrides and variations change in graphs and programs.
-/

namespace Heightfield

/-- A value is moved into the range first. -/
theorem Node.assign_clampValue {n : Node} {s : ParameterSettings} (h : n.parameter? = some s)
    (x : Float32) : n.assign (s.clampValue x) = n.assign x := by
  simp [assign, h]

namespace Graph

variable {g : Graph} {os : List Override} {target : String} {i : Nat} {n : Node}
  {s : ParameterSettings}

theorem getElem?_bake_singleton (g : Graph) (o : Override) (k : Nat) :
    (g.bake [o]).nodes[k]? = (g.nodes[k]?).map fun n =>
      if g.parameterIndex? o.target = some k then n.assign o.value else n := by
  rw [getElem?_bake]
  by_cases h : g.parameterIndex? o.target = some k <;> simp [lastOverride?, h]

/-- A value may be moved into the range before it is baked. -/
theorem bake_clampValue (h : g.parameterIndex? target = some i) (hn : g.nodes[i]? = some n)
    (hs : n.parameter? = some s) (x : Float32) :
    g.bake [⟨target, s.clampValue x⟩] = g.bake [⟨target, x⟩] := by
  refine eq_of_getElem? (fun k => ?_) rfl rfl
  rw [getElem?_bake_singleton, getElem?_bake_singleton]
  by_cases hk : i = k
  · subst hk
    simp [hn, h, Node.assign_clampValue hs]
  · simp [h, hk]

/-- The node of an id is where it was. -/
theorem nodeIdx?_bake (g : Graph) (os : List Override) (id : String) :
    (g.bake os).nodeIdx? id = g.nodeIdx? id := by
  have hshape (g : Graph) : g.shape.nodeIdx? id = g.nodeIdx? id := by
    rw [nodeIdx?, shape, List.findIdx?_map, nodeIdx?]
    refine congrArg g.nodes.findIdx? (funext fun n => ?_)
    simp
  rw [← hshape, shape_bake, hshape]

/-- An id stands for the same node if no override addresses that. -/
theorem node?_bake_of_forall {id : String}
    (h : ∀ o ∈ os, g.parameterIndex? o.target ≠ g.nodeIdx? id) :
    (g.bake os).node? id = g.node? id := by
  have hnode (g : Graph) : g.node? id = (g.nodeIdx? id).bind (g.nodes[·]?) :=
    List.find?_eq_bind_findIdx?_getElem?
  rw [hnode, hnode, nodeIdx?_bake]
  cases hk : g.nodeIdx? id with
  | none => rfl
  | some k =>
    have hlast : g.lastOverride? os k = none := by
      rw [lastOverride?, List.find?_eq_none]
      intro o ho
      simpa [hk] using h o (List.mem_reverse.mp ho)
    rw [Option.bind_some, Option.bind_some, getElem?_bake, hlast]
    simp

end Graph

namespace Preset

variable {p : Preset} {os : List Override} {parameter : String} {i : Nat} {n : Node}
  {s : ParameterSettings}

/-- The variations are what overrides with the points of the range make of the graph. -/
theorem variations_eq (h : p.graph.parameterIndex? parameter = some i)
    (hn : p.graph.nodes[i]? = some n) (hs : n.parameter? = some s) {count : Nat}
    (hcount : 0 < count) :
    p.variations parameter count = .ok ((List.range count).map fun index =>
      let x := s.min + (s.max - s.min) * fraction count index
      ⟨s.clampValue x, p.graph.bake [⟨parameter, x⟩]⟩) := by
  have hset (x : Float32) : p.graph.setParameter? parameter x =
      some (p.graph.bake [⟨parameter, x⟩], s.clampValue x) :=
    Graph.setParameter?_eq (o := ⟨parameter, x⟩) h hn hs
  have hne : count ≠ 0 := Nat.ne_of_gt hcount
  simp [variations, h, hn, hs, hset, hne]
  rfl

/-- A parameter that is there is there in every copy of the graph. -/
theorem variations_ne_disappeared (p : Preset) (parameter : String) (count : Nat) (name : String) :
    p.variations parameter count ≠ .error (.disappeared name) := by
  rcases Nat.eq_zero_or_pos count with rfl | hcount
  · nofun
  cases hi : p.graph.parameterIndex? parameter with
  | none => simp [variations, hi, Nat.ne_of_gt hcount]; nofun
  | some i =>
    obtain ⟨n, s, hn, hs⟩ := Graph.exists_parameter hi
    rw [variations_eq hi hn hs hcount]
    nofun

/-- An override takes effect as it does with its value moved into the range. -/
theorem applyOverrides_clampValue (h : p.graph.parameterIndex? parameter = some i)
    (hn : p.graph.nodes[i]? = some n) (hs : n.parameter? = some s) (x : Float32) :
    p.applyOverrides [⟨parameter, s.clampValue x⟩] =
      ({ p with graph := p.graph.bake [⟨parameter, x⟩] }, .ok ()) := by
  have haddresses : ∀ o ∈ [Override.mk parameter (s.clampValue x)], p.graph.addresses o = true := by
    simp [Graph.addresses, h]
  rw [applyOverrides_of_addresses haddresses, Graph.bake_clampValue h hn hs]

/-- **Overrides and variations touch literals only.** Overrides that address parameters are all
accepted. Of the graph they change the values of the parameters that they address, where the last
one counts, and of the program the literals that these are bound to; texts address what they
addressed. A variation has the graph that an override with its value makes. -/
theorem applyOverrides_bakes (p : Preset) (os : List Override)
    (h : ∀ o ∈ os, (p.graph.parameterIndex? o.target).isSome) :
    p.applyOverrides os = ({ p with graph := p.graph.bake os }, .ok ()) ∧
      (∀ target, (p.graph.bake os).parameterIndex? target = p.graph.parameterIndex? target) ∧
      (∃ found w back, p.graph.Walks found w back ∧ w.withValues p.graph = w ∧
        (∀ slot ∈ w.slots, slot.withValues (p.graph.bake os) ≠ slot →
          ∃ o ∈ os, p.graph.parameterIndex? o.target = p.graph.nodeIdx? slot.node) ∧
        ∀ useWorldPos, (lower p.graph useWorldPos).stmts = Slot.statements 0 w.slots ∧
          lower (p.graph.bake os) useWorldPos = { lower p.graph useWorldPos with
            stmts := Slot.statements 0 (w.slots.map (Slot.withValues (p.graph.bake os))) }) ∧
      ∀ parameter count, (p.graph.parameterIndex? parameter).isSome → 0 < count →
        ∃ vs, p.variations parameter count = .ok vs ∧ vs.length = count ∧
          ∀ v ∈ vs, p.applyOverrides [⟨parameter, v.value⟩] =
            ({ p with graph := v.graph }, .ok ()) := by
  refine ⟨applyOverrides_of_addresses h, p.graph.parameterIndex?_bake os, ?_, ?_⟩
  · obtain ⟨found, w, back, hwalks, hvalues, hlower⟩ := exists_walks_of_shape_eq p.graph
    refine ⟨found, w, back, hwalks, hvalues, fun slot hslot hne => ?_, fun b =>
      ⟨?_, hlower _ b (p.graph.shape_bake os)⟩⟩
    · by_contra hnone
      push Not at hnone
      -- a slot of another node is bound to what it was bound to
      have hself : slot.withValues p.graph = slot :=
        List.map_inj_left.mp ((congrArg Walk.slots hvalues).trans (List.map_id _).symm) slot hslot
      rw [Slot.withValues, Graph.node?_bake_of_forall hnone] at hne
      exact hne hself
    · rw [lower_eq_program hwalks]
      rfl
  · intro parameter count hparameter hcount
    obtain ⟨i, hi⟩ := Option.isSome_iff_exists.mp hparameter
    obtain ⟨n, s, hn, hs⟩ := Graph.exists_parameter hi
    refine ⟨_, variations_eq hi hn hs hcount, by simp, fun v hv => ?_⟩
    obtain ⟨index, -, rfl⟩ := List.mem_map.mp hv
    exact applyOverrides_clampValue hi hn hs _

theorem applyOverrides_bakes_dial :
    let os : List Override := [⟨"amp", 1⟩, ⟨"k", 5⟩]
    (∀ o ∈ os, (dial.graph.parameterIndex? o.target).isSome) ∧
      dial.applyOverrides os = ({ dial with graph := dial.graph.bake os }, .ok ()) ∧
      (lower (dial.graph.bake os) false).stmts = [⟨0, .scalar 2⟩] ∧
      ∃ vs, dial.variations "amp" 3 = .ok vs ∧ vs.length = 3 ∧
        ∀ v ∈ vs, dial.applyOverrides [⟨"amp", v.value⟩] =
          ({ dial with graph := v.graph }, .ok ()) := by
  have haddresses : ∀ o ∈ [Override.mk "amp" 1, Override.mk "k" 5],
      (dial.graph.parameterIndex? o.target).isSome := by decide
  obtain ⟨happly, -, -, hvariations⟩ := applyOverrides_bakes dial _ haddresses
  exact ⟨haddresses, happly, by decide, hvariations "amp" 3 (by decide) (by decide)⟩

end Preset
end Heightfield
