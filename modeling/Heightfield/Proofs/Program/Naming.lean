import Heightfield.Proofs.Program.Follow
import Heightfield.Proofs.Program.Legible

/-!
# How variables are named

Whatever the ids of the nodes are, the variables of a program have tidy names, and a name leads back
to its variable.

* `Lowering.Follows.tidy` says that a walk adds variables with tidy names only, and `tidy_lower`
  that a program has no others.
* `Program.varNamed?_eq` finds a variable by its name, if the names are distinct.
-/

namespace Heightfield

/-! ## Tidy names -/

namespace Walk

variable {w : Walk}

/-- The variables have tidy names. -/
def Tidy (w : Walk) : Prop := ∀ slot ∈ w.slots, Identifier.Tidy slot.name

theorem Tidy.define (h : w.Tidy) (node : String) {d : Definition}
    (hsocket : ∀ c ∈ d.socket.toList, c.isAlphanum = true) (hne : d.socket.toList ≠ []) :
    (w.define node d).Tidy := by
  refine List.forall_mem_append.mpr ⟨h, List.forall_mem_singleton.mpr ?_⟩
  exact Identifier.tidy_fresh _ node hsocket hne

theorem Tidy.defineAll (h : w.Tidy) (node : String) {ds : List Definition}
    (hsocket : ∀ d ∈ ds, ∀ c ∈ d.socket.toList, c.isAlphanum = true)
    (hne : ∀ d ∈ ds, d.socket.toList ≠ []) : (w.defineAll node ds).Tidy := by
  induction ds generalizing w with
  | nil => exact h
  | cons d rest ih =>
    rw [List.forall_mem_cons] at hsocket hne
    exact ih (h.define node hsocket.1 hne.1) hsocket.2 hne.2

theorem Tidy.complete (h : w.Tidy) (n : Node) (found : List (String × Expr)) :
    (w.complete n found).Tidy := by
  have hnames : ∀ name ∈ ["value", "vector", "in", "x", "y", "z"], name.toList ≠ [] := by decide
  exact h.defineAll n.id (fun d => NodeKind.isAlphanum_socket) fun d hd =>
    hnames d.socket (NodeKind.socket_of_mem_block hd)

end Walk

/-- Following the connections adds variables with tidy names only. -/
theorem Lowering.Follows.tidy {g : Graph} {stack : List String} {id : String}
    {row : List (String × SocketType)} {w w' : Walk} {found : List (String × Expr)}
    {back : List (String × String)} (h : Follows g stack id row w found w' back) (hw : w.Tidy) :
    w'.Tidy := by
  induction h with
  | nil => exact hw
  | unfed _ _ ih | back _ _ _ _ ih | known _ _ _ _ ih => exact ih hw
  | new _ _ _ _ ihinner ihrest => exact ihrest ((ihinner hw).complete _ _)

/-- Every graph is lowered to a program with tidy names. -/
theorem tidy_lower (g : Graph) (useWorldPos : Bool) :
    ∀ v ∈ (lower g useWorldPos).vars, Identifier.Tidy v.name := by
  obtain ⟨found, w, back, h⟩ := g.exists_walks
  have htidy : w.Tidy := by
    have hinit : Walk.Tidy {} := by simp [Walk.Tidy]
    unfold Graph.Walks at h
    cases hsink : g.outputNode? with
    | none =>
      rw [hsink] at h
      rw [h.2.1]
      exact hinit
    | some sink =>
      rw [hsink] at h
      exact h.tidy hinit
  rw [lower_eq_program h, Walk.vars_program, List.forall_mem_map]
  exact htidy

/-! ## Names and variables -/

/-- If the names are distinct, a name leads back to its variable. -/
theorem Program.varNamed?_eq {p : Program} (h : (p.vars.map (·.name)).Nodup) {k : Nat} {v : Var}
    (hk : p.vars[k]? = some v) : p.varNamed? v.name = some k := by
  obtain ⟨hlt, rfl⟩ := List.getElem?_eq_some_iff.mp hk
  refine List.findIdx?_eq_some_iff_getElem.mpr ⟨hlt, decide_eq_true rfl, fun j hj hname => ?_⟩
  have hsame : (p.vars.map (·.name))[j]? = (p.vars.map (·.name))[k]? := by
    rw [List.getElem?_map, List.getElem?_map, hk, List.getElem?_eq_getElem (hj.trans hlt)]
    exact congrArg some (of_decide_eq_true hname)
  exact List.nodup_iff_getElem?_ne_getElem?.mp h j k hj (by simpa using hlt) hsame

end Heightfield
