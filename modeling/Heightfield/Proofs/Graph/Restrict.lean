import Heightfield.Proofs.Graph.Source

/-!
# Parts of a graph

Some nodes and connections of a graph are taken away, each told by its place in its list: entries
may repeat, and of two equal ones the first is what counts. A look-up finds what it found before, if
that is kept.

* `keepAt` keeps the entries of a list at some places.
* `Graph.restrict` keeps some nodes and connections.
* `Graph.node?_restrict`, `Graph.outputNode?_restrict` and `Graph.incoming?_restrict` say when a
  look-up is not disturbed.
-/

namespace Heightfield

/-! ## Entries at some places -/

section Keep

variable {α : Type} {keep : Nat → Bool} {p q : α → Bool} {xs : List α}

/-- The entries of a list at the places that are kept. -/
def keepAt (keep : Nat → Bool) : List α → List α
  | [] => []
  | x :: rest =>
    let kept := keepAt (fun k => keep (k + 1)) rest
    if keep 0 then x :: kept else kept

theorem keepAt_sublist (keep : Nat → Bool) (xs : List α) : (keepAt keep xs).Sublist xs := by
  induction xs generalizing keep with
  | nil => exact List.Sublist.slnil
  | cons x rest ih =>
    rw [keepAt]
    split
    · exact (ih _).cons_cons x
    · exact (ih _).cons x

/-- A search finds what a wider one found before, if its first hit is kept. -/
theorem find?_keepAt (hqp : ∀ x ∈ xs, q x = true → p x = true)
    (hfirst : ∀ k x, xs.findIdx? p = some k → xs[k]? = some x → keep k = true ∧ q x = true) :
    (keepAt keep xs).find? q = xs.find? p := by
  induction xs generalizing keep with
  | nil => rfl
  | cons x rest ih =>
    rw [List.forall_mem_cons] at hqp
    cases hp : p x with
    | true =>
      obtain ⟨hkeep, hq⟩ := hfirst 0 x (by simp [List.findIdx?_cons, hp]) rfl
      rw [keepAt, if_pos hkeep, List.find?_cons_of_pos hq, List.find?_cons_of_pos hp]
    | false =>
      have hq : ¬ q x = true := fun hq => by simp [hqp.1 hq] at hp
      have hrest := @ih (fun k => keep (k + 1)) hqp.2 fun k y hk hy =>
        hfirst (k + 1) y (by simp [List.findIdx?_cons, hp, hk]) hy
      rw [keepAt, List.find?_cons_of_neg (by simp [hp])]
      split
      · rw [List.find?_cons_of_neg hq]
        exact hrest
      · exact hrest

/-- The entry at the place of the first hit is what is found. -/
theorem find?_eq_of_findIdx? {k : Nat} {x : α} (hk : xs.findIdx? p = some k)
    (hx : xs[k]? = some x) : xs.find? p = some x := by
  rw [List.find?_eq_bind_findIdx?_getElem?, hk]
  exact hx

/-- A search finds what it found before, if its first hit is kept. -/
theorem find?_keepAt_self (h : ∀ k, xs.findIdx? p = some k → keep k = true) :
    (keepAt keep xs).find? p = xs.find? p :=
  find?_keepAt (fun _ _ hp => hp) fun k _ hk hx =>
    ⟨h k hk, List.find?_some (find?_eq_of_findIdx? hk hx)⟩

end Keep

namespace Graph

variable {g : Graph} {keepNode keepConnection : Nat → Bool} {id socket : String}

/-- The place of the first node of an id. -/
def nodeIdx? (g : Graph) (id : String) : Option Nat :=
  g.nodes.findIdx? (·.id = id)

/-- The place of the first output node. -/
def outputIdx? (g : Graph) : Option Nat :=
  g.nodes.findIdx? (·.kind.type = .output)

/-- The place of the connection that feeds an input socket. -/
def incomingIdx? (g : Graph) (id socket : String) : Option Nat :=
  g.connections.findIdx? fun c => c.toNode = id && c.toSocket = socket && g.isResolvable c

/-- The nodes and the connections at the places that are kept. -/
def restrict (g : Graph) (keepNode keepConnection : Nat → Bool) : Graph where
  nodes := keepAt keepNode g.nodes
  connections := keepAt keepConnection g.connections
  loadIssues := g.loadIssues

/-- What is left is resolvable only if it was. -/
theorem isResolvable_of_restrict {c : Connection}
    (h : (g.restrict keepNode keepConnection).isResolvable c = true) : g.isResolvable c = true := by
  have hleft (id : String) (hid : ((g.restrict keepNode keepConnection).node? id).isSome = true) :
      (g.node? id).isSome = true := by
    rw [node?, List.find?_isSome] at hid ⊢
    obtain ⟨n, hn, hid⟩ := hid
    exact ⟨n, (keepAt_sublist _ _).subset hn, hid⟩
  rw [isResolvable, Bool.and_eq_true] at h ⊢
  exact ⟨hleft _ h.1, hleft _ h.2⟩

/-- An id stands for the same node if its first node is kept. -/
theorem node?_restrict (h : ∀ k, g.nodeIdx? id = some k → keepNode k = true) :
    (g.restrict keepNode keepConnection).node? id = g.node? id :=
  find?_keepAt_self h

/-- The sink is the same if it is kept. -/
theorem outputNode?_restrict (h : ∀ k, g.outputIdx? = some k → keepNode k = true) :
    (g.restrict keepNode keepConnection).outputNode? = g.outputNode? :=
  find?_keepAt_self h

/-- An input has the same connection if that is kept and its two ends exist. -/
theorem incoming?_restrict
    (h : ∀ k, g.incomingIdx? id socket = some k → keepConnection k = true)
    (hends : ∀ c, g.incoming? id socket = some c →
      (g.restrict keepNode keepConnection).isResolvable c = true) :
    (g.restrict keepNode keepConnection).incoming? id socket = g.incoming? id socket := by
  refine find?_keepAt (fun c _ hc => ?_) fun k c hk hc => ⟨h k hk, ?_⟩
  · simp only [Bool.and_eq_true] at hc ⊢
    exact ⟨hc.1, isResolvable_of_restrict hc.2⟩
  · have hincoming : g.incoming? id socket = some c := find?_eq_of_findIdx? hk hc
    have hto := List.find?_some hincoming
    simp only [Bool.and_eq_true] at hto ⊢
    exact ⟨hto.1, hends c hincoming⟩

end Graph
end Heightfield
