import Heightfield.Proofs.Graph.Restrict
import Heightfield.Proofs.Graph.Topic
import Heightfield.Proofs.Program.Reader

/-!
# Connections that are passed over

A look-up takes the first connection into a socket whose two ends exist. The diagnostics go through
the connections once and remember which sockets are fed already. Both have the same connections in
mind: what the diagnostics complain of is what no look-up ever finds, and a graph without these
connections is compiled to the same program.

* `Graph.finds_iff` says which connections are found, place by place.
* `Graph.PassedOver` is what there is to complain of at a place.
* `Graph.passedOver_eq` ties the pass to the look-ups, and `Graph.mem_fed_iff` the sockets that it
  has seen.
* `Graph.diagnostics_passedOver` is the main result.
-/

namespace Heightfield

/-- The diagnostic is about a single connection. -/
def Diagnostic.isAboutConnection : Diagnostic → Bool
  | .danglingConnection _ => true
  | .duplicateInput _ _ _ => true
  | _ => false

theorem Diagnostic.isAboutConnection_eq (d : Diagnostic) :
    d.isAboutConnection = decide (d.topic = .connections) := by
  cases d <;> rfl

/-! ## Entries that are kept -/

section Keep

variable {α : Type} {keep : Nat → Bool} {xs : List α}

/-- What is left stood at a place that is kept. -/
theorem exists_of_mem_keepAt {a : α} (h : a ∈ keepAt keep xs) :
    ∃ k, keep k = true ∧ xs[k]? = some a := by
  induction xs generalizing keep with
  | nil => exact absurd h List.not_mem_nil
  | cons x rest ih =>
    have hrest (h : a ∈ keepAt (fun k => keep (k + 1)) rest) :
        ∃ k, keep k = true ∧ (x :: rest)[k]? = some a := by
      obtain ⟨k, hkeep, hk⟩ := ih h
      exact ⟨k + 1, hkeep, hk⟩
    rw [keepAt] at h
    split at h
    next hkeep =>
      rcases List.mem_cons.mp h with rfl | h
      · exact ⟨0, hkeep, rfl⟩
      · exact hrest h
    next => exact hrest h

/-- What holds between the entries at any two places that are kept, holds for what is left. -/
theorem pairwise_keepAt {R : α → α → Prop}
    (h : ∀ i j a b, i < j → keep i = true → keep j = true → xs[i]? = some a → xs[j]? = some b →
      R a b) : (keepAt keep xs).Pairwise R := by
  induction xs generalizing keep with
  | nil => exact List.Pairwise.nil
  | cons x rest ih =>
    have hrest : (keepAt (fun k => keep (k + 1)) rest).Pairwise R :=
      ih fun i j a b hlt hi hj ha hb =>
        h (i + 1) (j + 1) a b (Nat.succ_lt_succ hlt) hi hj ha hb
    rw [keepAt]
    split
    next hkeep =>
      refine List.pairwise_cons.mpr ⟨fun b hb => ?_, hrest⟩
      obtain ⟨k, hk, hb⟩ := exists_of_mem_keepAt hb
      exact h 0 (k + 1) x b k.succ_pos hkeep hk rfl hb
    next => exact hrest

end Keep

namespace Graph

/-- How graphs come about: from nodes and connections, from the records of the editor, and by
editing the nodes and the connections. -/
inductive Made : Graph → Prop where
  | parts (nodes : List Node) (connections : List Connection) : Made { nodes, connections }
  | records (records : List NodeRecord) (connections : List Connection) :
      Made (.ofRecords records connections)
  | edited {g : Graph} (h : Made g) (nodes : List Node) (connections : List Connection) :
      Made { g with nodes, connections }

variable {g : Graph} {id socket : String} {c : Connection} {k : Nat}

/-- What a graph brings along was found by loading. -/
theorem Made.topic (h : g.Made) : ∀ d ∈ g.loadIssues, d.topic = .loading := by
  induction h with
  | parts => exact nofun
  | records records connections =>
    intro d hd
    obtain ⟨r, -, hd⟩ := List.mem_flatMap.mp hd
    exact NodeRecord.topic_load hd
  | edited _ _ _ ih => exact ih

/-! ## What is found -/

/-- What is found stands at the place where it is found. -/
theorem incoming?_eq_bind (g : Graph) (id socket : String) :
    g.incoming? id socket = (g.incomingIdx? id socket).bind (g.connections[·]?) :=
  List.find?_eq_bind_findIdx?_getElem?

/-- A look-up finds the connection `c` that stands at place `k`. -/
def finds (g : Graph) (c : Connection) (k : Nat) : Bool :=
  g.incomingIdx? c.toNode c.toSocket = some k

/-- A connection is found if its ends exist and no earlier one leads into its socket whose ends
exist too. -/
theorem finds_iff (hc : g.connections[k]? = some c) :
    g.finds c k = true ↔
      g.isResolvable c = true ∧ ∀ j < k, ∀ d, g.connections[j]? = some d →
        g.isResolvable d = true → (d.toNode, d.toSocket) ≠ (c.toNode, c.toSocket) := by
  obtain ⟨hk, rfl⟩ := List.getElem?_eq_some_iff.mp hc
  rw [finds, decide_eq_true_eq, incomingIdx?, List.findIdx?_eq_some_iff_getElem]
  simp only [Bool.and_eq_true, decide_eq_true_eq, true_and, ne_eq, Prod.mk.injEq]
  constructor
  · rintro ⟨_, hends, hearlier⟩
    refine ⟨hends, fun j hj d hd hdends hto => ?_⟩
    obtain ⟨hlt, rfl⟩ := List.getElem?_eq_some_iff.mp hd
    exact hearlier j hj ⟨hto, hdends⟩
  · rintro ⟨hends, hearlier⟩
    exact ⟨hk, hends, fun j hj hto =>
      hearlier j hj _ (List.getElem?_eq_getElem (hj.trans hk)) hto.2 hto.1⟩

/-- What is found into a socket leads there. -/
theorem incomingIdx?_self (h : g.incomingIdx? id socket = some k) :
    ∃ c, g.connections[k]? = some c ∧ g.finds c k = true := by
  obtain ⟨hk, hto, -⟩ := List.findIdx?_eq_some_iff_getElem.mp h
  simp only [Bool.and_eq_true, decide_eq_true_eq] at hto
  obtain ⟨⟨rfl, rfl⟩, -⟩ := hto
  exact ⟨_, List.getElem?_eq_getElem hk, decide_eq_true h⟩

/-! ## The pass -/

/-- What the diagnostics say of a connection that they complain of. -/
def complaint (g : Graph) (c : Connection) : Diagnostic :=
  if g.isResolvable c then .duplicateInput c.toNode c.toSocket c.id else .danglingConnection c.id

/-- The sockets that the first connections feed. -/
def Fed (g : Graph) (k : Nat) (fed : List (String × String)) : Prop :=
  ∀ p, p ∈ fed ↔ ∃ j < k, ∃ d, g.connections[j]? = some d ∧ g.isResolvable d = true ∧
    (d.toNode, d.toSocket) = p

variable {fed fed' : List (String × String)}

theorem fed_zero (g : Graph) : g.Fed 0 [] :=
  fun _ => iff_of_false List.not_mem_nil fun ⟨_, hj, _⟩ => absurd hj (Nat.not_lt_zero _)

/-- The next connection feeds its socket, if its ends exist. -/
theorem Fed.succ (h : g.Fed k fed) (hc : g.connections[k]? = some c)
    (hfed : ∀ p, p ∈ fed' ↔ p ∈ fed ∨ g.isResolvable c = true ∧ (c.toNode, c.toSocket) = p) :
    g.Fed (k + 1) fed' := by
  intro p
  rw [hfed, h, Nat.exists_lt_succ_right, hc]
  simp

/-- Behind the last connection nothing is fed. -/
theorem Fed.of_length_le (h : g.Fed k fed) (hk : g.connections.length ≤ k) :
    g.Fed g.connections.length fed := by
  intro p
  rw [h]
  refine exists_congr fun j => and_congr_left fun ⟨d, hd, _⟩ => ?_
  have hj := (List.getElem?_eq_some_iff.mp hd).1
  omega

/-- A connection is found if its ends exist and its socket is not fed yet. -/
theorem Fed.finds_iff (h : g.Fed k fed) (hc : g.connections[k]? = some c) :
    g.finds c k = true ↔ g.isResolvable c = true ∧ (c.toNode, c.toSocket) ∉ fed := by
  rw [Graph.finds_iff hc, h]
  refine and_congr_right fun _ => ⟨?_, ?_⟩
  · rintro hearlier ⟨j, hj, d, hd, hends, hto⟩
    exact hearlier j hj d hd hends hto
  · intro hnot j hj d hd hends hto
    exact hnot ⟨j, hj, d, hd, hends, hto⟩

/-- From any place on, the pass complains of the connections that are not found, in turn, and it
ends with the sockets that are fed. -/
theorem passedOver_eq {rest : List Connection} (hrest : g.connections.drop k = rest)
    (h : g.Fed k fed) :
    (g.passedOver fed rest).1 =
        ((rest.zipIdx k).filter fun p => !g.finds p.1 p.2).map (fun p => g.complaint p.1) ∧
      g.Fed g.connections.length (g.passedOver fed rest).2 := by
  induction rest generalizing k fed with
  | nil => exact ⟨rfl, h.of_length_le (List.drop_eq_nil_iff.mp hrest)⟩
  | cons c rest ih =>
    have hc : g.connections[k]? = some c := by
      rw [← List.head?_drop, hrest, List.head?_cons]
    have hnext : g.connections.drop (k + 1) = rest := by
      rw [← List.drop_drop, hrest, List.drop_one, List.tail_cons]
    have hfound := h.finds_iff hc
    rw [passedOver, List.zipIdx_cons]
    by_cases hends : g.isResolvable c = true
    · by_cases htaken : (c.toNode, c.toSocket) ∈ fed
      · have hfalse : g.finds c k = false := by
          rw [Bool.eq_false_iff, Ne, hfound]
          exact fun hnot => hnot.2 htaken
        have hstep : g.Fed (k + 1) fed := h.succ hc fun p =>
          ⟨.inl, fun hp => hp.elim id fun hp => hp.2 ▸ htaken⟩
        obtain ⟨hissues, hfed⟩ := ih hnext hstep
        rw [if_neg (by simp [hends]), if_pos (by simpa using htaken),
          List.filter_cons_of_pos (by simp [hfalse]), List.map_cons, complaint, if_pos hends,
          ← hissues]
        exact ⟨rfl, hfed⟩
      · have htrue : g.finds c k = true := hfound.mpr ⟨hends, htaken⟩
        rw [if_neg (by simp [hends]), if_neg (by simpa using htaken),
          List.filter_cons_of_neg (by simp [htrue])]
        refine ih hnext (h.succ hc fun p => ?_)
        rw [List.mem_cons, or_comm, eq_comm, and_iff_right hends]
    · have hfalse : g.finds c k = false := by
        rw [Bool.eq_false_iff, Ne, hfound]
        exact fun hnot => hends hnot.1
      have hstep : g.Fed (k + 1) fed := h.succ hc fun p =>
        ⟨.inl, fun hp => hp.elim id fun hp => absurd hp.1 hends⟩
      obtain ⟨hissues, hfed⟩ := ih hnext hstep
      rw [if_pos (by simpa using hends), List.filter_cons_of_pos (by simp [hfalse]),
        List.map_cons, complaint, if_neg hends, ← hissues]
      exact ⟨rfl, hfed⟩

/-- After the pass a socket is fed if and only if a look-up finds a connection into it. -/
theorem mem_fed_iff (p : String × String) :
    p ∈ (g.passedOver [] g.connections).2 ↔ (g.incoming? p.1 p.2).isSome = true := by
  rw [(passedOver_eq List.drop_zero g.fed_zero).2 p, incoming?, List.find?_isSome]
  simp only [Bool.and_eq_true, decide_eq_true_eq]
  constructor
  · rintro ⟨j, -, d, hd, hends, rfl⟩
    exact ⟨d, List.mem_of_getElem? hd, ⟨rfl, rfl⟩, hends⟩
  · rintro ⟨d, hmem, ⟨hnode, hsocket⟩, hends⟩
    obtain ⟨j, hj, rfl⟩ := List.getElem_of_mem hmem
    exact ⟨j, hj, _, List.getElem?_eq_getElem hj, hends, Prod.ext hnode hsocket⟩

/-! ## Diagnostics -/

/-- What the diagnostics say of single connections is what the pass says. -/
theorem filter_diagnostics (h : ∀ d ∈ g.loadIssues, d.topic = .loading) :
    g.diagnostics.filter Diagnostic.isAboutConnection =
      (g.connections.zipIdx.filter fun p => !g.finds p.1 p.2).map (fun p => g.complaint p.1) := by
  rw [funext Diagnostic.isAboutConnection_eq, filter_topic h, said,
    (passedOver_eq List.drop_zero g.fed_zero).1]

/-- Why the connection `c` at place `k` is passed over, and what is said of it. -/
inductive PassedOver (g : Graph) (k : Nat) (c : Connection) : Diagnostic → Prop where
  /-- an end is no node -/
  | dangling (h : (∀ n ∈ g.nodes, n.id ≠ c.fromNode) ∨ ∀ n ∈ g.nodes, n.id ≠ c.toNode) :
      PassedOver g k c (.danglingConnection c.id)
  /-- an earlier connection leads into the socket; the ends of both are nodes -/
  | duplicate (hfrom : ∃ n ∈ g.nodes, n.id = c.fromNode) (hto : ∃ n ∈ g.nodes, n.id = c.toNode)
      (hearlier : ∃ j < k, ∃ d, g.connections[j]? = some d ∧
        (∃ n ∈ g.nodes, n.id = d.fromNode) ∧ (∃ n ∈ g.nodes, n.id = d.toNode) ∧
        d.toNode = c.toNode ∧ d.toSocket = c.toSocket) :
      PassedOver g k c (.duplicateInput c.toNode c.toSocket c.id)

theorem isResolvable_iff : g.isResolvable c = true ↔
    (∃ n ∈ g.nodes, n.id = c.fromNode) ∧ ∃ n ∈ g.nodes, n.id = c.toNode := by
  simp [isResolvable, node?, List.find?_isSome]

/-- What is not found is passed over, for the reason that is given, and nothing else is. -/
theorem passedOver_iff (hc : g.connections[k]? = some c) :
    g.finds c k = false ↔ g.PassedOver k c (g.complaint c) := by
  rw [Bool.eq_false_iff, Ne, finds_iff hc, complaint]
  split
  next hends =>
    obtain ⟨hfrom, hto⟩ := isResolvable_iff.mp hends
    rw [and_iff_right hends]
    constructor
    · intro h
      push Not at h
      obtain ⟨j, hj, d, hd, hdends, htarget⟩ := h
      obtain ⟨hdfrom, hdto⟩ := isResolvable_iff.mp hdends
      obtain ⟨hnode, hsocket⟩ := Prod.mk.inj htarget
      exact .duplicate hfrom hto ⟨j, hj, d, hd, hdfrom, hdto, hnode, hsocket⟩
    · rintro (_ | ⟨-, -, j, hj, d, hd, hdfrom, hdto, hnode, hsocket⟩) h
      exact h j hj d hd (isResolvable_iff.mpr ⟨hdfrom, hdto⟩) (Prod.ext hnode hsocket)
  next hends =>
    refine iff_of_true (fun h => hends h.1) (.dangling ?_)
    rw [isResolvable_iff, not_and_or] at hends
    exact hends.imp (fun h n hn hid => h ⟨n, hn, hid⟩) fun h n hn hid => h ⟨n, hn, hid⟩

/-! ## The graph without them -/

/-- The graph with those of its connections that are found. -/
def withoutPassedOver (g : Graph) : Graph :=
  { g with
    connections := keepAt (fun k => (g.connections[k]?).any (g.finds · k)) g.connections }

/-- A look-up does not miss what it never finds. -/
theorem incoming?_withoutPassedOver (g : Graph) (id socket : String) :
    g.withoutPassedOver.incoming? id socket = g.incoming? id socket := by
  refine find?_keepAt_self
    (p := fun c => c.toNode = id && c.toSocket = socket && g.isResolvable c) fun k hk => ?_
  have hk : g.incomingIdx? id socket = some k := hk
  obtain ⟨c, hc, hfound⟩ := incomingIdx?_self hk
  rw [hc]
  exact hfound

/-- Every connection that is left is found. -/
theorem finds_withoutPassedOver (hc : g.withoutPassedOver.connections[k]? = some c) :
    g.withoutPassedOver.finds c k = true := by
  have hkept {j : Nat} {d : Connection} (hfound : (g.connections[j]?).any (g.finds · j) = true)
      (hd : g.connections[j]? = some d) : g.finds d j = true := by
    rw [hd] at hfound
    exact hfound
  -- two connections into one socket would be found at the same place
  have hdistinct : g.withoutPassedOver.connections.Pairwise fun d c =>
      (d.toNode, d.toSocket) ≠ (c.toNode, c.toSocket) := by
    refine pairwise_keepAt fun i j a b hlt hi hj ha hb htarget => ?_
    have hfirst := of_decide_eq_true (hkept hi ha)
    have hsecond := of_decide_eq_true (hkept hj hb)
    obtain ⟨hnode, hsocket⟩ := Prod.mk.inj htarget
    rw [hnode, hsocket, hsecond, Option.some.injEq] at hfirst
    omega
  refine (finds_iff hc).mpr ⟨?_, fun j hj d hd _ => ?_⟩
  · obtain ⟨j, hj, hcj⟩ := exists_of_mem_keepAt (List.mem_of_getElem? hc)
    exact ((finds_iff hcj).mp (hkept hj hcj)).1
  · obtain ⟨hjlt, rfl⟩ := List.getElem?_eq_some_iff.mp hd
    obtain ⟨hklt, rfl⟩ := List.getElem?_eq_some_iff.mp hc
    exact List.pairwise_iff_getElem.mp hdistinct j k hjlt hklt hj

/-- The program of a graph does not miss them either. -/
theorem lower_withoutPassedOver (g : Graph) (useWorldPos : Bool) :
    lower g.withoutPassedOver useWorldPos = lower g useWorldPos := by
  have hsink : g.withoutPassedOver.outputNode? = g.outputNode? := rfl
  refine lower_congr hsink (fun id socket _ => ?_) useWorldPos
  rw [source?, source?, incoming?_withoutPassedOver]
  rfl

/-- **The diagnostics and the compiler agree about connections.** In every graph, however it came
about, the diagnostics complain once and in order of the connections that no look-up finds: of
those with an end that is no node, and of those that come behind another one into the same socket.
Without these connections there is nothing to complain of, every look-up finds what it found before,
and the program is the same. -/
theorem diagnostics_passedOver (h : g.Made) :
    g.diagnostics.filter Diagnostic.isAboutConnection =
      (g.connections.zipIdx.filter fun p => !g.finds p.1 p.2).map (fun p => g.complaint p.1) ∧
    (∀ id socket, g.incoming? id socket =
      (g.incomingIdx? id socket).bind (g.connections[·]?)) ∧
    (∀ k c, g.connections[k]? = some c →
      (g.finds c k = false ↔ g.PassedOver k c (g.complaint c))) ∧
    g.withoutPassedOver.diagnostics.filter Diagnostic.isAboutConnection = [] ∧
    (∀ id socket, g.withoutPassedOver.incoming? id socket = g.incoming? id socket) ∧
    ∀ useWorldPos, lower g.withoutPassedOver useWorldPos = lower g useWorldPos := by
  refine ⟨filter_diagnostics h.topic, g.incoming?_eq_bind, fun k c => passedOver_iff,
    ?_, g.incoming?_withoutPassedOver, g.lower_withoutPassedOver⟩
  have hleft : g.withoutPassedOver.connections.zipIdx.filter
      (fun p => !g.withoutPassedOver.finds p.1 p.2) = [] := by
    refine List.filter_eq_nil_iff.mpr fun p hp => ?_
    have hc := List.mem_zipIdx_iff_getElem?.mp hp
    simp [finds_withoutPassedOver hc]
  rw [filter_diagnostics (g := g.withoutPassedOver) h.topic, hleft, List.map_nil]

/-- An output with three connections, the first of which comes from nowhere. -/
def crowded : Graph where
  nodes := [⟨"a", .value 1, [], 0, 0⟩, ⟨"b", .value 2, [], 0, 0⟩, ⟨"o", .output, [], 0, 0⟩]
  connections := [.between "ghost" "value" "o" "value", .between "a" "value" "o" "value",
    .between "b" "value" "o" "value"]

theorem diagnostics_passedOver_crowded : crowded.Made ∧
    crowded.diagnostics.filter Diagnostic.isAboutConnection =
      [.danglingConnection "ghost.value->o.value",
        .duplicateInput "o" "value" "b.value->o.value"] ∧
    crowded.withoutPassedOver.diagnostics.filter Diagnostic.isAboutConnection = [] ∧
    lower crowded.withoutPassedOver true = lower crowded true := by
  have hmade : crowded.Made := .parts _ _
  obtain ⟨hissues, -, -, hleft, -, hlower⟩ := diagnostics_passedOver hmade
  exact ⟨hmade, hissues.trans (by decide), hleft, hlower true⟩

end Graph
end Heightfield
