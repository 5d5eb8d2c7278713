import Heightfield.Graph.Record
import Heightfield.Proofs.Program.Legible
import Mathlib.Data.List.Forall2

/-!
# Loading

Whatever the editor has stored, loading ends with a graph and says what it could not read. The nodes
are those of the records whose type is known, one for each and in their order. Their numbers are
finite, and a setting that is picked by name and has an unknown one is the default. The issues are
one for each record that is skipped and one for each name that is not known.

* `ChoiceSetting` is a setting that is picked by name, and `NodeType.choices` lists those of a type.
* `ChoiceSetting.misnamed?_eq_some_iff` says when the name of a setting is not known.
* `NodeType.table` lists the known type names, and `NodeType.parse?_eq_some_iff` says that these are
  the ones which the loader knows.
* `NodeRecord.LoadedAs` ties a node to its record, and `NodeRecord.issues` lists what is said about
  a record.
* `Graph.ofRecords_accounts` is the result.
-/

namespace Heightfield

open Document (Value)

/-! ## What the bag holds -/

/-- A value as a name: texts stand for themselves, other values for what they are written as. No
value is no name. -/
def Document.Value.name? : Value → Option String
  | .null => none
  | .text raw => some raw
  | other => some other.compact

namespace Settings

variable {α : Type} [Choice α] {bag v : Value} {keys : List String}

/-- The first of the keys that the bag has at all holds the value. -/
def Holds (bag : Value) (keys : List String) (v : Value) : Prop :=
  ∃ before key after, keys = before ++ key :: after ∧ bag.field? key = some v ∧
    ∀ k ∈ before, bag.field? k = none

theorem field?_eq_some_iff : field? bag keys = some v ↔ Holds bag keys v :=
  List.findSome?_eq_some_iff

/-- Whatever is under the keys, a number is finite if its default is. -/
theorem isFinite_number {fallback : Float32} (h : fallback.isFinite = true) (bag : Value)
    (keys : List String) : (number bag keys fallback).isFinite = true := by
  unfold number
  split
  · split
    · assumption
    · exact h
  · exact h

/-- Whatever the form of the value, it is its name that is looked up. -/
theorem choice_eq (id : String) (bag : Value) (keys : List String) :
    (choice id bag keys : α × List Diagnostic) =
      match (field? bag keys).bind Value.name? with
      | none => (Choice.fallback, [])
      | some raw =>
        match Choice.parse? raw with
        | some a => (a, [])
        | none => (Choice.fallback, [.unknownVariant id (Choice.label α) raw]) := by
  unfold choice
  cases field? bag keys with
  | none => rfl
  | some v => cases v <;> rfl

end Settings

/-! ## Settings that are picked by name -/

/-- A setting that is picked by name: the keys that it is stored under, and where a node has it. -/
structure ChoiceSetting where
  {α : Type}
  [choice : Choice α]
  keys : List String
  of : NodeKind → Option α

attribute [instance] ChoiceSetting.choice

namespace ChoiceSetting

variable {s : ChoiceSetting} {bag : Value} {raw : String}

/-- The name that the bag has for the setting. -/
def written? (s : ChoiceSetting) (bag : Value) : Option String :=
  (Settings.field? bag s.keys).bind Value.name?

/-- The name that the bag has for the setting, if it stands for nothing. -/
def misnamed? (s : ChoiceSetting) (bag : Value) : Option String :=
  (s.written? bag).filter fun raw => (Choice.parse? raw : Option s.α).isNone

/-- What the name stands for; the default, if there is no name or it stands for nothing. -/
def picked (s : ChoiceSetting) (bag : Value) : s.α :=
  ((s.written? bag).bind Choice.parse?).getD Choice.fallback

/-- What is said about the setting of a node. -/
def issues (s : ChoiceSetting) (id : String) (bag : Value) : List Diagnostic :=
  (s.misnamed? bag).toList.map (.unknownVariant id (Choice.label s.α))

/-- A name is not known if it is that of the first of the keys that the bag has and stands for
nothing. -/
theorem misnamed?_eq_some_iff : s.misnamed? bag = some raw ↔
    (∃ v, Settings.Holds bag s.keys v ∧ v.name? = some raw) ∧
      (Choice.parse? raw : Option s.α) = none := by
  simp [misnamed?, written?, Option.filter_eq_some_iff, Option.bind_eq_some_iff,
    Settings.field?_eq_some_iff]

/-- A setting with an unknown name is the default. -/
theorem picked_of_misnamed? (h : s.misnamed? bag = some raw) : s.picked bag = Choice.fallback := by
  obtain ⟨hwritten, hparse⟩ := Option.filter_eq_some_iff.mp h
  simp_all [picked]

/-- The loader picks a setting and says what there is to say about it. -/
theorem choice_eq (s : ChoiceSetting) (id : String) (bag : Value) :
    (Settings.choice id bag s.keys : s.α × _) = (s.picked bag, s.issues id bag) := by
  rw [Settings.choice_eq]
  unfold picked issues misnamed? written?
  cases (Settings.field? bag s.keys).bind Value.name? with
  | none => rfl
  | some raw => cases h : (Choice.parse? raw : Option s.α) <;> simp [Option.filter, h]

/-- The operator on numbers. -/
def scalarOperation : ChoiceSetting where
  keys := ["operation", "op"]
  of
    | .math operation _ => some operation
    | _ => none

/-- The operator on vectors. -/
def vectorOperation : ChoiceSetting where
  keys := ["operation", "op"]
  of
    | .vectorMath operation _ => some operation
    | _ => none

/-- What waves are measured along. -/
def waveType : ChoiceSetting where
  keys := ["waveType", "wave_type", "type"]
  of
    | .waveTexture settings => some settings.waveType
    | _ => none

/-- The direction of bands. -/
def waveDirection : ChoiceSetting where
  keys := ["direction", "bandsDirection"]
  of
    | .waveTexture settings => some settings.direction
    | _ => none

/-- The shape of one wave. -/
def waveProfile : ChoiceSetting where
  keys := ["profile", "waveProfile"]
  of
    | .waveTexture settings => some settings.profile
    | _ => none

end ChoiceSetting

/-- The settings of a node type that are picked by name. -/
def NodeType.choices : NodeType → List ChoiceSetting
  | .math => [.scalarOperation]
  | .vectorMath => [.vectorOperation]
  | .waveTexture => [.waveType, .waveDirection, .waveProfile]
  | _ => []

/-! ## Kinds -/

/-- All settings of a node that are numbers. -/
def NodeKind.settings : NodeKind → List Float32
  | .time speed => [speed]
  | .parameter p => [p.value, p.min, p.max, p.default, p.step]
  | k => k.numbers

namespace NodeKind

variable {id : String} {bag : Value} {t : NodeType}

theorem type_ofBag (id : String) (bag : Value) (t : NodeType) : (ofBag id bag t).1.type = t := by
  cases t <;> rfl

/-- The settings that are picked by name are what their names stand for, and the issues are theirs,
in turn. -/
theorem ofBag_choices (id : String) (bag : Value) (t : NodeType) :
    (∀ s ∈ t.choices, s.of (ofBag id bag t).1 = some (s.picked bag)) ∧
      (ofBag id bag t).2 = t.choices.flatMap (·.issues id bag) := by
  cases t with
  | math =>
    have h : (Settings.choice id bag ["operation", "op"] : ScalarOperation × _) = _ :=
      ChoiceSetting.scalarOperation.choice_eq id bag
    simp only [NodeType.choices, List.forall_mem_singleton, List.flatMap_singleton, ofBag, h]
    exact ⟨rfl, trivial⟩
  | vectorMath =>
    have h : (Settings.choice id bag ["operation", "op"] : VectorOperation × _) = _ :=
      ChoiceSetting.vectorOperation.choice_eq id bag
    simp only [NodeType.choices, List.forall_mem_singleton, List.flatMap_singleton, ofBag, h]
    exact ⟨rfl, trivial⟩
  | waveTexture =>
    have htype : (Settings.choice id bag ["waveType", "wave_type", "type"] : WaveType × _) = _ :=
      ChoiceSetting.waveType.choice_eq id bag
    have hdirection :
        (Settings.choice id bag ["direction", "bandsDirection"] : WaveDirection × _) = _ :=
      ChoiceSetting.waveDirection.choice_eq id bag
    have hprofile : (Settings.choice id bag ["profile", "waveProfile"] : WaveProfile × _) = _ :=
      ChoiceSetting.waveProfile.choice_eq id bag
    simp only [NodeType.choices, List.forall_mem_cons, List.flatMap_cons, List.flatMap_nil,
      List.append_nil, ofBag, WaveSettings.ofBag, htype, hdirection, hprofile]
    exact ⟨⟨rfl, rfl, rfl, by simp⟩, List.append_assoc _ _ _⟩
  | _ => exact ⟨by simp [NodeType.choices], rfl⟩

/-- The numbers are finite: defaults are, and others are only taken if they are. -/
theorem isFinite_of_mem_settings {x : Float32} (hx : x ∈ (ofBag id bag t).1.settings) :
    x.isFinite = true := by
  have hnumber {fallback : Float32} (keys : List String) (h : fallback.isFinite = true) :
      (Settings.number bag keys fallback).isFinite = true := Settings.isFinite_number h bag keys
  cases t with
  | time | value | noiseTexture | math | vectorMath =>
    obtain rfl := List.mem_singleton.mp hx
    exact hnumber _ (by decide)
  | vector | combineXyz =>
    obtain rfl | rfl | rfl : _ ∨ _ ∨ _ := by simpa [ofBag, settings, numbers, Vec3.numbers] using hx
    all_goals exact hnumber _ (by decide)
  | waveTexture =>
    obtain rfl | rfl | rfl | rfl : _ ∨ _ ∨ _ ∨ _ := by
      simpa [ofBag, settings, numbers, WaveSettings.numbers, WaveSettings.ofBag] using hx
    all_goals exact hnumber _ (by decide)
  | parameter =>
    have hdefault := hnumber ["default", "defaultValue"] (by decide : (0 : Float32).isFinite = true)
    obtain rfl | rfl | rfl | rfl | rfl : _ ∨ _ ∨ _ ∨ _ ∨ _ := by
      simpa [ofBag, settings, ParameterSettings.ofBag] using hx
    · exact hnumber _ hdefault
    · exact hnumber _ (by decide)
    · exact hnumber _ (by decide)
    · exact hdefault
    · exact hnumber _ (by decide)
  | position | separateXyz | output => exact absurd hx List.not_mem_nil

/-- A wave texture has few octaves. -/
theorem detail_le_of_ofBag {w : WaveSettings} (h : (ofBag id bag t).1 = .waveTexture w) :
    w.detail ≤ maxWaveDetail := by
  cases t with
  | waveTexture =>
    obtain rfl := NodeKind.waveTexture.inj h
    exact clampDetail_le _
  | _ => cases h

end NodeKind

/-! ## Type names -/

/-- The type names that are known, in upper case and without blanks around them. -/
def NodeType.table : List (String × NodeType) :=
  [("TIME", .time), ("VALUE", .value), ("VECTOR", .vector), ("POSITION", .position),
    ("COMBINE_XYZ", .combineXyz), ("SEPARATE_XYZ", .separateXyz), ("MATH", .math),
    ("VECTOR_MATH", .vectorMath), ("WAVE_TEXTURE", .waveTexture),
    ("NOISE_TEXTURE", .noiseTexture), ("PARAMETER", .parameter), ("OUTPUT", .output)]

theorem NodeType.mem_table_iff {key : String} {t : NodeType} : (key, t) ∈ table ↔ t.name = key := by
  constructor
  · have hnames : ∀ entry ∈ table, entry.2.name = entry.1 := by decide
    exact hnames (key, t)
  · rintro rfl
    cases t <;> decide

/-- A name stands for a type if it is the one that the table has for it, in any case and with blanks
around it. -/
theorem NodeType.parse?_eq_some_iff {raw : String} {t : NodeType} :
    parse? raw = some t ↔ (Text.nameKey raw, t) ∈ table := by
  rw [mem_table_iff]
  constructor
  · intro h
    simpa using List.find?_some h
  · intro h
    have hall : t ∈ all := by cases t <;> decide
    obtain ⟨found, hfound⟩ : ∃ found, parse? raw = some found :=
      Option.isSome_iff_exists.mp (List.find?_isSome.mpr ⟨t, hall, by simpa using h⟩)
    have hname : found.name = t.name := by
      rw [h]
      simpa using List.find?_some hfound
    -- no two types have one name
    have hnodup : (all.map name).Nodup := by decide
    rw [hfound, List.inj_on_of_nodup_map hnodup (List.mem_of_find?_eq_some hfound) hall hname]

/-! ## Records -/

namespace NodeRecord

/-- The type of the record is known. -/
def isKnown (r : NodeRecord) : Bool := (NodeType.parse? r.type).isSome

/-- The type of a record is known if its name is in the table. -/
theorem isKnown_iff {r : NodeRecord} :
    r.isKnown = true ↔ Text.nameKey r.type ∈ NodeType.table.map (·.1) := by
  simp only [isKnown, Option.isSome_iff_exists, NodeType.parse?_eq_some_iff, List.mem_map,
    Prod.exists, exists_and_right, exists_eq_right]

/-- What is said about a record: that it is skipped, or which of its names are not known. -/
def issues (r : NodeRecord) : List Diagnostic :=
  match NodeType.parse? r.type with
  | none => [.unknownNodeType r.id r.type]
  | some t => t.choices.flatMap (·.issues r.id r.data)

/-- The node is what the record stands for. -/
structure LoadedAs (r : NodeRecord) (n : Node) : Prop where
  id : n.id = r.id
  inputs : n.inputs = r.inputs
  x : n.x = r.x
  y : n.y = r.y
  type : NodeType.parse? r.type = some n.kind.type
  picked : ∀ s ∈ n.kind.type.choices, s.of n.kind = some (s.picked r.data)
  finite : ∀ a ∈ n.kind.settings, a.isFinite = true
  detail : ∀ w, n.kind = .waveTexture w → w.detail ≤ maxWaveDetail

theorem isSome_load (r : NodeRecord) : r.load.1.isSome = r.isKnown := by
  unfold load isKnown
  cases NodeType.parse? r.type <;> rfl

theorem snd_load (r : NodeRecord) : r.load.2 = r.issues := by
  unfold load issues
  cases NodeType.parse? r.type with
  | none => rfl
  | some t => exact (NodeKind.ofBag_choices r.id r.data t).2

theorem loadedAs_of_load {r : NodeRecord} {n : Node} (h : r.load.1 = some n) : r.LoadedAs n := by
  unfold load at h
  cases ht : NodeType.parse? r.type with
  | none => simp [ht] at h
  | some t =>
    obtain rfl : (⟨r.id, (NodeKind.ofBag r.id r.data t).1, r.inputs, r.x, r.y⟩ : Node) = n := by
      simpa [ht] using h
    have htype := NodeKind.type_ofBag r.id r.data t
    refine ⟨rfl, rfl, rfl, rfl, ht.trans (congrArg some htype.symm), fun s hs => ?_,
      fun _ => NodeKind.isFinite_of_mem_settings, fun _ => NodeKind.detail_le_of_ofBag⟩
    exact (NodeKind.ofBag_choices r.id r.data t).1 s (htype ▸ hs)

end NodeRecord

/-! ## Graphs -/

/-- A list that is filtered and mapped at once is that of what is left. -/
theorem forall₂_filterMap {α β : Type} {p : α → Bool} {f : α → Option β} {R : α → β → Prop}
    (hp : ∀ a, (f a).isSome = p a) (hR : ∀ a b, f a = some b → R a b) (as : List α) :
    List.Forall₂ R (as.filter p) (as.filterMap f) := by
  induction as with
  | nil => exact .nil
  | cons a rest ih =>
    cases h : f a with
    | none => simpa [h, ← hp] using ih
    | some b => simpa [h, ← hp] using ⟨hR a b h, ih⟩

namespace Graph

/-- **Loading accounts for everything.** Any records make a graph. Its nodes are what the records of
known types stand for, in their order; its issues are those of the records, in their order: one for
a record of unknown type, and one for each name that stands for nothing, whose setting is the
default. A type is known if its name is in the table, and a name that stands for nothing is what is
written under the first key present. -/
theorem ofRecords_accounts (records : List NodeRecord) (connections : List Connection) :
    List.Forall₂ NodeRecord.LoadedAs (records.filter (·.isKnown))
        (ofRecords records connections).nodes ∧
      (ofRecords records connections).connections = connections ∧
      (ofRecords records connections).loadIssues = records.flatMap (·.issues) ∧
      (∀ (raw : String) (t : NodeType),
        NodeType.parse? raw = some t ↔ (Text.nameKey raw, t) ∈ NodeType.table) ∧
      (∀ r : NodeRecord, r.isKnown = true ↔ Text.nameKey r.type ∈ NodeType.table.map (·.1)) ∧
      ∀ (s : ChoiceSetting) (bag : Value) (raw : String),
        (s.misnamed? bag = some raw ↔
          (∃ v, Settings.Holds bag s.keys v ∧ v.name? = some raw) ∧
            (Choice.parse? raw : Option s.α) = none) ∧
        (s.misnamed? bag = some raw → s.picked bag = Choice.fallback) := by
  refine ⟨?_, rfl, ?_, fun _ _ => NodeType.parse?_eq_some_iff, fun _ => NodeRecord.isKnown_iff,
    fun s bag raw => ⟨ChoiceSetting.misnamed?_eq_some_iff, ChoiceSetting.picked_of_misnamed?⟩⟩
  · exact forall₂_filterMap NodeRecord.isSome_load (fun _ _ => NodeRecord.loadedAs_of_load) records
  · exact List.flatMap_congr fun r _ => r.snd_load

/-- An operator with an unknown name, behind a key without a value; an unknown type; a wave with a
name and a detail that do not do; a number that is not finite. -/
def mixedRecords : List NodeRecord :=
  [{ id := "m", type := " math", data := .ofFields [("op", .null), ("operation", .text "LOG")] },
    { id := "q", type := "SHADER" },
    { id := "w", type := "wave_texture"
      data := .ofFields [("waveType", .text "rings"), ("profile", .text "flat"),
        ("detail", .text "99")] },
    { id := "v", type := "Value", data := .ofFields [("value", .text "inf")] }]

/-- Three of the four records are loaded, and three issues told. -/
theorem ofRecords_accounts_mixed :
    let g := ofRecords mixedRecords []
    List.Forall₂ NodeRecord.LoadedAs (mixedRecords.filter (·.isKnown)) g.nodes ∧
      g.nodes.map (·.id) = ["m", "w", "v"] ∧
      g.nodes.map (·.kind) = [.math .add 0,
        .waveTexture { waveType := .rings, detail := maxWaveDetail }, .value 0] ∧
      g.loadIssues = [.unknownVariant "m" "math operation" "LOG", .unknownNodeType "q" "SHADER",
        .unknownVariant "w" "wave profile" "flat"] := by
  intro g
  obtain ⟨hnodes, -, hissues, -⟩ := ofRecords_accounts mixedRecords []
  refine ⟨hnodes, by decide +kernel, by decide +kernel, ?_⟩
  rw [hissues]
  decide +kernel

end Graph
end Heightfield
