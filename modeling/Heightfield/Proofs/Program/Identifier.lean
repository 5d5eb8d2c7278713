import Heightfield.Program.Identifier
import Mathlib.Data.List.Chain
import Mathlib.Data.List.Nodup
import Mathlib.Data.List.Perm.Subperm

/-!
# The names of variables

A name that is made for a variable is not among those that are taken, since among one more variants
than there are names one is free. Whatever the id of the node, the name is plain: it can be told
from everything else in a shader text.

* `Identifier.fresh_not_mem` says that names are new.
* `Identifier.Plain` names start with `n_` and hold letters, digits and underscores only;
  `Identifier.plain_fresh` says that the names that are made are plain.
* `Identifier.Tidy` names have no two underscores in a row and none at the end;
  `Identifier.tidy_fresh` says that the names that are made are tidy.
-/

namespace Heightfield.Identifier

/-! ## New names -/

/-- The variants of a name. -/
def variant (stem : String) (k : Nat) : String := s!"{stem}_{k}"

theorem toList_variant (stem : String) (k : Nat) :
    (variant stem k).toList = stem.toList ++ '_' :: Nat.toDigits 10 k := by
  simp [variant, toString]

theorem variant_injective (stem : String) : Function.Injective (variant stem) := by
  intro i j h
  have hlists := congrArg String.toList h
  rw [toList_variant, toList_variant, List.append_cancel_left_eq] at hlists
  have hdigits := congrArg (Nat.ofDigitChars 10 · 0) (List.cons.inj hlists).2
  simpa only [Nat.ofDigitChars_ten_toDigits] using hdigits

variable {taken : List String} {stem : String}

/-- The search ends with a name that is taken only if all that it tries are. -/
theorem forall_mem_of_suffixed_mem {fuel k : Nat} (h : suffixed taken stem fuel k ∈ taken) :
    ∀ i ≤ fuel, variant stem (k + i) ∈ taken := by
  induction fuel generalizing k with
  | zero =>
    intro i hi
    obtain rfl := Nat.le_zero.mp hi
    exact h
  | succ fuel ih =>
    rw [suffixed] at h
    split at h
    next hk =>
      intro i hi
      cases i with
      | zero => exact List.contains_iff_mem.mp hk
      | succ i =>
        rw [← Nat.succ_add_eq_add_succ]
        exact ih h i (by omega)
    next hk => exact absurd (List.contains_iff_mem.mpr h) hk

/-- The name that is made is not taken. -/
theorem fresh_not_mem (taken : List String) (stem : String) : fresh taken stem ∉ taken := by
  unfold fresh
  split
  next =>
    intro hmem
    have hall := forall_mem_of_suffixed_mem hmem
    -- one more variant than there are names cannot all be taken
    have hnodup : ((List.range (taken.length + 1)).map fun i => variant stem (2 + i)).Nodup :=
      List.nodup_range.map fun i j h => Nat.add_left_cancel (variant_injective stem h)
    have hsubset : ((List.range (taken.length + 1)).map fun i => variant stem (2 + i)) ⊆ taken := by
      intro name hname
      obtain ⟨i, hi, rfl⟩ := List.mem_map.mp hname
      exact hall i (Nat.lt_succ_iff.mp (List.mem_range.mp hi))
    have hlength := (List.subperm_of_subset hnodup hsubset).length_le
    simp only [List.length_map, List.length_range] at hlength
    omega
  next h => rwa [List.contains_iff_mem] at h

/-! ## Plain names -/

/-- A character of a plain name. -/
def IsPlain (c : Char) : Prop := c.isAlphanum = true ∨ c = '_'

instance (c : Char) : Decidable (IsPlain c) := inferInstanceAs (Decidable (_ ∨ _))

theorem isPlain_of_isDigit {c : Char} (h : c.isDigit = true) : IsPlain c :=
  .inl (by rw [Char.isAlphanum, h, Bool.or_true])

/-- A name that can be told from everything else in a shader text. -/
structure Plain (name : String) : Prop where
  starts : ['n', '_'] <+: name.toList
  chars : ∀ c ∈ name.toList, IsPlain c

theorem isPlain_squeeze {started gap : Bool} {cs : List Char} :
    ∀ c ∈ squeeze started gap cs, IsPlain c := by
  induction cs generalizing started gap with
  | nil => simp [squeeze]
  | cons c rest ih =>
    rw [squeeze]
    split
    next hc =>
      split
      · intro d hd
        rcases List.mem_cons.mp hd with rfl | hd
        · exact .inr rfl
        rcases List.mem_cons.mp hd with rfl | hd
        · exact .inl hc
        · exact ih d hd
      · intro d hd
        rcases List.mem_cons.mp hd with rfl | hd
        · exact .inl hc
        · exact ih d hd
    next => exact ih

theorem isPlain_sanitize (id : String) : ∀ c ∈ (sanitize id).toList, IsPlain c := by
  unfold sanitize
  split
  next => simp [IsPlain]
  next cs =>
    rw [String.toList_ofList]
    exact isPlain_squeeze

theorem plain_base (id : String) {socket : String}
    (h : ∀ c ∈ socket.toList, c.isAlphanum = true) : Plain (base id socket) := by
  have htext : (base id socket).toList =
      ['n', '_'] ++ ((sanitize id).toList ++ '_' :: socket.toList) := by
    simp [base, toString]
  refine ⟨htext ▸ List.prefix_append _ _, ?_⟩
  intro c hc
  simp only [htext, List.mem_append, List.mem_cons, List.not_mem_nil, or_false] at hc
  rcases hc with (rfl | rfl) | hc | rfl | hc
  · exact .inl rfl
  · exact .inr rfl
  · exact isPlain_sanitize id c hc
  · exact .inr rfl
  · exact .inl (h c hc)

theorem plain_variant (h : Plain stem) (k : Nat) : Plain (variant stem k) := by
  have htext := toList_variant stem k
  refine ⟨?_, ?_⟩
  · rw [htext]
    exact h.starts.trans (List.prefix_append _ _)
  · intro c hc
    rw [htext, List.mem_append, List.mem_cons] at hc
    rcases hc with hc | rfl | hc
    · exact h.chars c hc
    · exact .inr rfl
    · exact isPlain_of_isDigit (Nat.isDigit_of_mem_toDigits (by decide) (by decide) hc)

/-- The name that is made is the preferred one or one of its variants. -/
theorem fresh_cases (taken : List String) (stem : String) :
    fresh taken stem = stem ∨ ∃ k, fresh taken stem = variant stem k := by
  have hsuffixed (fuel k : Nat) : ∃ i, suffixed taken stem fuel k = variant stem i := by
    induction fuel generalizing k with
    | zero => exact ⟨k, rfl⟩
    | succ fuel ih =>
      rw [suffixed]
      split
      · exact ih (k + 1)
      · exact ⟨k, rfl⟩
  unfold fresh
  split
  · exact .inr (hsuffixed _ _)
  · exact .inl rfl

/-- The name that is made is plain, if the preferred one is. -/
theorem plain_fresh (h : Plain stem) : Plain (fresh taken stem) := by
  obtain heq | ⟨k, heq⟩ := fresh_cases taken stem
  · rwa [heq]
  · rw [heq]
    exact plain_variant h k

/-! ## Tidy names -/

/-- No two underscores stand in a row, and none stands last. -/
structure Neat (cs : List Char) : Prop where
  single : cs.IsChain fun a b => a = '_' → b ≠ '_'
  stop : cs.getLast? ≠ some '_'

variable {cs tail : List Char}

theorem neat_nil : Neat [] := ⟨.nil, nofun⟩

theorem ne_underscore {c : Char} (h : c.isAlphanum = true) : c ≠ '_' := by
  rintro rfl
  exact absurd h (by decide)

theorem Neat.cons {c : Char} (h : Neat cs) (hc : c ≠ '_') : Neat (c :: cs) := by
  refine ⟨List.isChain_cons.mpr ⟨fun _ _ heq => absurd heq hc, h.single⟩, ?_⟩
  cases cs with
  | nil => simpa using hc
  | cons d rest =>
    rw [List.getLast?_cons_cons]
    exact h.stop

/-- Two neat texts may be joined by an underscore, if the second does not start with one. -/
theorem Neat.join (h : Neat cs) (htail : Neat tail) (hne : tail ≠ [])
    (hstart : tail.head? ≠ some '_') : Neat (cs ++ '_' :: tail) := by
  refine ⟨List.isChain_append.mpr ⟨h.single, List.isChain_cons.mpr ⟨?_, htail.single⟩, ?_⟩, ?_⟩
  · rintro c hc - rfl
    exact hstart hc
  · rintro c hc _ - rfl
    exact absurd hc h.stop
  · obtain ⟨c, rest, rfl⟩ := List.exists_cons_of_ne_nil hne
    rw [List.getLast?_append_of_ne_nil _ (List.cons_ne_nil _ _), List.getLast?_cons_cons]
    exact htail.stop

/-- Letters and digits are neat. -/
theorem neat_of_isAlphanum (h : ∀ c ∈ cs, c.isAlphanum = true) : Neat cs := by
  induction cs with
  | nil => exact neat_nil
  | cons c rest ih =>
    rw [List.forall_mem_cons] at h
    exact (ih h.2).cons (ne_underscore h.1)

theorem neat_squeeze (started gap : Bool) (cs : List Char) : Neat (squeeze started gap cs) := by
  induction cs generalizing started gap with
  | nil => exact neat_nil
  | cons c rest ih =>
    rw [squeeze]
    split
    next hc =>
      have hrest := (ih true false).cons (ne_underscore hc)
      split
      · exact neat_nil.join hrest (List.cons_ne_nil _ _) (by simpa using ne_underscore hc)
      · exact hrest
    next => exact ih started true

/-- Before the first letter or digit there is no underscore. -/
theorem head?_squeeze (gap : Bool) (cs : List Char) : (squeeze false gap cs).head? ≠ some '_' := by
  induction cs generalizing gap with
  | nil => exact nofun
  | cons c rest ih =>
    rw [squeeze]
    split
    next hc => simpa using ne_underscore hc
    next => exact ih true

/-- The part that stands for a node id is neat, does not start with an underscore and is not
empty. -/
theorem neat_sanitize (id : String) :
    Neat (sanitize id).toList ∧ (sanitize id).toList.head? ≠ some '_' ∧
      (sanitize id).toList ≠ [] := by
  unfold sanitize
  split
  next => exact ⟨neat_of_isAlphanum (by simp), by decide, by decide⟩
  next hne =>
    rw [String.toList_ofList]
    exact ⟨neat_squeeze _ _ _, head?_squeeze _ _, hne⟩

theorem neat_base (id : String) {socket : String}
    (h : ∀ c ∈ socket.toList, c.isAlphanum = true) (hne : socket.toList ≠ []) :
    Neat (base id socket).toList := by
  have htext : (base id socket).toList =
      ['n'] ++ '_' :: (sanitize id).toList ++ '_' :: socket.toList := by
    simp [base, toString]
  obtain ⟨hid, hstart, hid'⟩ := neat_sanitize id
  have hstem : Neat (['n'] ++ '_' :: (sanitize id).toList) :=
    (neat_of_isAlphanum (List.forall_mem_singleton.mpr rfl)).join hid hid' hstart
  rw [htext]
  refine hstem.join (neat_of_isAlphanum h) hne ?_
  intro hhead
  exact ne_underscore (h _ (List.mem_of_head? hhead)) rfl

theorem neat_variant (h : Neat stem.toList) (k : Nat) : Neat (variant stem k).toList := by
  have hdigits : ∀ c ∈ Nat.toDigits 10 k, c.isAlphanum = true := fun c hc => by
    rw [Char.isAlphanum, Nat.isDigit_of_mem_toDigits (by decide) (by decide) hc, Bool.or_true]
  rw [toList_variant]
  refine h.join (neat_of_isAlphanum hdigits) Nat.toDigits_ne_nil fun hhead => ?_
  exact ne_underscore (hdigits _ (List.mem_of_head? hhead)) rfl

/-- A plain name without two underscores in a row and without one at the end. -/
structure Tidy (name : String) : Prop extends Plain name where
  single : ¬ ['_', '_'] <:+: name.toList
  stop : name.toList.getLast? ≠ some '_'

theorem Plain.tidy {name : String} (h : Plain name) (hneat : Neat name.toList) : Tidy name := by
  refine ⟨h, fun hinfix => ?_, hneat.stop⟩
  have hchain := hneat.single.infix hinfix
  exact absurd hchain (by simp)

/-- Whatever the id and the names that are taken, the name that is made is tidy. -/
theorem tidy_fresh (taken : List String) (id : String) {socket : String}
    (h : ∀ c ∈ socket.toList, c.isAlphanum = true) (hne : socket.toList ≠ []) :
    Tidy (fresh taken (base id socket)) := by
  refine (plain_fresh (plain_base id h)).tidy ?_
  obtain heq | ⟨k, heq⟩ := fresh_cases taken (base id socket)
  · rw [heq]
    exact neat_base id h hne
  · rw [heq]
    exact neat_variant (neat_base id h hne) k

end Heightfield.Identifier
