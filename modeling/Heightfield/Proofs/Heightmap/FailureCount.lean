import Heightfield.Proofs.Heightmap.Rejection
import Mathlib.Data.List.Dedup
import Mathlib.Data.List.Destutter

/-!
# Counting failures

A generator counts the builds that fail and reports each in the log. It remembers one source that
failed, and only until another one is tried: so a source that is submitted again at once is refused
without a new failure, but a source that is submitted again after others fails again.

* `Generator.attempts` are the sources that are tried in a run, with what became of each.
* `Generator.counted` are the failures among them, those in a row counted once.
* `Generator.Remembers` ties the memory of a generator to the attempts;
  `Generator.Remembers.perform` is the step and `Generator.Remembers.run` the run.
* `Generator.Steady` says that nothing else is tried between two failures of a source.
* `Generator.run_failures` is the main result, and `Generator.run_failures_twice` a source that is
  reported twice.
-/

namespace Heightfield

/-! ## Rows without repetitions -/

section Destutter

variable {α : Type} [DecidableEq α] {l : List α}

theorem destutter'_concat (a b : α) (l : List α) :
    (l ++ [b]).destutter' (· ≠ ·) a =
      if (a :: l).getLast? = some b then l.destutter' (· ≠ ·) a
      else l.destutter' (· ≠ ·) a ++ [b] := by
  induction l generalizing a with
  | nil => by_cases h : a = b <;> simp [h]
  | cons c rest ih =>
    have hlast : (a :: c :: rest).getLast? = (c :: rest).getLast? := List.getLast?_cons_cons
    rw [List.cons_append, hlast]
    by_cases h : a = c
    · subst h
      rw [List.destutter'_cons_neg _ (not_not_intro rfl), ih,
        List.destutter'_cons_neg _ (not_not_intro rfl)]
    · rw [List.destutter'_cons_pos _ h, ih, List.destutter'_cons_pos _ h]
      split <;> rfl

/-- One more entry counts if it differs from the last one. -/
theorem destutter_concat (l : List α) (a : α) :
    (l ++ [a]).destutter (· ≠ ·) =
      if l.getLast? = some a then l.destutter (· ≠ ·) else l.destutter (· ≠ ·) ++ [a] := by
  cases l with
  | nil => rfl
  | cons b rest => exact destutter'_concat b a rest

theorem mem_destutter {a : α} : a ∈ l.destutter (· ≠ ·) ↔ a ∈ l := by
  induction l using List.reverseRecOn with
  | nil => simp
  | append_singleton l b ih =>
    rw [destutter_concat]
    split
    next hlast =>
      rw [ih, List.mem_append, List.mem_singleton]
      exact ⟨.inl, fun h => h.elim id fun h => h ▸ List.mem_of_getLast? hlast⟩
    next => rw [List.mem_append, List.mem_append, ih]

end Destutter

/-- The source of the failure that a record tells of. -/
def Notice.failed? : Notice → Option String
  | .rejected source => some source
  | _ => none

namespace Generator

variable {g start : Generator} {c : HeightmapConfig} {adapter : Adapter}

/-! ## Attempts -/

/-- A source that is tried, and what becomes of it. -/
abbrev Attempt := String × ShaderUpdate

/-- The sources of the failures that are reported. -/
def reported (notices : List Notice) : List String :=
  notices.filterMap Notice.failed?

/-- What an operation tries: the source that is submitted, if it is not the installed one. -/
def tried (g : Generator) : Operation → List Attempt
  | .update graph precompiled =>
    let answer := (g.update graph precompiled).1
    if answer = .unchanged then [] else [((g.submitted graph precompiled).source, answer)]
  | .setTime _ | .render => []

/-- What is tried in a run. -/
def attempts (g : Generator) : List Operation → List Attempt
  | [] => []
  | operation :: rest => g.tried operation ++ (g.perform operation).attempts rest

/-- The records of an operation. -/
def notices (g : Generator) : Operation → List Notice
  | .update graph precompiled => (g.update graph precompiled).2.2
  | .setTime _ | .render => []

/-- The records of a run. -/
def log (g : Generator) : List Operation → List Notice
  | [] => []
  | operation :: rest => g.notices operation ++ (g.perform operation).log rest

/-- The sources that are refused. -/
def refused (history : List Attempt) : List String :=
  (history.filter (·.2 = .rejected)).map (·.1)

/-- The failures that count: a source that is refused several times in a row fails once. -/
def counted (history : List Attempt) : List String :=
  refused (history.destutter (· ≠ ·))

/-- Nothing else is tried between two refusals of a source. -/
def Steady (history : List Attempt) : Prop :=
  ∀ before middle after attempt, history = before ++ attempt :: (middle ++ attempt :: after) →
    attempt.2 = .rejected → ∀ other ∈ middle, other = attempt

/-! ## Histories -/

variable {history : List Attempt} {attempt : Attempt} {source : String}

theorem counted_nil : counted [] = [] := rfl

theorem mem_refused : source ∈ refused history ↔ (source, .rejected) ∈ history := by
  simp [refused]

theorem mem_counted : source ∈ counted history ↔ source ∈ refused history := by
  rw [counted, mem_refused, mem_refused, mem_destutter]

/-- The same attempt again does not count. -/
theorem counted_concat_of_eq (h : history.getLast? = some attempt) :
    counted (history ++ [attempt]) = counted history := by
  rw [counted, destutter_concat, if_pos h, counted]

/-- An attempt that does not fail does not count. -/
theorem counted_concat_of_ne (h : attempt.2 ≠ .rejected) :
    counted (history ++ [attempt]) = counted history := by
  rw [counted, destutter_concat]
  split
  next => rfl
  next => simp [refused, counted, h]

/-- Another attempt that fails counts. -/
theorem counted_concat (h : history.getLast? ≠ some (source, .rejected)) :
    counted (history ++ [(source, .rejected)]) = counted history ++ [source] := by
  rw [counted, destutter_concat, if_neg h]
  simp [refused, counted]

/-- The last attempt is refused again only right after itself. -/
def RefusedInRow (history : List Attempt) (attempt : Attempt) : Prop :=
  attempt.2 = .rejected → attempt ∈ history → history.getLast? = some attempt

theorem nodup_counted_concat_iff : (counted (history ++ [attempt])).Nodup ↔
    (counted history).Nodup ∧ RefusedInRow history attempt := by
  by_cases hfailed : attempt.2 = .rejected
  · obtain ⟨source, _⟩ := attempt
    obtain rfl : _ = ShaderUpdate.rejected := hfailed
    by_cases hlast : history.getLast? = some (source, .rejected)
    · rw [counted_concat_of_eq hlast]
      exact (and_iff_left fun _ _ => hlast).symm
    · rw [counted_concat hlast, ← List.concat_eq_append, List.nodup_concat, mem_counted,
        mem_refused, and_comm]
      exact and_congr_right fun _ =>
        ⟨fun hnot _ hmem => absurd hmem hnot, fun hrow hmem => hlast (hrow rfl hmem)⟩
  · rw [counted_concat_of_ne hfailed]
    exact (and_iff_left fun h => absurd h hfailed).symm

theorem steady_concat_iff : Steady (history ++ [attempt]) ↔
    Steady history ∧ RefusedInRow history attempt := by
  constructor
  · intro h
    refine ⟨fun before middle after other heq => ?_, fun hfailed hmem => ?_⟩
    · refine h before middle (after ++ [attempt]) other ?_
      simp [heq]
    · -- from the last place of the attempt on, the history has nothing else
      obtain ⟨before, middle, rfl⟩ := List.append_of_mem hmem
      have hmiddle := h before middle [] attempt (by simp) hfailed
      rcases List.eq_nil_or_concat middle with rfl | ⟨middle, other, rfl⟩
      · exact List.getLast?_concat
      · rw [hmiddle other (by simp), List.concat_eq_append, ← List.cons_append,
          ← List.append_assoc, List.getLast?_concat]
  · rintro ⟨hsteady, hrow⟩ before middle after other heq hfailed
    rcases List.eq_nil_or_concat after with rfl | ⟨after, last, rfl⟩
    · rw [← List.cons_append, ← List.append_assoc, List.append_singleton_inj] at heq
      obtain ⟨rfl, rfl⟩ := heq
      have hlast := hrow hfailed (by simp)
      -- what stands in the middle ends with the attempt, so it has it on both sides
      rcases List.eq_nil_or_concat middle with rfl | ⟨middle, other, rfl⟩
      · exact nofun
      · rw [List.concat_eq_append, ← List.cons_append, ← List.append_assoc, List.getLast?_concat,
          Option.some.injEq] at hlast
        subst hlast
        intro y hy
        rw [List.concat_eq_append, List.mem_append, List.mem_singleton] at hy
        exact hy.elim (hsteady before middle [] other (by simp) hfailed y) id
    · refine hsteady before middle after other ?_ hfailed
      rw [List.concat_eq_append, ← List.cons_append, ← List.append_assoc, ← List.cons_append,
        ← List.append_assoc, List.append_singleton_inj] at heq
      simpa using heq.1

/-- The sources of the failures that count are distinct if and only if nothing else is tried between
two refusals of a source. -/
theorem nodup_counted_iff : (counted history).Nodup ↔ Steady history := by
  induction history using List.reverseRecOn with
  | nil => exact iff_of_true List.nodup_nil fun before _ _ _ h => by simp at h
  | append_singleton history attempt ih =>
    rw [nodup_counted_concat_iff, steady_concat_iff, ih]

/-- As many failures count as there are refused sources if and only if their sources are
distinct. -/
theorem length_counted_eq_iff :
    (counted history).length = (refused history).dedup.length ↔ (counted history).Nodup := by
  have hperm : (refused history).dedup.Perm (counted history).dedup :=
    (List.perm_ext_iff_of_nodup (List.nodup_dedup _) (List.nodup_dedup _)).mpr fun source => by
      rw [List.mem_dedup, List.mem_dedup, mem_counted]
  rw [hperm.length_eq, ← List.dedup_eq_self]
  constructor
  · exact fun h => (List.dedup_sublist _).eq_of_length h.symm
  · exact fun h => by rw [h]

/-! ## The memory of a generator -/

/-- The memory of a generator is that of a history: it knows the last attempt if that failed, which
is not what is installed, and it has counted the failures. -/
structure Remembers (g : Generator) (history : List Attempt) : Prop where
  last : ∀ source, g.rejectedSource = some source ↔ history.getLast? = some (source, .rejected)
  other : ∀ source, g.rejectedSource = some source → source ≠ g.installedSource
  failures : g.failures = (counted history).length

/-- A new generator remembers nothing. -/
theorem Remembers.of_create (h : (create c adapter).2 = .ok g) : g.Remembers [] := by
  obtain ⟨-, rfl⟩ := eq_blank_of_create h
  exact ⟨fun _ => by simp [blank], nofun, rfl⟩

/-- A failure is reported if and only if it is counted. -/
theorem reported_submit (g : Generator) (shader : CompiledShader) :
    reported (g.submit shader).2.2 =
      if (g.submit shader).2.1.failures = g.failures then [] else [shader.source] := by
  unfold submit
  split
  next => exact (if_pos rfl).symm
  next =>
  split
  next => exact (if_pos rfl).symm
  next =>
  split
  next => exact (if_pos rfl).symm
  next => exact (if_neg (Nat.succ_ne_self _)).symm

/-- The choice of what is submitted reports no failure. -/
theorem reported_update (g : Generator) (graph : Graph) (precompiled : Option CompiledShader) :
    reported (g.update graph precompiled).2.2 =
      reported (g.submit (g.submitted graph precompiled)).2.2 := by
  have hignored : reported (g.submission graph precompiled).2 = [] := by
    cases precompiled with
    | none => rfl
    | some shader =>
      rw [submission]
      split <;> rfl
  have hnotices : (g.update graph precompiled).2.2 = (g.submission graph precompiled).2 ++
      (g.submit (g.submission graph precompiled).1).2.2 := rfl
  rw [hnotices, reported, List.filterMap_append, ← reported, hignored, List.nil_append,
    submission_fst, ← reported]

/-- A step: an operation adds what it tries to the history. -/
theorem Remembers.perform (h : g.Remembers history) (operation : Operation) :
    (g.perform operation).Remembers (history ++ g.tried operation) ∧
      counted (history ++ g.tried operation) =
        counted history ++ reported (g.notices operation) := by
  cases operation with
  | update graph precompiled =>
    obtain ⟨_, hupdate⟩ := g.update_eq_submit graph precompiled
    have hreported := g.reported_update graph precompiled
    rw [reported_submit] at hreported
    rw [Generator.perform, tried, notices, hreported, hupdate]
    obtain ⟨-, heq⟩ | ⟨-, hfailed, heq⟩ | ⟨-, -, -, _, heq⟩ | ⟨hne, hfailed, -, _, heq⟩ :=
      g.submit_outcomes (g.submitted graph precompiled)
    · simpa [heq] using h
    · -- the source failed last, so nothing happens
      have hlast := (h.last _).mp hfailed
      simp only [heq, reduceCtorEq, if_false, if_true, List.append_nil]
      refine ⟨⟨fun source => ?_, h.other, ?_⟩, counted_concat_of_eq hlast⟩
      · rw [hfailed, List.getLast?_concat]
        simp
      · rw [counted_concat_of_eq hlast, h.failures]
    · simp only [heq, install, reduceCtorEq, if_false, if_true, List.append_nil]
      have hcounted : counted (history ++ [((g.submitted graph precompiled).source, .installed)]) =
          counted history := counted_concat_of_ne (by simp)
      refine ⟨⟨fun source => ?_, by simp, ?_⟩, hcounted⟩
      · rw [List.getLast?_concat]
        simp
      · rw [hcounted, h.failures]
    · have hcounted := counted_concat (mt (h.last _).mpr hfailed)
      simp only [heq, remember, reduceCtorEq, if_false, Nat.succ_ne_self]
      refine ⟨⟨fun source => ?_, fun source hsource => ?_, ?_⟩, hcounted⟩
      · rw [List.getLast?_concat]
        simp
      · exact Option.some.inj hsource ▸ hne
      · rw [hcounted, List.length_append, h.failures, List.length_singleton]
  | setTime time =>
    rw [tried, notices, List.append_nil]
    exact ⟨⟨h.last, h.other, h.failures⟩, (List.append_nil _).symm⟩
  | render =>
    obtain ⟨registers, pixels, heq⟩ := g.render_keeps
    rw [tried, notices, List.append_nil, Generator.perform, heq]
    exact ⟨⟨h.last, h.other, h.failures⟩, (List.append_nil _).symm⟩

/-- A run adds what is tried to the history, and reports the failures that count. -/
theorem Remembers.run (h : g.Remembers history) (operations : List Operation) :
    (g.run operations).Remembers (history ++ g.attempts operations) ∧
      counted (history ++ g.attempts operations) =
        counted history ++ reported (g.log operations) := by
  induction operations generalizing g history with
  | nil => simpa [run, attempts, log, reported] using h
  | cons operation rest ih =>
    obtain ⟨hstep, hreported⟩ := h.perform operation
    obtain ⟨hrun, hrest⟩ := ih hstep
    rw [attempts, ← List.append_assoc]
    refine ⟨hrun, ?_⟩
    rw [hrest, hreported, log, reported, reported, reported, List.filterMap_append,
      List.append_assoc]

/-- What is tried last and fails is refused without a word, as long as nothing else is tried. -/
theorem Remembers.update_again (h : g.Remembers history) {graph : Graph}
    {precompiled : Option CompiledShader}
    (hlast : history.getLast? = some ((g.submitted graph precompiled).source, .rejected)) :
    (g.update graph precompiled).1 = .rejected ∧ (g.update graph precompiled).2.1 = g ∧
      reported (g.update graph precompiled).2.2 = [] := by
  have hfailed := (h.last _).mpr hlast
  have hsubmit : g.submit (g.submitted graph precompiled) = (.rejected, g, []) := by
    rw [submit, if_neg (h.other _ hfailed), if_pos hfailed]
  obtain ⟨_, hupdate⟩ := g.update_eq_submit graph precompiled
  rw [reported_update, hupdate, hsubmit]
  exact ⟨rfl, rfl, rfl⟩

/-- **A failure is reported once, as long as nothing else is tried.** In every run of a new
generator, the failures are counted as they are reported, each once for the refusals of a source in
a row. There are as many as there are refused sources if and only if nothing else is tried between
two refusals of a source; and a source that was refused last is refused again without a change and
without a report. -/
theorem run_failures (h : (create c adapter).2 = .ok start) (operations : List Operation) :
    let g := start.run operations
    let history := start.attempts operations
    reported (start.log operations) = counted history ∧
    g.failures = (reported (start.log operations)).length ∧
    (g.failures = (refused history).dedup.length ↔ Steady history) ∧
    ∀ graph precompiled,
      history.getLast? = some ((g.submitted graph precompiled).source, .rejected) →
        (g.update graph precompiled).1 = .rejected ∧ (g.update graph precompiled).2.1 = g ∧
          reported (g.update graph precompiled).2.2 = [] := by
  intro g history
  obtain ⟨hmemory, hreported⟩ := (Remembers.of_create h).run operations
  have hlog : reported (start.log operations) = counted history := hreported.symm
  have hfailures : g.failures = (counted history).length := hmemory.failures
  refine ⟨hlog, ?_, ?_, fun _ _ => hmemory.update_again⟩
  · rw [hfailures, hlog]
  · rw [hfailures, length_counted_eq_iff, nodup_counted_iff]

/-! ## Garbled shaders -/

/-- The empty graph's own shader with more text behind it. -/
def garbled (text : String) : CompiledShader :=
  { compile {} ⟨false, .wgsl⟩ with source := (compile {} ⟨false, .wgsl⟩).source ++ text }

/-- Garbled shaders are submitted in turn. -/
def garblings (texts : List String) : List Operation :=
  texts.map fun text => .update {} (some (garbled text))

theorem garbled_injective : Function.Injective fun text => (garbled text).source := by
  intro s t h
  simp only [garbled, ← String.toList_inj, String.toList_append, List.append_cancel_left_eq] at h
  exact String.toList_inj.mp h

@[simp] theorem dialect_garbled (text : String) : (garbled text).dialect = .wgsl := rfl

theorem submitted_garbled (g : Generator) (graph : Graph) (text : String) :
    g.submitted graph (some (garbled text)) = garbled text := by
  rw [submitted, if_pos (dialect_garbled text)]

/-- A garbled shader is not the one that a new generator starts with. -/
theorem garbled_ne_placeholder {text : String} (h : text ≠ "") :
    (garbled text).source ≠ (Program.constant .zero false).source .wgsl := by
  intro heq
  have hlower : lower { nodes := [⟨"o", .output, [], 0, 0⟩] } false = .constant .zero false := rfl
  rw [← hlower] at heq
  simp only [garbled, compile] at heq
  exact h (eq_empty_of_source_lower_append heq)

/-- A garbled shader cannot be built. -/
theorem garbled_ne_program {text : String} (h : text ≠ "") :
    (garbled text).program.source .wgsl ≠ (garbled text).source := by
  intro heq
  simp only [garbled, compile] at heq
  exact h (eq_empty_of_source_lower_append heq.symm)

/-- Garbled shaders are all tried and refused. -/
theorem attempts_garblings {texts : List String} (h : ∀ text ∈ texts, text ≠ "")
    (hg : g.installedSource = (Program.constant .zero false).source .wgsl) :
    g.attempts (garblings texts) = texts.map fun text => ((garbled text).source, .rejected) := by
  induction texts generalizing g with
  | nil => rfl
  | cons text rest ih =>
    rw [List.forall_mem_cons] at h
    have hne : (garbled text).source ≠ g.installedSource := hg ▸ garbled_ne_placeholder h.1
    have hlabel := garbled_ne_program h.1
    obtain ⟨-, hinstalled, -⟩ :=
      g.perform_mislabelled {} (garbled text) (dialect_garbled text) hne hlabel
    have hsubmitted := g.submitted_garbled {} text
    have hanswer : (g.update {} (some (garbled text))).1 = .rejected := by
      obtain ⟨_, hupdate⟩ := g.update_eq_submit {} (some (garbled text))
      rw [hupdate, hsubmitted]
      obtain ⟨hsame, -⟩ | ⟨-, -, heq⟩ | ⟨-, -, hsource, -⟩ | ⟨-, -, -, _, heq⟩ :=
        g.submit_outcomes (garbled text)
      · exact absurd hsame hne
      · rw [heq]
      · exact absurd hsource hlabel
      · rw [heq]
    rw [garblings, List.map_cons, attempts, ← garblings, ih h.2 (hinstalled.trans hg), tried,
      hanswer, hsubmitted]
    rfl

theorem refused_garblings (texts : List String) :
    refused (texts.map fun text => ((garbled text).source, .rejected)) =
      texts.map fun text => (garbled text).source := by
  simp [refused, List.filter_map, Function.comp_def]

/-- Of garbled shaders, those count that differ from the one before. -/
theorem counted_garblings (texts : List String) :
    counted (texts.map fun text => ((garbled text).source, .rejected)) =
      (texts.destutter (· ≠ ·)).map fun text => (garbled text).source := by
  have hinjective : Function.Injective fun text : String =>
      (((garbled text).source, .rejected) : Attempt) :=
    fun s t h => garbled_injective (Prod.mk.inj h).1
  rw [counted, ← List.map_destutter_ne _ hinjective, refused_garblings]

/-- A new generator tries all garbled shaders. -/
theorem attempts_create {texts : List String} (h : ∀ text ∈ texts, text ≠ "")
    (hcreate : (create small).2 = .ok start) :
    start.attempts (garblings texts) =
      texts.map fun text => ((garbled text).source, .rejected) := by
  refine attempts_garblings h ?_
  obtain ⟨-, rfl⟩ := eq_blank_of_create hcreate
  rfl

/-- A garbled shader that is submitted again at once is refused without a word. -/
theorem run_failures_garbled : ∃ start, (create small).2 = .ok start ∧
    let operations := garblings ["x", "y", "y"]
    let outcome := (start.run operations).update {} (some (garbled "y"))
    (start.run operations).failures = 2 ∧
      (refused (start.attempts operations)).dedup.length = 2 ∧
      Steady (start.attempts operations) ∧ outcome.1 = .rejected ∧
      outcome.2.1 = start.run operations := by
  obtain ⟨start, hcreate⟩ := create_small
  obtain ⟨hlog, hfailures, hsteady, hagain⟩ := run_failures hcreate (garblings ["x", "y", "y"])
  have hattempts := attempts_create (by decide : ∀ text ∈ ["x", "y", "y"], text ≠ "") hcreate
  have hcount : (counted (start.attempts (garblings ["x", "y", "y"]))).length = 2 := by
    rw [hattempts, counted_garblings, List.length_map]
    decide
  have hdistinct : (refused (start.attempts (garblings ["x", "y", "y"]))).dedup.length = 2 := by
    rw [hattempts, refused_garblings, List.dedup_map_of_injective garbled_injective,
      List.length_map]
    decide
  rw [hlog, hcount] at hfailures
  rw [hfailures, hdistinct] at hsteady
  obtain ⟨hrejected, hsame, -⟩ := hagain {} (some (garbled "y"))
    (by rw [submitted_garbled, hattempts]; rfl)
  exact ⟨start, hcreate, hfailures, hdistinct, hsteady.mp rfl, hrejected, hsame⟩

/-- A source that is submitted again after another one fails again and is reported again. -/
theorem run_failures_twice : ∃ start, (create small).2 = .ok start ∧
    let operations := garblings ["x", "y", "x"]
    (start.run operations).failures = 3 ∧
      (refused (start.attempts operations)).dedup.length = 2 ∧
      reported (start.log operations) =
        [(garbled "x").source, (garbled "y").source, (garbled "x").source] := by
  obtain ⟨start, hcreate⟩ := create_small
  obtain ⟨hmemory, hreported⟩ :=
    (Remembers.of_create hcreate).run (garblings ["x", "y", "x"])
  have hattempts := attempts_create (by decide : ∀ text ∈ ["x", "y", "x"], text ≠ "") hcreate
  have hfailures : (start.run (garblings ["x", "y", "x"])).failures = 3 := by
    rw [hmemory.failures, List.nil_append, hattempts, counted_garblings, List.length_map]
    decide
  have hchanges : ["x", "y", "x"].destutter (· ≠ ·) = ["x", "y", "x"] := by decide
  rw [List.nil_append, counted_nil, List.nil_append, hattempts, counted_garblings, hchanges,
    List.map_cons, List.map_cons, List.map_singleton] at hreported
  have hdistinct : (refused (start.attempts (garblings ["x", "y", "x"]))).dedup.length = 2 := by
    rw [hattempts, refused_garblings, List.dedup_map_of_injective garbled_injective,
      List.length_map]
    decide
  exact ⟨start, hcreate, hfailures, hdistinct, hreported.symm⟩

end Generator
end Heightfield
