import Heightfield.Proofs.Number.Overflow
import Heightfield.Proofs.Pipeline.Invariant

/-!
# The time of a pipeline

Steps and speeds that are no finite numbers are left out, but the product of a step and the speed
may overflow, and so may the sum with the time that has passed. The time is finite for as long as
neither happens; from then on it is not.

* `Pipeline.reports` are the reports of the frames of a run.
* `Pipeline.Overflows` says when a step takes the time out of the range.
* `Pipeline.run_time` says of every run when all times that it reports are finite, and what the next
  step does to the time.
* `Pipeline.run_time_infinite` is a run of two finite steps after which the time is infinite.
-/

namespace Heightfield

open Number (Fits Nearest value)

/-- Time passes at a finite speed. -/
theorem Graph.isFinite_timeSpeed (g : Graph) : g.timeSpeed.isFinite = true := by
  unfold timeSpeed
  generalize h : g.nodes.findSome? _ = speed?
  cases speed? with
  | none => decide
  | some speed =>
    obtain ⟨n, -, hn⟩ := List.exists_of_findSome?_eq_some h
    split at hn
    · split at hn
      · next hfinite =>
        obtain rfl := Option.some.inj hn
        exact hfinite
      · cases hn
    · cases hn

namespace Pipeline

variable {p : Pipeline} {g : Generator} {dt : Float32}

/-! ## Reports -/

/-- The report of the frame that an operation renders, if it renders one. -/
def report? (p : Pipeline) : Operation → Option FrameReport
  | .frame dt => (p.frame dt).1.toOption
  | .renderCurrent => p.renderCurrent.1.toOption
  | .setGraph _ | .requestResolution _ => none

/-- The reports of the frames of a run, in turn. -/
def reports (p : Pipeline) : List Operation → List FrameReport
  | [] => []
  | operation :: rest => (p.report? operation).toList ++ (p.perform operation).reports rest

/-- The time after an operation. -/
def elapsedAfter (p : Pipeline) : Operation → Float32
  | .frame dt => (p.advance dt).elapsed
  | _ => p.elapsed

/-- A frame of a running pipeline reports the time and leaves it. -/
theorem Running.time_renderCurrent (h : p.Running g) :
    ∃ report, p.renderCurrent.1 = .ok report ∧ report.time = p.elapsed ∧
      p.renderCurrent.2.1.elapsed = p.elapsed := by
  obtain ⟨mesh, -, heq, -⟩ := h.renderCurrent_eq
  rw [heq]
  exact ⟨_, rfl, rfl, rfl⟩

theorem Running.elapsed_perform (h : p.Running g) (operation : Operation) :
    (p.perform operation).elapsed = p.elapsedAfter operation := by
  cases operation with
  | setGraph graph => rfl
  | requestResolution n =>
    by_cases hn : n = p.resolution
    · have hsame : p.requestResolution n = (.ok (), p, []) := if_pos (by simp [hn, h.generator])
      rw [Pipeline.perform, hsame]
      rfl
    by_cases hrefuses : p.Refuses n
    · obtain ⟨e, hfails⟩ := h.requestResolution_of_refuses hn hrefuses
      rw [Pipeline.perform, hfails]
      rfl
    · obtain ⟨notices, hsucceeds, -⟩ := h.requestResolution_of_not_refuses hn hrefuses
      rw [Pipeline.perform, hsucceeds]
      rfl
  | frame dt =>
    obtain ⟨report, -, -, helapsed⟩ := (h.advance dt).time_renderCurrent
    exact helapsed
  | renderCurrent =>
    obtain ⟨report, -, -, helapsed⟩ := h.time_renderCurrent
    exact helapsed

/-- Every report is of the time after its operation. -/
theorem Running.time_report? (h : p.Running g) {operation : Operation} {report : FrameReport}
    (hreport : report ∈ p.report? operation) : report.time = p.elapsedAfter operation := by
  cases operation with
  | setGraph graph => cases hreport
  | requestResolution n => cases hreport
  | frame dt =>
    obtain ⟨report', hok, htime, -⟩ := (h.advance dt).time_renderCurrent
    rw [report?, frame, hok] at hreport
    obtain rfl := Option.some.inj hreport
    exact htime
  | renderCurrent =>
    obtain ⟨report', hok, htime, -⟩ := h.time_renderCurrent
    rw [report?, hok] at hreport
    obtain rfl := Option.some.inj hreport
    exact htime

/-- A step of time is reported. -/
theorem Running.exists_report_frame (h : p.Running g) (dt : Float32) :
    ∃ report ∈ p.report? (.frame dt), report.time = (p.advance dt).elapsed := by
  obtain ⟨report, hok, htime, -⟩ := (h.advance dt).time_renderCurrent
  exact ⟨report, by rw [report?, frame, hok]; rfl, htime⟩

/-! ## Steps out of the range -/

/-- A step takes the time out of the range: the product with the speed is out of it, or the sum with
the time that has passed. -/
def Overflows (p : Pipeline) (dt : Float32) : Prop :=
  dt.isFinite = true ∧ ¬ (Fits (value dt * value p.graph.timeSpeed) ∧
    Fits (value p.elapsed + value (dt * p.graph.timeSpeed)))

/-- The operation is a step out of the range. -/
def Operation.Overflows (p : Pipeline) : Operation → Prop
  | .frame dt => p.Overflows dt
  | _ => False

theorem elapsed_advance (p : Pipeline) (hdt : dt.isFinite = true) :
    (p.advance dt).elapsed = p.elapsed + dt * p.graph.timeSpeed := by
  rw [advance, if_pos hdt]

/-- The time is finite after a step just if it was so before and the step does not overflow. -/
theorem isFinite_elapsed_advance (p : Pipeline) (dt : Float32) :
    (p.advance dt).elapsed.isFinite = true ↔ p.elapsed.isFinite = true ∧ ¬ p.Overflows dt := by
  unfold advance Overflows
  split
  next hdt =>
    rw [Number.isFinite_add_iff, Number.isFinite_mul_iff]
    simp [hdt, p.graph.isFinite_timeSpeed]
  next hdt => simp [hdt]

theorem isFinite_elapsedAfter (p : Pipeline) (operation : Operation) :
    (p.elapsedAfter operation).isFinite = true ↔
      p.elapsed.isFinite = true ∧ ¬ operation.Overflows p := by
  cases operation with
  | frame dt => exact p.isFinite_elapsed_advance dt
  | _ => simp [elapsedAfter, Operation.Overflows]

/-! ## Runs -/

theorem reports_cons (p : Pipeline) (operation : Operation) (rest : List Operation) :
    p.reports (operation :: rest) =
      (p.report? operation).toList ++ (p.perform operation).reports rest := rfl

/-- Once the time is not finite, no later frame reports a finite time. -/
theorem Running.not_isFinite_reports (h : p.Running g) (helapsed : p.elapsed.isFinite = false)
    (operations : List Operation) :
    ∀ report ∈ p.reports operations, report.time.isFinite = false := by
  induction operations generalizing p g with
  | nil => nofun
  | cons operation rest ih =>
    have hafter : (p.elapsedAfter operation).isFinite = false := by
      rw [← Bool.not_eq_true, isFinite_elapsedAfter, helapsed]
      simp
    intro report hreport
    rw [reports_cons, List.mem_append, Option.mem_toList] at hreport
    rcases hreport with hreport | hreport
    · rw [h.time_report? hreport]
      exact hafter
    · obtain ⟨g', h'⟩ := h.perform operation
      rw [← h.elapsed_perform] at hafter
      exact ih h'.running hafter report hreport

theorem Running.pairwise_reports (h : p.Running g) (operations : List Operation) :
    (p.reports operations).Pairwise fun earlier later =>
      earlier.time.isFinite = false → later.time.isFinite = false := by
  induction operations generalizing p g with
  | nil => exact .nil
  | cons operation rest ih =>
    obtain ⟨g', h'⟩ := h.perform operation
    rw [reports_cons, List.pairwise_append]
    refine ⟨?_, ih h'.running, fun earlier hearlier later hlater hinfinite => ?_⟩
    · cases p.report? operation with
      | none => exact .nil
      | some report => exact List.pairwise_singleton _ _
    · rw [Option.mem_toList] at hearlier
      rw [h.time_report? hearlier, ← h.elapsed_perform] at hinfinite
      exact h'.running.not_isFinite_reports hinfinite rest later hlater

/-- A step that overflows is seen in the report of its frame. -/
theorem Running.exists_report_of_overflows (h : p.Running g) {operation : Operation}
    (hoverflows : operation.Overflows p) :
    ∃ report ∈ p.report? operation, report.time.isFinite = false := by
  cases operation with
  | frame dt =>
    obtain ⟨report, hreport, htime⟩ := h.exists_report_frame dt
    refine ⟨report, hreport, ?_⟩
    rw [htime, ← Bool.not_eq_true, isFinite_elapsed_advance]
    exact fun hfinite => hfinite.2 hoverflows
  | _ => exact hoverflows.elim

/-- From a finite time on, the times that are reported stay finite for as long as no step
overflows. -/
theorem Running.isFinite_reports_iff (h : p.Running g) (helapsed : p.elapsed.isFinite = true)
    (operations : List Operation) :
    (∀ report ∈ p.reports operations, report.time.isFinite = true) ↔
      ∀ before operation after, operations = before ++ operation :: after →
        ¬ operation.Overflows (p.run before) := by
  induction operations generalizing p g with
  | nil =>
    refine iff_of_true nofun fun before operation after heq => ?_
    exact absurd heq.symm (List.append_ne_nil_of_right_ne_nil _ (List.cons_ne_nil _ _))
  | cons first rest ih =>
    by_cases hfirst : first.Overflows p
    · obtain ⟨report, hreport, hinfinite⟩ := h.exists_report_of_overflows hfirst
      refine iff_of_false (fun hall => ?_) fun hall => hall [] first rest rfl hfirst
      have hfinite := hall report (List.mem_append_left _ (Option.mem_toList.mpr hreport))
      exact absurd hfinite (by rw [hinfinite]; decide)
    · obtain ⟨g', h'⟩ := h.perform first
      have hafter := (p.isFinite_elapsedAfter first).mpr ⟨helapsed, hfirst⟩
      have hhead : ∀ report ∈ (p.report? first).toList, report.time.isFinite = true := by
        intro report hreport
        rw [h.time_report? (Option.mem_toList.mp hreport)]
        exact hafter
      rw [← h.elapsed_perform] at hafter
      rw [reports_cons]
      constructor
      · intro hall before operation after heq
        have htail := (ih h'.running hafter).mp fun report hreport =>
          hall report (List.mem_append_right _ hreport)
        cases before with
        | nil =>
          obtain ⟨rfl, rfl⟩ := List.cons.inj heq
          exact hfirst
        | cons head before =>
          obtain ⟨rfl, rfl⟩ := List.cons.inj heq
          exact htail before operation after rfl
      · intro hall report hreport
        rcases List.mem_append.mp hreport with hreport | hreport
        · exact hhead report hreport
        · refine (ih h'.running hafter).mpr (fun before operation after heq => ?_) report hreport
          exact hall (first :: before) operation after (by rw [heq]; rfl)

/-! ## The next step -/

/-- How time passes from a finite time on. -/
structure Passes (p : Pipeline) : Prop where
  /-- a step that does not overflow adds its product with the speed, both rounded to nearest -/
  step : ∀ dt, dt.isFinite = true → ¬ p.Overflows dt → ∃ report, (p.frame dt).1 = .ok report ∧
    report.time.isFinite = true ∧
    Nearest (value dt * value p.graph.timeSpeed) (dt * p.graph.timeSpeed) ∧
    Nearest (value p.elapsed + value (dt * p.graph.timeSpeed)) report.time
  /-- a step that is no finite number is left out -/
  skip : ∀ dt, dt.isFinite = false → ∃ report, (p.frame dt).1 = .ok report ∧
    report.time = p.elapsed
  /-- at the speed one there is a step that moves the pattern -/
  move : value p.graph.timeSpeed = 1 → ∃ dt report, dt.isFinite = true ∧
    (p.frame dt).1 = .ok report ∧ report.time.isFinite = true ∧
    value report.time ≠ value p.elapsed

theorem Running.step (h : p.Running g) (helapsed : p.elapsed.isFinite = true)
    (hdt : dt.isFinite = true) (hfits : ¬ p.Overflows dt) :
    ∃ report, (p.frame dt).1 = .ok report ∧ report.time.isFinite = true ∧
      Nearest (value dt * value p.graph.timeSpeed) (dt * p.graph.timeSpeed) ∧
      Nearest (value p.elapsed + value (dt * p.graph.timeSpeed)) report.time := by
  obtain ⟨report, hok, htime, -⟩ := (h.advance dt).time_renderCurrent
  have hfinite := (p.isFinite_elapsed_advance dt).mpr ⟨helapsed, hfits⟩
  have hadvance := p.elapsed_advance hdt
  have hstep : (dt * p.graph.timeSpeed).isFinite = true := by
    rw [hadvance, Number.isFinite_add_iff] at hfinite
    exact hfinite.2.1
  refine ⟨report, hok, htime ▸ hfinite, Number.nearest_mul hdt p.graph.isFinite_timeSpeed, ?_⟩
  rw [htime, hadvance]
  exact Number.nearest_add helapsed hstep

/-- At the speed one a step is added as it is. -/
theorem Running.step_of_speed_one (h : p.Running g) (helapsed : p.elapsed.isFinite = true)
    (hspeed : value p.graph.timeSpeed = 1) (hdt : dt.isFinite = true)
    (hfits : Fits (value p.elapsed + value dt)) :
    ∃ report, (p.frame dt).1 = .ok report ∧ report.time.isFinite = true ∧
      Nearest (value p.elapsed + value dt) report.time := by
  have hproduct := Number.nearest_mul hdt p.graph.isFinite_timeSpeed
  rw [hspeed, mul_one] at hproduct
  have hvalue := hproduct.value_eq hdt
  have hstays : ¬ p.Overflows dt := fun hoverflows => by
    refine hoverflows.2 ⟨?_, ?_⟩
    · rw [hspeed, mul_one]
      exact Number.fits_value hdt
    · rwa [hvalue]
  obtain ⟨report, hok, hfinite, -, hnearest⟩ := h.step helapsed hdt hstays
  rw [hvalue] at hnearest
  exact ⟨report, hok, hfinite, hnearest⟩

theorem Running.passes (h : p.Running g) (helapsed : p.elapsed.isFinite = true) : p.Passes := by
  refine ⟨fun dt hdt hfits => h.step helapsed hdt hfits, fun dt hdt => ?_, fun hspeed => ?_⟩
  · obtain ⟨report, hok, htime, -⟩ := (h.advance dt).time_renderCurrent
    refine ⟨report, hok, htime.trans ?_⟩
    rw [Pipeline.advance, if_neg (by simp [hdt])]
  · by_cases hzero : value p.elapsed = 0
    · -- at the time zero a second moves the pattern
      obtain ⟨report, hok, hfinite, hnearest⟩ := h.step_of_speed_one helapsed hspeed
        (by decide : (1 : Float32).isFinite = true)
        (Number.fits_of_abs_le (by rw [hzero, Number.value_one_literal]; norm_num))
      refine ⟨1, report, by decide, hok, hfinite, ?_⟩
      rw [hzero, zero_add] at hnearest
      rw [hzero, hnearest.value_eq (by decide), Number.value_one_literal]
      exact one_ne_zero
    · -- otherwise the step back to the time zero does
      have hback := Number.value_neg helapsed
      obtain ⟨report, hok, hfinite, hnearest⟩ := h.step_of_speed_one helapsed hspeed
        (Number.isFinite_neg helapsed)
        (Number.fits_of_abs_le (by rw [hback, add_neg_cancel]; norm_num))
      refine ⟨_, report, Number.isFinite_neg helapsed, hok, hfinite, ?_⟩
      rw [hback, add_neg_cancel] at hnearest
      rw [Number.value_of_rank_eq_zero hnearest.rank_eq_zero]
      exact fun heq => hzero heq.symm

/-- **The times that a run reports.** All of them are finite just if no step of the run overflows;
after one that is not finite there is no finite one any more. At a finite time a finite step that
does not overflow adds what it should. -/
theorem run_time {graph : Graph} {heightmap : HeightmapConfig} {terrace : TerraceConfig}
    {ramp : ColorRamp} {faces : FaceMode} {adapter : Adapter} {notices : List Notice}
    (h : create graph heightmap terrace ramp faces adapter = .ok (p, notices))
    (operations : List Operation) :
    ((∀ report ∈ p.reports operations, report.time.isFinite = true) ↔
      ∀ before operation after, operations = before ++ operation :: after →
        ¬ operation.Overflows (p.run before)) ∧
    ((p.reports operations).Pairwise fun earlier later =>
      earlier.time.isFinite = false → later.time.isFinite = false) ∧
    ((p.run operations).elapsed.isFinite = true → (p.run operations).Passes) := by
  obtain ⟨hrunning, -⟩ := running_of_create h
  obtain ⟨g, hrun⟩ := hrunning.run operations
  exact ⟨hrunning.isFinite_reports_iff (elapsed_of_create h ▸ by decide) operations,
    hrunning.pairwise_reports operations, hrun.passes⟩

theorem run_time_small : ∃ p notices,
    create {} { resolution := 1, backend := .software } {} .standard .cube = .ok (p, notices) ∧
      ∀ report ∈ p.reports [.frame 1, .renderCurrent], report.time.isFinite = true := by
  have h : ∃ p notices, create {} { resolution := 1, backend := .software } {} .standard .cube =
      .ok (p, notices) := ⟨_, _, rfl⟩
  obtain ⟨p, notices, h⟩ := h
  refine ⟨p, notices, h, (run_time h _).1.mpr fun before operation after heq => ?_⟩
  match before, heq with
  | [], heq =>
    obtain ⟨rfl, -⟩ := List.cons.inj heq
    refine fun hoverflows => ((p.isFinite_elapsed_advance 1).mp ?_).2 hoverflows
    rw [elapsed_advance _ (by decide), elapsed_of_create h, (running_of_create h).2.1]
    decide
  | [first], heq =>
    obtain ⟨rfl, -⟩ := List.cons.inj (List.cons.inj heq).2
    exact id
  | _ :: _ :: _, heq => simp at heq

/-- Two steps that are finite numbers, at the speed one, take the time out of the range. -/
theorem run_time_infinite : (Float32.ofBits 0x7f7fffff).isFinite = true ∧ ∃ p notices,
    create {} { resolution := 1, backend := .software } {} .standard .cube = .ok (p, notices) ∧
      ∃ report ∈ p.reports
        [.frame (Float32.ofBits 0x7f7fffff), .frame (Float32.ofBits 0x7f7fffff)],
        report.time.isFinite = false := by
  have hdt : (Float32.ofBits 0x7f7fffff).isFinite = true := by decide
  have h : ∃ p notices, create {} { resolution := 1, backend := .software } {} .standard .cube =
      .ok (p, notices) := ⟨_, _, rfl⟩
  obtain ⟨p, notices, h⟩ := h
  obtain ⟨hrunning, hgraph, -⟩ := running_of_create h
  obtain ⟨g, hfirst⟩ := hrunning.perform (.frame (Float32.ofBits 0x7f7fffff))
  obtain ⟨report, hreport, htime⟩ :=
    hfirst.running.exists_report_frame (Float32.ofBits 0x7f7fffff)
  refine ⟨hdt, p, notices, h, report, ?_, ?_⟩
  · rw [reports_cons, reports_cons]
    exact List.mem_append_right _ (List.mem_append_left _ (Option.mem_toList.mpr hreport))
  · have hkept := hfirst.graph.resolve_right nofun
    rw [htime, elapsed_advance _ hdt, hrunning.elapsed_perform, hkept, hgraph, elapsedAfter,
      elapsed_advance _ hdt, elapsed_of_create h, hgraph]
    decide

end Pipeline
end Heightfield
