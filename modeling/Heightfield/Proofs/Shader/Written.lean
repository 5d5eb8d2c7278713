import Heightfield.Proofs.Program.Renumber
import Heightfield.Proofs.Shader.Lines

/-!
# Numbers as they are written

The text of a number that is not finite, or of the negative zero, is the text of zero. So a program
has the text of another one, in which these numbers are zero: the one that a reader of the text
would get back. That program can be read, and if all numbers are finite, it computes what the first
one does, up to the sign of zero.

* `Shader.written` is the number that a text stands for.
* `Program.source_written` says that a program has the source of the program as written.
* `Program.Spelled.height?_rel` compares programs with one source.
-/

namespace Heightfield

open Number

namespace Shader

/-- The number that the text of a number stands for. -/
def written (x : Float32) : Float32 :=
  if x.isFinite && !(x == 0) then x else 0

variable {x : Float32}

/-- Written numbers have texts of their own. -/
theorem regular_written (x : Float32) : Regular (written x) := by
  unfold written
  split
  next h =>
    simp only [Bool.and_eq_true, Bool.not_eq_true'] at h
    refine ⟨h.1, fun hbits => ?_⟩
    obtain rfl : x = -0 := eq_of_toBits_eq hbits
    exact absurd h.2 (by decide)
  next => exact regular_zero

/-- Finite numbers are written up to the sign of zero. -/
theorem alike_written (h : x.isFinite = true) : Alike x (written x) := by
  unfold written
  rw [h, Bool.true_and]
  by_cases hzero : (x == 0) = true
  · simp only [hzero, Bool.not_true, Bool.false_eq_true, if_false]
    exact .inr ⟨hzero, by decide⟩
  · simp only [hzero, Bool.not_false, if_true]
    exact .refl x

/-! ## Texts -/

theorem formatFloat_written (x : Float32) : formatFloat (written x) = formatFloat x := by
  have hzero : formatFloat 0 = "0.0" := by decide
  unfold written
  split
  next => rfl
  next h =>
    rw [hzero, formatFloat]
    by_cases hfinite : x.isFinite = true
    · have hx : (x == 0) = true := by simpa [hfinite] using h
      rw [if_pos hfinite, if_pos hx]
    · rw [if_neg hfinite]

/-- The token with its number as written. -/
def Token.written : Token → Token
  | .number x => .number (Shader.written x)
  | t => t

theorem spell_written (d : Dialect) (t : Token) : t.written.spell d = t.spell d := by
  cases t with
  | number x => exact formatFloat_written x
  | _ => rfl

theorem spellAll_written (d : Dialect) (ts : List Token) :
    spellAll d (ts.map Token.written) = spellAll d ts := by
  have hspell : Token.spell d ∘ Token.written = Token.spell d := funext (spell_written d)
  rw [spellAll, List.map_map, hspell, spellAll]

/-! ## Phrases -/

section Phrases

variable {a b c : List Token}

theorem map_written_parens (ts : List Token) :
    (parens ts).map Token.written = parens (ts.map Token.written) := by
  simp [parens, Token.written]

theorem map_written_commas (tss : List (List Token)) :
    (commas tss).map Token.written = commas (tss.map (·.map Token.written)) := by
  induction tss with
  | nil => rfl
  | cons ts rest ih =>
    cases rest with
    | nil => rfl
    | cons ts' rest' =>
      have hsplit (ts ts' : List Token) (rest : List (List Token)) :
          commas (ts :: ts' :: rest) = ts ++ .symbol ", " :: commas (ts' :: rest) := rfl
      rw [List.map_cons, List.map_cons, hsplit, hsplit, List.map_append, List.map_cons, ih]
      rfl

theorem map_written_call (name : String) (tss : List (List Token)) :
    (call name tss).map Token.written = call name (tss.map (·.map Token.written)) := by
  rw [call, List.map_cons, map_written_parens, map_written_commas]
  rfl

theorem map_written_vectorOf (tss : List (List Token)) :
    (vectorOf tss).map Token.written = vectorOf (tss.map (·.map Token.written)) := by
  rw [vectorOf, List.map_cons, map_written_parens, map_written_commas]
  rfl

theorem map_written_infixOf (s : String) (a b : List Token) :
    (infixOf s a b).map Token.written = infixOf s (a.map Token.written) (b.map Token.written) := by
  rw [infixOf, map_written_parens, List.map_append, List.map_cons]
  rfl

/-- A negative number is written as it is, so brackets stay where they are. -/
theorem map_written_literal (x : Float32) :
    (literal x).map Token.written = literal (written x) := by
  have hsame : (x.isFinite && x < 0) = ((written x).isFinite && written x < 0) := by
    unfold written
    by_cases hfinite : x.isFinite = true
    · by_cases hzero : (x == 0) = true
      · rcases eq_zero_or_of_beq_zero hzero with rfl | rfl <;> decide
      · simp [hfinite, hzero]
    · simp only [hfinite, Bool.false_and, Bool.false_eq_true, if_false]
      decide
  unfold literal
  rw [← hsame]
  split
  · exact map_written_parens _
  · rfl

/-- The number that shader text uses of its own. -/
theorem written_half : Token.written (.number 0.5) = .number 0.5 := by decide

theorem map_written_scalarPhrase (op : ScalarOperation) (a b : List Token) :
    (scalarPhrase op a b).map Token.written =
      scalarPhrase op (a.map Token.written) (b.map Token.written) := by
  cases op with
  | add | subtract | multiply => exact map_written_infixOf _ a b
  | round =>
    rw [scalarPhrase, map_written_call, List.map_singleton, List.map_append, List.map_cons,
      List.map_singleton, written_half]
    rfl
  | _ => exact map_written_call _ _

theorem map_written_vectorPhrase (op : VectorOperation) (a b c : List Token) :
    (vectorPhrase op a b c).map Token.written =
      vectorPhrase op (a.map Token.written) (b.map Token.written) (c.map Token.written) := by
  cases op with
  | add | subtract | multiply => exact map_written_infixOf _ a b
  | scale => exact map_written_infixOf _ a c
  | _ => exact map_written_call _ _

theorem map_written_wavePhrase (w : WaveSettings) (a b : List Token) :
    (wavePhrase w a b).map Token.written =
      wavePhrase (w.mapNumbers written) (a.map Token.written) (b.map Token.written) := by
  rw [wavePhrase, map_written_call]
  simp only [List.map_cons, List.map_nil, map_written_literal]
  rfl

theorem map_written_noisePhrase (a b : List Token) :
    (noisePhrase a b).map Token.written =
      noisePhrase (a.map Token.written) (b.map Token.written) := by
  rw [noisePhrase, map_written_parens, List.map_append, List.map_append, map_written_call]
  simp only [List.map_cons, List.map_nil, List.map_append, written_half]
  rfl

end Phrases
end Shader

open Shader

/-- An expression as written has the same tokens, but for its numbers. -/
theorem Expr.map_written_tokens (name : Nat → String) (e : Expr) :
    (e.tokens name).map Token.written = (e.mapNumbers written).tokens name := by
  induction e with
  | scalar a => exact map_written_literal a
  | vector v => exact map_written_vectorOf _
  | time | position | var => rfl
  | broadcast e ih => rw [tokens, map_written_vectorOf, List.map_singleton, ih, mapNumbers, tokens]
  | component e axis ih =>
    rw [mapNumbers, tokens, tokens, isAtom_mapNumbers, List.map_append, ← ih]
    split
    · rfl
    · rw [map_written_parens]
      rfl
  | combine x y z ihx ihy ihz =>
    rw [tokens, map_written_vectorOf, mapNumbers, tokens, ← ihx, ← ihy, ← ihz]
    rfl
  | math op a b iha ihb =>
    rw [tokens, map_written_scalarPhrase, mapNumbers, tokens, iha, ihb]
  | vectorMath op a b factor iha ihb ihf =>
    rw [tokens, map_written_vectorPhrase, mapNumbers, tokens, iha, ihb, ihf]
  | wave settings point phase ihp ihq =>
    rw [tokens, map_written_wavePhrase, mapNumbers, tokens, ihp, ihq]
  | noise point factor ihp ihf =>
    rw [tokens, map_written_noisePhrase, mapNumbers, tokens, ihp, ihf]

namespace Program

variable {p q : Program} {d : Dialect}

/-! ## Programs as written -/

/-- The program that the text of a program stands for. -/
def written (p : Program) : Program := p.mapNumbers Shader.written

/-- A program has the source of the program as written. -/
theorem source_written (p : Program) (d : Dialect) : p.written.source d = p.source d := by
  have hvalue (e : Expr) : spellAll d ((e.mapNumbers Shader.written).tokens p.varName) =
      spellAll d (e.tokens p.varName) := by
    rw [← Expr.map_written_tokens, spellAll_written]
  have hstatement (stmt : Stmt) :
      statement d p.written (stmt.mapNumbers Shader.written) = statement d p stmt := by
    have hname : p.written.varName = p.varName := rfl
    have htype : p.written.varType = p.varType := rfl
    simp only [statement, hname, htype, Stmt.mapNumbers, hvalue]
  have hstatements : p.written.stmts.map (statement d p.written) = p.stmts.map (statement d p) := by
    rw [written, mapNumbers, List.map_map]
    exact List.map_congr_left fun stmt _ => hstatement stmt
  have hending : ending d p.written = ending d p := by
    have hresult : p.written.result = p.result.mapNumbers Shader.written := rfl
    have hname : p.written.varName = p.varName := rfl
    rw [ending, ending, hresult, hname]
    cases p.result with
    | value e => exact congrArg (writeHeight d) (hvalue e)
    | zero => rfl
    | errorColor => rfl
  have hworld : p.written.useWorldPos = p.useWorldPos := rfl
  rw [source, source, body, body, hworld, hstatements, hending]

/-- A program as written can be read. -/
theorem Spelled.legible_written {P : Float32 → Prop} (h : p.Spelled P) : p.written.Legible :=
  h.mapNumbers fun x _ => regular_written x

/-- A program with finite numbers computes what the program as written does. -/
theorem Spelled.height?_written (h : p.Spelled (·.isFinite = true)) (s : Sample) :
    Option.Rel Alike (p.height? s) (p.written.height? s) :=
  height?_alike (h.mono fun _ => alike_written) s

/-- Programs with finite numbers compute alike heights if they have one source. -/
theorem Spelled.height?_rel (hp : p.Spelled (·.isFinite = true))
    (hq : q.Spelled (·.isFinite = true)) (hworld : p.useWorldPos = q.useWorldPos)
    (h : p.source d = q.source d) (s : Sample) :
    Option.Rel Alike (p.height? s) (q.height? s) := by
  have hsource : p.written.source d = q.written.source d := by
    rw [source_written, source_written, h]
  have hheight : p.written.height? s = q.written.height? s :=
    hp.legible_written.height?_eq hq.legible_written hworld hsource s
  have hleft := hp.height?_written s
  have hright := hq.height?_written s
  rw [hheight] at hleft
  revert hleft hright
  generalize p.height? s = a, q.height? s = b, q.written.height? s = c
  intro hleft hright
  cases hleft with
  | none =>
    cases hright with
    | none => exact .none
  | some hleft =>
    cases hright with
    | some hright => exact .some (hleft.trans hright.symm)

end Program
end Heightfield
