import Heightfield.Proofs.Shader.Meaning
import Heightfield.Proofs.Shader.Vocabulary

/-!
# Expressions on one line

The text of an expression has no line feeds, so the lines of a source are its statements.

* `Shader.OneLine` says that tokens are written without a line feed.
* `Expr.oneLine` says it of every expression with regular numbers.
-/

namespace Heightfield

namespace Shader

variable {d : Dialect}

/-- Tokens that are written on one line. -/
def OneLine (d : Dialect) (ts : List Token) : Prop := '\n' ∉ chars d ts

/-- Tokens are written on one line if each of them is. -/
theorem oneLine_iff {ts : List Token} :
    OneLine d ts ↔ ∀ t ∈ ts, '\n' ∉ (t.spell d).toList := by
  simp [OneLine, chars]

theorem oneLine_whole (n : Nat) : '\n' ∉ ((Token.whole n).spell d).toList := by
  intro hmem
  simp only [Token.spell, Nat.toString_eq_repr, Nat.toList_repr] at hmem
  exact absurd (Number.isDigit_toDigits hmem) (by decide)

theorem oneLine_number {x : Float32} (hx : Number.Regular x) :
    '\n' ∉ ((Token.number x).spell d).toList := by
  intro hmem
  rcases forall_mem_formatFloat hx _ hmem with h | h | h <;> exact absurd h (by decide)

/-- The tokens that all expressions share are written on one line. -/
theorem oneLine_vocabulary (d : Dialect) :
    Vocabulary fun t => '\n' ∉ (t.spell d).toList :=
  ⟨by cases d <;> decide, oneLine_whole, oneLine_number Number.regular_half⟩

end Shader

open Shader

/-- The text of an expression has no line feeds. -/
theorem Expr.oneLine {d : Dialect} {name : Nat → String}
    (hname : ∀ i, '\n' ∉ (name i).toList) {e : Expr} (he : e.Regular) :
    OneLine d (e.tokens name) :=
  oneLine_iff.mpr
    (Expr.forall_tokens (oneLine_vocabulary d) hname fun x hx => oneLine_number (he x hx))

end Heightfield
