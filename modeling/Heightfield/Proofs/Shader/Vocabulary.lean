import Heightfield.Proofs.Program.Legible
import Heightfield.Shader.Token

/-!
# The tokens of an expression

Besides the names of its variables and its numbers, an expression is written with a few fixed
tokens. So what holds of these tokens, of the names and of the numbers, holds of all tokens of an
expression.

* `Shader.fixedTokens` are the fixed tokens, and `Shader.Vocabulary` a property that holds of them.
* `Expr.forall_tokens` is the result for expressions.
-/

namespace Heightfield

namespace Shader

/-- What expressions are written with, besides the names of variables and numbers. -/
def fixedTokens : List Token :=
  [.symbol "(", .symbol ")", .symbol ", ", .symbol ".", .symbol " + ", .symbol " - ",
    .symbol " * ", .vectorType, .time, .position, .word "x", .word "y", .word "z",
    .word "safe_div", .word "safe_div3", .word "safe_pow", .word "safe_sqrt",
    .word "safe_normalize", .word "floored_mod", .word "abs", .word "floor", .word "ceil",
    .word "fract", .word "min", .word "max", .word "sign", .word "sin", .word "cos", .word "tan",
    .word "cross", .word "dot", .word "length", .word "distance", .word "wave_texture",
    .word "snoise"]

/-- The property holds of the tokens that do not depend on the names and the numbers. -/
structure Vocabulary (K : Token → Prop) : Prop where
  fixed : ∀ t ∈ fixedTokens, K t
  whole : ∀ n, K (.whole n)
  half : K (.number 0.5)

namespace Vocabulary

variable {K : Token → Prop} {a b c : List Token}

theorem forall_parens (hK : Vocabulary K) (h : ∀ t ∈ a, K t) : ∀ t ∈ parens a, K t := by
  rw [parens, List.forall_mem_append, List.forall_mem_cons, List.forall_mem_singleton]
  exact ⟨⟨hK.fixed _ (by decide), h⟩, hK.fixed _ (by decide)⟩

theorem forall_commas (hK : Vocabulary K) {tss : List (List Token)}
    (h : ∀ ts ∈ tss, ∀ t ∈ ts, K t) : ∀ t ∈ commas tss, K t := by
  induction tss with
  | nil => exact nofun
  | cons ts rest ih =>
    rw [List.forall_mem_cons] at h
    cases rest with
    | nil => exact h.1
    | cons ts' rest' =>
      have hsplit : commas (ts :: ts' :: rest') = ts ++ .symbol ", " :: commas (ts' :: rest') := rfl
      rw [hsplit, List.forall_mem_append, List.forall_mem_cons]
      exact ⟨h.1, hK.fixed _ (by decide), ih h.2⟩

theorem forall_call (hK : Vocabulary K) {name : String} {tss : List (List Token)}
    (hname : .word name ∈ fixedTokens) (h : ∀ ts ∈ tss, ∀ t ∈ ts, K t) :
    ∀ t ∈ call name tss, K t :=
  List.forall_mem_cons.mpr ⟨hK.fixed _ hname, hK.forall_parens (hK.forall_commas h)⟩

theorem forall_vectorOf (hK : Vocabulary K) {tss : List (List Token)}
    (h : ∀ ts ∈ tss, ∀ t ∈ ts, K t) : ∀ t ∈ vectorOf tss, K t :=
  List.forall_mem_cons.mpr ⟨hK.fixed _ (by decide), hK.forall_parens (hK.forall_commas h)⟩

theorem forall_infixOf (hK : Vocabulary K) {s : String} (hs : .symbol s ∈ fixedTokens)
    (ha : ∀ t ∈ a, K t) (hb : ∀ t ∈ b, K t) : ∀ t ∈ infixOf s a b, K t :=
  hK.forall_parens (List.forall_mem_append.mpr ⟨ha, List.forall_mem_cons.mpr ⟨hK.fixed _ hs, hb⟩⟩)

theorem forall_literal (hK : Vocabulary K) {x : Float32} (hx : K (.number x)) :
    ∀ t ∈ literal x, K t := by
  unfold literal
  split
  · exact hK.forall_parens (List.forall_mem_singleton.mpr hx)
  · exact List.forall_mem_singleton.mpr hx

theorem forall_scalarPhrase (hK : Vocabulary K) (op : ScalarOperation) (ha : ∀ t ∈ a, K t)
    (hb : ∀ t ∈ b, K t) : ∀ t ∈ scalarPhrase op a b, K t := by
  have hone : ∀ ts ∈ [a], ∀ t ∈ ts, K t := List.forall_mem_singleton.mpr ha
  have htwo : ∀ ts ∈ [a, b], ∀ t ∈ ts, K t :=
    List.forall_mem_cons.mpr ⟨ha, List.forall_mem_singleton.mpr hb⟩
  cases op with
  | add | subtract | multiply => exact hK.forall_infixOf (by decide) ha hb
  | divide | power | modulo | minimum | maximum => exact hK.forall_call (by decide) htwo
  | round =>
    refine hK.forall_call (by decide) (List.forall_mem_singleton.mpr ?_)
    rw [List.forall_mem_append, List.forall_mem_cons, List.forall_mem_singleton]
    exact ⟨ha, hK.fixed _ (by decide), hK.half⟩
  | _ => exact hK.forall_call (by decide) hone

theorem forall_vectorPhrase (hK : Vocabulary K) (op : VectorOperation) (ha : ∀ t ∈ a, K t)
    (hb : ∀ t ∈ b, K t) (hc : ∀ t ∈ c, K t) : ∀ t ∈ vectorPhrase op a b c, K t := by
  have hone : ∀ ts ∈ [a], ∀ t ∈ ts, K t := List.forall_mem_singleton.mpr ha
  have htwo : ∀ ts ∈ [a, b], ∀ t ∈ ts, K t :=
    List.forall_mem_cons.mpr ⟨ha, List.forall_mem_singleton.mpr hb⟩
  cases op with
  | add | subtract | multiply => exact hK.forall_infixOf (by decide) ha hb
  | scale => exact hK.forall_infixOf (by decide) ha hc
  | divide | crossProduct | dotProduct | distance | minimum | maximum =>
    exact hK.forall_call (by decide) htwo
  | _ => exact hK.forall_call (by decide) hone

end Vocabulary
end Shader

open Shader

/-- What holds of the fixed tokens, of the names of variables and of the numbers of an expression
holds of all its tokens. -/
theorem Expr.forall_tokens {K : Token → Prop} (hK : Vocabulary K) {name : Nat → String}
    (hname : ∀ i, K (.word (name i))) {e : Expr} (he : ∀ x ∈ e.numbers, K (.number x)) :
    ∀ t ∈ e.tokens name, K t := by
  have hsymbol (s : String) (hs : .symbol s ∈ fixedTokens) : K (.symbol s) := hK.fixed _ hs
  induction e with
  | scalar a => exact hK.forall_literal (he a (List.mem_singleton.mpr rfl))
  | vector v =>
    simp only [numbers, Vec3.numbers, List.forall_mem_cons] at he
    exact hK.forall_vectorOf (by simp [he.1, he.2.1, he.2.2.1])
  | time | position => exact List.forall_mem_singleton.mpr (hK.fixed _ (by decide))
  | var i => exact List.forall_mem_singleton.mpr (hname i)
  | broadcast e ih => exact hK.forall_vectorOf (List.forall_mem_singleton.mpr (ih he))
  | component e axis ih =>
    rw [tokens, List.forall_mem_append, List.forall_mem_cons, List.forall_mem_singleton]
    refine ⟨?_, hsymbol "." (by decide), ?_⟩
    · split
      · exact ih he
      · exact hK.forall_parens (ih he)
    · cases axis <;> exact hK.fixed _ (by decide)
  | combine x y z ihx ihy ihz =>
    simp only [numbers, List.forall_mem_append] at he
    refine hK.forall_vectorOf ?_
    rw [List.forall_mem_cons, List.forall_mem_cons, List.forall_mem_singleton]
    exact ⟨ihx he.1.1, ihy he.1.2, ihz he.2⟩
  | math op a b iha ihb =>
    simp only [numbers, List.forall_mem_append] at he
    exact hK.forall_scalarPhrase op (iha he.1) (ihb he.2)
  | vectorMath op a b factor iha ihb ihf =>
    simp only [numbers, List.forall_mem_append] at he
    exact hK.forall_vectorPhrase op (iha he.1.1) (ihb he.1.2) (ihf he.2)
  | wave settings point phase ihp ihq =>
    simp only [numbers, List.forall_mem_append, WaveSettings.numbers, List.forall_mem_cons] at he
    obtain ⟨⟨⟨hscale, hdistortion, hdetailScale, hroughness, -⟩, hp⟩, hq⟩ := he
    have hwhole (n : Nat) : K (.whole n) ∧ ∀ t ∈ [], K t :=
      ⟨hK.whole n, List.forall_mem_nil _⟩
    refine hK.forall_call (by decide) ?_
    simp only [List.forall_mem_cons]
    exact ⟨ihp hp, ihq hq, hK.forall_literal hscale, hK.forall_literal hdistortion, hwhole _,
      hK.forall_literal hdetailScale, hK.forall_literal hroughness, hwhole _, hwhole _, hwhole _,
      List.forall_mem_nil _⟩
  | noise point factor ihp ihf =>
    simp only [numbers, List.forall_mem_append] at he
    have hproduct : ∀ t ∈ point.tokens name ++ .symbol " * " :: factor.tokens name, K t :=
      List.forall_mem_append.mpr
        ⟨ihp he.1, List.forall_mem_cons.mpr ⟨hsymbol " * " (by decide), ihf he.2⟩⟩
    have hnoise : ∀ t ∈ call "snoise" [point.tokens name ++ .symbol " * " :: factor.tokens name],
        K t := hK.forall_call (by decide) (List.forall_mem_singleton.mpr hproduct)
    refine hK.forall_parens ?_
    simp only [List.forall_mem_append, List.forall_mem_cons]
    exact ⟨⟨⟨hK.half, hsymbol " * " (by decide), List.forall_mem_nil _⟩, hnoise⟩,
      hsymbol " + " (by decide), hK.half, List.forall_mem_nil _⟩

end Heightfield
