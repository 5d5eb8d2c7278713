import Heightfield.Proofs.Program.Result
import Heightfield.Proofs.Shader.Hygiene
import Mathlib.Data.List.SplitBy

/-!
# From one dialect to the other

The statements of a GLSL shader are those of the WGSL shader, token by token: types, the time and
the position are spelled in another way, and a declaration names the type first.

* `Shader.lex` takes a text apart into words and other characters, and `Shader.respell` replaces
  the tokens that WGSL spells in its own way.
* `Shader.Row` are the rows of tokens that expressions are made of; no two words of such a row
  stand side by side.
* `Shader.glslStatement` makes a GLSL statement from a WGSL one.
* `lower_dialects` is the result for all graphs.
-/

namespace Heightfield

namespace Shader

open Identifier (IsPlain Plain)

variable {d : Dialect} {ts us : List Token} {s : String}

/-! ## Tokens of a text -/

/-- Both characters belong into words. -/
def together (c d : Char) : Bool := decide (IsPlain c) && decide (IsPlain d)

/-- The tokens of a text: words, each as long as can be, and the other characters one by one. -/
def lex (text : String) : List String :=
  (text.toList.splitBy together).map String.ofList

/-- The tokens with those of WGSL replaced by those of GLSL. -/
def respell : List String → List String
  | "vec3" :: "<" :: "f32" :: ">" :: rest => "vec3" :: respell rest
  | "globals" :: "." :: "time" :: rest => "uTime" :: respell rest
  | "f32" :: rest => "float" :: respell rest
  | "sample_pos" :: rest => "samplePos" :: respell rest
  | word :: rest => word :: respell rest
  | [] => []

/-- The tokens of a declaration with the type before the name. -/
def redeclare : List String → List String
  | " " :: " " :: "let" :: " " :: name :: ":" :: " " :: type :: rest =>
    " " :: " " :: type :: " " :: name :: rest
  | tokens => tokens

/-- A WGSL expression in GLSL. -/
def glslExpression (text : String) : String :=
  String.join (respell (lex text))

/-- A WGSL statement in GLSL. -/
def glslStatement (line : String) : String :=
  String.join (redeclare (respell (lex line)))

/-- The words that are replaced, or begin a phrase that is. -/
def replacedWords : List String := ["vec3", "globals", "f32", "sample_pos"]

theorem respell_cons {word : String} (h : word ∉ replacedWords) (rest : List String) :
    respell (word :: rest) = word :: respell rest := by
  simp only [replacedWords, List.mem_cons, List.not_mem_nil, or_false, not_or] at h
  obtain ⟨hvec, hglobals, hf32, hpos⟩ := h
  rw [respell]
  · exact fun _ heq _ => hvec heq
  · exact fun _ heq _ => hglobals heq
  · exact hf32
  · exact hpos

/-- Tokens that are not replaced stay as they are. -/
theorem respell_append {words : List String} (h : ∀ word ∈ words, word ∉ replacedWords)
    (rest : List String) : respell (words ++ rest) = words ++ respell rest := by
  induction words with
  | nil => rfl
  | cons word words ih =>
    rw [List.forall_mem_cons] at h
    rw [List.cons_append, respell_cons h.1, ih h.2, List.cons_append]

/-- A text is what its tokens make together. -/
theorem join_lex (text : String) : String.join (lex text) = text := by
  rw [← String.toList_inj, String.toList_join, lex, List.flatMap_map]
  simp only [String.toList_ofList]
  exact List.flatMap_id'.trans (List.flatten_splitBy _ _)

/-! ## Gaps -/

/-- The text separates the words around it. -/
structure Gap (s : String) : Prop where
  ne_nil : s.toList ≠ []
  head : ∀ c ∈ s.toList.head?, ¬ IsPlain c
  last : ∀ c ∈ s.toList.getLast?, ¬ IsPlain c

-- one character at most is looked at, not all there are
instance (c? : Option Char) : Decidable (∀ c ∈ c?, ¬ IsPlain c) := c?.decidableForallMem

instance : DecidablePred Gap := fun s =>
  decidable_of_iff (s.toList ≠ [] ∧ (∀ c ∈ s.toList.head?, ¬ IsPlain c) ∧
    ∀ c ∈ s.toList.getLast?, ¬ IsPlain c)
    ⟨fun h => ⟨h.1, h.2.1, h.2.2⟩, fun h => ⟨h.ne_nil, h.head, h.last⟩⟩

theorem lex_gap {a b : String} (h : Gap s) :
    lex (a ++ (s ++ b)) = lex a ++ (lex s ++ lex b) := by
  have hleft {c e : Char} (hc : ¬ IsPlain c) : together c e = false := by simp [together, hc]
  have hright {c e : Char} (he : ¬ IsPlain e) : together c e = false := by simp [together, he]
  rw [lex, String.toList_append, String.toList_append, List.splitBy_append, List.splitBy_append,
    List.map_append, List.map_append]
  · rfl
  · exact fun c hc e _ => hleft (h.last c hc)
  · intro c _ e he
    rw [List.head?_append_of_ne_nil _ h.ne_nil] at he
    exact hright (h.head e he)

/-! ## Rows -/

/-- A row of tokens in which a symbol separates any two others. -/
inductive Row : List Token → Prop
  | nil : Row []
  | single (t : Token) : Row [t]
  | glue {a b : List Token} {s : String} (hs : Gap s) (ha : Row a) (hb : Row b) :
      Row (a ++ .symbol s :: b)

namespace Row

variable {a b c : List Token}

theorem parens (ha : Row a) : Row (parens a) :=
  .glue (s := "(") (by decide) .nil (.glue (s := ")") (by decide) ha .nil)

theorem commas {tss : List (List Token)} (h : ∀ ts ∈ tss, Row ts) : Row (commas tss) := by
  induction tss with
  | nil => exact .nil
  | cons ts rest ih =>
    rw [List.forall_mem_cons] at h
    cases rest with
    | nil => exact h.1
    | cons ts' rest' => exact .glue (by decide) h.1 (ih h.2)

/-- A token in front of phrases in parentheses, as in a call. -/
theorem cons_parens (t : Token) {tss : List (List Token)} (h : ∀ ts ∈ tss, Row ts) :
    Row (t :: Shader.parens (Shader.commas tss)) :=
  .glue (a := [t]) (s := "(") (by decide) (.single t) (.glue (by decide) (commas h) .nil)

theorem infixOf {s : String} (hs : Gap s) (ha : Row a) (hb : Row b) : Row (infixOf s a b) :=
  parens (.glue hs ha hb)

theorem literal (x : Float32) : Row (literal x) := by
  unfold Shader.literal
  split
  · exact parens (.single _)
  · exact .single _

theorem scalarPhrase (op : ScalarOperation) (ha : Row a) (hb : Row b) :
    Row (scalarPhrase op a b) := by
  have hone : ∀ ts ∈ [a], Row ts := List.forall_mem_singleton.mpr ha
  have htwo : ∀ ts ∈ [a, b], Row ts :=
    List.forall_mem_cons.mpr ⟨ha, List.forall_mem_singleton.mpr hb⟩
  cases op with
  | add | subtract | multiply => exact infixOf (by decide) ha hb
  | divide | power | modulo | minimum | maximum => exact cons_parens _ htwo
  | round =>
    exact cons_parens _ (List.forall_mem_singleton.mpr (.glue (by decide) ha (.single _)))
  | _ => exact cons_parens _ hone

theorem vectorPhrase (op : VectorOperation) (ha : Row a) (hb : Row b) (hc : Row c) :
    Row (vectorPhrase op a b c) := by
  have hone : ∀ ts ∈ [a], Row ts := List.forall_mem_singleton.mpr ha
  have htwo : ∀ ts ∈ [a, b], Row ts :=
    List.forall_mem_cons.mpr ⟨ha, List.forall_mem_singleton.mpr hb⟩
  cases op with
  | add | subtract | multiply => exact infixOf (by decide) ha hb
  | scale => exact infixOf (by decide) ha hc
  | divide | crossProduct | dotProduct | distance | minimum | maximum => exact cons_parens _ htwo
  | _ => exact cons_parens _ hone

end Row

end Shader

open Shader

/-- Expressions are written as rows. -/
theorem Expr.row_tokens (name : Nat → String) (e : Expr) : Row (e.tokens name) := by
  induction e with
  | scalar a => exact .literal a
  | vector v => exact .cons_parens _ (by simp [Row.single])
  | time | position | var => exact .single _
  | broadcast e ih => exact .cons_parens _ (List.forall_mem_singleton.mpr ih)
  | component e axis ih =>
    refine .glue (by decide) ?_ (.single _)
    split
    · exact ih
    · exact ih.parens
  | combine x y z ihx ihy ihz => exact .cons_parens _ (by simp [ihx, ihy, ihz])
  | math op a b iha ihb => exact .scalarPhrase op iha ihb
  | vectorMath op a b factor iha ihb ihf => exact .vectorPhrase op iha ihb ihf
  | wave settings point phase ihp ihq =>
    exact .cons_parens _ (by simp [ihp, ihq, Row.literal, Row.single])
  | noise point factor ihp ihf =>
    have hproduct : Row (point.tokens name ++ .symbol " * " :: factor.tokens name) :=
      .glue (by decide) ihp ihf
    have hnoise : Row (call "snoise" [point.tokens name ++ .symbol " * " :: factor.tokens name]) :=
      .cons_parens _ (List.forall_mem_singleton.mpr hproduct)
    have hscaled := Row.glue (s := " * ") (by decide) (.single (.number 0.5)) hnoise
    exact (Row.glue (s := " + ") (by decide) hscaled (.single (.number 0.5))).parens

namespace Shader

open Identifier (IsPlain Plain)

variable {d : Dialect} {ts us : List Token} {s : String}

/-! ## Tokens of a row -/

@[simp] theorem spellAll_nil (d : Dialect) : spellAll d [] = "" := rfl

theorem spellAll_cons (d : Dialect) (t : Token) (ts : List Token) :
    spellAll d (t :: ts) = t.spell d ++ spellAll d ts := by
  simp [spellAll, String.join_cons]

theorem spellAll_append (d : Dialect) (ts us : List Token) :
    spellAll d (ts ++ us) = spellAll d ts ++ spellAll d us := by
  simp [spellAll, String.join_append]

/-- The tokens of a row are those of its parts. -/
theorem Row.lex_spellAll (h : Row ts) :
    lex (spellAll d ts) = ts.flatMap fun t => lex (t.spell d) := by
  induction h with
  | nil => rfl
  | single t => simp [spellAll_cons]
  | @glue ts us s hs _ _ ihts ihus =>
    have hspell : (Token.symbol s).spell d = s := rfl
    rw [spellAll_append, spellAll_cons, hspell, lex_gap hs, ihts, ihus, List.flatMap_append,
      List.flatMap_cons]
    rfl

/-- The token is spelled in GLSL as its WGSL spelling is respelled, whatever follows. -/
def Translates (t : Token) : Prop :=
  ∀ rest, respell (lex (t.spell .wgsl) ++ rest) = lex (t.spell .glsl) ++ respell rest

/-- A row of such tokens is respelled token by token. -/
theorem Row.respell_spellAll (h : Row ts) (hts : ∀ t ∈ ts, Translates t) :
    respell (lex (spellAll .wgsl ts)) = lex (spellAll .glsl ts) := by
  rw [h.lex_spellAll, h.lex_spellAll]
  clear h
  induction ts with
  | nil => rfl
  | cons t ts ih =>
    rw [List.forall_mem_cons] at hts
    rw [List.flatMap_cons, List.flatMap_cons, hts.1, ih hts.2]

/-! ## Spellings -/

variable {t : Token}

/-- A token that both dialects spell alike, without the words that are replaced. -/
theorem translates_of_alike (heq : t.spell .glsl = t.spell .wgsl)
    (h : ∀ word ∈ lex (t.spell .wgsl), word ∉ replacedWords) : Translates t := fun rest => by
  rw [respell_append h, heq]

theorem translates_vectorType : Translates .vectorType := fun rest => by
  have hwgsl : lex (Token.vectorType.spell .wgsl) = ["vec3", "<", "f32", ">"] := by decide
  have hglsl : lex (Token.vectorType.spell .glsl) = ["vec3"] := by decide
  rw [hwgsl, hglsl]
  rfl

theorem translates_scalarType : Translates .scalarType := fun rest => by
  have hwgsl : lex (Token.scalarType.spell .wgsl) = ["f32"] := by decide
  have hglsl : lex (Token.scalarType.spell .glsl) = ["float"] := by decide
  rw [hwgsl, hglsl]
  rfl

theorem translates_time : Translates .time := fun rest => by
  have hwgsl : lex (Token.time.spell .wgsl) = ["globals", ".", "time"] := by decide
  have hglsl : lex (Token.time.spell .glsl) = ["uTime"] := by decide
  rw [hwgsl, hglsl]
  rfl

theorem translates_position : Translates .position := fun rest => by
  have hwgsl : lex (Token.position.spell .wgsl) = ["sample_pos"] := by decide
  have hglsl : lex (Token.position.spell .glsl) = ["samplePos"] := by decide
  rw [hwgsl, hglsl]
  rfl

/-- The characters of a token are characters of the text. -/
theorem mem_of_mem_lex {text word : String} (h : word ∈ lex text) :
    ∀ c ∈ word.toList, c ∈ text.toList := by
  intro c hc
  obtain ⟨cs, hcs, rfl⟩ := List.mem_map.mp h
  rw [String.toList_ofList] at hc
  rw [← List.flatten_splitBy together text.toList]
  exact List.mem_flatten.mpr ⟨cs, hcs, hc⟩

/-- A text without letters has none of the words that are replaced. -/
theorem not_mem_replacedWords {text : String} (h : ∀ c ∈ text.toList, c.isAlpha = false) :
    ∀ word ∈ lex text, word ∉ replacedWords := by
  have hletter : ∀ word ∈ replacedWords, word.toList.any (·.isAlpha) = true := by decide
  intro word hword hreplaced
  obtain ⟨c, hc, halpha⟩ := List.any_eq_true.mp (hletter word hreplaced)
  rw [h c (mem_of_mem_lex hword c hc)] at halpha
  cases halpha

theorem isAlpha_of_isDigit {c : Char} (h : c.isDigit = true) : c.isAlpha = false := by
  obtain ⟨hlow, hhigh⟩ := Char.isDigit_iff_toNat.mp h
  have hdigits : ∀ n < 10, (Char.ofNat ('0'.toNat + n)).isAlpha = false := by decide
  have hnine : '9'.toNat = '0'.toNat + 9 := rfl
  have hdigit := hdigits (c.toNat - '0'.toNat) (by omega)
  rwa [Nat.add_sub_cancel' hlow, Char.ofNat_toNat] at hdigit

theorem translates_number (x : Float32) : Translates (.number x) := by
  refine translates_of_alike rfl (not_mem_replacedWords fun c hc => ?_)
  rw [Token.spell, ← formatFloat_written] at hc
  rcases forall_mem_formatFloat (regular_written x) c hc with h | rfl | rfl
  · exact isAlpha_of_isDigit h
  · decide
  · decide

theorem translates_whole (n : ℕ) : Translates (.whole n) := by
  refine translates_of_alike rfl (not_mem_replacedWords fun c hc => isAlpha_of_isDigit ?_)
  simp only [Token.spell, Nat.toString_eq_repr, Nat.toList_repr] at hc
  exact Number.isDigit_toDigits hc

/-- A plain name is one word. -/
theorem lex_of_plain {name : String} (h : Plain name) : lex name = [name] := by
  have hne : name.toList ≠ [] := by
    obtain ⟨rest, hrest⟩ := h.starts
    rw [← hrest]
    exact List.cons_ne_nil _ _
  have hchain : name.toList.IsChain fun c d => together c d := by
    refine List.Pairwise.isChain (List.pairwise_of_forall_mem_list fun c hc d hd => ?_)
    rw [together, decide_eq_true (h.chars c hc), decide_eq_true (h.chars d hd)]
    rfl
  rw [lex, List.splitBy_of_isChain hne hchain, List.map_singleton, String.ofList_toList]

/-- A plain name is none of the words that are replaced, whatever letters are in it. -/
theorem translates_name {name : String} (h : Plain name) : Translates (.word name) := by
  refine translates_of_alike rfl ?_
  have hstart : ∀ word ∈ replacedWords, ¬ ['n', '_'] <+: word.toList := by decide
  rw [Token.spell, lex_of_plain h, List.forall_mem_singleton]
  exact fun hmem => hstart name hmem h.starts

theorem vocabulary_translates : Vocabulary Translates := by
  refine ⟨fun t ht => ?_, translates_whole, translates_number _⟩
  have hfixed : ∀ t ∈ fixedTokens, t = .vectorType ∨ t = .time ∨ t = .position ∨
      t.spell .glsl = t.spell .wgsl ∧ ∀ word ∈ lex (t.spell .wgsl), word ∉ replacedWords := by
    decide
  obtain rfl | rfl | rfl | ⟨heq, hwords⟩ := hfixed t ht
  · exact translates_vectorType
  · exact translates_time
  · exact translates_position
  · exact translates_of_alike heq hwords

end Shader

open Shader

/-! ## Lines -/

namespace Program

variable {p : Program} {P : Float32 → Prop}

/-- The names of variables are plain, and there is no other name. -/
theorem Spelled.varName_cases (hp : p.Spelled P) (k : ℕ) :
    (k < p.vars.length ∧ Identifier.Plain (p.varName k)) ∨ p.varName k = "" := by
  rcases lt_or_ge k p.vars.length with hk | hk
  · rw [varName, List.getElem?_eq_getElem hk]
    exact .inl ⟨hk, hp.plain _ (List.getElem_mem hk)⟩
  · rw [varName, List.getElem?_eq_none hk]
    exact .inr rfl

theorem Spelled.translates_varName (hp : p.Spelled P) (k : ℕ) :
    Translates (.word (p.varName k)) := by
  rcases hp.varName_cases k with ⟨-, hplain⟩ | hempty
  · exact translates_name hplain
  · rw [hempty]
    exact translates_of_alike rfl nofun

theorem Spelled.translates_tokens (hp : p.Spelled P) (e : Expr) :
    ∀ t ∈ e.tokens p.varName, Translates t :=
  e.forall_tokens vocabulary_translates hp.translates_varName fun x _ => translates_number x

/-- **An expression is written in GLSL as its WGSL text is respelled.** -/
theorem Spelled.glslExpression_spellAll (hp : p.Spelled P) (e : Expr) :
    glslExpression (spellAll .wgsl (e.tokens p.varName)) = spellAll .glsl (e.tokens p.varName) := by
  rw [glslExpression, (e.row_tokens _).respell_spellAll (hp.translates_tokens e), join_lex]

/-- What stands behind the type of a declaration, up to the end of the line. -/
def assigned (p : Program) (e : Expr) : List Token :=
  .symbol " = " :: (e.tokens p.varName ++ [.symbol ";"])

/-- A declaration as it is written in WGSL, as tokens. -/
def declaration (p : Program) (stmt : Stmt) : List Token :=
  .symbol "  " :: .word "let" :: .symbol " " :: .word (p.varName stmt.var) :: .symbol ": " ::
    typeToken (p.varType stmt.var) :: p.assigned stmt.expr

theorem statement_wgsl (p : Program) (stmt : Stmt) :
    statement .wgsl p stmt = spellAll .wgsl (p.declaration stmt) := by
  simp [statement, declaration, assigned, spellAll_cons, spellAll_append, Token.spell, toString,
    ← String.toList_inj]

theorem row_assigned (p : Program) (e : Expr) : Row (p.assigned e) :=
  .glue (a := []) (by decide) .nil (.glue (by decide) (e.row_tokens _) .nil)

theorem row_declaration (p : Program) (stmt : Stmt) : Row (p.declaration stmt) := by
  have htype := Row.glue (s := ": ") (by decide) (.single (.word (p.varName stmt.var)))
    (.glue (s := " = ") (by decide) (.single (typeToken (p.varType stmt.var)))
      (.glue (s := ";") (by decide) (stmt.expr.row_tokens p.varName) .nil))
  exact .glue (a := []) (s := "  ") (by decide) .nil
    (.glue (a := [.word "let"]) (s := " ") (by decide) (.single _) htype)

theorem Spelled.translates_declaration (hp : p.Spelled P) (stmt : Stmt) :
    ∀ t ∈ p.declaration stmt, Translates t := by
  have hsymbol (s : String) (hs : ∀ word ∈ lex s, word ∉ replacedWords) :
      Translates (.symbol s) := translates_of_alike rfl hs
  have htype (t : SocketType) : Translates (typeToken t) := by
    cases t
    · exact translates_scalarType
    · exact translates_vectorType
  simp only [declaration, assigned, List.forall_mem_cons, List.forall_mem_append]
  exact ⟨hsymbol "  " (by decide), translates_of_alike rfl (by decide), hsymbol " " (by decide),
    hp.translates_varName _, hsymbol ": " (by decide), htype _, hsymbol " = " (by decide),
    hp.translates_tokens _, hsymbol ";" (by decide), List.forall_mem_nil _⟩

/-- **A statement is written in GLSL as its WGSL line is respelled**, with the type first. -/
theorem Spelled.glslStatement_statement (hp : p.Spelled P) {stmt : Stmt} (hstmt : stmt ∈ p.stmts) :
    glslStatement (statement .wgsl p stmt) = statement .glsl p stmt := by
  obtain ⟨k, hk⟩ := List.mem_iff_getElem?.mp hstmt
  have hlt : k < p.vars.length := by
    rw [← hp.wellFormed.length_stmts]
    exact (List.getElem?_eq_some_iff.mp hk).1
  have hplain : Identifier.Plain (p.varName stmt.var) := by
    rw [hp.wellFormed.var_eq hk, varName, List.getElem?_eq_getElem hlt]
    exact hp.plain _ (List.getElem_mem hlt)
  have htype (t : SocketType) : lex ((typeToken t).spell .glsl) = [(typeToken t).spell .glsl] := by
    cases t <;> decide
  have htokens : lex (spellAll .glsl (p.declaration stmt)) =
      " " :: " " :: "let" :: " " :: p.varName stmt.var :: ":" :: " " ::
        (typeToken (p.varType stmt.var)).spell .glsl ::
          lex (spellAll .glsl (p.assigned stmt.expr)) := by
    have hindent : lex "  " = [" ", " "] := by decide
    have hlet : lex "let" = ["let"] := by decide
    have hblank : lex " " = [" "] := by decide
    have hcolon : lex ": " = [":", " "] := by decide
    rw [(p.row_declaration stmt).lex_spellAll, (p.row_assigned stmt.expr).lex_spellAll]
    simp only [declaration, List.flatMap_cons, htype]
    simp only [Token.spell, hindent, hlet, hblank, hcolon, lex_of_plain hplain, List.cons_append,
      List.nil_append]
  rw [glslStatement, statement_wgsl,
    (p.row_declaration stmt).respell_spellAll (hp.translates_declaration stmt), htokens, redeclare]
  simp only [String.join_cons, join_lex]
  simp [statement, assigned, spellAll_cons, spellAll_append, Token.spell, toString,
    ← String.toList_inj]

end Program

/-- Names in which words of WGSL occur stay as they are. -/
example : glslStatement "  let n_f32_vec3: vec3<f32> = vec3<f32>(n_sample_pos * globals.time);" =
    "  vec3 n_f32_vec3 = vec3(n_sample_pos * uTime);" := by decide

/-- **Both dialects say the same.** Whatever the graph, its source in either dialect is the fixed
lines of the dialect around the statements and the result. The statements are the same in both
dialects, each the GLSL form of the WGSL line in its place. Both write magenta if and only if the
graph has no output, and otherwise both clamp one expression, in GLSL respelled. -/
theorem lower_dialects (g : Graph) (useWorldPos : Bool) :
    let p := lower g useWorldPos
    (∀ d, (compile g ⟨useWorldPos, d⟩).source =
      unlines (header d useWorldPos ++ opening d useWorldPos ++ p.stmts.map (statement d p) ++
        ending d p ++ ["\x7d"])) ∧
    (∀ d, body d p =
      opening d useWorldPos ++ p.stmts.map (statement d p) ++ ending d p ++ ["\x7d"]) ∧
    p.stmts.map (statement .glsl p) = (p.stmts.map (statement .wgsl p)).map glslStatement ∧
    (∀ d, ending d p = [writeColor d "1.0, 0.0, 1.0, 1.0"] ↔ g.outputNode? = none) ∧
    (g.outputNode? ≠ none → ∃ value, ending .wgsl p = writeHeight .wgsl value ∧
      ending .glsl p = writeHeight .glsl (glslExpression value)) := by
  intro p
  have hp : p.Spelled fun _ => True := spelled_lower trivial (by simp) useWorldPos
  have hworld : p.useWorldPos = useWorldPos := useWorldPos_lower g useWorldPos
  have hmissing : resultOf? p.result = none ↔ g.outputNode? = none := by
    rw [← result_lower_eq_errorColor_iff g useWorldPos]
    cases p.result <;> simp [resultOf?]
  refine ⟨fun d => ?_, fun d => by rw [body, hworld], ?_, fun d => ?_, fun hsink => ?_⟩
  · have hsource : (compile g ⟨useWorldPos, d⟩).source = p.source d := rfl
    rw [hsource, Program.source, body, hworld]
    simp only [List.append_assoc]
  · rw [List.map_map]
    exact List.map_congr_left fun stmt hstmt => (hp.glslStatement_statement hstmt).symm
  · rw [← hmissing, ending_eq]
    cases resultOf? p.result with
    | none => simp
    | some e => simpa using writeHeight_ne d _
  · cases hresult : resultOf? p.result with
    | none => exact absurd (hmissing.mp hresult) hsink
    | some e =>
      refine ⟨spellAll .wgsl (e.tokens p.varName), ?_, ?_⟩
      · rw [ending_eq, hresult]
      · rw [ending_eq, hresult, hp.glslExpression_spellAll]

/-- The statements and the result of one graph, line by line. -/
theorem lower_dialects_drift :
    let p := lower .drift false
    p.stmts.map (statement .wgsl p) =
      ["  let n_p_vector: vec3<f32> = sample_pos;",
        "  let n_t_value: f32 = globals.time;",
        "  let n_m_value: f32 = dot(n_p_vector, vec3<f32>(n_t_value));",
        "  let n_m_vector: vec3<f32> = vec3<f32>(n_m_value);"] ∧
    p.stmts.map (statement .glsl p) =
      ["  vec3 n_p_vector = samplePos;",
        "  float n_t_value = uTime;",
        "  float n_m_value = dot(n_p_vector, vec3(n_t_value));",
        "  vec3 n_m_vector = vec3(n_m_value);"] ∧
    ending .wgsl p = writeHeight .wgsl "n_m_value" ∧
    ending .glsl p = writeHeight .glsl "n_m_value" := by
  intro p
  obtain ⟨-, -, hstatements, -, hending⟩ := lower_dialects .drift false
  obtain ⟨value, hvalue, hglsl⟩ := hending (by decide)
  have hwgsl : p.stmts.map (statement .wgsl p) =
      ["  let n_p_vector: vec3<f32> = sample_pos;",
        "  let n_t_value: f32 = globals.time;",
        "  let n_m_value: f32 = dot(n_p_vector, vec3<f32>(n_t_value));",
        "  let n_m_vector: vec3<f32> = vec3<f32>(n_m_value);"] := by decide +kernel
  have hheight : ending .wgsl p = writeHeight .wgsl "n_m_value" := by decide +kernel
  obtain rfl := writeHeight_inj (hvalue.symm.trans hheight)
  have hname : glslExpression "n_m_value" = "n_m_value" := by decide
  refine ⟨hwgsl, ?_, hheight, by rw [hglsl, hname]⟩
  rw [hstatements, hwgsl]
  decide +kernel

end Heightfield
