import Heightfield.Proofs.Program.Legible
import Heightfield.Proofs.Shader.Reader

/-!
# The text of an expression means the expression

Given what the variables hold, the text of a typed expression is read as the value that the
expression has. A text is read in one way only, so expressions with one text have one value.

* `wordValue` says what the words of a text stand for.
* `Expr.HasType.reads` is the reading of an expression.
* `Expr.HasType.eval_eq` compares two expressions with one text, which may have variables of their
  own; `Expr.eval_eq_of_spellAll_eq` is the case of common variables.
-/

namespace Heightfield.Shader

open Number

/-! ## Words -/

open Classical in
/-- The number that a word spells: a whole number, or a number with a point. -/
noncomputable def numberOf (w : List Char) : Datum :=
  if h : ∃ n, Nat.toDigits 10 n = w then .whole h.choose
  else if h : ∃ x, Regular x ∧ (formatFloat x).toList = w then .signal (.scalar h.choose)
  else default

/-- What a word stands for, given the names of the variables, what they hold, and a sample. -/
noncomputable def wordValue (d : Dialect) (names : List String) (r : Registers) (s : Sample)
    (w : List Char) : Datum :=
  let stem := w.takeWhile (· ≠ '.')
  let suffix := w.dropWhile (· ≠ '.')
  if w = (Token.time.spell d).toList then .signal (.scalar s.time)
  else if stem = (Token.position.spell d).toList then select suffix (.signal (.vector s.position))
  else
    match names.findIdx? (·.toList = stem) with
    | some i => select suffix (.signal (r.read i))
    | none => numberOf w

theorem numberOf_toDigits (n : Nat) : numberOf (Nat.toDigits 10 n) = .whole n := by
  have h : ∃ k, Nat.toDigits 10 k = Nat.toDigits 10 n := ⟨n, rfl⟩
  have hchoose := congrArg (Nat.ofDigitChars 10 · 0) h.choose_spec
  simp only [Nat.ofDigitChars_ten_toDigits] at hchoose
  rw [numberOf, dif_pos h, hchoose]

theorem numberOf_formatFloat {x : Float32} (hx : Regular x) :
    numberOf (formatFloat x).toList = .signal (.scalar x) := by
  have hwhole : ¬ ∃ n, Nat.toDigits 10 n = (formatFloat x).toList := by
    rintro ⟨n, hn⟩
    -- a whole number has no point
    obtain ⟨t, ht⟩ := exists_pointed hx
    have hpoint : '.' ∈ Nat.toDigits 10 n := by
      rw [hn, ht, Layout.Pointed.text]
      simp
    exact absurd (isDigit_toDigits hpoint) (by decide)
  have h : ∃ y, Regular y ∧ (formatFloat y).toList = (formatFloat x).toList := ⟨x, hx, rfl⟩
  rw [numberOf, dif_neg hwhole, dif_pos h]
  have hchoose := h.choose_spec
  -- the number that was chosen has the same text, so it is the same number
  rw [eq_of_formatFloat_eq hchoose.1 hx (String.toList_inj.mp hchoose.2)]

/-- The names of variables are told from each other and from everything else. -/
structure Naming (names : List String) : Prop where
  nodup : names.Nodup
  plain : ∀ name ∈ names, Identifier.Plain name

section Words

variable {d : Dialect} {names : List String} {r : Registers} {s : Sample}

theorem wordValue_time :
    wordValue d names r s (Token.time.spell d).toList = .signal (.scalar s.time) := by
  rw [wordValue, if_pos rfl]

/-- The parts of a word before and from a point. -/
theorem takeWhile_stem {stem suffix : List Char} (hstem : '.' ∉ stem)
    (hsuffix : suffix.head?.all (· = '.') = true) :
    (stem ++ suffix).takeWhile (· ≠ '.') = stem ∧
      (stem ++ suffix).dropWhile (· ≠ '.') = suffix := by
  have hall : ∀ c ∈ stem, decide (c ≠ '.') = true := fun c hc =>
    decide_eq_true fun heq => hstem (heq ▸ hc)
  rw [List.takeWhile_append_of_pos hall, List.dropWhile_append_of_pos hall]
  cases suffix with
  | nil => simp
  | cons c cs =>
    obtain rfl : c = '.' := by simpa using hsuffix
    simp

theorem wordValue_position {suffix : List Char} (hsuffix : suffix.head?.all (· = '.') = true) :
    wordValue d names r s ((Token.position.spell d).toList ++ suffix) =
      select suffix (.signal (.vector s.position)) := by
  have hpoint : '.' ∉ (Token.position.spell d).toList := by cases d <;> decide
  have htime : (Token.position.spell d).toList ++ suffix ≠ (Token.time.spell d).toList := by
    cases d <;> simp [Token.spell]
  obtain ⟨htake, hdrop⟩ := takeWhile_stem hpoint hsuffix
  rw [wordValue, htake, hdrop, if_neg htime, if_pos rfl]

/-- The words for the time and the position start neither like a name nor like a number. -/
theorem spell_starts (d : Dialect) :
    (∃ c cs, (Token.time.spell d).toList = c :: cs ∧
      c ≠ 'n' ∧ c.isDigit = false ∧ c ≠ '-') ∧
    ∃ c cs, (Token.position.spell d).toList = c :: cs ∧
      c ≠ 'n' ∧ c.isDigit = false ∧ c ≠ '-' := by
  cases d <;> exact ⟨⟨_, _, rfl, by decide⟩, ⟨_, _, rfl, by decide⟩⟩

/-- A plain name is not one of the other words. -/
theorem plain_ne {name : String} (h : Identifier.Plain name) {c : Char} {cs : List Char}
    (hc : c ≠ 'n') : name.toList ≠ c :: cs := by
  intro heq
  obtain ⟨rest, hrest⟩ := h.starts
  rw [heq] at hrest
  exact hc (List.cons.inj hrest).1.symm

theorem not_mem_point {name : String} (h : Identifier.Plain name) : '.' ∉ name.toList :=
  fun hmem => absurd (h.chars '.' hmem) (by decide)

theorem wordValue_name (hnames : Naming names) {i : Nat} {name : String}
    (hi : names[i]? = some name) {suffix : List Char}
    (hsuffix : suffix.head?.all (· = '.') = true) :
    wordValue d names r s (name.toList ++ suffix) = select suffix (.signal (r.read i)) := by
  have hplain := hnames.plain name (List.mem_of_getElem? hi)
  obtain ⟨rest, hrest⟩ := hplain.starts
  obtain ⟨htake, hdrop⟩ := takeWhile_stem (not_mem_point hplain) hsuffix
  -- no name before it is the same, so the search ends at the name itself
  have hfind : names.findIdx? (·.toList = name.toList) = some i := by
    obtain ⟨hlt, hname⟩ := List.getElem?_eq_some_iff.mp hi
    rw [List.findIdx?_eq_some_iff_getElem]
    refine ⟨hlt, by simp [hname], fun j hj heq => ?_⟩
    have hsame : names[j] = names[i] := by
      rw [hname]
      exact String.toList_inj.mp (of_decide_eq_true heq)
    exact absurd (hnames.nodup.getElem_inj_iff.mp hsame) (by omega)
  obtain ⟨⟨c, cs, htime, hc⟩, ⟨c', cs', hposition, hc'⟩⟩ := spell_starts d
  rw [wordValue, htake, hdrop, if_neg, if_neg, hfind]
  · rw [hposition]
    exact plain_ne hplain hc'.1
  · rw [htime, ← hrest]
    exact fun heq => hc.1 (List.cons.inj heq).1.symm

/-- A word that starts like a number spells one. -/
theorem wordValue_number (hnames : Naming names) {c : Char} {cs : List Char}
    (hc : c.isDigit = true ∨ c = '-') : wordValue d names r s (c :: cs) = numberOf (c :: cs) := by
  have hne : ∀ d, d.isDigit = false → d ≠ '-' → c ≠ d := by
    rintro d hd hminus rfl
    rcases hc with hc | hc
    · rw [hd] at hc
      cases hc
    · exact hminus hc
  have htake : (c :: cs).takeWhile (· ≠ '.') = c :: cs.takeWhile (· ≠ '.') := by
    simp [hne '.' (by decide) (by decide)]
  have hfind : names.findIdx? (·.toList = c :: cs.takeWhile (· ≠ '.')) = none := by
    rw [List.findIdx?_eq_none_iff]
    intro name hname
    exact decide_eq_false (plain_ne (hnames.plain name hname) (hne 'n' (by decide) (by decide)))
  obtain ⟨⟨d₁, ds₁, htime, hd₁⟩, ⟨d₂, ds₂, hposition, hd₂⟩⟩ := spell_starts d
  rw [wordValue, htake, if_neg, if_neg, hfind]
  · rw [hposition]
    exact fun heq => hne d₂ hd₂.2.1 hd₂.2.2 (List.cons.inj heq).1
  · rw [htime]
    exact fun heq => hne d₁ hd₁.2.1 hd₁.2.2 (List.cons.inj heq).1

/-! ## Tokens -/

/-- A character of a plain name ends no word. -/
theorem isDelimiter_of_isPlain {c : Char} (h : Identifier.IsPlain c) : isDelimiter c = false := by
  have hne : ∀ d, ¬ Identifier.IsPlain d → c ≠ d := by
    rintro d hd rfl
    exact hd h
  simp [isDelimiter, hne '(' (by decide), hne ')' (by decide), hne ',' (by decide),
    hne ' ' (by decide)]

/-- Neither does a digit. -/
theorem isDelimiter_of_isDigit {c : Char} (h : c.isDigit = true) : isDelimiter c = false :=
  isDelimiter_of_isPlain (Identifier.isPlain_of_isDigit h)

theorem reads_whole (hnames : Naming names) (n : Nat) :
    Reads d (wordValue d names r s) [.whole n] (.whole n) := by
  have htext : chars d [.whole n] = Nat.toDigits 10 n := by
    simp [Token.spell]
  have hdigits : ∀ c ∈ Nat.toDigits 10 n, c.isDigit = true := fun c => isDigit_toDigits
  have hno : Operator.ofWord? (Nat.toDigits 10 n) = none := by
    refine Operator.ofWord?_eq_none fun o ho => ?_
    have := hdigits o.symbol (by simp [ho])
    cases o <;> exact absurd this (by decide)
  obtain ⟨c, cs, hcs⟩ := List.exists_cons_of_ne_nil (Nat.toDigits_ne_nil (n := n) (b := 10))
  have hvalue : wordValue d names r s (Nat.toDigits 10 n) = .whole n := by
    rw [← numberOf_toDigits, hcs, wordValue_number hnames (.inl (hdigits c (by simp [hcs])))]
  rw [← hvalue, ← htext]
  refine Reads.word ?_ ?_ ?_ <;> rw [htext]
  · exact fun c hc => isDelimiter_of_isDigit (hdigits c hc)
  · exact Nat.toDigits_ne_nil
  · exact hno

theorem reads_number (hnames : Naming names) {x : Float32} (hx : Regular x) :
    Reads d (wordValue d names r s) [.number x] (.signal (.scalar x)) := by
  obtain ⟨t, ht⟩ := exists_pointed hx
  obtain ⟨c, cs, hwhole⟩ := List.exists_cons_of_ne_nil t.whole_ne_nil
  have hchars : Unbroken (formatFloat x).toList := by
    intro b hb
    rcases forall_mem_formatFloat hx b hb with hdigit | rfl | rfl
    · exact isDelimiter_of_isDigit hdigit
    · rfl
    · rfl
  have hstart : ∃ b bs, (formatFloat x).toList = b :: bs ∧ (b.isDigit = true ∨ b = '-') := by
    rw [ht, signText]
    split
    · exact ⟨_, _, rfl, .inr rfl⟩
    · exact ⟨c, cs ++ '.' :: t.places, by simp [Layout.Pointed.text, hwhole],
        .inl (t.digits c (by simp [hwhole]))⟩
  have hno : Operator.ofWord? (formatFloat x).toList = none := by
    refine Operator.ofWord?_eq_none fun o ho => ?_
    -- there is a digit and a point at least
    rw [ht, Layout.Pointed.text, hwhole] at ho
    have hlength := congrArg List.length ho
    simp only [List.length_append, List.length_cons, List.length_nil] at hlength
    omega
  obtain ⟨b, bs, hb, hdigit⟩ := hstart
  have hvalue : wordValue d names r s (formatFloat x).toList = .signal (.scalar x) := by
    rw [← numberOf_formatFloat hx, hb, wordValue_number hnames hdigit]
  have htext : chars d [.number x] = (formatFloat x).toList := chars_singleton _
  rw [← hvalue, ← htext]
  refine Reads.word ?_ ?_ ?_ <;> rw [htext]
  · exact hchars
  · rw [hb]
    exact List.cons_ne_nil _ _
  · exact hno

/-- A number as an operand is read as the number, be it in brackets. -/
theorem reads_literal (hnames : Naming names) {x : Float32} (hx : Regular x) :
    Reads d (wordValue d names r s) (literal x) (.signal (.scalar x)) := by
  unfold literal
  split
  · exact (reads_number hnames hx).chains.parens
  · exact reads_number hnames hx

theorem reads_time : Reads d (wordValue d names r s) [.time] (.signal (.scalar s.time)) := by
  have htext : chars d [.time] = (Token.time.spell d).toList := chars_singleton _
  rw [← wordValue_time (d := d) (r := r), ← htext]
  refine Reads.word ?_ ?_ ?_ <;> cases d <;> decide

/-- The position, and its components. -/
theorem reads_position (suffix : List Token) (hchars : Unbroken (chars d suffix))
    (hsuffix : (chars d suffix).head?.all (· = '.') = true) :
    Reads d (wordValue d names r s) (.position :: suffix)
      (select (chars d suffix) (.signal (.vector s.position))) := by
  rw [← wordValue_position (r := r) hsuffix]
  refine Reads.word ?_ (by cases d <;> simp [Token.spell]) ?_
  · intro c hc
    rcases List.mem_append.mp hc with hc | hc
    · have hposition : Unbroken (Token.position.spell d).toList := by cases d <;> decide
      exact hposition c hc
    · exact hchars c hc
  · refine Operator.ofWord?_eq_none fun o ho => ?_
    have hlength := congrArg List.length ho
    cases d <;> simp [Token.spell] at hlength

/-- A variable, and its components. -/
theorem reads_name (hnames : Naming names) {i : Nat} {name : String}
    (hi : names[i]? = some name) (suffix : List Token)
    (hchars : Unbroken (chars d suffix))
    (hsuffix : (chars d suffix).head?.all (· = '.') = true) :
    Reads d (wordValue d names r s) (.word name :: suffix)
      (select (chars d suffix) (.signal (r.read i))) := by
  have hplain := hnames.plain name (List.mem_of_getElem? hi)
  obtain ⟨rest, hrest⟩ := hplain.starts
  rw [← wordValue_name hnames hi hsuffix]
  refine Reads.word ?_ ?_ ?_
  · intro c hc
    rcases List.mem_append.mp hc with hc | hc
    · exact isDelimiter_of_isPlain (hplain.chars c hc)
    · exact hchars c hc
  · simp [Token.spell, ← hrest]
  · refine Operator.ofWord?_eq_none fun o ho => ?_
    have hlength := congrArg List.length ho
    simp [Token.spell, ← hrest] at hlength

/-- The letters of a component behind a point. -/
theorem unbroken_axis (axis : Axis) :
    Unbroken (chars d [.symbol ".", .word axis.letter]) := by
  cases d <;> cases axis <;> decide

theorem head?_axis (axis : Axis) :
    (chars d [.symbol ".", .word axis.letter]).head?.all (· = '.') = true := by
  cases d <;> cases axis <;> decide

/-- The characters behind a point select the component. -/
theorem select_axis (axis : Axis) (x : Signal) :
    select (chars d [.symbol ".", .word axis.letter]) (.signal x) =
      .signal (.scalar (axis.of x.toVector)) := by
  cases d <;> cases axis <;> rfl

end Words

/-! ## Phrases -/

section Phrases

variable {d : Dialect} {words : List Char → Datum} {a b c : List Token} {x y : Datum}

theorem Chains.call₁ (name : String) (h : Chains d words a x)
    (hname : Unbroken name.toList) :
    Reads d words (call name [a]) (apply name [x]) :=
  Reads.call (t := .word name) (.cons h .nil) (List.cons_ne_nil _ _) hname

theorem Reads.call₂ (name : String) (h : Reads d words a x) (h' : Reads d words b y)
    (hname : Unbroken name.toList) :
    Reads d words (Shader.call name [a, b]) (apply name [x, y]) :=
  Reads.call (t := .word name) (.cons h.chains (.cons h'.chains .nil)) (List.cons_ne_nil _ _) hname

theorem unbroken_vectorType (d : Dialect) : Unbroken (Token.vectorType.spell d).toList := by
  cases d <;> decide

/-- A vector from one number for all components. -/
theorem Reads.splat {u : Float32} (h : Reads d words a (.signal (.scalar u))) :
    Reads d words (vectorOf [a]) (.signal (.vector (Vec3.splat u))) := by
  have hread := Reads.call (t := .vectorType) (.cons h.chains .nil) (List.cons_ne_nil _ _)
    (unbroken_vectorType d)
  cases d <;> exact hread

/-- A vector from its components. -/
theorem Reads.triple {u v w : Float32} (ha : Reads d words a (.signal (.scalar u)))
    (hb : Reads d words b (.signal (.scalar v))) (hc : Reads d words c (.signal (.scalar w))) :
    Reads d words (vectorOf [a, b, c]) (.signal (.vector ⟨u, v, w⟩)) :=
  Reads.call (t := .vectorType) (.cons ha.chains <| .cons hb.chains <| .cons hc.chains .nil)
    (List.cons_ne_nil _ _) (unbroken_vectorType d)

/-- Operands around an operator, in brackets. -/
theorem Reads.infixOf (h : Reads d words a x) (o : Operator) (h' : Reads d words b y) {s : String}
    (hs : s.toList = [' ', o.symbol, ' ']) : Reads d words (infixOf s a b) (o.apply x y) :=
  (h.chains.operate o h' hs).parens

theorem reads_scalarPhrase (hhalf : Reads d words [.number 0.5] (.signal (.scalar 0.5)))
    (op : ScalarOperation) {u v : Float32} (ha : Reads d words a (.signal (.scalar u)))
    (hb : Reads d words b (.signal (.scalar v))) :
    Reads d words (scalarPhrase op a b) (.signal (.scalar (op.apply u v))) := by
  cases op with
  | add => exact ha.infixOf .add hb rfl
  | subtract => exact ha.infixOf .subtract hb rfl
  | multiply => exact ha.infixOf .multiply hb rfl
  | divide => exact ha.call₂ "safe_div" hb (by decide)
  | power => exact ha.call₂ "safe_pow" hb (by decide)
  | sqrt => exact ha.chains.call₁ "safe_sqrt" (by decide)
  | absolute => exact ha.chains.call₁ "abs" (by decide)
  | floor => exact ha.chains.call₁ "floor" (by decide)
  | ceil => exact ha.chains.call₁ "ceil" (by decide)
  | round => exact (ha.chains.operate .add hhalf rfl).call₁ "floor" (by decide)
  | fract => exact ha.chains.call₁ "fract" (by decide)
  | modulo => exact ha.call₂ "floored_mod" hb (by decide)
  | minimum => exact ha.call₂ "min" hb (by decide)
  | maximum => exact ha.call₂ "max" hb (by decide)
  | sign => exact ha.chains.call₁ "sign" (by decide)
  | sine => exact ha.chains.call₁ "sin" (by decide)
  | cosine => exact ha.chains.call₁ "cos" (by decide)
  | tangent => exact ha.chains.call₁ "tan" (by decide)

/-- The natural outcome of an operator on vectors. -/
def outcome (op : VectorOperation) (v w : Vec3) (factor : Float32) : Signal :=
  if op.isScalar then .scalar (op.apply v w factor).value else .vector (op.apply v w factor).vector

theorem reads_vectorPhrase (op : VectorOperation) {v w : Vec3} {factor : Float32}
    (ha : Reads d words a (.signal (.vector v))) (hb : Reads d words b (.signal (.vector w)))
    (hc : Reads d words c (.signal (.scalar factor))) :
    Reads d words (vectorPhrase op a b c) (.signal (outcome op v w factor)) := by
  cases op with
  | add => exact ha.infixOf .add hb rfl
  | subtract => exact ha.infixOf .subtract hb rfl
  | multiply => exact ha.infixOf .multiply hb rfl
  | divide => exact ha.call₂ "safe_div3" hb (by decide)
  | scale => exact ha.infixOf .multiply hc rfl
  | crossProduct => exact ha.call₂ "cross" hb (by decide)
  | dotProduct => exact ha.call₂ "dot" hb (by decide)
  | length => exact ha.chains.call₁ "length" (by decide)
  | distance => exact ha.call₂ "distance" hb (by decide)
  | normalize => exact ha.chains.call₁ "safe_normalize" (by decide)
  | floor => exact ha.chains.call₁ "floor" (by decide)
  | ceil => exact ha.chains.call₁ "ceil" (by decide)
  | fraction => exact ha.chains.call₁ "fract" (by decide)
  | absolute => exact ha.chains.call₁ "abs" (by decide)
  | minimum => exact ha.call₂ "min" hb (by decide)
  | maximum => exact ha.call₂ "max" hb (by decide)
  | sine => exact ha.chains.call₁ "sin" (by decide)
  | cosine => exact ha.chains.call₁ "cos" (by decide)
  | tangent => exact ha.chains.call₁ "tan" (by decide)

theorem reads_noisePhrase (hhalf : Reads d words [.number 0.5] (.signal (.scalar 0.5))) {v : Vec3}
    {factor : Float32} (ha : Reads d words a (.signal (.vector v)))
    (hb : Reads d words b (.signal (.scalar factor))) :
    Reads d words (noisePhrase a b) (.signal (.scalar (Simplex.texture v factor))) := by
  have hnoise : Reads d words (call "snoise" [a ++ .symbol " * " :: b])
      (apply "snoise" [.signal (.vector (v * factor))]) :=
    (ha.chains.operate .multiply hb rfl).call₁ "snoise" (by decide)
  have hscaled := hhalf.chains.operate .multiply hnoise (s := " * ") rfl
  have hmoved := hscaled.operate .add hhalf (s := " + ") rfl
  exact hmoved.parens

end Phrases

/-- The settings of a wave are told from their numbers. -/
theorem waveForm_codes (w : WaveSettings) :
    waveForm (waveTypeCode w.waveType) (directionCode w.direction) (profileCode w.profile) =
      (w.waveType, w.direction, w.profile) := by
  obtain ⟨waveType, direction, profile⟩ := w
  cases waveType <;> cases direction <;> cases profile <;> rfl

theorem reads_wavePhrase {d : Dialect} {names : List String} {r : Registers} {s : Sample}
    (hnames : Naming names) {w : WaveSettings} (hw : ∀ x ∈ w.numbers, Regular x)
    {a b : List Token} {v : Vec3} {phase : Float32}
    (ha : Reads d (wordValue d names r s) a (.signal (.vector v)))
    (hb : Reads d (wordValue d names r s) b (.signal (.scalar phase))) :
    Reads d (wordValue d names r s) (wavePhrase w a b) (.signal (.scalar (w.texture v phase))) := by
  simp only [WaveSettings.numbers, List.forall_mem_cons] at hw
  obtain ⟨hscale, hdistortion, hdetailScale, hroughness, -⟩ := hw
  have hwhole (n : Nat) : Chains d (wordValue d names r s) [.whole n] (.whole n) :=
    (reads_whole hnames n).chains
  have hliteral {x : Float32} (hx : Regular x) :
      Chains d (wordValue d names r s) (literal x) (.signal (.scalar x)) :=
    (reads_literal hnames hx).chains
  have hname : Unbroken ((Token.word "wave_texture").spell d).toList := by
    rw [spell_word]
    decide
  have hread := Reads.call (t := .word "wave_texture")
    (.cons ha.chains <| .cons hb.chains <| .cons (hliteral hscale) <|
      .cons (hliteral hdistortion) <| .cons (hwhole w.detail) <| .cons (hliteral hdetailScale) <|
      .cons (hliteral hroughness) <| .cons (hwhole (waveTypeCode w.waveType)) <|
      .cons (hwhole (directionCode w.direction)) <| .cons (hwhole (profileCode w.profile)) .nil)
    (List.cons_ne_nil _ _) hname
  simp only [apply, waveForm_codes] at hread
  exact hread

end Heightfield.Shader

namespace Heightfield

open Shader

/-! ## Expressions -/

theorem Signal.exists_scalar {x : Signal} (h : x.type = .scalar) : ∃ a, x = .scalar a := by
  cases x with
  | scalar a => exact ⟨a, rfl⟩
  | vector v => cases h

theorem Signal.exists_vector {x : Signal} (h : x.type = .vector) : ∃ v, x = .vector v := by
  cases x with
  | scalar a => cases h
  | vector v => exact ⟨v, rfl⟩

namespace Expr

variable {d : Dialect} {types : List SocketType} {names : List String} {name : Nat → String}
  {r : Registers} {s : Sample} {e : Expr} {t : SocketType}

/-- The operand of a number is a number. -/
theorem HasType.reads_scalar {words : List Char → Datum} {ts : List Token}
    (h : e.HasType types .scalar)
    (hr : ∀ i ∈ e.vars, ∀ u, types[i]? = some u → (r.read i).type = u)
    (hread : Reads d words ts (.signal (e.eval r s))) :
    ∃ a, e.eval r s = .scalar a ∧ Reads d words ts (.signal (.scalar a)) := by
  obtain ⟨a, ha⟩ := Signal.exists_scalar (h.type_eval s hr)
  exact ⟨a, ha, ha ▸ hread⟩

/-- The operand of a vector is a vector. -/
theorem HasType.reads_vector {words : List Char → Datum} {ts : List Token}
    (h : e.HasType types .vector)
    (hr : ∀ i ∈ e.vars, ∀ u, types[i]? = some u → (r.read i).type = u)
    (hread : Reads d words ts (.signal (e.eval r s))) :
    ∃ v, e.eval r s = .vector v ∧ Reads d words ts (.signal (.vector v)) := by
  obtain ⟨v, hv⟩ := Signal.exists_vector (h.type_eval s hr)
  exact ⟨v, hv, hv ▸ hread⟩

/-- The text of a typed expression is read as the value of the expression. -/
theorem HasType.reads (h : e.HasType types t) (hnames : Naming names)
    (hname : ∀ i ∈ e.vars, names[i]? = some (name i))
    (hr : ∀ i ∈ e.vars, ∀ u, types[i]? = some u → (r.read i).type = u)
    (hregular : e.Regular) :
    Reads d (wordValue d names r s) (e.tokens name) (.signal (e.eval r s)) := by
  induction h with
  | scalar a => exact reads_literal hnames (hregular a (List.mem_singleton.mpr rfl))
  | vector v =>
    simp only [Expr.Regular, numbers, Vec3.numbers, List.forall_mem_cons] at hregular
    obtain ⟨hx, hy, hz, -⟩ := hregular
    exact (reads_number hnames hx).triple (reads_number hnames hy) (reads_number hnames hz)
  | time => exact reads_time
  | position => exact reads_position [] (by simp [Unbroken]) rfl
  | var hi =>
    exact reads_name hnames (hname _ (List.mem_singleton.mpr rfl)) [] (by simp [Unbroken]) rfl
  | broadcast he ih =>
    obtain ⟨a, ha, hread⟩ := he.reads_scalar hr (ih hname hr hregular)
    rw [eval, ha]
    exact hread.splat
  | @component e axis he ih =>
    have hread := ih hname hr hregular
    rw [eval, ← select_axis]
    -- a variable and the position are written without brackets
    cases e with
    | var i =>
      have hi := hname i (List.mem_singleton.mpr rfl)
      exact reads_name hnames hi _ (unbroken_axis axis) (head?_axis axis)
    | position => exact reads_position _ (unbroken_axis axis) (head?_axis axis)
    | time => cases he
    | _ => exact hread.chains.select_parens (unbroken_axis axis)
  | combine hx hy hz ihx ihy ihz =>
    simp only [Expr.vars, List.forall_mem_append] at hname hr
    simp only [Expr.Regular, numbers, List.forall_mem_append] at hregular
    obtain ⟨a, ha, hreadx⟩ := hx.reads_scalar hr.1.1 (ihx hname.1.1 hr.1.1 hregular.1.1)
    obtain ⟨b, hb, hready⟩ := hy.reads_scalar hr.1.2 (ihy hname.1.2 hr.1.2 hregular.1.2)
    obtain ⟨c, hc, hreadz⟩ := hz.reads_scalar hr.2 (ihz hname.2 hr.2 hregular.2)
    rw [eval, ha, hb, hc]
    exact hreadx.triple hready hreadz
  | math op ha hb iha ihb =>
    simp only [Expr.vars, List.forall_mem_append] at hname hr
    simp only [Expr.Regular, numbers, List.forall_mem_append] at hregular
    obtain ⟨a, hevala, hreada⟩ := ha.reads_scalar hr.1 (iha hname.1 hr.1 hregular.1)
    obtain ⟨b, hevalb, hreadb⟩ := hb.reads_scalar hr.2 (ihb hname.2 hr.2 hregular.2)
    rw [eval, hevala, hevalb]
    exact reads_scalarPhrase (reads_number hnames Number.regular_half) op hreada hreadb
  | vectorMath op ha hb hf iha ihb ihf =>
    simp only [Expr.vars, List.forall_mem_append] at hname hr
    simp only [Expr.Regular, numbers, List.forall_mem_append] at hregular
    obtain ⟨v, hevala, hreada⟩ := ha.reads_vector hr.1.1 (iha hname.1.1 hr.1.1 hregular.1.1)
    obtain ⟨w, hevalb, hreadb⟩ := hb.reads_vector hr.1.2 (ihb hname.1.2 hr.1.2 hregular.1.2)
    obtain ⟨factor, hevalf, hreadf⟩ := hf.reads_scalar hr.2 (ihf hname.2 hr.2 hregular.2)
    rw [eval, hevala, hevalb, hevalf]
    exact reads_vectorPhrase op hreada hreadb hreadf
  | wave settings hp hq ihp ihq =>
    simp only [Expr.vars, List.forall_mem_append] at hname hr
    simp only [Expr.Regular, numbers, List.forall_mem_append] at hregular
    obtain ⟨v, hevalp, hreadp⟩ := hp.reads_vector hr.1 (ihp hname.1 hr.1 hregular.1.2)
    obtain ⟨phase, hevalq, hreadq⟩ := hq.reads_scalar hr.2 (ihq hname.2 hr.2 hregular.2)
    rw [eval, hevalp, hevalq]
    exact reads_wavePhrase hnames hregular.1.1 hreadp hreadq
  | noise hp hf ihp ihf =>
    simp only [Expr.vars, List.forall_mem_append] at hname hr
    simp only [Expr.Regular, numbers, List.forall_mem_append] at hregular
    obtain ⟨v, hevalp, hreadp⟩ := hp.reads_vector hr.1 (ihp hname.1 hr.1 hregular.1)
    obtain ⟨factor, hevalf, hreadf⟩ := hf.reads_scalar hr.2 (ihf hname.2 hr.2 hregular.2)
    rw [eval, hevalp, hevalf]
    exact reads_noisePhrase (reads_number hnames Number.regular_half) hreadp hreadf

/-! ## Expressions with one text -/

/-- Expressions with one text have one value, if the same names stand for their variables. -/
theorem HasType.eval_eq {types' : List SocketType} {name' : Nat → String} {e' : Expr}
    {t' : SocketType} (h : e.HasType types t) (h' : e'.HasType types' t') (hnames : Naming names)
    (hname : ∀ i ∈ e.vars, names[i]? = some (name i))
    (hname' : ∀ i ∈ e'.vars, names[i]? = some (name' i))
    (hr : ∀ i ∈ e.vars, ∀ u, types[i]? = some u → (r.read i).type = u)
    (hr' : ∀ i ∈ e'.vars, ∀ u, types'[i]? = some u → (r.read i).type = u)
    (he : e.Regular) (he' : e'.Regular)
    (htext : chars d (e.tokens name) = chars d (e'.tokens name')) : e.eval r s = e'.eval r s :=
  Datum.signal.inj
    ((h.reads hnames hname hr he).unique (h'.reads hnames hname' hr' he') htext)

end Expr

variable {p : Program} {e e' : Expr} {t t' : SocketType}

/-- The names of the variables of a program. -/
theorem Program.getElem?_names {k : Nat} (hk : k < p.vars.length) :
    (p.vars.map (·.name))[k]? = some (p.varName k) := by
  rw [List.getElem?_map, varName, List.getElem?_eq_getElem hk, Option.map_some, Option.getD_some]

theorem Expr.HasType.getElem?_names (h : e.HasType p.types t) :
    ∀ i ∈ e.vars, (p.vars.map (·.name))[i]? = some (p.varName i) := by
  intro i hi
  have hlt := h.lt_of_mem_vars i hi
  rw [Program.types, List.length_map] at hlt
  exact Program.getElem?_names hlt

/-- **Texts of expressions are unambiguous.** Over variables with distinct plain names, typed
expressions of regular numbers that are written alike, in either dialect, have the same value for
all registers of the declared types and at every sample. -/
theorem Expr.eval_eq_of_spellAll_eq (hnames : Naming (p.vars.map (·.name)))
    (ht : e.HasType p.types t) (ht' : e'.HasType p.types t') (he : e.Regular) (he' : e'.Regular)
    {d : Dialect}
    (htext : spellAll d (e.tokens p.varName) = spellAll d (e'.tokens p.varName))
    {r : Registers} (hr : ∀ k v, p.vars[k]? = some v → (r.read k).type = v.type) (s : Sample) :
    e.eval r s = e'.eval r s := by
  have htypes : ∀ k u, p.types[k]? = some u → (r.read k).type = u := by
    intro k u hu
    rw [Program.types, List.getElem?_map] at hu
    obtain ⟨v, hv, rfl⟩ := Option.map_eq_some_iff.mp hu
    exact hr k v hv
  refine ht.eval_eq (d := d) ht' hnames ht.getElem?_names ht'.getElem?_names
    (fun i _ => htypes i) (fun i _ => htypes i) he he' ?_
  rw [← toList_spellAll, ← toList_spellAll, htext]

/-- Declarations of a number and of a vector. -/
def Program.declarations : Program :=
  ⟨[⟨Identifier.base "a" "value", .scalar⟩, ⟨Identifier.base "b" "vector", .vector⟩], [], .zero,
    false⟩

/-- A constant vector can be written as a literal or put together, and some operators leave operands
out: different expressions, one text. -/
theorem Expr.eval_eq_of_spellAll_eq_sum :
    let e := vectorMath .add (.vector ⟨1, 0.5, 2⟩) (.var 1) (.scalar 0)
    let e' := vectorMath .add (combine (.scalar 1) (.scalar 0.5) (.scalar 2)) (.var 1)
      (.math .sqrt (.var 0) .time)
    e ≠ e' ∧
      spellAll .wgsl (e.tokens Program.declarations.varName) =
        spellAll .wgsl (e'.tokens Program.declarations.varName) ∧
      ∀ r : Registers, (∀ k v, Program.declarations.vars[k]? = some v → (r.read k).type = v.type) →
        ∀ s, e.eval r s = e'.eval r s := by
  intro e e'
  have hnames : Naming (Program.declarations.vars.map (·.name)) := by
    refine ⟨by decide, List.forall_mem_cons.mpr ⟨?_, List.forall_mem_singleton.mpr ?_⟩⟩
    · exact Identifier.plain_base "a" (List.all_eq_true.mp (by decide))
    · exact Identifier.plain_base "b" (List.all_eq_true.mp (by decide))
  have ht : e.HasType Program.declarations.types .vector :=
    .vectorMath .add (.vector _) (.var rfl) (.scalar _)
  have ht' : e'.HasType Program.declarations.types .vector :=
    .vectorMath .add (.combine (.scalar _) (.scalar _) (.scalar _)) (.var rfl)
      (.math .sqrt (.var rfl) .time)
  have htext : spellAll .wgsl (e.tokens Program.declarations.varName) =
      spellAll .wgsl (e'.tokens Program.declarations.varName) :=
    congrArg (spellAll .wgsl) (by decide)
  exact ⟨by decide, htext, fun r hr s =>
    eval_eq_of_spellAll_eq hnames ht ht' (by decide) (by decide) htext hr s⟩

end Heightfield
