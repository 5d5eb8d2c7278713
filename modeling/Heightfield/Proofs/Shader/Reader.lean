import Heightfield.Program.Eval
import Heightfield.Shader.Token
import Mathlib.Data.List.Forall2

/-!
# A reader of shader expressions

The text of an expression, in either dialect, is read from left to right, character by character,
with a stack of the brackets that are open. The reader computes as it goes: it knows the functions
of the shading languages by their names, and is told what the words of the text stand for.

* `Reader.step` reads one character.
* `Reads` says that some tokens are read as a value, and `Chains` that they are read as a row of
  operands with operators between them.
* `Reads.call` is the rule for calls of functions.
-/

namespace Heightfield.Shader

/-! ## The shading language -/

/-- What a part of the text stands for. -/
inductive Datum where
  | signal (x : Signal)
  /-- a whole number -/
  | whole (n : Nat)
  deriving DecidableEq, Repr, Inhabited

/-- The operators that stand between operands. -/
inductive Operator where
  | add | subtract | multiply
  deriving DecidableEq, Repr

namespace Operator

/-- The character of an operator. -/
def symbol : Operator → Char
  | .add => '+'
  | .subtract => '-'
  | .multiply => '*'

/-- The operator that a word stands for. -/
def ofWord? : List Char → Option Operator
  | ['+'] => some .add
  | ['-'] => some .subtract
  | ['*'] => some .multiply
  | _ => none

/-- A word that stands for an operator is its character. -/
theorem eq_of_ofWord? {w : List Char} {o : Operator} (h : ofWord? w = some o) : w = [o.symbol] := by
  unfold ofWord? at h
  split at h
  · obtain rfl := Option.some.inj h
    rfl
  · obtain rfl := Option.some.inj h
    rfl
  · obtain rfl := Option.some.inj h
    rfl
  · cases h

theorem ofWord?_eq_none {w : List Char} (h : ∀ o : Operator, w ≠ [o.symbol]) :
    ofWord? w = none := by
  cases ho : ofWord? w with
  | none => rfl
  | some o => exact absurd (eq_of_ofWord? ho) (h o)

/-- The value of an operator on numbers or vectors; a vector may also be multiplied by a number. -/
def apply : Operator → Datum → Datum → Datum
  | .add, .signal (.scalar a), .signal (.scalar b) => .signal (.scalar (a + b))
  | .subtract, .signal (.scalar a), .signal (.scalar b) => .signal (.scalar (a - b))
  | .multiply, .signal (.scalar a), .signal (.scalar b) => .signal (.scalar (a * b))
  | .add, .signal (.vector v), .signal (.vector w) => .signal (.vector (v + w))
  | .subtract, .signal (.vector v), .signal (.vector w) => .signal (.vector (v - w))
  | .multiply, .signal (.vector v), .signal (.vector w) =>
    .signal (.vector (Vec3.zip (· * ·) v w))
  | .multiply, .signal (.vector v), .signal (.scalar a) => .signal (.vector (v * a))
  | _, x, _ => x

end Operator

/-- A suffix selects a component of a vector. -/
def select : List Char → Datum → Datum
  | ['.', 'x'], .signal x => .signal (.scalar x.toVector.x)
  | ['.', 'y'], .signal x => .signal (.scalar x.toVector.y)
  | ['.', 'z'], .signal x => .signal (.scalar x.toVector.z)
  | _, x => x

/-- The functions of one number. -/
def scalarFunction (name : String) (a : Float32) : Signal :=
  match name with
  | "vec3<f32>" => .vector (Vec3.splat a)
  | "vec3" => .vector (Vec3.splat a)
  | "safe_sqrt" => .scalar (safeSqrt a)
  | "abs" => .scalar a.abs
  | "floor" => .scalar (Number.floor a)
  | "ceil" => .scalar (Number.ceil a)
  | "fract" => .scalar (fractionalPart a)
  | "sign" => .scalar (signOf a)
  | "sin" => .scalar (Number.sin a)
  | "cos" => .scalar (Number.cos a)
  | "tan" => .scalar (Number.tan a)
  | _ => .scalar a

/-- The functions of one vector. -/
def vectorFunction (name : String) (v : Vec3) : Signal :=
  match name with
  | "length" => .scalar v.length
  | "snoise" => .scalar (Simplex.noise v)
  | "safe_normalize" => .vector v.normalize
  | "abs" => .vector (v.map Float32.abs)
  | "floor" => .vector (v.map Number.floor)
  | "ceil" => .vector (v.map Number.ceil)
  | "fract" => .vector (v.map fractionalPart)
  | "sin" => .vector (v.map Number.sin)
  | "cos" => .vector (v.map Number.cos)
  | "tan" => .vector (v.map Number.tan)
  | _ => .vector v

/-- The functions of two numbers. -/
def scalarFunction₂ (name : String) (a b : Float32) : Signal :=
  match name with
  | "safe_div" => .scalar (safeDivide a b)
  | "safe_pow" => .scalar (safePower a b)
  | "floored_mod" => .scalar (flooredModulo a b)
  | "min" => .scalar (Number.least a b)
  | "max" => .scalar (Number.greatest a b)
  | _ => .scalar a

/-- The functions of two vectors. -/
def vectorFunction₂ (name : String) (v w : Vec3) : Signal :=
  match name with
  | "safe_div3" => .vector (Vec3.zip safeDivide v w)
  | "cross" => .vector (v.cross w)
  | "dot" => .scalar (v.dot w)
  | "distance" => .scalar (v - w).length
  | "min" => .vector (Vec3.zip Number.least v w)
  | "max" => .vector (Vec3.zip Number.greatest v w)
  | _ => .vector v

/-- The wave type, the direction and the profile that numbers stand for. -/
def waveForm (waveType direction profile : Nat) : WaveType × WaveDirection × WaveProfile :=
  (if waveType = 1 then .rings else .bands,
    if direction = 1 then .y else if direction = 2 then .z else if direction = 3 then .diagonal
      else .x,
    if profile = 1 then .saw else .sine)

/-- The value of a function by its name. A bracket without a name before it encloses a value. -/
def apply (name : String) : List Datum → Datum
  | [x] =>
    match name, x with
    | "", x => x
    | name, .signal (.scalar a) => .signal (scalarFunction name a)
    | name, .signal (.vector v) => .signal (vectorFunction name v)
    | _, x => x
  | [.signal (.scalar a), .signal (.scalar b)] => .signal (scalarFunction₂ name a b)
  | [.signal (.vector v), .signal (.vector w)] => .signal (vectorFunction₂ name v w)
  | [.signal (.scalar a), .signal (.scalar b), .signal (.scalar c)] => .signal (.vector ⟨a, b, c⟩)
  | [.signal (.vector point), .signal (.scalar phase), .signal (.scalar waveScale),
      .signal (.scalar distortion), .whole detail, .signal (.scalar detailScale),
      .signal (.scalar detailRoughness), .whole waveType, .whole direction, .whole profile] =>
    let (waveType, direction, profile) := waveForm waveType direction profile
    let settings : WaveSettings :=
      ⟨waveType, direction, profile, waveScale, distortion, detail, detailScale, detailRoughness⟩
    .signal (.scalar (settings.texture point phase))
  | _ => default

/-! ## The reader -/

/-- The operand that is being read. -/
inductive Operand where
  /-- a word, so far -/
  | word (w : List Char)
  /-- the value of a bracket, and what follows it so far -/
  | group (x : Datum) (suffix : List Char)
  deriving DecidableEq, Repr

/-- A bracket that is open. -/
structure Level where
  /-- the word before the bracket -/
  head : List Char
  /-- the values of the arguments that are complete -/
  arguments : List Datum
  /-- the value of the operands of the last argument -/
  value : Option Datum
  /-- the operator behind them -/
  operator : Option Operator
  deriving DecidableEq, Repr

/-- A bracket without arguments. -/
def Level.start (head : List Char) : Level := ⟨head, [], none, none⟩

instance : Inhabited Level := ⟨.start []⟩

namespace Level

/-- Adds an operand. -/
def append (l : Level) (x : Datum) : Level :=
  let value := match l.value, l.operator with
    | some a, some o => o.apply a x
    | _, _ => x
  { l with value := some value, operator := none }

/-- Adds what has been read, given what words stand for. -/
def take (words : List Char → Datum) (l : Level) : Operand → Level
  | .word [] => l
  | .word w =>
    match Operator.ofWord? w with
    | some o => { l with operator := some o }
    | none => l.append (words w)
  | .group x suffix => l.append (select suffix x)

/-- Ends the last argument. -/
def close (l : Level) : Level :=
  ⟨l.head, l.arguments ++ [l.value.getD default], none, none⟩

@[simp] theorem take_nil (words : List Char → Datum) (l : Level) : l.take words (.word []) = l :=
  rfl

@[simp] theorem take_symbol (words : List Char → Datum) (l : Level) (o : Operator) :
    l.take words (.word [o.symbol]) = { l with operator := some o } := by
  cases o <;> rfl

end Level

/-- The state of reading: the operand that is being read, the bracket that it stands in, and the
brackets around that one. -/
structure Reader where
  operand : Operand
  level : Level
  outer : List Level
  deriving DecidableEq, Repr

/-- The characters that end a word. -/
def isDelimiter (c : Char) : Bool := c = '(' || c = ')' || c = ',' || c = ' '

/-- Nothing in a text ends a word. -/
def Unbroken (cs : List Char) : Prop := ∀ c ∈ cs, isDelimiter c = false

instance : DecidablePred Unbroken := fun cs => List.decidableBAll (isDelimiter · = false) cs

theorem unbroken_cons {c : Char} {cs : List Char} :
    Unbroken (c :: cs) ↔ isDelimiter c = false ∧ Unbroken cs :=
  List.forall_mem_cons

namespace Reader

/-- Adds a character to an operand. -/
def push (c : Char) : Operand → Operand
  | .word w => .word (w ++ [c])
  | .group x suffix => .group x (suffix ++ [c])

/-- The word before a bracket. -/
def headOf : Operand → List Char
  | .word w => w
  | .group _ suffix => suffix

/-- Reads one character. -/
def step (words : List Char → Datum) (r : Reader) (c : Char) : Reader :=
  if c = '(' then ⟨.word [], .start (headOf r.operand), r.level :: r.outer⟩
  else if c = ')' then
    let l := (r.level.take words r.operand).close
    ⟨.group (apply (String.ofList l.head) l.arguments) [], r.outer.headD default, r.outer.tail⟩
  else if c = ',' then ⟨.word [], (r.level.take words r.operand).close, r.outer⟩
  else if c = ' ' then ⟨.word [], r.level.take words r.operand, r.outer⟩
  else ⟨push c r.operand, r.level, r.outer⟩

@[simp] theorem step_open (words : List Char → Datum) (r : Reader) :
    r.step words '(' = ⟨.word [], .start (headOf r.operand), r.level :: r.outer⟩ := rfl

@[simp] theorem step_close (words : List Char → Datum) (r : Reader) :
    r.step words ')' =
      let l := (r.level.take words r.operand).close
      ⟨.group (apply (String.ofList l.head) l.arguments) [], r.outer.headD default,
        r.outer.tail⟩ := rfl

@[simp] theorem step_comma (words : List Char → Datum) (r : Reader) :
    r.step words ',' = ⟨.word [], (r.level.take words r.operand).close, r.outer⟩ := rfl

@[simp] theorem step_blank (words : List Char → Datum) (r : Reader) :
    r.step words ' ' = ⟨.word [], r.level.take words r.operand, r.outer⟩ := rfl

@[simp] theorem step_symbol (words : List Char → Datum) (r : Reader) (o : Operator) :
    r.step words o.symbol = ⟨push o.symbol r.operand, r.level, r.outer⟩ := by
  cases o <;> rfl

/-- Reads characters in turn. -/
def read (words : List Char → Datum) (r : Reader) (cs : List Char) : Reader :=
  cs.foldl (step words) r

variable {words : List Char → Datum} {level : Level} {outer : List Level}

@[simp] theorem read_nil (r : Reader) : r.read words [] = r := rfl

@[simp] theorem read_cons (r : Reader) (c : Char) (cs : List Char) :
    r.read words (c :: cs) = (r.step words c).read words cs := rfl

theorem read_append (r : Reader) (cs cs' : List Char) :
    r.read words (cs ++ cs') = (r.read words cs).read words cs' :=
  List.foldl_append

theorem step_of_not_isDelimiter (r : Reader) {c : Char} (h : isDelimiter c = false) :
    r.step words c = ⟨push c r.operand, r.level, r.outer⟩ := by
  simp only [isDelimiter, Bool.or_eq_false_iff, decide_eq_false_iff_not] at h
  obtain ⟨⟨⟨hopen, hclose⟩, hcomma⟩, hblank⟩ := h
  rw [step, if_neg hopen, if_neg hclose, if_neg hcomma, if_neg hblank]

/-- Characters that end no word are added to the word that is being read. -/
theorem read_word {w cs : List Char} (h : Unbroken cs) :
    (Reader.mk (.word w) level outer).read words cs = ⟨.word (w ++ cs), level, outer⟩ := by
  induction cs generalizing w with
  | nil => rw [List.append_nil, read_nil]
  | cons c cs ih =>
    rw [unbroken_cons] at h
    rw [read_cons, step_of_not_isDelimiter _ h.1, push, ih h.2, List.append_assoc,
      List.singleton_append]

/-- Behind a bracket they are added to what follows it. -/
theorem read_suffix {x : Datum} {suffix cs : List Char} (h : Unbroken cs) :
    (Reader.mk (.group x suffix) level outer).read words cs =
      ⟨.group x (suffix ++ cs), level, outer⟩ := by
  induction cs generalizing suffix with
  | nil => rw [List.append_nil, read_nil]
  | cons c cs ih =>
    rw [unbroken_cons] at h
    rw [read_cons, step_of_not_isDelimiter _ h.1, push, ih h.2, List.append_assoc,
      List.singleton_append]

end Reader

/-! ## Characters of tokens -/

/-- The characters of tokens in a row, in a dialect. -/
def chars (d : Dialect) (ts : List Token) : List Char := ts.flatMap fun t => (t.spell d).toList

variable {d : Dialect}

@[simp] theorem chars_nil : chars d [] = [] := rfl

@[simp] theorem chars_cons (t : Token) (ts : List Token) :
    chars d (t :: ts) = (t.spell d).toList ++ chars d ts := rfl

@[simp] theorem chars_append (ts ts' : List Token) :
    chars d (ts ++ ts') = chars d ts ++ chars d ts' :=
  List.flatMap_append

@[simp] theorem spell_symbol (s : String) : (Token.symbol s).spell d = s := rfl

@[simp] theorem spell_word (s : String) : (Token.word s).spell d = s := rfl

theorem chars_singleton (t : Token) : chars d [t] = (t.spell d).toList := by simp

theorem toList_spellAll (ts : List Token) : (spellAll d ts).toList = chars d ts := by
  rw [spellAll, String.toList_join, List.flatMap_map, chars]

/-! ## Rules of reading -/

/-- Tokens are read as one operand of a value. -/
def Reads (d : Dialect) (words : List Char → Datum) (ts : List Token) (x : Datum) : Prop :=
  ∃ operand, (∀ l : Level, l.take words operand = l.append x) ∧
    ∀ level outer, (Reader.mk (.word []) level outer).read words (chars d ts) =
      ⟨operand, level, outer⟩

/-- Tokens are read as the operands of an argument. -/
def Chains (d : Dialect) (words : List Char → Datum) (ts : List Token) (x : Datum) : Prop :=
  ∀ head arguments outer, ∃ operand level,
    (Reader.mk (.word []) ⟨head, arguments, none, none⟩ outer).read words (chars d ts) =
        ⟨operand, level, outer⟩ ∧
      level.take words operand = ⟨head, arguments, some x, none⟩

variable {words : List Char → Datum} {ts ts' : List Token} {x y : Datum}

/-- A word that is no operator is read as what it stands for. -/
theorem Reads.word (hchars : Unbroken (chars d ts)) (hnil : chars d ts ≠ [])
    (hno : Operator.ofWord? (chars d ts) = none) : Reads d words ts (words (chars d ts)) := by
  refine ⟨.word (chars d ts), fun l => ?_, fun level outer => ?_⟩
  · obtain ⟨c, cs, hcs⟩ := List.exists_cons_of_ne_nil hnil
    rw [hcs] at hno ⊢
    rw [Level.take, hno]
    simp
  · rw [Reader.read_word hchars, List.nil_append]

/-- An operand is a row of one. -/
theorem Reads.chains (h : Reads d words ts x) : Chains d words ts x := by
  obtain ⟨operand, htake, hread⟩ := h
  intro head arguments outer
  exact ⟨operand, _, hread _ outer, htake _⟩

/-- An operator takes what stands before it and the operand behind it. -/
theorem Chains.operate (h : Chains d words ts x) (o : Operator) (h' : Reads d words ts' y)
    {s : String} (hs : s.toList = [' ', o.symbol, ' ']) :
    Chains d words (ts ++ .symbol s :: ts') (o.apply x y) := by
  intro head arguments outer
  obtain ⟨operand, level, hread, htake⟩ := h head arguments outer
  obtain ⟨operand', htake', hread'⟩ := h'
  refine ⟨operand', ⟨head, arguments, some x, some o⟩, ?_, ?_⟩
  · have hsymbol : (Reader.mk operand level outer).read words [' ', o.symbol, ' '] =
        ⟨.word [], ⟨head, arguments, some x, some o⟩, outer⟩ := by
      simp [htake, Reader.push]
    rw [chars_append, Reader.read_append, hread, chars_cons, Reader.read_append]
    rw [Token.spell, hs, hsymbol, hread']
  · rw [htake', Level.append]

/-- Brackets around arguments: the function of the word before them is applied. -/
theorem read_brackets {tss : List (List Token)} {xs : List Datum}
    (h : List.Forall₂ (Chains d words) tss xs) (hne : tss ≠ []) {w : List Char} {level : Level}
    {outer : List Level} :
    (Reader.mk (.word w) level outer).read words (chars d (parens (commas tss))) =
      ⟨.group (apply (String.ofList w) xs) [], level, outer⟩ := by
  -- behind the opening bracket, after some of the arguments
  have harguments (done : List Datum) :
      (Reader.mk (.word []) ⟨w, done, none, none⟩ (level :: outer)).read words
          (chars d (commas tss) ++ [')']) =
        ⟨.group (apply (String.ofList w) (done ++ xs)) [], level, outer⟩ := by
    induction h generalizing done with
    | nil => exact absurd rfl hne
    | @cons ts x tss xs hts hrest ih =>
      obtain ⟨operand, l, hread, htake⟩ := hts w done (level :: outer)
      cases hrest with
      | nil =>
        rw [commas, Reader.read_append, hread]
        simp [htake, Level.close]
      | @cons ts' x' tss' xs' hts' hrest' =>
        have hcommas : chars d (commas (ts :: ts' :: tss')) =
            chars d ts ++ ([',', ' '] ++ chars d (commas (ts' :: tss'))) := by
          have hsplit : commas (ts :: ts' :: tss') =
            ts ++ .symbol ", " :: commas (ts' :: tss') := rfl
          rw [hsplit, chars_append, chars_cons, spell_symbol]
          rfl
        have hcomma : (Reader.mk operand l (level :: outer)).read words [',', ' '] =
            ⟨.word [], ⟨w, done ++ [x], none, none⟩, level :: outer⟩ := by
          simp [htake, Level.close]
        rw [hcommas, List.append_assoc, Reader.read_append, hread, List.append_assoc,
          Reader.read_append, hcomma, ih (by simp)]
        simp
  have hparens : chars d (parens (commas tss)) = '(' :: (chars d (commas tss) ++ [')']) := by
    rw [parens, chars_append, chars_cons, spell_symbol, chars_singleton, spell_symbol]
    rfl
  have hopen : (Reader.mk (.word w) level outer).step words '(' =
      ⟨.word [], .start w, level :: outer⟩ := Reader.step_open words _
  rw [hparens, Reader.read_cons, hopen]
  exact harguments []

/-- A call of a function is read as the value of the function. -/
theorem Reads.call {t : Token} {tss : List (List Token)} {xs : List Datum}
    (h : List.Forall₂ (Chains d words) tss xs) (hne : tss ≠ [])
    (hchars : Unbroken (t.spell d).toList) :
    Reads d words (t :: parens (commas tss)) (apply (t.spell d) xs) := by
  refine ⟨.group (apply (t.spell d) xs) [], fun l => rfl, fun level outer => ?_⟩
  rw [chars_cons, Reader.read_append, Reader.read_word hchars, read_brackets h hne,
    List.nil_append, String.ofList_toList]

/-- Brackets around a value do not change it. -/
theorem Chains.parens (h : Chains d words ts x) : Reads d words (parens ts) x := by
  have hrow : List.Forall₂ (Chains d words) [ts] [x] := .cons h .nil
  exact ⟨.group x [], fun _ => rfl, fun _ _ => read_brackets hrow (List.cons_ne_nil _ _)⟩

/-- A component of a value in brackets is selected. -/
theorem Chains.select_parens (h : Chains d words ts x) {suffix : List Token}
    (hchars : Unbroken (chars d suffix)) :
    Reads d words (Shader.parens ts ++ suffix) (select (chars d suffix) x) := by
  have hrow : List.Forall₂ (Chains d words) [ts] [x] := .cons h .nil
  refine ⟨.group x (chars d suffix), fun _ => rfl, fun level outer => ?_⟩
  have hbrackets : (Reader.mk (.word []) level outer).read words (chars d (Shader.parens ts)) =
      ⟨.group x [], level, outer⟩ := read_brackets hrow (List.cons_ne_nil _ _)
  rw [chars_append, Reader.read_append, hbrackets, Reader.read_suffix hchars, List.nil_append]

/-- Tokens are read in one way only. -/
theorem Reads.unique (h : Reads d words ts x) (h' : Reads d words ts' y)
    (hchars : chars d ts = chars d ts') : x = y := by
  obtain ⟨operand, htake, hread⟩ := h
  obtain ⟨operand', htake', hread'⟩ := h'
  -- both readings of the text, started alike, end in one state
  have hsame := hread (.start []) []
  rw [hchars, hread'] at hsame
  obtain rfl := (Reader.mk.inj hsame).1
  have hvalue := (htake (.start [])).symm.trans (htake' (.start []))
  exact Option.some.inj (Level.mk.inj hvalue).2.2.1

end Heightfield.Shader
