import Heightfield.Terrace.Color
import Mathlib.Data.List.TakeWhile

/-!
# The texts of colours

A colour is written as an optional number sign and three or six hexadecimal digits. The reader is
more lenient than that in two ways: it takes any number of signs, and for a pair of digits it also
takes a plus sign and one digit.

* `Color.Pair` is a pair of digits and `Color.LoosePair` what is read as one; `Color.Spells` says
  what colour the characters behind the signs spell, for either kind of pair.
* `Color.parseHex_reads` says of every text which colour is read, if any, and otherwise why not.
* `Color.parseHex_twoSigns` refutes that just the texts of the grammar are read.
-/

namespace Heightfield.Color

open Text (stripBlanks)

variable {c d : Char} {n : ℕ} {p cs rest : List Char} {raw : String} {color : Color}
  {x : Float32}

/-! ## Digits and pairs of digits -/

/-- The character is the hexadecimal digit of a number, in either case. -/
def Digit (c : Char) (n : ℕ) : Prop :=
  n < 16 ∧ (c = n.digitChar ∨ c = n.digitChar.toUpper)

instance : DecidableRel Digit := fun _ _ => inferInstanceAs (Decidable (_ ∧ _))

/-- A digit is read as its number. -/
theorem hexDigit?_of_digit (h : Digit c n) : hexDigit? c = some n := by
  have hread : ∀ m < 16, hexDigit? m.digitChar = some m ∧ hexDigit? m.digitChar.toUpper = some m :=
    by decide
  obtain ⟨hn, rfl | rfl⟩ := h
  · exact (hread n hn).1
  · exact (hread n hn).2

theorem toNat_lt_of_hexDigit? (h : hexDigit? c = some n) : c.toNat < 128 := by
  have hle : ∀ {a b : Char}, a ≤ b → a.toNat ≤ b.toNat := fun h => h
  unfold hexDigit? at h
  split at h
  · next hc =>
    simp only [Char.isDigit, Bool.and_eq_true, decide_eq_true_eq] at hc
    exact (show c.toNat ≤ 57 from hc.2).trans_lt (by decide)
  split at h
  · next hc =>
    simp only [Bool.and_eq_true, decide_eq_true_eq] at hc
    exact (hle hc.2).trans_lt (by decide)
  split at h
  · next hc =>
    simp only [Bool.and_eq_true, decide_eq_true_eq] at hc
    exact (hle hc.2).trans_lt (by decide)
  · cases h

/-- Only digits are read as numbers. -/
theorem hexDigit?_eq_some_iff : hexDigit? c = some n ↔ Digit c n := by
  refine ⟨fun h => ?_, hexDigit?_of_digit⟩
  have hall : ∀ m < 128, ∀ k ∈ hexDigit? (Char.ofNat m), Digit (Char.ofNat m) k := by decide
  have hc := hall c.toNat (toNat_lt_of_hexDigit? h) n
  rw [Char.ofNat_toNat] at hc
  exact hc h

theorem Digit.utf8Size (h : Digit c n) : c.utf8Size = 1 := by
  have hlt := toNat_lt_of_hexDigit? (hexDigit?_of_digit h)
  exact Char.utf8Size_eq_one_iff.mpr (UInt32.le_iff_toNat_le.mpr (Nat.le_of_lt_succ hlt))

/-- The signs that may stand before a digit are no digits themselves. -/
theorem not_digit_plus : ¬ Digit '+' n := fun h =>
  absurd (hexDigit?_of_digit h).symm (by simp [hexDigit?])

theorem not_digit_sign : ¬ Digit '#' n := fun h =>
  absurd (hexDigit?_of_digit h).symm (by simp [hexDigit?])

/-- Two digits and the number that they write. -/
inductive Pair : List Char → ℕ → Prop
  | digits {c d : Char} {m n : ℕ} (hi : Digit c m) (lo : Digit d n) : Pair [c, d] (16 * m + n)

/-- What is read as a pair of digits: such a pair, or a plus sign and one digit. -/
inductive LoosePair : List Char → ℕ → Prop
  | strict {p : List Char} {n : ℕ} (h : Pair p n) : LoosePair p n
  | plus {d : Char} {n : ℕ} (lo : Digit d n) : LoosePair ['+', d] n

/-- The two kinds of pairs differ by the plus sign. -/
theorem LoosePair.strict_of_notMem (h : LoosePair p n) (hplus : '+' ∉ p) : Pair p n := by
  cases h with
  | strict h => exact h
  | plus lo => exact absurd List.mem_cons_self hplus

/-- A pair is two characters of one byte each, and the first is no number sign. -/
theorem LoosePair.shape (h : LoosePair p n) :
    ∃ c d, p = [c, d] ∧ c.utf8Size = 1 ∧ d.utf8Size = 1 ∧ c ≠ '#' := by
  cases h with
  | strict h =>
    obtain ⟨hi, lo⟩ := h
    refine ⟨_, _, rfl, hi.utf8Size, lo.utf8Size, ?_⟩
    rintro rfl
    exact not_digit_sign hi
  | @plus d n lo => exact ⟨'+', d, rfl, by decide, lo.utf8Size, by decide⟩

theorem pairValue?_of_loosePair (h : LoosePair p n) : pairValue? p = some n := by
  cases h with
  | strict h =>
    obtain ⟨hi, lo⟩ := h
    unfold pairValue?
    split
    · next heq =>
      obtain ⟨rfl, -⟩ := List.cons.inj heq
      exact absurd hi not_digit_plus
    · next heq =>
      obtain ⟨rfl, rfl⟩ : _ ∧ _ := by simpa using heq
      rw [hexDigit?_of_digit hi, hexDigit?_of_digit lo]
      rfl
    · next hne => exact absurd rfl (hne _ _)
  | plus lo => exact hexDigit?_of_digit lo

theorem loosePair_of_pairValue? (h : pairValue? p = some n) : LoosePair p n := by
  unfold pairValue? at h
  split at h
  · exact .plus (hexDigit?_eq_some_iff.mp h)
  · simp only [Option.bind_eq_bind, Option.bind_eq_some_iff, Option.pure_def,
      Option.some.injEq] at h
    obtain ⟨hi, hhi, lo, hlo, rfl⟩ := h
    exact .strict (.digits (hexDigit?_eq_some_iff.mp hhi) (hexDigit?_eq_some_iff.mp hlo))
  · cases h

/-! ## Lengths in bytes -/

theorem foldl_utf8Size (cs : List Char) (n : ℕ) :
    cs.foldl (fun n c => n + c.utf8Size) n = n + byteLength cs := by
  induction cs generalizing n with
  | nil => rfl
  | cons c cs ih =>
    rw [byteLength, List.foldl_cons, List.foldl_cons, ih, ih, Nat.zero_add, Nat.add_assoc]

@[simp] theorem byteLength_nil : byteLength [] = 0 := rfl

@[simp] theorem byteLength_cons (c : Char) (cs : List Char) :
    byteLength (c :: cs) = c.utf8Size + byteLength cs := by
  rw [byteLength, List.foldl_cons, foldl_utf8Size, Nat.zero_add]

@[simp] theorem byteLength_append (cs rest : List Char) :
    byteLength (cs ++ rest) = byteLength cs + byteLength rest := by
  induction cs with
  | nil => simp
  | cons c cs ih => rw [List.cons_append, byteLength_cons, byteLength_cons, ih, Nat.add_assoc]

theorem eq_nil_of_byteLength (h : byteLength cs = 0) : cs = [] := by
  cases cs with
  | nil => rfl
  | cons c cs =>
    have hpos := c.utf8Size_pos
    rw [byteLength_cons] at h
    omega

@[simp] theorem LoosePair.byteLength (h : LoosePair p n) : byteLength p = 2 := by
  obtain ⟨c, d, rfl, hc, hd, -⟩ := h.shape
  simp [hc, hd]

/-! ## Channels -/

/-- What is split off stands before the rest. -/
theorem append_of_splitBytes? (h : splitBytes? n cs = some (p, rest)) : cs = p ++ rest := by
  induction n, cs using splitBytes?.induct generalizing p with
  | case1 cs =>
    obtain ⟨rfl, rfl⟩ : [] = p ∧ cs = rest := by simpa [splitBytes?] using h
    rfl
  | case2 n => simp [splitBytes?] at h
  | case3 n c cs hle ih =>
    rw [splitBytes?, if_pos hle, Option.map_eq_some_iff] at h
    obtain ⟨⟨q, rest'⟩, hq, heq⟩ := h
    obtain ⟨rfl, rfl⟩ : c :: q = p ∧ rest' = rest := by simpa using heq
    rw [ih hq, List.cons_append]
  | case4 n c cs hlt => simp [splitBytes?, hlt] at h

theorem splitBytes?_two (hc : c.utf8Size = 1) (hd : d.utf8Size = 1) (rest : List Char) :
    splitBytes? 2 (c :: d :: rest) = some ([c, d], rest) := by
  simp [splitBytes?, hc, hd]

/-- A channel is read off a pair, and off nothing else. -/
theorem channel_eq_ok_iff : channel raw cs = .ok (x, rest) ↔
    ∃ p n, LoosePair p n ∧ cs = p ++ rest ∧ x = Number.ofByte (UInt8.ofNat n) := by
  unfold channel
  constructor
  · intro h
    split at h
    · cases h
    next hsplit =>
    split at h
    · cases h
    next hvalue =>
    obtain ⟨rfl, rfl⟩ : _ ∧ _ := by simpa using h
    exact ⟨_, _, loosePair_of_pairValue? hvalue, append_of_splitBytes? hsplit, rfl⟩
  · rintro ⟨p, n, hp, rfl, rfl⟩
    obtain ⟨c, d, rfl, hc, hd, -⟩ := hp.shape
    simp only [List.cons_append, List.nil_append, splitBytes?_two hc hd,
      pairValue?_of_loosePair hp]

/-- A channel that is not read is refused for what stands there. -/
theorem channel_eq_error {e : ColorError} (h : channel raw cs = .error e) :
    e = .notAscii raw ∨ e = .digits raw := by
  unfold channel at h
  split at h
  · exact .inl (Except.error.inj h).symm
  split at h
  · exact .inr (Except.error.inj h).symm
  · cases h

/-- A computation of steps has a result just if the first step has one and so have the others. -/
theorem bind_eq_ok {ε α β : Type} {t : Except ε α} {f : α → Except ε β} {b : β} :
    t >>= f = .ok b ↔ ∃ a, t = .ok a ∧ f a = .ok b := by
  cases t <;> simp [bind, Except.bind]

theorem bind_eq_error {ε α β : Type} {t : Except ε α} {f : α → Except ε β} {e : ε} :
    t >>= f = .error e ↔ t = .error e ∨ ∃ a, t = .ok a ∧ f a = .error e := by
  cases t <;> simp [bind, Except.bind]

/-- The three channels at the front of the characters. -/
def channels (raw : String) (cs : List Char) : Except ColorError Color := do
  let (red, rest) ← channel raw cs
  let (green, rest) ← channel raw rest
  let (blue, _) ← channel raw rest
  return ⟨red, green, blue⟩

/-- The colour whose channels are numbers below 256, divided by 255. -/
def ofBytes (r g b : ℕ) : Color :=
  ⟨(UInt8.ofNat r).toFloat32 / 255, (UInt8.ofNat g).toFloat32 / 255,
    (UInt8.ofNat b).toFloat32 / 255⟩

/-- Three channels are read off three pairs; what follows the pairs does not matter. -/
theorem channels_eq_ok_iff : channels raw cs = .ok color ↔
    ∃ p q s rest r g b, LoosePair p r ∧ LoosePair q g ∧ LoosePair s b ∧
      cs = p ++ (q ++ (s ++ rest)) ∧ color = ofBytes r g b := by
  simp only [channels, bind_eq_ok, Prod.exists, channel_eq_ok_iff]
  constructor
  · rintro ⟨-, -, ⟨p, r, hp, rfl, rfl⟩, -, -, ⟨q, g, hq, rfl, rfl⟩, -, rest,
      ⟨s, b, hs, rfl, rfl⟩, h⟩
    exact ⟨p, q, s, rest, r, g, b, hp, hq, hs, rfl, (Except.ok.inj h).symm⟩
  · rintro ⟨p, q, s, rest, r, g, b, hp, hq, hs, rfl, rfl⟩
    exact ⟨_, _, ⟨p, r, hp, rfl, rfl⟩, _, _, ⟨q, g, hq, rfl, rfl⟩, _, rest, ⟨s, b, hs, rfl, rfl⟩,
      rfl⟩

theorem channels_eq_error {e : ColorError} (h : channels raw cs = .error e) :
    e = .notAscii raw ∨ e = .digits raw := by
  simp only [channels, bind_eq_error, Prod.exists] at h
  obtain h | ⟨_, _, -, h | ⟨_, _, -, h | ⟨_, _, -, h⟩⟩⟩ := h
  · exact channel_eq_error h
  · exact channel_eq_error h
  · exact channel_eq_error h
  · cases h

/-! ## Colours -/

/-- The colour that characters spell: three pairs spell it, or three characters each of which stands
for a pair of itself. -/
inductive Spells (pair : List Char → ℕ → Prop) : List Char → Color → Prop
  | long {p q s : List Char} {r g b : ℕ} (red : pair p r) (green : pair q g) (blue : pair s b) :
      Spells pair (p ++ q ++ s) (ofBytes r g b)
  | short {c d e : Char} {r g b : ℕ} (red : pair [c, c] r) (green : pair [d, d] g)
      (blue : pair [e, e] b) : Spells pair [c, d, e] (ofBytes r g b)

/-- What the texts of colours should be: at most one number sign and three or six digits. -/
def Written (cs : List Char) (color : Color) : Prop :=
  ∃ mark ∈ [[], ['#']], ∃ digits, cs = mark ++ digits ∧ Spells Pair digits color

/-- What colours are read from: any number signs and three or six digits, where a plus sign may
stand in the place of the first digit of a pair. -/
def Readable (cs : List Char) (color : Color) : Prop :=
  ∃ k digits, cs = List.replicate k '#' ++ digits ∧ Spells LoosePair digits color

theorem Spells.mono {pair pair' : List Char → ℕ → Prop} (h : Spells pair cs color)
    (hmono : ∀ p n, p ⊆ cs → pair p n → pair' p n) : Spells pair' cs color := by
  cases h with
  | @long p q s r g b red green blue =>
    refine .long (hmono _ _ ?_ red) (hmono _ _ ?_ green) (hmono _ _ ?_ blue) <;>
      intro c hc <;> simp [hc]
  | short red green blue =>
    refine .short (hmono _ _ ?_ red) (hmono _ _ ?_ green) (hmono _ _ ?_ blue) <;>
      intro c hc <;> simp_all

/-- The characters behind the signs begin with no sign. -/
theorem Spells.head_ne (h : Spells LoosePair cs color) : ∃ c rest, cs = c :: rest ∧ c ≠ '#' := by
  cases h with
  | long red green blue =>
    obtain ⟨c, d, rfl, -, -, hc⟩ := red.shape
    exact ⟨c, _, rfl, hc⟩
  | short red green blue =>
    obtain ⟨c, d, heq, -, -, hc⟩ := red.shape
    obtain ⟨rfl, -⟩ := List.cons.inj heq
    exact ⟨_, _, rfl, hc⟩

/-- What pairs of digits spell begins with a digit. -/
theorem Spells.head_digit (h : Spells Pair cs color) : ∃ c rest n, cs = c :: rest ∧ Digit c n := by
  cases h with
  | long red green blue =>
    obtain ⟨hi, lo⟩ := red
    exact ⟨_, _, _, rfl, hi⟩
  | short red green blue =>
    obtain ⟨hi, lo⟩ := red
    exact ⟨_, _, _, rfl, hi⟩

/-- The signs in front of what is readable are the ones that are dropped. -/
theorem readable_iff :
    Readable cs color ↔ Spells LoosePair (cs.dropWhile (· = '#')) color := by
  constructor
  · rintro ⟨k, digits, rfl, hdigits⟩
    obtain ⟨c, rest, rfl, hc⟩ := hdigits.head_ne
    have hdrop : (List.replicate k '#' ++ c :: rest).dropWhile (· = '#') = c :: rest := by
      rw [List.dropWhile_append_of_pos (fun d hd => by simp [List.eq_of_mem_replicate hd])]
      exact List.dropWhile_cons_of_neg (by simpa using hc)
    rwa [hdrop]
  · intro h
    have hsigns : cs.takeWhile (· = '#') =
        List.replicate (cs.takeWhile (· = '#')).length '#' :=
      List.eq_replicate_of_mem fun c hc => by simpa using List.mem_takeWhile_imp hc
    exact ⟨_, _, by rw [← hsigns, List.takeWhile_append_dropWhile], h⟩

/-- Three pairs take six bytes, and the characters that stand for pairs of themselves three. -/
theorem byteLength_long {q s : List Char} {r g b : ℕ} (hp : LoosePair p r) (hq : LoosePair q g)
    (hs : LoosePair s b) : byteLength (p ++ q ++ s) = 6 := by
  simp only [byteLength_append, hp.byteLength, hq.byteLength, hs.byteLength]

theorem byteLength_short {e : Char} {r g b : ℕ} (hc : LoosePair [c, c] r)
    (hd : LoosePair [d, d] g) (he : LoosePair [e, e] b) : byteLength [c, d, e] = 3 := by
  have hc := hc.byteLength
  have hd := hd.byteLength
  have he := he.byteLength
  simp only [byteLength_cons, byteLength_nil] at *
  omega

/-- Six bytes that hold three pairs hold nothing else. -/
theorem channels_six (h : byteLength cs = 6) :
    channels raw cs = .ok color ↔ Spells LoosePair cs color := by
  rw [channels_eq_ok_iff]
  constructor
  · rintro ⟨p, q, s, rest, r, g, b, hp, hq, hs, rfl, rfl⟩
    have hrest : rest = [] := eq_nil_of_byteLength <| by
      simp only [byteLength_append, hp.byteLength, hq.byteLength, hs.byteLength] at h
      omega
    rw [hrest, List.append_nil, ← List.append_assoc]
    exact .long hp hq hs
  · intro hspells
    cases hspells with
    | long hp hq hs => exact ⟨_, _, _, [], _, _, _, hp, hq, hs, by simp, rfl⟩
    | short hc hd he => exact absurd (byteLength_short hc hd he) (by rw [h]; decide)

/-- Three bytes whose doubles hold three pairs are three characters. -/
theorem channels_three (h : byteLength cs = 3) :
    channels raw (cs.flatMap fun c => [c, c]) = .ok color ↔ Spells LoosePair cs color := by
  rw [channels_eq_ok_iff]
  constructor
  · rintro ⟨p, q, s, rest, r, g, b, hp, hq, hs, heq, rfl⟩
    obtain ⟨x, x', rfl, hx, -⟩ := hp.shape
    obtain ⟨y, y', rfl, hy, -⟩ := hq.shape
    obtain ⟨z, z', rfl, hz, -⟩ := hs.shape
    match cs, heq with
    | u :: v :: w :: tail, heq =>
      obtain ⟨rfl, rfl, rfl, rfl, rfl, rfl, -⟩ :
          u = x ∧ u = x' ∧ v = y ∧ v = y' ∧ w = z ∧ w = z' ∧ _ := by simpa using heq
      have htail : tail = [] := eq_nil_of_byteLength <| by
        simp only [byteLength_cons, hx, hy, hz] at h
        omega
      rw [htail]
      exact .short hp hq hs
  · intro hspells
    cases hspells with
    | long hp hq hs => exact absurd (byteLength_long hp hq hs) (by rw [h]; decide)
    | short hc hd he => exact ⟨_, _, _, [], _, _, _, hc, hd, he, rfl, rfl⟩

theorem Spells.byteLength (h : Spells LoosePair cs color) :
    byteLength cs = 3 ∨ byteLength cs = 6 := by
  cases h with
  | long hp hq hs => exact .inr (byteLength_long hp hq hs)
  | short hc hd he => exact .inl (byteLength_short hc hd he)

/-- The characters behind the signs. -/
def digitsOf (raw : String) : List Char :=
  (stripBlanks raw.toList).dropWhile (· = '#')

theorem parseHex_eq (raw : String) :
    parseHex raw =
      if byteLength (digitsOf raw) = 3 then channels raw ((digitsOf raw).flatMap fun c => [c, c])
      else if byteLength (digitsOf raw) = 6 then channels raw (digitsOf raw)
      else .error (.length raw) := by
  unfold digitsOf
  by_cases hthree : byteLength ((stripBlanks raw.toList).dropWhile (· = '#')) = 3
  · simp only [parseHex, if_pos hthree]
    rfl
  by_cases hsix : byteLength ((stripBlanks raw.toList).dropWhile (· = '#')) = 6
  · simp only [parseHex, if_neg hthree, if_pos hsix]
    rfl
  · simp only [parseHex, if_neg hthree, if_neg hsix]
    rfl

/-- The colour is read that the characters behind the signs spell. -/
theorem parseHex_eq_ok_iff :
    parseHex raw = .ok color ↔ Readable (stripBlanks raw.toList) color := by
  rw [readable_iff, ← digitsOf, parseHex_eq]
  split_ifs with hthree hsix
  · exact channels_three hthree
  · exact channels_six hsix
  · refine ⟨nofun, fun hspells => ?_⟩
    exact (hspells.byteLength.elim hthree hsix).elim

/-- A text is refused for its length, or for what stands at the place of a channel. -/
theorem parseHex_eq_error {e : ColorError} (h : parseHex raw = .error e) :
    if byteLength (digitsOf raw) = 3 ∨ byteLength (digitsOf raw) = 6 then
      e = .notAscii raw ∨ e = .digits raw
    else e = .length raw := by
  rw [parseHex_eq] at h
  by_cases hthree : byteLength (digitsOf raw) = 3
  · rw [if_pos hthree] at h
    rw [if_pos (.inl hthree)]
    exact channels_eq_error h
  by_cases hsix : byteLength (digitsOf raw) = 6
  · rw [if_neg hthree, if_pos hsix] at h
    rw [if_pos (.inr hsix)]
    exact channels_eq_error h
  · rw [if_neg hthree, if_neg hsix] at h
    rw [if_neg (not_or.mpr ⟨hthree, hsix⟩)]
    exact (Except.error.inj h).symm

/-! ## The grammar -/

/-- What is written as it should be is readable. -/
theorem Written.readable (h : Written cs color) : Readable cs color := by
  obtain ⟨mark, hmark, digits, rfl, hdigits⟩ := h
  have hloose := hdigits.mono fun p n _ hp => LoosePair.strict hp
  simp only [List.mem_cons, List.not_mem_nil, or_false] at hmark
  obtain rfl | rfl := hmark
  · exact ⟨0, digits, rfl, hloose⟩
  · exact ⟨1, digits, rfl, hloose⟩

/-- What is written as it should be begins with a digit, or with one sign and a digit. -/
theorem Written.head (h : Written cs color) :
    ∃ c rest n, Digit c n ∧ (cs = c :: rest ∨ cs = '#' :: c :: rest) := by
  obtain ⟨mark, hmark, digits, rfl, hdigits⟩ := h
  obtain ⟨c, rest, n, rfl, hc⟩ := hdigits.head_digit
  simp only [List.mem_cons, List.not_mem_nil, or_false] at hmark
  obtain rfl | rfl := hmark
  · exact ⟨c, rest, n, hc, .inl rfl⟩
  · exact ⟨c, rest, n, hc, .inr rfl⟩

/-- What is readable is written as it should be, unless it begins with two signs or has a plus sign
in it. -/
theorem Readable.written (h : Readable cs color) (hsigns : ¬ ['#', '#'] <+: cs) (hplus : '+' ∉ cs) :
    Written cs color := by
  obtain ⟨k, digits, rfl, hdigits⟩ := h
  have hstrict : Spells Pair digits color := hdigits.mono fun p n hp hpair =>
    hpair.strict_of_notMem fun hmem => hplus (List.mem_append_right _ (hp hmem))
  match k, hsigns with
  | 0, _ => exact ⟨[], by simp, digits, rfl, hstrict⟩
  | 1, _ => exact ⟨['#'], by simp, digits, rfl, hstrict⟩
  | k + 2, hsigns => exact absurd ⟨List.replicate k '#' ++ digits, rfl⟩ hsigns

/-- **The texts that are read as colours.** Every text is read as a colour or refused. It is read as
a colour just if, without the blanks around it, it is any number of signs and three or six digits
that spell the colour, where a plus sign may stand for the first digit of a pair. These are the
texts of the grammar, except for those that begin with two signs or have a plus sign in them. A text
is refused for its length unless three or six bytes stand behind the signs. -/
theorem parseHex_reads (raw : String) :
    (∀ color, parseHex raw = .ok color ↔ Readable (stripBlanks raw.toList) color) ∧
    (¬ ['#', '#'] <+: stripBlanks raw.toList → '+' ∉ stripBlanks raw.toList →
      ∀ color, parseHex raw = .ok color ↔ Written (stripBlanks raw.toList) color) ∧
    ∀ e, parseHex raw = .error e →
      if byteLength (digitsOf raw) = 3 ∨ byteLength (digitsOf raw) = 6 then
        e = .notAscii raw ∨ e = .digits raw
      else e = .length raw := by
  refine ⟨fun color => parseHex_eq_ok_iff, fun hsigns hplus color => ?_, fun e => parseHex_eq_error⟩
  rw [parseHex_eq_ok_iff]
  exact ⟨fun h => h.written hsigns hplus, Written.readable⟩

/-- Blanks around a text and the case of its letters do not matter. -/
theorem parseHex_reads_mixedCase :
    parseHex " #a1B2c3 " = .ok (ofBytes 0xa1 0xb2 0xc3) := by
  refine ((parseHex_reads " #a1B2c3 ").2.1 (by decide) (by decide) _).mpr ?_
  refine ⟨['#'], by decide, ['a', '1', 'B', '2', 'c', '3'], by decide, ?_⟩
  have hred : Pair ['a', '1'] 0xa1 := .digits (m := 10) (n := 1) (by decide) (by decide)
  have hgreen : Pair ['B', '2'] 0xb2 := .digits (m := 11) (n := 2) (by decide) (by decide)
  have hblue : Pair ['c', '3'] 0xc3 := .digits (m := 12) (n := 3) (by decide) (by decide)
  exact .long hred hgreen hblue

/-- Texts outside the grammar are read as colours: one with two signs, and one with plus signs in
the place of digits. -/
theorem parseHex_twoSigns :
    parseHex "##fff" = .ok (ofBytes 0xff 0xff 0xff) ∧
    (∀ color, ¬ Written (stripBlanks "##fff".toList) color) ∧
    parseHex "+1+2+3" = .ok (ofBytes 1 2 3) ∧
    ∀ color, ¬ Written (stripBlanks "+1+2+3".toList) color := by
  have htwo : stripBlanks "##fff".toList = ['#', '#', 'f', 'f', 'f'] := by decide
  have hplus : stripBlanks "+1+2+3".toList = ['+', '1', '+', '2', '+', '3'] := by decide
  rw [parseHex_eq_ok_iff, parseHex_eq_ok_iff, htwo, hplus]
  refine ⟨?_, fun color h => ?_, ?_, fun color h => ?_⟩
  · have hf : LoosePair ['f', 'f'] 0xff :=
      .strict (.digits (m := 15) (n := 15) (by decide) (by decide))
    exact ⟨2, ['f', 'f', 'f'], rfl, .short hf hf hf⟩
  · obtain ⟨c, rest, n, hc, heq | heq⟩ := h.head
    · obtain ⟨rfl, -⟩ := List.cons.inj heq
      exact not_digit_sign hc
    · obtain ⟨rfl, -⟩ := List.cons.inj (List.cons.inj heq).2
      exact not_digit_sign hc
  · have h₁ : LoosePair ['+', '1'] 1 := .plus (by decide)
    have h₂ : LoosePair ['+', '2'] 2 := .plus (by decide)
    have h₃ : LoosePair ['+', '3'] 3 := .plus (by decide)
    exact ⟨0, ['+', '1', '+', '2', '+', '3'], rfl, .long h₁ h₂ h₃⟩
  · obtain ⟨c, rest, n, hc, heq | heq⟩ := h.head
    · obtain ⟨rfl, -⟩ := List.cons.inj heq
      exact not_digit_plus hc
    · exact absurd (List.cons.inj heq).1 (by decide)

end Heightfield.Color
