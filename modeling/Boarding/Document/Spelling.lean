import Boarding.Document.Literal

/-!
The spellings of a text inside a document, said without reading one. A character has a spelling of
its own unless it is a quote, a reverse solidus or a control; it may have a short escape; and it
has escapes in hexadecimal digits, one for each way of mixing upper and lower case, in two halves
beyond the first plane.

* `rest_of_spelling`: every spelling of a text is read as that text, whatever stands behind it.
* `spelling_write`: what is written for a text is a spelling of it.
-/

namespace Boarding.Document.Literal

open Reader

/-- `c` is the hexadecimal digit of value `n`, in either case. -/
def HexDigit (c : Char) (n : Nat) : Prop :=
  n < 16 ∧ (c = Nat.digitChar n ∨ c = (Nat.digitChar n).toUpper)

/-- Four hexadecimal digits and the number that they stand for. -/
def HexUnit (a b c d : Char) (n : Nat) : Prop :=
  ∃ w x y z, HexDigit a w ∧ HexDigit b x ∧ HexDigit c y ∧ HexDigit d z ∧
    n = 0x1000 * w + 0x100 * x + 0x10 * y + z

/-- The spellings of one character. The code point of a character is no half, so four digits can
spell one only by themselves; beyond the first plane two halves make up the code point. -/
inductive Spells : List Char → Char → Prop where
  | plain {c : Char} (hquote : c ≠ '\"') (hsolidus : c ≠ '\\') (hcontrol : 0x20 ≤ c.toNat) :
      Spells [c] c
  | short {e c : Char} (h : shortEscape? e = some c) : Spells ['\\', e] c
  | codePoint {a b d e c : Char} (h : HexUnit a b d e c.toNat) :
      Spells ['\\', 'u', a, b, d, e] c
  | halves {a b d e a' b' d' e' c : Char} {n m : Nat} (hn : HexUnit a b d e n)
      (hm : HexUnit a' b' d' e' m) (hfirst : 0xD800 ≤ n ∧ n < 0xDC00)
      (hsecond : 0xDC00 ≤ m ∧ m < 0xE000)
      (hc : c.toNat = 0x10000 + (n - 0xD800) * 0x400 + (m - 0xDC00)) :
      Spells ['\\', 'u', a, b, d, e, '\\', 'u', a', b', d', e'] c

/-- The spellings of a text, quotes left aside: its characters are spelled one after the other. -/
inductive Spelling : List Char → List Char → Prop where
  | nil : Spelling [] []
  | cons {word words : List Char} {c : Char} {cs : List Char} (head : Spells word c)
      (tail : Spelling words cs) : Spelling (word ++ words) (c :: cs)

/-! ### Hexadecimal digits -/

theorem hexValue?_of_hexDigit {c : Char} {n : Nat} (h : HexDigit c n) : hexValue? c = some n := by
  have hvalue : ∀ n < 16, hexValue? (Nat.digitChar n) = some n ∧
      hexValue? (Nat.digitChar n).toUpper = some n := by
    decide
  obtain ⟨hn, rfl | rfl⟩ := h
  · exact (hvalue n hn).1
  · exact (hvalue n hn).2

theorem unitValue?_of_hexUnit {a b c d : Char} {n : Nat} (h : HexUnit a b c d n) :
    unitValue? a b c d = some n := by
  obtain ⟨w, x, y, z, ha, hb, hc, hd, rfl⟩ := h
  have hsum : 0x1000 * w + 0x100 * x + 0x10 * y + z = ((w * 16 + x) * 16 + y) * 16 + z := by omega
  simp [unitValue?, hexValue?_of_hexDigit ha, hexValue?_of_hexDigit hb, hexValue?_of_hexDigit hc,
    hexValue?_of_hexDigit hd, hsum]

/-- The code point of a character is no half. -/
theorem isHalf_toNat (c : Char) : isFirstHalf c.toNat = false ∧ isSecondHalf c.toNat = false := by
  have hvalid : c.toNat < 0xD800 ∨ (0xDFFF < c.toNat ∧ c.toNat < 0x110000) := c.valid
  simp only [isFirstHalf, isSecondHalf, Bool.and_eq_false_iff, decide_eq_false_iff_not]
  omega

/-! ### Reading a spelling -/

theorem run_readUnit {a b c d : Char} {n : Nat} (h : unitValue? a b c d = some n)
    (cs : List Char) : readUnit.run (a :: b :: c :: d :: cs) = .ok (n, cs) := by
  simp only [readUnit, StateT.run, h]

/-- A number is not both halves at once. -/
theorem not_isSecondHalf {n : Nat} (h : isFirstHalf n = true) : isSecondHalf n = false := by
  simp only [isFirstHalf, Bool.and_eq_true, decide_eq_true_eq] at h
  simp only [isSecondHalf, Bool.and_eq_false_iff, decide_eq_false_iff_not]
  omega

theorem run_readSecondHalf {a b c d : Char} {m : Nat} (h : unitValue? a b c d = some m)
    (hsecond : isSecondHalf m = true) (cs : List Char) :
    readSecondHalf.run ('\\' :: 'u' :: a :: b :: c :: d :: cs) = .ok (m, cs) := by
  have hmarks : (expectAll ['\\', 'u']).run ('\\' :: 'u' :: a :: b :: c :: d :: cs)
      = .ok ((), a :: b :: c :: d :: cs) := rfl
  rw [readSecondHalf, run_bind_of_ok hmarks, run_bind_of_ok (run_readUnit h cs), if_pos hsecond]
  rfl

theorem run_readCodePoint {a b c d : Char} {n : Nat} (h : unitValue? a b c d = some n)
    (hfirst : isFirstHalf n = false) (hsecond : isSecondHalf n = false) (cs : List Char) :
    readCodePoint.run (a :: b :: c :: d :: cs) = .ok (Char.ofNat n, cs) := by
  rw [readCodePoint, run_bind_of_ok (run_readUnit h cs), hfirst, hsecond]
  rfl

theorem run_readCodePoint_halves {a b c d e f g h : Char} {n m : Nat}
    (hn : unitValue? a b c d = some n) (hm : unitValue? e f g h = some m)
    (hfirst : isFirstHalf n = true) (hsecond : isSecondHalf m = true) (cs : List Char) :
    readCodePoint.run (a :: b :: c :: d :: '\\' :: 'u' :: e :: f :: g :: h :: cs)
      = .ok (joinHalves n m, cs) := by
  rw [readCodePoint, run_bind_of_ok (run_readUnit hn _), not_isSecondHalf hfirst, hfirst]
  simp only [Bool.false_eq_true, if_false, if_true]
  rw [run_bind_of_ok (run_readSecondHalf hm hsecond cs)]
  rfl

theorem run_readEscape_codePoint (cs : List Char) :
    readEscape.run ('u' :: cs) = readCodePoint.run cs := by
  rw [readEscape, run_bind_of_ok (run_next_cons 'u'), if_pos rfl]

theorem run_readEscape_short {e c : Char} (h : shortEscape? e = some c) (cs : List Char) :
    readEscape.run (e :: cs) = .ok (c, cs) := by
  have hu : e ≠ 'u' := by
    rintro rfl
    have hnone : shortEscape? 'u' = none := by decide
    rw [hnone] at h
    cases h
  rw [readEscape, run_bind_of_ok (run_next_cons e), if_neg hu, h]
  rfl

/-- Behind a reverse solidus a character is read as an escape. -/
theorem run_element_escape {cs behind : List Char} {c : Char}
    (h : readEscape.run cs = .ok (c, behind)) :
    element.run ('\\' :: cs) = .ok (some c, behind) := by
  rw [element, run_bind_of_ok (run_next_cons '\\'), if_neg (by decide), if_pos rfl,
    run_bind_of_ok h]
  rfl

/-- The closing quote ends the text. -/
theorem run_element_quote (cs : List Char) : element.run ('\"' :: cs) = .ok (none, cs) := by
  rw [element, run_bind_of_ok (run_next_cons '\"'), if_pos rfl]
  rfl

/-- Every spelling of a character is read as that character. -/
theorem run_element_of_spells {word : List Char} {c : Char} (h : Spells word c)
    (cs : List Char) : element.run (word ++ cs) = .ok (some c, cs) := by
  cases h with
  | plain hquote hsolidus hcontrol =>
    rw [List.singleton_append, element, run_bind_of_ok (run_next_cons c), if_neg hquote,
      if_neg hsolidus, if_neg (Nat.not_lt.mpr hcontrol)]
    rfl
  | short h => exact run_element_escape (run_readEscape_short h cs)
  | codePoint h =>
    have hread := run_readCodePoint (unitValue?_of_hexUnit h) (isHalf_toNat c).1
      (isHalf_toNat c).2 cs
    rw [Char.ofNat_toNat] at hread
    exact run_element_escape ((run_readEscape_codePoint _).trans hread)
  | @halves _ _ _ _ _ _ _ _ _ n m hn hm hfirst hsecond hc =>
    have hfirst' : isFirstHalf n = true := by
      simp only [isFirstHalf, Bool.and_eq_true, decide_eq_true_eq]
      omega
    have hsecond' : isSecondHalf m = true := by
      simp only [isSecondHalf, Bool.and_eq_true, decide_eq_true_eq]
      omega
    have hread := run_readCodePoint_halves (unitValue?_of_hexUnit hn) (unitValue?_of_hexUnit hm)
      hfirst' hsecond' cs
    rw [joinHalves, ← hc, Char.ofNat_toNat] at hread
    exact run_element_escape ((run_readEscape_codePoint _).trans hread)

/-- Every spelling of a text is read as that text, whatever stands behind its closing quote. -/
theorem rest_of_spelling {word text : List Char} (h : Spelling word text) (behind : List Char) :
    rest (word ++ '\"' :: behind) = .ok (text, behind) := by
  induction h with
  | nil => exact rest_of_none (run_element_quote behind)
  | cons head tail ih =>
    rw [List.append_assoc]
    exact rest_of_some (run_element_of_spells head _) ih

/-! ### Writing a spelling -/

/-- A control character that has no short escape is spelled by its two digits. -/
theorem spells_writeControl {c : Char} (h : c.toNat < 0x20) : Spells (writeControl c) c := by
  have hzero : HexDigit '0' 0 := ⟨by decide, .inl rfl⟩
  refine .codePoint ⟨0, 0, c.toNat / 16, c.toNat % 16, hzero, hzero, ⟨?_, .inl rfl⟩,
    ⟨?_, .inl rfl⟩, ?_⟩
  · omega
  · omega
  · omega

/-- What is written for a character is a spelling of it. -/
theorem spells_writeChar (c : Char) : Spells (writeChar c) c := by
  unfold writeChar
  split
  next h =>
    subst h
    exact Spells.short (by decide)
  split
  next h =>
    subst h
    exact Spells.short (by decide)
  split
  next h =>
    subst h
    exact Spells.short (by decide)
  split
  next h =>
    subst h
    exact Spells.short (by decide)
  split
  next h =>
    subst h
    exact Spells.short (by decide)
  split
  next h =>
    subst h
    exact Spells.short (by decide)
  split
  next h =>
    subst h
    exact Spells.short (by decide)
  split
  next h => exact spells_writeControl h
  next hquote hsolidus _ _ _ _ _ hcontrol =>
    exact Spells.plain hquote hsolidus (Nat.not_lt.mp hcontrol)

/-- What is written for a text is a spelling of it. -/
theorem spelling_write (cs : List Char) : Spelling (cs.flatMap writeChar) cs := by
  induction cs with
  | nil => exact Spelling.nil
  | cons c cs ih => exact Spelling.cons (spells_writeChar c) ih

end Boarding.Document.Literal
