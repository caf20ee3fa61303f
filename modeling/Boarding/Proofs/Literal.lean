import Boarding.Document.Foreign
import Boarding.Document.Spelling

/-!
Reading a text inside a document, exactly.

`Literal.Spelling` gives the spellings of a text without reading one, and reading is known to accept
all of them. Here is the other half: nothing else is accepted. Each reader on the way to a whole
text gets the form of what it has taken off the front, whatever stands behind.

* `Literal.rest_eq_ok_iff`: the characters up to the closing quote are a spelling of the text.
* `run_readText_eq_ok_iff`: a text is read exactly off its quoted spellings.
-/

namespace Boarding.Document

open Reader

/-! ### Single marks -/

theorem run_pure_eq_ok_iff {α : Type} {a b : α} {cs rest : List Char} :
    (pure a : Reader α).run cs = .ok (b, rest) ↔ b = a ∧ rest = cs := by
  rw [StateT.run_pure]
  exact ⟨fun h => by cases h; exact ⟨rfl, rfl⟩, fun ⟨hb, hrest⟩ => by rw [hb, hrest]; rfl⟩

theorem run_next_eq_ok_iff {cs rest : List Char} {c : Char} :
    next.run cs = .ok (c, rest) ↔ cs = c :: rest := by
  cases cs with
  | nil => simp
  | cons d cs => simp [eq_comm]

theorem run_look_eq_ok_iff {cs rest : List Char} {c : Char} :
    look.run cs = .ok (c, rest) ↔ rest = cs ∧ ∃ tail, cs = c :: tail := by
  cases cs with
  | nil => simp
  | cons d cs =>
    rw [run_look_cons, Except.ok.injEq, Prod.mk.injEq]
    constructor
    · rintro ⟨rfl, rfl⟩
      exact ⟨rfl, cs, rfl⟩
    · rintro ⟨rfl, tail, heq⟩
      exact ⟨(List.cons.inj heq).1, rfl⟩

theorem run_expect_eq_ok_iff {mark : Char} {cs rest : List Char} {u : Unit} :
    (expect mark).run cs = .ok (u, rest) ↔ cs = mark :: rest := by
  cases cs with
  | nil => simp
  | cons d cs =>
    by_cases h : d = mark
    · subst h
      simp
    · simp [run_expect_of_ne h, h]

theorem run_expectAll_eq_ok_iff {marks cs rest : List Char} {u : Unit} :
    (expectAll marks).run cs = .ok (u, rest) ↔ cs = marks ++ rest := by
  induction marks generalizing cs with
  | nil =>
    constructor
    · intro h
      cases h
      rfl
    · rintro rfl
      rfl
  | cons mark marks ih =>
    rw [expectAll, run_bind_eq_ok_iff]
    constructor
    · rintro ⟨v, mid, hmark, hmarks⟩
      rw [run_expect_eq_ok_iff.mp hmark, ih.mp hmarks]
      rfl
    · rintro rfl
      exact ⟨(), marks ++ rest, run_expect_self mark, ih.mpr rfl⟩

namespace Literal

/-! ### Hexadecimal digits -/

/-- A character of a range is the first of the range moved on. -/
theorem exists_eq_ofNat_of_range {c first last : Char} (h : first ≤ c ∧ c ≤ last) :
    c.toNat - first.toNat ≤ last.toNat - first.toNat ∧
      c = Char.ofNat (first.toNat + (c.toNat - first.toNat)) := by
  have hlow : first.toNat ≤ c.toNat := h.1
  have hhigh : c.toNat ≤ last.toNat := h.2
  have hsum : first.toNat + (c.toNat - first.toNat) = c.toNat := by omega
  exact ⟨by omega, by rw [hsum, Char.ofNat_toNat]⟩

theorem hexDigit_of_hexValue? {c : Char} {n : Nat} (h : hexValue? c = some n) : HexDigit c n := by
  have hdecimal : ∀ k ≤ 9, Char.ofNat ('0'.toNat + k) = Nat.digitChar k := by decide
  have hlower : ∀ k ≤ 5, Char.ofNat ('a'.toNat + k) = Nat.digitChar (k + 10) := by decide
  have hupper : ∀ k ≤ 5, Char.ofNat ('A'.toNat + k) = (Nat.digitChar (k + 10)).toUpper := by
    decide
  unfold hexValue? at h
  split at h
  next hrange =>
    cases h
    obtain ⟨hle, hc⟩ := exists_eq_ofNat_of_range hrange
    exact ⟨Nat.lt_of_le_of_lt hle (by decide), .inl (hc.trans (hdecimal _ hle))⟩
  next =>
    split at h
    next hrange =>
      cases h
      obtain ⟨hle, hc⟩ := exists_eq_ofNat_of_range hrange
      exact ⟨Nat.add_lt_add_right (Nat.lt_of_le_of_lt hle (by decide : 5 < 6)) 10,
        .inl (hc.trans (hlower _ hle))⟩
    next =>
      split at h
      next hrange =>
        cases h
        obtain ⟨hle, hc⟩ := exists_eq_ofNat_of_range hrange
        exact ⟨Nat.add_lt_add_right (Nat.lt_of_le_of_lt hle (by decide : 5 < 6)) 10,
          .inr (hc.trans (hupper _ hle))⟩
      next => cases h

theorem hexUnit_of_unitValue? {a b c d : Char} {n : Nat} (h : unitValue? a b c d = some n) :
    HexUnit a b c d n := by
  simp only [unitValue?, Option.bind_eq_bind, Option.bind_eq_some_iff, Option.pure_def,
    Option.some.injEq] at h
  obtain ⟨w, ha, x, hb, y, hc, z, hd, rfl⟩ := h
  exact ⟨w, x, y, z, hexDigit_of_hexValue? ha, hexDigit_of_hexValue? hb, hexDigit_of_hexValue? hc,
    hexDigit_of_hexValue? hd, by omega⟩

theorem lt_of_hexUnit {a b c d : Char} {n : Nat} (h : HexUnit a b c d n) : n < 0x10000 := by
  obtain ⟨w, x, y, z, ⟨hw, -⟩, ⟨hx, -⟩, ⟨hy, -⟩, ⟨hz, -⟩, rfl⟩ := h
  omega

/-! ### Escapes -/

theorem toNat_ofNat_of_valid {n : Nat} (h : n.isValidChar) : (Char.ofNat n).toNat = n := by
  rw [Char.ofNat, dif_pos h]
  rfl

theorem exists_of_run_readUnit {cs rest : List Char} {n : Nat}
    (h : readUnit.run cs = .ok (n, rest)) :
    ∃ a b c d, HexUnit a b c d n ∧ cs = a :: b :: c :: d :: rest := by
  unfold readUnit at h
  simp only [StateT.run] at h
  split at h
  next a b c d ds =>
    split at h
    next m hm =>
      cases h
      exact ⟨a, b, c, d, hexUnit_of_unitValue? hm, rfl⟩
    next => cases h
  next => split at h <;> cases h

theorem exists_of_run_readSecondHalf {cs rest : List Char} {m : Nat}
    (h : readSecondHalf.run cs = .ok (m, rest)) :
    ∃ a b c d, HexUnit a b c d m ∧ (0xDC00 ≤ m ∧ m < 0xE000) ∧
      cs = '\\' :: 'u' :: a :: b :: c :: d :: rest := by
  obtain ⟨_, mid, hmarks, hthen⟩ := run_bind_eq_ok_iff.mp h
  obtain ⟨n, mid', hunit, hlast⟩ := run_bind_eq_ok_iff.mp hthen
  obtain ⟨a, b, c, d, hvalue, rfl⟩ := exists_of_run_readUnit hunit
  rw [run_expectAll_eq_ok_iff] at hmarks
  split at hlast
  next hsecond =>
    cases hlast
    simp only [isSecondHalf, Bool.and_eq_true, decide_eq_true_eq] at hsecond
    exact ⟨a, b, c, d, hvalue, by omega, hmarks⟩
  next => cases hlast

/-- What is read as a code point, put behind its two marks, spells the character. -/
theorem exists_of_run_readCodePoint {cs rest : List Char} {c : Char}
    (h : readCodePoint.run cs = .ok (c, rest)) :
    ∃ word, Spells ('\\' :: 'u' :: word) c ∧ cs = word ++ rest := by
  obtain ⟨n, mid, hunit, hthen⟩ := run_bind_eq_ok_iff.mp h
  obtain ⟨a, b, d, e, hvalue, rfl⟩ := exists_of_run_readUnit hunit
  have hlt := lt_of_hexUnit hvalue
  split at hthen
  next => cases hthen
  next hsecond =>
    split at hthen
    next hfirst =>
      obtain ⟨m, mid', hhalf, hlast⟩ := run_bind_eq_ok_iff.mp hthen
      obtain ⟨a', b', d', e', hvalue', hsecond', rfl⟩ := exists_of_run_readSecondHalf hhalf
      obtain ⟨hc, hrest⟩ := run_pure_eq_ok_iff.mp hlast
      simp only [isFirstHalf, Bool.and_eq_true, decide_eq_true_eq] at hfirst
      have hcode : c.toNat = 0x10000 + (n - 0xD800) * 0x400 + (m - 0xDC00) := by
        rw [hc, joinHalves]
        exact toNat_ofNat_of_valid (.inr (by omega))
      exact ⟨_, .halves hvalue hvalue' (by omega) hsecond' hcode, by rw [hrest]; rfl⟩
    next hfirst =>
      obtain ⟨hc, hrest⟩ := run_pure_eq_ok_iff.mp hthen
      simp only [isFirstHalf, isSecondHalf, Bool.and_eq_true, decide_eq_true_eq, not_and,
        Nat.not_le] at hfirst hsecond
      have hcode : c.toNat = n := by
        rw [hc]
        exact toNat_ofNat_of_valid (by unfold Nat.isValidChar; omega)
      exact ⟨_, .codePoint (hcode ▸ hvalue), by rw [hrest]; rfl⟩

theorem exists_of_run_readEscape {cs rest : List Char} {c : Char}
    (h : readEscape.run cs = .ok (c, rest)) :
    ∃ word, Spells ('\\' :: word) c ∧ cs = word ++ rest := by
  obtain ⟨e, mid, hnext, hthen⟩ := run_bind_eq_ok_iff.mp h
  rw [run_next_eq_ok_iff] at hnext
  subst hnext
  split at hthen
  next he =>
    subst he
    obtain ⟨word, hspells, rfl⟩ := exists_of_run_readCodePoint hthen
    exact ⟨'u' :: word, hspells, rfl⟩
  next =>
    split at hthen
    next d hd =>
      cases hthen
      exact ⟨[e], .short hd, rfl⟩
    next => cases hthen

/-! ### Whole texts -/

theorem exists_of_run_element {cs rest : List Char} {c : Char}
    (h : element.run cs = .ok (some c, rest)) : ∃ word, Spells word c ∧ cs = word ++ rest := by
  obtain ⟨d, mid, hnext, hthen⟩ := run_bind_eq_ok_iff.mp h
  rw [run_next_eq_ok_iff] at hnext
  subst hnext
  split at hthen
  next => cases hthen
  next hquote =>
    split at hthen
    next hsolidus =>
      obtain ⟨e, mid', hescape, hlast⟩ := run_bind_eq_ok_iff.mp hthen
      obtain ⟨word, hspells, rfl⟩ := exists_of_run_readEscape hescape
      cases hlast
      exact ⟨'\\' :: word, hspells, by rw [hsolidus]; rfl⟩
    next hsolidus =>
      split at hthen
      next => cases hthen
      next hcontrol =>
        cases hthen
        exact ⟨[c], .plain hquote hsolidus (Nat.not_lt.mp hcontrol), rfl⟩

theorem eq_of_run_element_none {cs rest : List Char} (h : element.run cs = .ok (none, rest)) :
    cs = '\"' :: rest := by
  obtain ⟨d, mid, hnext, hthen⟩ := run_bind_eq_ok_iff.mp h
  rw [run_next_eq_ok_iff] at hnext
  subst hnext
  split at hthen
  next hquote =>
    cases hthen
    rw [hquote]
  next =>
    split at hthen
    next =>
      obtain ⟨e, mid', -, hlast⟩ := run_bind_eq_ok_iff.mp hthen
      cases hlast
    next => split at hthen <;> cases hthen

/-- **A text is read exactly off its spellings**, up to the closing quote. -/
theorem rest_eq_ok_iff {cs text behind : List Char} :
    rest cs = .ok (text, behind) ↔ ∃ word, Spelling word text ∧ cs = word ++ '\"' :: behind := by
  constructor
  · intro h
    fun_induction rest cs generalizing text behind with
    | case1 cs fault heq => cases h
    | case2 cs behind' heq =>
      cases h
      exact ⟨[], .nil, eq_of_run_element_none heq⟩
    | case3 cs c mid heq fault hrest => cases h
    | case4 cs c mid heq text' behind' hrest ih =>
      cases h
      obtain ⟨word, hword, hmid⟩ := exists_of_run_element heq
      obtain ⟨words, hwords, rfl⟩ := ih hrest
      exact ⟨word ++ words, .cons hword hwords, by rw [hmid, List.append_assoc]⟩
  · rintro ⟨word, hword, rfl⟩
    exact rest_of_spelling hword behind

theorem run_read_eq_ok_iff {cs behind : List Char} {text : String} :
    read.run cs = .ok (text, behind) ↔
      ∃ word, Spelling word text.toList ∧ cs = word ++ '\"' :: behind := by
  rw [← rest_eq_ok_iff]
  simp only [read, StateT.run]
  split
  next fault hfault => simp [hfault]
  next chars behind' hchars =>
    rw [hchars]
    simp only [Except.ok.injEq, Prod.mk.injEq]
    constructor
    · rintro ⟨rfl, rfl⟩
      exact ⟨String.toList_ofList.symm, rfl⟩
    · rintro ⟨rfl, rfl⟩
      exact ⟨String.ofList_toList, rfl⟩

end Literal

/-- A text between quotes, in any of its spellings. -/
def Quoted (word : List Char) (text : String) : Prop :=
  ∃ inner, Literal.Spelling inner text.toList ∧ word = '\"' :: (inner ++ ['\"'])

theorem quoted_write (text : String) : Quoted (Literal.write text) text :=
  ⟨text.toList.flatMap Literal.writeChar, Literal.spelling_write text.toList, rfl⟩

/-- The opening quote and the reader of texts together take exactly a quoted text. -/
theorem run_read_cons_iff {cs behind : List Char} {text : String} :
    (∃ mid, cs = '\"' :: mid ∧ Literal.read.run mid = .ok (text, behind)) ↔
      ∃ word, Quoted word text ∧ cs = word ++ behind := by
  constructor
  · rintro ⟨mid, rfl, hread⟩
    obtain ⟨inner, hinner, rfl⟩ := Literal.run_read_eq_ok_iff.mp hread
    exact ⟨_, ⟨inner, hinner, rfl⟩, by simp⟩
  · rintro ⟨word, ⟨inner, hinner, rfl⟩, rfl⟩
    exact ⟨inner ++ '\"' :: behind, by simp,
      Literal.run_read_eq_ok_iff.mpr ⟨inner, hinner, rfl⟩⟩

/-- A value of the wrong kind never gives a result. -/
theorem run_refuseForeign_ne_ok {α : Type} {wanted : Wanted} {cs rest : List Char} {a : α} :
    (refuseForeign wanted : Reader α).run cs ≠ .ok (a, rest) := by
  intro h
  obtain ⟨found, mid, -, hthen⟩ := run_bind_eq_ok_iff.mp h
  cases hthen

theorem run_readText_eq_ok_iff {cs rest : List Char} {text : String} :
    readText.run cs = .ok (text, rest) ↔ ∃ word, Quoted word text ∧ cs = word ++ rest := by
  rw [← run_read_cons_iff, readText, run_bind_eq_ok_iff]
  constructor
  · rintro ⟨c, mid, hlook, h⟩
    obtain ⟨rfl, tail, rfl⟩ := run_look_eq_ok_iff.mp hlook
    split at h
    next hc =>
      obtain ⟨d, mid', hnext, hthen⟩ := run_bind_eq_ok_iff.mp h
      rw [run_next_eq_ok_iff] at hnext
      cases hnext
      exact ⟨tail, by rw [hc], hthen⟩
    next => exact absurd h run_refuseForeign_ne_ok
  · rintro ⟨tail, rfl, hread⟩
    refine ⟨'\"', '\"' :: tail, rfl, ?_⟩
    rw [if_pos rfl, run_bind_of_ok (run_next_cons '\"')]
    exact hread

end Boarding.Document
