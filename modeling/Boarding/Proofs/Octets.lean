import Boarding.Proofs.Wording

/-!
Codes counted in octets.

The checks of the codes count characters. A text that is sent or stored is a row of octets, and
there the number of octets is what comes cheap. The two counts agree on ASCII and nowhere else, but
a character beyond ASCII shows in every octet of its encoding, so looking at the octets rules out
exactly the texts on which the counts differ.

* `Text.utf8EncodeChar_of_ascii`, `Text.le_of_mem_utf8EncodeChar`: the octets of one character, in
  ASCII and beyond.
* `Text.forall_octets_iff`: octets of a class of ASCII come from characters of that class only.
* `codes_in_octets`: both checks, said of octets alone.
-/

namespace Boarding

namespace Text

/-- The octets of a text in UTF-8. -/
def octets (s : String) : List UInt8 := s.toUTF8.data.toList

/-- The octet is the code of a character of the class. -/
def CodeIn (P : Char → Prop) (octet : UInt8) : Prop :=
  ∃ c, P c ∧ octet.toNat = c.toNat

/-! ### One character -/

section

variable {c : Char}

theorem utf8EncodeChar_of_ascii (h : c.toNat < 128) :
    String.utf8EncodeChar c = [UInt8.ofNat c.toNat] :=
  if_pos (Nat.le_of_lt_succ h)

/-- Beyond ASCII every octet has its highest bit set, whether there are two, three or four. -/
theorem le_of_mem_utf8EncodeChar (h : 128 ≤ c.toNat) :
    ∀ b ∈ String.utf8EncodeChar c, 128 ≤ b.toNat := by
  have hoctet : ∀ n, 128 ≤ n → n < 256 → 128 ≤ (UInt8.ofNat n).toNat := by
    intro n hle hlt
    rwa [UInt8.toNat_ofNat_of_lt' hlt]
  fun_cases String.utf8EncodeChar c with
  | case1 v hone => exact absurd (Nat.lt_succ_of_le hone) (Nat.not_lt.mpr h)
  | case2 v =>
    simp only [List.forall_mem_cons]
    exact ⟨hoctet _ (by omega) (by omega), hoctet _ (by omega) (by omega), by simp⟩
  | case3 v =>
    simp only [List.forall_mem_cons]
    exact ⟨hoctet _ (by omega) (by omega), hoctet _ (by omega) (by omega),
      hoctet _ (by omega) (by omega), by simp⟩
  | case4 v =>
    simp only [List.forall_mem_cons]
    exact ⟨hoctet _ (by omega) (by omega), hoctet _ (by omega) (by omega),
      hoctet _ (by omega) (by omega), hoctet _ (by omega) (by omega), by simp⟩

/-- A class of ASCII contains a character exactly when it contains all its octets. -/
theorem forall_utf8EncodeChar_iff {P : Char → Prop} (hascii : ∀ d, P d → d.toNat < 128) :
    (∀ b ∈ String.utf8EncodeChar c, CodeIn P b) ↔ P c := by
  by_cases h : c.toNat < 128
  · have hcode : (UInt8.ofNat c.toNat).toNat = c.toNat :=
      UInt8.toNat_ofNat_of_lt' (Nat.lt_trans h (by decide))
    rw [utf8EncodeChar_of_ascii h, List.forall_mem_singleton]
    constructor
    · rintro ⟨d, hd, heq⟩
      rw [hcode, Char.toNat_inj] at heq
      rwa [heq]
    · intro hc
      exact ⟨c, hc, hcode⟩
  · -- The encoding has an octet, and none that is a code of ASCII.
    refine iff_of_false (fun hall => ?_) (fun hc => h (hascii c hc))
    obtain ⟨b, hb⟩ := List.exists_mem_of_ne_nil _ (String.utf8EncodeChar_ne_nil (c := c))
    obtain ⟨d, hd, heq⟩ := hall b hb
    have hle := le_of_mem_utf8EncodeChar (Nat.not_lt.mp h) b hb
    have hlt := hascii d hd
    omega

end

/-! ### Texts -/

variable {s : String}

theorem octets_eq_flatMap (s : String) : octets s = s.toList.flatMap String.utf8EncodeChar := by
  rw [octets, String.toUTF8_eq_toByteArray]
  conv => lhs; rw [← String.ofList_toList (s := s)]
  rw [String.toByteArray_ofList, List.utf8Encode, List.toList_data_toByteArray]

theorem forall_octets_iff {P : Char → Prop} (hascii : ∀ d, P d → d.toNat < 128) :
    (∀ b ∈ octets s, CodeIn P b) ↔ ∀ c ∈ s.toList, P c := by
  rw [octets_eq_flatMap]
  simp only [List.mem_flatMap, forall_exists_index, and_imp]
  constructor
  · intro h c hc
    exact (forall_utf8EncodeChar_iff hascii).mp fun b hb => h b c hc hb
  · intro h b c hc hb
    exact (forall_utf8EncodeChar_iff hascii).mpr (h c hc) b hb

theorem length_octets_of_ascii (h : ∀ c ∈ s.toList, c.toNat < 128) :
    (octets s).length = s.toList.length := by
  rw [octets_eq_flatMap, List.length_flatMap]
  have hone : s.toList.map (fun c => (String.utf8EncodeChar c).length) = s.toList.map fun _ => 1 :=
    List.map_congr_left fun c hc => by rw [utf8EncodeChar_of_ascii (h c hc), List.length_singleton]
  rw [hone, List.map_const', List.sum_replicate_nat, Nat.mul_one]

/-- A check of the length and the characters can be made on the octets when it admits ASCII only. -/
theorem octets_check_iff {P : Char → Prop} (hascii : ∀ d, P d → d.toNat < 128)
    (fits : Nat → Prop) :
    (fits s.toList.length ∧ ∀ c ∈ s.toList, P c) ↔
      fits (octets s).length ∧ ∀ b ∈ octets s, CodeIn P b := by
  rw [forall_octets_iff hascii]
  apply and_congr_left
  intro h
  rw [length_octets_of_ascii fun c hc => hascii c (h c hc)]

end Text

open Text

theorem IsLetter.ascii {c : Char} (h : IsLetter c) : c.toNat < 128 := by
  have hupper : 'Z'.toNat < 128 := by decide
  have hlower : 'z'.toNat < 128 := by decide
  rcases h with ⟨-, h⟩ | ⟨-, h⟩
  · exact Nat.lt_of_le_of_lt h hupper
  · exact Nat.lt_of_le_of_lt h hlower

theorem IsDigit.ascii {c : Char} (h : IsDigit c) : c.toNat < 128 := by
  have hnine : '9'.toNat < 128 := by decide
  exact Nat.lt_of_le_of_lt h.2 hnine

/-- **Counting octets gives the same checks.** A text is an airport code exactly when its encoding
has as many octets as a code has letters and each of them is the code of a letter, and a flight
number exactly when the number of octets is within the limits and each of them is the code of a
letter or a digit. -/
theorem codes_in_octets (s : String) :
    (isAirportCode s = true ↔
      (octets s).length = airportCodeLength ∧ ∀ b ∈ octets s, CodeIn IsLetter b) ∧
    (isFlightNumber s = true ↔
      (flightNumberMin ≤ (octets s).length ∧ (octets s).length ≤ flightNumberMax) ∧
        ∀ b ∈ octets s, CodeIn (fun c => IsLetter c ∨ IsDigit c) b) := by
  constructor
  · rw [isAirportCode_iff]
    simp only [isAlpha_iff]
    exact octets_check_iff (fun d hd => hd.ascii) (· = airportCodeLength)
  · rw [isFlightNumber_iff]
    simp only [isAlphanum_iff]
    exact octets_check_iff (fun d hd => hd.elim IsLetter.ascii IsDigit.ascii)
      fun n => flightNumberMin ≤ n ∧ n ≤ flightNumberMax

-- Three octets, and still no code: the first letter takes up two of them.
example : (octets "ÅD").length = airportCodeLength ∧ isAirportCode "ÅD" = false := by decide

end Boarding
