import Boarding.Proofs.Contract
import Boarding.Proofs.Wording

/-!
The first problem met in reading is final.

A reader is *steady* before `more` when putting `more` behind the text changes nothing in what it
makes of the text: a value stays that value, with `more` behind what was left over, and a fault
stays that fault, unless it was that the text ends too early. Steadiness is a triple: what is known
of the text before reading and what is known of the text left over are part of it, because a number
has no mark at its end. A text that ends in a digit is read differently when a digit, a point or an
exponent follows, and nothing else is.

* `Steady.bind`, `steady_bind_of_truncated`: steadiness of one reader after another.
* `steady_readQuantity`: numbers, by what stands before and behind the place where they end.
* `firm_readForm`: forms.
* `receive_append_of_refused`: more text behind a refused one changes nothing in the answer.
-/

namespace Boarding.Document

open Reader

/-! ### Where a number may end -/

/-- No number goes on with this text: it starts with no digit, no point and no exponent mark. -/
def Stops (more : List Char) : Prop :=
  ∀ c ∈ more.head?, c.isDigit = false ∧ c ≠ '.' ∧ c ≠ 'e' ∧ c ≠ 'E'

/-- A number that the text ends in does not go on with `more`. -/
def Parted (more cs : List Char) : Prop :=
  (∃ c ∈ cs.getLast?, c.isDigit = true) → Stops more

/-- The same for the text behind a digit, where a number also ends if the text is empty. -/
def PartedDigit (more cs : List Char) : Prop :=
  (∀ c ∈ cs.getLast?, c.isDigit = true) → Stops more

section

variable {more cs rest : List Char}

theorem PartedDigit.parted (h : PartedDigit more cs) : Parted more cs := by
  rintro ⟨c, hlast, hc⟩
  refine h fun d hd => ?_
  rw [Option.mem_unique hd hlast]
  exact hc

theorem Parted.of_suffix (h : Parted more cs) (hsuffix : rest <:+ cs) : Parted more rest := by
  obtain ⟨front, rfl⟩ := hsuffix
  rintro ⟨c, hlast, hc⟩
  refine h ⟨c, ?_, hc⟩
  rw [Option.mem_def] at hlast ⊢
  rw [List.getLast?_append, hlast]
  rfl

theorem Parted.tail {c : Char} (h : Parted more (c :: cs)) : Parted more cs :=
  h.of_suffix (List.suffix_cons c cs)

theorem Parted.behind_digit {c : Char} (h : Parted more (c :: cs)) (hc : c.isDigit = true) :
    PartedDigit more cs := by
  intro hall
  refine h ?_
  cases hlast : cs.getLast? with
  | none =>
    rw [List.getLast?_eq_none_iff] at hlast
    exact ⟨c, by rw [hlast]; rfl, hc⟩
  | some d => exact ⟨d, by rw [Option.mem_def, List.getLast?_cons, hlast]; rfl, hall d hlast⟩

end

/-! ### Steady readers -/

/-- Putting `more` behind a text with `P` changes nothing in what the reader makes of the text, and
what it leaves over has `Q`. -/
structure Steady {α : Type} (more : List Char) (P : List Char → Prop) (x : Reader α)
    (Q : α → List Char → Prop) : Prop where
  value : ∀ {cs rest : List Char} {a : α}, P cs → x.run cs = .ok (a, rest) →
    x.run (cs ++ more) = .ok (a, rest ++ more) ∧ Q a rest
  fault : ∀ {cs : List Char} {fault : Fault}, P cs → x.run cs = .error fault →
    fault ≠ .truncated → x.run (cs ++ more) = .error fault

/-- Steady wherever no number that the text ends in goes on. -/
abbrev Firm {α : Type} (more : List Char) (x : Reader α) : Prop :=
  Steady more (Parted more) x fun _ => Parted more

section

variable {α β : Type} {more : List Char} {P P' : List Char → Prop} {x y : Reader α}
  {f : α → Reader β} {Q Q' : α → List Char → Prop} {R : β → List Char → Prop}

theorem steady_pure {a : α} (hQ : ∀ cs, P cs → Q a cs) : Steady more P (pure a) Q := by
  constructor
  · intro cs rest b hP h
    obtain ⟨rfl, rfl⟩ := run_pure_eq_ok_iff.mp h
    exact ⟨rfl, hQ _ hP⟩
  · intro cs fault _ h
    cases h

theorem firm_pure (a : α) : Firm more (pure a) :=
  steady_pure fun _ h => h

theorem steady_throw (fault : Fault) : Steady more P (throw fault : Reader α) Q := by
  constructor
  · intro cs rest a _ h
    cases h
  · intro cs fault' _ h _
    cases h
    rfl

theorem Steady.bind (hx : Steady more P x Q) (hf : ∀ a, Steady more (Q a) (f a) R) :
    Steady more P (x >>= f) R := by
  constructor
  · intro cs rest b hP h
    obtain ⟨a, mid, hread, hthen⟩ := run_bind_eq_ok_iff.mp h
    obtain ⟨hread', hQ⟩ := hx.value hP hread
    rw [run_bind_of_ok hread']
    exact (hf a).value hQ hthen
  · intro cs fault hP h hne
    cases hread : x.run cs with
    | error fault' =>
      rw [run_bind_of_error hread] at h
      cases h
      exact run_bind_of_error (hx.fault hP hread hne)
    | ok result =>
      obtain ⟨a, mid⟩ := result
      rw [run_bind_of_ok hread] at h
      obtain ⟨hread', hQ⟩ := hx.value hP hread
      rw [run_bind_of_ok hread']
      exact (hf a).fault hQ h hne

/-- A reader that may go on into `more` when it has read the whole text is steady all the same if
the text ends too early for the reader after it. -/
theorem steady_bind_of_truncated
    (hx : ∀ {cs rest : List Char} {a : α}, P cs → x.run cs = .ok (a, rest) → rest ≠ [] →
      x.run (cs ++ more) = .ok (a, rest ++ more) ∧ Q a rest)
    (htotal : ∀ cs, ∃ a rest, x.run cs = .ok (a, rest))
    (hf : ∀ a, Steady more (Q a) (f a) R) (hend : ∀ a, (f a).run [] = .error .truncated) :
    Steady more P (x >>= f) R := by
  constructor
  · intro cs rest b hP h
    obtain ⟨a, mid, hread, hthen⟩ := run_bind_eq_ok_iff.mp h
    have hmid : mid ≠ [] := by
      rintro rfl
      rw [hend a] at hthen
      cases hthen
    obtain ⟨hread', hQ⟩ := hx hP hread hmid
    rw [run_bind_of_ok hread']
    exact (hf a).value hQ hthen
  · intro cs fault hP h hne
    obtain ⟨a, mid, hread⟩ := htotal cs
    rw [run_bind_of_ok hread] at h
    have hmid : mid ≠ [] := by
      rintro rfl
      rw [hend a] at h
      cases h
      exact hne rfl
    obtain ⟨hread', hQ⟩ := hx hP hread hmid
    rw [run_bind_of_ok hread']
    exact (hf a).fault hQ h hne

theorem steady_ite {p : Prop} [Decidable p] (hx : p → Steady more P x Q)
    (hy : ¬ p → Steady more P y Q) : Steady more P (if p then x else y) Q := by
  split
  next hp => exact hx hp
  next hp => exact hy hp

theorem Steady.mono (h : Steady more P x Q) (hP : ∀ cs, P' cs → P cs)
    (hQ : ∀ a rest, Q a rest → Q' a rest) : Steady more P' x Q' where
  value hcs hread := by
    obtain ⟨hread', hrest⟩ := h.value (hP _ hcs) hread
    exact ⟨hread', hQ _ _ hrest⟩
  fault hcs hread hne := h.fault (hP _ hcs) hread hne

end

/-! ### Marks and space -/

section

variable {α : Type} {more : List Char} {Q : α → List Char → Prop}

/-- Reading a character, with what it says about the text behind it. -/
theorem steady_next : Steady more (Parted more) next fun c rest =>
    Parted more rest ∧ (c.isDigit = true → PartedDigit more rest) := by
  constructor
  · intro cs rest c hparted h
    rw [run_next_eq_ok_iff] at h
    subst h
    exact ⟨rfl, hparted.tail, hparted.behind_digit⟩
  · intro cs fault _ h hne
    cases cs with
    | nil =>
      cases h
      exact absurd rfl hne
    | cons c cs => cases h

theorem firm_next : Firm more next :=
  steady_next.mono (fun _ h => h) fun _ _ h => h.1

theorem firm_look : Firm more look := by
  constructor
  · intro cs rest c hparted h
    obtain ⟨rfl, tail, rfl⟩ := run_look_eq_ok_iff.mp h
    exact ⟨rfl, hparted⟩
  · intro cs fault _ h hne
    cases cs with
    | nil =>
      cases h
      exact absurd rfl hne
    | cons c cs => cases h

theorem firm_expect (mark : Char) : Firm more (expect mark) :=
  firm_next.bind fun _ => steady_ite (fun _ => firm_pure _) fun _ => steady_throw _

theorem firm_expectAll (marks : List Char) : Firm more (expectAll marks) := by
  induction marks with
  | nil => exact firm_pure ()
  | cons mark marks ih => exact (firm_expect mark).bind fun _ => ih

theorem firm_accept {a : Except Shape α} : Firm more (accept a) := by
  cases a with
  | ok a => exact firm_pure a
  | error cause => exact steady_throw _

theorem skipSpace_append_of_ne_nil {cs : List Char} (h : skipSpace cs ≠ []) :
    skipSpace (cs ++ more) = skipSpace cs ++ more := by
  obtain ⟨c, tail, hskip⟩ := List.exists_cons_of_ne_nil h
  obtain ⟨hc, spaces, hspaces, hcs⟩ := skipSpace_eq_cons_iff.mp hskip
  rw [hskip, List.cons_append, skipSpace_eq_cons_iff]
  exact ⟨hc, spaces, hspaces, by rw [hcs, List.append_assoc, List.cons_append]⟩

/-- Space goes on into `more`, but what is wanted after space is never nothing. -/
theorem steady_space_bind {x : Reader α} (hx : Steady more (Parted more) x Q)
    (hend : x.run [] = .error .truncated) :
    Steady more (Parted more) (do space; x) Q := by
  refine steady_bind_of_truncated (Q := fun _ => Parted more) ?_ (fun cs => ⟨(), _, run_space⟩)
    (fun _ => hx) fun _ => hend
  intro cs rest _ hparted h hne
  cases h
  refine ⟨?_, hparted.of_suffix (List.dropWhile_suffix isSpace)⟩
  rw [run_space, skipSpace_append_of_ne_nil hne]

end

/-! ### Texts -/

namespace Literal

variable {more : List Char}

theorem utf8Size_of_hexValue? {c : Char} {n : Nat} (h : hexValue? c = some n) :
    c.utf8Size = 1 := by
  have hsize : ∀ n < 16, (Nat.digitChar n).utf8Size = 1 ∧
      (Nat.digitChar n).toUpper.utf8Size = 1 := by
    decide
  obtain ⟨hn, rfl | rfl⟩ := hexDigit_of_hexValue? h
  · exact (hsize n hn).1
  · exact (hsize n hn).2

/-- Hexadecimal digits take up one octet each. -/
theorem octets_eq_length {cs : List Char} (h : ∀ c ∈ cs, ∃ n, hexValue? c = some n) :
    octets cs = cs.length := by
  induction cs with
  | nil => rfl
  | cons c cs ih =>
    obtain ⟨n, hn⟩ := h c (by simp)
    rw [octets, utf8Size_of_hexValue? hn, ih fun d hd => h d (by simp [hd]), List.length_cons,
      Nat.add_comm]

theorem unitValue?_eq_none_iff {a b c d : Char} :
    unitValue? a b c d = none ↔ ∃ e ∈ [a, b, c, d], hexValue? e = none := by
  cases ha : hexValue? a with
  | none => simp [unitValue?, ha]
  | some w =>
    cases hb : hexValue? b with
    | none => simp [unitValue?, ha, hb]
    | some x =>
      cases hc : hexValue? c with
      | none => simp [unitValue?, ha, hb, hc]
      | some y => cases hd : hexValue? d <;> simp [unitValue?, ha, hb, hc, hd]

theorem octets_append (cs ds : List Char) : octets (cs ++ ds) = octets cs + octets ds := by
  induction cs with
  | nil => simp [octets]
  | cons c cs ih => rw [List.cons_append, octets, octets, ih, Nat.add_assoc]

theorem length_le_octets (cs : List Char) : cs.length ≤ octets cs := by
  induction cs with
  | nil => exact Nat.le_refl 0
  | cons c cs ih =>
    have hsize := c.utf8Size_pos
    rw [List.length_cons, octets]
    omega

/-- Four digits are refused when there is room for them and one of the next characters, as many of
the four as there are, is no digit. -/
theorem run_readUnit_eq_malformed_iff {cs : List Char} :
    readUnit.run cs = .error .malformed ↔
      4 ≤ octets cs ∧ ∃ c ∈ cs.take 4, hexValue? c = none := by
  unfold readUnit
  simp only [StateT.run]
  split
  next a b c d tail =>
    have hroom : 4 ≤ octets (a :: b :: c :: d :: tail) :=
      Nat.le_trans (by simp) (length_le_octets _)
    have htake : (a :: b :: c :: d :: tail).take 4 = [a, b, c, d] := by simp
    rw [htake, ← unitValue?_eq_none_iff]
    split
    next n hn => simp [hn]
    next hn => simp [hn, hroom]
  next hshort =>
    have hlength : cs.length < 4 := by
      match cs, hshort with
      | [], _ => simp
      | [_], _ => simp
      | [_, _], _ => simp
      | [_, _, _], _ => simp
      | a :: b :: c :: d :: tail, hshort => exact absurd rfl (hshort a b c d tail)
    rw [List.take_of_length_le (Nat.le_of_lt hlength)]
    split
    next hoctets => simp [Nat.not_le.mpr hoctets]
    next hoctets =>
      -- Fewer than four characters fill four octets, so not all of them are digits.
      refine iff_of_true rfl ⟨Nat.not_lt.mp hoctets, ?_⟩
      by_contra hdigits
      rw [octets_eq_length] at hoctets
      · exact hoctets hlength
      · intro c hc
        refine Option.ne_none_iff_exists'.mp fun hnone => hdigits ⟨c, hc, hnone⟩

theorem run_readUnit_fault {cs : List Char} {fault : Fault}
    (h : readUnit.run cs = .error fault) : fault = .truncated ∨ fault = .malformed := by
  unfold readUnit at h
  simp only [StateT.run] at h
  split at h
  next =>
    split at h
    next => cases h
    next => exact .inr (Except.error.inj h).symm
  next =>
    split at h
    next => exact .inl (Except.error.inj h).symm
    next => exact .inr (Except.error.inj h).symm

theorem firm_readUnit : Firm more readUnit := by
  constructor
  · intro cs rest n hparted h
    obtain ⟨a, b, c, d, hunit, rfl⟩ := exists_of_run_readUnit h
    exact ⟨run_readUnit (unitValue?_of_hexUnit hunit) (rest ++ more),
      hparted.tail.tail.tail.tail⟩
  · intro cs fault _ h hne
    rcases run_readUnit_fault h with rfl | rfl
    · exact absurd rfl hne
    · obtain ⟨hroom, c, hc, hnone⟩ := run_readUnit_eq_malformed_iff.mp h
      refine run_readUnit_eq_malformed_iff.mpr ⟨?_, c, ?_, hnone⟩
      · rw [octets_append]
        omega
      · rw [List.take_append]
        exact List.mem_append_left _ hc

theorem firm_readSecondHalf : Firm more readSecondHalf :=
  (firm_expectAll _).bind fun _ => firm_readUnit.bind fun _ =>
    steady_ite (fun _ => firm_pure _) fun _ => steady_throw _

theorem firm_readCodePoint : Firm more readCodePoint :=
  firm_readUnit.bind fun _ => steady_ite (fun _ => steady_throw _) fun _ =>
    steady_ite (fun _ => firm_readSecondHalf.bind fun _ => firm_pure _) fun _ => firm_pure _

theorem firm_readEscape : Firm more readEscape := by
  refine firm_next.bind fun c => steady_ite (fun _ => firm_readCodePoint) fun _ => ?_
  split
  · exact firm_pure _
  · exact steady_throw _

theorem firm_element : Firm more element :=
  firm_next.bind fun _ => steady_ite (fun _ => firm_pure _) fun _ =>
    steady_ite (fun _ => firm_readEscape.bind fun _ => firm_pure _) fun _ =>
      steady_ite (fun _ => steady_throw _) fun _ => firm_pure _

/-- A fault in the next written character is the fault of the text. -/
theorem rest_of_error {cs : List Char} {fault : Fault} (h : element.run cs = .error fault) :
    rest cs = .error fault := by
  rw [rest]
  split
  next fault' heq =>
    cases h.symm.trans heq
    rfl
  next behind heq => exact absurd (h.symm.trans heq) (by simp)
  next c behind heq => exact absurd (h.symm.trans heq) (by simp)

/-- A fault behind a written character is the fault of the text. -/
theorem rest_of_some_error {cs mid : List Char} {c : Char} {fault : Fault}
    (h : element.run cs = .ok (some c, mid)) (hrest : rest mid = .error fault) :
    rest cs = .error fault := by
  rw [rest]
  split
  next fault' heq => exact absurd (h.symm.trans heq) (by simp)
  next behind heq => exact absurd (h.symm.trans heq) (by simp)
  next c' mid' heq =>
    cases h.symm.trans heq
    rw [hrest]

theorem rest_append_of_error {cs : List Char} {fault : Fault} (hparted : Parted more cs)
    (h : rest cs = .error fault) (hne : fault ≠ .truncated) :
    rest (cs ++ more) = .error fault := by
  fun_induction rest cs with
  | case1 cs fault' heq =>
    cases h
    exact rest_of_error (firm_element.fault hparted heq hne)
  | case2 cs behind heq => cases h
  | case3 cs c mid heq fault' hrest ih =>
    cases h
    obtain ⟨hmore, hmid⟩ := firm_element.value hparted heq
    exact rest_of_some_error hmore (ih hmid hrest)
  | case4 cs c mid heq text behind hrest ih => cases h

theorem run_read_eq_error_iff {cs : List Char} {fault : Fault} :
    read.run cs = .error fault ↔ rest cs = .error fault := by
  simp only [read, StateT.run]
  split
  next fault' hfault => simp [hfault]
  next text behind hrest => simp [hrest]

theorem firm_read : Firm more read := by
  constructor
  · intro cs behind text hparted h
    obtain ⟨word, hword, rfl⟩ := run_read_eq_ok_iff.mp h
    refine ⟨run_read_eq_ok_iff.mpr ⟨word, hword, by simp⟩, hparted.of_suffix ?_⟩
    exact ⟨word ++ ['\"'], by simp⟩
  · intro cs fault hparted h hne
    rw [run_read_eq_error_iff] at h ⊢
    exact rest_append_of_error hparted h hne

end Literal

/-! ### Numbers -/

namespace Numeral

variable {more : List Char}

/-- Behind a digit, `more` brings no further digits. -/
theorem run_readDigits_append {cs : List Char} (h : PartedDigit more cs) :
    readDigits.run (cs ++ more) =
      .ok ((cs.takeWhile Char.isDigit).map digitValue, cs.dropWhile Char.isDigit ++ more) ∧
    PartedDigit more (cs.dropWhile Char.isDigit) := by
  have hspan : (cs ++ more).takeWhile Char.isDigit = cs.takeWhile Char.isDigit ∧
      (cs ++ more).dropWhile Char.isDigit = cs.dropWhile Char.isDigit ++ more ∧
      PartedDigit more (cs.dropWhile Char.isDigit) := by
    induction cs with
    | nil =>
      have hstops : Stops more := h fun c hc => by cases hc
      cases more with
      | nil => exact ⟨rfl, rfl, h⟩
      | cons d ds =>
        have hd : d.isDigit = false := (hstops d rfl).1
        simp [hd, h]
    | cons c cs ih =>
      cases hc : c.isDigit with
      | true =>
        have htail := ih (h.parted.behind_digit hc)
        simp [hc, htail]
      | false => simp [hc, h]
  refine ⟨?_, hspan.2.2⟩
  simp only [readDigits, StateT.run, hspan]

theorem steady_readDigits :
    Steady more (PartedDigit more) readDigits fun _ => PartedDigit more := by
  constructor
  · intro cs rest ds hparted h
    cases h
    exact run_readDigits_append hparted
  · intro cs fault _ h
    cases h

theorem steady_readSomeDigits :
    Steady more (Parted more) readSomeDigits fun _ => PartedDigit more := by
  refine steady_next.bind fun c => steady_ite (fun hc => ?_) fun _ => steady_throw _
  refine (steady_readDigits.mono (fun _ h => h.2 hc) fun _ _ h => h).bind fun _ => ?_
  exact steady_pure fun _ h => h

theorem steady_readWhole : Steady more (Parted more) readWhole fun _ => PartedDigit more :=
  steady_readSomeDigits.bind fun _ =>
    steady_ite (fun _ => steady_throw _) fun _ => steady_pure fun _ h => h

theorem run_readOption_of_mem {marks cs : List Char} {c : Char} (h : c ∈ marks) :
    (readOption marks).run (c :: cs) = .ok (some c, cs) :=
  if_pos h

theorem run_readOption_of_not_mem {marks cs : List Char} (h : ∀ c ∈ cs.head?, c ∉ marks) :
    (readOption marks).run cs = .ok (none, cs) := by
  cases cs with
  | nil => rfl
  | cons c cs => exact if_neg (h c rfl)

/-- An optional mark is read in one of two ways, and there is no third. -/
theorem run_readOption_cases (marks cs : List Char) :
    (∃ c tail, c ∈ marks ∧ cs = c :: tail ∧ (readOption marks).run cs = .ok (some c, tail)) ∨
      (∀ c ∈ cs.head?, c ∉ marks) ∧ (readOption marks).run cs = .ok (none, cs) := by
  by_cases h : ∀ c ∈ cs.head?, c ∉ marks
  · exact .inr ⟨h, run_readOption_of_not_mem h⟩
  · cases cs with
    | nil => exact absurd (fun c hc => by cases hc) h
    | cons c cs =>
      have hc : c ∈ marks := by simpa using h
      exact .inl ⟨c, cs, hc, rfl, run_readOption_of_mem hc⟩

/-- A mark that goes on with a number is not taken from `more` behind a digit. -/
theorem steady_readOption {marks : List Char}
    (hmarks : ∀ c ∈ marks, c = '.' ∨ c = 'e' ∨ c = 'E') :
    Steady more (PartedDigit more) (readOption marks) fun mark? rest =>
      (mark? = none → PartedDigit more rest) ∧ Parted more rest := by
  constructor
  · intro cs rest mark? hparted h
    rcases run_readOption_cases marks cs with ⟨c, tail, hc, rfl, hrun⟩ | ⟨hnot, hrun⟩
    · cases hrun.symm.trans h
      refine ⟨run_readOption_of_mem hc, fun hnone => ?_, hparted.parted.tail⟩
      cases hnone
    · cases hrun.symm.trans h
      refine ⟨run_readOption_of_not_mem ?_, fun _ => hparted, hparted.parted⟩
      cases cs with
      | cons c cs => exact hnot
      | nil =>
        -- The text has been read to its end, behind a digit: `more` brings no such mark.
        have hstops : Stops more := hparted fun c hc => by cases hc
        intro d hd hmem
        obtain ⟨-, hpoint, hlower, hupper⟩ := hstops d hd
        rcases hmarks d hmem with rfl | rfl | rfl
        · exact hpoint rfl
        · exact hlower rfl
        · exact hupper rfl
  · intro cs fault _ h
    rcases run_readOption_cases marks cs with ⟨c, tail, -, -, hrun⟩ | ⟨-, hrun⟩
    · cases hrun.symm.trans h
    · cases hrun.symm.trans h

/-- A sign may stand in `more`, but the digits behind it are never nothing. -/
theorem steady_sign_bind {α : Type} {marks : List Char} {f : Option Char → Reader α}
    {Q : α → List Char → Prop} (hf : ∀ sign, Steady more (Parted more) (f sign) Q)
    (hend : ∀ sign, (f sign).run [] = .error .truncated) :
    Steady more (Parted more) (readOption marks >>= f) Q := by
  refine steady_bind_of_truncated (Q := fun _ => Parted more) ?_ (fun cs => ?_) hf hend
  · intro cs rest sign hparted h hne
    rcases run_readOption_cases marks cs with ⟨c, tail, hc, rfl, hrun⟩ | ⟨hnot, hrun⟩
    · cases hrun.symm.trans h
      exact ⟨run_readOption_of_mem hc, hparted.tail⟩
    · cases hrun.symm.trans h
      cases cs with
      | nil => exact absurd rfl hne
      | cons c cs => exact ⟨run_readOption_of_not_mem hnot, hparted⟩
  · rcases run_readOption_cases marks cs with ⟨c, tail, -, -, hrun⟩ | ⟨-, hrun⟩
    · exact ⟨_, _, hrun⟩
    · exact ⟨_, _, hrun⟩

theorem steady_readFraction :
    Steady more (PartedDigit more) readFraction fun _ => PartedDigit more := by
  refine (steady_readOption (by simp)).bind fun mark? => ?_
  cases mark? with
  | none => exact steady_pure fun _ h => h.1 rfl
  | some mark => exact steady_readSomeDigits.mono (fun _ h => h.2) fun _ _ h => h

theorem steady_readExponent :
    Steady more (PartedDigit more) readExponent fun _ => PartedDigit more := by
  refine (steady_readOption (by simp)).bind fun mark? => ?_
  cases mark? with
  | none => exact steady_pure fun _ h => h.1 rfl
  | some mark =>
    have hdigits : Steady more (Parted more)
        (do
          let sign ← readOption ['+', '-']
          let ds ← readSomeDigits
          pure (some (sign == some '-', ds)) : Reader (Option (Bool × List Nat)))
        fun _ => PartedDigit more :=
      steady_sign_bind (fun _ => steady_readSomeDigits.bind fun _ => steady_pure fun _ h => h)
        fun _ => rfl
    exact hdigits.mono (fun _ h => h.2) fun _ _ h => h

theorem steady_read : Steady more (Parted more) read fun _ => PartedDigit more :=
  steady_sign_bind (fun _ => steady_readWhole.bind fun _ => steady_readFraction.bind fun _ =>
    steady_readExponent.bind fun _ => steady_pure fun _ h => h) fun _ => rfl

theorem steady_readQuantity :
    Steady more (Parted more) readQuantity fun _ => PartedDigit more := by
  refine steady_read.bind fun n => ?_
  split
  · exact steady_pure fun _ h => h
  · exact steady_throw _

end Numeral

/-! ### Values of the wrong kind -/

section

variable {α : Type} {more : List Char}

theorem firm_foreign : Firm more Foreign.read := by
  have hnumber : Firm more Numeral.readQuantity :=
    Numeral.steady_readQuantity.mono (fun _ h => h) fun _ _ h => h.parted
  exact firm_look.bind fun _ =>
    steady_ite (fun _ => (firm_expectAll _).bind fun _ => firm_pure _) fun _ =>
    steady_ite (fun _ => (firm_expectAll _).bind fun _ => firm_pure _) fun _ =>
    steady_ite (fun _ => (firm_expectAll _).bind fun _ => firm_pure _) fun _ =>
    steady_ite (fun _ => hnumber.bind fun _ => firm_pure _) fun _ =>
    steady_ite (fun _ => firm_next.bind fun _ => Literal.firm_read.bind fun _ => firm_pure _)
      fun _ =>
    steady_ite (fun _ => firm_pure _) fun _ =>
    steady_ite (fun _ => firm_pure _) fun _ => steady_throw _

theorem firm_refuseForeign (wanted : Wanted) : Firm more (refuseForeign wanted : Reader α) :=
  firm_foreign.bind fun _ => steady_throw _

theorem firm_readText : Firm more readText :=
  firm_look.bind fun _ =>
    steady_ite (fun _ => firm_next.bind fun _ => Literal.firm_read) fun _ =>
      firm_refuseForeign _

end

/-! ### Forms -/

section

variable {more : List Char}

theorem firm_readKey (due : Bool) : Firm more (readKey due) := by
  have hkey : Firm more (do expect '\"'; let key ← Literal.read; pure (some key)) :=
    (firm_expect _).bind fun _ => Literal.firm_read.bind fun _ => firm_pure _
  refine steady_space_bind (firm_look.bind fun c => ?_) rfl
  refine steady_ite (fun _ => firm_next.bind fun _ => firm_pure _) fun _ => ?_
  refine steady_ite (fun _ => ?_) fun _ => hkey
  exact (firm_expect _).bind fun _ => steady_space_bind hkey rfl

theorem firm_readMember (entries : Entries) : Firm more (readMember entries) := by
  refine (firm_readKey _).bind fun key? => ?_
  cases key? with
  | none => exact firm_pure _
  | some key =>
    refine firm_accept.bind fun field => steady_space_bind ((firm_expect _).bind fun _ => ?_) rfl
    exact steady_space_bind (firm_readText.bind fun _ => firm_pure _) rfl

theorem firm_readMembers (entries : Entries) :
    Firm more (readMembers entries : Reader Entries) := by
  constructor
  · intro cs rest all hparted h
    change readMembers entries cs = _ at h
    change readMembers entries (cs ++ more) = _ ∧ _
    fun_induction readMembers entries cs with
    | case1 entries cs fault heq => cases h
    | case2 entries cs behind heq =>
      obtain ⟨hmore, hrest⟩ := (firm_readMember entries).value hparted heq
      cases h
      exact ⟨readMembers_of_none hmore, hrest⟩
    | case3 entries cs entry mid heq ih =>
      obtain ⟨hmore, hmid⟩ := (firm_readMember entries).value hparted heq
      rw [readMembers_of_some hmore]
      exact ih hmid h
  · intro cs fault hparted h hne
    change readMembers entries cs = _ at h
    change readMembers entries (cs ++ more) = _
    fun_induction readMembers entries cs with
    | case1 entries cs fault' heq =>
      cases h
      exact readMembers_of_error ((firm_readMember entries).fault hparted heq hne)
    | case2 entries cs behind heq => cases h
    | case3 entries cs entry mid heq ih =>
      obtain ⟨hmore, hmid⟩ := (firm_readMember entries).value hparted heq
      rw [readMembers_of_some hmore]
      exact ih hmid h

theorem firm_readElements (fields : List Field) (entries : Entries) :
    Firm more (readElements fields entries) := by
  induction fields generalizing entries with
  | nil => exact steady_space_bind ((firm_expect _).bind fun _ => firm_pure _) rfl
  | cons field fields ih =>
    have htext : Firm more
        (do let text ← readText; readElements fields (entries ++ [(field, text)])) :=
      firm_readText.bind fun _ => ih _
    refine steady_space_bind (firm_look.bind fun c => ?_) rfl
    refine steady_ite (fun _ => steady_throw _) fun _ => ?_
    refine steady_ite (fun _ => htext) fun _ => ?_
    exact (firm_expect _).bind fun _ => steady_space_bind htext rfl

theorem firm_readForm : Firm more readForm := by
  refine steady_space_bind (firm_look.bind fun c => ?_) rfl
  refine steady_ite (fun _ => ?_) fun _ => steady_ite (fun _ => ?_) fun _ =>
    firm_refuseForeign _
  · exact firm_next.bind fun _ => (firm_readMembers []).bind fun _ => firm_accept
  · exact firm_next.bind fun _ => (firm_readElements _ _).bind fun _ => firm_accept

end

/-! ### Answers -/

/-- A refusal that comes after the form was read stands, whatever is put behind. -/
theorem conclude_append {verdict : Verdict} {behind : List Char} {why : Refusal}
    (h : conclude verdict behind = .refused why) (more : List Char) :
    conclude verdict (behind ++ more) = conclude verdict behind := by
  cases verdict with
  | rejected cause => rfl
  | issued pass =>
    by_cases hbehind : skipSpace behind = []
    · rw [conclude, if_pos hbehind] at h
      cases h
    · have hmore : skipSpace (behind ++ more) ≠ [] := by
        rw [skipSpace_append_of_ne_nil hbehind]
        exact List.append_ne_nil_of_left_ne_nil hbehind more
      rw [conclude, conclude, if_neg hbehind, if_neg hmore]

theorem receiveChars_append {cs more : List Char} {why : Refusal} (hparted : Parted more cs)
    (h : (receiveChars cs).outcome = .refused why) (hwhy : why ≠ .unreadable .truncated) :
    receiveChars (cs ++ more) = receiveChars cs := by
  cases hread : readForm.run cs with
  | error fault =>
    rw [receiveChars_of_error hread] at h ⊢
    have hfault : fault ≠ .truncated := by
      rintro rfl
      cases h
      exact hwhy rfl
    exact receiveChars_of_error (firm_readForm.fault hparted hread hfault)
  | ok result =>
    obtain ⟨form, behind⟩ := result
    rw [receiveChars_of_ok hread] at h ⊢
    dsimp only at h
    rw [receiveChars_of_ok (firm_readForm.value hparted hread).1, conclude_append h]

/-- **The first problem met is final.** A text that is refused, other than for ending too early, is
refused for the same reason and with the same events when more text is put behind it, unless the
text ends in a digit and what is put behind it goes on with the number. -/
theorem receive_append_of_refused {text more : String} {why : Refusal}
    (hparted : (∀ c ∈ text.toList.getLast?, ¬ IsDigit c) ∨
      ∀ c ∈ more.toList.head?, ¬ IsDigit c ∧ c ≠ '.' ∧ c ≠ 'e' ∧ c ≠ 'E')
    (hrefused : (receive text).outcome = .refused why) (hwhy : why ≠ .unreadable .truncated) :
    receive (text ++ more) = receive text := by
  have hparted' : Parted more.toList text.toList := by
    rintro ⟨c, hlast, hc⟩
    rcases hparted with htext | hmore
    · exact absurd (isDigit_iff.mp hc) (htext c hlast)
    · intro d hd
      obtain ⟨hdigit, hmarks⟩ := hmore d hd
      rw [← isDigit_iff, Bool.not_eq_true] at hdigit
      exact ⟨hdigit, hmarks⟩
  rw [receive, receive, String.toList_append]
  exact receiveChars_append hparted' hrefused hwhy

/-- A number in the place of a text, up to its last digit. -/
def brokenOff : String := "\x7b\"gateNumber\" : -12.5e3"

theorem receive_append_of_refused_number :
    (receive brokenOff).outcome = .refused (.unreadable (.shape (.wrongKind
      (.number (.real true (.ofNat 12500))) .text))) ∧
    receive (brokenOff ++ "\x7d, \"") = receive brokenOff := by
  have hrefused : (receive brokenOff).outcome = .refused (.unreadable (.shape (.wrongKind
      (.number (.real true (.ofNat 12500))) .text))) := by
    decide +kernel
  have hstops : ∀ c ∈ ("\x7d, \"").toList.head?, ¬ IsDigit c ∧ c ≠ '.' ∧ c ≠ 'e' ∧ c ≠ 'E' := by
    intro c hc
    cases hc
    decide
  exact ⟨hrefused, receive_append_of_refused (.inr hstops) hrefused (by decide)⟩

/-- The condition on digits is needed: here the text goes on with the number. -/
example : receive ("12" ++ "5") ≠ receive "12" := by decide +kernel

end Boarding.Document
