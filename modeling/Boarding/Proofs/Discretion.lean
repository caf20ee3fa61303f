import Boarding.Proofs.Finality
import Boarding.Proofs.Issuing
import Boarding.Proofs.Offence

/-!
The passenger's name is not disclosed.

Two runs that differ in the name only are compared. Issuing looks at the name for being blank and at
nothing else in it, so the verdicts on two forms with names are `Alike`: the same rejection, or
passes that differ in the name at most. In a document the name is one quoted text. Either the
reading ends before it, for a reason that is final, or the texts differ in one entry from there on,
and which entry a member goes to depends on the fields that have been given, not on their texts.

* `issue_alike`: verdicts on forms that differ in the name.
* `run_readRest_rename`: reading on with another name gives the same form but for the name.
* `refused_of_not_plain`: members that offend are refused before anything behind them.
* `name_undisclosed`: both together.
-/

namespace Boarding

open Text

/-! ### Forms -/

/-- The same texts in every field but the name. -/
def Form.SameButName (f g : Form) : Prop :=
  ∀ field ≠ Field.passengerName, f.get field = g.get field

/-- The same texts on both passes but for the name. -/
structure Pass.SameButName (p q : Pass) : Prop where
  airport : p.airportCode = q.airportCode
  flight : p.flightNumber = q.flightNumber
  gate : p.gateNumber = q.gateNumber

/-- The same rejection, or passes that differ in the name at most. -/
def Verdict.Alike (v w : Verdict) : Prop :=
  (∃ cause, v = .rejected cause ∧ w = .rejected cause) ∨
    ∃ p q : Pass, v = .issued p ∧ w = .issued q ∧ p.SameButName q

theorem Verdict.Alike.event_eq {v w : Verdict} (h : v.Alike w) : v.event = w.event := by
  rcases h with ⟨cause, rfl, rfl⟩ | ⟨p, q, rfl, rfl, -⟩
  · rfl
  · rfl

section

variable {f g : Form}

theorem firstBlank_iff_of_sameButName (h : f.SameButName g) (hf : ¬ Blank f.passengerName)
    (hg : ¬ Blank g.passengerName) (field : Field) : FirstBlank f field ↔ FirstBlank g field := by
  have hblank : ∀ other : Field, Blank (f.get other) ↔ Blank (g.get other) := by
    intro other
    by_cases hother : other = .passengerName
    · subst hother
      exact ⟨fun hblank => absurd hblank hf, fun hblank => absurd hblank hg⟩
    · rw [h other hother]
  simp only [FirstBlank, hblank]

theorem issue_alike (h : f.SameButName g) (hf : ¬ Blank f.passengerName)
    (hg : ¬ Blank g.passengerName) : (issue f).Alike (issue g) := by
  have hempty : f.trimmed.firstEmpty? = g.trimmed.firstEmpty? := by
    apply Option.ext
    intro field
    rw [firstEmpty?_trimmed_eq_some_iff, firstEmpty?_trimmed_eq_some_iff]
    exact firstBlank_iff_of_sameButName h hf hg field
  have htrim : ∀ field ≠ Field.passengerName, f.trimmed.get field = g.trimmed.get field := by
    intro field hfield
    rw [Form.get_trimmed, Form.get_trimmed, h field hfield]
  have hairport : f.trimmed.airportCode = g.trimmed.airportCode := htrim .airportCode (by decide)
  have hflight : f.trimmed.flightNumber = g.trimmed.flightNumber := htrim .flightNumber (by decide)
  have hgate : f.trimmed.gateNumber = g.trimmed.gateNumber := htrim .gateNumber (by decide)
  rw [issue, issue, judge, judge, hempty, hairport, hflight]
  split
  · exact .inl ⟨_, rfl, rfl⟩
  · split
    · exact .inl ⟨_, rfl, rfl⟩
    · split
      · exact .inl ⟨_, rfl, rfl⟩
      · exact .inr ⟨_, _, rfl, rfl, ⟨hairport, hflight, hgate⟩⟩

end

namespace Document

open Reader

/-! ### Reading on with another name -/

/-- The entries with another text for the name, if there is one. -/
def Entries.rename (entries : Entries) (name : String) : Entries :=
  entries.map fun entry => (entry.1, if entry.1 = .passengerName then name else entry.2)

section

variable {entries entries' : Entries} {name : String} {cs : List Char}

theorem Entries.fields_rename (entries : Entries) (name : String) :
    (entries.rename name).map Prod.fst = entries.map Prod.fst := by
  rw [Entries.rename, List.map_map]
  rfl

theorem Entries.rename_of_not_mem (h : Field.passengerName ∉ entries.map Prod.fst) :
    entries.rename name = entries := by
  have hself : ∀ entry ∈ entries,
      (entry.1, if entry.1 = .passengerName then name else entry.2) = entry := by
    intro entry hentry
    have hother : entry.1 ≠ .passengerName := by
      intro heq
      rw [← heq] at h
      exact h (List.mem_map_of_mem hentry)
    rw [if_neg hother]
  rw [Entries.rename, List.map_congr_left hself, List.map_id']

theorem Entries.rename_append (entries more : Entries) (name : String) :
    Entries.rename (entries ++ more) name = entries.rename name ++ more.rename name :=
  List.map_append

theorem Entries.isSome_text?_congr (h : entries.map Prod.fst = entries'.map Prod.fst)
    (field : Field) : (entries.text? field).isSome = (entries'.text? field).isSome := by
  rw [Bool.eq_iff_iff, ← Option.ne_none_iff_isSome, ← Option.ne_none_iff_isSome, ne_eq, ne_eq,
    Entries.text?_eq_none_iff, Entries.text?_eq_none_iff, h]

/-- Which member may come next depends on the fields that have been given alone. -/
theorem readMember_congr (h : entries.map Prod.fst = entries'.map Prod.fst) :
    readMember entries = readMember entries' := by
  have hdue : entries.isEmpty = entries'.isEmpty := by
    have hmap := congrArg List.isEmpty h
    rwa [List.isEmpty_map, List.isEmpty_map] at hmap
  have hfield : entries.fieldFor = entries'.fieldFor := by
    funext key
    simp only [Entries.fieldFor, Entries.isSome_text?_congr h]
  rw [readMember, readMember, hdue, hfield]

theorem readMembers_rename (hname : Field.passengerName ∈ entries.map Prod.fst) :
    readMembers (entries.rename name) cs =
      (readMembers entries cs).map fun result => (result.1.rename name, result.2) := by
  have hmember : ∀ entries : Entries, readMember (entries.rename name) = readMember entries :=
    fun entries => readMember_congr (entries.fields_rename name)
  fun_induction readMembers entries cs with
  | case1 entries cs fault heq =>
    rw [← hmember] at heq
    exact readMembers_of_error heq
  | case2 entries cs rest heq =>
    rw [← hmember] at heq
    exact readMembers_of_none heq
  | case3 entries cs entry mid heq ih =>
    obtain ⟨field, text⟩ := entry
    -- A key is read only once, so the entry read is not for the name.
    have hnew : Field.passengerName ∉ [(field, text)].map Prod.fst := by
      obtain ⟨habsent, -⟩ := run_readMember_eq_some_iff.mp heq
      rw [Entries.text?_eq_none_iff] at habsent
      intro hmem
      have heq : Field.passengerName = field := by simpa using hmem
      rw [← heq] at habsent
      exact habsent hname
    rw [← hmember] at heq
    have hnext := ih (by simp [hname])
    rw [Entries.rename_append, Entries.rename_of_not_mem hnew] at hnext
    rw [readMembers_of_some heq]
    exact hnext

theorem mem_fields_of_readMembers {all : Entries} {rest : List Char} {field : Field}
    (h : readMembers entries cs = .ok (all, rest)) (hfield : field ∈ entries.map Prod.fst) :
    field ∈ all.map Prod.fst := by
  fun_induction readMembers entries cs with
  | case1 entries cs fault heq => cases h
  | case2 entries cs rest heq =>
    cases h
    exact hfield
  | case3 entries cs entry mid heq ih => exact ih h (by simp [hfield])

theorem Entries.text?_rename (entries : Entries) (name : String) (field : Field) :
    (entries.rename name).text? field =
      (entries.text? field).map fun text => if field = .passengerName then name else text := by
  induction entries with
  | nil => rfl
  | cons entry entries ih =>
    obtain ⟨other, text⟩ := entry
    simp only [Entries.text?, Entries.rename, List.map_cons, List.lookup_cons] at ih ⊢
    cases hfield : field == other with
    | true =>
      rw [beq_iff_eq.mp hfield]
      rfl
    | false => exact ih

/-- Entries with another name fill in the same form but for the name. -/
theorem Entries.toForm_rename (hname : Field.passengerName ∈ entries.map Prod.fst) :
    (entries.rename name).toForm =
      entries.toForm.map fun form => form.set .passengerName name := by
  have habsent : (entries.rename name).firstAbsent? = entries.firstAbsent? := by
    simp only [Entries.firstAbsent?, Entries.text?_rename, Option.isNone_map]
  rw [Entries.toForm, Entries.toForm, habsent]
  split
  · rfl
  · refine congrArg Except.ok (Form.ext_get fun field => ?_)
    rw [Form.get_ofTexts, Form.get_set, Form.get_ofTexts, Entries.text?_rename]
    split
    next hfield =>
      subst hfield
      obtain ⟨text, htext⟩ : ∃ text, entries.text? .passengerName = some text := by
        rw [← Option.ne_none_iff_exists', ne_eq, Entries.text?_eq_none_iff]
        exact not_not_intro hname
      rw [htext]
      rfl
    next => rw [Option.map_id']

/-- **Reading on with another name** comes to the same fault, or to the same form but for the
name, with the same text behind it. -/
theorem run_readRest_rename (hname : Field.passengerName ∈ entries.map Prod.fst) :
    (readRest (entries.rename name)).run cs =
      ((readRest entries).run cs).map fun result =>
        (result.1.set .passengerName name, result.2) := by
  cases hread : readMembers entries cs with
  | error fault =>
    have hrename : readMembers (entries.rename name) cs = .error fault := by
      rw [readMembers_rename hname, hread]
      rfl
    rw [readRest, readRest]
    rw [run_bind_of_error hread, run_bind_of_error hrename]
    rfl
  | ok result =>
    obtain ⟨all, rest⟩ := result
    have hrename : readMembers (entries.rename name) cs = .ok (all.rename name, rest) := by
      rw [readMembers_rename hname, hread]
      rfl
    rw [readRest, readRest]
    rw [run_bind_of_ok hread, run_bind_of_ok hrename,
      Entries.toForm_rename (mem_fields_of_readMembers hread hname)]
    cases all.toForm <;> rfl

end

/-! ### A number is not left unfinished -/

/-- A reader that takes nothing but marks of numbers, and misses more text only if there was nothing
else. -/
structure TakesMarks {α : Type} (x : Reader α) : Prop where
  value : ∀ {cs rest : List Char} {a : α}, x.run cs = .ok (a, rest) →
    ∃ word, (∀ c ∈ word, IsNumberMark c) ∧ cs = word ++ rest
  truncated : ∀ {cs : List Char}, x.run cs = .error .truncated → ∀ c ∈ cs, IsNumberMark c

namespace TakesMarks

variable {α β : Type} {x : Reader α} {f : α → Reader β}

protected theorem pure (a : α) : TakesMarks (pure a) where
  value h := ⟨[], by simp, (run_pure_eq_ok_iff.mp h).2.symm⟩
  truncated h := by cases h

theorem malformed : TakesMarks (throw .malformed : Reader α) where
  value h := by cases h
  truncated h := by cases h

protected theorem bind (hx : TakesMarks x) (hf : ∀ a, TakesMarks (f a)) :
    TakesMarks (x >>= f) := by
  constructor
  · intro cs rest b h
    obtain ⟨a, mid, hread, hthen⟩ := run_bind_eq_ok_iff.mp h
    obtain ⟨word, hword, rfl⟩ := hx.value hread
    obtain ⟨word', hword', rfl⟩ := (hf a).value hthen
    refine ⟨word ++ word', fun c hc => ?_, by simp⟩
    exact (List.mem_append.mp hc).elim (hword c) (hword' c)
  · intro cs h
    cases hread : x.run cs with
    | error fault =>
      rw [run_bind_of_error hread] at h
      cases h
      exact hx.truncated hread
    | ok result =>
      obtain ⟨a, mid⟩ := result
      rw [run_bind_of_ok hread] at h
      obtain ⟨word, hword, rfl⟩ := hx.value hread
      intro c hc
      exact (List.mem_append.mp hc).elim (hword c) ((hf a).truncated h c)

end TakesMarks

namespace Numeral

theorem takesMarks_readDigits : TakesMarks readDigits := by
  constructor
  · intro cs rest ds h
    cases h
    refine ⟨cs.takeWhile Char.isDigit, fun c hc => ?_, List.takeWhile_append_dropWhile.symm⟩
    have hall := List.all_eq_true.mp (@List.all_takeWhile _ Char.isDigit cs)
    exact .inl (isDigit_iff.mp (hall c hc))
  · intro cs h
    cases h

theorem takesMarks_readSomeDigits : TakesMarks readSomeDigits := by
  have hcons : ∀ (c : Char) (cs : List Char), readSomeDigits.run (c :: cs) =
      (if c.isDigit then readDigits >>= fun ds => pure (digitValue c :: ds)
        else throw .malformed : Reader (List Nat)).run cs := fun _ _ => rfl
  have hdigits : ∀ c : Char, TakesMarks (readDigits >>= fun ds => pure (digitValue c :: ds)) :=
    fun c => takesMarks_readDigits.bind fun _ => .pure _
  constructor
  · intro cs rest ds h
    cases cs with
    | nil => cases h
    | cons c cs =>
      rw [hcons] at h
      split at h
      next hc =>
        obtain ⟨word, hword, rfl⟩ := (hdigits c).value h
        refine ⟨c :: word, fun d hd => ?_, rfl⟩
        rcases List.mem_cons.mp hd with rfl | hd
        · exact .inl (isDigit_iff.mp hc)
        · exact hword d hd
      next => cases h
  · intro cs h
    cases cs with
    | nil => simp
    | cons c cs =>
      rw [hcons] at h
      split at h
      next => cases h
      next => cases h

theorem takesMarks_readOption {marks : List Char} (hmarks : ∀ c ∈ marks, IsNumberMark c) :
    TakesMarks (readOption marks) := by
  constructor
  · intro cs rest mark? h
    rcases run_readOption_cases marks cs with ⟨c, tail, hc, rfl, hrun⟩ | ⟨-, hrun⟩
    · cases hrun.symm.trans h
      exact ⟨[c], by simpa using hmarks c hc, rfl⟩
    · cases hrun.symm.trans h
      exact ⟨[], by simp, rfl⟩
  · intro cs h
    rcases run_readOption_cases marks cs with ⟨c, tail, -, -, hrun⟩ | ⟨-, hrun⟩
    · cases hrun.symm.trans h
    · cases hrun.symm.trans h

theorem takesMarks_readQuantity : TakesMarks readQuantity := by
  have hwhole : TakesMarks readWhole := by
    refine takesMarks_readSomeDigits.bind fun _ => ?_
    split
    · exact .malformed
    · exact .pure _
  have hfraction : TakesMarks readFraction := by
    refine (takesMarks_readOption (by simp [IsNumberMark])).bind fun mark? => ?_
    cases mark? with
    | none => exact .pure _
    | some mark => exact takesMarks_readSomeDigits
  have hexponent : TakesMarks readExponent := by
    refine (takesMarks_readOption (by simp [IsNumberMark])).bind fun mark? => ?_
    cases mark? with
    | none => exact .pure _
    | some mark =>
      exact (takesMarks_readOption (by simp [IsNumberMark])).bind fun _ =>
        takesMarks_readSomeDigits.bind fun _ => .pure _
  have hread : TakesMarks read :=
    (takesMarks_readOption (by simp [IsNumberMark])).bind fun _ => hwhole.bind fun _ =>
      hfraction.bind fun _ => hexponent.bind fun _ => .pure _
  refine hread.bind fun n => ?_
  split
  · exact .pure _
  · exact .malformed

end Numeral

/-- What starts like a number is read as one. -/
theorem run_readText_number {c : Char} {cs : List Char} (hc : c = '-' ∨ IsDigit c) :
    readText.run (c :: cs) = (do
      let value ← Numeral.readQuantity
      refuse (.wrongKind (.number value) .text) : Reader String).run (c :: cs) := by
  rw [← isDigit_iff] at hc
  have hne : ∀ d : Char, d ≠ '-' → d.isDigit = false → c ≠ d := by
    rintro d hminus hdigit rfl
    rcases hc with rfl | hc
    · exact hminus rfl
    · rw [hc] at hdigit
      cases hdigit
  rw [readText, run_bind_of_ok (run_look_cons c), if_neg (hne '\"' (by decide) (by decide)),
    refuseForeign, Foreign.read, bind_assoc, run_bind_of_ok (run_look_cons c),
    if_neg (hne 'n' (by decide) (by decide)), if_neg (hne 't' (by decide) (by decide)),
    if_neg (hne 'f' (by decide) (by decide)), if_pos hc, bind_assoc]
  rfl

/-- A number in the place of a text is a fault, and not that the text ends too early if anything
else than marks of numbers comes behind. -/
theorem exists_fault_of_number {c d : Char} {cs : List Char} (hc : c = '-' ∨ IsDigit c)
    (hd : d ∈ cs) (hmark : ¬ IsNumberMark d) :
    ∃ fault ≠ Fault.truncated, readText.run (c :: cs) = .error fault := by
  rw [run_readText_number hc]
  cases hread : Numeral.readQuantity.run (c :: cs) with
  | ok result => exact ⟨_, by simp, run_bind_of_ok hread⟩
  | error fault =>
    refine ⟨fault, ?_, run_bind_of_error hread⟩
    rintro rfl
    exact hmark (Numeral.takesMarks_readQuantity.truncated hread d (List.mem_cons_of_mem c hd))

/-! ### Documents -/

/-- A refusal that is final. -/
def Refused (cs : List Char) : Prop :=
  ∃ why ≠ Refusal.unreadable .truncated, (receiveChars cs).outcome = .refused why

theorem refused_of_run {cs : List Char} {fault : Fault} (h : readForm.run cs = .error fault)
    (hfault : fault ≠ .truncated) : Refused cs := by
  refine ⟨.unreadable fault, ?_, by rw [receiveChars_of_error h]⟩
  rintro heq
  cases heq
  exact hfault rfl

theorem refused_of_refusedWith {cs : List Char} {message : String} (h : RefusedWith cs message) :
    Refused cs := by
  obtain ⟨cause, hreceive, -⟩ := h
  refine ⟨.unreadable (.shape cause), by simp, ?_⟩
  rw [receive, String.toList_ofList] at hreceive
  rw [hreceive]

theorem isSpace_eq_false_of_number {c : Char} (hc : c = '-' ∨ IsDigit c) : isSpace c = false := by
  cases hspace : isSpace c with
  | false => rfl
  | true =>
    simp only [isSpace, Bool.or_eq_true, beq_iff_eq] at hspace
    rcases hspace with ((rfl | rfl) | rfl) | rfl <;> exact absurd hc (by decide)

/-- A number under a new key is refused for good once a comma has come behind it. -/
theorem refused_of_number {before : List (String × Value)} {begun word : List Char} {key : String}
    (hplain : Plain before) (hbegun : Begun before begun)
    (hmember : Member Written word (key, .number)) (hkey : key ∈ fieldNames)
    (hfresh : key ∉ before.map Prod.fst) {behind : List Char} (hcomma : ',' ∈ behind) :
    Refused (begun ++ (word ++ behind)) := by
  obtain ⟨entries, gap, rfl, -, hgap, hread⟩ := exists_entries_of_begun hplain hbegun
  obtain ⟨keyWord, spaces, spaces', value, hword, hspaces, hspaces', hvalue, rfl⟩ := hmember
  obtain ⟨field, rfl⟩ := mem_fieldNames_iff.mp hkey
  rw [Entries.name_mem_plain_iff] at hfresh
  cases hvalue with
  | @number c cs hc hmarks =>
    obtain ⟨fault, hfault, htext⟩ := exists_fault_of_number hc
      (List.mem_append_right cs hcomma) (by decide)
    have hstart : ∀ d ∈ (c :: (cs ++ behind)).head?, isSpace d = false := by
      rintro d hd
      cases hd
      exact isSpace_eq_false_of_number hc
    have hmember : (readMember entries).run (gap ++ (keyWord ++ (spaces ++ ':' ::
        (spaces' ++ c :: (cs ++ behind))))) = .error fault := by
      rw [run_readMember_of_fresh hgap hword hfresh hspaces hspaces' hstart]
      exact run_bind_of_error htext
    refine refused_of_run ?_ hfault
    rw [hread]
    apply run_readRest_of_error
    simpa using hmember

/-- **Members that offend are refused** before anything behind the next comma is read. -/
theorem refused_of_not_plain {members : List (String × Value)} {begun : List Char}
    (hbegun : Begun members begun) (hplain : ¬ Plain members) (behind : List Char) :
    Refused (begun ++ behind) := by
  rcases plain_or_first members with h | ⟨before, key, value, after, rfl, hbefore, hfirst⟩
  · exact absurd h hplain
  obtain ⟨begun', word, rest, hbegun', hmember, hcomma, rfl⟩ := hbegun.exists_begun
  by_cases htold : key ∉ fieldNames ∨ key ∈ before.map Prod.fst ∨
      ∃ opening name, Tells value opening name
  · obtain ⟨word', rest', message, hoffends, rfl⟩ := exists_offends hmember htold
    have hrefused := refused_of_refusedWith
      (refusedWith_of_offends hbefore hbegun' hoffends (rest' ++ rest ++ behind))
    simpa using hrefused
  · simp only [not_or, not_not] at htold
    obtain ⟨hkey, hfresh, huntold⟩ := htold
    -- A value that is no text and is not told by its first marks is a number.
    have hnumber : value = .number := by
      rcases hfirst with h | h | htext
      · exact absurd hkey h
      · exact absurd h hfresh
      · by_contra hother
        exact huntold (exists_tells htext hother)
    subst hnumber
    have hrefused := refused_of_number hbefore hbegun' hmember hkey hfresh
      (List.mem_append_left behind hcomma)
    simpa using hrefused

/-- The place in a text where the value of a name is due: behind the key of the name and its colon,
in an object with members of any kind before it. -/
def AtName (opening : List Char) : Prop :=
  ∃ before begun key spaces spaces', Begun before begun ∧
    Quoted key Field.passengerName.name ∧ IsSpaces spaces ∧ IsSpaces spaces' ∧
      opening = begun ++ (key ++ (spaces ++ ':' :: spaces'))

/-- The same events, and the same refusal or passes that differ in the name at most. -/
structure Receipt.Alike (r s : Receipt) : Prop where
  events : r.events = s.events
  outcome : (∃ why, r.outcome = .refused why ∧ s.outcome = .refused why) ∨
    ∃ p q : Pass, r.outcome = .pass p ∧ s.outcome = .pass q ∧ p.SameButName q

theorem conclude_alike {v w : Verdict} (h : v.Alike w) (behind : List Char) :
    Receipt.Alike ⟨conclude v behind, [v.event]⟩ ⟨conclude w behind, [w.event]⟩ := by
  refine ⟨by rw [h.event_eq], ?_⟩
  rcases h with ⟨cause, rfl, rfl⟩ | ⟨p, q, rfl, rfl, hsame⟩
  · exact .inl ⟨_, rfl, rfl⟩
  · by_cases hbehind : skipSpace behind = []
    · exact .inr ⟨p, q, if_pos hbehind, if_pos hbehind, hsame⟩
    · exact .inl ⟨_, if_neg hbehind, if_neg hbehind⟩

theorem Refused.alike {cs more more' : List Char} (h : Refused cs)
    (hlast : ∀ c ∈ cs.getLast?, c.isDigit = false) :
    (receiveChars (cs ++ more)).Alike (receiveChars (cs ++ more')) := by
  have hparted : ∀ more, Parted more cs := by
    rintro more ⟨c, hc, hdigit⟩
    rw [hlast c hc] at hdigit
    cases hdigit
  obtain ⟨why, hwhy, hrefused⟩ := h
  rw [receiveChars_append (hparted more) hrefused hwhy,
    receiveChars_append (hparted more') hrefused hwhy]
  exact ⟨rfl, .inl ⟨why, hrefused, hrefused⟩⟩

/-- The value of the name is read as a text, and reading goes on behind it. -/
theorem exists_readRest_of_name {before : List (String × Value)}
    {begun key spaces spaces' : List Char} (hplain : Plain before) (hbegun : Begun before begun)
    (hfresh : Field.passengerName.name ∉ before.map Prod.fst)
    (hkey : Quoted key Field.passengerName.name) (hspaces : IsSpaces spaces)
    (hspaces' : IsSpaces spaces') (behind : List Char) :
    ∃ entries : Entries, Field.passengerName ∉ entries.map Prod.fst ∧
      ∀ word name, Quoted word name →
        readForm.run (begun ++ (key ++ (spaces ++ ':' :: spaces')) ++ (word ++ behind)) =
          (readRest (entries ++ [(.passengerName, name)])).run behind := by
  obtain ⟨entries, gap, rfl, -, hgap, hread⟩ := exists_entries_of_begun hplain hbegun
  rw [Entries.name_mem_plain_iff] at hfresh
  refine ⟨entries, hfresh, fun word name hword => ?_⟩
  have hmember : (readMember entries).run
      (gap ++ (key ++ (spaces ++ ':' :: spaces') ++ (word ++ behind))) =
        .ok (some (.passengerName, name), behind) :=
    run_readMember_eq_some_iff.mpr ⟨Entries.text?_eq_none_iff.mpr hfresh, gap, _, hgap,
      ⟨key, spaces, spaces', word, hkey, hspaces, hspaces', hword, rfl⟩, by simp⟩
  rw [List.append_assoc, hread]
  exact run_readRest_congr (readMembers_of_some hmember)

theorem run_readRest_append_name {entries : Entries}
    (hfresh : Field.passengerName ∉ entries.map Prod.fst) (name name' : String)
    (cs : List Char) :
    (readRest (entries ++ [(.passengerName, name')])).run cs =
      ((readRest (entries ++ [(.passengerName, name)])).run cs).map fun result =>
        (result.1.set .passengerName name', result.2) := by
  have hrename : Entries.rename (entries ++ [(.passengerName, name)]) name' =
      entries ++ [(.passengerName, name')] := by
    rw [Entries.rename_append, Entries.rename_of_not_mem hfresh]
    rfl
  rw [← hrename]
  exact run_readRest_rename (by simp)

/-- Texts that are read alike up to a name, and the same from there on, are answered alike. -/
theorem alike_of_readRest {entries : Entries} {name name' : String} {cs cs' behind : List Char}
    (hfresh : Field.passengerName ∉ entries.map Prod.fst)
    (hrun : readForm.run cs = (readRest (entries ++ [(.passengerName, name)])).run behind)
    (hrun' : readForm.run cs' = (readRest (entries ++ [(.passengerName, name')])).run behind)
    (hname : ¬ Blank name) (hname' : ¬ Blank name') :
    (receiveChars cs).Alike (receiveChars cs') := by
  rw [run_readRest_append_name hfresh name name'] at hrun'
  -- Giving the same name again changes nothing, so a form that is read has this name.
  have hself := run_readRest_append_name hfresh name name behind
  cases hresult : (readRest (entries ++ [(.passengerName, name)])).run behind with
  | error fault =>
    rw [hresult] at hrun hrun'
    rw [receiveChars_of_error hrun, receiveChars_of_error hrun']
    exact ⟨rfl, .inl ⟨_, rfl, rfl⟩⟩
  | ok result =>
    obtain ⟨form, rest⟩ := result
    rw [hresult] at hrun hrun' hself
    have hform : form = form.set .passengerName name := congrArg Prod.fst (Except.ok.inj hself)
    have hformName : form.passengerName = name := by
      rw [hform]
      rfl
    have hsame : form.SameButName (form.set .passengerName name') := by
      intro field hfield
      rw [Form.get_set, if_neg hfield]
    rw [receiveChars_of_ok hrun, receiveChars_of_ok hrun']
    exact conclude_alike (issue_alike hsame (by rwa [hformName]) hname') rest

theorem isDigit_getLast?_of_colon {spaces : List Char} (h : IsSpaces spaces) (cs : List Char) :
    ∀ c ∈ (cs ++ ':' :: spaces).getLast?, c.isDigit = false := by
  intro c hc
  rw [List.getLast?_append] at hc
  have hmem : c ∈ ':' :: spaces := by
    apply List.mem_of_mem_getLast?
    simpa using hc
  rcases List.mem_cons.mp hmem with rfl | hspace
  · decide
  · cases hdigit : c.isDigit with
    | false => rfl
    | true =>
      have hmark := isSpace_eq_false_of_number (.inr (isDigit_iff.mp hdigit))
      rw [h c hspace] at hmark
      cases hmark

theorem receiveChars_alike {opening word word' : List Char} {name name' : String}
    (hopening : AtName opening) (hword : Quoted word name) (hword' : Quoted word' name')
    (hname : ¬ Blank name) (hname' : ¬ Blank name') (behind : List Char) :
    (receiveChars (opening ++ (word ++ behind))).Alike
      (receiveChars (opening ++ (word' ++ behind))) := by
  obtain ⟨before, begun, key, spaces, spaces', hbegun, hkey, hspaces, hspaces', rfl⟩ := hopening
  have hlast : ∀ c ∈ (begun ++ (key ++ (spaces ++ ':' :: spaces'))).getLast?,
      c.isDigit = false := by
    have hcolon := isDigit_getLast?_of_colon hspaces' (begun ++ (key ++ spaces))
    simpa only [List.append_assoc] using hcolon
  by_cases hplain : Plain before
  · by_cases hgiven : Field.passengerName.name ∈ before.map Prod.fst
    · have hoffends : Offends (before.map Prod.fst) Field.passengerName.name .null key _ :=
        .repeated hkey (mem_fieldNames_iff.mpr ⟨.passengerName, rfl⟩) hgiven
      have hrefused := refusedWith_of_offends hplain hbegun hoffends (spaces ++ ':' :: spaces')
      exact (refused_of_refusedWith hrefused).alike hlast
    · obtain ⟨entries, hfresh, hrun⟩ :=
        exists_readRest_of_name hplain hbegun hgiven hkey hspaces hspaces' behind
      exact alike_of_readRest hfresh (hrun word name hword) (hrun word' name' hword') hname hname'
  · exact (refused_of_not_plain hbegun hplain _).alike hlast

/-- **The passenger's name is not disclosed.** Forms that differ in the name only, and have a name
that is not blank, get the same rejection or passes that differ in the name only, and leave the same
event. Texts that differ only in how one name is quoted, as the value of the key of the name in an
object with any other members and with any text behind it, and that have a name there which is not
blank, get the same refusal or passes that differ in the name only, and leave the same events. -/
theorem name_undisclosed :
    (∀ f g : Form, f.SameButName g → ¬ Blank f.passengerName → ¬ Blank g.passengerName →
      (issue f).Alike (issue g) ∧ (issue f).event = (issue g).event) ∧
    (∀ opening word word' name name' behind, AtName opening → Quoted word name →
      Quoted word' name' → ¬ Blank name → ¬ Blank name' →
        (receive (String.ofList (opening ++ (word ++ behind)))).Alike
          (receive (String.ofList (opening ++ (word' ++ behind))))) := by
  constructor
  · intro f g h hf hg
    exact ⟨issue_alike h hf hg, (issue_alike h hf hg).event_eq⟩
  · intro opening word word' name name' behind hopening hword hword' hname hname'
    rw [receive, receive, String.toList_ofList, String.toList_ofList]
    exact receiveChars_alike hopening hword hword' hname hname' behind

/-- An object up to the value of its name, behind a member for the gate. -/
def behindGate (gate : List Char) : List Char :=
  '\x7b' :: (Literal.write "gateNumber" ++ ':' :: gate ++ [',']) ++
    (Literal.write "passengerName" ++ [':'])

theorem atName_behindGate {gate : List Char} {value : Value} (h : Written gate value) :
    AtName (behindGate gate) := by
  have hitems : Items (Member Written) false _ [("gateNumber", value)] :=
    .item (.first isSpaces_nil) (member_of_written "gateNumber" h) (.done isSpaces_nil)
  have hbegun : Begun [("gateNumber", value)] _ :=
    ⟨[], _, [','], isSpaces_nil, hitems, gap_comma, rfl⟩
  refine ⟨_, _, _, [], [], hbegun, quoted_write "passengerName", isSpaces_nil, isSpaces_nil, ?_⟩
  simp [behindGate]

/-- An object with a gate, a name and what stands behind the name. -/
def named (gate : List Char) (name : String) (behind : List Char) : String :=
  String.ofList (behindGate gate ++ (Literal.write name ++ behind))

/-- The other members and the end of the object. -/
def behindName : List Char :=
  ", \"airportCode\": \"ADL\", \"flightNumber\": \"QF1\"\x7d".toList

theorem name_undisclosed_numbered :
    (issue ⟨"Ann", "adelaide", " ", "2"⟩).event = (issue ⟨"\"\\", "adelaide", " ", "2"⟩).event ∧
    (issue ⟨"Ann", "ADL", "QF1", "2"⟩).Alike (issue ⟨"\"\\", "ADL", "QF1", "2"⟩) ∧
    issue ⟨"Ann", "ADL", "QF1", "2"⟩ = .issued ⟨"Ann", "ADL", "QF1", "2"⟩ ∧
    (receive (named ['2'] "Ann" ['\x7d'])).Alike (receive (named ['2'] "\"\x7d, \\" ['\x7d'])) ∧
    (receive (named (Literal.write "2") "Ann" behindName)).Alike
      (receive (named (Literal.write "2") "\"\x7d, \\" behindName)) ∧
    receive (named (Literal.write "2") "\"\x7d, \\" behindName) =
      ⟨.pass ⟨"\"\x7d, \\", "ADL", "QF1", "2"⟩, [.issued]⟩ := by
  have hsame : ∀ airport flight gate,
      Form.SameButName ⟨"Ann", airport, flight, gate⟩ ⟨"\"\\", airport, flight, gate⟩ := by
    intro airport flight gate field hfield
    cases field with
    | passengerName => exact absurd rfl hfield
    | airportCode => rfl
    | flightNumber => rfl
    | gateNumber => rfl
  have hann : ¬ Blank "Ann" := fun h => absurd (h 'A' (by simp)) (by decide)
  have hmarks : ¬ Blank "\"\\" := fun h => absurd (h '\\' (by simp)) (by decide)
  have hobject : ¬ Blank "\"\x7d, \\" := fun h => absurd (h ',' (by simp)) (by decide)
  -- A number is refused before the name is read, a text lets the reading go on to the end.
  have hnumber : AtName (behindGate ['2']) :=
    atName_behindGate (.number (.inr (by decide)) (by simp))
  have htext : AtName (behindGate (Literal.write "2")) :=
    atName_behindGate (.text (quoted_write "2"))
  refine ⟨(name_undisclosed.1 _ _ (hsame _ _ _) hann hmarks).2,
    (name_undisclosed.1 _ _ (hsame _ _ _) hann hmarks).1, by decide +kernel, ?_, ?_,
    by decide +kernel⟩
  · exact name_undisclosed.2 _ _ _ _ _ _ hnumber (quoted_write _) (quoted_write _) hann hobject
  · exact name_undisclosed.2 _ _ _ _ _ _ htext (quoted_write _) (quoted_write _) hann hobject

end Document

end Boarding
