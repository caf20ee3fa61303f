import Boarding.Proofs.Contract
import Boarding.Proofs.Wording
import Mathlib.Data.List.Induction

/-!
Objects that are no form, and what is said about them.

An object is read member by member, and the first member that offends ends the reading: its key
names no field, or its key was given before, or its value is no text. `Plain` says of a list of
members that none of them offends. Each offence is known before the member is complete, so what
stands behind the key, or behind the mark that tells the kind of the value, plays no part. A field
that is missing is noticed at the closing bracket.

* `exists_entries_of_begun`: reading gets past plain members.
* `refusedWith_of_offends`: the next member offends.
* `refusedWith_absent`: none does, and a field is missing.
* `refused_of_first_offence`: the answer to every object that is no form.
-/

namespace Boarding.Document

open Reader

/-! ### Objects with values of any kind -/

/-- A value by its kind. -/
inductive Value where
  | null
  | boolean (value : Bool)
  | number
  | text (value : String)
  | list
  | object
deriving DecidableEq

/-- A mark that numbers are written with. -/
def IsNumberMark (c : Char) : Prop := IsDigit c ∨ c ∈ ['-', '+', '.', 'e', 'E']

instance (c : Char) : Decidable (IsNumberMark c) :=
  inferInstanceAs (Decidable (IsDigit c ∨ c ∈ ['-', '+', '.', 'e', 'E']))

/-- How a value may be written. This says more texts than are well written: a number is any run of
its marks that starts like one, and anything may stand inside the brackets of a list or an object.
Reading never looks that far. -/
inductive Written : List Char → Value → Prop where
  | null : Written ['n', 'u', 'l', 'l'] .null
  | booleanTrue : Written ['t', 'r', 'u', 'e'] (.boolean true)
  | booleanFalse : Written ['f', 'a', 'l', 's', 'e'] (.boolean false)
  | number {c : Char} {cs : List Char} (hfirst : c = '-' ∨ IsDigit c)
      (hmarks : ∀ d ∈ cs, IsNumberMark d) : Written (c :: cs) .number
  | text {word : List Char} {text : String} (h : Quoted word text) : Written word (.text text)
  | list (inside : List Char) : Written ('[' :: (inside ++ [']'])) .list
  | object (inside : List Char) : Written ('\x7b' :: (inside ++ ['\x7d'])) .object

/-- The marks that tell a value of the wrong kind, and what messages call it. -/
inductive Tells : Value → List Char → String → Prop where
  | null : Tells .null ['n', 'u', 'l', 'l'] "null"
  | booleanTrue : Tells (.boolean true) ['t', 'r', 'u', 'e'] "boolean `true`"
  | booleanFalse : Tells (.boolean false) ['f', 'a', 'l', 's', 'e'] "boolean `false`"
  | list : Tells .list ['['] "sequence"
  | object : Tells .object ['\x7b'] "map"

/-- A whole object, behind space. -/
def IsObject (members : List (String × Value)) (cs : List Char) : Prop :=
  ∃ spaces words, IsSpaces spaces ∧ Items (Member Written) false words members ∧
    cs = spaces ++ '\x7b' :: (words ++ ['\x7d'])

/-- An object behind space, up to the place where the next member starts. -/
def Begun (members : List (String × Value)) (cs : List Char) : Prop :=
  ∃ spaces words gap, IsSpaces spaces ∧ Items (Member Written) false words members ∧
    Gap (!members.isEmpty) gap ∧ cs = spaces ++ '\x7b' :: (words ++ gap)

/-! ### Members that do not offend -/

/-- The names that keys may have. -/
def fieldNames : List String := Field.all.map Field.name

/-- Members of which none offends: texts under the names of fields, no name twice. -/
structure Plain (members : List (String × Value)) : Prop where
  known : ∀ member ∈ members, member.1 ∈ fieldNames
  fresh : (members.map Prod.fst).Nodup
  texts : ∀ member ∈ members, ∃ text, member.2 = .text text

/-- `word` is a member with this key and value, written up to the place where it offends behind
members with the earlier keys, and the message is what is said about it. A key offends at its
closing quote, and a value that is no text at the mark that tells its kind. -/
inductive Offends (earlier : List String) (key : String) (value : Value) :
    List Char → String → Prop where
  | unknown {word : List Char} (hword : Quoted word key) (hkey : key ∉ fieldNames) :
      Offends earlier key value word ("unknown field `" ++ key ++
        "`, expected one of `passengerName`, `airportCode`, `flightNumber`, `gateNumber`")
  | repeated {word : List Char} (hword : Quoted word key) (hkey : key ∈ fieldNames)
      (hearlier : key ∈ earlier) :
      Offends earlier key value word ("duplicate field `" ++ key ++ "`")
  | kind {word before after opening : List Char} {name : String} (hword : Quoted word key)
      (hkey : key ∈ fieldNames) (hfresh : key ∉ earlier) (hbefore : IsSpaces before)
      (hafter : IsSpaces after) (htells : Tells value opening name) :
      Offends earlier key value (word ++ (before ++ ':' :: (after ++ opening)))
        ("invalid type: " ++ name ++ ", expected a string")

/-- `field` is the first whose name is not among the keys. -/
def FirstAbsent (keys : List String) (field : Field) : Prop :=
  field.name ∉ keys ∧ ∃ before after, Field.all = before ++ field :: after ∧
    ∀ other ∈ before, other.name ∈ keys

/-- Refused for its shape, with this message; no event is left. -/
def RefusedWith (cs : List Char) (message : String) : Prop :=
  ∃ cause : Shape, receive (String.ofList cs) = ⟨.refused (.unreadable (.shape cause)), []⟩ ∧
    cause.message = message

theorem mem_fieldNames_iff {key : String} :
    key ∈ fieldNames ↔ ∃ field : Field, field.name = key := by
  rw [fieldNames, List.mem_map]
  exact ⟨fun ⟨field, _, h⟩ => ⟨field, h⟩, fun ⟨field, h⟩ => ⟨field, Field.mem_all field, h⟩⟩

/-- Entries as members whose values are texts. -/
def Entries.plain (entries : Entries) : List (String × Value) :=
  entries.map fun entry => (entry.1.name, .text entry.2)

theorem Entries.keys_plain (entries : Entries) :
    entries.plain.map Prod.fst = (entries.map Prod.fst).map Field.name := by
  simp [Entries.plain]

theorem Entries.name_mem_plain_iff {entries : Entries} {field : Field} :
    field.name ∈ entries.plain.map Prod.fst ↔ field ∈ entries.map Prod.fst := by
  rw [Entries.keys_plain]
  constructor
  · intro h
    obtain ⟨other, hother, heq⟩ := List.mem_map.mp h
    rwa [← Field.name_injective heq]
  · exact List.mem_map_of_mem

theorem Entries.isEmpty_plain (entries : Entries) : entries.plain.isEmpty = entries.isEmpty := by
  cases entries <;> rfl

/-- Plain members are entries for different fields. -/
theorem exists_entries_of_plain {members : List (String × Value)} (h : Plain members) :
    ∃ entries : Entries, entries.plain = members ∧ (entries.map Prod.fst).Nodup := by
  have hentries : ∃ entries : Entries, entries.plain = members := by
    obtain ⟨hknown, -, htexts⟩ := h
    induction members with
    | nil => exact ⟨[], rfl⟩
    | cons member members ih =>
      obtain ⟨key, value⟩ := member
      obtain ⟨field, rfl⟩ := mem_fieldNames_iff.mp (hknown (key, value) (by simp))
      obtain ⟨text, rfl⟩ := htexts (field.name, value) (by simp)
      obtain ⟨entries, rfl⟩ := ih (fun m hm => hknown m (by simp [hm]))
        fun m hm => htexts m (by simp [hm])
      exact ⟨(field, text) :: entries, rfl⟩
  obtain ⟨entries, rfl⟩ := hentries
  refine ⟨entries, rfl, ?_⟩
  have hfresh := h.fresh
  rw [Entries.keys_plain] at hfresh
  exact hfresh.of_map _

theorem gap_comma : Gap true [','] :=
  .later isSpaces_nil isSpaces_nil

/-- A member without space around its colon. -/
theorem member_of_written (key : String) {word : List Char} {value : Value}
    (h : Written word value) : Member Written (Literal.write key ++ ':' :: word) (key, value) := by
  refine ⟨Literal.write key, [], [], word, quoted_write key, isSpaces_nil, isSpaces_nil, h, ?_⟩
  simp

theorem member_quoted_of_text {word : List Char} {key text : String}
    (h : Member Written word (key, .text text)) : Member Quoted word (key, text) := by
  obtain ⟨keyWord, before, after, value, hkey, hbefore, hafter, hvalue, rfl⟩ := h
  cases hvalue with
  | text hquoted =>
    exact ⟨keyWord, before, after, value, hkey, hbefore, hafter, hquoted, rfl⟩

/-- Items that say the same in two ways, one by one, do so all together. -/
theorem Items.map_congr {α β γ : Type} {Item : List Char → β → Prop}
    {Item' : List Char → γ → Prop} {f : α → β} {g : α → γ}
    (hitem : ∀ {word a}, Item word (f a) → Item' word (g a)) {due : Bool} {words : List Char}
    {as : List α} (h : Items Item due words (as.map f)) : Items Item' due words (as.map g) := by
  induction as generalizing due words with
  | nil =>
    cases h with
    | done hspaces => exact .done hspaces
  | cons a as ih =>
    cases h with
    | item hgap hword hitems => exact .item hgap (hitem hword) (ih hitems)

theorem items_quoted_of_plain {due : Bool} {words : List Char} {entries : Entries}
    (h : Items (Member Written) due words entries.plain) :
    Items (Member Quoted) due words entries.members :=
  Items.map_congr member_quoted_of_text h

/-! ### Reading up to the next member -/

/-- Reads the members of an object that come after these, and what they make together. -/
def readRest (entries : Entries) : Reader Form := do
  let all ← readMembers entries
  accept all.toForm

theorem run_readForm_object {spaces : List Char} (h : IsSpaces spaces) (cs : List Char) :
    readForm.run (spaces ++ '\x7b' :: cs) = (readRest []).run cs := by
  have hskip : skipSpace (spaces ++ '\x7b' :: cs) = '\x7b' :: cs :=
    skipSpace_eq_cons_iff.mpr ⟨rfl, spaces, h, rfl⟩
  rw [readForm, run_bind_of_ok run_space, hskip, run_bind_of_ok (run_look_cons _), if_pos rfl,
    run_bind_of_ok (run_next_cons _)]
  rfl

section

variable {entries : Entries} {cs rest : List Char}

theorem run_readRest_congr {entries' : Entries} {cs' : List Char}
    (h : readMembers entries cs = readMembers entries' cs') :
    (readRest entries).run cs = (readRest entries').run cs' := by
  rw [readRest, readRest, StateT.run_bind, StateT.run_bind]
  exact congrArg (· >>= _) h

theorem run_readRest_of_error {fault : Fault} (h : (readMember entries).run cs = .error fault) :
    (readRest entries).run cs = .error fault :=
  run_bind_of_error (readMembers_of_error h)

theorem run_readRest_of_none (h : (readMember entries).run cs = .ok (none, rest)) :
    (readRest entries).run cs = (accept entries.toForm).run rest :=
  run_bind_of_ok (readMembers_of_none h)

end

theorem Gap.append_spaces {due : Bool} {gap spaces : List Char} (hspaces : IsSpaces spaces)
    (hgap : Gap due gap) : Gap due (spaces ++ gap) := by
  have happend : ∀ {more : List Char}, IsSpaces more → IsSpaces (spaces ++ more) := by
    intro more hmore c hc
    rcases List.mem_append.mp hc with h | h
    · exact hspaces c h
    · exact hmore c h
  cases hgap with
  | first h => exact .first (happend h)
  | later hbefore hafter =>
    rw [← List.append_assoc]
    exact .later (happend hbefore) hafter

theorem Gap.comma_mem {gap : List Char} (h : Gap true gap) : ',' ∈ gap := by
  cases h with
  | later => simp

/-- Reading gets past plain members, whatever stands behind them. -/
theorem exists_entries_of_begun {members : List (String × Value)} {begun : List Char}
    (hplain : Plain members) (hbegun : Begun members begun) :
    ∃ (entries : Entries) (gap : List Char), entries.plain = members ∧
      (entries.map Prod.fst).Nodup ∧ Gap (!entries.isEmpty) gap ∧
        ∀ tail, readForm.run (begun ++ tail) = (readRest entries).run (gap ++ tail) := by
  obtain ⟨entries, rfl, hnodup⟩ := exists_entries_of_plain hplain
  obtain ⟨spaces, words, gap, hspaces, hitems, hgap, rfl⟩ := hbegun
  obtain ⟨between, hbetween, hread⟩ :=
    @exists_spaces_readMembers [] entries words (items_quoted_of_plain hitems) hnodup
  rw [Entries.isEmpty_plain] at hgap
  refine ⟨entries, between ++ gap, rfl, hnodup, hgap.append_spaces hbetween, fun tail => ?_⟩
  have hrest := run_readRest_congr (hread (gap ++ tail))
  rw [List.nil_append] at hrest
  rw [List.append_assoc, List.cons_append, run_readForm_object hspaces, List.append_assoc, hrest,
    List.append_assoc]

/-! ### The next member offends -/

section

variable {entries : Entries} {gap word : List Char} {key : String}

theorem fieldFor_of_unknown (h : key ∉ fieldNames) :
    entries.fieldFor key = .error (.unknownKey key) := by
  have hnone : Field.ofName? key = none := by
    cases hfield : Field.ofName? key with
    | none => rfl
    | some field =>
      exact absurd (mem_fieldNames_iff.mpr ⟨field, Field.ofName?_eq_some_iff.mp hfield⟩) h
  rw [Entries.fieldFor, hnone]

theorem fieldFor_of_repeated {field : Field} (h : field ∈ entries.map Prod.fst) :
    entries.fieldFor field.name = .error (.repeatedKey field) := by
  have hsome : (entries.text? field).isSome = true := by
    rw [← Option.ne_none_iff_isSome, ne_eq, Entries.text?_eq_none_iff]
    exact not_not_intro h
  rw [Entries.fieldFor, Field.ofName?_name]
  exact if_pos hsome

theorem fieldFor_of_fresh {field : Field} (h : field ∉ entries.map Prod.fst) :
    entries.fieldFor field.name = .ok field :=
  Entries.fieldFor_eq_ok_iff.mpr ⟨rfl, Entries.text?_eq_none_iff.mpr h⟩

/-- A key that is not admitted ends the reading, whatever stands behind its closing quote. -/
theorem run_readMember_of_fieldFor {cause : Shape} (hgap : Gap (!entries.isEmpty) gap)
    (hword : Quoted word key) (hkey : entries.fieldFor key = .error cause)
    (behind : List Char) :
    (readMember entries).run (gap ++ (word ++ behind)) = .error (.shape cause) := by
  rw [readMember, run_bind_of_ok (run_readKey_eq_some_iff.mpr ⟨gap, word, hgap, hword, rfl⟩)]
  show (accept (entries.fieldFor key) >>= _).run behind = _
  rw [hkey]
  rfl

/-- Behind the key of a new field, its colon and space, the value is read as a text. -/
theorem run_readMember_of_fresh {field : Field} {before after value : List Char}
    (hgap : Gap (!entries.isEmpty) gap) (hword : Quoted word field.name)
    (hfield : field ∉ entries.map Prod.fst) (hbefore : IsSpaces before)
    (hafter : IsSpaces after) (hvalue : ∀ c ∈ value.head?, isSpace c = false) :
    (readMember entries).run (gap ++ (word ++ (before ++ ':' :: (after ++ value)))) =
      (do let text ← readText; pure (some (field, text)) : Reader _).run value := by
  have hcolon : skipSpace (before ++ ':' :: (after ++ value)) = ':' :: (after ++ value) :=
    skipSpace_eq_cons_iff.mpr ⟨rfl, before, hbefore, rfl⟩
  have hskip : skipSpace (after ++ value) = value := by
    rw [skipSpace_append hafter]
    cases value with
    | nil => rfl
    | cons c cs => exact skipSpace_cons (hvalue c rfl) cs
  rw [readMember, run_bind_of_ok (run_readKey_eq_some_iff.mpr ⟨gap, word, hgap, hword, rfl⟩)]
  show (accept (entries.fieldFor field.name) >>= _).run _ = _
  rw [fieldFor_of_fresh hfield, run_bind_of_ok (run_accept_eq_ok_iff.mpr ⟨rfl, rfl⟩),
    run_bind_of_ok run_space, hcolon, run_bind_of_ok (run_expect_self _),
    run_bind_of_ok run_space, hskip]

/-- A value of the wrong kind is told by its first marks. -/
theorem exists_foreign_of_tells {value : Value} {opening : List Char} {name : String}
    (h : Tells value opening name) : ∃ found : Foreign, found.describe = name ∧
      ∀ behind, readText.run (opening ++ behind) = .error (.shape (.wrongKind found .text)) := by
  cases h with
  | null => exact ⟨.null, rfl, fun _ => rfl⟩
  | booleanTrue => exact ⟨.boolean true, rfl, fun _ => rfl⟩
  | booleanFalse => exact ⟨.boolean false, rfl, fun _ => rfl⟩
  | list => exact ⟨.list, rfl, fun _ => rfl⟩
  | object => exact ⟨.object, rfl, fun _ => rfl⟩

theorem Tells.not_space {value : Value} {opening : List Char} {name : String}
    (h : Tells value opening name) (behind : List Char) :
    ∀ c ∈ (opening ++ behind).head?, isSpace c = false := by
  cases h <;> simp [isSpace]

end

theorem message_unknownKey (key : String) : (Shape.unknownKey key).message =
    "unknown field `" ++ key ++
      "`, expected one of `passengerName`, `airportCode`, `flightNumber`, `gateNumber`" := by
  have hlist : "`, expected one of `passengerName`, `airportCode`, " ++
      "`flightNumber`, `gateNumber`" =
        "`, expected one of `passengerName`, `airportCode`, `flightNumber`, `gateNumber`" := by
    decide
  exact String.append_assoc.trans (congrArg ("unknown field `" ++ key ++ ·) hlist)

theorem message_wrongKind_text (found : Foreign) : (Shape.wrongKind found .text).message =
    "invalid type: " ++ found.describe ++ ", expected a string" := by
  have hwanted : ", expected " ++ Wanted.text.describe = ", expected a string" := by decide
  exact String.append_assoc.trans (congrArg ("invalid type: " ++ found.describe ++ ·) hwanted)

theorem refusedWith_of_run {cs : List Char} {cause : Shape}
    (h : readForm.run cs = .error (.shape cause)) : RefusedWith cs cause.message := by
  refine ⟨cause, ?_, rfl⟩
  rw [receive, String.toList_ofList]
  exact receiveChars_of_error h

/-- An offence ends the reading behind plain members, whatever follows it. -/
theorem refusedWith_of_offends {before : List (String × Value)} {begun word : List Char}
    {key message : String} {value : Value} (hplain : Plain before) (hbegun : Begun before begun)
    (hoffends : Offends (before.map Prod.fst) key value word message) (behind : List Char) :
    RefusedWith (begun ++ (word ++ behind)) message := by
  obtain ⟨entries, gap, rfl, -, hgap, hread⟩ := exists_entries_of_begun hplain hbegun
  cases hoffends with
  | unknown hword hkey =>
    rw [← message_unknownKey]
    apply refusedWith_of_run
    rw [hread]
    exact run_readRest_of_error
      (run_readMember_of_fieldFor hgap hword (fieldFor_of_unknown hkey) behind)
  | repeated hword hkey hearlier =>
    obtain ⟨field, rfl⟩ := mem_fieldNames_iff.mp hkey
    rw [Entries.name_mem_plain_iff] at hearlier
    refine @refusedWith_of_run _ (.repeatedKey field) ?_
    rw [hread]
    exact run_readRest_of_error
      (run_readMember_of_fieldFor hgap hword (fieldFor_of_repeated hearlier) behind)
  | @kind keyWord spaces spaces' opening name hword hkey hfresh hspaces hspaces' htells =>
    obtain ⟨field, rfl⟩ := mem_fieldNames_iff.mp hkey
    rw [Entries.name_mem_plain_iff] at hfresh
    obtain ⟨found, rfl, htext⟩ := exists_foreign_of_tells htells
    have hmember : (readMember entries).run
        (gap ++ (keyWord ++ (spaces ++ ':' :: (spaces' ++ opening)) ++ behind)) =
          .error (.shape (.wrongKind found .text)) := by
      simp only [List.append_assoc, List.cons_append]
      rw [run_readMember_of_fresh hgap hword hfresh hspaces hspaces' (htells.not_space behind)]
      exact run_bind_of_error (htext behind)
    rw [← message_wrongKind_text]
    apply refusedWith_of_run
    rw [hread]
    exact run_readRest_of_error hmember

/-! ### No member offends -/

theorem firstAbsent?_eq_some_iff {entries : Entries} {field : Field} :
    entries.firstAbsent? = some field ↔ FirstAbsent (entries.plain.map Prod.fst) field := by
  have habsent : ∀ other : Field, (entries.text? other).isNone = true ↔
      other.name ∉ entries.plain.map Prod.fst := by
    intro other
    rw [Option.isNone_iff_eq_none, Entries.text?_eq_none_iff, Entries.name_mem_plain_iff]
  rw [Entries.firstAbsent?, List.find?_eq_some_iff_append, habsent, FirstAbsent]
  simp only [Bool.not_eq_true', ← Bool.not_eq_true, habsent, not_not]

theorem refusedWith_absent {members : List (String × Value)} {object : List Char}
    (hplain : Plain members) (hobject : IsObject members object) {field : Field}
    (hfield : FirstAbsent (members.map Prod.fst) field) (behind : List Char) :
    RefusedWith (object ++ behind) ("missing field `" ++ field.name ++ "`") := by
  obtain ⟨entries, rfl, hnodup⟩ := exists_entries_of_plain hplain
  obtain ⟨spaces, words, hspaces, hitems, rfl⟩ := hobject
  obtain ⟨between, hbetween, hread⟩ :=
    @exists_spaces_readMembers [] entries words (items_quoted_of_plain hitems) hnodup
  refine @refusedWith_of_run _ (.absentKey field) ?_
  have hclose : (readMember entries).run (between ++ '\x7d' :: behind) = .ok (none, behind) :=
    run_readMember_eq_none_iff.mpr ⟨between, hbetween, rfl⟩
  have hform : entries.toForm = .error (.absentKey field) := by
    rw [Entries.toForm, firstAbsent?_eq_some_iff.mpr hfield]
  have hrest := run_readRest_congr (hread ('\x7d' :: behind))
  rw [List.nil_append, run_readRest_of_none hclose, hform] at hrest
  rw [List.append_assoc, List.cons_append, run_readForm_object hspaces, List.append_assoc,
    List.singleton_append, hrest]
  rfl

/-! ### Whole objects -/

/-- Items can be cut before any one of them. -/
theorem Items.split {α : Type} {Item : List Char → α → Prop} {due : Bool} {words : List Char}
    {before after : List α} {a : α} (h : Items Item due words (before ++ a :: after)) :
    ∃ lead gap word rest, Items Item due lead before ∧ Gap (due || !before.isEmpty) gap ∧
      Item word a ∧ Items Item true rest after ∧ words = lead ++ gap ++ word ++ rest := by
  induction before generalizing due words with
  | nil =>
    cases h with
    | @item _ gap word rest _ _ hgap hitem hitems =>
      refine ⟨[], gap, word, rest, .done isSpaces_nil, ?_, hitem, hitems, rfl⟩
      simpa using hgap
  | cons b before ih =>
    cases h with
    | @item _ gap word words' _ _ hgap hitem hitems =>
      obtain ⟨lead, gap', word', rest, hlead, hgap', hitem', hrest, rfl⟩ := ih hitems
      refine ⟨gap ++ word ++ lead, gap', word', rest, .item hgap hitem hlead, ?_, hitem', hrest,
        by simp⟩
      simpa using hgap'

/-- Up to any member of it, an object is one that has been begun. -/
theorem exists_begun_of_items {before after : List (String × Value)} {member : String × Value}
    {spaces words : List Char} (hspaces : IsSpaces spaces)
    (hitems : Items (Member Written) false words (before ++ member :: after)) :
    ∃ begun word rest, Begun before begun ∧ Member Written word member ∧
      spaces ++ '\x7b' :: words = begun ++ (word ++ rest) := by
  obtain ⟨lead, gap, word, rest, hlead, hgap, hmember, -, rfl⟩ := hitems.split
  exact ⟨spaces ++ '\x7b' :: (lead ++ gap), word, rest,
    ⟨spaces, lead, gap, hspaces, hlead, by simpa using hgap, rfl⟩, hmember, by simp⟩

theorem IsObject.exists_begun {before after : List (String × Value)} {member : String × Value}
    {object : List Char} (h : IsObject (before ++ member :: after) object) :
    ∃ begun word rest, Begun before begun ∧ Member Written word member ∧
      object = begun ++ (word ++ rest) := by
  obtain ⟨spaces, words, hspaces, hitems, rfl⟩ := h
  obtain ⟨begun, word, rest, hbegun, hmember, hcut⟩ := exists_begun_of_items hspaces hitems
  refine ⟨begun, word, rest ++ ['\x7d'], hbegun, hmember, ?_⟩
  rw [← List.cons_append, ← List.append_assoc, hcut]
  simp

/-- Behind one of its members, an object that has been begun comes to a comma. -/
theorem Begun.exists_begun {before after : List (String × Value)} {member : String × Value}
    {cs : List Char} (h : Begun (before ++ member :: after) cs) :
    ∃ begun word rest, Begun before begun ∧ Member Written word member ∧ ',' ∈ rest ∧
      cs = begun ++ (word ++ rest) := by
  obtain ⟨spaces, words, gap, hspaces, hitems, hgap, rfl⟩ := h
  obtain ⟨begun, word, rest, hbegun, hmember, hcut⟩ := exists_begun_of_items hspaces hitems
  have hdue : (!(before ++ member :: after).isEmpty) = true := by simp
  rw [hdue] at hgap
  refine ⟨begun, word, rest ++ gap, hbegun, hmember, ?_, ?_⟩
  · exact List.mem_append_right rest hgap.comma_mem
  · rw [← List.cons_append, ← List.append_assoc, hcut]
    simp

theorem plain_nil : Plain [] := ⟨by simp, List.nodup_nil, by simp⟩

theorem Plain.append_text {members : List (String × Value)} {key : String} (h : Plain members)
    (hknown : key ∈ fieldNames) (hfresh : key ∉ members.map Prod.fst) (text : String) :
    Plain (members ++ [(key, .text text)]) := by
  refine ⟨?_, ?_, ?_⟩
  · intro member hmember
    rcases List.mem_append.mp hmember with hold | hnew
    · exact h.known member hold
    · rw [List.mem_singleton.mp hnew]
      exact hknown
  · have hconcat := h.fresh.concat hfresh
    rw [List.concat_eq_append] at hconcat
    simpa using hconcat
  · intro member hmember
    rcases List.mem_append.mp hmember with hold | hnew
    · exact h.texts member hold
    · exact ⟨text, by rw [List.mem_singleton.mp hnew]⟩

/-- Members are plain, or there is a first one that offends. -/
theorem plain_or_first (members : List (String × Value)) :
    Plain members ∨ ∃ before key value after, members = before ++ (key, value) :: after ∧
      Plain before ∧ (key ∉ fieldNames ∨ key ∈ before.map Prod.fst ∨
        ∀ text, value ≠ .text text) := by
  induction members using List.reverseRecOn with
  | nil => exact .inl plain_nil
  | append_singleton members member ih =>
    obtain ⟨key, value⟩ := member
    rcases ih with hplain | ⟨before, key', value', after, rfl, hfirst⟩
    · by_cases hoffends : key ∉ fieldNames ∨ key ∈ members.map Prod.fst ∨
          ∀ text, value ≠ .text text
      · exact .inr ⟨members, key, value, [], rfl, hplain, hoffends⟩
      · simp only [not_or, not_not, not_forall] at hoffends
        obtain ⟨hknown, hfresh, text, rfl⟩ := hoffends
        exact .inl (hplain.append_text hknown hfresh text)
    · exact .inr ⟨before, key', value', after ++ [(key, value)], by simp, hfirst⟩

theorem exists_tells {value : Value} (htext : ∀ text, value ≠ .text text)
    (hnumber : value ≠ .number) : ∃ opening name, Tells value opening name := by
  cases value with
  | null => exact ⟨_, _, .null⟩
  | boolean value =>
    cases value with
    | true => exact ⟨_, _, .booleanTrue⟩
    | false => exact ⟨_, _, .booleanFalse⟩
  | number => exact absurd rfl hnumber
  | text value => exact absurd rfl (htext value)
  | list => exact ⟨_, _, .list⟩
  | object => exact ⟨_, _, .object⟩

theorem Written.exists_opening {word opening : List Char} {value : Value} {name : String}
    (h : Written word value) (htells : Tells value opening name) :
    ∃ rest, word = opening ++ rest := by
  cases htells with
  | null => cases h; exact ⟨[], rfl⟩
  | booleanTrue => cases h; exact ⟨[], rfl⟩
  | booleanFalse => cases h; exact ⟨[], rfl⟩
  | list =>
    cases h with
    | list inside => exact ⟨inside ++ [']'], rfl⟩
  | object =>
    cases h with
    | object inside => exact ⟨inside ++ ['\x7d'], rfl⟩

/-- A member that offends by its key or by a value whose kind is told is written so. -/
theorem exists_offends {earlier : List String} {key : String} {value : Value} {word : List Char}
    (hmember : Member Written word (key, value))
    (hoffends : key ∉ fieldNames ∨ key ∈ earlier ∨ ∃ opening name, Tells value opening name) :
    ∃ front rest message, Offends earlier key value front message ∧ word = front ++ rest := by
  obtain ⟨keyWord, before, after, valueWord, hword, hbefore, hafter, hvalue, rfl⟩ := hmember
  have hcut : keyWord ++ before ++ ':' :: after ++ valueWord =
      keyWord ++ (before ++ ':' :: (after ++ valueWord)) := by
    simp
  by_cases hkey : key ∈ fieldNames
  · by_cases hearlier : key ∈ earlier
    · exact ⟨keyWord, _, _, .repeated hword hkey hearlier, hcut⟩
    · rcases hoffends with h | h | ⟨opening, name, htells⟩
      · exact absurd hkey h
      · exact absurd h hearlier
      · obtain ⟨rest, rfl⟩ := hvalue.exists_opening htells
        exact ⟨_, rest, _, .kind hword hkey hearlier hbefore hafter htells, by simp⟩
  · exact ⟨keyWord, _, _, .unknown hword hkey, hcut⟩

/-- **The first offence decides.** Behind members that do not offend, an offence is answered with
its message and leaves no event, whatever stands behind the place where it is known. So an object
with members that have no numbers for values is answered with the complaint about the first member
that offends; and if none does, with the first field that it leaves out, whatever stands behind its
closing bracket. -/
theorem refused_of_first_offence :
    (∀ before begun key value word message, Plain before → Begun before begun →
      Offends (before.map Prod.fst) key value word message →
        ∀ behind, RefusedWith (begun ++ (word ++ behind)) message) ∧
    (∀ members object, IsObject members object → (∀ member ∈ members, member.2 ≠ .number) →
      (Plain members ∧ ∀ field, FirstAbsent (members.map Prod.fst) field →
        ∀ behind, RefusedWith (object ++ behind) ("missing field `" ++ field.name ++ "`")) ∨
      ∃ before key value after begun word rest message,
        members = before ++ (key, value) :: after ∧ Plain before ∧ Begun before begun ∧
        Offends (before.map Prod.fst) key value word message ∧ object = begun ++ (word ++ rest) ∧
          ∀ behind, RefusedWith (object ++ behind) message) := by
  refine ⟨fun before begun key value word message hplain hbegun hoffends behind =>
    refusedWith_of_offends hplain hbegun hoffends behind, ?_⟩
  intro members object hobject hnumbers
  rcases plain_or_first members with hplain | ⟨before, key, value, after, rfl, hplain, hfirst⟩
  · exact .inl ⟨hplain, fun field hfield behind =>
      refusedWith_absent hplain hobject hfield behind⟩
  · obtain ⟨begun, memberWord, rest, hbegun, hmember, rfl⟩ := hobject.exists_begun
    have hnumber : value ≠ .number := hnumbers (key, value) (by simp)
    obtain ⟨word, rest', message, hoffends, rfl⟩ := exists_offends hmember
      (hfirst.imp_right (Or.imp_right fun htext => exists_tells htext hnumber))
    refine .inr ⟨before, key, value, after, begun, word, rest' ++ rest, message, rfl, hplain,
      hbegun, hoffends, by simp, fun behind => ?_⟩
    have hrefused := refusedWith_of_offends hplain hbegun hoffends (rest' ++ rest ++ behind)
    simpa using hrefused

/-- An object that gives the airport and goes on. -/
def airportOnly : List Char :=
  ['\x7b'] ++ Literal.write "airportCode" ++ [':'] ++ Literal.write "ADL"

theorem refused_of_first_offence_airport :
    RefusedWith (airportOnly ++ [','] ++ Literal.write "gateNumber" ++
      [':', ' ', 'n', 'u', 'l', 'l', '0', '\"']) "invalid type: null, expected a string" ∧
    RefusedWith (airportOnly ++ ['\x7d', ',']) "missing field `passengerName`" := by
  have hitems : Items (Member Written) false _ [("airportCode", .text "ADL")] :=
    .item (.first isSpaces_nil) (member_of_written _ (.text (quoted_write "ADL")))
      (.done isSpaces_nil)
  have hairport : "airportCode" ∈ fieldNames := mem_fieldNames_iff.mpr ⟨.airportCode, rfl⟩
  have hplain : Plain [("airportCode", .text "ADL")] :=
    plain_nil.append_text hairport (by simp) "ADL"
  constructor
  · have hoffends : Offends ["airportCode"] "gateNumber" .null _ _ :=
      .kind (quoted_write "gateNumber") (mem_fieldNames_iff.mpr ⟨.gateNumber, rfl⟩) (by simp)
        isSpaces_nil (by decide : IsSpaces [' ']) .null
    have hbegun : Begun [("airportCode", .text "ADL")] _ :=
      ⟨[], _, [','], isSpaces_nil, hitems, gap_comma, rfl⟩
    exact refused_of_first_offence.1 _ _ _ _ _ _ hplain hbegun hoffends ['0', '\"']
  · have hobject : IsObject [("airportCode", .text "ADL")] (airportOnly ++ ['\x7d']) :=
      ⟨[], _, isSpaces_nil, hitems, rfl⟩
    rcases refused_of_first_offence.2 _ _ hobject (by simp) with ⟨-, hmissing⟩ | hoffence
    · exact hmissing .passengerName ⟨by decide, [], _, rfl, by simp⟩ [',']
    · obtain ⟨before, key, value, after, _, _, _, _, hmembers, -, -, hoffends, -⟩ := hoffence
      cases before with
      | nil =>
        cases hmembers
        cases hoffends with
        | unknown _ hkey => exact absurd hairport hkey
        | repeated _ _ hearlier => cases hearlier
        | kind _ _ _ _ _ htells => cases htells
      | cons member before => simp at hmembers

end Boarding.Document
