import Boarding.Proofs.Offence
import Mathlib.Data.Set.List

/-!
Lists as documents: texts by their position.

A list is read for the four fields in their order, one element for each, and then has to end. An
element that is no text is refused at its first marks, an end that comes too soon with the number of
elements before it, and a fifth element as junk before the closing bracket. All of this is found
while the list is read, so no form is checked and no event is left. Four texts carry the same form
as an object that gives them under the names of the fields, and are answered like it.

* `run_readElements_of_gap`: one element, behind the comma that is due.
* `exists_run_of_texts`: reading gets past texts, whatever stands behind them.
* `list_answered_by_position`: the answer to every list.
-/

namespace Boarding.Document

open Reader

/-- A whole list, behind space. -/
def IsList (values : List Value) (cs : List Char) : Prop :=
  ∃ spaces words, IsSpaces spaces ∧ Items Written false words values ∧
    cs = spaces ++ '[' :: (words ++ [']'])

/-- Values of which every one is a text. -/
def AllTexts (values : List Value) : Prop :=
  ∀ value ∈ values, ∃ text, value = .text text

theorem exists_map_text {values : List Value} (h : AllTexts values) :
    ∃ texts : List String, texts.map .text = values := by
  have hrange : values ∈ Set.range (List.map Value.text) := by
    rw [Set.range_list_map]
    intro value hvalue
    obtain ⟨text, rfl⟩ := h value hvalue
    exact ⟨text, rfl⟩
  exact hrange

theorem quoted_of_written_text {word : List Char} {text : String}
    (h : Written word (.text text)) : Quoted word text := by
  cases h with
  | text hquoted => exact hquoted

theorem items_quoted_of_texts {due : Bool} {words : List Char} {texts : List String}
    (h : Items Written due words (texts.map .text)) : Items Quoted due words texts := by
  have hitems := Items.map_congr (g := id) quoted_of_written_text h
  rwa [List.map_id] at hitems

/-! ### Element by element -/

section

variable {field : Field} {fields : List Field} {entries : Entries} {gap spaces : List Char}

/-- Behind the gap that is due, an element is read as the text for the next field. -/
theorem run_readElements_of_gap {c : Char} (hgap : Gap (!entries.isEmpty) gap)
    (hspace : isSpace c = false) (hbracket : c ≠ ']') (cs : List Char) :
    (readElements (field :: fields) entries).run (gap ++ c :: cs) =
      (do let text ← readText; readElements fields (entries ++ [(field, text)])).run (c :: cs) := by
  cases hempty : entries.isEmpty with
  | true =>
    rw [hempty] at hgap
    cases hgap with
    | first hspaces =>
      have hskip : skipSpace (gap ++ c :: cs) = c :: cs :=
        skipSpace_eq_cons_iff.mpr ⟨hspace, gap, hspaces, rfl⟩
      rw [readElements, run_bind_of_ok run_space, hskip, run_bind_of_ok (run_look_cons _),
        if_neg hbracket, if_pos hempty]
  | false =>
    rw [hempty] at hgap
    cases hgap with
    | @later before after hbefore hafter =>
      have hskip : skipSpace (before ++ ',' :: after ++ c :: cs) = ',' :: (after ++ c :: cs) :=
        skipSpace_eq_cons_iff.mpr ⟨rfl, before, hbefore, by simp⟩
      have hskip' : skipSpace (after ++ c :: cs) = c :: cs :=
        skipSpace_eq_cons_iff.mpr ⟨hspace, after, hafter, rfl⟩
      rw [readElements, run_bind_of_ok run_space, hskip, run_bind_of_ok (run_look_cons _),
        if_neg (by decide), if_neg (ne_true_of_eq_false hempty),
        run_bind_of_ok (run_expect_self _), run_bind_of_ok run_space, hskip']

/-- A list that ends before the next field is refused with the number of its elements. -/
theorem run_readElements_short (hspaces : IsSpaces spaces) (behind : List Char) :
    (readElements (field :: fields) entries).run (spaces ++ ']' :: behind) =
      .error (.shape (.shortList entries.length)) := by
  have hskip : skipSpace (spaces ++ ']' :: behind) = ']' :: behind :=
    skipSpace_eq_cons_iff.mpr ⟨rfl, spaces, hspaces, rfl⟩
  rw [readElements, run_bind_of_ok run_space, hskip, run_bind_of_ok (run_look_cons _), if_pos rfl]
  rfl

/-- An element that no field is left for is junk, told by its comma. -/
theorem run_readElements_long (hgap : Gap true gap) (behind : List Char) :
    (readElements [] entries).run (gap ++ behind) = .error .malformed := by
  cases hgap with
  | @later before after hbefore hafter =>
    have hskip : skipSpace (before ++ ',' :: after ++ behind) = ',' :: (after ++ behind) :=
      skipSpace_eq_cons_iff.mpr ⟨rfl, before, hbefore, by simp⟩
    rw [readElements, run_bind_of_ok run_space, hskip]
    exact run_bind_of_error (run_expect_of_ne (by decide))

theorem Tells.exists_cons {value : Value} {opening : List Char} {name : String}
    (h : Tells value opening name) :
    ∃ c cs, opening = c :: cs ∧ isSpace c = false ∧ c ≠ ']' := by
  cases h <;> exact ⟨_, _, rfl, rfl, by decide⟩

/-- An element of the wrong kind is refused at the marks that tell it. -/
theorem run_readElements_kind {value : Value} {opening : List Char} {name : String}
    (hgap : Gap (!entries.isEmpty) gap) (htells : Tells value opening name) :
    ∃ found : Foreign, found.describe = name ∧ ∀ field fields behind,
      (readElements (field :: fields) entries).run (gap ++ (opening ++ behind)) =
        .error (.shape (.wrongKind found .text)) := by
  obtain ⟨found, hname, hread⟩ := exists_foreign_of_tells htells
  obtain ⟨c, cs, rfl, hspace, hbracket⟩ := htells.exists_cons
  refine ⟨found, hname, fun field fields behind => ?_⟩
  rw [List.cons_append, run_readElements_of_gap hgap hspace hbracket]
  exact run_bind_of_error (hread behind)

end

/-- Reading passes over texts for the first fields and goes on behind them, up to space. -/
theorem exists_spaces_readElements {fields more : List Field} {entries : Entries}
    {words : List Char} {texts : List String} (hitems : Items Quoted (!entries.isEmpty) words texts)
    (hlength : fields.length = texts.length) :
    ∃ spaces, IsSpaces spaces ∧ ∀ tail,
      (readElements (fields ++ more) entries).run (words ++ tail) =
        (readElements more (entries ++ fields.zip texts)).run (spaces ++ tail) := by
  -- By the texts: each takes one of the fields, and a comma is due from then on.
  induction texts generalizing fields entries words with
  | nil =>
    obtain rfl := List.length_eq_zero_iff.mp hlength
    cases hitems with
    | done hspaces => exact ⟨words, hspaces, fun tail => by simp⟩
  | cons text texts ih =>
    obtain ⟨field, fields, rfl, hfields⟩ := List.length_eq_succ_iff.mp hlength
    cases hitems with
    | @item _ gap word words' _ _ hgap hword hitems' =>
      rw [← isEmpty_append_singleton entries (field, text)] at hitems'
      obtain ⟨spaces, hspaces, hrest⟩ := ih hitems' hfields
      refine ⟨spaces, hspaces, fun tail => ?_⟩
      have hread : readText.run (word ++ (words' ++ tail)) = .ok (text, words' ++ tail) :=
        run_readText_eq_ok_iff.mpr ⟨word, hword, rfl⟩
      obtain ⟨inner, -, rfl⟩ := hword
      rw [List.append_assoc, List.append_assoc, List.cons_append, List.cons_append,
        run_readElements_of_gap hgap rfl (by decide), ← List.cons_append, run_bind_of_ok hread,
        hrest, List.append_assoc]
      rfl

/-! ### Whole lists -/

theorem run_readForm_list {spaces : List Char} (h : IsSpaces spaces) (cs : List Char) :
    readForm.run (spaces ++ '[' :: cs) =
      (do let entries ← readElements Field.all []; accept entries.toForm).run cs := by
  have hskip : skipSpace (spaces ++ '[' :: cs) = '[' :: cs :=
    skipSpace_eq_cons_iff.mpr ⟨rfl, spaces, h, rfl⟩
  rw [readForm, run_bind_of_ok run_space, hskip, run_bind_of_ok (run_look_cons _),
    if_neg (by decide), if_pos rfl, run_bind_of_ok (run_next_cons _)]

/-- Behind texts at the front of a list, a fault in what is read for the remaining fields is the
answer to the whole. -/
theorem exists_run_of_texts {spaces words : List Char} {texts : List String}
    (hspaces : IsSpaces spaces) (hitems : Items Quoted false words texts)
    (hlength : texts.length ≤ Field.all.length) :
    ∃ (entries : Entries) (between : List Char), entries.map Prod.snd = texts ∧
      IsSpaces between ∧ ∀ tail fault,
        (readElements (Field.all.drop texts.length) entries).run (between ++ tail) = .error fault →
          readForm.run (spaces ++ '[' :: (words ++ tail)) = .error fault := by
  have htake : (Field.all.take texts.length).length = texts.length := List.length_take_of_le hlength
  obtain ⟨between, hbetween, hread⟩ :=
    @exists_spaces_readElements _ (Field.all.drop texts.length) [] _ _ hitems htake
  refine ⟨(Field.all.take texts.length).zip texts, between, ?_, hbetween, fun tail fault h => ?_⟩
  · exact List.map_snd_zip (Nat.le_of_eq htake.symm)
  · have hrest := hread tail
    rw [List.take_append_drop, List.nil_append, h] at hrest
    rw [run_readForm_list hspaces]
    exact run_bind_of_error hrest

theorem message_shortList (count : Nat) : (Shape.shortList count).message =
    "invalid length " ++ toString count ++ ", expected struct BoardingPassDto with 4 elements" :=
  rfl

section

variable {values before after : List Value} {value : Value} {list : List Char}

/-- The first element that is no text is refused for its kind. -/
theorem refusedWith_of_kind {opening : List Char} {name : String}
    (hlist : IsList (before ++ value :: after) list) (hbefore : AllTexts before)
    (hlength : before.length < Field.all.length) (htells : Tells value opening name)
    (behind : List Char) :
    RefusedWith (list ++ behind) ("invalid type: " ++ name ++ ", expected a string") := by
  obtain ⟨spaces, words, hspaces, hitems, rfl⟩ := hlist
  obtain ⟨texts, rfl⟩ := exists_map_text hbefore
  -- The list is cut before the element and behind the marks that tell its kind.
  obtain ⟨lead, gap, word, rest, hlead, hgap, hword, -, rfl⟩ := hitems.split
  obtain ⟨marks, rfl⟩ := hword.exists_opening htells
  rw [List.length_map] at hlength
  obtain ⟨entries, between, rfl, hbetween, hread⟩ :=
    exists_run_of_texts hspaces (items_quoted_of_texts hlead) (Nat.le_of_lt hlength)
  rw [Bool.false_or, List.isEmpty_map, List.isEmpty_map] at hgap
  obtain ⟨found, rfl, hkind⟩ := run_readElements_kind (hgap.append_spaces hbetween) htells
  have hfault : (readElements (Field.all.drop (entries.map Prod.snd).length) entries).run
      (between ++ (gap ++ (opening ++ (marks ++ rest ++ ']' :: behind)))) =
        .error (.shape (.wrongKind found .text)) := by
    rw [List.drop_eq_getElem_cons hlength, ← List.append_assoc]
    exact hkind _ _ _
  have hrefused := refusedWith_of_run (hread _ _ hfault)
  rw [message_wrongKind_text] at hrefused
  simpa using hrefused

/-- A list of too few texts is refused with their number. -/
theorem refusedWith_of_short (hlist : IsList values list) (htexts : AllTexts values)
    (hlength : values.length < Field.all.length) (behind : List Char) :
    RefusedWith (list ++ behind) ("invalid length " ++ toString values.length ++
      ", expected struct BoardingPassDto with 4 elements") := by
  obtain ⟨spaces, words, hspaces, hitems, rfl⟩ := hlist
  obtain ⟨texts, rfl⟩ := exists_map_text htexts
  rw [List.length_map] at hlength
  obtain ⟨entries, between, rfl, hbetween, hread⟩ :=
    exists_run_of_texts hspaces (items_quoted_of_texts hitems) (Nat.le_of_lt hlength)
  have hfault : (readElements (Field.all.drop (entries.map Prod.snd).length) entries).run
      (between ++ ']' :: behind) = .error (.shape (.shortList entries.length)) := by
    rw [List.drop_eq_getElem_cons hlength]
    exact run_readElements_short hbetween behind
  have hrefused := refusedWith_of_run (hread _ _ hfault)
  rw [message_shortList] at hrefused
  simpa using hrefused

/-- A list with more elements than fields is malformed if all those for the fields are texts. -/
theorem receive_of_long (hlist : IsList (before ++ value :: after) list)
    (hbefore : AllTexts before) (hlength : before.length = Field.all.length)
    (behind : List Char) :
    receive (String.ofList (list ++ behind)) = ⟨.refused (.unreadable .malformed), []⟩ := by
  obtain ⟨spaces, words, hspaces, hitems, rfl⟩ := hlist
  obtain ⟨texts, rfl⟩ := exists_map_text hbefore
  obtain ⟨lead, gap, word, rest, hlead, hgap, hword, -, rfl⟩ := hitems.split
  rw [List.length_map] at hlength
  obtain ⟨entries, between, rfl, hbetween, hread⟩ :=
    exists_run_of_texts hspaces (items_quoted_of_texts hlead) (Nat.le_of_eq hlength)
  have hdue : (!entries.isEmpty) = true := by
    cases entries with
    | nil => exact absurd hlength (by decide)
    | cons entry entries => rfl
  rw [Bool.false_or, List.isEmpty_map, List.isEmpty_map, hdue] at hgap
  have hfault : (readElements (Field.all.drop (entries.map Prod.snd).length) entries).run
      (between ++ (gap ++ (word ++ rest ++ ']' :: behind))) = .error .malformed := by
    rw [hlength, List.drop_length, ← List.append_assoc]
    exact run_readElements_long (hgap.append_spaces hbetween) _
  have hform := hread _ _ hfault
  rw [receive, String.toList_ofList]
  exact receiveChars_of_error (by simpa using hform)

/-- Four texts carry the form that has them in the order of the fields. -/
theorem exists_form_of_four (htexts : AllTexts values)
    (hlength : values.length = Field.all.length) :
    ∃ form : Form, values = (Field.all.map form.get).map .text := by
  obtain ⟨texts, rfl⟩ := exists_map_text htexts
  rw [List.length_map] at hlength
  obtain ⟨name, airport, flight, gate, rfl⟩ := List.length_eq_four.mp hlength
  exact ⟨⟨name, airport, flight, gate⟩, rfl⟩

theorem carries_list {form : Form} (hlist : IsList ((Field.all.map form.get).map .text) list)
    (behind : List Char) : Carries (String.ofList (list ++ behind)) form behind := by
  obtain ⟨spaces, words, hspaces, hitems, rfl⟩ := hlist
  exact ⟨spaces, _, hspaces, .list (items_quoted_of_texts hitems), by simp⟩

theorem carries_object {form : Form} {members : List (String × String)} {object : List Char}
    (hperm : members.Perm form.members)
    (hobject : IsObject (members.map fun member => (member.1, .text member.2)) object)
    (behind : List Char) : Carries (String.ofList (object ++ behind)) form behind := by
  obtain ⟨spaces, words, hspaces, hitems, rfl⟩ := hobject
  have hquoted := Items.map_congr (g := id) member_quoted_of_text hitems
  rw [List.map_id] at hquoted
  exact ⟨spaces, _, hspaces, .object hquoted hperm, by simp⟩

end

/-- **A list is answered by position.** Whatever stands behind it: the first of its first four
elements that is no text is refused for its kind; a list of fewer than four texts is refused with
their number; more than four elements, the first four of them texts, are malformed; none of these
leaves an event. Four texts are answered like any object that gives them under the names of the
fields, with the same text behind it. -/
theorem list_answered_by_position (values : List Value) (list : List Char)
    (hlist : IsList values list) (behind : List Char) :
    (∀ before value after, values.take 4 = before ++ value :: after → AllTexts before →
      (∀ text, value ≠ .text text) → value ≠ .number → ∃ opening name, Tells value opening name ∧
        RefusedWith (list ++ behind) ("invalid type: " ++ name ++ ", expected a string")) ∧
    (AllTexts values → values.length < 4 →
      RefusedWith (list ++ behind) ("invalid length " ++ toString values.length ++
        ", expected struct BoardingPassDto with 4 elements")) ∧
    (AllTexts (values.take 4) → 4 < values.length →
      receive (String.ofList (list ++ behind)) = ⟨.refused (.unreadable .malformed), []⟩) ∧
    (AllTexts values → values.length = 4 →
      ∃ form : Form, values = (Field.all.map form.get).map .text ∧
        ∀ (members : List (String × String)) (object : List Char), members.Perm form.members →
          IsObject (members.map fun member => (member.1, .text member.2)) object →
            receive (String.ofList (list ++ behind)) =
              receive (String.ofList (object ++ behind))) := by
  refine ⟨?_, fun htexts hlength => refusedWith_of_short hlist htexts hlength behind, ?_, ?_⟩
  · intro before value after htake hbefore htext hnumber
    obtain ⟨opening, name, htells⟩ := exists_tells htext hnumber
    have hvalues : before ++ value :: (after ++ values.drop 4) = values := by
      rw [← List.cons_append, ← List.append_assoc, ← htake, List.take_append_drop]
    have hlength : before.length < 4 := by
      have hle := List.length_take_le 4 values
      rw [htake, List.length_append, List.length_cons] at hle
      omega
    rw [← hvalues] at hlist
    exact ⟨opening, name, htells, refusedWith_of_kind hlist hbefore hlength htells behind⟩
  · intro htexts hlength
    have hvalues := List.take_append_drop 4 values
    rw [List.drop_eq_getElem_cons hlength] at hvalues
    rw [← hvalues] at hlist
    exact receive_of_long hlist htexts (List.length_take_of_le (Nat.le_of_lt hlength)) behind
  · intro htexts hlength
    obtain ⟨form, rfl⟩ := exists_form_of_four htexts hlength
    refine ⟨form, rfl, fun members object hperm hobject => ?_⟩
    rw [receive_of_carries (carries_list hlist behind),
      receive_of_carries (carries_object hperm hobject behind)]

/-- The texts of a form in a list. -/
def inOrder (form : Form) : List Char :=
  '[' :: (Literal.write form.passengerName ++ ',' :: Literal.write form.airportCode ++
    ',' :: Literal.write form.flightNumber ++ ',' :: Literal.write form.gateNumber ++ [']'])

/-- The texts of a form in an object, the last field first. -/
def fromBehind (form : Form) : List Char :=
  '\x7b' :: (Literal.write "gateNumber" ++ ':' :: Literal.write form.gateNumber ++
    ',' :: Literal.write "flightNumber" ++ ':' :: Literal.write form.flightNumber ++
    ',' :: Literal.write "airportCode" ++ ':' :: Literal.write form.airportCode ++
    ',' :: Literal.write "passengerName" ++ ':' :: Literal.write form.passengerName ++ ['\x7d'])

theorem isList_inOrder (form : Form) :
    IsList ((Field.all.map form.get).map .text) (inOrder form) := by
  have htext : ∀ text, Written (Literal.write text) (.text text) :=
    fun text => .text (quoted_write text)
  refine ⟨[], _, isSpaces_nil, .item (.first isSpaces_nil) (htext _) (.item gap_comma (htext _)
    (.item gap_comma (htext _) (.item gap_comma (htext _) (.done isSpaces_nil)))), ?_⟩
  simp [inOrder, Form.get]

theorem isObject_fromBehind (form : Form) :
    IsObject (form.members.reverse.map fun member => (member.1, .text member.2))
      (fromBehind form) := by
  have hmember : ∀ key text,
      Member Written (Literal.write key ++ ':' :: Literal.write text) (key, .text text) :=
    fun key text => member_of_written key (.text (quoted_write text))
  refine ⟨[], _, isSpaces_nil, .item (.first isSpaces_nil) (hmember _ _)
    (.item gap_comma (hmember _ _) (.item gap_comma (hmember _ _) (.item gap_comma (hmember _ _)
      (.done isSpaces_nil)))), ?_⟩
  simp [fromBehind, Form.get, Field.name]

theorem list_answered_by_position_blank :
    RefusedWith (['[', '\"', '\"', ',', ' ', 'n', 'u', 'l', 'l', ']'] ++ ['x'])
      "invalid type: null, expected a string" ∧
    RefusedWith (['[', '\"', '\"', ']'] ++ ['x'])
      "invalid length 1, expected struct BoardingPassDto with 4 elements" ∧
    receive (String.ofList (['[', '\"', '\"', ',', '\"', '\"', ',', '\"', '\"', ',', '\"', '\"',
      ',', '[', ']', ']'] ++ ['x'])) = ⟨.refused (.unreadable .malformed), []⟩ ∧
    receive (String.ofList (inOrder ⟨" Ann", "ADL", "QF1", "2"⟩ ++ [' '])) =
      receive (String.ofList (fromBehind ⟨" Ann", "ADL", "QF1", "2"⟩ ++ [' '])) ∧
    receive (String.ofList (fromBehind ⟨" Ann", "ADL", "QF1", "2"⟩ ++ [' '])) =
      ⟨.pass ⟨"Ann", "ADL", "QF1", "2"⟩, [.issued]⟩ := by
  have hblank : Written ['\"', '\"'] (.text "") := .text (quoted_write "")
  refine ⟨?_, ?_, ?_, ?_, by decide +kernel⟩
  · have hlist : IsList [.text "", .null] ['[', '\"', '\"', ',', ' ', 'n', 'u', 'l', 'l', ']'] :=
      ⟨[], _, isSpaces_nil, .item (.first isSpaces_nil) hblank
        (.item (.later isSpaces_nil (by decide : IsSpaces [' '])) .null (.done isSpaces_nil)), rfl⟩
    obtain ⟨opening, name, htells, hrefused⟩ :=
      (list_answered_by_position _ _ hlist ['x']).1 [.text ""] .null [] rfl (by simp [AllTexts])
        (by simp) (by decide)
    cases htells
    exact hrefused
  · have hlist : IsList [.text ""] ['[', '\"', '\"', ']'] :=
      ⟨[], _, isSpaces_nil, .item (.first isSpaces_nil) hblank (.done isSpaces_nil), rfl⟩
    exact (list_answered_by_position _ _ hlist ['x']).2.1 (by simp [AllTexts]) (by decide)
  · have hlist : IsList [.text "", .text "", .text "", .text "", .list] _ :=
      ⟨[], _, isSpaces_nil, .item (.first isSpaces_nil) hblank (.item gap_comma hblank
        (.item gap_comma hblank (.item gap_comma hblank (.item gap_comma (.list [])
          (.done isSpaces_nil))))), rfl⟩
    exact (list_answered_by_position _ _ hlist ['x']).2.2.1 (by simp [AllTexts]) (by decide)
  · obtain ⟨form, hform, hobject⟩ :=
      (list_answered_by_position _ _ (isList_inOrder ⟨" Ann", "ADL", "QF1", "2"⟩) [' ']).2.2.2
        (by simp [AllTexts]) rfl
    obtain rfl : ⟨" Ann", "ADL", "QF1", "2"⟩ = form := by
      cases form
      simpa [Field.all, Form.get] using hform
    exact hobject _ _ (List.reverse_perm _) (isObject_fromBehind _)

end Boarding.Document
