import Boarding.Document.Form
import Boarding.Proofs.Literal
import Mathlib.Data.List.Nodup
import Mathlib.Data.List.Perm.Basic

/-!
The documents of a form, and that reading accepts exactly these.

The grammar is given by relations between a run of characters and what it says. `Items` is shared by
objects and lists: items with commas between them and free space around every mark. An object of a
form gives each field its text under the field's name, once, in any order; a list of a form gives
the four texts in the order of the fields.

* `Entries.toForm_eq_ok_iff`: complete entries are a rearrangement of the fields with their texts.
* `readMembers_eq_ok_iff`, `run_readElements_eq_ok_iff`: the two ways of giving the texts.
* `run_readForm_eq_ok_iff`: a form is read exactly off its documents, whatever stands behind.
-/

namespace Boarding

/-- The texts of a form, each under the name of its field. -/
def Form.members (form : Form) : List (String × String) :=
  Field.all.map fun field => (field.name, form.get field)

namespace Document

open Reader

/-! ### The grammar -/

/-- What stands before an item. A comma is due before every item but the first. -/
inductive Gap : Bool → List Char → Prop where
  | first {spaces : List Char} (h : IsSpaces spaces) : Gap false spaces
  | later {before after : List Char} (hbefore : IsSpaces before) (hafter : IsSpaces after) :
      Gap true (before ++ ',' :: after)

/-- Items up to a closing bracket, the bracket left aside. -/
inductive Items {α : Type} (Item : List Char → α → Prop) : Bool → List Char → List α → Prop where
  | done {due : Bool} {spaces : List Char} (h : IsSpaces spaces) : Items Item due spaces []
  | item {due : Bool} {gap word words : List Char} {a : α} {as : List α} (hgap : Gap due gap)
      (hitem : Item word a) (hitems : Items Item true words as) :
      Items Item due (gap ++ word ++ words) (a :: as)

/-- A quoted key and a value with a colon between them. -/
def Member {α : Type} (Value : List Char → α → Prop) (word : List Char) (member : String × α) :
    Prop :=
  ∃ key before after value, Quoted key member.1 ∧ IsSpaces before ∧ IsSpaces after ∧
    Value value member.2 ∧ word = key ++ before ++ ':' :: after ++ value

/-- The documents of a form. -/
inductive IsDocument (form : Form) : List Char → Prop where
  | object {words : List Char} {members : List (String × String)}
      (hitems : Items (Member Quoted) false words members) (hperm : members.Perm form.members) :
      IsDocument form (['\x7b'] ++ words ++ ['\x7d'])
  | list {words : List Char} (hitems : Items Quoted false words (Field.all.map form.get)) :
      IsDocument form (['['] ++ words ++ [']'])

/-! ### Space and marks -/

theorem skipSpace_eq_cons_iff {cs rest : List Char} {c : Char} :
    skipSpace cs = c :: rest ↔
      isSpace c = false ∧ ∃ spaces, IsSpaces spaces ∧ cs = spaces ++ c :: rest := by
  constructor
  · intro h
    obtain ⟨spaces, hspaces, hcs⟩ := exists_spaces cs
    have hhead := List.head?_dropWhile_not isSpace cs
    rw [skipSpace] at h
    rw [h, List.head?_cons] at hhead
    exact ⟨by simpa using hhead, spaces, hspaces, by rw [hcs, skipSpace, h]⟩
  · rintro ⟨hc, spaces, hspaces, rfl⟩
    rw [skipSpace_append hspaces, skipSpace_cons hc]

/-- Passing over space and looking at the next mark. -/
theorem run_space_look_bind_eq_ok_iff {α : Type} {f : Char → Reader α} {cs rest : List Char}
    {a : α} :
    (do space; let c ← look; f c : Reader α).run cs = .ok (a, rest) ↔
      ∃ spaces c tail, IsSpaces spaces ∧ isSpace c = false ∧ cs = spaces ++ c :: tail ∧
        (f c).run (c :: tail) = .ok (a, rest) := by
  rw [run_bind_of_ok run_space, run_bind_eq_ok_iff]
  constructor
  · rintro ⟨c, mid, hlook, hthen⟩
    obtain ⟨rfl, tail, hskip⟩ := run_look_eq_ok_iff.mp hlook
    obtain ⟨hc, spaces, hspaces, hcs⟩ := skipSpace_eq_cons_iff.mp hskip
    exact ⟨spaces, c, tail, hspaces, hc, hcs, hskip ▸ hthen⟩
  · rintro ⟨spaces, c, tail, hspaces, hc, hcs, hthen⟩
    have hskip := skipSpace_eq_cons_iff.mpr ⟨hc, spaces, hspaces, hcs⟩
    exact ⟨c, c :: tail, by rw [hskip, run_look_cons], hthen⟩

/-- Passing over space and reading a mark. -/
theorem run_space_expect_bind_eq_ok_iff {α : Type} {x : Reader α} {mark : Char}
    (hmark : isSpace mark = false) {cs rest : List Char} {a : α} :
    (do space; expect mark; x : Reader α).run cs = .ok (a, rest) ↔
      ∃ spaces tail, IsSpaces spaces ∧ cs = spaces ++ mark :: tail ∧
        x.run tail = .ok (a, rest) := by
  rw [run_bind_of_ok run_space, run_bind_eq_ok_iff]
  constructor
  · rintro ⟨u, tail, hexpect, hthen⟩
    rw [run_expect_eq_ok_iff] at hexpect
    obtain ⟨-, spaces, hspaces, hcs⟩ := skipSpace_eq_cons_iff.mp hexpect
    exact ⟨spaces, tail, hspaces, hcs, hthen⟩
  · rintro ⟨spaces, tail, hspaces, hcs, hthen⟩
    have hskip := skipSpace_eq_cons_iff.mpr ⟨hmark, spaces, hspaces, hcs⟩
    exact ⟨(), tail, run_expect_eq_ok_iff.mpr hskip, hthen⟩

/-- Space before a quoted text is passed over as a whole. -/
theorem skipSpace_eq_quoted_iff {cs word rest : List Char} {text : String}
    (hword : Quoted word text) :
    skipSpace cs = word ++ rest ↔ ∃ spaces, IsSpaces spaces ∧ cs = spaces ++ (word ++ rest) := by
  obtain ⟨inner, -, rfl⟩ := hword
  rw [List.cons_append, skipSpace_eq_cons_iff]
  exact ⟨fun h => h.2, fun h => ⟨rfl, h⟩⟩

theorem run_space_readText_bind_eq_ok_iff {α : Type} {f : String → Reader α}
    {cs rest : List Char} {a : α} :
    (do space; let text ← readText; f text : Reader α).run cs = .ok (a, rest) ↔
      ∃ spaces word text tail, IsSpaces spaces ∧ Quoted word text ∧
        cs = spaces ++ (word ++ tail) ∧ (f text).run tail = .ok (a, rest) := by
  rw [run_bind_of_ok run_space, run_bind_eq_ok_iff]
  constructor
  · rintro ⟨text, tail, hread, hthen⟩
    obtain ⟨word, hword, hskip⟩ := run_readText_eq_ok_iff.mp hread
    obtain ⟨spaces, hspaces, hcs⟩ := (skipSpace_eq_quoted_iff hword).mp hskip
    exact ⟨spaces, word, text, tail, hspaces, hword, hcs, hthen⟩
  · rintro ⟨spaces, word, text, tail, hspaces, hword, hcs, hthen⟩
    have hskip := (skipSpace_eq_quoted_iff hword).mpr ⟨spaces, hspaces, hcs⟩
    exact ⟨text, tail, run_readText_eq_ok_iff.mpr ⟨word, hword, hskip⟩, hthen⟩

/-! ### Objects -/

theorem run_quoted_key_eq_ok_iff {cs rest : List Char} {key : String} :
    (do expect '\"'; let key ← Literal.read; pure (some key) : Reader (Option String)).run cs
        = .ok (some key, rest) ↔ ∃ word, Quoted word key ∧ cs = word ++ rest := by
  rw [← run_read_cons_iff, run_bind_eq_ok_iff]
  constructor
  · rintro ⟨u, mid, hexpect, hthen⟩
    obtain ⟨text, mid', hread, hlast⟩ := run_bind_eq_ok_iff.mp hthen
    obtain ⟨heq, rfl⟩ := run_pure_eq_ok_iff.mp hlast
    cases heq
    exact ⟨mid, run_expect_eq_ok_iff.mp hexpect, hread⟩
  · rintro ⟨mid, rfl, hread⟩
    exact ⟨(), mid, run_expect_self _, run_bind_eq_ok_iff.mpr ⟨key, rest, hread, rfl⟩⟩

theorem run_readKey_eq_some_iff {due : Bool} {cs rest : List Char} {key : String} :
    (readKey due).run cs = .ok (some key, rest) ↔
      ∃ gap word, Gap due gap ∧ Quoted word key ∧ cs = gap ++ (word ++ rest) := by
  rw [readKey, run_space_look_bind_eq_ok_iff]
  constructor
  · rintro ⟨spaces, c, tail, hspaces, -, rfl, hthen⟩
    split at hthen
    next =>
      obtain ⟨d, mid, -, hlast⟩ := run_bind_eq_ok_iff.mp hthen
      cases hlast
    next =>
      cases due with
      | false =>
        obtain ⟨word, hword, htail⟩ := run_quoted_key_eq_ok_iff.mp hthen
        exact ⟨spaces, word, .first hspaces, hword, by rw [htail]⟩
      | true =>
        obtain ⟨u, mid, hcomma, hlast⟩ := run_bind_eq_ok_iff.mp hthen
        rw [run_expect_eq_ok_iff] at hcomma
        rw [run_bind_of_ok run_space] at hlast
        obtain ⟨word, hword, hskip⟩ := run_quoted_key_eq_ok_iff.mp hlast
        obtain ⟨spaces', hspaces', rfl⟩ := (skipSpace_eq_quoted_iff hword).mp hskip
        exact ⟨spaces ++ ',' :: spaces', word, .later hspaces hspaces', hword, by
          rw [hcomma, List.append_assoc, List.cons_append]⟩
  · rintro ⟨gap, word, hgap, hword, rfl⟩
    cases hgap with
    | first hspaces =>
      obtain ⟨inner, hinner, rfl⟩ := hword
      refine ⟨gap, '\"', inner ++ '\"' :: rest, hspaces, rfl, by simp, ?_⟩
      rw [if_neg (by decide), if_neg Bool.false_ne_true]
      exact run_quoted_key_eq_ok_iff.mpr ⟨_, ⟨inner, hinner, rfl⟩, by simp⟩
    | @later before after hbefore hafter =>
      refine ⟨before, ',', after ++ (word ++ rest), hbefore, rfl, by simp, ?_⟩
      have hskip : skipSpace (after ++ (word ++ rest)) = word ++ rest :=
        (skipSpace_eq_quoted_iff hword).mpr ⟨after, hafter, rfl⟩
      rw [if_neg (by decide), if_pos rfl, run_bind_of_ok (run_expect_self _),
        run_bind_of_ok run_space]
      exact run_quoted_key_eq_ok_iff.mpr ⟨word, hword, hskip⟩

theorem run_readKey_eq_none_iff {due : Bool} {cs rest : List Char} :
    (readKey due).run cs = .ok (none, rest) ↔
      ∃ spaces, IsSpaces spaces ∧ cs = spaces ++ '\x7d' :: rest := by
  have hquoted : ∀ {cs rest : List Char},
      (do expect '\"'; let key ← Literal.read; pure (some key) : Reader (Option String)).run cs
        ≠ .ok (none, rest) := by
    intro cs rest h
    obtain ⟨u, mid, -, hthen⟩ := run_bind_eq_ok_iff.mp h
    obtain ⟨text, mid', -, hlast⟩ := run_bind_eq_ok_iff.mp hthen
    cases hlast
  rw [readKey, run_space_look_bind_eq_ok_iff]
  constructor
  · rintro ⟨spaces, c, tail, hspaces, -, rfl, hthen⟩
    split at hthen
    next hc =>
      obtain ⟨d, mid, hnext, hlast⟩ := run_bind_eq_ok_iff.mp hthen
      rw [run_next_eq_ok_iff] at hnext
      cases hnext
      cases hlast
      exact ⟨spaces, hspaces, by rw [hc]⟩
    next =>
      split at hthen
      next =>
        obtain ⟨u, mid, -, hlast⟩ := run_bind_eq_ok_iff.mp hthen
        rw [run_bind_of_ok run_space] at hlast
        exact absurd hlast hquoted
      next => exact absurd hthen hquoted
  · rintro ⟨spaces, hspaces, rfl⟩
    exact ⟨spaces, '\x7d', rest, hspaces, rfl, rfl, rfl⟩

theorem run_accept_eq_ok_iff {α : Type} {x : Except Shape α} {cs rest : List Char} {a : α} :
    (accept x).run cs = .ok (a, rest) ↔ x = .ok a ∧ rest = cs := by
  cases x with
  | ok b =>
    rw [accept, run_pure_eq_ok_iff, Except.ok.injEq, eq_comm]
  | error cause => simp [accept]

theorem run_readMember_eq_some_iff {entries : Entries} {cs rest : List Char} {field : Field}
    {text : String} :
    (readMember entries).run cs = .ok (some (field, text), rest) ↔
      entries.text? field = none ∧ ∃ gap word, Gap (!entries.isEmpty) gap ∧
        Member Quoted word (field.name, text) ∧ cs = gap ++ word ++ rest := by
  rw [readMember, run_bind_eq_ok_iff]
  constructor
  · rintro ⟨key?, mid, hkey, hthen⟩
    cases key? with
    | none => cases hthen
    | some key =>
      obtain ⟨gap, word, hgap, hword, rfl⟩ := run_readKey_eq_some_iff.mp hkey
      obtain ⟨field', mid', haccept, hcolon⟩ := run_bind_eq_ok_iff.mp hthen
      obtain ⟨hfield, rfl⟩ := run_accept_eq_ok_iff.mp haccept
      obtain ⟨before, tail, hbefore, rfl, hvalue⟩ :=
        (run_space_expect_bind_eq_ok_iff rfl).mp hcolon
      obtain ⟨after, value, text', tail', hafter, hquoted, rfl, hlast⟩ :=
        run_space_readText_bind_eq_ok_iff.mp hvalue
      cases hlast
      obtain ⟨rfl, habsent⟩ := Entries.fieldFor_eq_ok_iff.mp hfield
      exact ⟨habsent, gap, _, hgap, ⟨word, before, after, value, hword, hbefore, hafter,
        hquoted, rfl⟩, by simp⟩
  · rintro ⟨habsent, gap, _, hgap, ⟨key, before, after, value, hkey, hbefore, hafter,
      hquoted, rfl⟩, rfl⟩
    refine ⟨some field.name, before ++ ':' :: (after ++ (value ++ rest)),
      run_readKey_eq_some_iff.mpr ⟨gap, key, hgap, hkey, by simp⟩, ?_⟩
    have hfield : entries.fieldFor field.name = .ok field :=
      Entries.fieldFor_eq_ok_iff.mpr ⟨rfl, habsent⟩
    refine run_bind_eq_ok_iff.mpr
      ⟨field, _, run_accept_eq_ok_iff.mpr ⟨hfield, rfl⟩, ?_⟩
    refine (run_space_expect_bind_eq_ok_iff rfl).mpr ⟨before, _, hbefore, rfl, ?_⟩
    exact run_space_readText_bind_eq_ok_iff.mpr
      ⟨after, value, text, rest, hafter, hquoted, rfl, rfl⟩

theorem run_readMember_eq_none_iff {entries : Entries} {cs rest : List Char} :
    (readMember entries).run cs = .ok (none, rest) ↔
      ∃ spaces, IsSpaces spaces ∧ cs = spaces ++ '\x7d' :: rest := by
  rw [readMember, run_bind_eq_ok_iff, ← run_readKey_eq_none_iff]
  constructor
  · rintro ⟨key?, mid, hkey, hthen⟩
    cases key? with
    | none =>
      cases hthen
      exact hkey
    | some key =>
      obtain ⟨field, mid', -, hcolon⟩ := run_bind_eq_ok_iff.mp hthen
      obtain ⟨before, tail, -, -, hvalue⟩ :=
        (run_space_expect_bind_eq_ok_iff rfl).mp hcolon
      obtain ⟨after, value, text, tail', -, -, -, hlast⟩ :=
        run_space_readText_bind_eq_ok_iff.mp hvalue
      cases hlast
  · intro hkey
    exact ⟨none, rest, hkey, rfl⟩

theorem Entries.text?_eq_none_iff {entries : Entries} {field : Field} :
    entries.text? field = none ↔ field ∉ entries.map Prod.fst := by
  rw [Entries.text?, List.lookup_eq_none_iff]
  simp only [List.mem_map, not_exists, not_and]
  constructor
  · intro h entry hentry heq
    exact absurd (h entry hentry) (by simp [heq])
  · intro h entry hentry
    have hne : field ≠ entry.1 := fun heq => h entry hentry heq.symm
    exact bne_iff_ne.mpr hne

/-- Entries written as members: the name of each field with the field's text. -/
def Entries.members (entries : Entries) : List (String × String) :=
  entries.map fun entry => (entry.1.name, entry.2)

theorem isEmpty_append_singleton (entries : Entries) (entry : Field × String) :
    (!(entries ++ [entry]).isEmpty) = true := by
  cases entries <;> rfl

/-- A field that all these entries have once is not among those before the entry for it. -/
theorem Entries.text?_eq_none_of_nodup {entries more : Entries} {field : Field} {text : String}
    (hnodup : ((entries ++ (field, text) :: more).map Prod.fst).Nodup) :
    entries.text? field = none := by
  apply Entries.text?_eq_none_iff.mpr
  intro hmem
  rw [List.map_append, List.nodup_append] at hnodup
  exact hnodup.2.2 field hmem field (by simp) rfl

/-- Reading passes over members with new keys and goes on behind them, up to space. -/
theorem exists_spaces_readMembers {entries more : Entries} {words : List Char}
    (hitems : Items (Member Quoted) (!entries.isEmpty) words more.members)
    (hnodup : ((entries ++ more).map Prod.fst).Nodup) :
    ∃ spaces, IsSpaces spaces ∧ ∀ tail,
      readMembers entries (words ++ tail) = readMembers (entries ++ more) (spaces ++ tail) := by
  induction more generalizing entries words with
  | nil =>
    cases hitems with
    | done hspaces => exact ⟨words, hspaces, fun tail => by rw [List.append_nil]⟩
  | cons entry more ih =>
    obtain ⟨field, text⟩ := entry
    cases hitems with
    | @item _ gap word words' _ _ hgap hword hitems' =>
      have hsplit : entries ++ (field, text) :: more = entries ++ [(field, text)] ++ more := by
        simp
      have habsent := Entries.text?_eq_none_of_nodup hnodup
      rw [hsplit] at hnodup ⊢
      obtain ⟨spaces, hspaces, hrest⟩ := ih (by rwa [isEmpty_append_singleton]) hnodup
      refine ⟨spaces, hspaces, fun tail => ?_⟩
      rw [← hrest tail]
      exact readMembers_of_some (run_readMember_eq_some_iff.mpr
        ⟨habsent, gap, word, hgap, hword, by simp⟩)

/-- **The members of an object are read exactly**, and none of their fields twice. -/
theorem readMembers_eq_ok_iff {entries all : Entries} {cs rest : List Char}
    (hnodup : (entries.map Prod.fst).Nodup) :
    readMembers entries cs = .ok (all, rest) ↔
      ∃ (words : List Char) (more : Entries), Items (Member Quoted) (!entries.isEmpty) words
        more.members ∧ all = entries ++ more ∧ (all.map Prod.fst).Nodup ∧
          cs = words ++ '\x7d' :: rest := by
  constructor
  · intro h
    fun_induction readMembers entries cs with
    | case1 entries cs fault heq => cases h
    | case2 entries cs rest' heq =>
      cases h
      obtain ⟨spaces, hspaces, hcs⟩ := run_readMember_eq_none_iff.mp heq
      exact ⟨spaces, [], .done hspaces, by simp, hnodup, hcs⟩
    | case3 entries cs entry mid heq ih =>
      obtain ⟨field, text⟩ := entry
      obtain ⟨habsent, gap, word, hgap, hword, rfl⟩ := run_readMember_eq_some_iff.mp heq
      have hnodup' : ((entries ++ [(field, text)]).map Prod.fst).Nodup := by
        rw [List.map_append, List.nodup_append]
        refine ⟨hnodup, by simp, ?_⟩
        rintro other hother _ hfield rfl
        rw [List.mem_singleton.mp hfield] at hother
        exact Entries.text?_eq_none_iff.mp habsent hother
      obtain ⟨words, more, hitems, hall, hnodupAll, rfl⟩ := ih hnodup' h
      rw [isEmpty_append_singleton] at hitems
      exact ⟨gap ++ word ++ words, (field, text) :: more, .item hgap hword hitems,
        by simp [hall], hnodupAll, by simp⟩
  · rintro ⟨words, more, hitems, rfl, hnodupAll, rfl⟩
    obtain ⟨spaces, hspaces, hread⟩ := exists_spaces_readMembers hitems hnodupAll
    rw [hread]
    exact readMembers_of_none (run_readMember_eq_none_iff.mpr ⟨spaces, hspaces, rfl⟩)

theorem readMembers_nil_eq_ok_iff {entries : Entries} {cs rest : List Char} :
    readMembers [] cs = .ok (entries, rest) ↔
      ∃ words, Items (Member Quoted) false words entries.members ∧
        (entries.map Prod.fst).Nodup ∧ cs = words ++ '\x7d' :: rest := by
  have hnil : (([] : Entries).map Prod.fst).Nodup := List.nodup_nil
  rw [readMembers_eq_ok_iff hnil]
  constructor
  · rintro ⟨words, more, hitems, rfl, hnodup, hcs⟩
    exact ⟨words, hitems, hnodup, hcs⟩
  · rintro ⟨words, hitems, hnodup, hcs⟩
    exact ⟨words, entries, hitems, rfl, hnodup, hcs⟩

/-! ### Lists -/

theorem run_readElements_nil_eq_ok_iff {entries all : Entries} {cs rest : List Char} :
    (readElements [] entries).run cs = .ok (all, rest) ↔
      all = entries ∧ ∃ spaces, IsSpaces spaces ∧ cs = spaces ++ ']' :: rest := by
  rw [readElements, run_space_expect_bind_eq_ok_iff rfl]
  constructor
  · rintro ⟨spaces, tail, hspaces, hcs, hlast⟩
    cases hlast
    exact ⟨rfl, spaces, hspaces, hcs⟩
  · rintro ⟨rfl, spaces, hspaces, hcs⟩
    exact ⟨spaces, rest, hspaces, hcs, rfl⟩

theorem run_readElements_cons_eq_ok_iff {field : Field} {fields : List Field}
    {entries all : Entries} {cs rest : List Char} :
    (readElements (field :: fields) entries).run cs = .ok (all, rest) ↔
      ∃ gap word text tail, Gap (!entries.isEmpty) gap ∧ Quoted word text ∧
        cs = gap ++ word ++ tail ∧
          (readElements fields (entries ++ [(field, text)])).run tail = .ok (all, rest) := by
  rw [readElements, run_space_look_bind_eq_ok_iff]
  constructor
  · rintro ⟨spaces, c, tail, hspaces, -, rfl, hthen⟩
    split at hthen
    next => cases hthen
    next =>
      cases hempty : entries.isEmpty with
      | true =>
        rw [hempty, if_pos rfl] at hthen
        obtain ⟨text, tail', hread, hlast⟩ := run_bind_eq_ok_iff.mp hthen
        obtain ⟨word, hword, htail⟩ := run_readText_eq_ok_iff.mp hread
        exact ⟨spaces, word, text, tail', .first hspaces, hword, by simp [htail], hlast⟩
      | false =>
        rw [hempty, if_neg Bool.false_ne_true] at hthen
        obtain ⟨u, mid, hcomma, hread⟩ := run_bind_eq_ok_iff.mp hthen
        rw [run_expect_eq_ok_iff] at hcomma
        obtain ⟨spaces', word, text, tail', hspaces', hword, rfl, hlast⟩ :=
          run_space_readText_bind_eq_ok_iff.mp hread
        exact ⟨spaces ++ ',' :: spaces', word, text, tail', .later hspaces hspaces', hword,
          by simp [hcomma], hlast⟩
  · rintro ⟨gap, word, text, tail, hgap, hword, rfl, hlast⟩
    cases hempty : entries.isEmpty with
    | true =>
      rw [hempty] at hgap
      cases hgap with
      | first hspaces =>
        have hread : readText.run (word ++ tail) = .ok (text, tail) :=
          run_readText_eq_ok_iff.mpr ⟨word, hword, rfl⟩
        obtain ⟨inner, -, rfl⟩ := hword
        refine ⟨gap, '\"', inner ++ '\"' :: tail, hspaces, rfl, by simp, ?_⟩
        rw [if_neg (by decide), if_pos rfl]
        exact run_bind_eq_ok_iff.mpr ⟨text, tail, by simpa using hread, hlast⟩
    | false =>
      rw [hempty] at hgap
      cases hgap with
      | @later before after hbefore hafter =>
        refine ⟨before, ',', after ++ (word ++ tail), hbefore, rfl, by simp, ?_⟩
        rw [if_neg (by decide), if_neg Bool.false_ne_true, run_bind_of_ok (run_expect_self _)]
        exact run_space_readText_bind_eq_ok_iff.mpr
          ⟨after, word, text, tail, hafter, hword, rfl, hlast⟩

/-- **The elements of a list are read exactly**, one for each of the given fields. -/
theorem run_readElements_eq_ok_iff {fields : List Field} {entries all : Entries}
    {cs rest : List Char} :
    (readElements fields entries).run cs = .ok (all, rest) ↔
      ∃ words texts, Items Quoted (!entries.isEmpty) words texts ∧
        texts.length = fields.length ∧ all = entries ++ fields.zip texts ∧
          cs = words ++ ']' :: rest := by
  induction fields generalizing entries cs with
  | nil =>
    rw [run_readElements_nil_eq_ok_iff]
    constructor
    · rintro ⟨rfl, spaces, hspaces, rfl⟩
      exact ⟨spaces, [], .done hspaces, rfl, by simp, rfl⟩
    · rintro ⟨words, texts, hitems, hlength, rfl, rfl⟩
      cases hitems with
      | done hspaces => exact ⟨by simp, words, hspaces, rfl⟩
      | item => cases hlength
  | cons field fields ih =>
    rw [run_readElements_cons_eq_ok_iff]
    constructor
    · rintro ⟨gap, word, text, tail, hgap, hword, rfl, hread⟩
      obtain ⟨words, texts, hitems, hlength, rfl, rfl⟩ := ih.mp hread
      rw [isEmpty_append_singleton] at hitems
      exact ⟨gap ++ word ++ words, text :: texts, .item hgap hword hitems, by simp [hlength],
        by simp, by simp⟩
    · rintro ⟨words, texts, hitems, hlength, rfl, rfl⟩
      cases hitems with
      | done => cases hlength
      | @item _ gap word words' text texts' hgap hword hitems' =>
        refine ⟨gap, word, text, words' ++ ']' :: rest, hgap, hword, by simp, ?_⟩
        refine ih.mpr ⟨words', texts', ?_, by simpa using hlength, by simp, rfl⟩
        rw [isEmpty_append_singleton]
        exact hitems'

/-! ### Forms -/

/-- The entries of a form in the order of the fields. -/
def formEntries (form : Form) : Entries :=
  Field.all.map fun field => (field, form.get field)

theorem mem_formEntries_iff {form : Form} {field : Field} {text : String} :
    (field, text) ∈ formEntries form ↔ form.get field = text := by
  rw [formEntries, List.mem_map]
  constructor
  · rintro ⟨other, -, heq⟩
    cases heq
    rfl
  · rintro rfl
    exact ⟨field, Field.mem_all field, rfl⟩

theorem nodup_fields_formEntries (form : Form) : ((formEntries form).map Prod.fst).Nodup := by
  have hfields : (formEntries form).map Prod.fst = Field.all := rfl
  rw [hfields]
  decide

/-- Where no key occurs twice, looking up finds what is listed. -/
theorem lookup_eq_some_iff_mem {α β : Type} [BEq α] [LawfulBEq α] {entries : List (α × β)}
    (hnodup : (entries.map Prod.fst).Nodup) {key : α} {b : β} :
    entries.lookup key = some b ↔ (key, b) ∈ entries := by
  rw [List.lookup_eq_some_iff]
  constructor
  · rintro ⟨before, after, rfl, -⟩
    simp
  · intro hmem
    obtain ⟨before, after, rfl⟩ := List.append_of_mem hmem
    refine ⟨before, after, rfl, fun entry hentry => bne_iff_ne.mpr ?_⟩
    rintro rfl
    rw [List.map_append, List.nodup_append] at hnodup
    exact hnodup.2.2 entry.1 (List.mem_map_of_mem hentry) entry.1 (by simp) rfl

theorem Entries.text?_eq_some_iff {entries : Entries} (hnodup : (entries.map Prod.fst).Nodup)
    {field : Field} {text : String} :
    entries.text? field = some text ↔ (field, text) ∈ entries :=
  lookup_eq_some_iff_mem hnodup

/-- **Complete entries are a rearrangement** of the fields of their form with their texts. -/
theorem Entries.toForm_eq_ok_iff {entries : Entries} (hnodup : (entries.map Prod.fst).Nodup)
    {form : Form} : entries.toForm = .ok form ↔ entries.Perm (formEntries form) := by
  have htext : entries.Perm (formEntries form) ↔
      ∀ field, entries.text? field = some (form.get field) := by
    rw [List.perm_ext_iff_of_nodup (List.Nodup.of_map _ hnodup)
      (List.Nodup.of_map _ (nodup_fields_formEntries form))]
    constructor
    · intro h field
      rw [Entries.text?_eq_some_iff hnodup, h, mem_formEntries_iff]
    · rintro h ⟨field, text⟩
      rw [← Entries.text?_eq_some_iff hnodup, h field, mem_formEntries_iff, Option.some.injEq]
  rw [htext, Entries.toForm]
  constructor
  · intro h field
    split at h
    next => cases h
    next hnone =>
      cases h
      rw [Entries.firstAbsent?, List.find?_eq_none] at hnone
      have hsome := hnone field (Field.mem_all field)
      rw [Form.get_ofTexts]
      cases hfield : entries.text? field with
      | none => simp [hfield] at hsome
      | some text => rfl
  · intro h
    have hnone : entries.firstAbsent? = none := by
      rw [Entries.firstAbsent?, List.find?_eq_none]
      intro field _
      simp [h field]
    rw [hnone]
    refine congrArg Except.ok (Form.ext_get fun field => ?_)
    rw [Form.get_ofTexts, h field, Option.getD_some]

/-- Texts given in the order of the fields are the texts of their form. -/
theorem eq_map_get_of_toForm {texts : List String} {form : Form}
    (hlength : texts.length = Field.all.length)
    (h : Entries.toForm ([] ++ Field.all.zip texts) = .ok form) :
    texts = Field.all.map form.get := by
  have hfields : (Field.all.zip texts).map Prod.fst = Field.all :=
    List.map_fst_zip (Nat.le_of_eq hlength.symm)
  have hnodup : ((Field.all.zip texts).map Prod.fst).Nodup := by
    rw [hfields]
    decide
  have hperm := (Entries.toForm_eq_ok_iff hnodup).mp h
  have hget : ∀ entry ∈ Field.all.zip texts, entry.2 = form.get entry.1 := by
    rintro ⟨field, text⟩ hentry
    exact (mem_formEntries_iff.mp (hperm.mem_iff.mp hentry)).symm
  calc texts = (Field.all.zip texts).map Prod.snd :=
        (List.map_snd_zip (Nat.le_of_eq hlength)).symm
    _ = (Field.all.zip texts).map (fun entry => form.get entry.1) := List.map_congr_left hget
    _ = ((Field.all.zip texts).map Prod.fst).map form.get := by rw [List.map_map]; rfl
    _ = Field.all.map form.get := by rw [hfields]

/-- Members whose keys are names of fields are entries. -/
theorem exists_entries_of_forall {members : List (String × String)}
    (h : ∀ member ∈ members, ∃ field : Field, field.name = member.1) :
    ∃ entries : Entries, entries.members = members := by
  induction members with
  | nil => exact ⟨[], rfl⟩
  | cons member members ih =>
    obtain ⟨field, hfield⟩ := h member (by simp)
    obtain ⟨entries, rfl⟩ := ih fun other hother => h other (List.mem_cons_of_mem _ hother)
    exact ⟨(field, member.2) :: entries, by simp [Entries.members, hfield]⟩

theorem perm_members_iff {entries : Entries} {form : Form} :
    entries.members.Perm form.members ↔ entries.Perm (formEntries form) := by
  have hinj : Function.Injective fun entry : Field × String => (entry.1.name, entry.2) := by
    rintro ⟨field, text⟩ ⟨other, text'⟩ heq
    rw [Prod.mk.injEq] at heq
    exact Prod.ext (Field.name_injective heq.1) heq.2
  have hmembers : form.members = (formEntries form).members := by
    simp [Form.members, formEntries, Entries.members]
  rw [hmembers]
  exact List.map_perm_map_iff hinj

/-- **A form is read exactly off its documents**, behind any space and before any text. -/
theorem run_readForm_eq_ok_iff {cs rest : List Char} {form : Form} :
    readForm.run cs = .ok (form, rest) ↔
      ∃ spaces document, IsSpaces spaces ∧ IsDocument form document ∧
        cs = spaces ++ document ++ rest := by
  rw [readForm, run_space_look_bind_eq_ok_iff]
  constructor
  · rintro ⟨spaces, c, tail, hspaces, -, rfl, hthen⟩
    split at hthen
    next hc =>
      rw [run_bind_of_ok (run_next_cons c)] at hthen
      obtain ⟨entries, mid, hread, haccept⟩ := run_bind_eq_ok_iff.mp hthen
      obtain ⟨hform, rfl⟩ := run_accept_eq_ok_iff.mp haccept
      obtain ⟨words, hitems, hnodup, rfl⟩ := readMembers_nil_eq_ok_iff.mp hread
      have hperm := perm_members_iff.mpr ((Entries.toForm_eq_ok_iff hnodup).mp hform)
      exact ⟨spaces, _, hspaces, .object hitems hperm, by simp [hc]⟩
    next =>
      split at hthen
      next hc =>
        rw [run_bind_of_ok (run_next_cons c)] at hthen
        obtain ⟨entries, mid, hread, haccept⟩ := run_bind_eq_ok_iff.mp hthen
        obtain ⟨hform, rfl⟩ := run_accept_eq_ok_iff.mp haccept
        obtain ⟨words, texts, hitems, hlength, rfl, rfl⟩ := run_readElements_eq_ok_iff.mp hread
        rw [eq_map_get_of_toForm hlength hform] at hitems
        exact ⟨spaces, _, hspaces, .list hitems, by simp [hc]⟩
      next => exact absurd hthen run_refuseForeign_ne_ok
  · rintro ⟨spaces, _, hspaces, hdocument, rfl⟩
    cases hdocument with
    | @object words members hitems hperm =>
      obtain ⟨entries, rfl⟩ : ∃ entries : Entries, entries.members = members := by
        apply exists_entries_of_forall
        intro member hmember
        obtain ⟨field, -, rfl⟩ := List.mem_map.mp (hperm.mem_iff.mp hmember)
        exact ⟨field, rfl⟩
      rw [perm_members_iff] at hperm
      have hnodup : (entries.map Prod.fst).Nodup :=
        (hperm.map Prod.fst).nodup_iff.mpr (nodup_fields_formEntries form)
      refine ⟨spaces, '\x7b', words ++ '\x7d' :: rest, hspaces, rfl, by simp, ?_⟩
      rw [if_pos rfl, run_bind_of_ok (run_next_cons _)]
      refine run_bind_eq_ok_iff.mpr ⟨entries, rest,
        readMembers_nil_eq_ok_iff.mpr ⟨words, hitems, hnodup, rfl⟩, ?_⟩
      exact run_accept_eq_ok_iff.mpr ⟨(Entries.toForm_eq_ok_iff hnodup).mpr hperm, rfl⟩
    | @list words hitems =>
      refine ⟨spaces, '[', words ++ ']' :: rest, hspaces, rfl, by simp, ?_⟩
      rw [if_neg (by decide), if_pos rfl, run_bind_of_ok (run_next_cons _)]
      refine run_bind_eq_ok_iff.mpr ⟨formEntries form, rest,
        run_readElements_eq_ok_iff.mpr ⟨words, _, hitems, by simp, ?_, rfl⟩, ?_⟩
      · rfl
      · exact run_accept_eq_ok_iff.mpr ⟨(Entries.toForm_eq_ok_iff
          (nodup_fields_formEntries form)).mpr (List.Perm.refl _), rfl⟩

end Document

end Boarding
