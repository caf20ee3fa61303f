import Boarding.Listing
import Mathlib.Tactic.SplitIfs

/-!
Listings are unambiguous.

The texts in a listing may hold anything: quotes, reverse solidi, line ends, whole pieces of another
listing. Quoting spells these out, so that every written character shows where it ends and the quote
that closes a text cannot be mistaken; the labels around the texts are plain words. What a listing
shows can therefore be read off from the front, name by name and text by text, and the same goes
for both ways of laying it out. A `Layout` says what the two put between the marks.

* `Text.quote_append_inj`: a quoted text is known, and so is where it ends.
* `Listing.body_append_inj`: the same for a listing with words for labels, in every clear layout.
* `Listing.line_injective`, `Listing.lines_injective`: the two layouts that are used are clear.
* `listings_unambiguous`: forms and verdicts are known by their listings.
-/

namespace Boarding

theorem takeWhile_append_of_head? {p : Char → Bool} {cs rest : List Char} (hcs : cs.all p = true)
    (hrest : ∀ c ∈ rest.head?, p c = false) : (cs ++ rest).takeWhile p = cs := by
  rw [List.takeWhile_append_of_pos (List.all_eq_true.mp hcs)]
  cases rest with
  | nil => simp
  | cons c rest =>
    have hc : p c = false := hrest c rfl
    rw [List.takeWhile_cons_of_neg (by simp [hc]), List.append_nil]

/-- Where a run of characters of one class ends is known, if the next character is of another. -/
theorem class_append_inj {p : Char → Bool} {as bs xs ys : List Char} (has : as.all p = true)
    (hbs : bs.all p = true) (hxs : ∀ c ∈ xs.head?, p c = false) (hys : ∀ c ∈ ys.head?, p c = false)
    (h : as ++ xs = bs ++ ys) : as = bs ∧ xs = ys := by
  have hfront : as = bs := by
    rw [← takeWhile_append_of_head? has hxs, h, takeWhile_append_of_head? hbs hys]
  rw [hfront] at h
  exact ⟨hfront, List.append_cancel_left h⟩

namespace Text

/-! ### Digits -/

theorem toDigits_injective {m n : Nat} (h : Nat.toDigits 16 m = Nat.toDigits 16 n) : m = n := by
  have hdigit : ∀ a < 16, ∀ b < 16, Nat.digitChar a = Nat.digitChar b → a = b := by decide
  induction m using Nat.strongRecOn generalizing n with
  | ind m ih =>
    rw [Nat.toDigits_eq_if (by decide), Nat.toDigits_eq_if (n := n) (by decide)] at h
    split at h
    next hm =>
      split at h
      next hn => exact hdigit m hm n hn (List.singleton_inj.mp h)
      next hn =>
        have hnil : [] = Nat.toDigits 16 (n / 16) := List.append_inj_left' h rfl
        exact absurd hnil.symm Nat.toDigits_ne_nil
    next hm =>
      split at h
      next hn =>
        have hnil : Nat.toDigits 16 (m / 16) = [] := List.append_inj_left' h rfl
        exact absurd hnil Nat.toDigits_ne_nil
      next hn =>
        obtain ⟨hfront, hlast⟩ := List.append_inj' h rfl
        have hdiv := ih (m / 16) (by omega) hfront
        have hmod := hdigit (m % 16) (Nat.mod_lt _ (by decide)) (n % 16)
          (Nat.mod_lt _ (by decide)) (List.singleton_inj.mp hlast)
        omega

theorem toDigits_all (n : Nat) : (Nat.toDigits 16 n).all (· != '\x7d') = true := by
  induction n using Nat.strongRecOn with
  | ind n ih =>
    rw [Nat.toDigits_eq_if (by decide)]
    split
    next hn => simp
    next hn =>
      rw [List.all_append, ih (n / 16) (by omega)]
      simp

/-! ### Quoted texts -/

/-- The marks that stand behind a reverse solidus, each with the character that it stands for. -/
def shortMarks : List (Char × Char) :=
  [('\"', '\"'), ('\\', '\\'), ('n', '\n'), ('r', '\r'), ('t', '\t'), ('0', '\x00')]

/-- The three ways in which a character is shown between the quotes. -/
inductive Shows : Char → List Char → Prop where
  | plain {c : Char} (hquote : c ≠ '\"') (hsolidus : c ≠ '\\') : Shows c [c]
  | marked {mark c : Char} (h : shortMarks.lookup mark = some c) : Shows c ['\\', mark]
  | spelled (c : Char) : Shows c (spellCodePoint c)

theorem shows_quoteChar (c : Char) : Shows c (quoteChar c) := by
  unfold quoteChar
  split_ifs with hquote hsolidus hline hreturn htab hnull hunseen
  · subst hquote
    exact .marked rfl
  · subst hsolidus
    exact .marked rfl
  · subst hline
    exact .marked rfl
  · subst hreturn
    exact .marked rfl
  · subst htab
    exact .marked rfl
  · subst hnull
    exact .marked rfl
  · exact .spelled c
  · exact .plain hquote hsolidus

namespace Shows

variable {c d : Char} {shown shown' rest rest' : List Char}

/-- No character is shown as the quote that closes the text. -/
theorem append_ne_quote (h : Shows c shown) : shown ++ rest ≠ '\"' :: rest' := by
  intro heq
  cases h with
  | plain hquote => exact hquote (List.cons.inj heq).1
  | marked => exact absurd (List.cons.inj heq).1 (by decide)
  | spelled => exact absurd (List.cons.inj heq).1 (by decide)

theorem spelled_append_inj (h : spellCodePoint c ++ rest = spellCodePoint d ++ rest') :
    c = d ∧ rest = rest' := by
  simp only [spellCodePoint, List.append_assoc, List.cons_append, List.nil_append,
    List.cons.injEq, true_and] at h
  obtain ⟨hdigits, hrest⟩ :=
    class_append_inj (toDigits_all _) (toDigits_all _) (by simp) (by simp) h
  exact ⟨Char.toNat_inj.mp (toDigits_injective hdigits), (List.cons.inj hrest).2⟩

/-- A shown character is known, and so is where it ends. -/
theorem append_inj (h : Shows c shown) (h' : Shows d shown')
    (heq : shown ++ rest = shown' ++ rest') : c = d ∧ rest = rest' := by
  have hnone : shortMarks.lookup 'u' = none := by decide
  have hspelled : ∀ {mark c : Char}, shortMarks.lookup mark = some c → mark ≠ 'u' := by
    rintro mark c hmark rfl
    rw [hnone] at hmark
    cases hmark
  cases h with
  | plain hquote hsolidus =>
    cases h' with
    | plain => exact List.cons.inj heq
    | marked => exact absurd (List.cons.inj heq).1 hsolidus
    | spelled => exact absurd (List.cons.inj heq).1 hsolidus
  | marked hmark =>
    cases h' with
    | plain hquote hsolidus => exact absurd (List.cons.inj heq).1.symm hsolidus
    | marked hmark' =>
      obtain ⟨rfl, hrest⟩ := List.cons.inj (List.cons.inj heq).2
      exact ⟨Option.some.inj (hmark.symm.trans hmark'), hrest⟩
    | spelled => exact absurd (List.cons.inj (List.cons.inj heq).2).1 (hspelled hmark)
  | spelled =>
    cases h' with
    | plain hquote hsolidus => exact absurd (List.cons.inj heq).1.symm hsolidus
    | marked hmark' => exact absurd (List.cons.inj (List.cons.inj heq).2).1.symm (hspelled hmark')
    | spelled => exact spelled_append_inj heq

end Shows

theorem flatMap_quoteChar_append_inj {cs ds rest rest' : List Char}
    (h : cs.flatMap quoteChar ++ '\"' :: rest = ds.flatMap quoteChar ++ '\"' :: rest') :
    cs = ds ∧ rest = rest' := by
  induction cs generalizing ds with
  | nil =>
    cases ds with
    | nil => exact ⟨rfl, (List.cons.inj h).2⟩
    | cons d ds =>
      rw [List.flatMap_cons, List.append_assoc] at h
      exact absurd h.symm (shows_quoteChar d).append_ne_quote
  | cons c cs ih =>
    rw [List.flatMap_cons, List.append_assoc] at h
    cases ds with
    | nil => exact absurd h (shows_quoteChar c).append_ne_quote
    | cons d ds =>
      rw [List.flatMap_cons, List.append_assoc] at h
      obtain ⟨rfl, hrest⟩ := (shows_quoteChar c).append_inj (shows_quoteChar d) h
      obtain ⟨rfl, hend⟩ := ih hrest
      exact ⟨rfl, hend⟩

/-- **A quoted text is known, and so is where it ends**, whatever stands behind it. -/
theorem quote_append_inj {s t : String} {rest rest' : List Char}
    (h : (quote s).toList ++ rest = (quote t).toList ++ rest') : s = t ∧ rest = rest' := by
  simp only [quote, String.toList_ofList, List.append_assoc, List.cons_append, List.nil_append,
    List.cons.injEq, true_and] at h
  obtain ⟨htext, hrest⟩ := flatMap_quoteChar_append_inj h
  exact ⟨String.toList_inj.mp htext, hrest⟩

-- A quote, a vowel point and an escape character: none of them is shown as it stands.
example : quote "\"ש\u05b0: \x1b" = "\"\\\"ש\\u\x7b5b0\x7d: \\u\x7b1b\x7d\"" := by decide +kernel

end Text

namespace Listing

open Text

/-! ### Words -/

/-- Letters and low lines. -/
def isWordMark (c : Char) : Bool := c.isAlpha || c == '_'

/-- A label of letters and low lines. -/
def IsWord (name : String) : Prop := name.toList.all isWordMark = true

instance (name : String) : Decidable (IsWord name) :=
  inferInstanceAs (Decidable (_ = true))

/-- Every label is a word, and no table is without rows. -/
inductive Labelled : Listing → Prop where
  | label {name : String} (h : IsWord name) : Labelled (.label name)
  | text (value : String) : Labelled (.text value)
  | tagged {name : String} {inside : Listing} (h : IsWord name) (hinside : Labelled inside) :
      Labelled (.tagged name inside)
  | table {name : String} {rows : List (String × String)} (h : IsWord name)
      (hrows : ∀ entry ∈ rows, IsWord entry.1) (hne : rows ≠ []) : Labelled (.table name rows)

/-- The label in front, if there is one. -/
def front : Listing → List Char
  | .label name => name.toList
  | .text _ => []
  | .tagged name _ => name.toList
  | .table name _ => name.toList

theorem row_append_inj {entry entry' : String × String} (h : IsWord entry.1) (h' : IsWord entry'.1)
    {rest rest' : List Char} (heq : (row entry).toList ++ rest = (row entry').toList ++ rest') :
    entry = entry' ∧ rest = rest' := by
  simp only [row, String.toList_append, List.append_assoc] at heq
  obtain ⟨hname, htext⟩ := class_append_inj h h' (by simp [isWordMark]) (by simp [isWordMark]) heq
  obtain ⟨hvalue, hrest⟩ := quote_append_inj (List.append_cancel_left htext)
  exact ⟨Prod.ext (String.toList_inj.mp hname) hvalue, hrest⟩

/-! ### Layouts -/

/-- What a layout puts between the marks of a listing at some level. -/
structure Layout where
  /-- Behind the parenthesis that opens. -/
  inner : Nat → List Char
  /-- Before the parenthesis that closes. -/
  outer : Nat → List Char
  /-- Before a row. -/
  beforeRow : Nat → List Char
  /-- Behind the last row. -/
  afterRows : Nat → List Char

/-- The rows of a table with commas between them. -/
def Layout.rows (layout : Layout) (level : Nat) (entries : List (String × String)) : List Char :=
  (',' :: layout.beforeRow level).intercalate (entries.map fun entry => (row entry).toList)

/-- What stands behind the label in front. -/
def Layout.body (layout : Layout) : Nat → Listing → List Char
  | _, .label _ => []
  | _, .text value => (quote value).toList
  | level, .tagged _ inside =>
    '(' :: layout.inner level ++ (inside.front ++ layout.body (level + 1) inside) ++
      layout.outer level ++ [')']
  | level, .table _ entries =>
    [' ', '\x7b'] ++ layout.beforeRow level ++ layout.rows level entries ++
      layout.afterRows level ++ ['\x7d']

/-- On one line. -/
def Layout.compact : Layout := ⟨fun _ => [], fun _ => [], fun _ => [' '], fun _ => [' ']⟩

/-- A line for each row and each level, with a comma behind everything that stands inside. -/
def Layout.spread : Layout where
  inner level := '\n' :: (indent (level + 1)).toList
  outer level := ',' :: '\n' :: (indent level).toList
  beforeRow level := '\n' :: (indent (level + 1)).toList
  afterRows level := ',' :: '\n' :: (indent level).toList

theorem toList_line (listing : Listing) (level : Nat) :
    listing.line.toList = listing.front ++ Layout.compact.body level listing := by
  induction listing generalizing level with
  | label name => simp [line, front, Layout.body]
  | text value => simp [line, front, Layout.body]
  | tagged name inside ih => simp [line, front, Layout.body, Layout.compact, ih (level + 1)]
  | table name entries =>
    simp [line, front, Layout.body, Layout.compact, Layout.rows, Function.comp_def]

theorem toList_join_rows (level : Nat) {entries : List (String × String)} (h : entries ≠ []) :
    (String.join (entries.map fun entry => indent (level + 1) ++ row entry ++ ",\n")).toList =
      (indent (level + 1)).toList ++ Layout.spread.rows level entries ++ [',', '\n'] := by
  induction entries with
  | nil => exact absurd rfl h
  | cons entry entries ih =>
    cases entries with
    | nil => simp [Layout.rows]
    | cons next entries =>
      have hrest := ih (by simp)
      rw [List.map_cons, String.join_cons, String.toList_append, hrest]
      simp [Layout.rows, Layout.spread, List.intercalate_cons_cons]

theorem toList_linesAt {listing : Listing} (h : listing.Labelled) (level : Nat) :
    (listing.linesAt level).toList = listing.front ++ Layout.spread.body level listing := by
  induction h generalizing level with
  | label => simp [linesAt, front, Layout.body]
  | text => simp [linesAt, front, Layout.body]
  | tagged _ _ ih => simp [linesAt, front, Layout.body, Layout.spread, ih (level + 1)]
  | table _ _ hne =>
    simp only [linesAt, String.toList_append, toList_join_rows level hne]
    simp [front, Layout.body, Layout.spread]

/-! ### Reading a listing off -/

/-- What may stand behind a listing: nothing, or a mark that no listing goes on with. -/
def Ends (rest : List Char) : Prop := ∀ c ∈ rest.head?, c = ')' ∨ c = ','

/-- The marks of a layout cannot be mistaken: what is inside parentheses ends where it should, and a
further row does not look like the end of the table. -/
structure Layout.Clear (layout : Layout) : Prop where
  ends : ∀ level rest, Ends (layout.outer level ++ ')' :: rest)
  rows : ∀ level rest rest',
    ',' :: layout.beforeRow level ++ rest ≠ layout.afterRows level ++ '\x7d' :: rest'

theorem clear_compact : Layout.compact.Clear := by
  refine ⟨fun level rest => ?_, fun level rest rest' h => ?_⟩
  · simp [Ends, Layout.compact]
  · simp [Layout.compact] at h

theorem clear_spread : Layout.spread.Clear := by
  refine ⟨fun level rest => ?_, fun level rest rest' h => ?_⟩
  · simp [Ends, Layout.spread]
  · have hindent : (indent (level + 1)).toList = (indent level).toList ++ [' ', ' ', ' ', ' '] := by
      rw [indent, indent, String.toList_ofList, String.toList_ofList, Nat.mul_add,
        ← List.replicate_append_replicate]
      rfl
    simp [Layout.spread, hindent] at h

/-- The mark behind the label in front, which tells the kind of a listing. -/
def mark? : Listing → Option Char
  | .label _ => none
  | .text _ => some '\"'
  | .tagged _ _ => some '('
  | .table _ _ => some ' '

section

variable {layout : Layout} {level : Nat} {listing other : Listing} {rest rest' : List Char}

theorem head?_body (layout : Layout) (level : Nat) (listing : Listing) (rest : List Char) :
    (layout.body level listing ++ rest).head? = listing.mark?.or rest.head? := by
  cases listing <;> simp [Layout.body, mark?, quote]

theorem not_word_of_body (hrest : Ends rest) :
    ∀ c ∈ (layout.body level listing ++ rest).head?, isWordMark c = false := by
  rw [head?_body]
  intro c hc
  cases listing with
  | label name =>
    rcases hrest c hc with rfl | rfl
    · decide
    · decide
  | text value => cases hc; decide
  | tagged name inside => cases hc; decide
  | table name entries => cases hc; decide

theorem not_ends_of_mark? {c : Char} (h : listing.mark? = some c) : ¬ (c = ')' ∨ c = ',') := by
  cases listing with
  | label name => cases h
  | text value => cases h; decide
  | tagged name inside => cases h; decide
  | table name entries => cases h; decide

theorem mark?_eq_of_body (hrest : Ends rest) (hrest' : Ends rest')
    (h : layout.body level listing ++ rest = layout.body level other ++ rest') :
    listing.mark? = other.mark? := by
  have hhead := congrArg List.head? h
  rw [head?_body, head?_body] at hhead
  cases hmark : listing.mark? with
  | none =>
    cases hmark' : other.mark? with
    | none => rfl
    | some c =>
      rw [hmark, hmark', Option.none_or, Option.some_or] at hhead
      exact absurd (hrest c hhead) (not_ends_of_mark? hmark')
  | some c =>
    cases hmark' : other.mark? with
    | none =>
      rw [hmark, hmark', Option.none_or, Option.some_or] at hhead
      exact absurd (hrest' c hhead.symm) (not_ends_of_mark? hmark)
    | some d =>
      rw [hmark, hmark', Option.some_or, Option.some_or] at hhead
      exact hhead

theorem Labelled.all_front (h : listing.Labelled) : listing.front.all isWordMark = true := by
  cases h with
  | label h => exact h
  | text => rfl
  | tagged h => exact h
  | table h => exact h

/-- The fronts are words and what follows goes on with no word, so each part is the same. -/
theorem Labelled.parts_eq (hlisting : listing.Labelled) (hother : other.Labelled)
    (hrest : Ends rest) (hrest' : Ends rest')
    (h : listing.front ++ (layout.body level listing ++ rest) =
      other.front ++ (layout.body level other ++ rest')) :
    listing.front = other.front ∧
      layout.body level listing ++ rest = layout.body level other ++ rest' :=
  class_append_inj hlisting.all_front hother.all_front (not_word_of_body hrest)
    (not_word_of_body hrest') h

theorem rows_cons_cons (layout : Layout) (level : Nat) (entry next : String × String)
    (entries : List (String × String)) :
    layout.rows level (entry :: next :: entries) =
      (row entry).toList ++
        (',' :: layout.beforeRow level ++ layout.rows level (next :: entries)) := by
  simp [Layout.rows, List.intercalate_cons_cons]

theorem rows_singleton (layout : Layout) (level : Nat) (entry : String × String) :
    layout.rows level [entry] = (row entry).toList := by
  simp [Layout.rows]

theorem rows_append_inj (hlayout : layout.Clear) {entry entry' : String × String}
    {entries entries' : List (String × String)}
    (hrows : ∀ e ∈ entry :: entries, IsWord e.1) (hrows' : ∀ e ∈ entry' :: entries', IsWord e.1)
    (h : layout.rows level (entry :: entries) ++ (layout.afterRows level ++ '\x7d' :: rest) =
      layout.rows level (entry' :: entries') ++ (layout.afterRows level ++ '\x7d' :: rest')) :
    entry :: entries = entry' :: entries' ∧ rest = rest' := by
  rw [List.forall_mem_cons] at hrows hrows'
  induction entries generalizing entry entry' entries' with
  | nil =>
    cases entries' with
    | nil =>
      rw [rows_singleton, rows_singleton] at h
      obtain ⟨rfl, hend⟩ := row_append_inj hrows.1 hrows'.1 h
      exact ⟨rfl, (List.cons.inj (List.append_cancel_left hend)).2⟩
    | cons next entries' =>
      rw [rows_singleton, rows_cons_cons, List.append_assoc, List.append_assoc] at h
      exact absurd (row_append_inj hrows.1 hrows'.1 h).2.symm (hlayout.rows level _ _)
  | cons next entries ih =>
    rw [rows_cons_cons, List.append_assoc, List.append_assoc] at h
    cases entries' with
    | nil =>
      rw [rows_singleton] at h
      exact absurd (row_append_inj hrows.1 hrows'.1 h).2 (hlayout.rows level _ _)
    | cons next' entries' =>
      rw [rows_cons_cons, List.append_assoc, List.append_assoc] at h
      obtain ⟨rfl, hnext⟩ := row_append_inj hrows.1 hrows'.1 h
      obtain ⟨hentries, hend⟩ := ih (List.forall_mem_cons.mp hrows.2)
        (List.forall_mem_cons.mp hrows'.2) (List.append_cancel_left hnext)
      exact ⟨congrArg (entry :: ·) hentries, hend⟩

/-- **A listing is known, and so is where it ends**, once its label is read. -/
theorem body_append_inj (hlayout : layout.Clear) (hlisting : listing.Labelled)
    (hother : other.Labelled) (hrest : Ends rest) (hrest' : Ends rest')
    (hfront : listing.front = other.front)
    (hbody : layout.body level listing ++ rest = layout.body level other ++ rest') :
    listing = other ∧ rest = rest' := by
  -- The marks behind the fronts leave two listings of one kind.
  have hmark := mark?_eq_of_body hrest hrest' hbody
  induction hlisting generalizing level other rest rest' with
  | label =>
    cases hother with
    | label => exact ⟨congrArg Listing.label (String.toList_inj.mp hfront), hbody⟩
    | text => cases hmark
    | tagged => cases hmark
    | table => cases hmark
  | text value =>
    cases hother with
    | label => cases hmark
    | text value' =>
      obtain ⟨rfl, hend⟩ := quote_append_inj hbody
      exact ⟨rfl, hend⟩
    | tagged => cases hmark
    | table => cases hmark
  | @tagged name inside hname hinside ih =>
    cases hother with
    | label => cases hmark
    | text => cases hmark
    | @tagged name' inside' hname' hinside' =>
      obtain rfl : name = name' := String.toList_inj.mp hfront
      simp only [Layout.body, List.append_assoc, List.cons_append, List.nil_append,
        List.cons.injEq, true_and] at hbody
      have hends := hlayout.ends level
      obtain ⟨hfront', hbody'⟩ := hinside.parts_eq hinside' (hends rest) (hends rest')
        (List.append_cancel_left hbody)
      have hmark' := mark?_eq_of_body (hends rest) (hends rest') hbody'
      obtain ⟨rfl, hend⟩ := ih hinside' (hends rest) (hends rest') hfront' hbody' hmark'
      exact ⟨rfl, (List.cons.inj (List.append_cancel_left hend)).2⟩
    | table => cases hmark
  | @table name entries hname hrows hne =>
    cases hother with
    | label => cases hmark
    | text => cases hmark
    | tagged => cases hmark
    | @table name' entries' hname' hrows' hne' =>
      obtain rfl : name = name' := String.toList_inj.mp hfront
      simp only [Layout.body, List.append_assoc, List.cons_append, List.nil_append,
        List.cons.injEq, true_and] at hbody
      obtain ⟨entry, tail, rfl⟩ := List.exists_cons_of_ne_nil hne
      obtain ⟨entry', tail', rfl⟩ := List.exists_cons_of_ne_nil hne'
      obtain ⟨hentries, hend⟩ := rows_append_inj hlayout hrows hrows'
        (List.append_cancel_left hbody)
      rw [hentries]
      exact ⟨rfl, hend⟩

/-- A listing with words for labels is known by how a clear layout writes it. -/
theorem layout_injective (hlayout : layout.Clear) (hlisting : listing.Labelled)
    (hother : other.Labelled)
    (h : listing.front ++ layout.body level listing = other.front ++ layout.body level other) :
    listing = other := by
  have hend : Ends [] := nofun
  rw [← List.append_nil (layout.body level listing),
    ← List.append_nil (layout.body level other)] at h
  obtain ⟨hfront, hbody⟩ := hlisting.parts_eq hother hend hend h
  exact (body_append_inj hlayout hlisting hother hend hend hfront hbody).1

end

theorem line_injective {listing other : Listing} (hlisting : listing.Labelled)
    (hother : other.Labelled) (h : listing.line = other.line) : listing = other := by
  rw [← String.toList_inj, toList_line listing 0, toList_line other 0] at h
  exact layout_injective clear_compact hlisting hother h

theorem lines_injective {listing other : Listing} (hlisting : listing.Labelled)
    (hother : other.Labelled) (h : listing.lines = other.lines) : listing = other := by
  rw [lines, lines, ← String.toList_inj, toList_linesAt hlisting, toList_linesAt hother] at h
  exact layout_injective clear_spread hlisting hother h

end Listing

/-! ### What is listed -/

open Listing

theorem Field.isWord_rowLabel (field : Field) : IsWord field.rowLabel := by
  cases field <;> decide

theorem Form.labelled_table (form : Form) {name : String} (h : IsWord name) :
    (Listing.table name form.rows).Labelled := by
  refine .table h (fun entry hentry => ?_) (by simp [Form.rows, Field.all])
  obtain ⟨field, -, rfl⟩ := List.mem_map.mp hentry
  exact field.isWord_rowLabel

theorem Form.rows_injective {f g : Form} (h : f.rows = g.rows) : f = g := by
  apply Form.ext_get
  intro field
  exact (Prod.mk.inj (List.map_inj_left.mp h field (Field.mem_all field))).2

theorem Form.labelled_listing (form : Form) : form.listing.Labelled :=
  form.labelled_table (by decide)

theorem Form.listing_injective {f g : Form} (h : f.listing = g.listing) : f = g :=
  rows_injective (Listing.table.inj h).2

theorem Field.labelled_listing (field : Field) : field.listing.Labelled := by
  cases field <;> exact .label (by decide)

theorem Field.listing_injective {field other : Field} (h : field.listing = other.listing) :
    field = other := by
  cases field <;> cases other <;> simp [Field.listing] at h ⊢

theorem Rejection.labelled_listing (cause : Rejection) : cause.listing.Labelled := by
  cases cause with
  | missing field => exact .tagged (by decide) field.labelled_listing
  | airportCode text => exact .tagged (by decide) (.text text)
  | flightNumber text => exact .tagged (by decide) (.text text)

theorem Rejection.listing_injective {cause other : Rejection} (h : cause.listing = other.listing) :
    cause = other := by
  cases cause <;> cases other <;> simp only [Rejection.listing, Listing.tagged.injEq,
    String.reduceEq, false_and, true_and] at h
  case missing.missing field field' => rw [Field.listing_injective h]
  case airportCode.airportCode text text' => rw [Listing.text.inj h]
  case flightNumber.flightNumber text text' => rw [Listing.text.inj h]

theorem Verdict.labelled_listing (verdict : Verdict) : verdict.listing.Labelled := by
  cases verdict with
  | issued pass => exact .tagged (by decide) (pass.toForm.labelled_table (by decide))
  | rejected cause => exact .tagged (by decide) cause.labelled_listing

theorem Verdict.listing_injective {verdict other : Verdict} (h : verdict.listing = other.listing) :
    verdict = other := by
  cases verdict with
  | issued pass =>
    cases other with
    | issued pass' =>
      have hform := Form.rows_injective (Listing.table.inj (Listing.tagged.inj h).2).2
      rw [← Pass.ofForm_toForm pass, hform, Pass.ofForm_toForm]
    | rejected cause => exact absurd (Listing.tagged.inj h).1 (by decide)
  | rejected cause =>
    cases other with
    | issued pass => exact absurd (Listing.tagged.inj h).1 (by decide)
    | rejected cause' => rw [Rejection.listing_injective (Listing.tagged.inj h).2]

/-- **Listings are unambiguous.** Forms are the same when they are listed the same, on one line or
over several, and so are verdicts, the pass or the rejection with all its texts. For this it makes
no difference which characters count as unseen. -/
theorem listings_unambiguous :
    (∀ f g : Form, f.listing.line = g.listing.line ↔ f = g) ∧
    (∀ f g : Form, f.listing.lines = g.listing.lines ↔ f = g) ∧
    (∀ v w : Verdict, v.listing.line = w.listing.line ↔ v = w) ∧
    (∀ v w : Verdict, v.listing.lines = w.listing.lines ↔ v = w) := by
  refine ⟨fun f g => ⟨fun h => ?_, congrArg fun form : Form => form.listing.line⟩,
    fun f g => ⟨fun h => ?_, congrArg fun form : Form => form.listing.lines⟩,
    fun v w => ⟨fun h => ?_, congrArg fun verdict : Verdict => verdict.listing.line⟩,
    fun v w => ⟨fun h => ?_, congrArg fun verdict : Verdict => verdict.listing.lines⟩⟩
  · exact Form.listing_injective (line_injective f.labelled_listing g.labelled_listing h)
  · exact Form.listing_injective (lines_injective f.labelled_listing g.labelled_listing h)
  · exact Verdict.listing_injective (line_injective v.labelled_listing w.labelled_listing h)
  · exact Verdict.listing_injective (lines_injective v.labelled_listing w.labelled_listing h)

end Boarding
