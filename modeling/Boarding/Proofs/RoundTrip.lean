import Boarding.Document.Printer
import Boarding.Proofs.Contract
import Boarding.Proofs.Issuing

/-!
Written passes are received back.

What is written for a pass is a document of the pass's own form, in every style whose gaps are
space, and the form of a sound pass is issued as that very pass. So nothing is lost on the way,
although the texts are escaped, read, trimmed and checked again.

* `isDocument_writeChars`: a written pass is a document of its form.
* `receive_write_of_sound`: a sound pass is received as itself, in every style.
* `receive_write_of_issued`: the round trip for issued passes in the two styles that are written.
-/

namespace Boarding.Document

/-! ### Written objects -/

/-- A style puts nothing but space between the marks. -/
structure Style.Spaced (style : Style) : Prop where
  beforeKey : IsSpaces style.beforeKey
  afterColon : IsSpaces style.afterColon
  beforeEnd : IsSpaces style.beforeEnd

theorem spaced_compact : Style.compact.Spaced := ⟨isSpaces_nil, isSpaces_nil, isSpaces_nil⟩

theorem spaced_pretty : Style.pretty.Spaced := ⟨by decide, by decide, by decide⟩

theorem member_write {style : Style} (h : style.Spaced) (key value : String) :
    Member Quoted (Literal.write key ++ [] ++ ':' :: style.afterColon ++ Literal.write value)
      (key, value) :=
  ⟨Literal.write key, [], style.afterColon, Literal.write value, quoted_write key, isSpaces_nil,
    h.afterColon, quoted_write value, rfl⟩

/-- The comma that stands before an item for which one is due. -/
def dueComma (due : Bool) : List Char := if due then [','] else []

theorem gap_dueComma {spaces : List Char} (h : IsSpaces spaces) (due : Bool) :
    Gap due (dueComma due ++ spaces) := by
  cases due with
  | false => exact .first h
  | true => exact .later isSpaces_nil h

/-- The written members are items, whether the object starts with them or goes on with them. -/
theorem items_writeMembers {style : Style} (h : style.Spaced) (pass : Pass) (field : Field)
    (fields : List Field) (due : Bool) :
    Items (Member Quoted) due
      (dueComma due ++ writeMembers style pass (field :: fields) ++ style.beforeEnd)
      ((field :: fields).map fun field => (field.name, pass.get field)) := by
  have hgap := gap_dueComma h.beforeKey due
  have hmember := member_write h field.name (pass.get field)
  induction fields generalizing field due with
  | nil =>
    have hitems := Items.item hgap hmember (.done h.beforeEnd)
    simpa [writeMembers, writeMember] using hitems
  | cons next fields ih =>
    have hrest := ih next true (gap_dueComma h.beforeKey true)
      (member_write h next.name (pass.get next))
    have hitems := Items.item hgap hmember hrest
    simpa [writeMembers, writeMember, dueComma] using hitems

theorem isDocument_writeChars {style : Style} (h : style.Spaced) (pass : Pass) :
    IsDocument pass.toForm (writeChars style pass) := by
  have hitems := items_writeMembers h pass .passengerName
    [.airportCode, .flightNumber, .gateNumber] false
  have hdocument : IsDocument pass.toForm _ := .object hitems (List.Perm.refl _)
  simpa [writeChars, Field.all, dueComma] using hdocument

theorem carries_write {style : Style} (h : style.Spaced) (pass : Pass) :
    Carries (write style pass) pass.toForm [] := by
  refine ⟨[], writeChars style pass, isSpaces_nil, isDocument_writeChars h pass, ?_⟩
  simp [write]

/-! ### The round trip -/

theorem receive_write_of_sound {style : Style} (hstyle : style.Spaced) {pass : Pass}
    (hpass : pass.Sound) : receive (write style pass) = ⟨.pass pass, [.issued]⟩ := by
  have hverdict : issue pass.toForm = .issued pass := issue_toForm_iff.mpr hpass
  have hconclude : conclude (.issued pass) [] = .pass pass :=
    conclude_eq_pass_iff.mpr ⟨rfl, isSpaces_nil⟩
  rw [receive_of_carries (carries_write hstyle pass), hverdict, hconclude]
  rfl

/-- **The round trip.** A pass that was issued, written compactly or prettily, is received as a pass
with the same four texts; receiving it leaves one event, that a pass was issued; and the pass
received is written, compactly, as the very same text as the pass sent. -/
theorem receive_write_of_issued {form : Form} {pass : Pass} (h : issue form = .issued pass) :
    ∀ style ∈ [Style.compact, Style.pretty], ∃ received : Pass,
      (receive (write style pass)).outcome = .pass received ∧
      (∀ field, received.get field = pass.get field) ∧
      (receive (write style pass)).events.map Event.line = ["TRACE boarding pass built"] ∧
      write .compact received = write .compact pass := by
  intro style hstyle
  have hspaced : style.Spaced := by
    rcases List.mem_cons.mp hstyle with rfl | hpretty
    · exact spaced_compact
    · rw [List.mem_singleton.mp hpretty]
      exact spaced_pretty
  rw [receive_write_of_sound hspaced (sound_of_issue h)]
  exact ⟨pass, rfl, fun _ => rfl, rfl, rfl⟩

/-- A pass with quotes, reverse solidi, a control character and the spelling of an escape on it. -/
def markedPass : Pass := ⟨"\"\\u0041\x01\"", "adl", "QF1", "\\"⟩

theorem receive_write_of_issued_marked :
    issue ⟨" \"\\u0041\x01\" ", "adl\t", "QF1", "\\\u3000"⟩ = .issued markedPass ∧
      ∀ style ∈ [Style.compact, Style.pretty], ∃ received : Pass,
        (receive (write style markedPass)).outcome = .pass received ∧
        (∀ field, received.get field = markedPass.get field) ∧
        (receive (write style markedPass)).events.map Event.line =
          ["TRACE boarding pass built"] ∧
        write .compact received = write .compact markedPass := by
  have h : issue ⟨" \"\\u0041\x01\" ", "adl\t", "QF1", "\\\u3000"⟩ = .issued markedPass := by
    decide +kernel
  exact ⟨h, receive_write_of_issued h⟩

end Boarding.Document
