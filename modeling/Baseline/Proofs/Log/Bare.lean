import Baseline.Proofs.Log.Header
import Baseline.Proofs.Log.ReadBack

/-!
# Bare messages

A record for which there is no output is written as its bare message.  That is never what an output
would have written: a plain line begins with the time, and a JSON line is longer than the message
that it holds, unless a report follows the message, which then stands on a line of its own.

* `LogEvent.Accepted.exists_formatted` : when the line of a record can be formed.
* `LogEvent.Accepted.bareLine_ne_formatted` : **a bare message is a line of no form.**
-/

set_option autoImplicit false

namespace Baseline

/-! ## The texts of lines -/

namespace Json

theorem stringChar_ne_nil (asciiOnly : Bool) (c : Char) : stringChar asciiOnly c ≠ [] := by
  rw [stringChar]
  iterate 7 (split; · exact List.cons_ne_nil _ _)
  split
  · rw [pointEscape]
    split <;> exact List.cons_ne_nil _ _
  · exact List.cons_ne_nil _ _

/-- Between its quotes a text is longer than by itself. -/
theorem length_lt_stringChars (asciiOnly : Bool) (s : String) :
    s.toList.length < (stringChars asciiOnly s).length := by
  have hbody : ∀ cs : List Char, cs.length ≤ (cs.flatMap (stringChar asciiOnly)).length := by
    intro cs
    induction cs with
    | nil => exact le_rfl
    | cons c rest ih =>
      have hc := List.length_pos_iff.mpr (stringChar_ne_nil asciiOnly c)
      rw [List.flatMap_cons, List.length_append, List.length_cons]
      omega
  have hs := hbody s.toList
  rw [stringChars, List.length_append, List.length_cons]
  omega

theorem length_le_renderFields (style : Style) :
    ∀ {fields : List (String × Json)} {f : String × Json}, f ∈ fields →
      (renderChars style f.2).length ≤ (renderFields style fields).length
  | [_], f, hf => by
    obtain rfl := List.mem_singleton.mp hf
    rw [renderFields, List.length_append]
    omega
  | g :: k :: rest, f, hf => by
    rw [renderFields]
    · simp only [List.length_append]
      rcases List.mem_cons.mp hf with rfl | hf
      · omega
      · have hrest := length_le_renderFields style hf
        omega
    · exact List.cons_ne_nil k rest

end Json

namespace LogEvent

open Json

variable {now : Moment} {e : LogEvent} {message line : String} {form : LineForm}

/-- Whether everything that the fields add can be written in a form. -/
def Writable (e : LogEvent) (form : LineForm) : Prop :=
  form = .json → ∀ name v, added? e.attributes name e.fields = some v → ∃ j, document v = .ok j

theorem Accepted.jsonLine_eq_ok (h : Accepted e.fields)
    (hmessage : e.messageText = .ok message) : e.jsonLine now = .ok line ↔
      ∃ j, document (.ofFields (e.table now message e.ownReport)) = .ok j ∧
        j.render style = line := by
  rw [jsonLine]
  constructor
  · intro hline
    obtain ⟨j, hj, hline⟩ := bind_eq_ok hline
    obtain ⟨message', hmessage', hj⟩ := h.json_eq_ok.mp hj
    cases hmessage.symm.trans hmessage'
    cases hline
    exact ⟨j, hj, rfl⟩
  · rintro ⟨j, hj, rfl⟩
    rw [bind_of_ok (h.json_eq_ok.mpr ⟨message, hmessage, hj⟩)]
    rfl

/-- What stands before the message of a plain line. -/
def plainLead (now : Moment) (e : LogEvent) : String :=
  now.plain ++ partSeparator ++ e.logger ++ partSeparator ++ e.level.label ++ partSeparator

theorem getLast?_plainLead (now : Moment) (e : LogEvent) :
    (e.plainLead now).toList.getLast? = some ' ' := by
  rw [plainLead, String.toList_append, List.getLast?_append]
  rfl

theorem Accepted.plainLine_eq (h : Accepted e.fields) (hmessage : e.messageText = .ok message) :
    e.plainLine now = .ok (withReport (e.plainLead now ++ message) e.ownReport) := by
  rw [plainLine, hmessage, h.reportText?]
  rfl

theorem Accepted.bareLine_eq (h : Accepted e.fields) (hmessage : e.messageText = .ok message) :
    e.bareLine = .ok (withReport message e.ownReport) := by
  rw [bareLine, hmessage, h.reportText?]
  rfl

/-- A line can be formed if and only if everything that the fields add can be written. -/
theorem Accepted.exists_formatted (h : Accepted e.fields) (hmessage : e.messageText = .ok message)
    (now : Moment) : (∃ line, Logging.formatted now e form = .ok line) ↔ e.Writable form := by
  cases form with
  | plain => exact iff_of_true ⟨_, h.plainLine_eq hmessage⟩ fun hform => by cases hform
  | json =>
    simp only [Logging.formatted, h.jsonLine_eq_ok hmessage]
    constructor
    · rintro ⟨_, j, hj, -⟩ -
      exact h.exists_document.mp ⟨j, hj⟩
    · intro hadded
      obtain ⟨j, hj⟩ := h.exists_document.mpr (hadded rfl)
      exact ⟨_, j, hj, rfl⟩

/-! ## A bare message is no line -/

/-- A report that is not empty stands on a line of its own. -/
theorem newline_mem_withReport (line : String) {text : String} (h : text ≠ "") :
    '\n' ∈ (withReport line (some text)).toList := by
  rw [withReport, if_neg h]
  split
  · rename_i hlast
    rw [String.toList_append, List.mem_append]
    exact .inl (List.mem_of_getLast? hlast)
  · simp

theorem withReport_append {lead : String} (h : lead.toList.getLast? = some ' ')
    (report : Option String) :
    withReport (lead ++ line) report = lead ++ withReport line report := by
  have hlast : (lead ++ line).toList.getLast? = some '\n' ↔ line.toList.getLast? = some '\n' := by
    rw [String.toList_append, List.getLast?_append, h]
    cases line.toList.getLast? <;> simp
  cases report with
  | none => rfl
  | some text =>
    simp only [withReport, hlast]
    split
    · rfl
    · split <;> simp only [String.append_assoc]

/-- The JSON line of a record is longer than its message. -/
theorem Accepted.length_lt_jsonLine (h : Accepted e.fields)
    (hmessage : e.messageText = .ok message) (hline : e.jsonLine now = .ok line) :
    message.toList.length < line.toList.length := by
  obtain ⟨j, hj, rfl⟩ := (h.jsonLine_eq_ok hmessage).mp hline
  obtain ⟨fields, rfl, hfields⟩ := document_ofFields_eq_ok.mp hj
  have hget : (e.table now message e.ownReport).get? "message" = some (.text message) := by
    rw [h.get?_table, added?_of_ownField (by decide)]
    rfl
  obtain ⟨j, hj, hdocument⟩ := get?_of_written hfields hget
  cases hdocument
  have hshort := length_lt_stringChars style.asciiOnly message
  have hfield := length_le_renderFields style (Table.mem_of_get? hj)
  rw [renderChars] at hfield
  rw [render, String.toList_ofList, renderChars, List.length_append, List.length_cons]
  omega

/-- **A bare message is a line of no form.** -/
theorem Accepted.bareLine_ne_formatted (h : Accepted e.fields)
    (hmessage : e.messageText = .ok message) (hline : Logging.formatted now e form = .ok line) :
    e.bareLine ≠ .ok line := by
  rw [h.bareLine_eq hmessage, Ne, Except.ok.injEq]
  intro heq
  cases form with
  | plain =>
    rw [Logging.formatted, h.plainLine_eq hmessage, withReport_append (getLast?_plainLead now e),
      Except.ok.injEq, ← heq] at hline
    have hlength := congrArg (fun s => s.toList.length) hline
    simp only [String.toList_append, List.length_append] at hlength
    have hlead : (e.plainLead now).toList ≠ [] := fun hnil => by
      have hlast := getLast?_plainLead now e
      rw [hnil] at hlast
      cases hlast
    have hpos := List.length_pos_iff.mpr hlead
    omega
  | json =>
    have hlong := h.length_lt_jsonLine hmessage hline
    cases hreport : e.ownReport with
    | none =>
      rw [hreport] at heq
      rw [← heq] at hlong
      exact absurd hlong (lt_irrefl _)
    | some text =>
      rw [hreport] at heq
      by_cases htext : text = ""
      · rw [← heq, withReport] at hlong
        simp [htext] at hlong
      · obtain ⟨j, -, hj⟩ := (h.jsonLine_eq_ok hmessage).mp hline
        have hnewline := newline_mem_withReport message htext
        rw [heq, ← hj, render, String.toList_ofList] at hnewline
        exact (asciiLine_renderChars ascii_style j).not_mem_newline hnewline

end LogEvent

end Baseline
