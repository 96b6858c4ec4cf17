import TensorLang.Proofs.Words
import TensorLang.Report

set_option autoImplicit false

namespace TensorLang

theorem drop_front (front rest : String) :
    ∃ slice, (front ++ rest).dropPrefix? front = some slice ∧ slice.copy = rest := by
  cases found : (front ++ rest).dropPrefix? front with
  | none =>
      rw [String.dropPrefix?_eq_dropPrefix?_toSlice, String.Slice.dropPrefix?_eq_none_iff] at found
      simp at found
  | some slice =>
      have split := String.eq_append_of_dropPrefix?_string_eq_some found
      exact ⟨slice, rfl, ((String.append_right_inj front).mp split).symm⟩

theorem Fault.text_at_eq (fault : Fault) (position : String) :
    fault.textAt position = position ++ ": " ++ fault.message := by
  unfold textAt message
  -- Both sides are brought to the left. The colon is then joined to the words behind it.
  cases fault <;> simp only [← String.append_assoc] <;>
    rw [@String.append_assoc position ": "] <;> rfl

namespace TypeError

theorem message_eq (error : TypeError) : error.message = error.fault.message := by
  obtain ⟨slice, cut, rest⟩ := drop_front (error.span.position ++ ": ") error.fault.message
  rw [message, text, error.fault.text_at_eq, cut]
  exact rest

theorem text_eq (error : TypeError) :
    error.text = error.span.position ++ ": " ++ error.message := by
  rw [message_eq, text, Fault.text_at_eq]

theorem diagnostic_text (error : TypeError) : error.diagnostic.text = error.text := by
  rw [text_eq]
  rfl

-- A position ends at the second colon, where the message begins.
theorem text_inj {error other : TypeError} (same : error.text = other.text) :
    error.span.startLine = other.span.startLine ∧
      error.span.startColumn = other.span.startColumn ∧ error.message = other.message := by
  have colon : ':'.isDigit = false := rfl
  rw [error.text_eq, other.text_eq, ← String.toList_inj] at same
  simp only [Span.position, String.toList_append, List.append_assoc] at same
  obtain ⟨lines, behind⟩ := mark_splits (toString_avoids error.span.startLine colon)
    (toString_avoids other.span.startLine colon) same
  obtain ⟨columns, messages⟩ := mark_splits (toString_avoids error.span.startColumn colon)
    (toString_avoids other.span.startColumn colon) behind
  exact ⟨toString_inj (String.toList_inj.mp lines), toString_inj (String.toList_inj.mp columns),
    String.toList_inj.mp (List.cons.inj messages).2⟩

theorem text_eq_iff (error other : TypeError) :
    error.text = other.text ↔ error.span.startLine = other.span.startLine ∧
      error.span.startColumn = other.span.startColumn ∧ error.message = other.message := by
  refine ⟨text_inj, ?_⟩
  rintro ⟨lines, columns, messages⟩
  rw [text_eq, text_eq, Span.position, Span.position, lines, columns, messages]

end TypeError

theorem joined_texts (separator first : String) (rest : List String) :
    separator.intercalate (first :: rest) = first ++ String.join (rest.map (separator ++ ·)) := by
  induction rest generalizing first with
  | nil => simp
  | cons next later ih =>
      rw [String.intercalate_cons_cons, ih, List.map_cons, String.join_cons, String.append_assoc,
        String.append_assoc]

namespace Report

theorem ensure_ok_iff (report : Report) : report.ensureNoErrors = .ok () ↔ report.errors = [] := by
  rw [ensureNoErrors, hasErrors]
  cases report.errors with
  | nil => exact iff_of_true rfl rfl
  | cons first rest => exact iff_of_false (fun passed => nomatch passed) (List.cons_ne_nil _ _)

theorem ensure_errors (first : TypeError) (rest : List TypeError) (entries : List Entry)
    (table : SymbolTable) :
    (Report.mk (first :: rest) entries table).ensureNoErrors =
      .error (first.text ++ String.join (rest.map fun error => "; " ++ error.text)) := by
  have joined := joined_texts "; " first.text (rest.map TypeError.text)
  rw [List.map_map] at joined
  exact congrArg Except.error joined

theorem diagnostic_texts (report : Report) :
    report.diagnostics.map Diagnostic.text = report.errors.map TypeError.text := by
  rw [diagnostics, List.map_map]
  exact List.map_congr_left fun error _ => error.diagnostic_text

end Report

/--
The text of an error is its line, its column and its message, and says no more and no less: errors
of one text have the same position and the same message. The message stays as it is when the error
is moved to another place, even if it looks like a text with a position itself. A diagnostic has the
text of its error, and a report without errors is the only one that passes. Any other fails with the
texts of its errors, in the order in which they were reported.
-/
theorem error_text_splits (error : TypeError) :
    error.text = toString error.span.startLine ++ ":" ++ toString error.span.startColumn ++ ": " ++
        error.message ∧
      (∀ other : TypeError, error.text = other.text ↔
        error.span.startLine = other.span.startLine ∧
          error.span.startColumn = other.span.startColumn ∧ error.message = other.message) ∧
      (∀ span, TypeError.message ⟨span, error.fault⟩ = error.message) ∧
      (error.diagnostic.text = error.text ∧
        error.diagnostic.startLine = error.span.startLine ∧
        error.diagnostic.startColumn = error.span.startColumn ∧
        error.diagnostic.endLine = error.span.endLine ∧
        error.diagnostic.endColumn = error.span.endColumn) ∧
      (∀ report : Report, (report.ensureNoErrors = .ok () ↔ report.errors = []) ∧
        report.diagnostics.map Diagnostic.text = report.errors.map TypeError.text) ∧
      ∀ rest entries table, (Report.mk (error :: rest) entries table).ensureNoErrors =
        .error (error.text ++ String.join (rest.map fun later => "; " ++ later.text)) := by
  refine ⟨error.text_eq, error.text_eq_iff, ?_, ⟨error.diagnostic_text, rfl, rfl, rfl, rfl⟩, ?_, ?_⟩
  · intro span
    rw [TypeError.message_eq, TypeError.message_eq]
  · intro report
    exact ⟨report.ensure_ok_iff, report.diagnostic_texts⟩
  · intro rest entries table
    exact Report.ensure_errors error rest entries table

example :
    let error : TypeError := ⟨.point 1 5, .mismatch (.words "1:5: cannot print")⟩
    error.text = "1:5: 1:5: cannot print" ∧ error.message = "1:5: cannot print" := by
  decide +kernel

end TensorLang
