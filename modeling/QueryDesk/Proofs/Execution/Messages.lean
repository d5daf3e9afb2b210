import QueryDesk.Execution.Failure
import QueryDesk.Proofs.Text.Blank

/-!
# Messages of failed executions

Whatever an executor raises reaches the user as a failed execution.  Its message
is the text of the failure without the blanks around it, or a generic one where
nothing is left; so it is stripped and not blank, and taking it for the text of
another failed execution changes nothing.  A failed execution that is raised as
such is not wrapped again, and keeps its promise because it was made that way.

## Main results

* `executionMessage_eq` — what the message is, in the two cases.
* `Failure.WellMade.text_asExecution` — the message of whatever an executor raises.
-/

namespace QueryDesk.Execution

theorem executionMessage_eq (text : String) :
    executionMessage (some text) =
      if Text.isBlankText text then genericMessage else Text.strip text := by
  unfold executionMessage
  simp only [Option.getD_some, Text.strip_eq_empty_iff]

/-- A message is stripped. -/
theorem strip_executionMessage (text : String) :
    Text.strip (executionMessage (some text)) = executionMessage (some text) := by
  rw [executionMessage_eq]
  split
  · decide
  · exact Text.strip_strip text

/-- A message is not blank. -/
theorem isBlankText_executionMessage (text : String) :
    Text.isBlankText (executionMessage (some text)) = false := by
  rw [executionMessage_eq]
  by_cases hblank : Text.isBlankText text = true
  · rw [if_pos hblank]
    decide
  · rw [if_neg hblank, Text.isBlankText_strip]
    exact Bool.eq_false_iff.mpr hblank

/-- The message of a message is itself. -/
theorem executionMessage_idem (text : String) :
    executionMessage (some (executionMessage (some text))) = executionMessage (some text) := by
  have hblank : ¬ Text.isBlankText (executionMessage (some text)) = true := by
    simp [isBlankText_executionMessage]
  rw [executionMessage_eq (executionMessage (some text)), if_neg hblank, strip_executionMessage]

namespace Failure

/-- A failed execution has the message that its making gives it. -/
def WellMade (f : Failure) : Prop :=
  f.kind = .execution → f.text = executionMessage (some f.text)

theorem text_execution (text : String) :
    (Failure.execution text).text = executionMessage (some text) := by
  rw [Failure.execution, make, if_pos rfl]

/-- Every failure that is made is well made. -/
theorem wellMade_make (kind : FailureKind) (text : Option String) :
    (Failure.make kind text).WellMade := by
  intro hkind
  obtain rfl : kind = .execution := hkind
  have hmade : Failure.make .execution text = Failure.execution (text.getD "") := by
    cases text with
    | none => simp only [Failure.execution, make, executionMessage, Option.getD_none,
        Option.getD_some]
    | some text => simp only [Failure.execution, Option.getD_some]
  rw [hmade, text_execution, executionMessage_idem]

theorem kind_asExecution (f : Failure) : f.asExecution.kind = .execution := by
  unfold asExecution
  split
  · assumption
  · rfl

/-- The message of whatever an executor raises: a failed execution keeps its
own, and any other failure gets one from its text. -/
theorem text_asExecution (f : Failure) :
    f.asExecution.text =
      if f.kind = .execution then f.text else executionMessage (some f.text) := by
  unfold asExecution
  split
  · rfl
  · exact text_execution f.text

/-- Of a well-made failure it is the message of its text. -/
theorem WellMade.text_asExecution {f : Failure} (h : f.WellMade) :
    f.asExecution.text = executionMessage (some f.text) := by
  rw [Failure.text_asExecution]
  split
  · exact h ‹_›
  · rfl

end Failure

end QueryDesk.Execution
