/-
AlertConformance.Text.Limits — limits on what is read and written.

An integer has a decimal text up to a number of digits, which is the same
for reading and for writing. A longer one exists as a number, but nothing
can show it: not a message, not the text of a label. A payload may hold such
an integer, so showing its values may fail. The times, counts and durations
of the library itself are written without a check: a time that has been read
is within the limit (`Payload.isWritable_of_timestamp`,
`Payload.isWritable_of_milliseconds`), and a duration within it has no count
beyond it (`isWritable_of_mem_durationParts`).

Nested values are followed up to a depth, which depends on the interpreter
and on how much of its stack is in use; so it is a parameter of everything
that reads JSON or shows a value.

* `maxIntegerDigits`, `isWritable` — integers with a text.
* `NestingLimits` — how deep nested values are followed.
-/
namespace AlertConformance

/-! ## Integers -/

/-- The most decimal digits of an integer, read or written. -/
def maxIntegerDigits : Nat := 4300

/-- Whether an integer has few enough digits to be written. -/
def isWritable (n : Int) : Bool := n.natAbs < Nat.pow 10 maxIntegerDigits

/-! ## Nested values -/

/-- How deep arrays and objects may be nested in JSON text that is read,
and in a value that is shown. What has been read can be shown. -/
class NestingLimits where
  reading : Nat
  showing : Nat
  reading_lt_showing : reading < showing

/-- The limits of an interpreter whose stack is nearly empty. -/
instance : NestingLimits := ⟨990, 991, by decide⟩

end AlertConformance
