/-
AlertConformance.Text.Blank — blanks and trimming.

A blank is any of the twenty-nine characters that Unicode (version 14)
counts as white space or as a separator of lines or records: more than
`Char.isWhitespace`, which knows four of them.
-/
namespace AlertConformance

/-- The blanks, as code points. -/
def blanks : List Nat := [
  0x9, 0xa, 0xb, 0xc, 0xd, 0x1c, 0x1d, 0x1e, 0x1f, 0x20, 0x85, 0xa0, 0x1680, 0x2000,
  0x2001, 0x2002, 0x2003, 0x2004, 0x2005, 0x2006, 0x2007, 0x2008, 0x2009, 0x200a,
  0x2028, 0x2029, 0x202f, 0x205f, 0x3000]

def isBlank (c : Char) : Bool := blanks.contains c.toNat

/-- Without the elements at both ends that `drop` picks. -/
def trimBy {α : Type} (drop : α → Bool) (elements : List α) : List α :=
  ((elements.dropWhile drop).reverse.dropWhile drop).reverse

/-- Without the blanks at both ends. -/
def trim (cs : List Char) : List Char := trimBy isBlank cs

/-- Every character that the core library calls white space is a blank. -/
theorem isBlank_of_isWhitespace {c : Char} (h : c.isWhitespace = true) : isBlank c = true := by
  simp only [Char.isWhitespace, Bool.or_eq_true, decide_eq_true_eq] at h
  rcases h with ((rfl | rfl) | rfl) | rfl <;> decide

end AlertConformance
