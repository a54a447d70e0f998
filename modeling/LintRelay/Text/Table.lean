/-!
# Tables written as text

A long table is written as rows of hexadecimal numbers: blanks part the numbers of a row and
semicolons the rows.
-/

namespace LintRelay.Text

/-- The value of a hexadecimal digit with capital letters. -/
def hexDigit (c : Char) : Nat := if c.isDigit then c.toNat - 0x30 else c.toNat - 0x37

def rows (lines : List String) : List (List Nat) :=
  (lines.flatMap (String.splitOn · ";")).map fun row =>
    (row.splitOn " ").map fun number => number.foldl (fun n c => n * 16 + hexDigit c) 0

end LintRelay.Text
