/-
Digits and what strings of them denote.
-/
namespace Tablewright.Text

/-- The value of a decimal digit. -/
def digitValue (c : Char) : Nat :=
  c.toNat - '0'.toNat

/-- The value of a string of decimal digits. -/
def digitsValue (digits : List Char) : Nat :=
  digits.foldl (fun n c => 10 * n + digitValue c) 0

/-- The value of a hexadecimal digit. -/
def hexValue? (c : Char) : Option Nat :=
  if c.isDigit then some (digitValue c)
  else if 'a' ≤ c && c ≤ 'f' then some (c.toNat - 'a'.toNat + 10)
  else if 'A' ≤ c && c ≤ 'F' then some (c.toNat - 'A'.toNat + 10)
  else none

/-- The natural number that digits denote on top of `start`, when all are digits of the base. -/
def naturalFrom? (base start : Nat) : List Char → Option Nat
  | [] => some start
  | c :: rest => do
    let value ← hexValue? c
    if value < base then naturalFrom? base (base * start + value) rest else none

/-- The natural number that at least one digit denotes in a base of at most sixteen. -/
def natural? (base : Nat) (digits : List Char) : Option Nat :=
  if digits.isEmpty then none else naturalFrom? base 0 digits

end Tablewright.Text
