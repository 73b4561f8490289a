/-
Statements of a script.

A script is cut at the semicolons that lie outside single quotes.  Every single
quote opens or closes a constant; a doubled quote closes one and opens the next,
so counting quotes is enough.  A text is balanced when it closes every constant
it opens and holds no semicolon outside them: putting it into a script neither
ends nor adds a statement.
-/
namespace Tablewright.Sql

/-- Cuts a text at the semicolons outside quotes; `quoted` says whether the text starts inside. -/
def splitStatements : (quoted : Bool) → List Char → List (List Char)
  | _, [] => [[]]
  | quoted, c :: rest =>
    if c = ';' && !quoted then [] :: splitStatements false rest
    else
      match splitStatements (if c = '\'' then !quoted else quoted) rest with
      | first :: others => (c :: first) :: others
      | [] => [[c]]

/-- The statements of a script, and last the text after the final semicolon. -/
def statements (script : String) : List String :=
  (splitStatements false script.toList).map String.ofList

/-- Whether a text closes every constant it opens and has no semicolon outside them. -/
def balancedFrom : (quoted : Bool) → List Char → Bool
  | quoted, [] => !quoted
  | quoted, c :: rest =>
    if c = '\'' then balancedFrom (!quoted) rest
    else (quoted || c != ';') && balancedFrom quoted rest

/-- Whether putting a text into a script leaves the statements around it as they are. -/
def Balanced (s : String) : Prop :=
  balancedFrom false s.toList = true

instance (s : String) : Decidable (Balanced s) :=
  inferInstanceAs (Decidable (balancedFrom false s.toList = true))

end Tablewright.Sql
