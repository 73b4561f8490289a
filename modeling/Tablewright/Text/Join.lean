/-
Texts one after the other, with a separator between them.
-/
namespace Tablewright.Text

/-- The texts with `separator` between any two neighbours. -/
def join (separator : String) : List String → String
  | [] => ""
  | [s] => s
  | s :: rest => s ++ separator ++ join separator rest

end Tablewright.Text
