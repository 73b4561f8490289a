/-
The members of an enumeration, read back from the statement that creates its type.

A member is written as an SQL value: a text as a constant, so that whatever quotes,
commas and parentheses it holds stay inside, and a flag or a number as a bare word.
So the list is read as the members, in their order and one for each.  What tells a
text from a word is how it is written, and a flag's word from a number's is its first
letter; that two numbers have two texts is the only thing taken for granted here.
-/
import Tablewright.Proofs.Number
import Tablewright.Proofs.Script
import Tablewright.Proofs.Sql.Comparison
import Tablewright.Proofs.Sql.ValueList

namespace Tablewright

/-- What a reader of SQL finds where the literal is written as a value. -/
def Literal.token : Literal → Sql.Token
  | text value => .constant value
  | literal => .word literal.display

/-- Reads the list of values of the statement that creates the enumeration type of this name. -/
def Sql.enumValues? (name statement : String) : Option (List Token) := do
  let cs ← behind? ("CREATE TYPE " ++ name ++ " AS ENUM ").toList statement.toList
  let (tokens, rest) ← valueList? cs
  if rest = [';'] then some tokens else none

/-- No two numbers, one of each list, have the same text. -/
def TellNumbersApart (members others : List Literal) : Prop :=
  ∀ x y, .number x ∈ members → .number y ∈ others → x.text = y.text → x = y

/-! ### One member -/

theorem Sql.isWordChar_of_numeric {c : Char} (h : Numeric c) : isWordChar c = true := by
  rcases h with hdigit | hmark
  · have hquote : c ≠ '\'' := Text.ne_of_isDigit hdigit (by decide)
    have hblank : c ≠ ' ' := Text.ne_of_isDigit hdigit (by decide)
    have hcomma : c ≠ ',' := Text.ne_of_isDigit hdigit (by decide)
    have hopen : c ≠ '(' := Text.ne_of_isDigit hdigit (by decide)
    have hclose : c ≠ ')' := Text.ne_of_isDigit hdigit (by decide)
    simp [isWordChar, hquote, hblank, hcomma, hopen, hclose]
  · simp only [List.mem_cons, List.not_mem_nil, or_false] at hmark
    rcases hmark with rfl | rfl | rfl | rfl <;> rfl

namespace Literal

/-- **A member is read where it was written.** -/
theorem value?_sql (l : Literal) (rest : List Char) (h : Sql.EndsValue rest) :
    Sql.value? (l.sql.toList ++ rest) = some (l.token, rest) := by
  cases l with
  | text value => exact Sql.value?_quote value h
  | flag value =>
      cases value
      · exact Sql.value?_word (by decide) (by simp [sql, display, Sql.isWordChar]) h
      · exact Sql.value?_word (by decide) (by simp [sql, display, Sql.isWordChar]) h
  | number value =>
      exact Sql.value?_word value.text_ne_empty
        (fun c hc => Sql.isWordChar_of_numeric (value.numeric_text c hc)) h

/-- A flag is not written as any number is. -/
theorem display_flag_ne_text (value : Bool) (x : Number) : (flag value).display ≠ x.text := by
  intro h
  have hnumeric := x.numeric_text
  rw [← h] at hnumeric
  cases value
  · exact absurd (hnumeric 'f' (by decide)) (by decide)
  · exact absurd (hnumeric 't' (by decide)) (by decide)

/-- Two members are read alike only if they are the same, as far as numbers are told apart. -/
theorem token_inj {l other : Literal}
    (hnumbers : ∀ x y, l = .number x → other = .number y → x.text = y.text → x = y)
    (h : l.token = other.token) : l = other := by
  cases l with
  | text value =>
      cases other with
      | text _ => rw [Sql.Token.constant.inj h]
      | flag _ => cases h
      | number _ => cases h
  | flag value =>
      cases other with
      | text _ => cases h
      | flag second =>
          have hword : (flag value).display = (flag second).display := Sql.Token.word.inj h
          revert hword
          cases value <;> cases second <;> decide
      | number x => exact absurd (Sql.Token.word.inj h) (display_flag_ne_text value x)
  | number x =>
      cases other with
      | text _ => cases h
      | flag value => exact absurd (Sql.Token.word.inj h).symm (display_flag_ne_text value x)
      | number y => rw [hnumbers x y rfl rfl (Sql.Token.word.inj h)]

theorem map_token_inj {members others : List Literal} (hnumbers : TellNumbersApart members others)
    (h : members.map token = others.map token) : members = others := by
  induction members generalizing others with
  | nil => exact (List.map_eq_nil_iff.mp h.symm).symm
  | cons l rest ih =>
      cases others with
      | nil => cases h
      | cons other more =>
          obtain ⟨hfirst, hrest⟩ := List.cons.inj h
          have hmembers : l = other := token_inj
            (fun x y hl hother => hnumbers x y (by simp [hl]) (by simp [hother])) hfirst
          rw [hmembers, ih (fun x y hx hy => hnumbers x y (by simp [hx]) (by simp [hy])) hrest]

end Literal

/-! ### The statement -/

theorem Sql.enumValues?_of_valueList? {name statement : String} {list : List Char}
    {tokens : List Token}
    (hstatement : statement.toList = ("CREATE TYPE " ++ name ++ " AS ENUM ").toList ++ list)
    (hlist : valueList? list = some (tokens, [';'])) :
    enumValues? name statement = some tokens := by
  rw [enumValues?, hstatement, behind?_append]
  simp only [Option.bind_eq_bind, Option.bind_some, hlist, if_true]

theorem Script.enumValues?_written (t : EnumType) :
    Sql.enumValues? t.name (Statement.createType t).written = some (t.members.map Literal.token) := by
  have hopen : " AS ENUM (" = " AS ENUM " ++ "(" := by decide
  have hparts : (Statement.createType t).written
      = "CREATE TYPE " ++ t.name ++ " AS ENUM " ++ ("(" ++ members t.members ++ ")" ++ ";") := by
    have htext : (Statement.createType t).text
        = "CREATE TYPE " ++ t.name ++ " AS ENUM (" ++ members t.members ++ ")" := rfl
    rw [Statement.written, htext, hopen]
    simp only [String.append_assoc]
  have hlist : ("(" ++ members t.members ++ ")" ++ ";").toList
      = '(' :: ((Text.join ", " (t.members.map Literal.sql)).toList ++ [')', ';']) := by
    rw [String.toList_append, String.toList_append, String.toList_append, List.append_assoc]
    rfl
  refine Sql.enumValues?_of_valueList? ?_ (Sql.valueList?_join Literal.value?_sql t.members [';'])
  rw [hparts, String.toList_append, hlist]

/--
**The statement that creates an enumeration type is read as its members, in their order, and as no
other list.**  So different lists are written as different statements.
-/
theorem enumType_readBack (name : String) (members : List Literal) (log : Log) :
    Sql.enumValues? name ((Script.enumType ⟨name, members⟩).run log).1
      = some (members.map Literal.token) ∧
    ∀ others, TellNumbersApart members others →
      (Sql.enumValues? name ((Script.enumType ⟨name, members⟩).run log).1
        = some (others.map Literal.token) → others = members) ∧
      ∀ another, ((Script.enumType ⟨name, others⟩).run another).1
        = ((Script.enumType ⟨name, members⟩).run log).1 → others = members := by
  have hwritten : ∀ (t : EnumType) (log : Log),
      ((Script.enumType t).run log).1 = (Script.Statement.createType t).written :=
    fun t log => congrArg Prod.fst (Script.enumType_gives t log)
  have hread := Script.enumValues?_written ⟨name, members⟩
  rw [hwritten]
  refine ⟨hread, fun others hnumbers => ⟨fun h => ?_, fun another h => ?_⟩⟩
  · rw [hread] at h
    exact (Literal.map_token_inj hnumbers (Option.some.inj h)).symm
  · have hothers := Script.enumValues?_written ⟨name, others⟩
    rw [hwritten] at h
    rw [h, hread] at hothers
    exact (Literal.map_token_inj hnumbers (Option.some.inj hothers)).symm

end Tablewright
