/-
Command lines as options.

Arguments are taken one at a time.  The value of an option is looked at only when
the next option comes or the arguments end, so a fault of an argument may be
reported before that of a value in front of it.  Every option may be given once,
and a connect string excludes the parts of a connection.
-/
import Tablewright.CommandLine.Options
import Tablewright.Text.Blank
import Tablewright.Text.Digits

namespace Tablewright.CommandLine

/-- Why arguments ask for no run. -/
inductive Refusal
  | help
  | version
  | unknownArgument
  /-- A value is missing or is none of those an option may have. -/
  | invalidValue
  /-- A value cannot be read. -/
  | unreadableValue
  /-- An option is given twice, or together with one that excludes it. -/
  | conflict
  /-- A value is attached to an option without one. -/
  | surplusValue
deriving DecidableEq

/-- The exit code of a program that was asked for no run. -/
def Refusal.exitCode : Refusal → Nat
  | help | version => 0
  | _ => 2

/-- What an option is named for. -/
inductive Name
  | schema | file | format | configuration | connect
  | user | password | host | port | database
  | id | timestamp | operator | softDelete
  | checks | dryRun | output | verbose | help | version
deriving DecidableEq

namespace Name

/-- The names in full. -/
def long : List (String × Name) := [
  ("schema", schema), ("file", file), ("format", format), ("config", configuration),
  ("connect", connect), ("username", user), ("password", password), ("hostname", host),
  ("port", port), ("database", database), ("id", id), ("timestamp", timestamp),
  ("operator", operator), ("soft-delete", softDelete), ("checks", checks), ("dry-run", dryRun),
  ("output", output), ("verbose", verbose), ("help", help), ("version", version)]

/-- The names of one letter. -/
def short : List (Char × Name) := [
  ('s', schema), ('f', file), ('C', configuration), ('c', connect), ('u', user), ('P', password),
  ('H', host), ('p', port), ('d', database), ('o', output), ('v', verbose), ('h', help),
  ('V', version)]

/-- Whether an option has a value. -/
def hasValue : Name → Bool
  | checks | dryRun | verbose | help | version => false
  | _ => true

/-- Whether an option gives a part of the connection. -/
def isConnectionPart : Name → Bool
  | user | password | host | port | database => true
  | _ => false

end Name

/-! ### Values -/

/-- The port of a text: a decimal number with or without a sign. -/
def portOf (value : String) : Except Refusal Port :=
  let (negative, digits) := match value.toList with
    | '-' :: digits => (true, digits)
    | '+' :: digits => (false, digits)
    | digits => (false, digits)
  match Url.port? digits with
  | some port => if negative && port.val ≠ 0 then throw .unreadableValue else pure port
  | none => throw .unreadableValue

/-- The policy of a word, around which blanks do not count. -/
def policyOf (value : String) : Except Refusal Policy :=
  match Text.trim value with
  | "" => throw .unreadableValue
  | "true" => pure .enabled
  | "false" => pure .disabled
  | tag => pure (.tagged tag)

/-- The format of a word. -/
def formatOf (value : String) : Except Refusal Format :=
  match value with
  | "json" => pure .json
  | "yaml" => pure .yaml
  | _ => throw .invalidValue

/-- The path of a file. -/
def pathOf (value : String) : Except Refusal String :=
  if value = "" then throw .invalidValue else pure value

/-- The options with one more of them. -/
def Options.set (o : Options) (name : Name) (value : String) : Except Refusal Options :=
  match name with
  | .schema => pure { o with schema := some value }
  | .file => do return { o with file := some (← pathOf value) }
  | .format => do return { o with format := some (← formatOf value) }
  | .configuration => do return { o with configuration := some (← pathOf value) }
  | .connect => pure { o with connect := some value }
  | .user => pure { o with parts := { o.parts with user := some value } }
  | .password => pure { o with parts := { o.parts with password := some value } }
  | .host => pure { o with parts := { o.parts with host := some value } }
  | .port => do
    let port ← portOf value
    pure { o with parts := { o.parts with port := some port } }
  | .database => pure { o with parts := { o.parts with database := some value } }
  | .id => do return { o with id := some (← policyOf value) }
  | .timestamp => do return { o with timestamp := some (← policyOf value) }
  | .operator => do return { o with operator := some (← policyOf value) }
  | .softDelete => do return { o with softDelete := some (← policyOf value) }
  | .checks => pure { o with checks := true }
  | .dryRun => pure { o with dryRun := true }
  | .output => do return { o with output := some (← pathOf value) }
  | .verbose => pure { o with verbose := true }
  | .help => throw .help
  | .version => throw .version

/-! ### Arguments -/

/-- How far the arguments have been taken. -/
structure Draft where
  options : Options := {}
  /-- The options given so far. -/
  given : List Name := []
  /-- The option whose value has not been looked at, and the value when it has come. -/
  pending : Option (Name × Option String) := none
  /-- Whether no more options may come. -/
  ended : Bool := false

namespace Draft

/-- Takes an option with its value. -/
def give (d : Draft) (name : Name) (value : String) : Except Refusal Draft := do
  if d.given.contains name then throw .conflict
  let options ← d.options.set name value
  pure { d with options, given := name :: d.given }

/-- Looks at the value that has not been looked at. -/
def settle (d : Draft) : Except Refusal Draft :=
  match d.pending with
  | none => pure d
  | some (_, none) => throw .invalidValue
  | some (name, some value) => { d with pending := none }.give name value

/-- Takes an option and the value attached to it, if any. -/
def takeOption (d : Draft) (name : Name) (attached : Option String) : Except Refusal Draft := do
  let d ← d.settle
  match attached with
  | some value => d.give name value
  | none => if name.hasValue then pure { d with pending := some (name, none) } else d.give name ""

/-- Takes an argument of one option in full. -/
def takeLong (d : Draft) (cs : List Char) : Except Refusal Draft :=
  let word := String.ofList (cs.takeWhile (· ≠ '='))
  let attached := match cs.dropWhile (· ≠ '=') with
    | _ :: value => some (String.ofList value)
    | [] => none
  match Name.long.lookup word with
  | none => throw .unknownArgument
  | some name =>
    if !name.hasValue && attached.isSome then throw .surplusValue else d.takeOption name attached

/-- Takes an argument of options of one letter; the last of them may have its value attached. -/
def takeShort (d : Draft) : List Char → Except Refusal Draft
  | [] => pure d
  | c :: rest =>
    match Name.short.lookup c with
    | none => throw .unknownArgument
    | some name =>
      if name.hasValue then
        d.takeOption name <| match rest with
          | [] => none
          | '=' :: value => some (String.ofList value)
          | value => some (String.ofList value)
      else do takeShort (← d.takeOption name none) rest

/-- Takes an argument that is no option. -/
def takeValue (d : Draft) (value : String) : Except Refusal Draft :=
  match d.pending with
  | some (name, none) => pure { d with pending := some (name, some value) }
  | _ => throw .unknownArgument

/-- Takes an argument. -/
def take (d : Draft) (argument : String) : Except Refusal Draft :=
  if d.ended then throw .unknownArgument
  else match argument.toList with
    | ['-', '-'] => pure { d with ended := true }
    | '-' :: '-' :: long => d.takeLong long
    | '-' :: c :: rest => d.takeShort (c :: rest)
    | _ => d.takeValue argument

end Draft

/-- The options of a command line. -/
def parse (arguments : List String) : Except Refusal Options := do
  let d ← arguments.foldlM Draft.take {}
  let d ← d.settle
  if d.given.contains .connect && d.given.any Name.isConnectionPart then throw .conflict
  pure d.options

end Tablewright.CommandLine
