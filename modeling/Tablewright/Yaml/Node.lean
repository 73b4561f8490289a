/-
YAML documents as nodes.

A document is one node: a scalar, a list, a map or the alias of a node that came
before.  Nodes that are left out, such as the value of a key that nothing
follows, are empty plain scalars.  The grammar is read by recursive descent; every
rule takes the tokens and gives those it leaves.
-/
import Tablewright.Yaml.Token

namespace Tablewright.Yaml

/-- What is attached to a node; anchors are named by `ρ`. -/
structure Marks (ρ : Type) where
  anchor : Option ρ := none
  tag : Option String := none

/-- A node whose anchors are named by `ρ`. -/
inductive Node (ρ : Type)
  | scalar (marks : Marks ρ) (style : Style) (text : String)
  | list (marks : Marks ρ) (items : List (Node ρ))
  | map (marks : Marks ρ) (members : List (Node ρ × Node ρ))
  | alias (anchor : ρ)

namespace Node

/-- The node that stands where nothing is written. -/
def empty {ρ : Type} (marks : Marks ρ) : Node ρ :=
  scalar marks .plain ""

end Node

/-- What handles stand for, those of the document first. -/
abbrev Handles := List (List Char × List Char)

/-- The handles that need no directive. -/
def standardHandles : Handles :=
  [(['!'], ['!']), (['!', '!'], "tag:yaml.org,2002:".toList)]

/-- The tag that is meant, unless its handle stands for nothing. -/
def TagText.resolve? (t : TagText) (handles : Handles) : Option String :=
  if t.handle.isEmpty then some (String.ofList t.suffix)
  else (handles.lookup t.handle).map fun start => String.ofList (start ++ t.suffix)

/-- A rule of the grammar: what it reads from some tokens and the tokens it leaves. -/
abbrev Rule (α : Type) := List Token → Option (α × List Token)

/-- The anchor and the tag in front of a node, in either order. -/
def marks? (handles : Handles) : Rule (Marks String)
  | .anchor name :: .tag text :: rest | .tag text :: .anchor name :: rest => do
    pure (⟨some name, some (← text.resolve? handles)⟩, rest)
  | .anchor name :: rest => some (⟨some name, none⟩, rest)
  | .tag text :: rest => do pure (⟨none, some (← text.resolve? handles)⟩, rest)
  | rest => some ({}, rest)

/-- Where a node stands. -/
inductive Context
  /-- Inside brackets. -/
  | flow
  | block
  /-- In a map, whose lists may be indented no further than the map. -/
  | member
deriving DecidableEq

/-- Whether a token ends a part of a block, so that a part in front of it is left out. -/
def endsPart (inMap : Bool) : List Token → Bool
  | .blockEnd :: _ => true
  | .key :: _ | .value :: _ => inMap
  | .item :: _ => !inMap
  | _ => false

mutual

/-- Reads a node. -/
def node? (handles : Handles) : (fuel : Nat) → Context → Rule (Node String)
  | 0, _, _ => none
  | fuel + 1, context, tokens =>
    match tokens with
    | .alias name :: rest => some (.alias name, rest)
    | tokens => do
      let (marks, rest) ← marks? handles tokens
      match rest, context with
      | .item :: _, .member => do
        let (items, rest) ← looseItems? handles fuel rest
        pure (.list marks items, rest)
      | .scalar style text :: rest, _ => some (.scalar marks style text, rest)
      | .openList :: rest, _ => do
        let (items, rest) ← flowItems? handles fuel true rest
        pure (.list marks items, rest)
      | .openMap :: rest, _ => do
        let (members, rest) ← flowMembers? handles fuel true rest
        pure (.map marks members, rest)
      | .blockList :: rest, .block | .blockList :: rest, .member => do
        let (items, rest) ← items? handles fuel rest
        pure (.list marks items, rest)
      | .blockMap :: rest, .block | .blockMap :: rest, .member => do
        let (members, rest) ← members? handles fuel rest
        pure (.map marks members, rest)
      | rest, _ =>
        if marks.anchor.isSome || marks.tag.isSome then some (.empty marks, rest) else none

/-- Reads the items of a block list and its end. -/
def items? (handles : Handles) : (fuel : Nat) → Rule (List (Node String))
  | 0, _ => none
  | fuel + 1, tokens =>
    match tokens with
    | .item :: rest => do
      let (first, rest) ←
        if endsPart false rest then pure (.empty {}, rest) else node? handles fuel .block rest
      let (others, rest) ← items? handles fuel rest
      pure (first :: others, rest)
    | .blockEnd :: rest => some ([], rest)
    | _ => none

/-- Reads the items of a list that is indented no further than the map around it. -/
def looseItems? (handles : Handles) : (fuel : Nat) → Rule (List (Node String))
  | 0, _ => none
  | fuel + 1, tokens =>
    match tokens with
    | .item :: rest => do
      let (first, rest) ←
        if endsPart false rest || endsPart true rest then pure (.empty {}, rest)
        else node? handles fuel .block rest
      let (others, rest) ← looseItems? handles fuel rest
      pure (first :: others, rest)
    | tokens => some ([], tokens)

/-- Reads the members of a block map and its end. -/
def members? (handles : Handles) : (fuel : Nat) → Rule (List (Node String × Node String))
  | 0, _ => none
  | fuel + 1, tokens =>
    match tokens with
    | .blockEnd :: rest => some ([], rest)
    | .key :: rest => do
      let (key, rest) ←
        if endsPart true rest then pure (.empty {}, rest) else node? handles fuel .member rest
      let (value, rest) ← memberValue? handles fuel rest
      let (others, rest) ← members? handles fuel rest
      pure ((key, value) :: others, rest)
    | _ => none

/-- Reads the value of a member of a block map, which may be left out. -/
def memberValue? (handles : Handles) : (fuel : Nat) → Rule (Node String)
  | 0, _ => none
  | fuel + 1, tokens =>
    match tokens with
    | .value :: rest =>
      if endsPart true rest then some (.empty {}, rest) else node? handles fuel .member rest
    | tokens => some (.empty {}, tokens)

/-- Reads the items of a list in brackets and the closing bracket. -/
def flowItems? (handles : Handles) : (fuel : Nat) → (first : Bool) → Rule (List (Node String))
  | 0, _, _ => none
  | fuel + 1, first, tokens =>
    match tokens, first with
    | .closeList :: rest, _ | .comma :: .closeList :: rest, false => some ([], rest)
    | .comma :: rest, false | rest, true => do
      let (item, rest) ← match rest with
        | .key :: rest => pair? handles fuel rest
        | rest => node? handles fuel .flow rest
      let (others, rest) ← flowItems? handles fuel false rest
      pure (item :: others, rest)
    | _, false => none

/-- Reads a key and a value that are an item of a list in brackets.  Where the key is left out,
the token after its sign is taken with it. -/
def pair? (handles : Handles) : (fuel : Nat) → Rule (Node String)
  | 0, _ => none
  | fuel + 1, tokens => do
    let (key, rest) ← match tokens with
      | .value :: rest | .comma :: rest | .closeList :: rest => some (.empty {}, rest)
      | tokens => node? handles fuel .flow tokens
    let (value, rest) ← match rest with
      | .value :: .comma :: _ | .value :: .closeList :: _ => some (.empty {}, rest.drop 1)
      | .value :: rest => node? handles fuel .flow rest
      | rest => some (.empty {}, rest)
    pure (.map {} [(key, value)], rest)

/-- Reads the members of a map in brackets and the closing bracket. -/
def flowMembers? (handles : Handles) : (fuel : Nat) → (first : Bool) →
    Rule (List (Node String × Node String))
  | 0, _, _ => none
  | fuel + 1, first, tokens =>
    match tokens, first with
    | .closeMap :: rest, _ | .comma :: .closeMap :: rest, false => some ([], rest)
    | .comma :: rest, false | rest, true => do
      let (member, rest) ← flowMember? handles fuel rest
      let (others, rest) ← flowMembers? handles fuel false rest
      pure (member :: others, rest)
    | _, false => none

/-- Reads a member of a map in brackets, whose value may be left out. -/
def flowMember? (handles : Handles) : (fuel : Nat) → Rule (Node String × Node String)
  | 0, _ => none
  | fuel + 1, tokens =>
    match tokens with
    | .key :: rest => do
      let (key, rest) ← match rest with
        | .value :: _ | .comma :: _ | .closeMap :: _ => some (.empty {}, rest)
        | rest => node? handles fuel .flow rest
      match rest with
      | .value :: .comma :: _ | .value :: .closeMap :: _ => some ((key, .empty {}), rest.drop 1)
      | .value :: rest => do
        let (value, rest) ← node? handles fuel .flow rest
        pure ((key, value), rest)
      | rest => some ((key, .empty {}), rest)
    | tokens => do
      let (key, rest) ← node? handles fuel .flow tokens
      pure ((key, .empty {}), rest)

end

/-! ### Documents -/

/-- Whether a directive may stand with those before it. -/
def acceptsDirective (hasVersion : Bool) (handles : Handles) : Directive → Bool
  | .version major minor => !hasVersion && major = 1 && (minor = 1 || minor = 2)
  | .tag handle _ => (handles.lookup handle).isNone

/-- Reads the directives in front of a document. -/
def directives? : (hasVersion : Bool) → Handles → Rule Handles
  | hasVersion, handles, .directive d :: rest =>
    if acceptsDirective hasVersion handles d then
      match d with
      | .version _ _ => directives? true handles rest
      | .tag handle start => directives? hasVersion (handles ++ [(handle, start)]) rest
    else none
  | _, handles, rest => some (handles ++ standardHandles, rest)

/-- Reads the node of a document that starts with a sign of its own, which may be left out. -/
def content? (handles : Handles) (tokens : List Token) : Option (Node String × List Token) :=
  match tokens with
  | [] | .directive _ :: _ | .documentStart :: _ | .documentEnd :: _ => some (.empty {}, tokens)
  | tokens => node? handles (3 * tokens.length + 4) .block tokens

/-- The document of some tokens, of which there may be only one; nothing for a text without any. -/
def document? (tokens : List Token) : Option (Option (Node String)) := do
  let explicit := match tokens with
    | .directive _ :: _ | .documentStart :: _ => true
    | _ => false
  if tokens.isEmpty then some none
  else
    let (root, rest) ←
      if explicit then do
        let (handles, rest) ← directives? false [] tokens
        match rest with
        | .documentStart :: rest => content? handles rest
        | _ => none
      else node? standardHandles (3 * tokens.length + 4) .block tokens
    if rest.all (· = .documentEnd) then some (some root) else none

end Tablewright.Yaml
