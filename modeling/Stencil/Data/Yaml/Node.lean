-- YAML documents as trees, by the grammar over tokens. Anchors give names to trees, and an alias
-- stands for the whole tree that its name was given to before.
import Stencil.Data.Flaw
import Stencil.Data.Yaml.Scalar
import Stencil.Data.Yaml.Token

namespace Stencil.Data.Yaml

inductive Node where
  | scalar (kind : Kind) (text : List Char)
  | list (kind : Kind) (items : List Node)
  | mapping (kind : Kind) (entries : List (Node × Node))

namespace Node

def kind : Node → Kind
  | .scalar kind _ => kind
  | .list kind _ => kind
  | .mapping kind _ => kind

/-- The tree that stands where nothing is written. -/
def empty : Node := .scalar .null []

/-- What the grammar goes along with. -/
structure Stage where
  tokens : List Token
  /-- The trees with names. -/
  anchors : List (String × Node)
  /-- What the handles of tags stand for. -/
  handles : List (String × String)

abbrev Grammar := StateT Stage Reading

/-- The token ahead. -/
def peek : Grammar (Option Token) := return (← get).tokens.head?

def advance : Grammar Unit := modify fun s => { s with tokens := s.tokens.drop 1 }

/-- Passes over a token if it is ahead. -/
def pass? (t : Token) : Grammar Bool := do
  if (← peek) = some t then
    advance
    return true
  else return false

def refuse {α : Type} : Grammar α := StateT.lift malformed

/-- Passes over a token that has to be ahead. -/
def pass (t : Token) : Grammar Unit := do
  if ← pass? t then return else refuse

/-- Whether one of these tokens is ahead, or none at all. -/
def isAhead (tokens : List Token) : Grammar Bool := return (← peek).all tokens.contains

/-! ## Properties -/

/-- The anchor and the tag in front of a tree. -/
structure Properties where
  anchor : Option String
  tag : Option String

namespace Properties

/-- A tag in full. -/
def fullTag (handle : Option String) (suffix : String) : Grammar String := do
  match handle with
  | none => return suffix
  | some handle =>
    match (← get).handles.lookup handle with
    | some uri => return uri ++ suffix
    | none => refuse

def anchorOf? : Option Token → Option String
  | some (.anchor name) => some name
  | _ => none

/-- The anchor ahead. -/
def takeAnchor : Grammar (Option String) := do
  let anchor := anchorOf? (← peek)
  if anchor.isSome then advance
  return anchor

/-- The tag ahead. -/
def takeTag : Grammar (Option (Option String × String)) := do
  match ← peek with
  | some (.tag handle suffix) =>
    advance
    return some (handle, suffix)
  | _ => return none

/-- The properties ahead, in any order. -/
def take : Grammar Properties := do
  let first ← takeAnchor
  let tag ← takeTag
  let anchor ← if first.isSome then pure first else if tag.isSome then takeAnchor else pure none
  let full ← match tag with
    | none => pure none
    | some (handle, suffix) => some <$> fullTag handle suffix
  return ⟨anchor, full⟩

/-- A tag that leaves the kind open. -/
def isOpen (p : Properties) : Bool := p.tag.all (· == "!")

/-- The kind of a list or a mapping. -/
def kindOr (p : Properties) (usual : Kind) : Kind :=
  if p.isOpen then usual else (p.tag.map Kind.ofTag).getD usual

/-- The kind of a scalar; without quotes, or with a tag that leaves it open, it is the one that the
text looks like. -/
def scalarKind (p : Properties) (text : List Char) (plain : Bool) : Kind :=
  match p.tag with
  | none => if plain then .ofText text else .text
  | some tag => if tag = "!" then .ofText text else .ofTag tag

/-- Whether there are any. -/
def isAny (p : Properties) : Bool := p.anchor.isSome || p.tag.isSome

/-- Gives the tree its name; a name is given once. -/
def name (p : Properties) (n : Node) : Grammar Node := do
  match p.anchor with
  | none => return n
  | some anchor =>
    if ((← get).anchors.lookup anchor).isSome then refuse
    else
      modify fun s => { s with anchors := (anchor, n) :: s.anchors }
      return n

end Properties

/-! ## The grammar -/

mutual

/-- A tree. Lists and mappings by indentation are found in `block` only, and lists that are no
deeper than what is around them only where `level` allows them. -/
def tree (block level : Bool) : Nat → Grammar Node
  | 0 => refuse
  | fuel + 1 => do
    match ← peek with
    | some (.alias name) =>
      advance
      match (← get).anchors.lookup name with
      | some n => return n
      | none => refuse
    | _ =>
      let p ← Properties.take
      match ← peek with
      | some (.scalar text plain) =>
        advance
        p.name (.scalar (p.scalarKind text plain) text)
      | some .flowList =>
        advance
        p.name (.list (p.kindOr .list) (← flowItems true fuel))
      | some .flowMapping =>
        advance
        p.name (.mapping (p.kindOr .mapping) (← flowEntries true fuel))
      | some .blockList =>
        if block then
          advance
          p.name (.list (p.kindOr .list) (← blockItems fuel))
        else bare p
      | some .blockMapping =>
        if block then
          advance
          p.name (.mapping (p.kindOr .mapping) (← blockEntries fuel))
        else bare p
      | some .dash =>
        if level then p.name (.list (p.kindOr .list) (← levelItems fuel)) else bare p
      | _ => bare p

/-- Properties without a tree stand for an empty scalar. -/
def bare (p : Properties) : Grammar Node :=
  if p.isAny then p.name (.scalar (p.scalarKind [] true) []) else refuse

/-- A tree, or nothing in front of one of these tokens. -/
def treeBefore (ends : List Token) (block level : Bool) : Nat → Grammar Node
  | 0 => refuse
  | fuel + 1 => do
    if ← isAhead ends then return empty else tree block level fuel

/-- The items of a list up to its end. -/
def blockItems : Nat → Grammar (List Node)
  | 0 => refuse
  | fuel + 1 => do
    if ← pass? .dash then
      let first ← treeBefore [.dash, .blockEnd] true false fuel
      return first :: (← blockItems fuel)
    else
      pass .blockEnd
      return []

/-- The items of a list that is no deeper than what is around it. -/
def levelItems : Nat → Grammar (List Node)
  | 0 => refuse
  | fuel + 1 => do
    if ← pass? .dash then
      let first ← treeBefore [.dash, .key, .value, .blockEnd] true false fuel
      return first :: (← levelItems fuel)
    else return []

/-- The entries of a mapping up to its end. A key without a value has none, and a value may stand
without its key. -/
def blockEntries : Nat → Grammar (List (Node × Node))
  | 0 => refuse
  | fuel + 1 => do
    if ← pass? .blockEnd then return []
    else
      let ends := [Token.key, .value, .blockEnd]
      pass .key
      let key ← treeBefore ends true true fuel
      let value ← if ← pass? .value then treeBefore ends true true fuel else pure empty
      return (key, value) :: (← blockEntries fuel)

/-- The items of a list between brackets; a key makes a mapping with one entry. -/
def flowItems (first : Bool) : Nat → Grammar (List Node)
  | 0 => refuse
  | fuel + 1 => do
    if ← pass? .flowListEnd then return []
    else
      if !first then pass .comma
      if ← pass? .flowListEnd then return []
      else
        let item ←
          if ← pass? .key then
            pure (.mapping .mapping [← flowEntry [.comma, .flowListEnd] fuel])
          else tree false false fuel
        return item :: (← flowItems false fuel)

/-- The entries of a mapping between brackets. -/
def flowEntries (first : Bool) : Nat → Grammar (List (Node × Node))
  | 0 => refuse
  | fuel + 1 => do
    if ← pass? .flowMappingEnd then return []
    else
      if !first then pass .comma
      if ← pass? .flowMappingEnd then return []
      else
        let entry ←
          if ← pass? .key then flowEntry [.comma, .flowMappingEnd] fuel
          else pure (← tree false false fuel, empty)
        return entry :: (← flowEntries false fuel)

/-- A key and its value in front of one of these tokens. -/
def flowEntry (ends : List Token) : Nat → Grammar (Node × Node)
  | 0 => refuse
  | fuel + 1 => do
    let key ← treeBefore (.value :: ends) false false fuel
    let value ← if ← pass? .value then treeBefore ends false false fuel else pure empty
    return (key, value)

end

/-! ## Documents -/

/-- The handles that need no directive. -/
def usualHandles : List (String × String) := [("!", "!"), ("!!", tagBase)]

/-- The directives in front of a document: at most one version, which has to be the first, and each
handle at most once. -/
def directives (versioned : Bool) (handles : List (String × String)) :
    List Token → Reading (List (String × String) × List Token)
  | .version major :: rest =>
    if versioned || major ≠ 1 then malformed else directives true handles rest
  | .handle handle uri :: rest =>
    if (handles.lookup handle).isSome then malformed
    else directives versioned ((handle, uri) :: handles) rest
  | .reserved :: rest => directives versioned handles rest
  | rest => return (handles, rest)

/-- A tree in a document without a mark at its beginning. -/
def bareDocument (tokens : List Token) : Reading (Node × List Token) := do
  let (n, s) ← (tree true false (2 * tokens.length + 2)).run ⟨tokens, [], usualHandles⟩
  return (n, s.tokens)

/-- A document behind its directives. -/
def markedDocument (tokens : List Token) : Reading (Node × List Token) := do
  let (handles, rest) ← directives false [] tokens
  match rest with
  | .documentStart :: rest =>
    match rest with
    | [] | .documentStart :: _ | .documentEnd :: _ | .version _ :: _ | .handle .. :: _
    | .reserved :: _ => return (empty, rest)
    | rest =>
      let (n, s) ← (tree true false (2 * rest.length + 2)).run ⟨rest, [], handles ++ usualHandles⟩
      return (n, s.tokens)
  | _ => malformed

/-- The only document of a text, if the text is not empty. -/
def ofTokens (tokens : List Token) : Reading (Option Node) := do
  match tokens with
  | [] => return none
  | first :: _ =>
    let (n, rest) ←
      match first with
      | .version _ | .handle .. | .reserved | .documentStart => markedDocument tokens
      | _ => bareDocument tokens
    if rest.all (· == .documentEnd) then return some n else malformed

end Node

end Stencil.Data.Yaml
