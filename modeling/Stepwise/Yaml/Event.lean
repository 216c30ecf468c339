import Stepwise.Yaml.Token
import Stepwise.Table

/-!
# Events of YAML documents

The words of a text, read as one document: collections begin and end, scalars and aliases stand between.
Left out keys, values and items become empty scalars. A reference is the name of an anchor, or a number
once names are linked to the nodes that they stand for.
-/

set_option autoImplicit false

namespace Stepwise.Yaml

/-- The anchor and the tag of a node. -/
structure Properties where
  anchor : Option String
  tag : Option (List UInt8)

/-- A step through a document. -/
inductive Event (Reference : Type) where
  | alias (target : Reference)
  | scalar (properties : Properties) (text : String) (plain : Bool)
  | listStart (properties : Properties)
  | listEnd
  | mappingStart (properties : Properties)
  | mappingEnd

/-- A node without anchor and tag. -/
def Properties.none : Properties := ⟨.none, .none⟩

namespace Event

/-- The scalar that stands where nothing is written. -/
def blank : Event String := .scalar Properties.none "" true

/-- Handles of tags and what they stand for. -/
abbrev Shorthands : Type := List (String × List UInt8)

/-- What the tags of the standard start with. -/
def standardStem : List UInt8 := "tag:yaml.org,2002:".toUTF8.toList

/-- The handles that every document knows. -/
def knownShorthands : Shorthands := [("!", bareMark), ("!!", standardStem)]

/-- The tag that a handle and a suffix stand for. -/
def tagOf? (shorthands : Shorthands) (handle : String) (suffix : List UInt8) : Option (List UInt8) :=
  if handle.isEmpty then some suffix else (shorthands.lookup handle).map (· ++ suffix)

/-- The anchor and the tag before a node, in either order, and whether there are any. -/
def readProperties (shorthands : Shorthands) (words : List Token) :
    Option (Properties × Bool × List Token) :=
  match words with
  | .anchor name :: .tag handle suffix :: rest =>
    (tagOf? shorthands handle suffix).map fun tag => (⟨some name, some tag⟩, true, rest)
  | .tag handle suffix :: .anchor name :: rest =>
    (tagOf? shorthands handle suffix).map fun tag => (⟨some name, some tag⟩, true, rest)
  | .anchor name :: rest => some (⟨some name, none⟩, true, rest)
  | .tag handle suffix :: rest =>
    (tagOf? shorthands handle suffix).map fun tag => (⟨none, some tag⟩, true, rest)
  | _ => some (Properties.none, false, words)

/-- A word after which a part of a block is left out. -/
def endsBlockPart : List Token → Bool
  | .key :: _ => true
  | .value :: _ => true
  | .blockEnd :: _ => true
  | _ => false

/-- A word before which a key or a value inside of brackets is left out. -/
def endsFlowPart (closing : Token) : List Token → Bool
  | .comma :: _ => true
  | word :: _ => word == closing
  | [] => false

/-- Part of a document, and the words behind it. -/
abbrev Read : Type := Option (List (Event String) × List Token)

/-- A part, and the parts behind it. -/
def Read.followedBy (read : Read) (next : List Token → Read) : Read :=
  read.bind fun first => (next first.2).map fun second => (first.1 ++ second.1, second.2)

/-- An event before a part. -/
def Read.after (event : Event String) (read : Read) : Read :=
  read.map fun found => (event :: found.1, found.2)

mutual

/-- Reads a node. Items of a list may stand at the indentation of the key before it. -/
def node (shorthands : Shorthands) (inBlock afterKey : Bool) : Nat → List Token → Read
  | 0, _ => none
  | bound + 1, words =>
    match words with
    | .alias name :: rest => some ([.alias name], rest)
    | _ =>
      (readProperties shorthands words).bind fun (properties, given, words) =>
        match words with
        | .scalar text plain :: rest => some ([.scalar properties text plain], rest)
        | .flowList :: rest =>
          (flowItems shorthands true bound rest).after (.listStart properties)
        | .flowMapping :: rest =>
          (flowEntries shorthands true bound rest).after (.mappingStart properties)
        | .entry :: _ =>
          if afterKey then (bareItems shorthands bound words).after (.listStart properties)
          else if given then some ([.scalar properties "" true], words)
          else none
        | .blockList :: rest =>
          if inBlock then (blockItems shorthands bound rest).after (.listStart properties)
          else if given then some ([.scalar properties "" true], words)
          else none
        | .blockMapping :: rest =>
          if inBlock then (blockEntries shorthands bound rest).after (.mappingStart properties)
          else if given then some ([.scalar properties "" true], words)
          else none
        | _ => if given then some ([.scalar properties "" true], words) else none

/-- Reads the items of a list in a block of its own. -/
def blockItems (shorthands : Shorthands) : Nat → List Token → Read
  | 0, _ => none
  | bound + 1, words =>
    match words with
    | .entry :: .entry :: rest =>
      (blockItems shorthands bound (.entry :: rest)).after blank
    | .entry :: .blockEnd :: rest => some ([blank, .listEnd], rest)
    | .entry :: rest =>
      (node shorthands true false bound rest).followedBy (blockItems shorthands bound)
    | .blockEnd :: rest => some ([.listEnd], rest)
    | _ => none

/-- Reads the items of a list that has no block of its own. -/
def bareItems (shorthands : Shorthands) : Nat → List Token → Read
  | 0, _ => none
  | bound + 1, words =>
    match words with
    | .entry :: .entry :: rest => (bareItems shorthands bound (.entry :: rest)).after blank
    | .entry :: rest =>
      if endsBlockPart rest then (bareItems shorthands bound rest).after blank
      else (node shorthands true false bound rest).followedBy (bareItems shorthands bound)
    | _ => some ([.listEnd], words)

/-- Reads a key or a value of a mapping in a block. -/
def blockPart (shorthands : Shorthands) : Nat → List Token → Read
  | 0, _ => none
  | bound + 1, words =>
    if endsBlockPart words then some ([blank], words) else node shorthands true true bound words

/-- Reads the entries of a mapping in a block. -/
def blockEntries (shorthands : Shorthands) : Nat → List Token → Read
  | 0, _ => none
  | bound + 1, words =>
    match words with
    | .key :: rest =>
      (blockPart shorthands bound rest).followedBy fun words =>
        let value : Read :=
          match words with
          | .value :: rest => blockPart shorthands bound rest
          | _ => some ([blank], words)
        value.followedBy (blockEntries shorthands bound)
    | .blockEnd :: rest => some ([.mappingEnd], rest)
    | _ => none

/-- Reads the value of an entry inside of brackets, if there is one. -/
def flowValue (shorthands : Shorthands) (closing : Token) : Nat → List Token → Read
  | 0, _ => none
  | bound + 1, words =>
    match words with
    | .value :: rest =>
      if endsFlowPart closing rest then some ([blank], rest) else node shorthands false false bound rest
    | _ => some ([blank], words)

/-- Reads an item of a list in brackets. An item that is written as an entry is a mapping of its own. -/
def flowItem (shorthands : Shorthands) : Nat → List Token → Read
  | 0, _ => none
  | bound + 1, words =>
    match words with
    | .key :: rest =>
      let key : Read :=
        match rest with
        | .value :: rest => some ([blank], rest)
        | .comma :: rest => some ([blank], rest)
        | .flowListEnd :: rest => some ([blank], rest)
        | _ => node shorthands false false bound rest
      Read.after (.mappingStart Properties.none)
        ((key.followedBy (flowValue shorthands .flowListEnd bound)).map fun found =>
          (found.1 ++ [.mappingEnd], found.2))
    | _ => node shorthands false false bound words

/-- Reads the items of a list in brackets. -/
def flowItems (shorthands : Shorthands) (isFirst : Bool) : Nat → List Token → Read
  | 0, _ => none
  | bound + 1, words =>
    match words, isFirst with
    | .flowListEnd :: rest, _ => some ([.listEnd], rest)
    | .comma :: .flowListEnd :: rest, false => some ([.listEnd], rest)
    | .comma :: rest, false =>
      (flowItem shorthands bound rest).followedBy (flowItems shorthands false bound)
    | _, false => none
    | _, true => (flowItem shorthands bound words).followedBy (flowItems shorthands false bound)

/-- Reads an entry of a mapping in brackets. -/
def flowEntry (shorthands : Shorthands) : Nat → List Token → Read
  | 0, _ => none
  | bound + 1, words =>
    match words with
    | .key :: rest =>
      let key : Read :=
        match rest with
        | .value :: _ => some ([blank], rest)
        | _ =>
          if endsFlowPart .flowMappingEnd rest then some ([blank], rest)
          else node shorthands false false bound rest
      key.followedBy (flowValue shorthands .flowMappingEnd bound)
    | _ =>
      (node shorthands false false bound words).map fun found => (found.1 ++ [blank], found.2)

/-- Reads the entries of a mapping in brackets. -/
def flowEntries (shorthands : Shorthands) (isFirst : Bool) : Nat → List Token → Read
  | 0, _ => none
  | bound + 1, words =>
    match words, isFirst with
    | .flowMappingEnd :: rest, _ => some ([.mappingEnd], rest)
    | .comma :: .flowMappingEnd :: rest, false => some ([.mappingEnd], rest)
    | .comma :: rest, false =>
      (flowEntry shorthands bound rest).followedBy (flowEntries shorthands false bound)
    | _, false => none
    | _, true => (flowEntry shorthands bound words).followedBy (flowEntries shorthands false bound)

end

/-- Reads the directives before a document: one version at most, which has to be known, and each handle
once. -/
def readDirectives (versioned : Bool) (shorthands : Shorthands) :
    List Token → Option (Bool × Shorthands × List Token)
  | .version major minor :: rest =>
    if versioned || major != 1 || (minor != 1 && minor != 2) then none
    else readDirectives true shorthands rest
  | .tagShorthand handle stem :: rest =>
    if (shorthands.lookup handle).isSome then none
    else readDirectives versioned ((handle, stem) :: shorthands) rest
  | words => some (versioned, shorthands, words)

/-- A word before which the content of a document is left out. -/
def endsContent : List Token → Bool
  | [] => true
  | .version _ _ :: _ => true
  | .tagShorthand _ _ :: _ => true
  | .documentStart :: _ => true
  | .documentEnd :: _ => true
  | _ => false

/-- The events of the one document that words make up; none at all if there are no words. -/
def ofTokens? (words : List Token) : Option (List (Event String)) :=
  let bound := 4 * words.length + 8
  let content : Read :=
    match words with
    | [] => some ([], [])
    | _ =>
      match readDirectives false [] words with
      | none => none
      | some (_, own, .documentStart :: rest) =>
        if endsContent rest then some ([blank], rest)
        else node (own ++ knownShorthands) true false bound rest
      | some (versioned, own, rest) =>
        if versioned || !own.isEmpty || endsContent rest then none
        else node knownShorthands true false bound rest
  match content with
  | none => none
  | some (events, rest) =>
    if (rest.dropWhile (· == .documentEnd)).isEmpty then some events else none

/-- The properties of a node that starts here. -/
def properties? {Reference : Type} : Event Reference → Option Properties
  | .scalar properties _ _ => some properties
  | .listStart properties => some properties
  | .mappingStart properties => some properties
  | _ => none

/-- Nodes by number, each as the events that start with it. -/
abbrev Targets : Type := List (Nat × List (Event Nat))

/-- An event other than an alias, whatever references are. -/
def withTarget {Reference Other : Type} (event : Event Reference) (target : Reference → Option Other) :
    Option (Event Other) :=
  match event with
  | .alias name => (target name).map Event.alias
  | .scalar properties text plain => some (.scalar properties text plain)
  | .listStart properties => some (.listStart properties)
  | .listEnd => some .listEnd
  | .mappingStart properties => some (.mappingStart properties)
  | .mappingEnd => some .mappingEnd

/-- Links aliases to the nodes that they stand for. An anchor is numbered by the names known before
it; of several nodes of one number the last one counts. An alias of an unknown name has no target. -/
def link (known : Table Nat) : List (Event String) → Option (List (Event Nat) × Targets)
  | [] => some ([], [])
  | event :: rest => do
    let anchor := event.properties?.bind Properties.anchor
    let known' := match anchor with
      | some name => Table.put known name known.length
      | none => known
    let linked ← event.withTarget (Table.get? known)
    let (events, targets) ← link known' rest
    let events := linked :: events
    match anchor with
    | some _ =>
      let targets := if (targets.lookup known.length).isSome then targets
        else (known.length, events) :: targets
      return (events, targets)
    | none => return (events, targets)

end Event

end Stepwise.Yaml
