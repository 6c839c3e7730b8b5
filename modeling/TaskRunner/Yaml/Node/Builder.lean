import TaskRunner.Yaml.Node
import TaskRunner.Yaml.Token.Lexer
/- # TaskRunner.Yaml.Node.Builder -- the document that tokens write

A reader for each place where a node may stand.  It takes a builder, which holds the tokens that are
still to be read, to a node and a builder with fewer of them, or to nothing if the tokens are out of
order.

An anchor is numbered by how many names are anchored when it is met, and a reference carries the
number that its name has at that point.  Where two nodes come to have one number, the one that
starts later in the text has it. -/

namespace TaskRunner.Yaml
set_option autoImplicit false

/-- The state of building a document. -/
structure Builder where
  tokens : List Token
  /-- What the handles of tags stand for, the latest definition first. -/
  handles : List (String × String) := []
  /-- The anchored names with their numbers, the latest first. -/
  names : List (String × Nat) := []
  /-- How many different names are anchored. -/
  nameCount : Nat := 0
  /-- How many nodes with an anchor have started. -/
  started : Nat := 0
  /-- Which of the nodes that have started has a number. -/
  owners : Std.TreeMap Nat Nat := {}
  /-- The anchored nodes that are complete, by when they started. -/
  nodes : Std.TreeMap Nat Node := {}
  size : Nat := 0

/-- What stands before a node. -/
structure Properties where
  /-- The place of the node among those with an anchor. -/
  anchor : Option Nat := none
  tag : Option String := none

namespace Builder

def next (builder : Builder) : Option Token := builder.tokens.head?

def skip (builder : Builder) : Builder := { builder with tokens := builder.tokens.tail }

/-- Whether the next token is one of a list. -/
def nextIn (builder : Builder) (tokens : List Token) : Bool :=
  match builder.next with
  | some token => tokens.contains token
  | none => false

/-! ## Anchors and tags -/

/-- Notes an anchor and gives the place of its node. -/
def anchor (builder : Builder) (name : String) : Nat × Builder :=
  let number := builder.nameCount
  let place := builder.started
  let known := builder.names.any (·.1 == name)
  (place, { builder with
    names := (name, number) :: builder.names
    nameCount := if known then number else number + 1
    started := place + 1
    owners := builder.owners.insert number place })

/-- The tag that a handle and a suffix stand for. -/
def resolveTag (builder : Builder) (handle suffix : String) : Option String :=
  if handle.isEmpty then some suffix
  else (builder.handles.lookup handle).map (· ++ suffix)

/-- Reads an anchor and a tag, in either order, each of them optional. -/
def properties (fuel : Nat) (read : Properties) (builder : Builder) :
    Option (Properties × Builder) :=
  match fuel with
  | 0 => some (read, builder)
  | fuel + 1 =>
    match builder.next, read.anchor, read.tag with
    | some (.anchor name), none, _ =>
      let (place, builder) := builder.skip.anchor name
      properties fuel { read with anchor := some place } builder
    | some (.tag handle suffix), _, none =>
      match builder.resolveTag handle suffix with
      | some tag => properties fuel { read with tag := some tag } builder.skip
      | none => none
    | _, _, _ => some (read, builder)

/-- Completes a node that counts `size`. -/
def close (builder : Builder) (properties : Properties) (node : Node) (size : Nat) :
    Node × Builder :=
  let builder := { builder with size := builder.size + size }
  match properties.anchor with
  | some place => (node, { builder with nodes := builder.nodes.insert place node })
  | none => (node, builder)

/-- A scalar that is not written. -/
def missing (builder : Builder) : Node × Builder := builder.close {} .missing 1

/-! ## Nodes -/

mutual

/-- Reads a node.  In block context block collections may stand there, and where `dashes` is set
also a sequence whose dashes are not indented further than its key. -/
def node (fuel : Nat) (block dashes : Bool) (builder : Builder) : Option (Node × Builder) :=
  match fuel with
  | 0 => none
  | fuel + 1 =>
    match builder.next with
    | some (.alias name) =>
      (builder.names.lookup name).map fun number =>
        (.reference number, { builder.skip with size := builder.size + 1 })
    | _ =>
      match properties 2 {} builder with
      | none => none
      | some (found, builder) =>
        let inner := builder.skip
        match builder.next with
        | some (.scalar style text) =>
          some (inner.close found (.scalar found.tag style text) 1)
        | some .flowSequenceStart =>
          (flowItems fuel true [] inner).map fun (items, builder) =>
            builder.close found (.sequence found.tag items) 2
        | some .flowMappingStart =>
          (flowEntries fuel true [] inner).map fun (entries, builder) =>
            builder.close found (.mapping found.tag entries) 2
        | some .blockEntry =>
          if dashes then
            (dashedItems fuel [] builder).map fun (items, builder) =>
              builder.close found (.sequence found.tag items) 2
          else bare found builder
        | some .blockSequenceStart =>
          if block then
            (blockItems fuel [] inner).map fun (items, builder) =>
              builder.close found (.sequence found.tag items) 2
          else bare found builder
        | some .blockMappingStart =>
          if block then
            (blockEntries fuel [] inner).map fun (entries, builder) =>
              builder.close found (.mapping found.tag entries) 2
          else bare found builder
        | _ => bare found builder

/-- A node that consists of its anchor or its tag alone. -/
def bare (found : Properties) (builder : Builder) : Option (Node × Builder) :=
  if found.anchor.isNone && found.tag.isNone then none
  else some (builder.close found (.scalar found.tag .plain "") 1)

/-- Reads a node, or nothing where one of the tokens `ends` comes next. -/
def nodeUnless (fuel : Nat) (block dashes : Bool) (ends : List Token) (builder : Builder) :
    Option (Node × Builder) :=
  match fuel with
  | 0 => none
  | fuel + 1 => if builder.nextIn ends then some builder.missing else node fuel block dashes builder

/-- Reads a colon and the node behind it; both may be missing. -/
def valueUnless (fuel : Nat) (block dashes : Bool) (ends : List Token) (builder : Builder) :
    Option (Node × Builder) :=
  match fuel with
  | 0 => none
  | fuel + 1 =>
    match builder.next with
    | some .value => nodeUnless fuel block dashes ends builder.skip
    | _ => some builder.missing

/-- The items of a block sequence. -/
def blockItems (fuel : Nat) (read : List Node) (builder : Builder) :
    Option (List Node × Builder) :=
  match fuel with
  | 0 => none
  | fuel + 1 =>
    match builder.next with
    | some .blockEntry =>
      match nodeUnless fuel true false [.blockEntry, .blockEnd] builder.skip with
      | some (item, builder) => blockItems fuel (item :: read) builder
      | none => none
    | some .blockEnd => some (read.reverse, builder.skip)
    | _ => none

/-- The items of a sequence whose dashes are not indented. -/
def dashedItems (fuel : Nat) (read : List Node) (builder : Builder) :
    Option (List Node × Builder) :=
  match fuel with
  | 0 => none
  | fuel + 1 =>
    match builder.next with
    | some .blockEntry =>
      match nodeUnless fuel true false [.blockEntry, .key, .value, .blockEnd] builder.skip with
      | some (item, builder) => dashedItems fuel (item :: read) builder
      | none => none
    | _ => some (read.reverse, builder)

/-- The entries of a block mapping. -/
def blockEntries (fuel : Nat) (read : List (Node × Node)) (builder : Builder) :
    Option (List (Node × Node) × Builder) :=
  match fuel with
  | 0 => none
  | fuel + 1 =>
    let ends := [Token.key, .value, .blockEnd]
    match builder.next with
    | some .key =>
      match nodeUnless fuel true true ends builder.skip with
      | none => none
      | some (key, builder) =>
        match valueUnless fuel true true ends builder with
        | none => none
        | some (content, builder) => blockEntries fuel ((key, content) :: read) builder
    | some .blockEnd => some (read.reverse, builder.skip)
    | _ => none

/-- The items of a bracketed sequence from a given one on.  An item with a question mark or a colon
is a mapping with a single entry. -/
def flowItems (fuel : Nat) (first : Bool) (read : List Node) (builder : Builder) :
    Option (List Node × Builder) :=
  match fuel with
  | 0 => none
  | fuel + 1 =>
    if builder.next == some .flowSequenceEnd then some (read.reverse, builder.skip)
    else if !first && builder.next != some .flowEntry then none
    else
      let builder := if first then builder else builder.skip
      match builder.next with
      | some .flowSequenceEnd => some (read.reverse, builder.skip)
      | some .key =>
        match singlePair fuel builder.skip with
        | some (item, builder) => flowItems fuel false (item :: read) builder
        | none => none
      | _ =>
        match node fuel false false builder with
        | some (item, builder) => flowItems fuel false (item :: read) builder
        | none => none

/-- The single entry of a mapping in a bracketed sequence.  The token that shows that its key is
missing is passed over. -/
def singlePair (fuel : Nat) (builder : Builder) : Option (Node × Builder) :=
  match fuel with
  | 0 => none
  | fuel + 1 =>
    let key :=
      if builder.nextIn [.value, .flowEntry, .flowSequenceEnd] then some builder.skip.missing
      else node fuel false false builder
    match key with
    | none => none
    | some (key, builder) =>
      match valueUnless fuel false false [.flowEntry, .flowSequenceEnd] builder with
      | none => none
      | some (content, builder) => some (builder.close {} (.mapping none [(key, content)]) 2)

/-- The entries of a bracketed mapping from a given one on. -/
def flowEntries (fuel : Nat) (first : Bool) (read : List (Node × Node)) (builder : Builder) :
    Option (List (Node × Node) × Builder) :=
  match fuel with
  | 0 => none
  | fuel + 1 =>
    let ends := [Token.flowEntry, .flowMappingEnd]
    if builder.next == some .flowMappingEnd then some (read.reverse, builder.skip)
    else if !first && builder.next != some .flowEntry then none
    else
      let builder := if first then builder else builder.skip
      match builder.next with
      | some .flowMappingEnd => some (read.reverse, builder.skip)
      | some .key =>
        match nodeUnless fuel false false (.value :: ends) builder.skip with
        | none => none
        | some (key, builder) =>
          match valueUnless fuel false false ends builder with
          | none => none
          | some (content, builder) => flowEntries fuel false ((key, content) :: read) builder
      | _ =>
        match node fuel false false builder with
        | none => none
        | some (key, builder) =>
          let (content, builder) := builder.missing
          flowEntries fuel false ((key, content) :: read) builder

end

/-! ## Documents -/

/-- Reads the directives of a document: one version at most, and one definition for a handle. -/
def directives (versioned : Bool) (handles : List (String × String)) :
    List Token → Option (List (String × String) × List Token)
  | .versionDirective major minor :: rest =>
    if versioned || major != 1 || (minor != 1 && minor != 2) then none
    else directives true handles rest
  | .tagDirective handle start :: rest =>
    if handles.any (·.1 == handle) then none else directives versioned ((handle, start) :: handles) rest
  | rest => some (handles, rest)

/-- What handles stand for where no directive says otherwise. -/
def commonHandles : List (String × String) := [("!", "!"), ("!!", "tag:yaml.org,2002:")]

/-- A document as a whole, once all tokens are read. -/
def finish (root : Node) (builder : Builder) : Document where
  root
  anchored := builder.owners.foldl
    (fun anchored number place =>
      match builder.nodes[place]? with
      | some node => anchored.insert number node
      | none => anchored)
    {}
  size := builder.size

/-- Reads the root of a document whose start was read. -/
def root (marked : Bool) (builder : Builder) : Option (Node × Builder) :=
  let empty := marked && match builder.next with
    | none | some (.versionDirective _ _) | some (.tagDirective _ _) | some .documentStart
    | some .documentEnd => true
    | _ => false
  if empty then some builder.missing
  else node (4 * builder.tokens.length + 8) true false builder

end Builder

/-- What a text holds besides comments: at most one document. -/
inductive Content where
  | nothing
  | document (document : Document)

/-- The only document of a list of tokens. -/
def Content.ofTokens? (tokens : List Token) : Option Content :=
  match tokens with
  | [] => some .nothing
  | first :: _ => do
    let (handles, rest) ← Builder.directives false [] tokens
    let explicit := match first with
      | .versionDirective _ _ | .tagDirective _ _ | .documentStart => true
      | _ => false
    let rest ←
      if explicit then
        match rest with
        | .documentStart :: rest => some rest
        | _ => none
      else some rest
    let (root, builder) ←
      Builder.root explicit { tokens := rest, handles := handles ++ Builder.commonHandles }
    if builder.tokens.all (· == .documentEnd) then return .document (builder.finish root) else none

/-- The only document of a text. -/
def Content.ofText? (text : String) : Option Content := do
  let tokens ← Token.ofText? text
  ofTokens? tokens.toList

end TaskRunner.Yaml
