import Rollout.Yaml.Token

namespace Rollout

namespace Yaml

-- The tokens still to be read, none after an error, and what anchors have marked so far.
structure Stream where
  tokens : List Token
  handles : List (String × String)
  -- The anchor that a name stands for.
  names : List (String × Nat)
  -- The nodes that were marked, each with its anchor and the place where it begins.
  marked : List (Nat × Nat × Node)
  size : Nat

namespace Stream

def peek? (s : Stream) : Option Token := s.tokens.head?

def skip (s : Stream) : Stream := { s with tokens := s.tokens.tail }

def stop (s : Stream) : Stream := { s with tokens := [] }

def grow (s : Stream) (n : Nat) : Stream := { s with size := s.size + n }

-- Gives an anchor its number: how many names there were before.
def define (name : String) (s : Stream) : Nat × Stream :=
  let anchor := s.names.length
  (anchor, { s with names := (name, anchor) :: s.names.filter (·.1 ≠ name) })

-- Begins a node, which an anchor may mark.
def anchored (name : Option String) (s : Stream) : Option Nat × Stream :=
  match name with
  | none => (none, s)
  | some name =>
    let (anchor, s) := s.define name
    (some anchor, s)

def mark (anchor : Option Nat) (place : Nat) (node : Node) (s : Stream) : Stream :=
  match anchor with
  | none => s
  | some anchor => { s with marked := (anchor, place, node) :: s.marked }

end Stream

-- The full tag of a node, none for an undefined handle.
def resolve? (handles : List (String × String)) : String → String → Option String
  | "", suffix => some suffix
  | handle, suffix => (handles.lookup handle).map fun expansion => expansion ++ suffix

def coreTags : String := "tag:yaml.org,2002:"

def tagOf (tag : String) : Tag :=
  if tag.startsWith "!" then .application
  else if tag = coreTags ++ "null" then .null
  else if tag = coreTags ++ "bool" then .bool
  else if tag = coreTags ++ "int" then .int
  else if tag = coreTags ++ "float" then .float
  else .other

structure Properties where
  anchor : Option String
  tag : Option String

namespace Properties

def isEmpty (p : Properties) : Bool := p.anchor.isNone && p.tag.isNone

def read (s : Stream) : Option (Properties × Stream) :=
  let resolved (handle suffix : String) (anchor : Option String) (s : Stream) :=
    (resolve? s.handles handle suffix).map fun tag => (⟨anchor, some tag⟩, s)
  match s.tokens with
  | .anchor name :: .tag handle suffix :: rest =>
    resolved handle suffix (some name) { s with tokens := rest }
  | .tag handle suffix :: .anchor name :: rest =>
    resolved handle suffix (some name) { s with tokens := rest }
  | .anchor name :: rest => some (⟨some name, none⟩, { s with tokens := rest })
  | .tag handle suffix :: rest => resolved handle suffix none { s with tokens := rest }
  | _ => some (⟨none, none⟩, s)

-- A collection with a tag of the application's own.
def wrap (p : Properties) (node : Node) : Node :=
  match p.tag with
  | some tag => if tagOf tag = .application then .tagged node else node
  | none => node

end Properties

def emptyScalar (tag : Option Tag) : Node := .scalar ⟨"", .plain, tag⟩

-- An empty scalar where the stream goes on, and an error where it does not.
def absent (s : Stream) : Node × Stream :=
  match s.peek? with
  | none => (.broken, s)
  | some _ => (emptyScalar none, s.grow 1)

mutual

-- Reads a node. In block context it may be a block collection, or after a key a sequence whose
-- entries are not indented.
def node (block loose : Bool) : Nat → Stream → Node × Stream
  | 0, s => (.broken, s.stop)
  | fuel + 1, s =>
    match s.tokens with
    | .alias name :: rest =>
      match s.names.lookup name with
      | some anchor => (.alias anchor, { s with tokens := rest }.grow 1)
      | none => (.broken, s.stop)
    | _ =>
      match Properties.read s with
      | none => (.broken, s.stop)
      | some (properties, s) =>
        let content := s.skip.grow 1
        let scalar (scalar : Scalar) (s : Stream) : Node × Stream :=
          let place := s.size
          let (anchor, s) := s.anchored properties.anchor
          (.scalar scalar, s.mark anchor place (.scalar scalar))
        let collection (read : Stream → Node × Stream) (s : Stream) : Node × Stream :=
          let place := s.size
          let (anchor, s) := s.anchored properties.anchor
          let (node, s) := read s
          let node := properties.wrap node
          (node, s.mark anchor place node)
        let sequence (items : Stream → Items × Stream) (s : Stream) : Node × Stream :=
          collection (fun s => let (items, s) := items s; (.list items, s)) s
        let mapping (members : Stream → Members × Stream) (s : Stream) : Node × Stream :=
          collection (fun s => let (members, s) := members s; (.record members, s)) s
        match s.peek? with
        | some (.scalar text style) =>
          let tag := (properties.tag.filter (· ≠ "!")).map tagOf
          scalar ⟨text, style, tag⟩ content
        | some .sequenceStart => sequence (flowItems true fuel) content
        | some .mappingStart => mapping (flowMembers true fuel) content
        | some token =>
          if loose && token = .blockEntry then sequence (looseItems fuel) (s.grow 1)
          else if block && token = .blockSequence then sequence (blockItems fuel) content
          else if block && token = .blockMapping then mapping (blockMembers fuel) content
          else if properties.isEmpty then (.broken, s.stop)
          else scalar ⟨"", .plain, properties.tag.map tagOf⟩ (s.grow 1)
        | none => (.broken, s.stop)

-- Reads a node unless one of some tokens is next, which leave it empty.
def nodeUnless (ends : List Token) (block loose : Bool) : Nat → Stream → Node × Stream
  | 0, s => (.broken, s.stop)
  | fuel + 1, s =>
    match s.peek? with
    | none => (.broken, s)
    | some token => if ends.contains token then absent s else node block loose fuel s

def blockItems : Nat → Stream → Items × Stream
  | 0, s => (.cut, s.stop)
  | fuel + 1, s =>
    match s.peek? with
    | some .blockEntry =>
      let (item, s) := nodeUnless [.blockEntry, .blockEnd] true false fuel s.skip
      let (rest, s) := blockItems fuel s
      (.cons item rest, s)
    | some .blockEnd => (.close, s.skip.grow 1)
    | _ => (.cut, s.stop)

def looseItems : Nat → Stream → Items × Stream
  | 0, s => (.cut, s.stop)
  | fuel + 1, s =>
    match s.peek? with
    | some .blockEntry =>
      let (item, s) := nodeUnless [.blockEntry, .key, .value, .blockEnd] true false fuel s.skip
      let (rest, s) := looseItems fuel s
      (.cons item rest, s)
    | some _ => (.close, s.grow 1)
    | none => (.cut, s)

def blockMembers : Nat → Stream → Members × Stream
  | 0, s => (.cut, s.stop)
  | fuel + 1, s =>
    match s.peek? with
    | some .key =>
      let (key, s) := nodeUnless [.key, .value, .blockEnd] true true fuel s.skip
      let (value, s) := match s.peek? with
        | some .value => nodeUnless [.key, .value, .blockEnd] true true fuel s.skip
        | _ => absent s
      let (rest, s) := blockMembers fuel s
      (.cons key value rest, s)
    | some .blockEnd => (.close, s.skip.grow 1)
    | _ => (.cut, s.stop)

-- The items of a sequence in brackets. After a key indicator an item is a record of one member.
def flowItems (first : Bool) : Nat → Stream → Items × Stream
  | 0, s => (.cut, s.stop)
  | fuel + 1, s =>
    let item (s : Stream) : Items × Stream :=
      match s.peek? with
      | none => (.cut, s)
      | some .sequenceEnd => (.close, s.skip.grow 1)
      | some .key =>
        let (pair, s) := flowPair fuel (s.skip.grow 1)
        let (rest, s) := flowItems false fuel s
        (.cons (.record pair) rest, s)
      | some _ =>
        let (item, s) := node false false fuel s
        let (rest, s) := flowItems false fuel s
        (.cons item rest, s)
    match s.peek? with
    | none => (.cut, s)
    | some .sequenceEnd => (.close, s.skip.grow 1)
    | some .flowEntry => if first then item s else item s.skip
    | some _ => if first then item s else (.cut, s.stop)

-- The one member of such a record. An empty key takes the token after it with it.
def flowPair : Nat → Stream → Members × Stream
  | 0, s => (.cut, s.stop)
  | fuel + 1, s =>
    match s.peek? with
    | none => (.cut, s)
    | some token =>
      let (key, s) :=
        if [Token.value, .flowEntry, .sequenceEnd].contains token then
          (emptyScalar none, s.skip.grow 1)
        else node false false fuel s
      let (value, s) := match s.peek? with
        | some .value => nodeUnless [.flowEntry, .sequenceEnd] false false fuel s.skip
        | _ => absent s
      match s.peek? with
      | none => (.cons key value .cut, s)
      | some _ => (.cons key value .close, s.grow 1)

def flowMembers (first : Bool) : Nat → Stream → Members × Stream
  | 0, s => (.cut, s.stop)
  | fuel + 1, s =>
    let member (s : Stream) : Members × Stream :=
      match s.peek? with
      | none => (.cut, s)
      | some .mappingEnd => (.close, s.skip.grow 1)
      | some .key =>
        let (key, s) := nodeUnless [.value, .flowEntry, .mappingEnd] false false fuel s.skip
        let (value, s) := match s.peek? with
          | some .value => nodeUnless [.flowEntry, .mappingEnd] false false fuel s.skip
          | _ => absent s
        let (rest, s) := flowMembers false fuel s
        (.cons key value rest, s)
      | some _ =>
        let (key, s) := node false false fuel s
        let (value, s) := absent s
        let (rest, s) := flowMembers false fuel s
        (.cons key value rest, s)
    match s.peek? with
    | none => (.cut, s)
    | some .mappingEnd => (.close, s.skip.grow 1)
    | some .flowEntry => if first then member s else member s.skip
    | some _ => if first then member s else (.cut, s.stop)

end

-- Reads the directives in front of a document: one version at most, and each handle once.
def directives : List Token → Bool → List (String × String) →
    Option (List (String × String) × List Token)
  | .version major minor :: rest, versioned, handles =>
    if versioned || major ≠ 1 || (minor ≠ 1 && minor ≠ 2) then none
    else directives rest true handles
  | .tagHandle handle expansion :: rest, versioned, handles =>
    if (handles.lookup handle).isSome then none
    else directives rest versioned ((handle, expansion) :: handles)
  | tokens, _, handles => some (handles, tokens)

def standardHandles : List (String × String) := [("!", "!"), ("!!", coreTags)]

mutual

-- Puts other nodes in the place of aliases, within a budget that `jump` counts.
def replaceAliases (jump : Nat → Nat → Node × Nat) : Node → Nat → Node × Nat
  | .alias anchor, budget => jump anchor budget
  | .list items, budget =>
    let (items, budget) := replaceInItems jump items budget
    (.list items, budget)
  | .record members, budget =>
    let (members, budget) := replaceInMembers jump members budget
    (.record members, budget)
  | .tagged node, budget =>
    let (node, budget) := replaceAliases jump node budget
    (.tagged node, budget)
  | .null, budget => (.null, budget)
  | .bool b, budget => (.bool b, budget)
  | .int i, budget => (.int i, budget)
  | .float x, budget => (.float x, budget)
  | .text t, budget => (.text t, budget)
  | .scalar t, budget => (.scalar t, budget)
  | .unreadable, budget => (.unreadable, budget)
  | .broken, budget => (.broken, budget)

def replaceInItems (jump : Nat → Nat → Node × Nat) : Items → Nat → Items × Nat
  | .cons item rest, budget =>
    let (item, budget) := replaceAliases jump item budget
    let (rest, budget) := replaceInItems jump rest budget
    (.cons item rest, budget)
  | .close, budget => (.close, budget)
  | .cut, budget => (.cut, budget)

def replaceInMembers (jump : Nat → Nat → Node × Nat) : Members → Nat → Members × Nat
  | .cons key value rest, budget =>
    let (key, budget) := replaceAliases jump key budget
    let (value, budget) := replaceAliases jump value budget
    let (rest, budget) := replaceInMembers jump rest budget
    (.cons key value rest, budget)
  | .close, budget => (.close, budget)
  | .cut, budget => (.cut, budget)

end

-- Puts the marked nodes in the place of their aliases. Copies inside of copies go to a limited
-- depth, and there is a budget for all of them; what exceeds either cannot be read.
def expand (marked : List (Nat × Node)) : Nat → Node → Nat → Node × Nat
  | 0, node, budget => replaceAliases (fun _ budget => (.unreadable, budget)) node budget
  | depth + 1, node, budget =>
    let jump (anchor budget : Nat) : Node × Nat :=
      match budget, marked.lookup anchor with
      | budget + 1, some node => expand marked depth node budget
      | budget, _ => (.unreadable, budget)
    replaceAliases jump node budget

-- For each anchor the node that was marked last, going by where the nodes begin.
def lastMarked (marked : List (Nat × Nat × Node)) : List (Nat × Node) :=
  (marked.mergeSort fun a b => b.2.1 ≤ a.2.1).map fun m => (m.1, m.2.2)

def maxDepth : Nat := 130

def copiesPerEvent : Nat := 100

-- Reads the root of a document, and gives the tokens behind it.
def root (handles : List (String × String)) (tokens : List Token) : Node × List Token :=
  let fuel := 4 * tokens.length + 4
  let stream : Stream := ⟨tokens, handles ++ standardHandles, [], [], 0⟩
  let (root, s) := match tokens.head? with
    | some (.version ..) | some (.tagHandle ..) | some .documentStart | some .documentEnd
    | some .streamEnd => absent stream
    | _ => node true false fuel stream
  let (root, _) := expand (lastMarked s.marked) maxDepth root (copiesPerEvent * s.size)
  (root, s.tokens)

def isDocumentEnd : Token → Bool
  | .documentEnd => true
  | _ => false

def broken : Document := ⟨.broken, false⟩

-- Reads the documents that follow another one, each behind a start of its own.
def following : Nat → List Token → List Document
  | 0, _ => [broken]
  | steps + 1, tokens =>
    match tokens.dropWhile isDocumentEnd with
    | [.streamEnd] => []
    | tokens =>
      match directives tokens false [] with
      | some (handles, .documentStart :: rest) =>
        let (root, after) := root handles rest
        ⟨root, true⟩ :: following steps after
      | _ => [broken]

def documents (handles : List (String × String)) (tokens : List Token) : List Document :=
  let (root, after) := root handles tokens
  ⟨root, true⟩ :: following (after.length + 1) after

end Yaml

-- Reads the documents of a text of YAML. One that is out of order ends the list.
def Document.allOfYaml (text : String) : List Document :=
  let chars := match text.toList with
    | '\ufeff' :: rest => rest
    | chars => chars
  if !chars.all Yaml.isPrintable then [Yaml.broken]
  else
    let tokens := Yaml.tokens chars
    match tokens with
    | [.streamEnd] => []
    | .documentEnd :: _ => [Yaml.broken]
    | _ =>
      match Yaml.directives tokens false [] with
      | some (handles, .documentStart :: rest) => Yaml.documents handles rest
      | some ([], rest) =>
        if rest.length = tokens.length then Yaml.documents [] tokens else [Yaml.broken]
      | _ => [Yaml.broken]

-- Reads a text as YAML. It holds one document at most; without any it is an empty record.
def Document.ofYaml (text : String) : Document :=
  match allOfYaml text with
  | [] => ⟨.record .close, true⟩
  | [document] => document
  | first :: _ => ⟨first.root, false⟩

end Rollout
