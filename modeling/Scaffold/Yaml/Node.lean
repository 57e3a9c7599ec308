import Scaffold.Yaml.Token

/-!
# Nodes

The nodes of a document: scalars, sequences, mappings, and aliases of nodes with an anchor.
Anchors are numbered by how many names there are when they are met, and an alias means the last
node with its number.
-/

namespace Scaffold.Yaml

inductive Node where
  | scalar (anchor : Option Nat) (tag : Option (List Char)) (text : List Char)
      (style : ScalarStyle)
  | sequence (anchor : Option Nat) (tag : Option (List Char)) (items : List Node)
  | mapping (anchor : Option Nat) (tag : Option (List Char)) (entries : List (Node × Node))
  | reference (anchor : Nat)
deriving Inhabited

namespace Node

/-- What stands where nothing is written. -/
def nothing : Node := scalar none none [] .plain

def labelled (anchor : Option Nat) (n : Node) : List (Nat × Node) :=
  anchor.toList.map fun a => (a, n)

mutual

/-- Nodes with anchors, in the order of the document. -/
def anchored : Node → List (Nat × Node)
  | scalar a t s st => labelled a (scalar a t s st)
  | sequence a t items => labelled a (sequence a t items) ++ anchoredItems items
  | mapping a t entries => labelled a (mapping a t entries) ++ anchoredEntries entries
  | reference _ => []

def anchoredItems : List Node → List (Nat × Node)
  | [] => []
  | n :: ns => anchored n ++ anchoredItems ns

def anchoredEntries : List (Node × Node) → List (Nat × Node)
  | [] => []
  | (k, v) :: es => anchored k ++ (anchored v ++ anchoredEntries es)

end

mutual

/-- Parts of a node; collections have a start and an end. -/
def size : Node → Nat
  | scalar _ _ _ _ => 1
  | sequence _ _ items => 2 + sizeItems items
  | mapping _ _ entries => 2 + sizeEntries entries
  | reference _ => 1

def sizeItems : List Node → Nat
  | [] => 0
  | n :: ns => size n + sizeItems ns

def sizeEntries : List (Node × Node) → Nat
  | [] => 0
  | (k, v) :: es => size k + size v + sizeEntries es

end

end Node

/-! ## Properties -/

/-- Names of anchors with their numbers. -/
abbrev AnchorNames := List (List Char × Nat)

namespace AnchorNames

def put (name : List Char) (number : Nat) : AnchorNames → AnchorNames
  | [] => [(name, number)]
  | (n, i) :: rest => if n = name then (n, number) :: rest else (n, i) :: put name number rest

def define (names : AnchorNames) (name : Option (List Char)) : Option Nat × AnchorNames :=
  match name with
  | none => (none, names)
  | some n => (some names.length, put n names.length names)

end AnchorNames

/-- What the handles of tags stand for. -/
abbrev TagLeads := List (List Char × List Char)

def coreTag (name : String) : List Char := ("tag:yaml.org,2002:" ++ name).toList

def defaultLeads : TagLeads := [(['!'], ['!']), (['!', '!'], coreTag "")]

/-- Anchor and tag in front of a node. -/
structure Properties where
  anchor : Option (List Char) := none
  tag : Option (List Char × List Char) := none

def Properties.isGiven (p : Properties) : Bool :=
  p.anchor.isSome || p.tag.isSome

def properties : List Token → Properties × List Token
  | .anchor a :: .tag h s :: rest => (⟨some a, some (h, s)⟩, rest)
  | .anchor a :: rest => (⟨some a, none⟩, rest)
  | .tag h s :: .anchor a :: rest => (⟨some a, some (h, s)⟩, rest)
  | .tag h s :: rest => (⟨none, some (h, s)⟩, rest)
  | ts => ({}, ts)

/-- The tag that is meant; `none` for an unknown handle. -/
def resolveTag? (leads : TagLeads) : Option (List Char × List Char) → Option (Option (List Char))
  | none => some none
  | some ([], suffix) => some (some suffix)
  | some (handle, suffix) => (leads.lookup handle).map fun lead => some (lead ++ suffix)

/-- Scalars with the tag `!` are as if they had none. -/
def scalarTag (tag : Option (List Char)) : Option (List Char) :=
  if tag = some ['!'] then none else tag

/-! ## Reading nodes -/

/-- What is read, the names known then, and the tokens that are left. -/
abbrev NodeReader (α : Type) := Option (α × AnchorNames × List Token)

def isNext (ts : List Token) (stops : List Token) : Bool :=
  ts.head?.any stops.contains

mutual

/-- A node; sequences without indentation may stand only where one begins behind a key. -/
def readNode : Nat → TagLeads → AnchorNames → (block indentless : Bool) → List Token →
    NodeReader Node
  | 0, _, _, _, _, _ => none
  | fuel + 1, leads, names, block, indentless, ts =>
    match ts with
    | .reference name :: rest => (names.lookup name).map fun i => (.reference i, names, rest)
    | _ =>
      let (p, ts) := properties ts
      match resolveTag? leads p.tag with
      | none => none
      | some tag =>
        let (anchor, names) := names.define p.anchor
        let inSequence (r : NodeReader (List Node)) : NodeReader Node :=
          r.map fun (items, more) => (.sequence anchor tag items, more)
        let inMapping (r : NodeReader (List (Node × Node))) : NodeReader Node :=
          r.map fun (entries, more) => (.mapping anchor tag entries, more)
        match ts with
        | .blockEntry :: _ =>
          if indentless then inSequence (readIndentless fuel leads names [] ts)
          else if p.isGiven then some (.scalar anchor tag [] .plain, names, ts)
          else none
        | .scalar text style :: rest => some (.scalar anchor (scalarTag tag) text style, names, rest)
        | .flowSequenceStart :: rest => inSequence (readFlowItems fuel leads names [] rest)
        | .flowMappingStart :: rest => inMapping (readFlowEntries fuel leads names [] rest)
        | .blockSequenceStart :: rest =>
          if block then inSequence (readBlockItems fuel leads names [] rest)
          else if p.isGiven then some (.scalar anchor tag [] .plain, names, ts)
          else none
        | .blockMappingStart :: rest =>
          if block then inMapping (readBlockEntries fuel leads names [] rest)
          else if p.isGiven then some (.scalar anchor tag [] .plain, names, ts)
          else none
        | _ => if p.isGiven then some (.scalar anchor tag [] .plain, names, ts) else none

/-- A node, or nothing before one of the tokens given. -/
def readOptional : Nat → TagLeads → AnchorNames → (block indentless : Bool) →
    (stops : List Token) → List Token → NodeReader Node
  | 0, _, _, _, _, _, _ => none
  | fuel + 1, leads, names, block, indentless, stops, ts =>
    if isNext ts stops then some (.nothing, names, ts)
    else readNode fuel leads names block indentless ts

/-- Items of a block sequence up to its end, last one first. -/
def readBlockItems : Nat → TagLeads → AnchorNames → List Node → List Token →
    NodeReader (List Node)
  | 0, _, _, _, _ => none
  | fuel + 1, leads, names, done, ts =>
    match ts with
    | .blockEntry :: rest =>
      match readOptional fuel leads names true false [.blockEntry, .blockEnd] rest with
      | none => none
      | some (n, names, rest) => readBlockItems fuel leads names (n :: done) rest
    | .blockEnd :: rest => some (done.reverse, names, rest)
    | _ => none

/-- Items of a sequence that is not indented. -/
def readIndentless : Nat → TagLeads → AnchorNames → List Node → List Token →
    NodeReader (List Node)
  | 0, _, _, _, _ => none
  | fuel + 1, leads, names, done, ts =>
    match ts with
    | .blockEntry :: rest =>
      match readOptional fuel leads names true false
          [.blockEntry, .key, .value, .blockEnd] rest with
      | none => none
      | some (n, names, rest) => readIndentless fuel leads names (n :: done) rest
    | _ => some (done.reverse, names, ts)

/-- Entries of a block mapping up to its end. -/
def readBlockEntries : Nat → TagLeads → AnchorNames → List (Node × Node) → List Token →
    NodeReader (List (Node × Node))
  | 0, _, _, _, _ => none
  | fuel + 1, leads, names, done, ts =>
    let stops : List Token := [.key, .value, .blockEnd]
    match ts with
    | .key :: rest =>
      match readOptional fuel leads names true true stops rest with
      | none => none
      | some (k, names, rest) =>
        match readValue fuel leads names true stops rest with
        | none => none
        | some (v, names, rest) => readBlockEntries fuel leads names ((k, v) :: done) rest
    | .blockEnd :: rest => some (done.reverse, names, rest)
    | _ => none

/-- The value behind a key, if there is one. -/
def readValue : Nat → TagLeads → AnchorNames → (block : Bool) → (stops : List Token) →
    List Token → NodeReader Node
  | 0, _, _, _, _, _ => none
  | fuel + 1, leads, names, block, stops, ts =>
    match ts with
    | .value :: rest => readOptional fuel leads names block block stops rest
    | _ => some (.nothing, names, ts)

/-- Items of a flow sequence behind its start or an item. -/
def readFlowItems : Nat → TagLeads → AnchorNames → List Node → List Token →
    NodeReader (List Node)
  | 0, _, _, _, _ => none
  | fuel + 1, leads, names, done, ts =>
    let item (ts : List Token) : NodeReader (List Node) :=
      match ts with
      | .flowSequenceEnd :: rest => some (done.reverse, names, rest)
      | .key :: rest =>
        match readPair fuel leads names rest with
        | none => none
        | some (pair, names, rest) =>
          readFlowItems fuel leads names (.mapping none none [pair] :: done) rest
      | _ =>
        match readNode fuel leads names false false ts with
        | none => none
        | some (n, names, rest) => readFlowItems fuel leads names (n :: done) rest
    match ts with
    | .flowSequenceEnd :: rest => some (done.reverse, names, rest)
    | .flowEntry :: rest => if done.isEmpty then none else item rest
    | _ => if done.isEmpty then item ts else none

/-- A single entry among the items of a flow sequence. A key that is missing takes the token
behind its mark with it. -/
def readPair : Nat → TagLeads → AnchorNames → List Token → NodeReader (Node × Node)
  | 0, _, _, _ => none
  | fuel + 1, leads, names, ts =>
    let stops : List Token := [.flowEntry, .flowSequenceEnd]
    let key? : NodeReader Node :=
      if isNext ts (.value :: stops) then some (.nothing, names, ts.tail)
      else readNode fuel leads names false false ts
    match key? with
    | none => none
    | some (k, names, rest) =>
      (readValue fuel leads names false stops rest).map fun (v, more) => ((k, v), more)

/-- Entries of a flow mapping behind its start or an entry. -/
def readFlowEntries : Nat → TagLeads → AnchorNames → List (Node × Node) → List Token →
    NodeReader (List (Node × Node))
  | 0, _, _, _, _ => none
  | fuel + 1, leads, names, done, ts =>
    let stops : List Token := [.flowEntry, .flowMappingEnd]
    let entry (ts : List Token) : NodeReader (List (Node × Node)) :=
      match ts with
      | .flowMappingEnd :: rest => some (done.reverse, names, rest)
      | .key :: rest =>
        match readOptional fuel leads names false false (.value :: stops) rest with
        | none => none
        | some (k, names, rest) =>
          match readValue fuel leads names false stops rest with
          | none => none
          | some (v, names, rest) => readFlowEntries fuel leads names ((k, v) :: done) rest
      | _ =>
        match readNode fuel leads names false false ts with
        | none => none
        | some (k, names, rest) => readFlowEntries fuel leads names ((k, .nothing) :: done) rest
    match ts with
    | .flowMappingEnd :: rest => some (done.reverse, names, rest)
    | .flowEntry :: rest => if done.isEmpty then none else entry rest
    | _ => if done.isEmpty then entry ts else none

end

/-! ## Documents -/

/-- Directives in front of a document: what they say about tags. Versions are known ones, and
nothing is said twice. -/
def readDirectives : List Token → (versioned : Bool) → TagLeads → Option (TagLeads × List Token)
  | .version major minor :: rest, versioned, leads =>
    if versioned || major ≠ 1 || !(minor == 1 || minor == 2) then none
    else readDirectives rest true leads
  | .tagDirective handle lead :: rest, versioned, leads =>
    if (leads.lookup handle).isSome then none
    else readDirectives rest versioned (leads ++ [(handle, lead)])
  | ts, _, leads => some (leads, ts)

def isDocumentEdge (t : Token) : Bool :=
  match t with
  | .version _ _ => true
  | .tagDirective _ _ => true
  | .documentStart => true
  | .documentEnd => true
  | .streamEnd => true
  | _ => false

/-- The node of a document behind its start. -/
def readContent (fuel : Nat) (leads : TagLeads) (ts : List Token) : NodeReader Node :=
  if ts.head?.any isDocumentEdge then some (.nothing, [], ts)
  else readNode fuel leads [] true false ts

/-- The roots of the documents in a stream. Only the first one may do without a start. -/
def readDocuments : Nat → (first : Bool) → List Token → Option (List Node)
  | 0, _, _ => none
  | fuel + 1, first, ts =>
    let ts := if first then ts else ts.dropWhile (· == .documentEnd)
    let root? : Option (NodeReader Node) :=
      match ts with
      | [] => none
      | .streamEnd :: _ => none
      | t :: _ =>
        if first && !isDocumentEdge t || first && t == .documentEnd then
          some (readNode fuel defaultLeads [] true false ts)
        else
          match readDirectives ts false [] with
          | some (leads, .documentStart :: rest) =>
            some (readContent fuel (leads ++ defaultLeads) rest)
          | _ => some none
    match root? with
    | none => some []
    | some none => none
    | some (some (root, _, rest)) =>
      let rest := match rest with
        | .documentEnd :: rest => rest
        | _ => rest
      (readDocuments fuel false rest).map (root :: ·)

/-- The roots of the documents in a text. -/
def documents? (text : List Char) : Option (List Node) :=
  (tokens? text).bind fun ts => readDocuments (8 * ts.length + 16) true ts

end Scaffold.Yaml
