import Scaffold.Template.Piece

/-!
# Reading templates

Two passes over the pieces of a template. The first settles the blanks: a tag may cut those on
either side, and a tag that opens, divides or closes a block takes a line that it has to itself
with it. The second builds the tree; blocks have to close in the order in which they open.
-/

namespace Scaffold.Template

/-! ## Blanks -/

/-- Drop the blanks in front, and the line end after them. -/
def dropLineEnd (cs : List Char) : List Char :=
  match cs.dropWhile isInlineBlank with
  | '\r' :: '\n' :: rest => rest
  | '\n' :: rest => rest
  | rest => rest

def cutInline (cs : List Char) : List Char :=
  (cs.reverse.dropWhile isInlineBlank).reverse

inductive Item where
  | text (chars : List Char)
  | tag (tag : Tag)
deriving Inhabited

/-- What the tags so far ask of the text to come. -/
structure Pending where
  /-- Cut all blanks. -/
  cut : Bool := false
  /-- Cut the rest of the line. -/
  line : Bool := false
deriving Inhabited

def settle (p : Pending) (cs : List Char) : List Char :=
  if p.cut then Text.trimStart cs
  else if p.line then dropLineEnd cs
  else cs

/-- Change the text in front, if text is what stands in front. -/
def onLastText (f : List Char → List Char) : List Item → List Item
  | .text cs :: rest => .text (f cs) :: rest
  | items => items

/-- Whether a tag takes its line with it. -/
def ownsLine : Tag → Bool
  | .value _ _ => false
  | _ => true

/-- Whether the blanks in front of it go too when a tag takes its line with it. -/
def cutsIndent : Tag → Bool
  | .inclusion _ _ => false
  | _ => true

def isComment : Tag → Bool
  | .comment => true
  | _ => false

/-- Put a tag after the items so far, last item first. -/
def putTag (items : List Item) (p : Pending) (m : Marked) (alone : Bool) : List Item × Pending :=
  let items := if m.cutBefore then onLastText Text.trimEnd items else items
  let p := if isComment m.tag then p else { p with cut := m.cutAfter }
  if ownsLine m.tag then
    let items := if alone && cutsIndent m.tag then onLastText cutInline items else items
    (.tag m.tag :: items, { p with line := alone })
  else (.tag m.tag :: items, p)

/-- Items of the pieces, last item first. -/
def settleAll (items : List Item) (p : Pending) : List Piece → List Item
  | [] => items
  | .gap cs :: rest =>
    if p.cut then settleAll items p rest
    else settleAll (.text (settle p cs) :: items) { p with line := false } rest
  | .text cs :: rest => settleAll (.text (settle p cs) :: items) { p with line := false } rest
  | .verbatim cs :: rest => settleAll (.text (settle p cs) :: items) p rest
  | .tag m alone :: rest =>
    let (items, p) := putTag items p m alone
    settleAll items p rest

def itemsOf (pieces : List Piece) : List Item :=
  (settleAll [] {} pieces).reverse

/-! ## The tree -/

/-- A part of a block: the call that decides about it, if any is left, and its nodes. -/
structure Arm where
  head : Option Opening
  nodes : List Node
deriving Inhabited

inductive FrameKind where
  | block
  | raw
  | define (call : Call)
  | inclusion (call : Call)
deriving Inhabited

/-- A block that is not closed yet. Arms and nodes stand last one first. -/
structure Frame where
  kind : FrameKind
  name : String
  /-- The nodes in front of the block. -/
  before : List Node
  arms : List Arm
  /-- The head of the arm in progress. -/
  head : Option Opening
deriving Inhabited

/-- The name that has to close a block. -/
def nameOf (call : Call) : String :=
  match call.head with
  | .word w => w
  | .reference r => r.raw
  | _ => ""

/-- The nodes of the arms, given last one first; each next arm stands for what is not the case. -/
def nodesOfArms : List Node → List Arm → List Node
  | otherwise, [] => otherwise
  | _, ⟨none, nodes⟩ :: rest => nodesOfArms nodes rest
  | otherwise, ⟨some head, nodes⟩ :: rest => nodesOfArms [.block head nodes otherwise] rest

/-- The nodes of a block that closes. -/
def closeFrame (f : Frame) (nodes : List Node) : List Node :=
  match f.kind with
  | .define call => .define call (some nodes.reverse) :: f.before
  | .inclusion call => .inclusion call [] (some nodes.reverse) :: f.before
  | _ => nodesOfArms [] (⟨f.head, nodes.reverse⟩ :: f.arms) ++ f.before

/-- Begin the next arm of the innermost block; after the last arm there is none. -/
def nextArm (head : Option Opening) (frames : List Frame) (nodes : List Node) :
    Option (List Frame) :=
  match frames with
  | f :: rest =>
    match f.kind, f.head with
    | .block, some h => some ({ f with arms := ⟨some h, nodes.reverse⟩ :: f.arms, head } :: rest)
    | _, _ => none
  | [] => none

/-- Build the nodes of the items; `nodes` are those of the innermost block, last one first. -/
def build (frames : List Frame) (nodes : List Node) : List Item → Option (List Node)
  | [] => if frames.isEmpty then some nodes.reverse else none
  | .text cs :: rest => build frames (.text cs :: nodes) rest
  | .tag t :: rest =>
    match t with
    | .value call escaped => build frames (.value call escaped :: nodes) rest
    | .comment => build frames nodes rest
    | .define call => build frames (.define call none :: nodes) rest
    | .inclusion call indent => build frames (.inclusion call indent none :: nodes) rest
    | .opening head => build (⟨.block, nameOf head.call, nodes, [], some head⟩ :: frames) [] rest
    | .rawOpening head => build (⟨.raw, nameOf head.call, nodes, [], some head⟩ :: frames) [] rest
    | .defineOpening call =>
      build (⟨.define call, nameOf call, nodes, [], none⟩ :: frames) [] rest
    | .inclusionOpening call =>
      build (⟨.inclusion call, nameOf call, nodes, [], none⟩ :: frames) [] rest
    | .otherwise =>
      match nextArm none frames nodes with
      | some frames => build frames [] rest
      | none => none
    | .otherwiseCall head =>
      match nextArm (some head) frames nodes with
      | some frames => build frames [] rest
      | none => none
    | .closing name =>
      match frames with
      | f :: frames => if f.name = name then build frames (closeFrame f nodes) rest else none
      | [] => none
    | .rawClosing name =>
      match frames with
      | f :: frames => if f.name = name then build frames (closeFrame f nodes) rest else none
      | [] => none

/-- The nodes of a template. -/
def parse? (source : String) : Option (List Node) :=
  (piecesOf? source.toList).bind fun pieces => build [] [] (itemsOf pieces)

end Scaffold.Template
