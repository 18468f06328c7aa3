/-
Driving through a document. The document is gone through piece by piece, and a listener is called on
the way, so that it works on the chain between any two pieces. When a node ends, the one that is
then on top of the chain is taken off, and if it is an element, its namespaces go with it. So one
who puts nodes on the chain, or takes nodes off, also changes which namespaces are in scope behind
that.

A handler is a listener that knows the context and its own state only. To stream a text is to drive
its handler through the reading of the text.
-/

import StreamPath.Stream.Handler
import StreamPath.Stream.Scan
import StreamPath.Xml.Reading

namespace StreamPath

/-- Where a drive stands in the document, and what the handler works on. -/
structure Progress (σ : Type) where
  scan : Scan
  stage : Stage σ
deriving Inhabited

/-- A computation of a drive. -/
abbrev Drive (σ α : Type) := ExceptT StreamError (StateM (Progress σ)) α

/-- One who is called on the way. -/
structure Listener (σ : Type) where
  /-- A node has begun, and is on top of the chain. -/
  node : Drive σ Unit
  /-- The node on top of the chain is about to end. -/
  endNode : Drive σ Unit

namespace Drive

variable {σ α : Type}

/-- Where the drive stands in the document. -/
def scan : Drive σ Scan := return (← get).scan

/-- Changes where the drive stands in the document. -/
def changeScan (change : Scan → Scan) : Drive σ Unit :=
  modify fun progress => { progress with scan := change progress.scan }

/-- A computation on the stage alone. -/
def visit (computation : Visit σ α) : Drive σ α := fun progress =>
  let (result, stage) := computation progress.stage
  (result, { progress with stage })

variable (listener : Listener σ) (options : WalkOptions)

/-- A node begins. -/
def enter (make : Nat → Node) : Drive σ Unit := do
  let serial := (← scan).serial
  changeScan fun scan => { scan with serial := serial + 1 }
  visit (Visit.changeContext fun context => context.push (make serial))
  listener.node

/-- The node on top of the chain ends. -/
def leave : Drive σ Unit := do
  listener.endNode
  let top := (← visit Visit.context).chain.current?
  visit (Visit.changeContext Context.pop)
  if top.any fun node => node.kind = .element then
    changeScan fun scan => { scan with scopes := scan.scopes.tail }

/-- A node without children begins and ends. -/
def leaf (make : Nat → Node) : Drive σ Unit := do
  enter listener make
  leave listener

/-- The text that has been gathered becomes a node, unless it is left out. -/
def flush : Drive σ Unit := do
  let text := (← scan).pending
  changeScan fun scan => { scan with pending := [] }
  if Scan.keepsText options text then
    leaf listener fun serial => Node.text serial (String.ofList text)

/-- The element of a tag begins. -/
def beginElement (position : Nat) (body : List Char) : Drive σ Unit := do
  match (← scan).elementOf position body with
  | .error error => throw error
  | .ok node =>
    changeScan fun scan => { scan with scopes := node.namespaces :: scan.scopes }
    enter listener fun _ => node

/-- One piece of markup. -/
def piece (position : Nat) : Markup → Drive σ Unit
  | .startTag body => do
    flush listener options
    beginElement listener position body
  | .emptyTag body => do
    flush listener options
    beginElement listener position body
    leave listener
  | .endTag _ => do
    flush listener options
    leave listener
  | .characters content => changeScan fun scan => scan.gather content
  | .reference name =>
    match Reference.resolve? name with
    | some c => changeScan fun scan => scan.gather [c]
    | none => throw (.unknownEntity (String.ofList name))
  | .cdata content => do
    flush listener options
    leaf listener fun serial => Node.cdata serial (String.ofList content)
  | .comment content => do
    flush listener options
    if options.reportsComments then
      leaf listener fun serial => Node.comment serial (String.ofList content)
  | .instruction content => do
    if !Markup.isXmlDeclaration content then
      flush listener options
      leaf listener fun serial =>
        let (target, data) := Markup.splitInstruction content
        Node.processingInstruction serial (String.ofList target) (String.ofList data)
  | .doctype _ => return

/-- Pieces of markup, up to the first error. -/
def pieces : List (Nat × Markup) → Drive σ Unit
  | [] => return
  | (position, markup) :: rest => do
    piece listener options position markup
    pieces rest

/-- A document from its root on. -/
def document (reading : Reading) : Drive σ Unit := do
  enter listener Node.root
  pieces listener options reading.pieces
  match reading.fault with
  | some fault => throw (.markup fault)
  | none =>
    flush listener options
    leave listener

end Drive

namespace Handler

variable {σ : Type}

/-- A handler as a listener. -/
def listener (handler : Handler σ) : Listener σ where
  node := Drive.visit handler.node
  endNode := Drive.visit handler.endNode

/-- Drives a handler through a document. The nodes are numbered from the given number on. -/
def drive (handler : Handler σ) (options : WalkOptions) (serial : Nat) (reading : Reading) :
    Visit σ Unit := fun stage =>
  let (result, progress) :=
    Drive.document handler.listener options reading { scan := { serial }, stage }
  (result, progress.stage)

/-- Streams a text through a handler. -/
def stream (handler : Handler σ) (options : WalkOptions) (serial : Nat) (text : String) :
    Visit σ Unit :=
  handler.drive options serial (Reading.ofText text.toList)

end Handler

end StreamPath
