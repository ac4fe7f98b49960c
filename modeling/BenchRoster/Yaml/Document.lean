/-
# Documents as trees

The events of a document form a tree.  Where a fault cuts the text off, the tree has a node that
says so, and the values before it are still there.  Anchored values are kept in a table, under the
number that their anchor had when they began.
-/
import BenchRoster.Yaml.Events

namespace BenchRoster.Yaml

/-- A value of a document. -/
inductive Node where
  | scalar (s : Scalar) (mark : Mark)
  | reference (target : Nat) (mark : Mark)
  | sequence (tag : Option TagText) (mark : Mark) (items : List Node)
  | mapping (tag : Option TagText) (mark : Mark) (entries : List (Node × Node))
  /-- The value of a text that holds none. -/
  | void
  /-- The text is cut off here. -/
  | cut

instance : Inhabited Node := ⟨.cut⟩

mutual

/-- The value is there to its end. -/
def Node.whole : Node → Bool
  | .scalar _ _ => true
  | .reference _ _ => true
  | .sequence _ _ items => wholeItems items
  | .mapping _ _ entries => wholeEntries entries
  | .void => true
  | .cut => false

def wholeItems : List Node → Bool
  | [] => true
  | n :: ns => n.whole && wholeItems ns

def wholeEntries : List (Node × Node) → Bool
  | [] => true
  | (k, v) :: es => k.whole && v.whole && wholeEntries es

end

/-- What ends a document early. -/
inductive Breakage where
  | text (f : Fault)
  | unknownAnchor (mark : Mark)
deriving DecidableEq, Repr

def Breakage.message : Breakage → String
  | .text f => f.message
  | .unknownAnchor mark => "unknown anchor" ++ mark.suffix

/-- A document. -/
structure Document where
  root : Node
  /-- Anchored values by number. -/
  targets : List (Nat × Node)
  /-- Why the document is cut off. -/
  breakage : Option Breakage
  /-- The number of events. -/
  size : Nat
  /-- The text goes on with another document. -/
  more : Bool

/-- A collection that is not finished. -/
structure Frame where
  isMapping : Bool
  tag : Option TagText
  mark : Mark
  /-- The number of the event that opened it, if it is anchored. -/
  serial : Option Nat
  /-- The values in it, latest first. -/
  children : List Node

/-- Values in turn as keys and values. -/
def pairUp : List Node → List (Node × Node)
  | k :: v :: ns => (k, v) :: pairUp ns
  | [k] => [(k, .cut)]
  | [] => []

/-- The finished collection. -/
def Frame.node (f : Frame) : Node :=
  if f.isMapping then .mapping f.tag f.mark (pairUp f.children.reverse)
  else .sequence f.tag f.mark f.children.reverse

/-- The collection with its end cut off. -/
def Frame.cutNode (f : Frame) : Node :=
  if f.isMapping ∧ f.children.length % 2 = 0 then
    { f with children := .cut :: .cut :: f.children }.node
  else { f with children := .cut :: f.children }.node

/-- A tree in progress. -/
structure Builder where
  frames : List Frame
  root : Option Node
  /-- The numbers of anchors by name. -/
  anchors : List (String × Nat)
  /-- The events that numbers stand for. -/
  serials : List (Nat × Nat)
  /-- Anchored values by the event that began them. -/
  anchored : List (Nat × Node)
  size : Nat

namespace Builder

def start : Builder := ⟨[], none, [], [], [], 0⟩

/-- Sets the value of a key in a list of pairs. -/
def assign {α β : Type} [BEq α] (key : α) (value : β) (es : List (α × β)) : List (α × β) :=
  (key, value) :: es.filter fun e => e.1 != key

/-- Notes an anchor at the value that begins now.  Its number is the number of names so far. -/
def note (b : Builder) (anchor : Option String) : Option Nat × Builder :=
  match anchor with
  | none => (none, b)
  | some name =>
    -- a name that is used again takes over the number of another anchor
    let id := b.anchors.length
    (some b.size, { b with
      anchors := assign name id b.anchors, serials := assign id b.size b.serials })

/-- Puts a finished value where it belongs. -/
def place (b : Builder) (serial : Option Nat) (n : Node) : Builder :=
  let b := match serial with
    | none => b
    | some k => { b with anchored := (k, n) :: b.anchored }
  match b.frames with
  | [] => { b with root := some n }
  | f :: fs => { b with frames := { f with children := n :: f.children } :: fs }

def openFrame (b : Builder) (isMapping : Bool) (p : Properties) (mark : Mark) : Builder :=
  let (serial, b) := b.note p.anchor
  { b with frames := ⟨isMapping, p.tag, mark, serial, []⟩ :: b.frames }

def closeFrame (b : Builder) (node : Frame → Node) : Builder :=
  match b.frames with
  | [] => b
  | f :: fs => { b with frames := fs }.place f.serial (node f)

/-- Adds an event of the document. -/
def add (b : Builder) (e : MarkedEvent) : Except Breakage Builder :=
  let counted (b : Builder) : Except Breakage Builder := .ok { b with size := b.size + 1 }
  match e.1 with
  | .reference name =>
    match b.anchors.lookup name with
    | some id => counted (b.place none (.reference id e.2))
    | none => .error (.unknownAnchor e.2)
  | .scalar anchor s =>
    let (serial, b) := b.note anchor
    counted (b.place serial (.scalar s e.2))
  | .sequenceStart p => counted (b.openFrame false p e.2)
  | .mappingStart p => counted (b.openFrame true p e.2)
  | .sequenceEnd | .mappingEnd => counted (b.closeFrame Frame.node)
  | .documentStart | .documentEnd => .ok b

/-- Adds the events of a document; answers what is left of them after its end. -/
def addAll : Builder → List MarkedEvent → Builder × Option Breakage × Option (List MarkedEvent)
  | b, [] => (b, none, none)
  | b, e :: es =>
    if e.1 = .documentEnd then (b, none, some es)
    else
      match b.add e with
      | .error f => (b, some f, none)
      | .ok b => addAll b es

/-- Cuts off the collections that are not finished. -/
def cutAll (b : Builder) : Builder :=
  b.frames.foldl (fun b _ => b.closeFrame Frame.cutNode) b

/-- The anchored values by number. -/
def targets (b : Builder) : List (Nat × Node) :=
  b.serials.filterMap fun s => (b.anchored.lookup s.2).map (s.1, ·)

end Builder

/-- The first document of a text. -/
def Document.ofString (s : String) : Document :=
  let (es, f) := events s
  let (b, unknown, rest) := Builder.start.addAll es
  let b := b.cutAll
  let breakage :=
    match unknown, rest with
    | some u, _ => some u
    | none, some _ => none
    | none, none => f.map .text
  let void := rest.isNone && breakage.isNone
  { root := b.root.getD (if void then .void else .cut)
    targets := b.targets
    breakage
    size := if void then b.size + 1 else b.size
    more := match rest with
      | some es => !es.isEmpty || f.isSome
      | none => false }

end BenchRoster.Yaml
