import MathProg.Automaton.Basic
import MathProg.Tree

/-!
The stack of a parser that follows several readings of a text at once. The readings share their
common parts: the stack is a graph whose vertices are parser states, and a reading is a vertex to
look down from. A vertex may have several links down, after readings have met in one state.
-/

namespace MathProg

open Automaton (State)

/-- A link down to the vertex below, with the tree between the two, or none where a reading lost its
way. -/
structure Link where
  below : Nat
  tree : Option Tree
  deriving Inhabited

/-- A parser state at a place in the text, with the price and the weight of what is below. -/
structure Vertex where
  state : State
  position : Extent
  links : List Link
  cost : Nat
  weight : Nat
  deriving Inhabited

/-- A state that a reading passed on its way, and how many trees ago. -/
structure Waypoint where
  position : Extent
  depth : Nat
  state : State
  deriving Repr, Inhabited

/-- A reading goes on; or waits with a token that does not fit; or is given up. -/
inductive Status where
  | active
  | paused (lookahead : Leaf)
  | halted
  deriving Inhabited

/-- A reading of the text so far. The weight at its last error tells how much progress it made
since. -/
structure Version where
  top : Nat
  waypoints : Option (List Waypoint)
  weightAtError : Nat
  status : Status
  deriving Inhabited

/-- All readings, the most promising one first. -/
structure Stack where
  vertices : Array Vertex
  versions : List Version
  deriving Inhabited

/-- Trees that were popped, and the reading that is left. -/
structure Slice where
  trees : List Tree
  version : Nat
  deriving Inhabited

namespace Status

def isActive : Status → Bool
  | active => true
  | _ => false

def isPaused : Status → Bool
  | paused _ => true
  | _ => false

def isHalted : Status → Bool
  | halted => true
  | _ => false

end Status

namespace Stack

/-- One reading, at the start of the text. -/
def initial : Stack :=
  ⟨#[⟨Automaton.start, 0, [], 0, 0⟩], [⟨0, none, 0, .active⟩]⟩

/-! ### Looking -/

def size (g : Stack) : Nat := g.versions.length

def version (g : Stack) (v : Nat) : Version := g.versions[v]?.getD default

def vertex (g : Stack) (i : Nat) : Vertex := g.vertices[i]?.getD default

def top (g : Stack) (v : Nat) : Vertex := g.vertex (g.version v).top

def state (g : Stack) (v : Nat) : State := (g.top v).state

def position (g : Stack) (v : Nat) : Extent := (g.top v).position

def isActive (g : Stack) (v : Nat) : Bool := (g.version v).status.isActive

def isPaused (g : Stack) (v : Nat) : Bool := (g.version v).status.isPaused

def isHalted (g : Stack) (v : Nat) : Bool := (g.version v).status.isHalted

def haltedCount (g : Stack) : Nat := (g.versions.filter (·.status.isHalted)).length

/-- The price of a reading. One that waits, or has just lost its way, pays for a recovery. -/
def cost (g : Stack) (v : Nat) : Nat :=
  let t := g.top v
  let lostHere := t.state == Automaton.lost && t.links.head?.any (·.tree.isNone)
  t.cost + (if g.isPaused v || lostHere then Tree.prices.recovery else 0)

/-! ### Changing the list of readings -/

def modify (g : Stack) (v : Nat) (f : Version → Version) : Stack :=
  { g with versions := g.versions.modify v f }

def remove (g : Stack) (v : Nat) : Stack := { g with versions := g.versions.eraseIdx v }

def halt (g : Stack) (v : Nat) : Stack := g.modify v fun r => { r with status := .halted }

def pause (g : Stack) (v : Nat) (lookahead : Leaf) : Stack :=
  let w := (g.top v).weight
  g.modify v fun r => { r with status := .paused lookahead, weightAtError := w }

def resume (g : Stack) (v : Nat) : Stack := g.modify v fun r => { r with status := .active }

/-- Adds a reading like `v`; it does not know the way back. -/
def copy (g : Stack) (v : Nat) : Stack :=
  { g with versions := g.versions ++ [{ g.version v with waypoints := none }] }

def swap (g : Stack) (v w : Nat) : Stack :=
  let a := g.version v
  let b := g.version w
  { g with versions := (g.versions.set v b).set w a }

/-- Puts the later reading `source` in the place of `target`, which leaves its way back behind. -/
def replace (g : Stack) (target source : Nat) : Stack :=
  if target = source then g
  else
    let s := g.version source
    let way := s.waypoints.orElse fun _ => (g.version target).waypoints
    { g with versions := (g.versions.set target { s with waypoints := way }).eraseIdx source }

/-- The progress of a reading since its last error. If the stack has shrunk below the error, the
count starts anew. -/
def progress (g : Stack) (v : Nat) : Nat × Stack :=
  let w := (g.top v).weight
  if w < (g.version v).weightAtError then (0, g.modify v fun r => { r with weightAtError := w })
  else (w - (g.version v).weightAtError, g)

/-! ### Pushing -/

/-- Pushes a tree, or a gap where the reading lost its way. -/
def push (g : Stack) (v : Nat) (tree : Option Tree) (state : State) : Stack :=
  let below := (g.version v).top
  let b := g.vertex below
  let added : Vertex :=
    ⟨state, b.position + tree.elim 0 Tree.total, [⟨below, tree⟩], b.cost + tree.elim 0 Tree.cost,
      b.weight + tree.elim 0 Tree.weight⟩
  let g := { g with vertices := g.vertices.push added }
  g.modify v fun r =>
    { r with
      top := g.vertices.size - 1
      weightAtError := if tree.isNone then added.weight else r.weightAtError }

def pushAll (g : Stack) (v : Nat) (trees : List Tree) (state : State) : Stack :=
  trees.foldl (fun g t => g.push v (some t) state) g

/-! ### Joining readings -/

/-- Two trees between the same places of the text that need not both be kept. -/
def interchangeable : Option Tree → Option Tree → Bool
  | none, none => true
  | some a, some b =>
    a.symbol == b.symbol &&
      ((a.cost > 0 && b.cost > 0) ||
        (a.padding.bytes == b.padding.bytes && a.size.bytes == b.size.bytes
          && a.children.length == b.children.length && a.extra == b.extra))
  | _, _ => false

/-- Two vertices at which readings may join. -/
def alike (a b : Vertex) : Bool :=
  a.state == b.state && a.position.bytes == b.position.bytes && a.cost == b.cost

/-- The most links that a vertex keeps. -/
def maxLinks : Nat := 8

/-- Adds a link to a vertex. A link that is there already is not added; where the vertices below are
alike, their links are joined instead. -/
def addLink (g : Stack) : Nat → Nat → Link → Stack
  | 0, _, _ => g
  | fuel + 1, i, l =>
    if l.below == i then g
    else
      let u := g.vertex i
      match u.links.find? fun e =>
          interchangeable e.tree l.tree &&
            (e.below == l.below || alike (g.vertex e.below) (g.vertex l.below)) with
      | some e =>
        if e.below == l.below then g
        else (g.vertex l.below).links.foldl (fun g l' => addLink g fuel e.below l') g
      | none =>
        if u.links.length == maxLinks then g
        else
          let w := (g.vertex l.below).weight + l.tree.elim 0 Tree.weight
          { g with vertices :=
              g.vertices.modify i fun u =>
                { u with links := u.links ++ [l], weight := max u.weight w } }

def canMerge (g : Stack) (v w : Nat) : Bool :=
  g.isActive v && g.isActive w && alike (g.top v) (g.top w)

/-- Joins reading `w` into `v` if the two have met. -/
def merge? (g : Stack) (v w : Nat) : Option Stack :=
  if g.canMerge v w then
    let i := (g.version v).top
    let g := (g.top w).links.foldl (fun g l => addLink g (g.vertices.size + 1) i l) g
    let t := g.vertex i
    let g := if t.state == Automaton.lost then
        g.modify v fun r => { r with weightAtError := t.weight }
      else g
    some (g.remove w)
  else none

/-! ### Walking down -/

/-- A walk down from the top of a reading: the trees passed, and how many of them count. -/
structure Walk where
  vertex : Nat
  trees : List Tree
  depth : Nat
  deriving Inhabited

/-- The most walks that are followed at once. -/
def maxWalks : Nat := 64

def Walk.down (w : Walk) (l : Link) : Walk :=
  ⟨l.below, l.tree.toList ++ w.trees, if l.tree.any Tree.extra then w.depth else w.depth + 1⟩

/-- What to do with a walk: whether to report it, and whether to end it. -/
structure Visit where
  report : Bool
  stop : Bool

/-- Moves every walk down by one link. A walk goes on over the first link, and the other links begin
new walks, which wait behind the ones that are there. `visit` sees each walk before it moves. -/
def stepWalks (g : Stack) (visit : σ → Walk → Visit × σ) (report : σ → Walk → σ) :
    List Walk → List Walk → List Walk → σ → List Walk × σ
  | [], kept, added, s => (kept.reverse ++ added, s)
  | w :: rest, kept, added, s =>
    let (visited, s) := visit s w
    let s := if visited.report then report s w else s
    match (g.vertex w.vertex).links with
    | [] => stepWalks g visit report rest kept added s
    | first :: others =>
      if visited.stop then stepWalks g visit report rest kept added s
      else
        let room := maxWalks - (kept.length + 1 + rest.length + added.length)
        stepWalks g visit report rest (w.down first :: kept)
          (added ++ (others.take room).map w.down) s

/-- Follows all walks to their ends. -/
def walk (g : Stack) (visit : σ → Walk → Visit × σ) (report : σ → Walk → σ) :
    Nat → List Walk → σ → σ
  | 0, _, s => s
  | fuel + 1, walks, s =>
    if walks.isEmpty then s
    else
      let (walks, s) := stepWalks g visit report walks [] [] s
      walk g visit report fuel walks s

/-- All walks from the top of reading `v`. No walk is longer than the number of vertices. -/
def walkFrom (g : Stack) (v : Nat) (visit : σ → Walk → Visit × σ) (report : σ → Walk → σ)
    (s : σ) : σ :=
  walk g visit report (g.vertices.size + 1) [⟨(g.version v).top, [], 0⟩] s

/-- Adds what a walk has popped. Walks that end at one vertex leave one reading behind. -/
def addSlice (like : Version) (s : List Slice × Stack) (w : Walk) : List Slice × Stack :=
  let (slices, g) := s
  match slices.reverse.findIdx? fun sl => (g.version sl.version).top == w.vertex with
  | some k =>
    let place := slices.length - k
    let same := (slices[place - 1]?.getD default).version
    (slices.take place ++ ⟨w.trees, same⟩ :: slices.drop place, g)
  | none =>
    (slices ++ [⟨w.trees, g.size⟩],
      { g with versions := g.versions ++ [⟨w.vertex, none, like.weightAtError, .active⟩] })

/-- Pops until `count` trees are popped that are not extra. -/
def popCount (g : Stack) (v count : Nat) : List Slice × Stack :=
  let like := g.version v
  g.walkFrom v (fun s w => (⟨w.depth == count, w.depth == count⟩, s)) (addSlice like) ([], g)

/-- Pops everything. -/
def popAll (g : Stack) (v : Nat) : List Slice × Stack :=
  let like := g.version v
  g.walkFrom v (fun s w => (⟨(g.vertex w.vertex).links.isEmpty, false⟩, s)) (addSlice like) ([], g)

/-- Pops an error from the top, if there is one. -/
def popError (g : Stack) (v : Nat) : Option Tree × Stack :=
  match (g.top v).links.find? fun l => l.tree.any Tree.isError with
  | some l => (l.tree, g.modify v fun r => { r with top := l.below })
  | none => (none, g)

/-- How far back the way is remembered. -/
def maxDepth : Nat := 16

/-- Whether a state is known at a depth already. -/
def knownWaypoint (ws : List Waypoint) (depth : Nat) (state : State) : Bool :=
  (ws.reverse.takeWhile fun e => !(e.depth < depth)).any fun e =>
    e.depth == depth && e.state == state

/-- Notes the states that a reading has passed, the nearest first. -/
def recordWaypoints (g : Stack) (v : Nat) : Stack :=
  let visit (ws : List Waypoint) (w : Walk) : Visit × List Waypoint :=
    if w.depth > maxDepth then (⟨false, true⟩, ws)
    else
      let t := g.vertex w.vertex
      if knownWaypoint ws w.depth t.state then (⟨false, false⟩, ws)
      else (⟨false, false⟩, ws ++ [⟨t.position, w.depth, t.state⟩])
  let ws := g.walkFrom v visit (fun ws _ => ws) []
  g.modify v fun r => { r with waypoints := some ws }

end Stack

end MathProg
