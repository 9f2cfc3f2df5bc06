import MathProg.Parse.Rivalry
import MathProg.Token.Lookahead

/-!
Parsing on after an error. Several readings of the text are followed side by side: some supply a
token that the text lacks, some drop what was read since an earlier state, some skip tokens. They
pay for what they supply, drop and skip, and the cheapest one that reaches the end is the answer.
-/

namespace MathProg

open Automaton (State Rule Action)

/-- A token that was read before, where, and in which state. -/
structure KnownToken where
  leaf : Leaf
  place : Nat
  readIn : State
  deriving Inhabited

/-- A parse in progress. -/
structure Recovery where
  source : List Char
  stack : Stack
  known : Option KnownToken
  finished : Option Tree
  finishedCount : Nat
  deriving Inhabited

namespace Recovery

/-- The most readings that are followed in the long run. -/
def maxVersions : Nat := 6

/-- How many more there may be for a while. -/
def versionOverflow : Nat := 4

/-- Whether any finished tree is at most this expensive, or another reading is better than `v` would
be with this price. -/
def isBeaten (m : Recovery) (v cost : Nat) : Bool × Recovery :=
  if m.finished.any (·.cost ≤ cost) then (true, m)
  else
    let place := (m.stack.position v).bytes
    let (progress, g) := m.stack.progress v
    let (beaten, g) := g.hasBetter v ⟨cost, progress, false⟩ place g.size 0
    (beaten, { m with stack := g })

/-! ### Tokens -/

/-- Whether a token that was read in another state can be used: the two states read alike, and the
token fits. The end of the text is only used in the state it was read in. -/
def isUsable (k : KnownToken) (s : State) : Bool :=
  (Automaton.action? s k.leaf.symbol).isSome
    && Automaton.modeIndex k.readIn == Automaton.modeIndex s
    && (k.leaf.symbol != Symbol.endOfText || k.readIn == s)

/-- The next token of a reading. -/
def lookahead (m : Recovery) (v : Nat) : Leaf × Recovery :=
  let position := m.stack.position v
  let s := m.stack.state v
  match m.known.filter fun k => k.place == position.bytes && isUsable k s with
  | some k => (k.leaf, m)
  | none =>
    let leaf := (Automaton.mode s).next (position.bytes == 0) (m.source.drop position.chars)
    (leaf, { m with known := some ⟨leaf, position.bytes, s⟩ })

/-! ### Reducing -/

/-- The children of a node where several walks end in one reading: the trees of the best walk,
the extras at its end apart. -/
def bestChildren (r : Rule) (first : List Tree × List Tree) (others : List (List Tree)) :
    Tree × List Tree :=
  others.foldl (fun (node, extras) trees =>
      let (children, spare) := Tree.splitTrailingExtras trees
      if Tree.prefersSecond node (.node r.symbol [] children false) then
        (Tree.ofRule r children, spare)
      else (node, extras))
    (Tree.ofRule r first.1, first.2)

/-- Joins reading `w` into the first of some other readings that it has met. -/
def mergeInto (g : Stack) (others : List Nat) (w : Nat) : Option Stack :=
  others.findSome? fun j => g.merge? j w

/-- Puts the node of each popped slice on its reading. -/
def reduceSlices (r : Rule) (v : Nat) : Nat → List Slice → Nat → Stack → Stack
  | 0, _, _, g => g
  | _ + 1, [], _, g => g
  | fuel + 1, sl :: rest, removed, g =>
    let same := rest.takeWhile (·.version == sl.version)
    let rest := rest.dropWhile (·.version == sl.version)
    let w := sl.version - removed
    if w > maxVersions + versionOverflow + g.haltedCount then
      reduceSlices r v fuel rest (removed + 1) (g.remove w)
    else
      let (node, extras) :=
        bestChildren r (Tree.splitTrailingExtras sl.trees) (same.map (·.trees))
      let target := (Automaton.successor? (g.state w) r.symbol).getD Automaton.lost
      let g := g.pushAll w (node :: extras) target
      match mergeInto g ((List.range w).filter (· != v)) w with
      | some g => reduceSlices r v fuel rest (removed + 1) g
      | none => reduceSlices r v fuel rest removed g

/-- Reduces a reading; the outcomes are new readings behind the others. Answers with the first of
them, if there is one. -/
def reduce (m : Recovery) (v : Nat) (r : Rule) : Option Nat × Recovery :=
  let before := m.stack.size
  let (slices, g) := m.stack.popCount v r.length
  let g := reduceSlices r v (slices.length + 1) slices 0 g
  (if g.size > before then some before else none, { m with stack := g })

/-! ### Reducing without regard to the next token -/

/-- The tokens in question: one token, or all of them. -/
def tokensOf (t : Symbol) : List Symbol :=
  if t == Symbol.endOfText then (List.range Symbol.tokenCount).drop 1 else [t]

/-- Whether a state takes one of the tokens as it stands. -/
def canShift (s : State) (ts : List Symbol) : Bool :=
  ts.any fun t => match Automaton.action? s t with
    | some (.shift _) | some .recover => true
    | _ => false

/-- The different reductions that a state makes on some tokens; rules that make the same symbol of
as many children count as one. -/
def reductionsOn (s : State) (ts : List Symbol) : List Rule :=
  ts.foldl (fun rs t => match Automaton.action? s t with
    | some (.reduce r) =>
      if r.length > 0 && !rs.any (fun q => q.symbol == r.symbol && q.length == r.length) then
        rs ++ [r]
      else rs
    | _ => rs) []

/-- Makes each reduction and answers with the outcome of the last one. -/
def reduceEach (m : Recovery) (v : Nat) (rs : List Rule) : Option Nat × Recovery :=
  rs.foldl (fun (_, m) r => m.reduce v r) (none, m)

/-- Makes all reductions that are possible in reading `begin` and in the readings that come of them,
on one token or on any. Tells whether one of these readings can shift; a reading that can neither
shift the one token nor be reduced on it is dropped. -/
def reduceAll (t : Symbol) (first initial : Nat) : Nat → Nat → Nat → Bool → Recovery → Bool × Recovery
  | 0, _, _, found, m => (found, m)
  | fuel + 1, round, v, found, m =>
    let count := m.stack.size
    if v ≥ count then (found, m)
    else
      match mergeInto m.stack ((List.range v).drop initial) v with
      | some g => reduceAll t first initial fuel (round + 1) v found { m with stack := g }
      | none =>
        let s := m.stack.state v
        let ts := tokensOf t
        let (outcome, m) := m.reduceEach v (reductionsOn s ts)
        let next := if v == first then count else v + 1
        if canShift s ts then reduceAll t first initial fuel (round + 1) next true m
        else
          match outcome with
          | some w =>
            if round < maxVersions then
              reduceAll t first initial fuel (round + 1) v found
                { m with stack := m.stack.replace v w }
            else
              let g := if t == Symbol.endOfText then m.stack else m.stack.remove v
              reduceAll t first initial fuel (round + 1) next found { m with stack := g }
          | none =>
            let g := if t == Symbol.endOfText then m.stack else m.stack.remove v
            reduceAll t first initial fuel (round + 1) next found { m with stack := g }

/-- Rounds of reductions that are enough. -/
def reductionFuel : Nat := 1000

def allReductions (m : Recovery) (v : Nat) (t : Symbol) : Bool × Recovery :=
  reduceAll t v m.stack.size reductionFuel 0 v false m

/-! ### Finishing -/

/-- Ends a reading at the end of the text with the trees that close it. The better of its tree and the
tree found before is kept. -/
def accept (m : Recovery) (v : Nat) (closing : List Tree) : Recovery :=
  let (slices, g) := m.stack.popAll v
  let roots := slices.filterMap fun sl => Tree.root? (sl.trees ++ closing)
  let finished := roots.foldl (fun best root => match best with
      | some t => if Tree.prefersSecond t root then some root else some t
      | none => some root) m.finished
  let g := match slices with
    | sl :: _ => g.remove sl.version
    | [] => g
  { m with
    stack := (g.pushAll v closing Automaton.start).halt v
    finished := finished
    finishedCount := m.finishedCount + roots.length }

/-! ### Recovering -/

/-- Ends a popped slice in the state `goal`, if that is where it stands, and gives its reading up if
not: what was read since then becomes an error, and an error that stood there already becomes part of
it. A reading that was dealt with is left alone. -/
def returnSlice (goal : State) (s : Option Nat × Stack) (sl : Slice) : Option Nat × Stack :=
  let (previous, g) := s
  if previous == some sl.version then s
  else if g.state sl.version != goal then (previous, g.halt sl.version)
  else
    let (error, g) := g.popError sl.version
    let trees := (error.elim [] Tree.children) ++ sl.trees
    let (children, extras) := Tree.splitTrailingExtras trees
    let errors := if children.isEmpty then [] else [Tree.ofError children true]
    (some sl.version, g.pushAll sl.version (errors ++ extras) goal)

/-- Goes back to an earlier state, if that can be found at this depth. -/
def returnTo (g : Stack) (v depth : Nat) (goal : State) : Bool × Stack :=
  let (slices, g) := g.popCount v depth
  let (last, g) := slices.foldl (returnSlice goal) (none, g)
  (last.isSome, g)

/-- The price of going back to a waypoint. -/
def returnCost (cost : Nat) (position : Extent) (w : Waypoint) : Nat :=
  cost + w.depth * Tree.prices.skippedTree
    + (position.bytes - w.position.bytes) * Tree.prices.skippedByte
    + (position.rows - w.position.rows) * Tree.prices.skippedRow

/-- Tries the waypoints, the nearest first, for a state in which the token fits. -/
def tryWaypoints (v : Nat) (look : Leaf) (moved : Bool) (cost before : Nat) :
    List Waypoint → Recovery → Bool × Recovery
  | [], m => (false, m)
  | w :: ws, m =>
    let position := m.stack.position v
    let rivals := (List.range before).any fun j =>
      m.stack.state j == w.state && (m.stack.position j).bytes == position.bytes
    if w.state == Automaton.lost || w.position.bytes == position.bytes || rivals then
      tryWaypoints v look moved cost before ws m
    else
      let (beaten, m) := m.isBeaten v (returnCost cost position w)
      if beaten then (false, m)
      else if (Automaton.action? w.state look.symbol).isSome then
        let (done, g) := returnTo m.stack v (if moved then w.depth + 1 else w.depth) w.state
        let m := { m with stack := g }
        if done then (true, m) else tryWaypoints v look moved cost before ws m
      else tryWaypoints v look moved cost before ws m

/-- Goes back to an earlier state, if the way is known. Text that is no token fits nowhere. -/
def goBack (m : Recovery) (v : Nat) (look : Leaf) (moved : Bool) : Bool × Recovery :=
  match (m.stack.version v).waypoints with
  | some ws =>
    if look.symbol == Symbol.error then (false, m)
    else tryWaypoints v look moved (m.stack.cost v) m.stack.size ws m
  | none => (false, m)

/-- Drops the readings from number `before` on that are not active. -/
def dropInactive (g : Stack) (before : Nat) : Stack :=
  { g with versions :=
      g.versions.take before ++ (g.versions.drop before).filter (·.status.isActive) }

/-- Skips a token: it joins the chain of tokens that were skipped before it. -/
def skip (g : Stack) (v : Nat) (look : Leaf) (moved : Bool) : Stack :=
  let token := (Tree.leaf look).withExtra (look.extra || look.symbol == Symbol.comment)
  let chain := Tree.ofSkipped [token]
  if moved then
    match g.popCount v 1 with
    | (sl :: rest, g) =>
      let g := if rest.isEmpty then g
        else { g with versions := g.versions.take (sl.version + 1) }
      (g.replace v sl.version).push v (some (Tree.ofSkipped (sl.trees ++ [chain]))) Automaton.lost
    | ([], g) => g.push v (some chain) Automaton.lost
  else g.push v (some chain) Automaton.lost

/-- Looks at the readings up to the first one that is not in error. -/
def review (g : Stack) : Nat → Nat → Stack
  | 0, _ => g
  | fuel + 1, i =>
    if i ≥ g.size then g
    else
      let (s, g) := g.standing i
      if s.inError then review g fuel (i + 1) else g

/-- A lost reading and its next token. Going back to an earlier state makes a new reading; beside
that the token is skipped, unless that is beaten already. At the end of the text everything becomes
an error. -/
def recover (m : Recovery) (v : Nat) (look : Leaf) : Recovery :=
  let before := m.stack.size
  let (progress, g) := m.stack.progress v
  let m := { m with stack := g }
  let moved := progress > 0
  let cost := m.stack.cost v
  let (returned, m) := m.goBack v look moved
  let m := { m with stack := dropInactive m.stack before }
  if look.symbol == Symbol.endOfText then
    m.accept v [Tree.ofError [] false, .leaf look]
  else if returned && m.stack.size > maxVersions then { m with stack := m.stack.halt v }
  else
    let total := (Tree.leaf look).total
    let (beaten, m) := m.isBeaten v (cost + Tree.prices.skippedTree + Tree.stretchCost total)
    if beaten then { m with stack := m.stack.halt v }
    else
      let g := skip m.stack v look moved
      { m with stack := review g g.size 0 }

/-- Tries to supply the token `t` in reading `v`: the state after it has to reduce on the next
token, and some reading that comes of it has to shift that token. -/
def supply (m : Recovery) (v : Nat) (t : Symbol) (look : Leaf) : Bool × Recovery :=
  let s := m.stack.state v
  match Automaton.after? s t with
  | none => (false, m)
  | some target =>
    if target == s || (Automaton.reduction? target look.symbol).isNone then (false, m)
    else
      let w := m.stack.size
      let g := (m.stack.copy v).push w (some (Tree.missing t)) target
      { m with stack := g }.allReductions w look.symbol

def supplyFirst (m : Recovery) (v : Nat) (look : Leaf) : List Symbol → Bool × Recovery
  | [] => (false, m)
  | t :: ts =>
    let (done, m) := m.supply v t look
    if done then (true, m) else supplyFirst m v look ts

/-- Lets readings lose their way, after trying to supply a token in each until that worked once. -/
def loseWay (first previous count : Nat) (look : Leaf) : Nat → Nat → Bool → Recovery → Recovery
  | 0, _, _, m => m
  | fuel + 1, v, supplied, m =>
    if v ≥ count then m
    else
      let (supplied, m) := if supplied then (true, m)
        else m.supplyFirst v look ((List.range Symbol.tokenCount).drop 1)
      let m := { m with stack := m.stack.push v none Automaton.lost }
      loseWay first previous count look fuel (if v == first then previous else v + 1) supplied m

/-- Deals with a token that does not fit in reading `v`. -/
def handleError (m : Recovery) (v : Nat) (look : Leaf) : Recovery :=
  let previous := m.stack.size
  let (_, m) := m.allReductions v Symbol.endOfText
  let count := m.stack.size
  let m := loseWay v previous count look (count + 1) v false m
  let g := (List.range (count - previous)).foldl
    (fun g _ => (g.merge? v previous).getD g) m.stack
  { m with stack := g.recordWaypoints v }.recover v look

/-! ### Going on -/

/-- Moves reading `v` on until it has taken its next token, or ends, or waits. -/
def advanceWith (v : Nat) (look : Leaf) : Nat → Recovery → Recovery
  | 0, m => m
  | fuel + 1, m =>
    let s := m.stack.state v
    match Automaton.action? s look.symbol with
    | some (.shift target) =>
      { m with stack := m.stack.push v (some ((Tree.leaf look).withExtra false)) target }
    | some .shiftExtra =>
      { m with stack := m.stack.push v (some ((Tree.leaf look).withExtra true)) s }
    | some (.reduce r) =>
      let (outcome, m) := m.reduce v r
      match outcome with
      | some w => advanceWith v look fuel { m with stack := m.stack.replace v w }
      | none => { m with stack := m.stack.halt v }
    | some .accept => m.accept v [.leaf look]
    | some .recover => m.recover v look
    | none => { m with stack := m.stack.pause v look }

/-- Reductions between two tokens that are enough. -/
def advanceFuel (m : Recovery) : Nat := 100 * (m.stack.vertices.size + 10)

def advance (m : Recovery) (v : Nat) : Recovery :=
  let (look, m) := m.lookahead v
  advanceWith v look (advanceFuel m) m

/-- Moves reading `v` on until it gets ahead of `furthest`; readings behind the first one only have
to catch up. -/
def advanceUntil (v : Nat) : Nat → Nat → Recovery → Nat × Recovery
  | 0, furthest, m => (furthest, m)
  | fuel + 1, furthest, m =>
    if m.stack.isActive v then
      let m := m.advance v
      let place := (m.stack.position v).bytes
      if place > furthest || (v > 0 && place == furthest) then (place, m)
      else advanceUntil v fuel furthest m
    else (furthest, m)

/-- Moves all readings on, also those that are made on the way. -/
def advanceAll : Nat → Nat → Nat → Recovery → Nat × Recovery
  | 0, _, furthest, m => (furthest, m)
  | fuel + 1, v, furthest, m =>
    if v ≥ m.stack.size then (furthest, m)
    else
      let (furthest, m) := advanceUntil v (1000 * (m.source.length + 10)) furthest m
      advanceAll fuel (v + 1) furthest m

/-! ### Keeping the best -/

/-- Compares reading `i`, which stands as `standing`, with the readings before it. Answers with the
number that reading `i` has in the end. -/
def rankAgainst (standing : Standing) : Nat → Nat → Nat → Stack → Nat × Stack
  | 0, i, _, g => (i, g)
  | fuel + 1, i, j, g =>
    if j ≥ i then (i, g)
    else
      let (other, g) := g.standing j
      match other.compare standing with
      | .takeLeft => (i - 1, g.remove i)
      | .preferLeft | .neither =>
        match g.merge? j i with
        | some g => (i - 1, g)
        | none => rankAgainst standing fuel i (j + 1) g
      | .preferRight =>
        match g.merge? j i with
        | some g => (i - 1, g)
        | none => rankAgainst standing fuel i (j + 1) (g.swap i j)
      | .takeRight => rankAgainst standing fuel (i - 1) j (g.remove j)

/-- Drops halted and beaten readings, joins those that have met, and sorts the rest. Answers with
the least price of a reading that is out of error. -/
def rank : Nat → Nat → Option Nat → Stack → Option Nat × Stack
  | 0, _, least, g => (least, g)
  | fuel + 1, i, least, g =>
    if i ≥ g.size then (least, g)
    else if g.isHalted i then rank fuel i least (g.remove i)
    else
      let (standing, g) := g.standing i
      let least := if standing.inError then least
        else some (least.elim standing.cost (min standing.cost))
      let before := g.size
      let (last, g) := rankAgainst standing (before + 1) i 0 g
      rank fuel (last + 1) least g

/-- Lets the first reading recover if it waits, and drops the other readings that wait. -/
def resumeFirst : Nat → Nat → Nat → Bool → Option Nat → Recovery → Option Nat × Recovery
  | 0, _, _, _, least, m => (least, m)
  | fuel + 1, i, n, going, least, m =>
    if i ≥ n then (least, m)
    else match (m.stack.version i).status with
      | .paused look =>
        if !going && m.finishedCount < maxVersions then
          let least := some (m.stack.cost i)
          let m := { m with stack := m.stack.resume i }.handleError i look
          resumeFirst fuel (i + 1) n true least m
        else
          resumeFirst fuel i (n - 1) going least { m with stack := m.stack.remove i }
      | _ => resumeFirst fuel (i + 1) n true least m

/-- Brings the readings into order after each has moved on. -/
def condense (m : Recovery) : Option Nat × Recovery :=
  let n := m.stack.size
  let (least, g) := rank (2 * n + 2) 0 none m.stack
  let g := { g with versions := g.versions.take maxVersions }
  resumeFirst (g.size + 1) 0 g.size false least { m with stack := g }

/-- Goes on until a finished tree is cheaper than all readings that are out of error, or until no
reading is left. -/
def loop : Nat → Nat → Recovery → Option Tree
  | 0, _, _ => none
  | fuel + 1, furthest, m =>
    let (least, m) := m.condense
    if m.finished.any fun t => least.all (t.cost < ·) then m.finished
    else if m.stack.size == 0 then m.finished
    else
      let (furthest, m) := advanceAll (maxVersions * 100 + m.stack.size) 0 furthest m
      loop fuel furthest m

end Recovery

end MathProg
