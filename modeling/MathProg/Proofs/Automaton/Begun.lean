import MathProg.Proofs.Automaton.BegunTable
import MathProg.Proofs.Automaton.Trail

/-!
# Reductions lead on

Every reduction makes a node that was begun below its children, in a state that goes on over the
symbol of that node. And a reduction that makes a node of one child makes it of a lower one, so that
only so many reductions can follow each other before the next token is taken.
-/

namespace MathProg.Automaton

def begunAt (s : State) : Option (List (Symbol × Nat)) :=
  (nth begunPages.toList (s / 64)).bind fun p => nth p.toList (s % 64)

/-- The nodes that are being made in a state, each with the number of its children that stand on the
stack. -/
def begun (s : State) : List (Symbol × Nat) := (begunAt s).getD []

/-- Whether a node with `n` children is among some others. -/
def isAmong (x : Symbol) (n : Nat) (ps : List (Symbol × Nat)) : Bool :=
  ps.any fun p => Nat.beq p.1 x && Nat.beq p.2 n

theorem mem_of_isAmong {x : Symbol} {n : Nat} {ps : List (Symbol × Nat)} (h : isAmong x n ps = true) :
    (x, n) ∈ ps := by
  obtain ⟨p, hp, h⟩ := List.any_eq_true.mp h
  rw [Bool.and_eq_true] at h
  have he : p = (x, n) := Prod.ext (Nat.eq_of_beq_eq_true h.1) (Nat.eq_of_beq_eq_true h.2)
  exact he ▸ hp

/-- Whether the entry of one of the states is a symbol. -/
def entersOn (x : Symbol) (ts : List State) : Bool :=
  ts.any fun t => (rowAt t).any fun r => Nat.beq r.entry x

/-- Whether the nodes that a reduction makes are begun in a state, and those that are begun in the
states after it are begun there already, or can be taken there. -/
def beginsAt (s : State) : Bool :=
  (rowAt s).all fun row => (begunAt s).any fun ps =>
    (row.reductions.all fun q => (nth rules.toList q.1).all fun r =>
      Nat.beq r.length 0 || isAmong r.symbol r.length ps) &&
    row.successors.all fun t => (begunAt t).all fun qs => qs.all fun q =>
      match q.2 with
      | 0 => true
      | 1 => entersOn q.1 row.successors
      | n + 2 => isAmong q.1 (n + 1) ps

theorem begins_checked : (List.range stateBound).all beginsAt = true := by decide +kernel

-- The two repetitions behind a second statement are made one, or the second one goes on.
example : (begun 44).map (fun p => (p.1.name, p.2)) = [("model_repeat1", 1), ("model_repeat1", 2)] := by
  decide +kernel

theorem successor_of_entersOn {s : State} {x : Symbol} {row : Row} (hrow : row? s = some row)
    (h : entersOn x row.successors = true) : (successor? s x).isSome = true := by
  obtain ⟨t, ht, h⟩ := List.any_eq_true.mp h
  obtain ⟨r, hr, h⟩ := (Option.any_eq_true _ _).mp h
  rw [successor?, hrow, Option.bind_some, List.find?_isSome]
  refine ⟨t, ht, ?_⟩
  rw [row_eq, hr, Option.any_some, Nat.eq_of_beq_eq_true h, beq_self_eq_true]

theorem begun_spec {s : State} {row : Row} (h : row? s = some row) :
    (∀ q ∈ row.reductions, ∀ r, rule? q.1 = some r → r.length ≠ 0 →
      (r.symbol, r.length) ∈ begun s) ∧
    ∀ t ∈ row.successors, ∀ x n, (x, n + 1) ∈ begun t →
      if n = 0 then (successor? s x).isSome = true else (x, n) ∈ begun s := by
  have hs := of_all_states begins_checked h
  have hrow := h
  rw [row_eq] at h
  simp only [beginsAt, h, Option.all_some] at hs
  obtain ⟨ps, hps, hs⟩ := (Option.any_eq_true _ _).mp hs
  rw [Bool.and_eq_true] at hs
  have hbegun : begun s = ps := by rw [begun, hps, Option.getD_some]
  refine ⟨fun q hq r hr hn => ?_, fun t ht x n hx => ?_⟩
  · have hall := List.all_eq_true.mp hs.1 q hq
    rw [nth_eq, Array.getElem?_toList, show rules[q.1]? = some r from hr, Option.all_some,
      Bool.or_eq_true] at hall
    rw [hbegun]
    exact mem_of_isAmong (hall.resolve_left fun he => hn (Nat.eq_of_beq_eq_true he))
  · have hall := List.all_eq_true.mp hs.2 t ht
    rw [begun] at hx
    cases hqs : begunAt t with
    | none =>
      rw [hqs] at hx
      cases hx
    | some qs =>
      rw [hqs, Option.getD_some] at hx
      rw [hqs, Option.all_some] at hall
      have hq := List.all_eq_true.mp hall _ hx
      cases n with
      | zero => exact successor_of_entersOn hrow hq
      | succ n =>
        rw [if_neg (Nat.succ_ne_zero n), hbegun]
        exact mem_of_isAmong hq

/-- What a reduction makes of some children was begun below them. -/
theorem reduction_begun {s : State} {t : Symbol} {r : Rule} (h : reduction? s t = some r)
    (hn : r.length ≠ 0) : (r.symbol, r.length) ∈ begun s := by
  obtain ⟨row, i, j, hrow, hij, hrule, -⟩ := reduction_some h
  exact (begun_spec hrow).1 _ hij r hrule hn

/-- What is begun with a child less in the state before can be taken there if that was the first. -/
theorem begun_successor {s t : State} {x y : Symbol} {n : Nat} (h : successor? s x = some t)
    (hy : (y, n + 1) ∈ begun t) :
    if n = 0 then (successor? s y).isSome = true else (y, n) ∈ begun s := by
  obtain ⟨⟨row, hrow, ht⟩, -⟩ := successor_some h
  exact (begun_spec hrow).2 t ht y n hy

/-- How many reductions to a node of one child may end in a symbol, for the rules in order. -/
def heights : List Nat :=
  [3, 1, 1, 0, 0, 0, 0, 0, 0, 1, 2, 1, 0, 0, 0, 0, 0, 0, 1, 0, 0, 0, 1, 0, 3, 0, 0, 3, 0, 1, 0, 2, 0,
    2, 1, 2, 2, 2, 2, 1, 0, 0, 0, 0, 0, 3, 0, 4, 3, 0, 0, 0, 1, 2, 2, 3, 3, 3, 0, 0, 2, 3, 0, 0, 3, 0,
    4, 2, 4, 2, 2, 2]

/-- The height of a symbol; tokens are at the bottom. -/
def height (x : Symbol) : Nat :=
  if x < Symbol.tokenCount then 0 else (heights[x - Symbol.tokenCount]?).getD 0

/-- The most reductions to a node of one child that may follow each other. -/
def maxHeight : Nat := 4

theorem height_le (x : Symbol) : height x ≤ maxHeight := by
  have hall : ∀ h ∈ heights, h ≤ maxHeight := by decide
  unfold height
  split
  · exact Nat.zero_le _
  · cases hx : heights[x - Symbol.tokenCount]? with
    | none => exact Nat.zero_le _
    | some h => exact hall h (List.mem_of_getElem? hx)

/-- Whether the reductions of a state to one child go up from its entry, and those to no child make an
empty model at the start. -/
def climbsAt (s : State) : Bool :=
  (rowAt s).all fun row => row.reductions.all fun q => (nth rules.toList q.1).all fun r =>
    (!Nat.beq r.length 1 || Nat.blt (height row.entry) (height r.symbol)) &&
      (!Nat.beq r.length 0 || Nat.beq s start && Nat.beq r.symbol Symbol.model)

theorem climbs_checked : (List.range stateBound).all climbsAt = true := by decide +kernel

theorem reduction_climbs {s : State} {t : Symbol} {r : Rule} (h : reduction? s t = some r) :
    (r.length = 1 → ∃ row, row? s = some row ∧ height row.entry < height r.symbol) ∧
      (r.length = 0 → s = start ∧ r.symbol = Symbol.model) := by
  obtain ⟨row, i, j, hrow, hij, hrule, -⟩ := reduction_some h
  have hs := of_all_states climbs_checked hrow
  have hat := hrow
  rw [row_eq] at hat
  simp only [climbsAt, hat, Option.all_some] at hs
  have hi := List.all_eq_true.mp hs _ hij
  rw [nth_eq, Array.getElem?_toList, show rules[i]? = some r from hrule, Option.all_some] at hi
  simp only [Bool.and_eq_true, Bool.or_eq_true, Bool.not_eq_true', Nat.beq_eq, Nat.blt_eq] at hi
  refine ⟨fun h1 => ⟨row, hrow, hi.1.resolve_left fun hne => ?_⟩, fun h0 => hi.2.resolve_left fun hne => ?_⟩
  · rw [h1] at hne
    cases hne
  · rw [h0] at hne
    cases hne

theorem successor_model : successor? start Symbol.model = some done := by decide +kernel

/-- A reduction to one child makes it of what led into the state. -/
theorem height_lt {s s' : State} {t x : Symbol} {r : Rule} (h : reduction? s t = some r)
    (hn : r.length = 1) (hs : successor? s' x = some s) : height x < height r.symbol := by
  obtain ⟨row, hrow, hlt⟩ := (reduction_climbs h).1 hn
  obtain ⟨-, row', hrow', rfl⟩ := successor_some hs
  rw [hrow] at hrow'
  cases hrow'
  exact hlt

end MathProg.Automaton
