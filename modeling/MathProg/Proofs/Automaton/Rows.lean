import MathProg.Proofs.Automaton.Modes

/-!
# Reading a row

The successors of a state stand in the order of the symbols that lead into them, so each of them is
where the state goes over its symbol. With the reductions of the row this settles what a state does
with a token.
-/

namespace MathProg.Automaton

variable {s u : State} {t x : Symbol} {r q : Row}

/-- Whether states are led into by symbols that grow, from some symbol on. -/
def areSorted : Symbol → List State → Bool
  | _, [] => true
  | x, u :: us => (rowAt u).any fun q => Nat.ble x q.entry && areSorted (q.entry + 1) us

theorem successors_sorted :
    (List.range stateBound).all (fun s => (rowAt s).all fun r => areSorted 0 r.successors) = true := by
  decide +kernel

/-- States are found by their entries. -/
theorem find_of_sorted {us : List State} (h : areSorted x us = true) (hu : u ∈ us)
    (hq : rowAt u = some q) :
    x ≤ q.entry ∧ (us.find? fun v => (row? v).any (·.entry == q.entry)) = some u := by
  induction us generalizing x with
  | nil => cases hu
  | cons v us ih =>
    obtain ⟨p, hp, h⟩ := (Option.any_eq_true _ _).mp h
    rw [Bool.and_eq_true] at h
    have hle : x ≤ p.entry := Nat.le_of_ble_eq_true h.1
    rcases List.mem_cons.mp hu with rfl | hu
    · obtain rfl : q = p := Option.some.inj (hq.symm.trans hp)
      refine ⟨hle, List.find?_cons_of_pos ?_⟩
      rw [row_eq, hq, Option.any_some, beq_self_eq_true]
    · obtain ⟨hlt, hfind⟩ := ih h.2 hu
      have hless : p.entry < q.entry := hlt
      refine ⟨Nat.le_trans hle (Nat.le_of_lt hless), ?_⟩
      rw [List.find?_cons_of_neg, hfind]
      rw [row_eq, hp, Option.any_some, beq_iff_eq]
      exact Nat.ne_of_lt hless

/-- A state goes on to each of its successors, over the symbol that leads there. -/
theorem successor_of_mem (hr : rowAt s = some r) (hu : u ∈ r.successors) (hq : rowAt u = some q) :
    successor? s q.entry = some u := by
  have hrow : row? s = some r := by rw [row_eq, hr]
  have hsorted := of_all_states successors_sorted hrow
  rw [hr, Option.all_some] at hsorted
  rw [successor?, hrow, Option.bind_some]
  exact (find_of_sorted hsorted hu hq).2

/-- The symbol that leads into a state. -/
def entryOf (u : State) : Symbol := (rowAt u).elim Symbol.endOfText (·.entry)

theorem rowAt_of_entry (h : entryOf u = x) (hx : x ≠ Symbol.endOfText) :
    ∃ q, rowAt u = some q ∧ q.entry = x := by
  rw [entryOf] at h
  cases hq : rowAt u with
  | none =>
    rw [hq] at h
    exact absurd h.symm hx
  | some q =>
    rw [hq] at h
    exact ⟨q, rfl, h⟩

/-- Whether a row goes on to a state. -/
def Row.leads (r : Row) (u : State) : Bool := r.successors.any (Nat.beq u)

theorem Row.mem_of_leads (h : r.leads u = true) : u ∈ r.successors := by
  obtain ⟨v, hv, h⟩ := List.any_eq_true.mp h
  rwa [Nat.eq_of_beq_eq_true h]

/-- The reduction that a row calls for in front of a token. -/
def Row.ruleFor (r : Row) (t : Symbol) : Option Rule :=
  r.reductions.findSome? fun p => (nth rules.toList p.1).bind fun rule =>
    (nth lookaheads.toList p.2).bind fun ts => if ts.any (Nat.beq t) then some rule else none

theorem reduction_eq (hr : rowAt s = some r) : reduction? s t = r.ruleFor t := by
  rw [reduction?, reductions, row_eq, hr, Option.elim_some, Row.ruleFor]
  simp only [rule?, nth_eq, Array.getElem?_toList]
  generalize rules = rules, lookaheads = lookaheads
  induction r.reductions with
  | nil => rfl
  | cons p ps ih =>
    obtain ⟨i, j⟩ := p
    rw [List.filterMap_cons, List.findSome?_cons]
    dsimp only
    cases rules[i]? with
    | none => exact ih
    | some rule =>
      cases lookaheads[j]? with
      | none => exact ih
      | some ts =>
        have hcontains : ts.contains t = ts.any (Nat.beq t) := by
          rw [Bool.eq_iff_iff, List.contains_iff_mem, List.any_eq_true]
          constructor
          · intro ht
            exact ⟨t, ht, Nat.beq_refl t⟩
          · intro h
            obtain ⟨v, hv, h⟩ := h
            rwa [Nat.eq_of_beq_eq_true h]
        simp only [Option.bind_some, Option.map_some]
        by_cases h : ts.any (Nat.beq t) = true
        · rw [if_pos h, List.find?_cons_of_pos (by rw [hcontains]; exact h)]
          rfl
        · rw [if_neg h, List.find?_cons_of_neg (by rw [hcontains]; exact h)]
          exact ih

/-- A token of the text that is neither a comment nor the end. -/
def isWord (t : Symbol) : Bool := Nat.ble 2 t && Nat.blt t Symbol.tokenCount

theorem action_of_isWord (ht : isWord t = true) (hs : s ≠ lost) :
    action? s t = match reduction? s t with
      | some r => some (.reduce r)
      | none => (successor? s t).map .shift := by
  rw [isWord, Bool.and_eq_true] at ht
  have hle : 2 ≤ t := Nat.le_of_ble_eq_true ht.1
  have hlt : t < Symbol.tokenCount := Nat.le_of_ble_eq_true ht.2
  have hcomment : t ≠ Symbol.comment := by
    intro h
    rw [h] at hle
    exact absurd hle (by decide)
  have hend : t ≠ Symbol.endOfText := by
    intro h
    rw [h] at hle
    exact absurd hle (by decide)
  exact (if_neg (Nat.not_le_of_lt hlt)).trans <| (if_neg hs).trans <| (if_neg hcomment).trans <|
    if_neg (by simp [hend])

/-- A token for which no reduction is called is taken. -/
theorem shift_of_row (hr : rowAt s = some r) (hs : s ≠ lost) (ht : isWord t = true)
    (hred : r.ruleFor t = none) (hu : successor? s t = some u) : action? s t = some (.shift u) := by
  rw [action_of_isWord ht hs, reduction_eq hr, hred, hu]
  rfl

theorem reduce_of_row {rule : Rule} (hr : rowAt s = some r) (hs : s ≠ lost) (ht : isWord t = true)
    (hred : r.ruleFor t = some rule) : action? s t = some (.reduce rule) := by
  rw [action_of_isWord ht hs, reduction_eq hr, hred]

end MathProg.Automaton
