import MathProg.Proofs.Automaton.Trail
import MathProg.Proofs.Lexing.Reading

/-!
# Modes fit their states

Whatever a state can do something with can be read in its mode. Where a slash was read, no star can be
taken.
-/

namespace MathProg

namespace Mode

/-- Whether a mode has a token. -/
def has (m : Mode) (t : Symbol) : Bool :=
  m.tokens.any (Nat.beq t) || (Nat.beq t Symbol.string && m.values.string)
    || (Nat.beq t Symbol.number && m.values.number) || (Nat.beq t Symbol.bareword && m.values.bareword)

theorem has_iff {m : Mode} {t : Symbol} : m.has t = true ↔
    t ∈ m.tokens ∨ t = Symbol.string ∧ m.values.string = true ∨
      t = Symbol.number ∧ m.values.number = true ∨ t = Symbol.bareword ∧ m.values.bareword = true := by
  simp only [has, Bool.or_eq_true, List.any_eq_true, Bool.and_eq_true, Nat.beq_eq, or_assoc,
    exists_eq_right']

end Mode

namespace Automaton

def slash : Symbol := 57
def star : Symbol := 55
def power : Symbol := 60

example : [slash, star, power].map Symbol.name = ["/", "*", "**"] := by decide +kernel

/-- Whether all tokens that a state does something with satisfy a test. -/
def actsOnly (r : Row) (test : Symbol → Bool) : Bool :=
  (r.successors.all fun t => (rowAt t).all fun q =>
      Nat.ble Symbol.tokenCount q.entry || test q.entry) &&
    r.reductions.all fun p => (nth lookaheads.toList p.2).all fun ts => ts.all test

/-- Whether a state acts only on tokens that its mode has, and behind a slash on no star. -/
def readsAt (s : State) : Bool :=
  (rowAt s).all fun r =>
    ((nth Mode.table.toList r.mode).any fun m => actsOnly r m.has) &&
      (!Nat.beq r.entry slash || actsOnly r fun t => !Nat.beq t star && !Nat.beq t power)

theorem reads_checked : (List.range stateBound).all readsAt = true := by decide +kernel

example : (mode 1).has Symbol.comment = true := by decide +kernel

theorem modes_checked : Mode.table.toList.all
    (fun m => m.has Symbol.comment && m.has Symbol.endOfText) = true := by decide

variable {s u : State} {t : Symbol} {a : Action}

theorem of_actsOnly {r : Row} {test : Symbol → Bool} (hr : row? s = some r)
    (h : actsOnly r test = true) (ha : (reduction? s t).isSome = true ∨ (successor? s t).isSome = true)
    (ht : t < Symbol.tokenCount) : test t = true := by
  rw [actsOnly, Bool.and_eq_true] at h
  rcases ha with ha | ha
  · obtain ⟨rule, ha⟩ := Option.isSome_iff_exists.mp ha
    obtain ⟨row, i, j, hrow, hij, -, ts, hts, hmem⟩ := reduction_some ha
    cases hr.symm.trans hrow
    have hset := List.all_eq_true.mp h.2 _ hij
    rw [nth_eq, Array.getElem?_toList, hts, Option.all_some] at hset
    exact List.all_eq_true.mp hset t hmem
  · obtain ⟨u, ha⟩ := Option.isSome_iff_exists.mp ha
    obtain ⟨⟨row, hrow, hmem⟩, q, hq, rfl⟩ := successor_some ha
    cases hr.symm.trans hrow
    have hnext := List.all_eq_true.mp h.1 u hmem
    rw [← row_eq, hq, Option.all_some, Bool.or_eq_true, Nat.ble_eq] at hnext
    exact hnext.resolve_left (Nat.not_le_of_lt ht)

theorem mode_checked {r : Row} (hr : row? s = some r) :
    mode s ∈ Mode.table.toList ∧ actsOnly r (mode s).has = true := by
  have hs := of_all_states reads_checked hr
  have hrow := hr
  rw [row_eq] at hrow
  simp only [readsAt, hrow, Option.all_some, Bool.and_eq_true] at hs
  obtain ⟨m, hm, hacts⟩ := (Option.any_eq_true _ _).mp hs.1
  have hmode : mode s = m := by
    rw [nth_eq, Array.getElem?_toList] at hm
    rw [mode, modeIndex, hr, Option.elim_some, hm, Option.getD_some]
  rw [nth_eq] at hm
  rw [hmode]
  exact ⟨List.mem_of_getElem? hm, hacts⟩

/-- Every state reads in a mode of the table. -/
theorem mode_mem (s : State) : mode s ∈ Mode.table.toList := by
  cases hr : row? s with
  | some r => exact (mode_checked hr).1
  | none =>
    rw [mode, modeIndex, hr, Option.elim_none]
    decide

/-- Comments and the end of the text are read everywhere. -/
theorem has_everywhere (s : State) :
    (mode s).has Symbol.comment = true ∧ (mode s).has Symbol.endOfText = true :=
  Bool.and_eq_true_iff.mp (List.all_eq_true.mp modes_checked _ (mode_mem s))

/-- What a state does something with, its mode has. -/
theorem has_of_action (h : action? s t = some a) (hs : s ≠ lost) : (mode s).has t = true := by
  obtain ⟨ht, ⟨hl, -⟩ | ⟨-, ⟨rfl, -⟩ | ⟨⟨-, rfl⟩, -⟩ | ⟨r, hr, -⟩ | ⟨u, hu, -⟩⟩⟩ := action_cases h
  · exact absurd hl hs
  · exact (has_everywhere s).1
  · exact (has_everywhere s).2
  · obtain ⟨row, -, -, hrow, -⟩ := reduction_some hr
    exact of_actsOnly hrow (mode_checked hrow).2 (Or.inl (by rw [hr]; rfl)) ht
  · obtain ⟨⟨row, hrow, -⟩, -⟩ := successor_some hu
    exact of_actsOnly hrow (mode_checked hrow).2 (Or.inr (by rw [hu]; rfl)) ht

/-- Behind a slash no star can be taken. -/
theorem not_star_of_slash (hs : successor? s slash = some u) (h : action? u t = some a) (hu : u ≠ lost) :
    t ≠ star ∧ t ≠ power := by
  obtain ⟨-, row, hrow, hentry⟩ := successor_some hs
  have hcheck := of_all_states reads_checked hrow
  have hat := hrow
  rw [row_eq] at hat
  simp only [readsAt, hat, Option.all_some, hentry, Bool.and_eq_true] at hcheck
  have hacts : actsOnly row (fun t => !Nat.beq t star && !Nat.beq t power) = true := hcheck.2
  have htest : ∀ ht : t < Symbol.tokenCount,
      (reduction? u t).isSome = true ∨ (successor? u t).isSome = true → t ≠ star ∧ t ≠ power := by
    intro ht ha
    have hne := of_actsOnly hrow hacts ha ht
    rw [Bool.and_eq_true, Bool.not_eq_true', Bool.not_eq_true', ← Bool.not_eq_true,
      ← Bool.not_eq_true, Nat.beq_eq, Nat.beq_eq] at hne
    exact hne
  obtain ⟨ht, ⟨hl, -⟩ | ⟨-, ⟨rfl, -⟩ | ⟨⟨-, rfl⟩, -⟩ | ⟨r, hr, -⟩ | ⟨u, hu, -⟩⟩⟩ := action_cases h
  · exact absurd hl hu
  · decide
  · decide
  · exact htest ht (Or.inl (by rw [hr]; rfl))
  · exact htest ht (Or.inr (by rw [hu]; rfl))

end Automaton

end MathProg
