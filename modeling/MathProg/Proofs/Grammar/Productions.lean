import MathProg.Proofs.Grammar.Rules

/-!
# From productions to the language

What productions build up is in the language of the grammar. A repetition has no rule of its own, so
what its symbol stands for is said with the right-hand side that it repeats.
-/

namespace MathProg.Grammar

namespace Rules

/-- All repetitions of a grammar. -/
def repetitions (g : Rules) : List (Symbol × Rhs) := g.flatMap (·.2.repetitions)

/-- A repetition has one right-hand side, and is neither a rule nor used as a symbol by itself. -/
structure WellNamed (g : Rules) : Prop where
  unique : ∀ p ∈ g.repetitions, ∀ q ∈ g.repetitions, p.1 = q.1 → p = q
  apart : ∀ p ∈ g.repetitions, ∀ rule ∈ g, p.1 ≠ rule.1
  unused : ∀ rule ∈ g, ∀ s ∈ rule.2.symbols, ∀ p ∈ g.repetitions, p.1 ≠ s

/-- What a symbol stands for, be it a repetition or not. -/
structure Stands (g : Rules) (s : Symbol) (w : List Symbol) : Prop where
  repeated : ∀ r, (s, r) ∈ g.repetitions → Matches g (.many s r) w
  derived : (∀ r, (s, r) ∉ g.repetitions) → Derives g s w

/-- What the symbols of a word stand for, one after the other. -/
inductive Reads (g : Rules) : List Part → List Symbol → Prop
  | nil : Reads g [] []
  | cons {p : Part} {ps : List Part} {u v : List Symbol} (h : Stands g p.symbol u)
      (hs : Reads g ps v) : Reads g (p :: ps) (u ++ v)

variable {g : Rules}

theorem reads_append {ps qs : List Part} {w : List Symbol} (h : Reads g (ps ++ qs) w) :
    ∃ u v, w = u ++ v ∧ Reads g ps u ∧ Reads g qs v := by
  induction ps generalizing w with
  | nil => exact ⟨[], w, rfl, .nil, h⟩
  | cons p ps ih =>
    rw [List.cons_append] at h
    cases h with
    | cons hp hs =>
      obtain ⟨u, v, rfl, hu, hv⟩ := ih hs
      exact ⟨_, v, (List.append_assoc _ _ _).symm, .cons hp hu, hv⟩

theorem reads_renamed {ps : List Part} {name : Symbol} {w : List Symbol}
    (h : Reads g (ps.map fun p => ⟨p.symbol, some name⟩) w) : Reads g ps w := by
  induction ps generalizing w with
  | nil => exact h
  | cons p ps ih =>
    rw [List.map_cons] at h
    cases h with
    | cons hp hs => exact .cons hp (ih hs)

theorem reads_singleton {p : Part} {w : List Symbol} (h : Reads g [p] w) : Stands g p.symbol w := by
  cases h with
  | cons hp hs =>
    cases hs
    rwa [List.append_nil]

/-- A word of a right-hand side reads as a string that it stands for. -/
theorem matches_of_words {r : Rhs} (hsym : ∀ s ∈ r.symbols, ∀ p ∈ g.repetitions, p.1 ≠ s)
    (hrep : ∀ p ∈ r.repetitions, p ∈ g.repetitions) {ps : List Part} (hps : ps ∈ r.words)
    {w : List Symbol} (hw : Reads g ps w) : Matches g r w := by
  induction r generalizing ps w with
  | blank =>
    rw [Rhs.words, List.mem_singleton] at hps
    subst hps
    cases hw
    exact .blank
  | symbol s =>
    rw [Rhs.words, List.mem_singleton] at hps
    subst hps
    exact .symbol ((reads_singleton hw).derived fun r hr =>
      hsym s (List.mem_singleton_self s) _ hr rfl)
  | renamed r name ih =>
    obtain ⟨qs, hqs, rfl⟩ := List.mem_map.mp hps
    exact .renamed (ih hsym hrep hqs (reads_renamed hw))
  | seq a b iha ihb =>
    obtain ⟨us, hus, hps⟩ := List.mem_flatMap.mp hps
    obtain ⟨vs, hvs, rfl⟩ := List.mem_map.mp hps
    obtain ⟨u, v, rfl, hu, hv⟩ := reads_append hw
    exact .seq
      (iha (fun s hs => hsym s (List.mem_append_left _ hs))
        (fun p hp => hrep p (List.mem_append_left _ hp)) hus hu)
      (ihb (fun s hs => hsym s (List.mem_append_right _ hs))
        (fun p hp => hrep p (List.mem_append_right _ hp)) hvs hv)
  | choice a b iha ihb =>
    rcases List.mem_append.mp hps with h | h
    · exact .left (iha (fun s hs => hsym s (List.mem_append_left _ hs))
        (fun p hp => hrep p (List.mem_append_left _ hp)) h hw)
    · exact .right (ihb (fun s hs => hsym s (List.mem_append_right _ hs))
        (fun p hp => hrep p (List.mem_append_right _ hp)) h hw)
  | many s r =>
    rw [Rhs.words, List.mem_singleton] at hps
    subst hps
    exact (reads_singleton hw).repeated r (hrep _ List.mem_cons_self)

theorem matches_many_append {s : Symbol} {r : Rhs} {u v : List Symbol} (hu : Matches g (.many s r) u)
    (hv : Matches g (.many s r) v) : Matches g (.many s r) (u ++ v) := by
  generalize hq : Rhs.many s r = q at hu
  induction hu using Matches.rec (motive_1 := fun _ _ _ => True) with
  | one h =>
    cases hq
    exact .more h hv
  | more hu _ _ ih =>
    cases hq
    rw [List.append_assoc]
    exact .more hu (ih rfl)
  | token => trivial
  | rule => trivial
  | _ => cases hq

theorem repetitions_subset {s : Symbol} {r : Rhs} (h : (s, r) ∈ g) :
    ∀ p ∈ r.repetitions, p ∈ g.repetitions :=
  fun _ hp => List.mem_flatMap.mpr ⟨_, h, hp⟩

/-- What is repeated has its own repetitions and symbols in the same rule. -/
theorem repetition_parts {r : Rhs} {s : Symbol} {q : Rhs} (h : (s, q) ∈ r.repetitions) :
    (∀ p ∈ q.repetitions, p ∈ r.repetitions) ∧ ∀ t ∈ q.symbols, t ∈ r.symbols := by
  induction r with
  | blank => cases h
  | symbol => cases h
  | renamed r name ih => exact ih h
  | seq a b iha ihb =>
    rcases List.mem_append.mp h with h | h
    · exact ⟨fun p hp => List.mem_append_left _ ((iha h).1 p hp),
        fun t ht => List.mem_append_left _ ((iha h).2 t ht)⟩
    · exact ⟨fun p hp => List.mem_append_right _ ((ihb h).1 p hp),
        fun t ht => List.mem_append_right _ ((ihb h).2 t ht)⟩
  | choice a b iha ihb =>
    rcases List.mem_append.mp h with h | h
    · exact ⟨fun p hp => List.mem_append_left _ ((iha h).1 p hp),
        fun t ht => List.mem_append_left _ ((iha h).2 t ht)⟩
    · exact ⟨fun p hp => List.mem_append_right _ ((ihb h).1 p hp),
        fun t ht => List.mem_append_right _ ((ihb h).2 t ht)⟩
  | many t r ih =>
    rcases List.mem_cons.mp h with he | h
    · cases he
      exact ⟨fun p hp => List.mem_cons_of_mem _ hp, fun t ht => ht⟩
    · exact ⟨fun p hp => List.mem_cons_of_mem _ ((ih h).1 p hp), (ih h).2⟩

/-- What the right-hand side of a production stands for, its symbol stands for. -/
theorem stands_of_production (hg : WellNamed g) {s : Symbol} {ps : List Part}
    (h : (s, ps) ∈ g.productions) {w : List Symbol} (hw : Reads g ps w) : Stands g s w := by
  obtain ⟨⟨t, r⟩, hr, h⟩ := List.mem_flatMap.mp h
  rcases List.mem_append.mp h with h | h
  · -- a production of a rule
    obtain ⟨qs, hqs, he⟩ := List.mem_map.mp h
    cases he
    refine ⟨fun q hq => absurd rfl (hg.apart _ hq (s, r) hr), fun _ => .rule hr ?_⟩
    exact matches_of_words (hg.unused _ hr) (repetitions_subset hr) hqs hw
  · -- a production of a repetition
    obtain ⟨⟨t', q⟩, hq, h⟩ := List.mem_flatMap.mp h
    obtain ⟨qs, hqs, he⟩ := List.mem_map.mp h
    cases he
    have hqg := repetitions_subset hr _ hq
    refine ⟨fun q' hq' => ?_, fun hno => absurd hqg (hno q)⟩
    have he := hg.unique _ hq' _ hqg rfl
    cases he
    rcases List.mem_append.mp hqs with hone | htwo
    · obtain ⟨hreps, hsyms⟩ := repetition_parts hq
      exact .one (matches_of_words (fun s hs => hg.unused _ hr s (hsyms s hs))
        (fun p hp => repetitions_subset hr p (hreps p hp)) hone hw)
    · rw [List.mem_singleton] at htwo
      subst htwo
      cases hw with
      | cons hu hv => exact matches_many_append (hu.repeated q hqg) ((reads_singleton hv).repeated q hqg)

theorem stands_token (hrule : ∀ rule ∈ g, rule.1 ≠ s) (hrep : ∀ p ∈ g.repetitions, p.1 ≠ s) :
    Stands g s [s] :=
  ⟨fun _ hr => absurd rfl (hrep _ hr), fun _ => .token hrule⟩

end Rules

theorem rules_wellNamed : rules.WellNamed where
  unique := by decide +kernel
  apart := by decide +kernel
  unused := by decide +kernel

/-- Tokens have no rules and are no repetitions. -/
theorem token_stands {t : Symbol} (h : t < Symbol.tokenCount) : rules.Stands t [t] := by
  have hrule : ∀ rule ∈ rules, Symbol.tokenCount ≤ rule.1 := by decide +kernel
  have hrep : ∀ p ∈ rules.repetitions, Symbol.tokenCount ≤ p.1 := by decide +kernel
  refine Rules.stands_token ?_ ?_
  · intro rule hr
    exact Nat.ne_of_gt (Nat.lt_of_lt_of_le h (hrule rule hr))
  · intro p hp
    exact Nat.ne_of_gt (Nat.lt_of_lt_of_le h (hrep p hp))

/-- The start symbol is no repetition, so what it stands for, it derives. -/
theorem model_derives {w : List Symbol} (h : rules.Stands Symbol.model w) :
    rules.Derives Symbol.model w := by
  obtain ⟨rule, hrule, he⟩ : ∃ rule ∈ rules, rule.1 = Symbol.model := by decide +kernel
  exact h.derived fun r hr => rules_wellNamed.apart _ hr rule hrule he.symm

end MathProg.Grammar
