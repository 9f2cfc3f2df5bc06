import MathProg.Proofs.Automaton.TrailTable
import MathProg.Proofs.Grammar.Rules
import MathProg.Tree

/-!
# Reductions are productions

The trails agree along every step of the automaton, so they tell what is on the stack after any
number of steps. In every state, what a reduction takes off the stack is the right-hand side of a
production of its symbol, with the aliases of the reduction. Both are checked state by state.
-/

namespace MathProg.Automaton

open Grammar (Part Rhs)

/-- An element of a list. What is dropped before it is the same term in all look-ups, so that checks
over whole tables evaluate it only once. -/
def nth {α : Type} (as : List α) (n : Nat) : Option α :=
  (Nat.rec (motive := fun _ => List α) as (fun _ rest => rest.tail) n).head?

theorem nth_eq {α : Type} (as : List α) (n : Nat) : nth as n = as[n]? := by
  have h : Nat.rec (motive := fun _ => List α) as (fun _ rest => rest.tail) n = as.drop n := by
    induction n with
    | zero => rfl
    | succ n ih => rw [← List.tail_drop, ← ih]
  rw [nth, h, List.head?_drop]

/-- States have the numbers below this one. -/
def stateBound : Nat := 18 * 64

def rowAt (s : State) : Option Row := (nth pages.toList (s / 64)).bind fun p => nth p.toList (s % 64)

theorem row_eq (s : State) : row? s = rowAt s := by
  simp only [row?, rowAt, nth_eq, Array.getElem?_toList]

theorem row_bound {s : State} {r : Row} (h : row? s = some r) : s < stateBound := by
  obtain ⟨page, hp, -⟩ := Option.bind_eq_some_iff.mp h
  have hi := (Array.getElem?_eq_some_iff.mp hp).1
  have hsize : pages.size = 18 := by decide +kernel
  rw [hsize] at hi
  exact (Nat.div_lt_iff_lt_mul (by decide)).mp hi

def trailAt (s : State) : Option (List Symbol) :=
  (nth trailPages.toList (s / 64)).bind fun p => nth p.toList (s % 64)

theorem trail_eq (s : State) : trail s = (trailAt s).getD [] := by
  simp only [trail, trailAt, nth_eq, Array.getElem?_toList]

/-- What holds of all rows up to the bound holds of every row. -/
theorem of_all_states {p : State → Bool} (h : (List.range stateBound).all p = true) {s : State}
    {r : Row} (hr : row? s = some r) : p s = true :=
  List.all_eq_true.mp h s (List.mem_range.mpr (row_bound hr))

/-- Whether a list begins another one. -/
def begins : List Symbol → List Symbol → Bool
  | [], _ => true
  | x :: u, y :: v => Nat.beq x y && begins u v
  | _ :: _, [] => false

theorem prefix_of_begins {u v : List Symbol} (h : begins u v = true) : u <+: v := by
  fun_induction begins u v with
  | case1 => exact List.nil_prefix
  | case2 x u y v ih =>
    rw [Bool.and_eq_true] at h
    rw [Nat.eq_of_beq_eq_true h.1, List.cons_prefix_cons]
    exact ⟨rfl, ih h.2⟩
  | case3 => cases h

/-- Whether the trail of a state begins with the symbol that leads into it, and what is behind the
first symbol of the trails that follow is found again in it. -/
def agreesAt (s : State) : Bool :=
  (rowAt s).all fun r => (trailAt s).any fun w =>
    (w.isEmpty || w.head?.any (Nat.beq r.entry)) &&
      r.successors.all fun t => (trailAt t).any fun v => begins v.tail w

theorem trails_agree : (List.range stateBound).all agreesAt = true := by decide +kernel

theorem successor_some {s t : State} {x : Symbol} (h : successor? s x = some t) :
    (∃ r, row? s = some r ∧ t ∈ r.successors) ∧ ∃ r, row? t = some r ∧ r.entry = x := by
  obtain ⟨r, hr, ht⟩ := Option.bind_eq_some_iff.mp h
  refine ⟨⟨r, hr, List.mem_of_find?_eq_some ht⟩, ?_⟩
  have he := List.find?_some ht
  simpa [Option.any_eq_true] using he

/-- A step over a symbol puts it on top of the trail. -/
theorem trail_successor {s t : State} {x : Symbol} (h : successor? s x = some t) :
    trail t <+: x :: trail s := by
  obtain ⟨⟨r, hr, ht⟩, q, hq, rfl⟩ := successor_some h
  have hs := of_all_states trails_agree hr
  have hhead := of_all_states trails_agree hq
  rw [row_eq] at hr hq
  simp only [agreesAt, hr, Option.all_some] at hs
  simp only [agreesAt, hq, Option.all_some] at hhead
  obtain ⟨w, hw, hs⟩ := (Option.any_eq_true _ _).mp hs
  rw [Bool.and_eq_true] at hs
  obtain ⟨v, hv, hbelow⟩ := (Option.any_eq_true _ _).mp (List.all_eq_true.mp hs.2 t ht)
  rw [hv, Option.any_some, Bool.and_eq_true] at hhead
  rw [trail_eq t, trail_eq s, hw, hv, Option.getD_some, Option.getD_some]
  cases v with
  | nil => exact List.nil_prefix
  | cons y v =>
    have hy : q.entry = y := Nat.eq_of_beq_eq_true (by simpa using hhead.1)
    rw [hy, List.cons_prefix_cons]
    exact ⟨rfl, prefix_of_begins hbelow⟩

theorem trail_start : trail start = [] := by decide +kernel

-- Behind a second statement, two repetitions are on the stack.
example : (trail 44).map Symbol.name = ["model_repeat1", "model_repeat1"] := by decide +kernel

/-- The state behind the whole model. -/
def done : State := 2

/-- Whether nothing leads back to the start, and to the end only what follows the start. -/
def endsAt (s : State) : Bool :=
  (rowAt s).all fun r =>
    (Nat.beq r.entry Symbol.endOfText == Nat.ble s start) &&
      (Nat.beq r.entry Symbol.model == Nat.beq s done) &&
        r.successors.all fun t => !Nat.ble t start && (!Nat.beq t done || Nat.beq s start)

theorem ends_checked : (List.range stateBound).all endsAt = true := by decide +kernel

theorem ends {s : State} {r : Row} (h : row? s = some r) :
    (r.entry = Symbol.endOfText ↔ s ≤ start) ∧ (r.entry = Symbol.model ↔ s = done) ∧
      ∀ t ∈ r.successors, start < t ∧ (t = done → s = start) := by
  have hs := of_all_states ends_checked h
  rw [row_eq] at h
  simp only [endsAt, h, Option.all_some, Bool.and_eq_true, beq_iff_eq, List.all_eq_true] at hs
  obtain ⟨⟨hfirst, hlast⟩, hnext⟩ := hs
  refine ⟨?_, ?_, fun t ht => ?_⟩
  · rw [← Nat.beq_eq, hfirst, Nat.ble_eq]
  · rw [← Nat.beq_eq, hlast, Nat.beq_eq]
  · obtain ⟨hstart, hdone⟩ := hnext t ht
    rw [Bool.not_eq_true', ← Bool.not_eq_true, Nat.ble_eq, Nat.not_le] at hstart
    rw [Bool.or_eq_true, Bool.not_eq_true', ← Bool.not_eq_true, Nat.beq_eq, Nat.beq_eq] at hdone
    exact ⟨hstart, fun he => hdone.resolve_left fun hne => hne he⟩

theorem successor_endOfText (s : State) : successor? s Symbol.endOfText = none := by
  cases h : successor? s Symbol.endOfText with
  | none => rfl
  | some t =>
    obtain ⟨⟨r, hr, ht⟩, q, hq, he⟩ := successor_some h
    exact absurd (((ends hq).1).mp he) (Nat.not_le_of_lt ((ends hr).2.2 t ht).1)

theorem start_lt_successor {s t : State} {x : Symbol} (h : successor? s x = some t) : start < t := by
  obtain ⟨⟨r, hr, ht⟩, -⟩ := successor_some h
  exact ((ends hr).2.2 t ht).1

theorem eq_start_of_successor_done {s : State} {x : Symbol} (h : successor? s x = some done) :
    s = start ∧ x = Symbol.model := by
  obtain ⟨⟨r, hr, ht⟩, q, hq, he⟩ := successor_some h
  exact ⟨((ends hr).2.2 _ ht).2 rfl, he.symm.trans ((ends hq).2.1.mpr rfl)⟩

/-- All that a state can do with a token. -/
theorem action_cases {s : State} {t : Symbol} {a : Action} (h : action? s t = some a) :
    t < Symbol.tokenCount ∧ (s = lost ∧ a = .recover ∨
      s ≠ lost ∧ (t = Symbol.comment ∧ a = .shiftExtra ∨
        (s = done ∧ t = Symbol.endOfText) ∧ a = .accept ∨
        (∃ r, reduction? s t = some r ∧ a = .reduce r) ∨
        ∃ u, successor? s t = some u ∧ a = .shift u)) := by
  unfold action? at h
  split at h
  · cases h
  · rename_i ht
    refine ⟨Nat.lt_of_not_le ht, ?_⟩
    split at h
    · rename_i hl
      cases h
      exact Or.inl ⟨hl, rfl⟩
    · rename_i hl
      refine Or.inr ⟨hl, ?_⟩
      split at h
      · rename_i hc
        cases h
        exact Or.inl ⟨hc, rfl⟩
      · split at h
        · rename_i hd
          cases h
          rw [Bool.and_eq_true, Option.any_eq_true, decide_eq_true_eq] at hd
          obtain ⟨⟨r, hr, he⟩, hend⟩ := hd
          exact Or.inr (Or.inl ⟨⟨(ends hr).2.1.mp (by simpa using he), hend⟩, rfl⟩)
        · split at h
          · rename_i r hr
            cases h
            exact Or.inr (Or.inr (Or.inl ⟨r, hr, rfl⟩))
          · obtain ⟨u, hu, rfl⟩ := Option.map_eq_some_iff.mp h
            exact Or.inr (Or.inr (Or.inr ⟨u, hu, rfl⟩))

/-- Texts are accepted in one state. -/
theorem done_of_accept {s : State} {t : Symbol} (h : action? s t = some .accept) : s = done := by
  obtain ⟨-, ⟨-, ha⟩ | ⟨-, ⟨-, ha⟩ | ⟨⟨hs, -⟩, -⟩ | ⟨_, -, ha⟩ | ⟨_, -, ha⟩⟩⟩ := action_cases h
  · cases ha
  · cases ha
  · exact hs
  · cases ha
  · cases ha

/-- Whether the symbol that leads into a state is one of the grammar, and can be seen if it is a
token. -/
def namedAt (s : State) : Bool :=
  (rowAt s).all fun r => Nat.blt r.entry Symbol.skipped &&
    (Nat.ble Symbol.tokenCount r.entry || Nat.beq r.entry Symbol.endOfText ||
      Symbol.isVisible r.entry)

theorem entries_named : (List.range stateBound).all namedAt = true := by decide +kernel

theorem successor_symbol {s t : State} {x : Symbol} (h : successor? s x = some t) :
    x < Symbol.skipped ∧ (x < Symbol.tokenCount → Symbol.isVisible x = true) := by
  obtain ⟨-, r, hr, rfl⟩ := successor_some h
  have hs := of_all_states entries_named hr
  rw [row_eq] at hr
  simp only [namedAt, hr, Option.all_some, Bool.and_eq_true, Bool.or_eq_true, Nat.ble_eq] at hs
  refine ⟨by simpa [Nat.blt_eq] using hs.1, fun ht => ?_⟩
  rcases hs.2 with (hle | hend) | hv
  · exact absurd hle (Nat.not_le_of_lt ht)
  · rw [Nat.eq_of_beq_eq_true hend, successor_endOfText] at h
    cases h
  · exact hv

/-- Whether a rule makes a symbol of the grammar, and one that can be seen if it has no children. -/
def ruleNamed (r : Rule) : Bool :=
  Nat.blt r.symbol Symbol.skipped && (!Nat.beq r.length 0 || Symbol.isVisible r.symbol)

theorem rules_named : rules.toList.all ruleNamed = true := by decide +kernel

def sameName : Option Symbol → Option Symbol → Bool
  | none, none => true
  | some a, some b => Nat.beq a b
  | _, _ => false

theorem eq_of_sameName {a b : Option Symbol} (h : sameName a b = true) : a = b := by
  cases a <;> cases b
  · rfl
  · cases h
  · cases h
  · rw [Nat.eq_of_beq_eq_true h]

/-- The children of a node as a right-hand side, from the place `i` on. -/
def partsFrom (as : List (Nat × Symbol)) : Nat → List Symbol → List Part
  | _, [] => []
  | i, x :: xs => ⟨x, Tree.aliasAt as i⟩ :: partsFrom as (i + 1) xs

/-- Whether children with these aliases spell a right-hand side. -/
def spells (as : List (Nat × Symbol)) : Nat → List Symbol → List Part → Bool
  | _, [], [] => true
  | i, x :: xs, p :: ps =>
    Nat.beq x p.symbol && sameName (Tree.aliasAt as i) p.shownAs && spells as (i + 1) xs ps
  | _, _, _ => false

theorem partsFrom_of_spells {as : List (Nat × Symbol)} {i : Nat} {xs : List Symbol} {ps : List Part}
    (h : spells as i xs ps = true) : partsFrom as i xs = ps := by
  fun_induction spells as i xs ps with
  | case1 => rfl
  | case2 i x xs p ps ih =>
    rw [Bool.and_eq_true, Bool.and_eq_true] at h
    rw [partsFrom, ih h.2, Nat.eq_of_beq_eq_true h.1.1, eq_of_sameName h.1.2]
  | case3 => cases h

/-- Whether a rule of the grammar, or a repetition in it, has the reduction of `w` as a production. -/
def producedBy (r : Rule) (w : List Symbol) (rule : Symbol × Rhs) : Bool :=
  (Nat.beq rule.1 r.symbol && rule.2.words.any (spells r.aliases 0 w)) ||
    rule.2.repetitions.any fun q =>
      Nat.beq q.1 r.symbol && (q.2.repetitionWords q.1).any (spells r.aliases 0 w)

theorem production_of_producedBy {r : Rule} {w : List Symbol}
    (h : Grammar.rules.any (producedBy r w) = true) :
    (r.symbol, partsFrom r.aliases 0 w) ∈ Grammar.rules.productions := by
  obtain ⟨⟨s, rhs⟩, hmem, h⟩ := List.any_eq_true.mp h
  refine List.mem_flatMap.mpr ⟨_, hmem, List.mem_append.mpr ?_⟩
  simp only [producedBy, Bool.or_eq_true, Bool.and_eq_true] at h
  rcases h with ⟨hs, hw⟩ | hrep
  · obtain ⟨ps, hps, hsp⟩ := List.any_eq_true.mp hw
    rw [← Nat.eq_of_beq_eq_true hs, partsFrom_of_spells hsp]
    exact Or.inl (List.mem_map_of_mem hps)
  · obtain ⟨⟨t, q⟩, hq, hrep⟩ := List.any_eq_true.mp hrep
    rw [Bool.and_eq_true] at hrep
    obtain ⟨ps, hps, hsp⟩ := List.any_eq_true.mp hrep.2
    rw [← Nat.eq_of_beq_eq_true hrep.1, partsFrom_of_spells hsp]
    exact Or.inr (List.mem_flatMap.mpr ⟨_, hq, List.mem_map_of_mem hps⟩)

/-- Whether the reductions of a state are productions. -/
def reducesAt (s : State) : Bool :=
  (rowAt s).all fun row => row.reductions.all fun p =>
    (nth rules.toList p.1).all fun r => (trailAt s).any fun w =>
      Nat.ble r.length w.length && Grammar.rules.any (producedBy r (w.take r.length).reverse)

theorem reductions_produced : (List.range stateBound).all reducesAt = true := by decide +kernel

example : (reductions 44).map (fun q => (q.1.symbol.name, q.1.length)) = [("model_repeat1", 2)] := by
  decide +kernel

theorem reduction_some {s : State} {t : Symbol} {r : Rule} (h : reduction? s t = some r) :
    ∃ row i j, row? s = some row ∧ (i, j) ∈ row.reductions ∧ rule? i = some r ∧
      ∃ ts, lookaheads[j]? = some ts ∧ t ∈ ts := by
  obtain ⟨⟨q, ts⟩, hq, rfl⟩ := Option.map_eq_some_iff.mp h
  have hmem := List.mem_of_find?_eq_some hq
  have ht := List.find?_some hq
  cases hr : row? s with
  | none => rw [reductions, hr] at hmem; cases hmem
  | some row =>
    rw [reductions, hr, Option.elim_some] at hmem
    obtain ⟨⟨i, j⟩, hij, hrule⟩ := List.mem_filterMap.mp hmem
    obtain ⟨q', hq', hts⟩ := Option.bind_eq_some_iff.mp hrule
    obtain ⟨ts', hts', he⟩ := Option.map_eq_some_iff.mp hts
    cases he
    exact ⟨row, i, j, rfl, hij, hq', ts, hts', by simpa using ht⟩

theorem reduction_symbol {s : State} {t : Symbol} {r : Rule} (h : reduction? s t = some r) :
    r.symbol < Symbol.skipped ∧ (r.length = 0 → Symbol.isVisible r.symbol = true) := by
  obtain ⟨-, i, -, -, -, hrule, -⟩ := reduction_some h
  have hmem : r ∈ rules.toList := Array.mem_toList_iff.mpr (Array.mem_of_getElem? hrule)
  have hr := List.all_eq_true.mp rules_named r hmem
  simp only [ruleNamed, Bool.and_eq_true, Bool.or_eq_true, Bool.not_eq_true'] at hr
  refine ⟨by simpa [Nat.blt_eq] using hr.1, fun hz => hr.2.resolve_left fun hne => ?_⟩
  rw [hz] at hne
  cases hne

/-- What a reduction takes off the stack is a right-hand side of its symbol. -/
theorem reduction_production {s : State} {t : Symbol} {r : Rule} (h : reduction? s t = some r) :
    r.length ≤ (trail s).length ∧
      (r.symbol, partsFrom r.aliases 0 ((trail s).take r.length).reverse)
        ∈ Grammar.rules.productions := by
  obtain ⟨row, i, j, hrow, hij, hrule, -⟩ := reduction_some h
  have hs := of_all_states reductions_produced hrow
  rw [row_eq] at hrow
  simp only [reducesAt, hrow, Option.all_some] at hs
  have hi := List.all_eq_true.mp hs _ hij
  have hnth : nth rules.toList i = some r := by rw [nth_eq, Array.getElem?_toList]; exact hrule
  rw [hnth, Option.all_some] at hi
  obtain ⟨w, hw, hi⟩ := (Option.any_eq_true _ _).mp hi
  rw [Bool.and_eq_true] at hi
  rw [trail_eq, hw, Option.getD_some]
  exact ⟨Nat.le_of_ble_eq_true hi.1, production_of_producedBy hi.2⟩

end MathProg.Automaton
