import MathProg.Proofs.Automaton.Begun
import MathProg.Token.Munch

/-!
# Statements of the automaton

The model is made at the end of the text only. Statements follow each other in two sections, those of the
model and those of the data. In each of them the automaton is in one of a few states where a statement
begins, which differ in what they make of the statements before and not in how they begin the next one;
and whether a statement is over does not depend on which of the next tokens there is.
-/

namespace MathProg

namespace Symbol

def dataWord : Symbol := 2
def semicolon : Symbol := 3
def closingBrace : Symbol := 41

example : [dataWord, semicolon, closingBrace].map name = ["data", ";", "\x7d"] := by decide +kernel

end Symbol

namespace Automaton

variable {s s' u : State} {x y : Symbol} {r : Rule}

/-- Whether a state makes the model at the end of the text only, and makes nothing else without children. -/
def modelAt (s : State) : Bool :=
  (rowAt s).all fun row => row.reductions.all fun q => (nth rules.toList q.1).all fun r =>
    if Nat.beq r.symbol Symbol.model then
      (nth lookaheads.toList q.2).all fun ts => ts.all (Nat.beq Symbol.endOfText)
    else !Nat.beq r.length 0

theorem models_checked : (List.range stateBound).all modelAt = true := by decide +kernel

theorem reduction_model (h : reduction? s x = some r) :
    (r.symbol = Symbol.model → x = Symbol.endOfText) ∧ (r.symbol ≠ Symbol.model → r.length ≠ 0) := by
  obtain ⟨row, i, j, hrow, hij, hrule, ts, hts, hx⟩ := reduction_some h
  have hs := of_all_states models_checked hrow
  rw [row_eq] at hrow
  simp only [modelAt, hrow, Option.all_some] at hs
  have hrule' : nth rules.toList i = some r := by rw [nth_eq, Array.getElem?_toList]; exact hrule
  have hts' : nth lookaheads.toList j = some ts := by rw [nth_eq, Array.getElem?_toList]; exact hts
  have hall := List.all_eq_true.mp hs _ hij
  dsimp only at hall
  rw [hrule', Option.all_some, hts', Option.all_some] at hall
  refine ⟨fun hr => ?_, fun hr hzero => ?_⟩
  · rw [hr, if_pos (by decide)] at hall
    exact (Nat.eq_of_beq_eq_true (List.all_eq_true.mp hall x hx)).symm
  · rw [if_neg (fun hno => hr (Nat.eq_of_beq_eq_true hno)), hzero] at hall
    cases hall

/-- The two parts of a text that consist of statements. -/
inductive Section where
  | model
  | data
  deriving DecidableEq, Repr

namespace Section

def statement : Section → Symbol
  | model => Grammar.modelStatement
  | data => Grammar.dataStatement

/-- The symbol that repetitions of the statement are made to. -/
def repetition : Section → Symbol
  | model => 168
  | data => 169

/-- The state in which the first statement begins; the data section has no statements of the model before
it. -/
def entry : Section → State
  | model => start
  | data => 3

/-- The states in which a statement may be the first one. -/
def bases : Section → List State
  | model => [start]
  | data => [3, 43]

/-- The states in which a statement may begin. -/
def begins : Section → List State
  | model => [start, 4]
  | data => [3, 43, 36, 132]

/-- The state behind a statement. -/
def closed : Section → State
  | model => 5
  | data => 37

/-- The state behind two repetitions. -/
def repeated : Section → State
  | model => 44
  | data => 126

/-- The tokens before which a statement may end. -/
def follows : Section → List Symbol
  | model => [0, 2, 4, 5, 6, 7, 8, 9, 28, 29, 30, 33, 34, 35, 36, 37, 39, 42]
  | data => [0, 4, 6, 7]

/-- What may end with a statement, or with the head of the section. -/
def ends : Section → List Symbol
  | model => [Grammar.modelStatement, Grammar.endStatement, Grammar.solve, Grammar.set, Grammar.param,
      Grammar.var, Grammar.constraint, Grammar.objective, Grammar.check, Grammar.display, Grammar.printf,
      Grammar.forStatement, Grammar.blockStatement, Grammar.table]
  | data => [Grammar.dataHead, Grammar.dataStatement, Grammar.setData, Grammar.paramData,
      Grammar.endStatement]

/-- The modes in which a token is read behind a statement. -/
def modes : Section → List Nat
  | model => [1, 38]
  | data => [1, 3]

/-- The modes that read nothing but what may begin a statement, and perhaps a brace. -/
def narrow : Section → List Nat
  | model => [1, 38]
  | data => [3]

/-- The section that a statement belongs to. -/
def of (x : Symbol) : Section := if x = Grammar.dataStatement then data else model

variable (σ : Section)

theorem of_statement : of σ.statement = σ := by cases σ <;> rfl

/-- What statements are put together to. -/
def wholes : List Symbol := [Symbol.model, model.repetition, data.repetition]

/-- What is taken only where a statement may begin, and tells the states apart there. -/
def joints : List Symbol := Grammar.dataHead :: wholes

theorem entry_mem : σ.entry ∈ σ.begins := by cases σ <;> decide

theorem endOfText_mem : Symbol.endOfText ∈ σ.follows := by cases σ <;> decide

theorem statement_mem_ends : σ.statement ∈ σ.ends := by cases σ <;> decide

theorem statement_not_whole : σ.statement ∉ wholes := by cases σ <;> decide

theorem repetition_mem : σ.repetition ∈ joints := by cases σ <;> decide

/-- Whether statements begin with the same tokens in all states where one may begin. -/
def beginsAlike : Bool :=
  σ.begins.all fun s => (List.range Symbol.tokenCount).all fun t =>
    match action? s t with
    | some (.shift u) => σ.follows.contains t && σ.begins.all fun s' => action? s' t == some (.shift u)
    | _ => true

/-- Whether the states where a statement may begin go on in the same way, except at the joints. -/
def goesAlike : Bool :=
  σ.begins.all fun s => (rowAt s).all fun row => row.successors.all fun u => (rowAt u).all fun q =>
    joints.contains q.entry || σ.begins.all fun s' => successor? s' q.entry == some u

theorem begins_checked : beginsAlike σ = true := by cases σ <;> decide +kernel

theorem goes_checked : goesAlike σ = true := by cases σ <;> decide +kernel

variable {σ}

/-- A token that is taken where a statement may begin is taken everywhere where one may. -/
theorem shift_alike (hs : s ∈ σ.begins) (h : action? s x = some (.shift u)) :
    x ∈ σ.follows ∧ ∀ s' ∈ σ.begins, action? s' x = some (.shift u) := by
  have ht := List.mem_range.mpr (action_cases h).1
  have hall := List.all_eq_true.mp (List.all_eq_true.mp σ.begins_checked s hs) x ht
  rw [h] at hall
  dsimp only at hall
  rw [Bool.and_eq_true, List.contains_iff_mem] at hall
  exact ⟨hall.1, fun s' hs' => beq_iff_eq.mp (List.all_eq_true.mp hall.2 s' hs')⟩

theorem successor_alike (hs : s ∈ σ.begins) (hs' : s' ∈ σ.begins) (hx : x ∉ joints) :
    successor? s x = successor? s' x := by
  have hgo : ∀ {s s' u : State}, s ∈ σ.begins → s' ∈ σ.begins → successor? s x = some u →
      successor? s' x = some u := by
    intro s s' u hs hs' h
    obtain ⟨⟨row, hrow, hu⟩, q, hq, rfl⟩ := successor_some h
    have hall := List.all_eq_true.mp σ.goes_checked s hs
    rw [row_eq] at hrow hq
    rw [hrow, Option.all_some] at hall
    have hnext := List.all_eq_true.mp hall u hu
    rw [hq, Option.all_some, Bool.or_eq_true, List.contains_iff_mem] at hnext
    exact beq_iff_eq.mp (List.all_eq_true.mp (hnext.resolve_left hx) s' hs')
  cases h : successor? s x with
  | some u => exact (hgo hs hs' h).symm
  | none =>
    cases h' : successor? s' x with
    | none => rfl
    | some u =>
      rw [hgo hs' hs h'] at h
      cases h

-- The `set` of a model leads to one state, at the start and behind other statements.
example : Symbol.name 6 = "set" ∧ action? 4 6 = action? start 6 := by decide +kernel

variable (σ)

/-- Whether a state makes a repetition of some children before each token that may follow, and takes none. -/
def repeatsAt (s : State) (n : Nat) : Bool :=
  (σ.follows.all fun y => action? s y == some (.reduce ⟨σ.repetition, n, []⟩)) &&
    (List.range Symbol.tokenCount).all fun t =>
      match action? s t with
      | some (.shift _) => false
      | _ => true

theorem repeats_checked : σ.repeatsAt σ.closed 1 = true ∧ σ.repeatsAt σ.repeated 2 = true := by
  cases σ <;> decide +kernel

theorem successor_statement : ∀ s ∈ σ.begins, successor? s σ.statement = some σ.closed := by
  cases σ <;> decide +kernel

/-- Behind a repetition a statement may begin, except behind a second one. -/
theorem successor_repetition : ∀ s ∈ σ.begins, ((successor? s σ.repetition).all fun u =>
    decide (u ∈ σ.begins ∨ u = σ.repeated)) = true := by
  cases σ <;> decide +kernel

theorem bases_checked : ∀ s ∈ σ.bases, s ∈ σ.begins ∧ ((successor? s σ.repetition).any fun u =>
    decide (u ∈ σ.begins ∧ successor? u σ.repetition = some σ.repeated)) = true := by
  cases σ <;> decide +kernel

theorem head_checked : ∀ s ∈ model.begins, ((successor? s Grammar.dataHead).any fun u =>
    decide (u ∈ data.bases)) = true := by
  decide +kernel

/-- What is made at the joints shows nothing under another name. -/
theorem aliases_checked : (rules.toList.all fun r => !joints.contains r.symbol || r.aliases == []) =
    true := by
  decide +kernel

theorem aliases_of_joint (h : reduction? s x = some r) (hr : r.symbol ∈ joints) : r.aliases = [] := by
  obtain ⟨-, i, -, -, -, hrule, -⟩ := reduction_some h
  have hall := List.all_eq_true.mp aliases_checked r
    (Array.mem_toList_iff.mpr (Array.mem_of_getElem? hrule))
  rw [Bool.or_eq_true, Bool.not_eq_true', ← Bool.not_eq_true, List.contains_iff_mem, beq_iff_eq] at hall
  exact hall.resolve_left fun hno => hno hr

variable {σ}

theorem of_repeatsAt {n : Nat} (h : σ.repeatsAt s n = true) :
    (∀ y ∈ σ.follows, action? s y = some (.reduce ⟨σ.repetition, n, []⟩)) ∧
      ∀ x u, action? s x ≠ some (.shift u) := by
  obtain ⟨hreduce, hshift⟩ := Bool.and_eq_true_iff.mp h
  refine ⟨fun y hy => beq_iff_eq.mp (List.all_eq_true.mp hreduce y hy), fun x u hx => ?_⟩
  have hall := List.all_eq_true.mp hshift x (List.mem_range.mpr (action_cases hx).1)
  rw [hx] at hall
  cases hall

variable (σ)

/-- Whether what may end with a statement ends before each of the tokens that may follow, and with a token
that closes it or with something else that may end so. -/
def closesAt (s : State) : Bool :=
  (rowAt s).all fun row => row.reductions.all fun q => (nth rules.toList q.1).all fun r =>
    !σ.ends.any (Nat.beq r.symbol) ||
      (σ.follows.all fun y => action? s y == some (.reduce r)) &&
        if Nat.blt row.entry Symbol.tokenCount then
          (Nat.beq row.entry Symbol.semicolon || Nat.beq row.entry Symbol.closingBrace) &&
            σ.modes.any (Nat.beq row.mode)
        else σ.ends.any (Nat.beq row.entry)

theorem closes_checked : (List.range stateBound).all σ.closesAt = true := by cases σ <;> decide +kernel

theorem ends_checked : ∀ x ∈ σ.ends, Symbol.tokenCount ≤ x := by cases σ <;> decide

variable {σ}

theorem mem_of_any_beq {xs : List Nat} {n : Nat} : xs.any (Nat.beq n) = true ↔ n ∈ xs := by
  simp only [List.any_eq_true, Nat.beq_eq, exists_eq_right']

/-- What may end with a statement ends before each of the tokens that may follow. -/
theorem closes {row : Row} (h : reduction? s x = some r) (hr : r.symbol ∈ σ.ends)
    (hrow : row? s = some row) :
    (∀ y ∈ σ.follows, action? s y = some (.reduce r)) ∧
      (row.entry < Symbol.tokenCount → (row.entry = Symbol.semicolon ∨ row.entry = Symbol.closingBrace) ∧
        modeIndex s ∈ σ.modes) ∧
        (Symbol.tokenCount ≤ row.entry → row.entry ∈ σ.ends) := by
  obtain ⟨row', i, j, hrow', hij, hrule, -⟩ := reduction_some h
  cases hrow.symm.trans hrow'
  have hs := of_all_states σ.closes_checked hrow
  have hat := hrow
  rw [row_eq] at hat
  simp only [closesAt, hat, Option.all_some] at hs
  have hi := List.all_eq_true.mp hs _ hij
  rw [nth_eq, Array.getElem?_toList, show rules[i]? = some r from hrule, Option.all_some, Bool.or_eq_true,
    Bool.not_eq_true', ← Bool.not_eq_true, mem_of_any_beq, Bool.and_eq_true] at hi
  obtain ⟨hall, hentry⟩ := hi.resolve_left fun hno => hno hr
  refine ⟨fun y hy => beq_iff_eq.mp (List.all_eq_true.mp hall y hy), fun ht => ?_, fun ht => ?_⟩
  · rw [if_pos (Nat.blt_eq.mpr ht), Bool.and_eq_true, Bool.or_eq_true, Nat.beq_eq, Nat.beq_eq,
      mem_of_any_beq] at hentry
    rw [modeIndex, hrow, Option.elim_some]
    exact hentry
  · rw [if_neg (by rw [Nat.blt_eq]; exact Nat.not_lt_of_le ht), mem_of_any_beq] at hentry
    exact hentry

variable (σ)

/-- Whether a mode of fixed tokens has all that may begin a statement, and nothing but a brace that
another one has not. -/
def narrows (m m' : Mode) : Bool :=
  m.values == .nothing && m'.values == .nothing && !m.tokens.contains Symbol.suffix &&
    !m'.tokens.contains Symbol.suffix && (Symbol.comment :: σ.follows).all m'.tokens.contains &&
      m'.tokens.all fun t => m.tokens.contains t || t == Symbol.closingBrace

theorem modes_checked : (σ.modes.all fun i => σ.narrow.all fun j =>
    (Mode.table[i]?).any fun m => (Mode.table[j]?).any fun m' => σ.narrows m m') = true := by
  cases σ <;> decide +kernel

theorem brace_checked : Symbol.closingBrace ∉ Symbol.comment :: σ.follows := by cases σ <;> decide

variable {σ}

theorem narrows_of_modes (hs : modeIndex s ∈ σ.modes) (hs' : modeIndex s' ∈ σ.narrow) :
    σ.narrows (mode s) (mode s') = true := by
  have hall := List.all_eq_true.mp (List.all_eq_true.mp σ.modes_checked _ hs) _ hs'
  obtain ⟨m, hm, hany⟩ := (Option.any_eq_true _ _).mp hall
  obtain ⟨m', hm', hnarrows⟩ := (Option.any_eq_true _ _).mp hany
  rw [mode, mode, hm, hm']
  exact hnarrows

end Section

end Automaton

end MathProg
