import MathProg.Proofs.Node.Forms

/-!
# The kinds of nodes

An error shows as one: it keeps its kind whatever stands above it, and nothing else has that kind.
-/

namespace MathProg

namespace Symbol

theorem names_checked : ∀ e ∈ table.toList, e.name ≠ "ERROR" ∧ '\n' ∉ e.name.toList := by
  decide +kernel

/-- The row of a symbol that is no error is one of the table, or that of a chain of skipped tokens. -/
theorem name_cases (s : Symbol) : s = error ∨ name s = "_ERROR" ∨ name s = "" ∨
    ∃ e ∈ table.toList, name s = e.name := by
  rw [name, lookup?]
  split
  · exact Or.inl ‹_›
  · split
    · exact Or.inr (Or.inl rfl)
    · cases he : table[s]? with
      | none => exact Or.inr (Or.inr (Or.inl rfl))
      | some e =>
        refine Or.inr (Or.inr (Or.inr ⟨e, ?_, rfl⟩))
        exact Array.mem_toList_iff.mpr (Array.mem_of_getElem? he)

theorem name_eq_error {s : Symbol} : name s = "ERROR" ↔ s = error := by
  constructor
  · intro h
    rcases name_cases s with hs | hs | hs | ⟨e, he, hs⟩
    · exact hs
    · exact absurd (hs.symm.trans h) (by decide)
    · exact absurd (hs.symm.trans h) (by decide)
    · exact absurd (hs.symm.trans h) (names_checked e he).1
  · rintro rfl
    rfl

/-- No name of a symbol has a line feed in it. -/
theorem lineFeed_not_mem_name (s : Symbol) : '\n' ∉ (name s).toList := by
  rcases name_cases s with hs | hs | hs | ⟨e, he, hs⟩
  · rw [hs]
    decide
  · rw [hs]
    decide
  · rw [hs]
    decide
  · rw [hs]
    exact (names_checked e he).2

end Symbol

namespace Grammar

/-- Whether a part that shows under a name of its own is no error, and is not named like one. -/
def Part.keepsErrors (p : Part) : Bool :=
  p.shownAs.all fun a => a != Symbol.error && p.symbol != Symbol.error

theorem productions_keep_errors :
    (rules.productions.all fun rule => rule.2.all Part.keepsErrors) = true := by
  decide +kernel

theorem Part.ne_error {p : Part} {a : Symbol} (h : p.keepsErrors = true) (ha : a ∈ p.shownAs) :
    a ≠ Symbol.error ∧ p.symbol ≠ Symbol.error := by
  rw [keepsErrors, Option.all_eq_true] at h
  simpa using h a ha

end Grammar

namespace Tree

theorem Built.keepsErrors {s : Symbol} {as : List (Nat × Symbol)} {cs : List Tree}
    (h : Built s as cs) : ∀ p ∈ parts as 0 cs, p.keepsErrors = true := by
  intro p hp
  rcases h with ⟨-, rfl⟩ | h
  · rw [Grammar.Part.keepsErrors, parts_plain 0 cs p hp]
    rfl
  · exact List.all_eq_true.mp (List.all_eq_true.mp Grammar.productions_keep_errors _ h) p hp

end Tree

namespace Node

variable {source : List Char}

/-- What a child shows as is an error only if the child is one. -/
theorem error_infoOf {alias? : Option Symbol} {base : Extent} {c : Tree} {ns : List Node}
    (h : ∀ a ∈ alias?, a ≠ Symbol.error ∧ c.symbol ≠ Symbol.error) :
    (mk (infoOf alias? base c) ns).isError = true ↔
      (mk (infoOf alias? base c) ns).symbol = Symbol.error := by
  show (c.symbol == Symbol.error) = true ↔ alias?.getD c.symbol = Symbol.error
  cases alias? with
  | none => simp
  | some a =>
    obtain ⟨ha, hc⟩ := h a rfl
    simp [ha, hc]

mutual

theorem error_shown : ∀ (t : Tree) {base : Extent} {place : Nat}, t.Tiled source place →
    ∀ n ∈ preorderAll (shown base t), n.isError = true ↔ n.symbol = Symbol.error
  | .leaf _, _, _, _ => fun _ hn => absurd hn List.not_mem_nil
  | .node _ as cs _, _, _, h => error_shownAmong cs as 0 h.2.2 h.2.1.keepsErrors

/-- Among all that a stretch of trees shows, the errors and no others have the error's symbol. -/
theorem error_shownAmong : ∀ (cs : List Tree) {base : Extent} (as : List (Nat × Symbol))
    (i : Nat) {place : Nat}, Tree.TiledAll source place cs →
    (∀ p ∈ Tree.parts as i cs, p.keepsErrors = true) →
    ∀ n ∈ preorderAll (shownAmong as i base cs), n.isError = true ↔ n.symbol = Symbol.error
  | [], _, _, _, _, _, _ => fun _ hn => absurd hn List.not_mem_nil
  | c :: cs, base, as, i, _, h, hparts => by
    intro n hn
    have hinside := @error_shown c base _ h.1
    obtain ⟨hkeeps, htail⟩ := Tree.of_parts_cons hparts
    have hhead : ∀ a ∈ aliasOf as i c, a ≠ Symbol.error ∧ c.symbol ≠ Symbol.error :=
      fun a ha => Grammar.Part.ne_error (hkeeps a ha) ha
    rw [shownAmong_cons, preorderAll_append, List.mem_append] at hn
    rcases hn with hn | hn
    · rw [shownAs] at hn
      split at hn
      · rw [preorderAll, preorderAll, List.append_nil, preorder, List.mem_cons] at hn
        rcases hn with rfl | hn
        · exact error_infoOf hhead
        · exact hinside n hn
      · exact hinside n hn
    · exact error_shownAmong cs as _ h.2 htail n hn

end

/-- In the tree of a text the errors and no other nodes have the kind of errors. -/
theorem error_of_whole {t : Tree} (h : t.Whole source) :
    ∀ n ∈ (ofTree t).preorder, n.isError = true ↔ n.kind = "ERROR" := by
  obtain ⟨s, as, cs, e, rfl, htiled, hparts, hshown, -⟩ := root_shape h
  have hkeeps := (h.built _ _ _ _ rfl).keepsErrors
  rw [hparts] at hkeeps
  intro n hn
  rw [kind, Symbol.name_eq_error]
  rw [ofTree, preorder, List.mem_cons] at hn
  rcases hn with rfl | hn
  · exact error_infoOf fun a ha => absurd ha (Option.not_mem_none a)
  · rw [hshown] at hn
    exact error_shownAmong cs as 0 htiled hkeeps n hn

end Node

end MathProg
