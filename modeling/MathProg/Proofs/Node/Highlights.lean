import MathProg.Proofs.Node.Forms
import MathProg.Proofs.Node.Positions

/-!
# Highlights

Every token that is there has a highlight, whatever the text: no kind of token is without a scope, not
even in an error, where tokens have not got the names that rules give them. The highlights cut the text
at characters and do not overlap.
-/

namespace MathProg

/-- The kinds that have a scope. -/
def Scope.kinds : List String :=
  ["comment", "string", "alias", "number", "operator", "suffix", "symbolic_name", "model_object",
    "bareword"]

theorem Scope.isSome_ofKind {kind : String} (h : kind ∈ kinds) (text : List Char) :
    (ofKind? kind text).isSome = true := by
  simp only [kinds, List.mem_cons, List.not_mem_nil, or_false] at h
  rcases h with rfl | rfl | rfl | rfl | rfl | rfl | rfl | rfl | rfl
  all_goals rfl

/-- A token that shows under a name has a kind that has a scope. -/
theorem Symbol.name_mem_kinds : ∀ s ∈ tokenKinds, name s ∈ Scope.kinds := by decide +kernel

namespace Node

variable {source : List Char}

/-- The leaves with text that reading found as they are: no errors, and no missing tokens. -/
def tokens (n : Node) : List Node := n.leaves.filter fun m => !m.isError && !m.isMissing

def tokensAll (ns : List Node) : List Node := (leavesAll ns).filter fun m => !m.isError && !m.isMissing

theorem tokensAll_cons (n : Node) (ns : List Node) : tokensAll (n :: ns) = n.tokens ++ tokensAll ns := by
  rw [tokensAll, leavesAll, preorderAll, List.filter_append, List.filter_append]
  rfl

theorem tokens_of_children (i : Info) (c : Node) (cs : List Node) :
    (mk i (c :: cs)).tokens = tokensAll (c :: cs) := by
  rw [tokens, leaves_of_children (List.cons_ne_nil c cs)]
  rfl

/-- Where a token is, in bytes, and what it says. -/
def cut (source : List Char) (n : Node) : Nat × Nat × List Char :=
  (n.start.bytes, n.stop.bytes, n.text source)

/-- A token that has a name has a scope. -/
theorem Formed.scope {n : Node} (h : n.Formed) (hleaf : n.isTextLeaf = true) (herror : n.isError = false)
    (hnamed : n.isNamed = true) (text : List Char) : (Scope.ofKind? n.kind text).isSome = true := by
  rw [isTextLeaf, Bool.and_eq_true, List.isEmpty_iff, decide_eq_true_eq] at hleaf
  exact Scope.isSome_ofKind (Symbol.name_mem_kinds _ (h.token hleaf.1 hleaf.2 hnamed herror)) text

end Node

namespace Highlight

open Node

variable {source : List Char}

def cut (h : Highlight) : Nat × Nat × List Char := (h.start, h.stop, h.text)

theorem cuts_ofToken {n : Node} (h : n.Formed) (hleaf : n.children = []) (inFunctionName : Bool) :
    (ofToken? source inFunctionName n).toList.map cut = n.tokens.map (Node.cut source) := by
  have hpre : n.preorder = [n] := by
    obtain ⟨i, cs⟩ := n
    cases hleaf
    rfl
  have htokens : n.tokens = if (n.isTextLeaf && (!n.isError && !n.isMissing)) = true then [n] else [] := by
    rw [tokens, leaves, hpre, List.filter_filter, List.filter_cons, List.filter_nil, Bool.and_comm]
  by_cases htoken : (n.isTextLeaf && (!n.isError && !n.isMissing)) = true
  · rw [htokens, if_pos htoken]
    rw [Bool.and_eq_true, Bool.and_eq_true, Bool.not_eq_true', Bool.not_eq_true'] at htoken
    obtain ⟨htext, herror, hmissing⟩ := htoken
    have hne : (n.start.bytes == n.stop.bytes) = false := by
      rw [isTextLeaf, Bool.and_eq_true, decide_eq_true_eq] at htext
      exact beq_eq_false_iff_ne.mpr (Nat.ne_of_lt htext.2)
    rw [ofToken?, hmissing, herror, hne, if_neg (by decide)]
    dsimp only
    by_cases hnamed : n.isNamed = true
    · obtain ⟨s, hs⟩ := Option.isSome_iff_exists.mp (h.scope htext herror hnamed (n.text source))
      rw [if_pos hnamed, hs]
      rfl
    · rw [if_neg hnamed]
      rfl
  · rw [htokens, if_neg htoken]
    have hskip : (n.isMissing || n.isError || n.start.bytes == n.stop.bytes) = true := by
      by_contra hno
      rw [Bool.not_eq_true, Bool.or_eq_false_iff, Bool.or_eq_false_iff, beq_eq_false_iff_ne] at hno
      obtain ⟨⟨hmissing, herror⟩, hne⟩ := hno
      have hforward := h.forward
      have htext : n.isTextLeaf = true := by
        rw [isTextLeaf, hleaf, Bool.and_eq_true, decide_eq_true_eq]
        exact ⟨rfl, by omega⟩
      exact htoken (by rw [htext, hmissing, herror]; rfl)
    rw [ofToken?, if_pos hskip]
    rfl

mutual

/-- The highlights of a subtree are its tokens, each once and in their order. -/
theorem cuts_ofNode (inFunctionName : Bool) : ∀ n : Node, (∀ m ∈ n.preorder, m.Formed) →
    (ofNode source inFunctionName n).map cut = n.tokens.map (Node.cut source)
  | .mk i [], h => cuts_ofToken (h _ List.mem_cons_self) rfl inFunctionName
  | .mk i (c :: cs), h => by
    rw [ofNode, tokens_of_children]
    exact cuts_ofNodes _ (c :: cs) fun m hm => h m (List.mem_cons_of_mem _ hm)

theorem cuts_ofNodes (inFunctionName : Bool) : ∀ ns : List Node, (∀ m ∈ preorderAll ns, m.Formed) →
    (ofNodes source inFunctionName ns).map cut = (tokensAll ns).map (Node.cut source)
  | [], _ => rfl
  | n :: ns, h => by
    have hnode := cuts_ofNode inFunctionName n fun m hm => h m (List.mem_append_left _ hm)
    have hnodes := cuts_ofNodes inFunctionName ns fun m hm => h m (List.mem_append_right _ hm)
    rw [ofNodes, tokensAll_cons, List.map_append, List.map_append, hnode, hnodes]

end

end Highlight

/-- The bytes from `start` to `stop` of a text are whole characters, namely `part`. -/
def IsSlice (source : List Char) (start stop : Nat) (part : List Char) : Prop :=
  ∃ before after, source = before ++ part ++ after ∧ (utf8 before).length = start ∧
    (utf8 (before ++ part)).length = stop

theorem IsSlice.bytes {source text : List Char} {start stop : Nat} (h : IsSlice source start stop text) :
    stop ≤ (utf8 source).length ∧ utf8 text = ((utf8 source).drop start).take (stop - start) := by
  obtain ⟨before, after, rfl, rfl, rfl⟩ := h
  have happend : ∀ a b : List Char, utf8 (a ++ b) = utf8 a ++ utf8 b := fun _ _ => List.flatMap_append
  rw [happend (before ++ text), happend before, List.append_assoc, List.drop_left, List.length_append,
    List.length_append, List.length_append, Nat.add_sub_cancel_left, List.take_left]
  exact ⟨by omega, rfl⟩

/-- The text of a leaf is what the text has between the leaf's bytes. -/
theorem Node.Lossless.slice {source : List Char} {n m : Node} (h : n.Lossless source)
    (hm : m ∈ n.leaves) : m.start.bytes < m.stop.bytes ∧
      IsSlice source m.start.bytes m.stop.bytes (m.text source) := by
  obtain ⟨i, j, ⟨hij, hj⟩, hstart, hstop⟩ := h.bounded m hm
  have hi : m.start.chars = i := by rw [hstart, chars_take (by omega)]
  have hj' : m.stop.chars = j := by rw [hstop, chars_take hj]
  have hleaf := (List.mem_filter.mp hm).2
  rw [isTextLeaf, Bool.and_eq_true, decide_eq_true_eq] at hleaf
  have hupto : source.take i ++ m.text source = source.take j := by
    rw [Node.text, hi, hj', ← List.take_add, Nat.add_sub_cancel' (Nat.le_of_lt hij)]
  refine ⟨hleaf.2, source.take i, source.drop j, ?_, ?_, ?_⟩
  · rw [hupto, List.take_append_drop]
  · rw [Extent.length_utf8, hstart]
  · rw [hupto, Extent.length_utf8, hstop]

/-- A highlight is not empty, and holds what the text has between its bytes. -/
theorem Document.slice_of_highlight {source : List Char} {d : Document}
    (h : Document.ofText? source = some d) {s : Highlight} (hs : s ∈ d.highlights) :
    s.start < s.stop ∧ IsSlice source s.start s.stop s.text := by
  obtain ⟨t, ht, rfl⟩ := Option.map_eq_some_iff.mp h
  have hwhole := parse_whole ht
  have hcuts : (Highlight.ofRoot source (Node.ofTree t)).map Highlight.cut =
      (Node.ofTree t).tokens.map (Node.cut source) :=
    Highlight.cuts_ofNode false _ (Node.formed_of_whole hwhole)
  have hcut : s.cut ∈ (Node.ofTree t).tokens.map (Node.cut source) := hcuts ▸ List.mem_map_of_mem hs
  obtain ⟨n, hn, heq⟩ := List.mem_map.mp hcut
  rw [Node.cut, Highlight.cut, Prod.mk.injEq, Prod.mk.injEq] at heq
  rw [← heq.1, ← heq.2.1, ← heq.2.2]
  exact (Node.lossless_of_whole hwhole).slice (List.mem_filter.mp hn).1

/-- Whatever the text, there is a highlight for each token, none twice and in the order of the text; it
is not empty, does not reach into the next one, and holds whole characters of the text. Every token that
has a name has a scope. -/
theorem Document.highlights_complete {source : List Char} {d : Document}
    (h : Document.ofText? source = some d) :
    (d.highlights.map fun s => (s.start, s.stop)) =
      ((d.root.leaves.filter fun n => !n.isError && !n.isMissing).map
        fun n => (n.start.bytes, n.stop.bytes)) ∧
    (∀ s ∈ d.highlights, s.start < s.stop ∧ IsSlice source s.start s.stop s.text) ∧
    (d.highlights.Pairwise fun s t => s.stop ≤ t.start) ∧
    ∀ n ∈ d.root.leaves, n.isError = false → n.isNamed = true →
      (Scope.ofKind? n.kind (n.text source)).isSome = true := by
  obtain ⟨t, ht, rfl⟩ := Option.map_eq_some_iff.mp h
  have hwhole := parse_whole ht
  have hlossless := Node.lossless_of_whole hwhole
  have hformed := Node.formed_of_whole hwhole
  have hcuts : (Highlight.ofRoot source (Node.ofTree t)).map Highlight.cut =
      (Node.ofTree t).tokens.map (Node.cut source) := Highlight.cuts_ofNode false _ hformed
  have hranges : (Highlight.ofRoot source (Node.ofTree t)).map (fun s => (s.start, s.stop)) =
      (Node.ofTree t).tokens.map fun n => (n.start.bytes, n.stop.bytes) := by
    have hpairs := congrArg (List.map fun c : Nat × Nat × List Char => (c.1, c.2.1)) hcuts
    rwa [List.map_map, List.map_map] at hpairs
  refine ⟨hranges, fun s hs => slice_of_highlight h hs, ?_, fun n hn herror hnamed => ?_⟩
  · have hordered : ((Node.ofTree t).tokens.map fun n => (n.start.bytes, n.stop.bytes)).Pairwise
        fun a b => a.2 ≤ b.1 :=
      List.pairwise_map.mpr (hlossless.ordered.filter _)
    rw [← hranges] at hordered
    exact List.pairwise_map.mp hordered
  · have hleaf := List.mem_filter.mp hn
    exact (hformed n hleaf.1).scope hleaf.2 herror hnamed _

theorem Document.highlights_complete_broken :
    ∃ d, Document.ofText? "set é; s.t. end 'é' # c".toList = some d ∧ d.root.hasError = true ∧
      (d.highlights.map fun s => (s.start, s.stop)) =
        ((d.root.leaves.filter fun n => !n.isError && !n.isMissing).map
          fun n => (n.start.bytes, n.stop.bytes)) ∧
      (∀ s ∈ d.highlights, s.start < s.stop ∧
        IsSlice "set é; s.t. end 'é' # c".toList s.start s.stop s.text) ∧
      (d.highlights.Pairwise fun s t => s.stop ≤ t.start) ∧
      ∀ n ∈ d.root.leaves, n.isError = false → n.isNamed = true →
        (Scope.ofKind? n.kind (n.text "set é; s.t. end 'é' # c".toList)).isSome = true := by
  have h : (Document.ofText? "set é; s.t. end 'é' # c".toList).any (·.root.hasError) = true := by
    decide +kernel
  obtain ⟨d, hd, herror⟩ := (Option.any_eq_true _ _).mp h
  exact ⟨d, hd, herror, highlights_complete hd⟩

end MathProg
