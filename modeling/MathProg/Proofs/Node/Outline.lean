import MathProg.Node.Outline
import MathProg.Proofs.Node.Forms

/-!
# Outlines

A tree without what has neither a name nor a mark. The JSON form of a node says no more and no less than
its outline, and the outline leaves out no named or missing node, since nothing stands below a node
without a name.
-/

namespace MathProg

/-- A tree with something to say at each place. -/
inductive Outline (α : Type) where
  | mk (entry : α) (below : List (Outline α))

namespace Outline

variable {α β : Type}

mutual

/-- What a tree says, from above to below and from left to right. -/
def entries : Outline α → List α
  | mk a os => a :: entriesAll os

def entriesAll : List (Outline α) → List α
  | [] => []
  | o :: os => entries o ++ entriesAll os

end

mutual

def map (f : α → β) : Outline α → Outline β
  | mk a os => mk (f a) (mapAll f os)

def mapAll (f : α → β) : List (Outline α) → List (Outline β)
  | [] => []
  | o :: os => map f o :: mapAll f os

end

mutual

theorem entries_map (f : α → β) : ∀ o : Outline α, (o.map f).entries = o.entries.map f
  | mk a os => congrArg (f a :: ·) (entriesAll_map f os)

theorem entriesAll_map (f : α → β) : ∀ os : List (Outline α),
    entriesAll (mapAll f os) = (entriesAll os).map f
  | [] => rfl
  | o :: os => by
    rw [mapAll, entriesAll, entriesAll, List.map_append, entries_map f o, entriesAll_map f os]

end

end Outline

namespace Node

mutual

/-- A node with those below it that are listed. -/
def outline : Node → Outline Node
  | mk i cs => .mk (mk i cs) (outlineAll cs)

def outlineAll : List Node → List (Outline Node)
  | [] => []
  | c :: cs => if c.isListed then outline c :: outlineAll cs else outlineAll cs

end

theorem self_mem_preorder (n : Node) : n ∈ n.preorder := by
  obtain ⟨i, cs⟩ := n
  exact List.mem_cons_self

/-- A node that is not listed has none below it. -/
theorem eq_of_unlisted {n : Node} (h : n.isNamed = false → n.children = [])
    (hn : n.isListed = false) : n = Node.mk n.info [] := by
  rw [isListed, Bool.or_eq_false_iff] at hn
  have hnone := h hn.2
  obtain ⟨i, cs⟩ := n
  exact congrArg (Node.mk i) hnone

mutual

/-- All nodes below a node that are listed are in its outline. -/
theorem entries_outline : ∀ n : Node, (∀ m ∈ n.preorder, m.isNamed = false → m.children = []) →
    n.isListed = true → n.outline.entries = n.preorder.filter isListed
  | mk i cs, h, hn => by
    rw [outline, Outline.entries, preorder, List.filter_cons, if_pos hn]
    exact congrArg _ (entries_outlineAll cs fun m hm => h m (List.mem_cons_of_mem _ hm))

theorem entries_outlineAll : ∀ ns : List Node,
    (∀ m ∈ preorderAll ns, m.isNamed = false → m.children = []) →
    Outline.entriesAll (outlineAll ns) = (preorderAll ns).filter isListed
  | [], _ => rfl
  | n :: ns, h => by
    have hns := entries_outlineAll ns fun m hm => h m (List.mem_append_right _ hm)
    rw [outlineAll, preorderAll, List.filter_append]
    by_cases hn : n.isListed = true
    · rw [if_pos hn, Outline.entriesAll, hns,
        entries_outline n (fun m hm => h m (List.mem_append_left _ hm)) hn]
    · have hself := h n (List.mem_append_left _ n.self_mem_preorder)
      have hpre : n.preorder = [n] := by
        rw [eq_of_unlisted hself (Bool.not_eq_true _ ▸ hn)]
        rfl
      rw [if_neg hn, hpre, List.filter_cons, if_neg hn, List.filter_nil, List.nil_append, hns]

end

end Node

/-- What the JSON form says of a node. -/
structure Listing where
  kind : String
  start : Point
  stop : Point
  first : Nat
  last : Nat
  missing : Bool
  deriving DecidableEq

def Node.listing (n : Node) : Listing :=
  ⟨n.kind, n.start.point, n.stop.point, n.start.bytes, n.stop.bytes, n.isMissing⟩

namespace Json

def toPoint? : Json → Option Point
  | object [("row", number row), ("column", number column)] => some ⟨row, column⟩
  | _ => none

def toRange? : Json → Option (Nat × Nat)
  | object [("start", number start), ("end", number stop)] => some (start, stop)
  | _ => none

mutual

/-- The tree that a JSON value describes, if it describes one. -/
def toOutline? : Json → Option (Outline Listing)
  | object [("kind", string kind), ("start", start), ("end", stop), ("range", range),
      ("missing", bool missing), ("children", array items)] => do
    let start ← toPoint? start
    let stop ← toPoint? stop
    let (first, last) ← toRange? range
    let below ← toOutlines? items
    some (.mk ⟨kind, start, stop, first, last, missing⟩ below)
  | _ => none

def toOutlines? : List Json → Option (List (Outline Listing))
  | [] => some []
  | j :: js => do
    let o ← toOutline? j
    let os ← toOutlines? js
    some (o :: os)

end

end Json

namespace Node

mutual

/-- The JSON form of a node describes its outline. -/
theorem toOutline_toJson : ∀ n : Node, n.toJson.toOutline? = some (n.outline.map listing)
  | mk i cs => by
    have hbelow := toOutlines_outlines cs
    rw [toJson, Json.toOutline?, hbelow]
    rfl

theorem toOutlines_outlines : ∀ ns : List Node,
    Json.toOutlines? (outlines ns) = some (Outline.mapAll listing (outlineAll ns))
  | [] => rfl
  | n :: ns => by
    have hn := toOutline_toJson n
    have hns := toOutlines_outlines ns
    rw [outlines, outlineAll]
    split
    · rw [Json.toOutlines?, hn, hns]
      rfl
    · exact hns

end

end Node

end MathProg
