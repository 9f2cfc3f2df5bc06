import MathProg.Proofs.Json
import MathProg.Proofs.Node.Errors
import MathProg.Proofs.Node.Kinds
import MathProg.Proofs.Node.Outline
import MathProg.Proofs.Node.Positions

/-!
# Trees and errors as they are printed

In print the members of each object stand in the order of their keys. The nodes of the printed tree are
those of the outline, and they tell whether there are errors as the list of errors does.
-/

namespace MathProg

open Json (Below)

namespace Node

theorem outlines_eq (ns : List Node) : outlines ns = (ns.filter isListed).map toJson := by
  induction ns with
  | nil => rfl
  | cons n ns ih =>
    rw [outlines, List.filter_cons]
    split
    · rw [ih, List.map_cons]
    · exact ih

theorem member?_toJson (n : Node) (key : String) : n.toJson.sorted.member? key =
    ([("kind", Json.string n.kind), ("start", n.start.point.toJson), ("end", n.stop.point.toJson),
      ("range", rangeJson n.start.bytes n.stop.bytes), ("missing", .bool n.isMissing),
      ("children", .array (outlines n.children))].lookup key).map Json.sorted := by
  obtain ⟨i, cs⟩ := n
  rw [toJson]
  exact Json.member?_sorted (show ["kind", "start", "end", "range", "missing", "children"].Nodup by decide)

theorem kind_toJson (n : Node) : n.toJson.sorted.member? "kind" = some (.string n.kind) := by
  rw [member?_toJson]
  rfl

theorem missing_toJson (n : Node) : n.toJson.sorted.member? "missing" = some (.bool n.isMissing) := by
  rw [member?_toJson]
  rfl

theorem children_toJson (n : Node) : n.toJson.sorted.member? "children" =
    some (.array ((n.children.filter isListed).map fun c => c.toJson.sorted)) := by
  rw [member?_toJson, outlines_eq]
  show some (Json.array (Json.sortedItems _)) = _
  rw [Json.sortedItems_eq, List.map_map]
  rfl

theorem entriesAll_outlineAll (ns : List Node) : Outline.entriesAll (outlineAll ns) =
    (ns.filter isListed).flatMap fun n => n.outline.entries := by
  induction ns with
  | nil => rfl
  | cons n ns ih =>
    rw [outlineAll, List.filter_cons]
    split
    · rw [Outline.entriesAll, ih, List.flatMap_cons]
    · exact ih

theorem entries_outline_cons (n : Node) : n.outline.entries =
    n :: (n.children.filter isListed).flatMap fun c => c.outline.entries := by
  obtain ⟨i, cs⟩ := n
  rw [outline, Outline.entries, entriesAll_outlineAll]
  rfl

/-- What stands in a printed tree is a node of the outline. -/
theorem entry_of_below {v j : Json} (h : Below v j) {n : Node} (hj : j = n.toJson.sorted) :
    ∃ m ∈ n.outline.entries, v = m.toJson.sorted := by
  induction h generalizing n with
  | self =>
    refine ⟨n, ?_, hj⟩
    rw [entries_outline_cons]
    exact List.mem_cons_self
  | child hitems hc _ ih =>
    subst hj
    rw [children_toJson] at hitems
    cases hitems
    obtain ⟨c, hchild, rfl⟩ := List.mem_map.mp hc
    obtain ⟨m, hm, rfl⟩ := ih rfl
    refine ⟨m, ?_, rfl⟩
    rw [entries_outline_cons]
    exact List.mem_cons_of_mem _ (List.mem_flatMap.mpr ⟨c, hchild, hm⟩)

mutual

/-- Every node of the outline stands in the printed tree. -/
theorem below_of_entry : ∀ n : Node, ∀ m ∈ n.outline.entries, Below m.toJson.sorted n.toJson.sorted
  | mk i cs => by
    intro m hm
    rw [outline, Outline.entries, List.mem_cons] at hm
    rcases hm with rfl | hm
    · exact .self _
    · obtain ⟨c, hc, hbelow⟩ := below_of_entryAll cs m hm
      exact .child (children_toJson (mk i cs)) (List.mem_map_of_mem hc) hbelow

theorem below_of_entryAll : ∀ ns : List Node, ∀ m ∈ Outline.entriesAll (outlineAll ns),
    ∃ c ∈ ns.filter isListed, Below m.toJson.sorted c.toJson.sorted
  | [] => fun m hm => absurd hm List.not_mem_nil
  | n :: ns => by
    intro m hm
    rw [outlineAll] at hm
    split at hm
    · rename_i hlisted
      rw [List.filter_cons, if_pos hlisted]
      rw [Outline.entriesAll, List.mem_append] at hm
      rcases hm with hm | hm
      · exact ⟨n, List.mem_cons_self, below_of_entry n m hm⟩
      · obtain ⟨c, hc, hbelow⟩ := below_of_entryAll ns m hm
        exact ⟨c, List.mem_cons_of_mem _ hc, hbelow⟩
    · rename_i hlisted
      rw [List.filter_cons, if_neg hlisted]
      exact below_of_entryAll ns m hm

end

/-- What is known of the nodes of a tree whatever the text, as far as errors and the printed tree go. -/
structure Regular (root : Node) : Prop where
  named : root.isNamed = true
  /-- The mark of a node tells whether there is an error or a supplied token at it or below it. -/
  marked : root.Marked
  /-- Errors, and no other nodes, have the kind of errors. -/
  error : ∀ n ∈ root.preorder, n.isError = true ↔ n.kind = "ERROR"
  /-- A node without a name stands for itself, with nothing below it. -/
  literal : ∀ n ∈ root.preorder, n.isNamed = false → n.children = []

theorem regular_of_whole {source : List Char} {t : Tree} (h : t.Whole source) : (ofTree t).Regular where
  named := root_named h
  marked := marked_of_whole h
  error := error_of_whole h
  literal n hn := (formed_of_whole h n hn).literal

/-- The nodes of a printed tree that are errors or supplied are the faults of the tree. -/
theorem Regular.below_fault {root : Node} (h : root.Regular) :
    (∃ v, Below v root.toJson.sorted ∧
      (v.member? "kind" = some (.string "ERROR") ∨ v.member? "missing" = some (.bool true))) ↔
        root.preorder.any isFault = true := by
  have hroot : root.isListed = true := by rw [isListed, h.named, Bool.or_true]
  have hentries := entries_outline root h.literal hroot
  rw [List.any_eq_true]
  constructor
  · rintro ⟨v, hv, hfault⟩
    obtain ⟨m, hm, rfl⟩ := entry_of_below hv rfl
    rw [hentries, List.mem_filter] at hm
    refine ⟨m, hm.1, ?_⟩
    rw [kind_toJson, missing_toJson] at hfault
    rw [isFault, Bool.or_eq_true, h.error m hm.1]
    simpa using hfault
  · rintro ⟨m, hm, hfault⟩
    rw [isFault, Bool.or_eq_true] at hfault
    have hlisted : m.isListed = true := by
      rw [isListed, Bool.or_eq_true]
      rcases hfault with hfault | hfault
      · right
        rw [isNamed, Symbol.name_eq_error.mp ((h.error m hm).mp hfault)]
        decide
      · exact Or.inl hfault
    have hentry : m ∈ root.outline.entries := by
      rw [hentries]
      exact List.mem_filter.mpr ⟨hm, hlisted⟩
    refine ⟨m.toJson.sorted, below_of_entry _ m hentry, ?_⟩
    rw [kind_toJson, missing_toJson]
    rw [h.error m hm] at hfault
    simpa using hfault

end Node

namespace Point

theorem member?_toJson (p : Point) (key : String) : p.toJson.sorted.member? key =
    ([("row", Json.number p.row), ("column", .number p.column)].lookup key).map Json.sorted :=
  Json.member?_sorted (show ["row", "column"].Nodup by decide)

theorem row_toJson (p : Point) : p.toJson.sorted.numberAt? "row" = some p.row := by
  rw [Json.numberAt?, member?_toJson]
  rfl

theorem column_toJson (p : Point) : p.toJson.sorted.numberAt? "column" = some p.column := by
  rw [Json.numberAt?, member?_toJson]
  rfl

end Point

namespace SyntaxError

theorem member?_toJson (e : SyntaxError) (key : String) : e.toJson.sorted.member? key =
    ([("message", Json.string e.message), ("range", rangeJson e.start e.stop),
      ("start", e.point.toJson)].lookup key).map Json.sorted :=
  Json.member?_sorted (show ["message", "range", "start"].Nodup by decide)

theorem message_toJson (e : SyntaxError) : e.toJson.sorted.stringAt? "message" = some e.message := by
  rw [Json.stringAt?, member?_toJson]
  rfl

theorem start_toJson (e : SyntaxError) :
    e.toJson.sorted.member? "start" = some e.point.toJson.sorted := by
  rw [member?_toJson]
  rfl

theorem lineFeed_not_mem_firstLine (text : List Char) : '\n' ∉ firstLine text := by
  intro h
  rw [firstLine, trimEnd, List.mem_reverse] at h
  have hline := (List.dropWhile_suffix _).subset h
  rw [List.mem_reverse] at hline
  simpa using List.mem_takeWhile_imp hline

/-- What is quoted of a text is from its first line. -/
theorem lineFeed_not_mem_unexpected (text : List Char) : '\n' ∉ (unexpected text).toList := by
  have hline := lineFeed_not_mem_firstLine text
  have hcut : '\n' ∉ (firstLine text).take quotedLength := fun h => hline (List.mem_of_mem_take h)
  unfold unexpected
  dsimp only
  split
  · decide
  · split
    · simp [hcut]
    · simp [hline]

theorem lineFeed_not_mem_lacking (n : Node) : '\n' ∉ (lacking n).toList := by
  have hkind : '\n' ∉ n.kind.toList := Symbol.lineFeed_not_mem_name n.symbol
  unfold lacking
  split
  · simp [hkind]
  · simp [hkind]

mutual

/-- No message has a line feed in it. -/
theorem message_reportAll (source : List Char) : ∀ n : Node, ∀ e ∈ reportAll source n,
    '\n' ∉ e.message.toList
  | .mk i cs => by
    intro e he
    rw [reportAll] at he
    split at he
    · obtain rfl := List.mem_singleton.mp he
      exact lineFeed_not_mem_lacking _
    · split at he
      · obtain rfl := List.mem_singleton.mp he
        exact lineFeed_not_mem_unexpected _
      · exact message_reportEach source cs e he

theorem message_reportEach (source : List Char) : ∀ ns : List Node, ∀ e ∈ reportEach source ns,
    '\n' ∉ e.message.toList
  | [] => fun e he => absurd he List.not_mem_nil
  | n :: ns => by
    intro e he
    rw [reportEach, List.mem_append] at he
    rcases he with he | he
    · exact message_reportAll source n e he
    · exact message_reportEach source ns e he

end

end SyntaxError

end MathProg
