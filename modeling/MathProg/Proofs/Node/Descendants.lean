import Mathlib.Data.List.Forall2
import MathProg.Node.Descendants
import MathProg.Proofs.Node.Cursor
import MathProg.Session

/-!
# Iterations over subtrees

An iteration that starts at a node answers with the nodes of its subtree, one for each path down from the node
and in the order of the paths, and then with none for ever. In the iteration over a whole tree the nodes of a
subtree stand together. How many children each node has is enough to tell the paths.
-/

namespace MathProg

namespace Node

/-- A visit that reports the node and goes down. -/
def only (n : Node) : List Node × Bool := ([n], true)

mutual

theorem reports_only : ∀ n : Node, Cursor.reports only n = n.preorder
  | mk i cs => by
    rw [Cursor.reports, only, if_pos rfl, reportsAll_only cs]
    rfl

theorem reportsAll_only : ∀ ns : List Node, Cursor.reportsAll only ns = preorderAll ns
  | [] => rfl
  | n :: ns => by
    rw [Cursor.reportsAll, reports_only n, reportsAll_only ns]
    rfl

end

end Node

namespace Descendants

/-- What is left of an iteration. -/
def rest (d : Descendants) : List Node := if d.done then [] else d.cursor.reportsFrom Node.only

theorem reportsFrom_only (c : Cursor) :
    c.reportsFrom Node.only = c.node :: (c.next? true).elim [] (Cursor.reportsFrom Node.only) := by
  rw [Cursor.next_reports, if_pos rfl, Cursor.reportsFrom]
  cases c.node with
  | mk i cs =>
    rw [Cursor.reports, Node.only, if_pos rfl]
    rfl

/-- A step takes the first node of what is left. -/
theorem next_rest (d : Descendants) : d.next.1 = d.rest.head? ∧ d.next.2.rest = d.rest.tail := by
  by_cases hdone : d.done = true
  · have hnext : d.next = (none, d) := if_pos hdone
    have hrest : d.rest = [] := if_pos hdone
    rw [hnext, hrest]
    exact ⟨rfl, rfl⟩
  · have hrest : d.rest = d.cursor.node :: (d.cursor.next? true).elim [] (Cursor.reportsFrom Node.only) :=
      (if_neg hdone).trans (reportsFrom_only d.cursor)
    rw [hrest, next, if_neg hdone]
    cases hcursor : d.cursor.next? true with
    | some c => exact ⟨rfl, if_neg hdone⟩
    | none => exact ⟨rfl, if_pos rfl⟩

theorem answer_eq (d : Descendants) (k : Nat) : d.answer k = d.rest[k]? := by
  induction k generalizing d with
  | zero => rw [answer, (next_rest d).1, List.head?_eq_getElem?]
  | succ k ih => rw [answer, ih, (next_rest d).2, List.getElem?_tail]

theorem toList_eq (d : Descendants) : d.toList = d.rest := by
  induction h : d.count using Nat.strongRecOn generalizing d with
  | _ k ih =>
    obtain ⟨hhead, htail⟩ := next_rest d
    rw [toList]
    split
    · rename_i n e hnext
      rw [hnext] at hhead htail
      rw [ih _ (h ▸ count_next hnext) e rfl]
      obtain ⟨ns, hns⟩ := List.head?_eq_some_iff.mp hhead.symm
      rw [hns] at htail ⊢
      exact congrArg (n :: ·) htail
    · rename_i e hnext
      rw [hnext] at hhead
      exact (List.head?_eq_none_iff.mp hhead.symm).symm

theorem rest_ofNode (n : Node) : (ofNode n).rest = n.preorder := by
  have hrest : (ofNode n).rest = Cursor.reports Node.only n := List.append_nil _
  rw [hrest, Node.reports_only]

end Descendants

namespace Node

theorem descendants_eq (n : Node) : n.descendants = n.preorder := by
  rw [descendants, Descendants.toList_eq, Descendants.rest_ofNode]

mutual

/-- The paths down from a node, itself first. -/
def paths : Node → List (List Nat)
  | mk _ cs => [] :: pathsFrom 0 cs

/-- The paths down to and through siblings, the first of which has the place `i`. -/
def pathsFrom (i : Nat) : List Node → List (List Nat)
  | [] => []
  | c :: cs => (paths c).map (i :: ·) ++ pathsFrom (i + 1) cs

end

theorem descend_append {n m : Node} {p q : List Nat} (h : n.descend p = .ok m) :
    n.descend (p ++ q) = m.descend q := by
  induction p generalizing n with
  | nil =>
    cases h
    rfl
  | cons i p ih =>
    rw [descend] at h
    rw [List.cons_append, descend]
    split at h
    · exact ih h
    · cases h

theorem descend_cons {n m : Node} {i : Nat} {p : List Nat} :
    n.descend (i :: p) = .ok m ↔ ∃ c, n.children[i]? = some c ∧ c.descend p = .ok m := by
  rw [descend]
  cases n.children[i]? with
  | none => simp
  | some c => simp

mutual

/-- The nodes of a subtree are those at the ends of the paths. -/
theorem forall₂_paths : ∀ n : Node, List.Forall₂ (fun p m => n.descend p = .ok m) n.paths n.preorder
  | mk i cs => .cons rfl (forall₂_pathsFrom i cs 0 cs fun _ => by rw [Nat.zero_add])

theorem forall₂_pathsFrom (i : Info) (all : List Node) : ∀ (k : Nat) (ns : List Node),
    (∀ j, ns[j]? = all[k + j]?) →
    List.Forall₂ (fun p m => (mk i all).descend p = .ok m) (pathsFrom k ns) (preorderAll ns)
  | _, [], _ => .nil
  | k, c :: cs, h => by
    refine List.rel_append ?_ (forall₂_pathsFrom i all (k + 1) cs fun j => ?_)
    · refine List.forall₂_map_left_iff.mpr ((forall₂_paths c).imp fun p m hp => descend_cons.mpr ⟨c, ?_, hp⟩)
      exact (h 0).symm
    · rw [Nat.add_assoc, Nat.add_comm 1, ← h (j + 1)]
      rfl

end

mutual

/-- Every path down is listed. -/
theorem mem_paths : ∀ (n : Node) (p : List Nat) {m : Node}, n.descend p = .ok m → p ∈ n.paths
  | mk _ _, [], _, _ => List.mem_cons_self
  | mk i cs, j :: p, m, h => by
    obtain ⟨c, hc, hp⟩ := descend_cons.mp h
    have hmem := mem_pathsFrom 0 cs j p hc hp
    rw [Nat.zero_add] at hmem
    exact List.mem_cons_of_mem _ hmem

theorem mem_pathsFrom (k : Nat) : ∀ (ns : List Node) (j : Nat) (p : List Nat) {c m : Node},
    ns[j]? = some c → c.descend p = .ok m → (k + j) :: p ∈ pathsFrom k ns
  | [], _, _, _, _, hc, _ => by cases hc
  | n :: ns, 0, p, c, m, hc, hp => by
    cases hc
    exact List.mem_append_left _ (List.mem_map_of_mem (mem_paths n p hp))
  | n :: ns, j + 1, p, c, m, hc, hp => by
    have hmem := mem_pathsFrom (k + 1) ns j p hc hp
    rw [Nat.add_assoc, Nat.add_comm 1] at hmem
    exact List.mem_append_right _ hmem

end

theorem mem_paths_iff {n : Node} {p : List Nat} : p ∈ n.paths ↔ ∃ m, n.descend p = .ok m := by
  constructor
  · intro h
    obtain ⟨k, hk, rfl⟩ := List.mem_iff_getElem.mp h
    have hlength := (forall₂_paths n).length_eq
    exact ⟨n.preorder[k], (forall₂_paths n).get hk (hlength ▸ hk)⟩
  · rintro ⟨m, h⟩
    exact mem_paths n p h

/-- Paths through siblings begin no earlier than the siblings do. -/
theorem le_of_mem_pathsFrom {k : Nat} {ns : List Node} {p : List Nat} (h : p ∈ pathsFrom k ns) :
    ∃ j q, p = j :: q ∧ k ≤ j := by
  induction ns generalizing k with
  | nil => cases h
  | cons c cs ih =>
    rcases List.mem_append.mp h with hfirst | hrest
    · obtain ⟨q, -, rfl⟩ := List.mem_map.mp hfirst
      exact ⟨k, q, rfl, Nat.le_refl k⟩
    · obtain ⟨j, q, rfl, hle⟩ := ih hrest
      exact ⟨j, q, rfl, Nat.le_of_succ_le hle⟩

mutual

/-- Paths are listed in their order: each before those that go on from it, and those through a child before
those through the next one. -/
theorem pairwise_paths : ∀ n : Node, n.paths.Pairwise (· < ·)
  | mk _ cs => by
    refine List.pairwise_cons.mpr ⟨fun p hp => ?_, pairwise_pathsFrom 0 cs⟩
    obtain ⟨j, q, rfl, -⟩ := le_of_mem_pathsFrom hp
    exact List.nil_lt_cons j q

theorem pairwise_pathsFrom : ∀ (k : Nat) (ns : List Node), (pathsFrom k ns).Pairwise (· < ·)
  | _, [] => .nil
  | k, c :: cs => by
    refine List.pairwise_append.mpr ⟨?_, pairwise_pathsFrom (k + 1) cs, fun p hp q hq => ?_⟩
    · exact List.pairwise_map.mpr ((pairwise_paths c).imp fun h => List.cons_lt_cons_iff.mpr (Or.inr ⟨rfl, h⟩))
    · obtain ⟨p, -, rfl⟩ := List.mem_map.mp hp
      obtain ⟨j, q, rfl, hle⟩ := le_of_mem_pathsFrom hq
      exact List.cons_lt_cons_iff.mpr (Or.inl hle)

end

/-- The nodes below one of some siblings, and the paths to them, stand together among all of them. -/
theorem exists_segmentFrom {c : Node} : ∀ (k i : Nat) (cs : List Node), cs[i]? = some c →
    ∃ before after bp ap, preorderAll cs = before ++ (c.preorder ++ after) ∧
      pathsFrom k cs = bp ++ (c.paths.map ((k + i) :: ·) ++ ap) ∧ bp.length = before.length
  | _, _, [], hc => by cases hc
  | k, 0, d :: cs, hc => by
    cases hc
    exact ⟨[], preorderAll cs, [], pathsFrom (k + 1) cs, rfl, rfl, rfl⟩
  | k, i + 1, d :: cs, hc => by
    obtain ⟨before, after, bp, ap, hnodes, hpaths, hlength⟩ := exists_segmentFrom (k + 1) i cs hc
    refine ⟨d.preorder ++ before, after, d.paths.map (k :: ·) ++ bp, ap, ?_, ?_, ?_⟩
    · rw [preorderAll, hnodes, List.append_assoc]
    · rw [pathsFrom, hpaths, List.append_assoc, Nat.add_assoc, Nat.add_comm 1]
    · rw [List.length_append, List.length_append, List.length_map, hlength, (forall₂_paths d).length_eq]

/-- The nodes of a subtree and the paths to them stand together in the lists of the whole tree. -/
theorem exists_segment {root n : Node} {p : List Nat} (h : root.descend p = .ok n) :
    ∃ before after bp ap, root.preorder = before ++ (n.preorder ++ after) ∧
      root.paths = bp ++ (n.paths.map (p ++ ·) ++ ap) ∧ bp.length = before.length := by
  induction p generalizing root with
  | nil =>
    cases h
    exact ⟨[], [], [], [], by simp, by simp, rfl⟩
  | cons i p ih =>
    obtain ⟨c, hc, hp⟩ := descend_cons.mp h
    obtain ⟨before, after, bp, ap, hnodes, hpaths, hlength⟩ := ih hp
    obtain ⟨j, cs⟩ := root
    obtain ⟨us, vs, up, vp, hus, hup, hlen⟩ := exists_segmentFrom 0 i cs hc
    refine ⟨mk j cs :: us ++ before, after ++ vs, [] :: up ++ bp.map (i :: ·), ap.map (i :: ·) ++ vp, ?_, ?_, ?_⟩
    · rw [preorder, hus, hnodes]
      simp only [List.cons_append, List.append_assoc]
    · rw [paths, hup, hpaths, Nat.zero_add]
      simp only [List.cons_append, List.append_assoc, List.map_append, List.map_map, Function.comp_def]
    · simp only [List.length_append, List.length_cons, List.length_map, hlen, hlength]

mutual

/-- A tree with something else known of its nodes. -/
def relabel (f : Info → Info) : Node → Node
  | mk i cs => mk (f i) (relabelAll f cs)

def relabelAll (f : Info → Info) : List Node → List Node
  | [] => []
  | c :: cs => relabel f c :: relabelAll f cs

end

mutual

theorem relabel_id : ∀ n : Node, n.relabel id = n
  | mk i cs => by rw [relabel, relabelAll_id cs]; rfl

theorem relabelAll_id : ∀ ns : List Node, relabelAll id ns = ns
  | [] => rfl
  | c :: cs => by rw [relabelAll, relabel_id c, relabelAll_id cs]

end

mutual

theorem paths_relabel (f : Info → Info) : ∀ n : Node, (n.relabel f).paths = n.paths
  | mk i cs => by rw [relabel, paths, paths, pathsFrom_relabelAll f 0 cs]

theorem pathsFrom_relabelAll (f : Info → Info) : ∀ (k : Nat) (ns : List Node),
    pathsFrom k (relabelAll f ns) = pathsFrom k ns
  | _, [] => rfl
  | k, c :: cs => by rw [relabelAll, pathsFrom, pathsFrom, paths_relabel f c, pathsFrom_relabelAll f (k + 1) cs]

end

/-- What is known of a node, and how many children it has. -/
def row (f : Info → Info) (n : Node) : Info × Nat := (f n.info, n.children.length)

mutual

/-- No list of rows of a tree goes on with more rows to that of another tree. -/
theorem rows_cancel (f : Info → Info) : ∀ (n m : Node) {r s : List (Info × Nat)},
    n.preorder.map (row f) ++ r = m.preorder.map (row f) ++ s → n.relabel f = m.relabel f ∧ r = s
  | mk i cs, mk j ds, r, s, h => by
    obtain ⟨hrow, hrest⟩ := List.cons.inj h
    obtain ⟨hinfo, hlength⟩ := Prod.mk.inj hrow
    obtain ⟨hall, hrs⟩ := rowsAll_cancel f cs ds hlength hrest
    refine ⟨?_, hrs⟩
    change f i = f j at hinfo
    rw [relabel, relabel, hinfo, hall]

theorem rowsAll_cancel (f : Info → Info) : ∀ (ns ms : List Node) {r s : List (Info × Nat)},
    ns.length = ms.length → (preorderAll ns).map (row f) ++ r = (preorderAll ms).map (row f) ++ s →
    relabelAll f ns = relabelAll f ms ∧ r = s
  | [], [], _, _, _, h => ⟨rfl, h⟩
  | [], _ :: _, _, _, hlength, _ => by cases hlength
  | _ :: _, [], _, _, hlength, _ => by cases hlength
  | n :: ns, m :: ms, r, s, hlength, h => by
    rw [preorderAll, preorderAll, List.map_append, List.map_append, List.append_assoc, List.append_assoc] at h
    obtain ⟨hfirst, hrest⟩ := rows_cancel f n m h
    obtain ⟨hall, hrs⟩ := rowsAll_cancel f ns ms (Nat.succ.inj hlength) hrest
    exact ⟨by rw [relabelAll, relabelAll, hfirst, hall], hrs⟩

end

theorem relabel_eq_of_rows (f : Info → Info) {n m : Node}
    (h : n.preorder.map (row f) = m.preorder.map (row f)) : n.relabel f = m.relabel f := by
  refine (rows_cancel f n m (?_ : _ ++ [] = _ ++ [])).1
  rw [h]

/-- How many children the nodes of an iteration have. -/
def childCounts (n : Node) : List Nat := n.descendants.map (·.children.length)

/-- The numbers of children tell the paths. -/
theorem paths_eq_of_childCounts {n m : Node} (h : m.childCounts = n.childCounts) : m.paths = n.paths := by
  have hrows : m.preorder.map (row fun _ => default) = n.preorder.map (row fun _ => default) := by
    have hpairs := congrArg (List.map fun k => ((default : Info), k)) h
    rw [childCounts, childCounts, descendants_eq, descendants_eq, List.map_map, List.map_map] at hpairs
    exact hpairs
  rw [← paths_relabel (fun _ => default) m, relabel_eq_of_rows _ hrows, paths_relabel]

/-- The numbers of children and what is known of the nodes tell the tree. -/
theorem eq_of_childCounts {n m : Node} (h : m.childCounts = n.childCounts)
    (hinfos : m.descendants.map info = n.descendants.map info) : m = n := by
  rw [childCounts, childCounts, descendants_eq, descendants_eq] at h
  rw [descendants_eq, descendants_eq] at hinfos
  have hzip : ∀ k : Node, k.preorder.map (row id) =
      (k.preorder.map info).zip (k.preorder.map (·.children.length)) :=
    fun k => (List.zip_map' ..).symm
  have hsame := relabel_eq_of_rows id (n := n) (m := m) (by rw [hzip, hzip, h, hinfos])
  rwa [relabel_id, relabel_id, eq_comm] at hsame

/-- From any node of a tree on, an iteration answers with the nodes at the ends of the paths down from it, in
the order of the paths, and then never again. They are the nodes of the iteration over the whole tree that stand
behind as many others as the paths to them. Two nodes with the same numbers of children all along have the same
paths, and if also their nodes agree otherwise they are the same. -/
theorem descendants_exact {root n : Node} {path : List Nat} (h : root.descend path = .ok n) :
    (∀ k, (Descendants.ofNode n).answer k = n.descendants[k]?) ∧
    List.Forall₂ (fun p m => root.descend (path ++ p) = .ok m) n.paths n.descendants ∧
    (∀ p, p ∈ n.paths ↔ ∃ m, root.descend (path ++ p) = .ok m) ∧ n.paths.Pairwise (· < ·) ∧
    (∃ before after bp ap, root.descendants = before ++ (n.descendants ++ after) ∧
      root.paths = bp ++ (n.paths.map (path ++ ·) ++ ap) ∧ bp.length = before.length) ∧
    ∀ m : Node, m.childCounts = n.childCounts →
      m.paths = n.paths ∧ (m.descendants.map info = n.descendants.map info → m = n) := by
  refine ⟨fun k => ?_, ?_, fun p => ?_, pairwise_paths n, ?_, fun m hcounts => ⟨?_, fun hinfos => ?_⟩⟩
  · rw [Descendants.answer_eq, Descendants.rest_ofNode, descendants_eq]
  · rw [descendants_eq]
    exact (forall₂_paths n).imp fun p m hp => (descend_append h).trans hp
  · rw [mem_paths_iff, descend_append h]
  · rw [descendants_eq, descendants_eq]
    exact exists_segment h
  · exact paths_eq_of_childCounts hcounts
  · exact eq_of_childCounts hcounts hinfos

/-- The iteration over the first of two statements ends with it. -/
theorem descendants_exact_statement : ∃ d n, Document.ofText? "set I;\nsolve;".toList = some d ∧
    d.root.descend [0] = .ok n ∧ n.descendants.map kind = ["set", "set", "model_object", ";"] ∧
    n.paths = [[], [0], [1], [2]] ∧ (Descendants.ofNode n).answer 4 = none ∧
    List.Forall₂ (fun p m => d.root.descend ([0] ++ p) = .ok m) n.paths n.descendants := by
  have h : (Document.ofText? "set I;\nsolve;".toList).any (fun d => (d.root.descend [0]).toOption.any fun n =>
      decide (n.descendants.map kind = ["set", "set", "model_object", ";"] ∧
        n.paths = [[], [0], [1], [2]] ∧ n.descendants.length = 4)) = true := by
    decide +kernel
  obtain ⟨d, hd, hsome⟩ := (Option.any_eq_true _ _).mp h
  obtain ⟨n, hn, hlist⟩ := (Option.any_eq_true _ _).mp hsome
  obtain ⟨hkinds, hpaths, hlength⟩ := of_decide_eq_true hlist
  have hpath : d.root.descend [0] = .ok n := by
    cases hdescend : d.root.descend [0] with
    | error i =>
      rw [hdescend] at hn
      cases hn
    | ok m =>
      rw [hdescend] at hn
      cases hn
      rfl
  obtain ⟨hanswer, hends, -⟩ := descendants_exact hpath
  refine ⟨d, n, hd, hpath, hkinds, hpaths, ?_, hends⟩
  rw [hanswer, List.getElem?_eq_none (Nat.le_of_eq hlength)]

end Node

end MathProg
