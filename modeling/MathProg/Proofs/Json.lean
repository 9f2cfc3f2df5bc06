import MathProg.Json

/-!
# Members of JSON values

A member of an object is found by its key, wherever it stands among the others: putting the members in
order changes no answer.
-/

namespace MathProg

namespace Json

variable {key : String} {members : List (String × Json)}

/-- The member of an object with a key. -/
def member? (key : String) : Json → Option Json
  | object members => members.lookup key
  | _ => none

def itemsAt? (key : String) (j : Json) : Option (List Json) :=
  match j.member? key with
  | some (array items) => some items
  | _ => none

def numberAt? (key : String) (j : Json) : Option Nat :=
  match j.member? key with
  | some (number n) => some n
  | _ => none

def stringAt? (key : String) (j : Json) : Option String :=
  match j.member? key with
  | some (string s) => some s
  | _ => none

/-- A value is another one, or is below it as a child or further down. -/
inductive Below : Json → Json → Prop where
  | self (j : Json) : Below j j
  | child {v c j : Json} {items : List Json} (hj : j.member? "children" = some (array items))
    (hc : c ∈ items) (hv : Below v c) : Below v j

theorem sortedItems_eq (items : List Json) : sortedItems items = items.map sorted := by
  induction items with
  | nil => rfl
  | cons j items ih => rw [sortedItems, ih, List.map_cons]

theorem insertMember_perm (m : String × Json) (members : List (String × Json)) :
    (insertMember m members).Perm (m :: members) := by
  induction members with
  | nil => exact .refl _
  | cons n members ih =>
    unfold insertMember
    split
    · exact .refl _
    · exact (ih.cons n).trans (.swap m n members)

theorem sortedMembers_perm (members : List (String × Json)) :
    (sortedMembers members).Perm (members.map sortedMember) := by
  induction members with
  | nil => exact .refl _
  | cons m members ih => exact (insertMember_perm _ _).trans (ih.cons _)

/-- Where no key stands twice, a member is found by its key. -/
theorem lookup_eq_some (h : (members.map Prod.fst).Nodup) {j : Json} :
    members.lookup key = some j ↔ (key, j) ∈ members := by
  induction members with
  | nil => simp
  | cons m members ih =>
    obtain ⟨k, i⟩ := m
    rw [List.map_cons, List.nodup_cons] at h
    by_cases hk : key = k
    · subst hk
      have hother : (key, j) ∉ members := fun hmem => h.1 (List.mem_map.mpr ⟨_, hmem, rfl⟩)
      simp [hother, eq_comm]
    · simp [List.lookup_cons, beq_false_of_ne hk, hk, ih h.2]

theorem lookup_sortedMembers (h : (members.map Prod.fst).Nodup) :
    (sortedMembers members).lookup key = (members.lookup key).map sorted := by
  have hperm := sortedMembers_perm members
  have hkeys : (members.map sortedMember).map Prod.fst = members.map Prod.fst := by
    rw [List.map_map]
    apply List.map_congr_left
    rintro ⟨k, j⟩ -
    rfl
  have hnodup : ((sortedMembers members).map Prod.fst).Nodup := by
    rw [(hperm.map _).nodup_iff, hkeys]
    exact h
  ext j
  rw [lookup_eq_some hnodup, hperm.mem_iff, List.mem_map, Option.map_eq_some_iff]
  constructor
  · rintro ⟨⟨k, i⟩, hmem, heq⟩
    cases heq
    exact ⟨i, (lookup_eq_some h).mpr hmem, rfl⟩
  · rintro ⟨i, hi, rfl⟩
    exact ⟨(key, i), (lookup_eq_some h).mp hi, rfl⟩

/-- Members are found in a sorted object as they are found before, and are sorted themselves. -/
theorem member?_sorted (h : (members.map Prod.fst).Nodup) :
    (object members).sorted.member? key = (members.lookup key).map sorted := by
  rw [sorted, member?, lookup_sortedMembers h]

end Json

end MathProg
