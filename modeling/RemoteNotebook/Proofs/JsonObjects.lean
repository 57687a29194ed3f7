import Mathlib.Data.String.Basic
import RemoteNotebook.Json.Value

/-! Objects that take members one after the other. Under each key they have the member that came
last, and members that come in the order of their keys are kept as they came. -/
namespace RemoteNotebook.Json

variable {members taken : List (String × Json)}

theorem lookup_cons_if {α : Type} (m : String × α) (ms : List (String × α)) (key : String) :
    (m :: ms).lookup key = if key = m.1 then some m.2 else ms.lookup key := by
  by_cases h : key = m.1
  · rw [if_pos h, List.lookup_cons, beq_iff_eq.mpr h]
  · rw [if_neg h, List.lookup_cons, beq_false_of_ne h]

theorem lookup_insertMember (m : String × Json) (members : List (String × Json)) (key : String) :
    (insertMember m.1 m.2 members).lookup key =
      if key = m.1 then some m.2 else members.lookup key := by
  induction members with
  | nil => exact lookup_cons_if m [] key
  | cons n ns ih =>
    rw [insertMember]
    split
    next hsame =>
      rw [lookup_cons_if, lookup_cons_if, hsame]
      split <;> rfl
    next hother =>
      split
      next => exact lookup_cons_if m (n :: ns) key
      next =>
        rw [lookup_cons_if, lookup_cons_if, ih]
        split
        next hkey => rw [if_neg (hkey ▸ Ne.symm hother)]
        next => rfl

abbrev insertMembers (members taken : List (String × Json)) : List (String × Json) :=
  members.foldl (fun ms m => insertMember m.1 m.2 ms) taken

theorem lookup_insertMembers (members taken : List (String × Json)) (key : String) :
    (insertMembers members taken).lookup key =
      (members.reverse.lookup key).or (taken.lookup key) := by
  induction members generalizing taken with
  | nil => rfl
  | cons m ms ih =>
    rw [insertMembers, List.foldl_cons, ih, lookup_insertMember, List.reverse_cons,
      List.lookup_append, Option.or_assoc, lookup_cons_if]
    split <;> rfl

theorem get?_ofMembers (members : List (String × Json)) (key : String) :
    (ofMembers members).get? key = members.reverse.lookup key :=
  (lookup_insertMembers members [] key).trans Option.or_none

/-- A member whose key comes after all others is put at the end. -/
theorem insertMember_of_lt {m : String × Json} (h : ∀ n ∈ members, n.1 < m.1) :
    insertMember m.1 m.2 members = members ++ [m] := by
  induction members with
  | nil => rfl
  | cons n ns ih =>
    obtain ⟨hn, hns⟩ := List.forall_mem_cons.mp h
    rw [insertMember, if_neg hn.ne', if_neg hn.asymm, ih hns]
    rfl

theorem insertMembers_of_pairwise (h : (taken ++ members).Pairwise fun m n => m.1 < n.1) :
    insertMembers members taken = taken ++ members := by
  induction members generalizing taken with
  | nil => exact (List.append_nil taken).symm
  | cons m ms ih =>
    have hlast : ∀ n ∈ taken, n.1 < m.1 := fun n hn =>
      (List.pairwise_append.mp h).2.2 n hn m (List.mem_cons_self ..)
    rw [List.append_cons] at h
    rw [insertMembers, List.foldl_cons, insertMember_of_lt hlast]
    exact (ih h).trans (List.append_cons ..).symm

/-- Members that come in the order of their keys are kept as they came. -/
theorem ofMembers_of_pairwise (h : members.Pairwise fun m n => m.1 < n.1) :
    ofMembers members = .obj members := by
  rw [← List.nil_append members] at h
  exact congrArg Json.obj (insertMembers_of_pairwise h)

end RemoteNotebook.Json
