import Mathlib.Data.List.Lookmap
import Mathlib.Data.List.Nodup

/-!
# Own properties of a plain object

Names are pairwise distinct and stand in property order.
-/

namespace SaasFoundation

namespace Record

variable {α : Type}

/-- `{ ...entries, [key]: value }`: a property keeps its place. -/
def define (key : String) (value : α) :
    List (String × α) → List (String × α)
  | [] => [(key, value)]
  | entry :: rest =>
      if entry.1 = key then (key, value) :: rest
      else entry :: define key value rest

theorem lookup_cons {wanted : String} {entry : String × α}
    {rest : List (String × α)} :
    (entry :: rest).lookup wanted =
      if wanted = entry.1 then some entry.2 else rest.lookup wanted := by
  by_cases same : wanted = entry.1
  · rw [List.lookup_cons, if_pos same, beq_iff_eq.mpr same]
  · rw [List.lookup_cons, if_neg same, beq_eq_false_iff_ne.mpr same]

theorem lookup_define {key wanted : String} {value : α}
    {entries : List (String × α)} :
    (define key value entries).lookup wanted =
      if wanted = key then some value else entries.lookup wanted := by
  induction entries with
  | nil => rw [define, lookup_cons]
  | cons entry rest ih =>
      unfold define
      by_cases here : entry.1 = key
      · rw [if_pos here, lookup_cons, lookup_cons, here]
        split
        · rfl
        · rfl
      · rw [if_neg here, lookup_cons, lookup_cons, ih]
        by_cases hit : wanted = entry.1
        · have apart : wanted ≠ key := fun same => here (hit.symm.trans same)
          rw [if_pos hit, if_neg apart, if_pos hit]
        · rw [if_neg hit, if_neg hit]

theorem mem_define {key : String} {value : α}
    {entries : List (String × α)} : (key, value) ∈ define key value entries := by
  induction entries with
  | nil => exact List.mem_singleton_self _
  | cons entry rest ih =>
      unfold define
      split
      · exact List.mem_cons_self
      · exact .tail _ ih

/-- The other properties stay. -/
theorem mem_define_of_ne {key : String} {value : α} {entry : String × α}
    {entries : List (String × α)} (apart : entry.1 ≠ key)
    (member : entry ∈ entries) : entry ∈ define key value entries := by
  induction entries with
  | nil => exact absurd member List.not_mem_nil
  | cons first rest ih =>
      unfold define
      split
      · rename_i here
        rcases List.mem_cons.mp member with rfl | later
        · exact absurd here apart
        · exact .tail _ later
      · rcases List.mem_cons.mp member with rfl | later
        · exact List.mem_cons_self
        · exact .tail _ (ih later)

/-- A new property goes to the end. -/
theorem define_of_absent {key : String} {value : α}
    {entries : List (String × α)} (absent : key ∉ entries.map Prod.fst) :
    define key value entries = entries ++ [(key, value)] := by
  induction entries with
  | nil => rfl
  | cons entry rest ih =>
      rw [List.map_cons, List.mem_cons, not_or] at absent
      unfold define
      rw [if_neg (Ne.symm absent.1), ih absent.2]
      rfl

end Record

end SaasFoundation
