import Mathlib.Data.List.Nodup
/- # TaskRunner.Proofs.Keyed -- lists whose items have keys of their own

A definition is looked up by its name, and a failure by its target.  Where no two items of a list
have the same key, the item that a search by key finds is the one that has the key, wherever in the
list it stands. -/

namespace TaskRunner.Keyed
set_option autoImplicit false

variable {α : Type} (key : α → String) {items others : List α}
  (distinct : (items.map key).Nodup) (name : String)

include distinct

theorem find?_eq_some_iff (item : α) :
    items.find? (fun item => key item = name) = some item ↔ item ∈ items ∧ key item = name := by
  constructor
  · exact fun found =>
      ⟨List.mem_of_find?_eq_some found, by simpa using List.find?_some found⟩
  · rintro ⟨member, named⟩
    cases found : items.find? fun item => key item = name with
    | none => exact absurd (decide_eq_true named) (List.find?_eq_none.1 found item member)
    | some same =>
      have keyed : key same = name := by simpa using List.find?_some found
      rw [List.inj_on_of_nodup_map distinct (List.mem_of_find?_eq_some found) member
        (keyed.trans named.symm)]

theorem find?_eq_of_perm (perm : items.Perm others) :
    items.find? (fun item => key item = name) = others.find? fun item => key item = name := by
  have distinctToo : (others.map key).Nodup := (perm.map key).nodup_iff.1 distinct
  refine Option.ext fun item => ?_
  rw [find?_eq_some_iff key distinct, find?_eq_some_iff key distinctToo, perm.mem_iff]

end TaskRunner.Keyed
