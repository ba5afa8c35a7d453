import Mathlib.Algebra.Order.Ring.Nat
import Mathlib.Algebra.BigOperators.Group.List.Basic
import Mathlib.Algebra.Order.BigOperators.Group.List

/-! Finite lists of half-open intervals of natural numbers. The records that carry the
intervals are arbitrary; `start` and `stop` read the two ends of one. -/

namespace MemoryDemo.Library.Interval

section
variable {Record : Type*} (start stop : Record → Nat)

/-- Nonempty intervals in ascending order, no two of which overlap. -/
structure Ascending (records : List Record) : Prop where
  nonempty : ∀ record ∈ records, start record < stop record
  apart : records.Pairwise (fun first second => stop first ≤ start second)

/-- The first interval that contains or follows an address. -/
def firstAbove (address : Nat) (records : List Record) : Option Record :=
  records.find? (fun record => decide (address < stop record))

variable {start stop}

theorem firstAbove_split {address : Nat} {before after : List Record} {record : Record}
    (below : ∀ other ∈ before, stop other ≤ address) (above : address < stop record) :
    firstAbove stop address (before ++ record :: after) = some record := by
  have skipped : before.find? (fun other => decide (address < stop other)) = none := by
    simp only [List.find?_eq_none, decide_eq_true_eq, Nat.not_lt]
    exact below
  simp only [firstAbove, List.find?_append, skipped, Option.none_or, List.find?_cons, above,
    decide_true]

theorem firstAbove_none {address : Nat} {records : List Record}
    (below : ∀ other ∈ records, stop other ≤ address) :
    firstAbove stop address records = none := by
  simp only [firstAbove, List.find?_eq_none, decide_eq_true_eq, Nat.not_lt]
  exact below

theorem firstAbove_some {address : Nat} {records : List Record} {record : Record}
    (found : firstAbove stop address records = some record) :
    record ∈ records ∧ address < stop record := by
  unfold firstAbove at found
  have above := List.find?_some found
  rw [decide_eq_true_eq] at above
  exact ⟨List.mem_of_find?_eq_some found, above⟩

/-- What lies below an address lies below a later one, with the interval passed on the way. -/
theorem below_append {address later : Nat} {before : List Record} {record : Record}
    (below : ∀ other ∈ before, stop other ≤ address) (order : address ≤ later)
    (passed : stop record ≤ later) : ∀ other ∈ before ++ [record], stop other ≤ later := by
  intro other member
  cases List.mem_append.mp member with
  | inl earlier => exact Nat.le_trans (below other earlier) order
  | inr itself =>
    rw [List.mem_singleton.mp itself]
    exact passed

theorem Ascending.tail {record : Record} {rest : List Record}
    (ascending : Ascending start stop (record :: rest)) : Ascending start stop rest where
  nonempty := fun other member => ascending.nonempty other (List.mem_cons_of_mem _ member)
  apart := ascending.apart.of_cons

/-- What follows an interval lies entirely above its end. -/
theorem Ascending.stop_le {record : Record} {rest : List Record}
    (ascending : Ascending start stop (record :: rest)) :
    ∀ other ∈ rest, stop record ≤ start other :=
  (List.pairwise_cons.mp ascending.apart).1

/-- Disjoint intervals between two bounds have a total length of at most their distance. -/
theorem Ascending.sum_le {records : List Record} (ascending : Ascending start stop records)
    (low high : Nat) (above : ∀ record ∈ records, low ≤ start record)
    (below : ∀ record ∈ records, stop record ≤ high) (order : low ≤ high) :
    (records.map (fun record => stop record - start record)).sum ≤ high - low := by
  induction records generalizing low with
  | nil => simp
  | cons record rest ih =>
    have first := ascending.nonempty record (List.mem_cons_self ..)
    have startBound := above record (List.mem_cons_self ..)
    have stopBound := below record (List.mem_cons_self ..)
    have others := ih ascending.tail (stop record) ascending.stop_le
      (fun other member => below other (List.mem_cons_of_mem _ member)) stopBound
    simp only [List.map_cons, List.sum_cons]
    omega

end

end MemoryDemo.Library.Interval
