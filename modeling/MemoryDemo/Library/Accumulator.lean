import Mathlib.Algebra.BigOperators.Group.List.Basic
import Mathlib.Algebra.BigOperators.Ring.Finset

/-! Unsigned 64-bit counters that a loop only ever adds to, and the sums they hold. -/

namespace MemoryDemo.Library.Accumulator

section
variable {Item State : Type*}

/-- A counter that gains `share item` in every round holds the exact sum, as long as
that sum fits a 64-bit word. -/
theorem foldl_toNat (body : State → Item → State) (read : State → UInt64) (share : Item → UInt64)
    (gains : ∀ state item, read (body state item) = read state + share item)
    (items : List Item) (state : State)
    (fits : (read state).toNat + (items.map (fun item => (share item).toNat)).sum < 2 ^ 64) :
    (read (items.foldl body state)).toNat =
      (read state).toNat + (items.map (fun item => (share item).toNat)).sum := by
  induction items generalizing state with
  | nil => simp
  | cons item rest ih =>
    simp only [List.map_cons, List.sum_cons] at fits
    have once : (read (body state item)).toNat = (read state).toNat + (share item).toNat := by
      rw [gains, UInt64.toNat_add]
      exact Nat.mod_eq_of_lt (by omega)
    rw [List.foldl_cons, ih (body state item) (by omega), once]
    simp only [List.map_cons, List.sum_cons]
    omega

/-- A counter that goes up by one for the kept items counts them. -/
theorem foldl_count (body : State → Item → State) (read : State → UInt64) (kept : Item → Bool)
    (gains : ∀ state item, read (body state item) = read state + if kept item then 1 else 0)
    (items : List Item) (state : State) (fits : (read state).toNat + items.length < 2 ^ 64) :
    (read (items.foldl body state)).toNat = (read state).toNat + items.countP kept := by
  have ones : (items.map (fun item => (if kept item then (1 : UInt64) else 0).toNat)).sum =
      items.countP kept := by
    induction items with
    | nil => rfl
    | cons item rest ih =>
      have others := ih (by simp only [List.length_cons] at fits; omega)
      cases keep : kept item <;>
        simp only [List.map_cons, List.sum_cons, others, List.countP_cons, keep, ↓reduceIte,
          Bool.false_eq_true, UInt64.toNat_one, UInt64.toNat_zero] <;>
        omega
  have bound := List.countP_le_length (p := kept) (l := items)
  rw [foldl_toNat body read _ gains items state (by rw [ones]; omega), ones]

/-- A narrower condition picks as many items as a wider one only where the two agree. -/
theorem countP_eq_iff (narrow wide : Item → Bool) (items : List Item)
    (implies : ∀ item ∈ items, narrow item = true → wide item = true) :
    items.countP narrow = items.countP wide ↔
      ∀ item ∈ items, wide item = true → narrow item = true := by
  induction items with
  | nil => simp
  | cons item rest ih =>
    obtain ⟨here, others⟩ := List.forall_mem_cons.mp implies
    have later := ih others
    have bound := List.countP_mono_left others
    rw [List.forall_mem_cons, ← later, List.countP_cons, List.countP_cons]
    cases kept : narrow item with
    | true =>
      rw [here kept]
      simp
    | false =>
      cases taken : wide item with
      | true =>
        simp only [Bool.false_eq_true, ↓reduceIte, imp_false, not_true_eq_false, false_and,
          iff_false]
        omega
      | false => simp

/-- A sum over a list splits along a condition on the items. -/
theorem sum_split (items : List Item) (value : Item → Nat) (kept : Item → Prop) [DecidablePred kept] :
    (items.map value).sum =
      (items.map (fun item => if kept item then value item else 0)).sum +
        (items.map (fun item => if kept item then 0 else value item)).sum := by
  rw [← List.sum_map_add]
  congr 1
  apply List.map_congr_left
  intro item _
  split <;> omega

/-- Items that carry a key contribute the rate of that key, all others nothing: the sum
over the items is the sum over the keys of how often each occurs, times its rate. -/
theorem sum_by_key {Key : Type*} [DecidableEq Key] (items : List Item) (key : Item → Option Key)
    (value : Item → Nat) (rate : Key → Nat) (keys : Finset Key)
    (keyed : ∀ item ∈ items, ∀ k, key item = some k → k ∈ keys ∧ value item = rate k)
    (unkeyed : ∀ item ∈ items, key item = none → value item = 0) :
    (items.map value).sum =
      ∑ k ∈ keys, items.countP (fun item => decide (key item = some k)) * rate k := by
  induction items with
  | nil => simp
  | cons item rest ih =>
    have others := ih (fun other member => keyed other (List.mem_cons_of_mem _ member))
      (fun other member => unkeyed other (List.mem_cons_of_mem _ member))
    simp only [List.map_cons, List.sum_cons, others, List.countP_cons, decide_eq_true_eq,
      Nat.add_mul, Finset.sum_add_distrib]
    rw [Nat.add_comm, Nat.add_left_cancel_iff]
    cases found : key item with
    | none =>
      rw [unkeyed item (List.mem_cons_self ..) found]
      simp
    | some own =>
      obtain ⟨known, amount⟩ := keyed item (List.mem_cons_self ..) own found
      simp only [Option.some.injEq, ite_mul, Nat.one_mul, Nat.zero_mul, Finset.sum_ite_eq, known,
        ↓reduceIte, amount]

end

end MemoryDemo.Library.Accumulator
