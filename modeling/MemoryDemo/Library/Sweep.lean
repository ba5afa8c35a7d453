import Mathlib.Data.List.Perm.Subperm
import MemoryDemo.Library.CursorWalk
import MemoryDemo.Library.Interval

/-! Loops that move a cursor over intervals, from the end of one to the next, while the
intervals on offer may change from one question to the next. -/

namespace MemoryDemo.Library.Sweep
open Library.CursorWalk Library.Interval

section
variable {Cursor Answer : Type*}

/-- An answer is an interval that ends above the cursor, and the cursor moves to its end. -/
structure Sweeps (source : Source Cursor Answer) (position : Cursor → Nat)
    (start stop : Answer → Nat) : Prop where
  proper : ∀ {calls cursor answer}, source.query calls cursor = some answer →
    start answer < stop answer
  above : ∀ {calls cursor answer}, source.query calls cursor = some answer →
    position cursor < stop answer
  moves : ∀ {calls cursor answer}, source.query calls cursor = some answer →
    position (source.next answer) = stop answer

/-- Of what is on offer at a call above the cursor nothing is passed over. -/
structure Offers (source : Source Cursor Answer) (position : Cursor → Nat)
    (start stop : Answer → Nat) (Offered : Nat → Answer → Prop) : Prop where
  nonempty : ∀ {calls answer}, Offered calls answer → start answer < stop answer
  first : ∀ {calls cursor answer other}, source.query calls cursor = some answer →
    Offered calls other → position cursor < stop other → other = answer ∨ stop answer ≤ start other
  last : ∀ {calls cursor other}, source.query calls cursor = none →
    Offered calls other → stop other ≤ position cursor

variable {source : Source Cursor Answer} {position : Cursor → Nat} {start stop : Answer → Nat}
  {Offered : Nat → Answer → Prop} {calls : Nat} {cursor last : Cursor} {answers : List Answer}

theorem given_of_served (served : Serves source calls cursor answers last) :
    ∀ answer ∈ answers, ∃ call asked, call < calls + answers.length ∧
      source.query call asked = some answer := by
  induction served with
  | fails silent => exact nofun
  | @answers calls cursor last answer rest given later ih =>
    intro other member
    rw [List.length_cons]
    cases List.mem_cons.mp member with
    | inl same => exact ⟨calls, cursor, by omega, same ▸ given⟩
    | inr among =>
      obtain ⟨call, asked, few, given⟩ := ih other among
      exact ⟨call, asked, by omega, given⟩

/-- A loop gets its answers in the order of their ends. -/
theorem Sweeps.stops_ascend (sweeps : Sweeps source position start stop)
    (served : Serves source calls cursor answers last) :
    (∀ answer ∈ answers, position cursor < stop answer) ∧
      answers.Pairwise fun first second => stop first < stop second := by
  induction served with
  | fails silent => exact ⟨nofun, .nil⟩
  | answers given later ih =>
    obtain ⟨behind, ordered⟩ := ih
    rw [sweeps.moves given] at behind
    have here := sweeps.above given
    refine ⟨fun other member => ?_, List.pairwise_cons.mpr ⟨behind, ordered⟩⟩
    cases List.mem_cons.mp member with
    | inl same => exact same ▸ here
    | inr among => exact Nat.lt_trans here (behind other among)

/-- No answer comes twice, however the source changes. -/
theorem Sweeps.nodup (sweeps : Sweeps source position start stop)
    (served : Serves source calls cursor answers last) : answers.Nodup := by
  refine (sweeps.stops_ascend served).2.imp fun {first second} below same => ?_
  rw [same] at below
  exact Nat.lt_irrefl _ below

/-- What is on offer at every call of a loop is among its answers. -/
theorem Offers.mem_of_stays (offers : Offers source position start stop Offered)
    (sweeps : Sweeps source position start stop)
    (served : Serves source calls cursor answers last) {other : Answer}
    (ahead : position cursor < stop other)
    (stays : ∀ call, calls ≤ call → call ≤ calls + answers.length → Offered call other) :
    other ∈ answers := by
  induction served with
  | fails silent =>
    have passed := offers.last silent (stays _ (Nat.le_refl _) (Nat.le_add_right _ _))
    exact absurd ahead (Nat.not_lt.mpr passed)
  | answers given later ih =>
    rw [List.length_cons] at stays
    have now := stays _ (Nat.le_refl _) (Nat.le_add_right _ _)
    cases offers.first given now ahead with
    | inl same => exact List.mem_cons.mpr (Or.inl same)
    | inr before =>
      -- the cursor moves to the end of the answer, which is still in front
      apply List.mem_cons_of_mem
      apply ih
      · rw [sweeps.moves given]
        exact Nat.lt_of_le_of_lt before (offers.nonempty now)
      · intro call early late
        exact stays call (by omega) (by omega)

/-- No answer begins below the end of the one before it. -/
def Clear (source : Source Cursor Answer) (start stop : Answer → Nat) : Prop :=
  ∀ calls cursor answer following, source.query calls cursor = some answer →
    source.query (calls + 1) (source.next answer) = some following → stop answer ≤ start following

/-- The answers are then disjoint, and those behind a bound stay behind it. -/
theorem Sweeps.ascending (sweeps : Sweeps source position start stop)
    (clear : Clear source start stop) (served : Serves source calls cursor answers last)
    (low : Nat) (begins : ∀ answer, source.query calls cursor = some answer → low ≤ start answer) :
    (∀ answer ∈ answers, low ≤ start answer) ∧ Ascending start stop answers := by
  induction served generalizing low with
  | fails silent => exact ⟨nofun, ⟨nofun, .nil⟩⟩
  | @answers calls cursor last answer rest given later ih =>
    obtain ⟨behind, ascending⟩ := ih (stop answer) (clear calls cursor answer · given)
    have proper := sweeps.proper given
    have here := begins answer given
    constructor
    · intro other member
      cases List.mem_cons.mp member with
      | inl same => exact same ▸ here
      | inr among => exact Nat.le_trans (by omega) (behind other among)
    · constructor
      · intro other member
        cases List.mem_cons.mp member with
        | inl same => exact same ▸ proper
        | inr among => exact ascending.nonempty other among
      · exact List.pairwise_cons.mpr ⟨behind, ascending.apart⟩

/-- Nothing of the later intervals lies across the end of an earlier one. -/
def EndsKept {Record : Type*} (start stop : Record → Nat) (earlier later : List Record) : Prop :=
  ∀ record ∈ earlier, ∀ next ∈ later, stop record < stop next → stop record ≤ start next

/-- An amount that no answer has more of than its length adds up to no more than the limit. -/
theorem sum_le_of_ascending {limit : Nat} (ascending : Ascending start stop answers)
    (within : ∀ answer ∈ answers, stop answer ≤ limit) (amount : Answer → Nat)
    (small : ∀ answer ∈ answers, amount answer ≤ stop answer - start answer) :
    (answers.map amount).sum ≤ limit :=
  calc (answers.map amount).sum
      ≤ (answers.map fun answer => stop answer - start answer).sum := List.sum_le_sum small
    _ ≤ limit - 0 :=
        ascending.sum_le 0 limit (fun _ _ => Nat.zero_le _) within (Nat.zero_le _)

/-- Some of the answers have no more of an amount than all of them. -/
theorem sum_le_of_nodup {part : List Answer} (distinct : part.Nodup)
    (among : ∀ answer ∈ part, answer ∈ answers) (amount : Answer → Nat) :
    (part.map amount).sum ≤ (answers.map amount).sum := by
  obtain ⟨inside, same, sub⟩ := List.Nodup.subperm distinct among
  rw [← (same.map amount).sum_eq]
  exact (sub.map amount).sum_le_sum fun _ _ => Nat.zero_le _

end

section
variable {Record : Type*} {start stop : Record → Nat} {records : List Record} {record other : Record}
  {address : Nat}

/-- The first interval above an address lies before every other one above it. -/
theorem firstAbove_le (ascending : Ascending start stop records)
    (found : firstAbove stop address records = some record) (member : other ∈ records)
    (above : address < stop other) : other = record ∨ stop record ≤ start other := by
  obtain ⟨-, before, after, rfl, passed⟩ := List.find?_eq_some_iff_append.mp found
  rcases List.mem_append.mp member with early | late
  · have below := passed other early
    rw [Bool.not_eq_true', decide_eq_false_iff_not] at below
    exact absurd above below
  · cases List.mem_cons.mp late with
    | inl same => exact Or.inl same
    | inr behind =>
      have apart := (List.pairwise_append.mp ascending.apart).2.1
      exact Or.inr ((List.pairwise_cons.mp apart).1 other behind)

theorem le_of_firstAbove_none (nothing : firstAbove stop address records = none)
    (member : other ∈ records) : stop other ≤ address := by
  have passed := List.find?_eq_none.mp nothing other member
  rwa [decide_eq_true_eq, Nat.not_lt] at passed

end

end MemoryDemo.Library.Sweep
