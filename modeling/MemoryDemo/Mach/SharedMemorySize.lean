import Mathlib.Algebra.Order.BigOperators.Group.List
import Mathlib.Algebra.Order.Ring.Nat
import MemoryDemo.Library.Accumulator
import MemoryDemo.Mach.SubmapWalk

/-! What `getProcessSharedMemory` returns, against the sum it is meant to be: the sizes of
all plain regions that are not private, at the top level and inside submaps. -/

namespace MemoryDemo.Mach.SharedMemorySize
open Library.CursorWalk Library.Interval Library.Accumulator VmRegion SubmapWalk

/-- What one answer adds to `shared_memory`. -/
def sharedBytes (span : Span) : Nat :=
  if span.shareMode = SM_PRIVATE then 0 else span.size.toNat

/-- The purpose of the function: all plain regions that are not private, each once. -/
def sharedSize : List Entry → Nat
  | [] => 0
  | .region span :: rest => sharedBytes span + sharedSize rest
  | .submap _ inside :: rest => (inside.map sharedBytes).sum + sharedSize rest

def submaps : List Entry → List (Span × List Span)
  | [] => []
  | .region _ :: rest => submaps rest
  | .submap span inside :: rest => (span, inside) :: submaps rest

/-- The submaps behind the first plain region of the top level. -/
def submapsBehind : List Entry → List (Span × List Span)
  | [] => []
  | .region _ :: rest => submaps rest
  | .submap _ _ :: rest => submapsBehind rest

def countedWhole (behind : List (Span × List Span)) : Nat :=
  (behind.map (fun submap => sharedBytes submap.1)).sum

def countedInside (behind : List (Span × List Span)) : Nat :=
  (behind.map (fun submap => (submap.2.map sharedBytes).sum)).sum

def answeredBytes (answers : List Answer) : Nat :=
  (answers.map (fun answer => sharedBytes answer.span)).sum

theorem answeredBytes_append (first second : List Answer) :
    answeredBytes (first ++ second) = answeredBytes first + answeredBytes second := by
  unfold answeredBytes
  rw [List.map_append, List.sum_append]

/-- The regions of a submap that is entered. -/
theorem answeredBytes_inside (inside : List Span) :
    answeredBytes (inside.map (fun region => ⟨region, 1⟩)) = (inside.map sharedBytes).sum := by
  unfold answeredBytes
  rw [List.map_map]
  rfl

theorem answeredBytes_shallow (entries : List Entry) :
    answeredBytes (shallow entries) + countedInside (submaps entries) =
      sharedSize entries + countedWhole (submaps entries) := by
  induction entries with
  | nil => rfl
  | cons entry rest ih =>
    cases entry <;>
      simp only [answeredBytes, shallow, countedInside, countedWhole, submaps, sharedSize,
        Entry.span, List.map_cons, List.sum_cons, List.map_map] at ih ⊢ <;>
      omega

/-- The walk counts the submaps behind the first plain region as wholes, and everything
else as it should. -/
theorem answeredBytes_deep (entries : List Entry) :
    answeredBytes (deep entries) + countedInside (submapsBehind entries) =
      sharedSize entries + countedWhole (submapsBehind entries) := by
  induction entries with
  | nil => rfl
  | cons entry rest ih =>
    cases entry with
    | region span =>
      have tail := answeredBytes_shallow rest
      simp only [answeredBytes, deep, submapsBehind, sharedSize, List.map_cons, List.sum_cons] at tail ⊢
      omega
    | submap span inside =>
      simp only [deep, submapsBehind, sharedSize, answeredBytes_append, answeredBytes_inside]
      omega

theorem sharedBytes_le (span : Span) : sharedBytes span ≤ span.stop - span.start := by
  unfold sharedBytes Span.stop Span.start
  split <;> omega

theorem answeredBytes_shallow_le (entries : List Entry) :
    answeredBytes (shallow entries) ≤
      (entries.map (fun entry => entry.span.stop - entry.span.start)).sum := by
  simp only [answeredBytes, shallow, List.map_map]
  exact List.sum_le_sum (fun entry _ => sharedBytes_le entry.span)

theorem answeredBytes_deep_le (entries : List Entry)
    (inner : ∀ span inside, Entry.submap span inside ∈ entries →
      Ascending Span.start Span.stop inside ∧
        ∀ region ∈ inside, span.start ≤ region.start ∧ region.stop ≤ span.stop) :
    answeredBytes (deep entries) ≤
      (entries.map (fun entry => entry.span.stop - entry.span.start)).sum := by
  induction entries with
  | nil => exact le_refl _
  | cons entry rest ih =>
    cases entry with
    | region span =>
      have first := sharedBytes_le span
      have others := answeredBytes_shallow_le rest
      simp only [answeredBytes, deep, List.map_cons, List.sum_cons, Entry.span] at others ⊢
      omega
    | submap span inside =>
      obtain ⟨order, bounds⟩ := inner span inside (List.mem_cons_self ..)
      have proper : span.start ≤ span.stop := Nat.le_add_right _ _
      have own : (inside.map sharedBytes).sum ≤ span.stop - span.start :=
        calc (inside.map sharedBytes).sum
            ≤ (inside.map (fun region => region.stop - region.start)).sum :=
              List.sum_le_sum (fun region _ => sharedBytes_le region)
          _ ≤ span.stop - span.start :=
              order.sum_le span.start span.stop (fun region member => (bounds region member).1)
                (fun region member => (bounds region member).2) proper
      have others := ih (fun other regions member => inner other regions (List.mem_cons_of_mem _ member))
      simp only [deep, answeredBytes_append, answeredBytes_inside, List.map_cons, List.sum_cons,
        Entry.span] at others ⊢
      omega

/-- The entries of a layout fit the address space, so the counter never wraps. -/
theorem answeredBytes_lt (layout : Layout) :
    answeredBytes (deep layout.entries) < 2 ^ 64 := by
  have parts := answeredBytes_deep_le layout.entries layout.inner
  have whole := layout.ascending.sum_le 0 (2 ^ 64 - 1) (fun _ _ => Nat.zero_le _)
    (fun entry member => Nat.le_sub_one_of_lt (layout.fits entry member)) (by decide)
  omega

theorem addShared_gains (sharedMemory : UInt64) (answer : Answer) :
    addShared sharedMemory answer =
      sharedMemory + if answer.span.shareMode = SM_PRIVATE then 0 else answer.span.size := by
  unfold addShared
  by_cases mode : answer.span.shareMode = SM_PRIVATE
  · simp [mode]
  · simp [mode]

/-- All entries of a layout with the regions inside submaps: enough calls for the walk. -/
def regionCount (entries : List Entry) : Nat :=
  (entries.map (fun entry => match entry with
    | .region _ => 1
    | .submap _ inside => 1 + inside.length)).sum

theorem deep_length_le (entries : List Entry) : (deep entries).length ≤ regionCount entries := by
  have flat : ∀ rest : List Entry, rest.length ≤ regionCount rest := by
    intro rest
    induction rest with
    | nil => exact le_refl _
    | cons entry rest ih =>
      cases entry <;> simp only [regionCount, List.map_cons, List.sum_cons, List.length_cons] at ih ⊢ <;>
        omega
  induction entries with
  | nil => exact le_refl _
  | cons entry rest ih =>
    cases entry with
    | region span =>
      have tail := flat rest
      simp only [regionCount, deep, shallow, List.length_cons, List.length_map, List.map_cons,
        List.sum_cons] at tail ⊢
      omega
    | submap span inside =>
      simp only [regionCount, deep, List.length_append, List.length_map, List.map_cons,
        List.sum_cons] at ih ⊢
      omega

theorem getProcessSharedMemory_toNat (layout : Layout) (fuel : Nat)
    (enough : regionCount layout.entries < fuel) :
    ∃ sharedMemory, getProcessSharedMemory (some layout) fuel = some sharedMemory ∧
      sharedMemory.toNat = answeredBytes (deep layout.entries) := by
  obtain ⟨last, served⟩ := layout.serves
  have walked := walk_of_serves (recurseSource layout.entries) addShared served fuel
    (lt_of_le_of_lt (deep_length_le layout.entries) enough) 0
  refine ⟨(deep layout.entries).foldl addShared 0, ?_, ?_⟩
  · simp only [getProcessSharedMemory, walked, Option.map_some]
  · have shares : (deep layout.entries).map (fun answer =>
        (if answer.span.shareMode = SM_PRIVATE then 0 else answer.span.size).toNat) =
        (deep layout.entries).map (fun answer => sharedBytes answer.span) := by
      apply List.map_congr_left
      intro answer _
      unfold sharedBytes
      split <;> rfl
    have exact := foldl_toNat addShared id
      (fun answer => if answer.span.shareMode = SM_PRIVATE then 0 else answer.span.size)
      addShared_gains (deep layout.entries) 0
      (by
        rw [shares]
        simpa only [id, UInt64.toNat_zero, Nat.zero_add, answeredBytes] using answeredBytes_lt layout)
    simpa only [id, shares, UInt64.toNat_zero, Nat.zero_add, answeredBytes] using exact

/-- The result is exact if and only if the submaps that lie behind the first plain region
weigh as much taken whole, with their own share mode, as their regions do. -/
theorem getProcessSharedMemory_exact_iff (layout : Layout) (fuel : Nat)
    (enough : regionCount layout.entries < fuel) :
    ∃ sharedMemory, getProcessSharedMemory (some layout) fuel = some sharedMemory ∧
      (sharedMemory.toNat = sharedSize layout.entries ↔
        countedWhole (submapsBehind layout.entries) =
          countedInside (submapsBehind layout.entries)) := by
  obtain ⟨sharedMemory, result, value⟩ := getProcessSharedMemory_toNat layout fuel enough
  refine ⟨sharedMemory, result, ?_⟩
  have balance := answeredBytes_deep layout.entries
  rw [value]
  omega

/-- A private heap region, and behind it a submap with one shared and one private region. -/
def heapThenCache : Layout where
  entries := [.region ⟨0x1000, 0x1000, SM_PRIVATE⟩,
    .submap ⟨0x10000, 0x10000, SM_EMPTY⟩ [⟨0x10000, 0x4000, SM_COW⟩, ⟨0x14000, 0x2000, SM_PRIVATE⟩]]
  ascending := ⟨by decide, by decide⟩
  fits := by decide
  inner := by
    intro span inside member
    simp only [List.mem_cons, List.not_mem_nil, or_false, reduceCtorEq, false_or,
      Entry.submap.injEq] at member
    obtain ⟨rfl, rfl⟩ := member
    exact ⟨⟨by decide, by decide⟩, by decide⟩

theorem getProcessSharedMemory_exact_heapThenCache :
    ∃ sharedMemory, getProcessSharedMemory (some heapThenCache) 5 = some sharedMemory ∧
      (sharedMemory.toNat = sharedSize heapThenCache.entries ↔
        countedWhole (submapsBehind heapThenCache.entries) =
          countedInside (submapsBehind heapThenCache.entries)) :=
  getProcessSharedMemory_exact_iff heapThenCache 5 (by decide)

/-- The submap is not entered: all its 64 KB are counted instead of the 16 KB shared in it. -/
theorem heapThenCache_counted_whole :
    getProcessSharedMemory (some heapThenCache) 5 = some 0x10000 ∧
      sharedSize heapThenCache.entries = 0x4000 :=
  ⟨rfl, rfl⟩

end MemoryDemo.Mach.SharedMemorySize
