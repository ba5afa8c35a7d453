import MemoryDemo.Darwin.DemoFamilies

/-! What is left when a program has called any demos of `macos/process/xnu_footprint_demo.cpp`
and `macos/process/activity_monitor_demo.mm` one after another. -/

namespace MemoryDemo.Darwin.DemoSequences
open Library.CallTree Library.Ledger Calls DemoFamilies

def isObject : Resource → Bool
  | .object _ => true
  | _ => false

/-- The object of a creation of `NSPurgeableData` that has succeeded. -/
def granted : Step → Option Resource
  | ⟨.purgeableData _, some data⟩ => some (.object data)
  | _ => none

def objects (log : List Step) : List Resource :=
  log.filterMap granted

/-- Only objects stay behind. -/
def LeavesObjects (action : Action Unit) : Prop :=
  ∀ held, Keeps action held fun _ after =>
    ∃ left : Multiset Resource, (∀ resource ∈ left, isObject resource = true) ∧ after = left + held

theorem leavesObjects_of_restores {action : Action Unit} (restores : Restores action) :
    LeavesObjects action := by
  intro held
  apply (restores held).mono
  rintro value after rfl
  exact ⟨0, fun resource member => absurd member (Multiset.notMem_zero resource),
    (zero_add after).symm⟩

theorem LeavesObjects.bind {first second : Action Unit} (one : LeavesObjects first)
    (other : LeavesObjects second) : LeavesObjects (first >>= fun _ => second) := by
  intro held
  rw [keeps_bind]
  apply (one held).mono
  rintro value after ⟨left, objects, rfl⟩
  apply (other (left + held)).mono
  rintro value after ⟨more, others, rfl⟩
  refine ⟨more + left, fun resource member => ?_, (add_assoc more left held).symm⟩
  rcases Multiset.mem_add.mp member with late | early
  · exact others resource late
  · exact objects resource early

theorem demoPurgeableData_leavesObjects (sizeMb : UInt64) :
    LeavesObjects (ActivityDemos.demoPurgeableData sizeMb) := by
  intro held
  unfold ActivityDemos.demoPurgeableData purgeableData
  rw [keeps_bind]
  apply (safe_ask_answer (holding effect) (.purgeableData (FootprintDemos.sizeBytes sizeMb))
    (fun _ => Option.forall) rfl (fun _ => rfl) _).mpr
  constructor
  · exact ⟨0, fun resource member => absurd member (Multiset.notMem_zero resource),
      (zero_add held).symm⟩
  · intro data
    apply (ActivityDemos.useData_keeps data (FootprintDemos.sizeBytes sizeMb)
      (Multiset.mem_cons_self (Resource.object data) held)).mono
    rintro value after rfl
    refine ⟨{.object data}, fun resource member => ?_, (Multiset.singleton_add _ _).symm⟩
    rw [Multiset.mem_singleton.mp member]
    rfl

theorem demo_leavesObjects (demo : Demo) : LeavesObjects demo.action := by
  cases demo with
  | footprint demo => exact leavesObjects_of_restores (FootprintDemos.demo_restores demo)
  | activity demo =>
    by_cases object : ∃ sizeMb, demo = .purgeableData sizeMb
    · obtain ⟨sizeMb, rfl⟩ := object
      exact demoPurgeableData_leavesObjects sizeMb
    · exact leavesObjects_of_restores
        (ActivityDemos.demo_restores demo fun sizeMb same => object ⟨sizeMb, same⟩)

theorem runDemos_leavesObjects (demos : List Demo) : LeavesObjects (runDemos demos) := by
  induction demos with
  | nil => exact leavesObjects_of_restores fun held => rfl
  | cons demo demos ih => exact (demo_leavesObjects demo).bind ih

theorem backing_objects (fd : Option Nat) (data : Nat) :
    .release (.object data) ∉ backing fd ∧ .acquire (.object data) ∉ backing fd := by
  cases fd with
  | none => exact ⟨List.not_mem_nil, List.not_mem_nil⟩
  | some fd => simp [backing]

/-- No call releases an object. -/
theorem effect_released (step : Step) (data : Nat) :
    .release (.object data) ∉ effect step := by
  have backed := fun fd => (backing_objects fd data).1
  unfold effect
  split <;> simp [backed]

/-- Only a creation acquires one. -/
theorem effect_acquired (step : Step) (data : Nat) :
    acquired (.object data) (effect step) = (granted step).toList.count (.object data) := by
  have backed : ∀ fd, (backing fd).count (.acquire (.object data)) = 0 :=
    fun fd => List.count_eq_zero.mpr (backing_objects fd data).2
  unfold acquired
  fun_cases effect step <;> simp [granted, backed, List.count_cons]

theorem objects_cons (step : Step) (log : List Step) :
    objects (step :: log) = (granted step).toList ++ objects log := by
  rw [objects, List.filterMap_cons]
  cases granted step with
  | none => rfl
  | some resource => rfl

theorem log_released (log : List Step) (data : Nat) :
    released (.object data) (log.flatMap effect) = 0 := by
  apply List.count_eq_zero.mpr
  intro member
  obtain ⟨step, -, among⟩ := List.mem_flatMap.mp member
  exact effect_released step data among

theorem log_acquired (log : List Step) (data : Nat) :
    acquired (.object data) (log.flatMap effect) = (objects log).count (.object data) := by
  induction log with
  | nil => rfl
  | cons step log ih =>
    rw [objects_cons, List.count_append, ← ih, ← effect_acquired, List.flatMap_cons, acquired,
      List.count_append]
    rfl

theorem objects_only (log : List Step) {resource : Resource} (member : resource ∈ objects log) :
    isObject resource = true := by
  obtain ⟨step, -, gives⟩ := List.mem_filterMap.mp member
  unfold granted at gives
  split at gives
  next => cases gives; rfl
  next => cases gives

/-- Whatever demos a program calls in whatever order, and however their calls go: when it
returns it holds the objects that it has created, and nothing else. -/
theorem runDemos_leaves (demos : List Demo) (environment : Environment Call Answer)
    (returned : (run environment [] (runDemos demos)).result = some ()) :
    replay 0 ((run environment [] (runDemos demos)).log.flatMap effect) =
        some (objects (run environment [] (runDemos demos)).log : Multiset Resource) ∧
      (Accounted ((run environment [] (runDemos demos)).log.flatMap effect) ↔
        objects (run environment [] (runDemos demos)).log = []) := by
  generalize ran : (run environment [] (runDemos demos)).log = log
  have replayed : replay 0 (log.flatMap effect) = some (objects log : Multiset Resource) := by
    obtain ⟨final, replayed, left, only, same⟩ :=
      replay_of_safe (runDemos_leavesObjects demos 0) environment [] returned
    rw [ran, same, add_zero] at replayed
    rw [replayed]
    congr 1
    ext resource
    by_cases object : isObject resource = true
    · cases resource with
      | object data =>
        have count := replay_count replayed (.object data)
        rw [log_released, log_acquired, Multiset.count_zero] at count
        rw [Multiset.coe_count]
        omega
      | _ => cases object
    · rw [Multiset.count_eq_zero.mpr fun member => object (only resource member),
        Multiset.count_eq_zero.mpr fun member => object (objects_only log member)]
  refine ⟨replayed, ?_⟩
  rw [accounted_iff_replay, replayed, Option.some.injEq, Multiset.coe_eq_zero]

theorem runDemos_leaves_granting :
    replay 0 ((run granting [] (runDemos [.activity (.purgeableData 100),
        .footprint (.internalMemory 1)])).log.flatMap effect) =
      some (objects (run granting [] (runDemos [.activity (.purgeableData 100),
        .footprint (.internalMemory 1)])).log : Multiset Resource) ∧
      (Accounted ((run granting [] (runDemos [.activity (.purgeableData 100),
          .footprint (.internalMemory 1)])).log.flatMap effect) ↔
        objects (run granting [] (runDemos [.activity (.purgeableData 100),
          .footprint (.internalMemory 1)])).log = []) :=
  runDemos_leaves [.activity (.purgeableData 100), .footprint (.internalMemory 1)] granting rfl

end MemoryDemo.Darwin.DemoSequences
