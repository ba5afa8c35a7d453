import Mathlib.Data.Finset.Card
import Mathlib.Order.Interval.Finset.Nat
import MemoryDemo.Library.Transition
import MemoryDemo.Windows.ProcessMonitor

/-! The figure "virtual address space in use" of `printProcessMemoryInfo` along the life
of a process that reserves, commits, touches, trims and releases pages. -/

namespace MemoryDemo.Windows.VirtualAddress
open Library.Transition ProcessMonitor

/-- The pages of a process by number, each 4096 bytes: those reserved or committed, those
committed, and among these the shared ones and the ones in the working set. User space is
the lower half of the 64-bit address space. -/
structure Pages where
  inUse : Finset Nat
  committed : Finset Nat
  shared : Finset Nat
  resident : Finset Nat
  committed_inUse : committed ⊆ inUse
  shared_committed : shared ⊆ committed
  resident_committed : resident ⊆ committed
  user : ∀ page ∈ inUse, page < 2 ^ 51

def Pages.empty : Pages where
  inUse := ∅
  committed := ∅
  shared := ∅
  resident := ∅
  committed_inUse := Finset.Subset.refl _
  shared_committed := Finset.Subset.refl _
  resident_committed := Finset.Subset.refl _
  user := by simp

def Pages.reserved (pages : Pages) : Finset Nat := pages.inUse \ pages.committed
def Pages.privateCommitted (pages : Pages) : Finset Nat := pages.committed \ pages.shared

inductive Action where
  | reserve (range : Finset Nat)
  | commit (sharing : Bool) (range : Finset Nat)
  | touch (range : Finset Nat)
  | trim (range : Finset Nat)
  | release (range : Finset Nat)
  deriving DecidableEq

/-- Reserving takes free pages, committing free or reserved ones, touching committed ones. -/
def step (pages : Pages) : Action → Option Pages
  | .reserve range =>
      if able : Disjoint range pages.inUse ∧ ∀ page ∈ range, page < 2 ^ 51 then
        some { pages with
          inUse := pages.inUse ∪ range
          committed_inUse := pages.committed_inUse.trans Finset.subset_union_left
          user := fun page member => (Finset.mem_union.mp member).elim (pages.user page) (able.2 page) }
      else none
  | .commit sharing range =>
      if able : Disjoint range pages.committed ∧ ∀ page ∈ range, page < 2 ^ 51 then
        some { pages with
          inUse := pages.inUse ∪ range
          committed := pages.committed ∪ range
          shared := if sharing then pages.shared ∪ range else pages.shared
          committed_inUse := Finset.union_subset_union_left pages.committed_inUse
          shared_committed := by
            cases sharing
            · exact pages.shared_committed.trans Finset.subset_union_left
            · exact Finset.union_subset_union_left pages.shared_committed
          resident_committed := pages.resident_committed.trans Finset.subset_union_left
          user := fun page member => (Finset.mem_union.mp member).elim (pages.user page) (able.2 page) }
      else none
  | .touch range =>
      if able : range ⊆ pages.committed then
        some { pages with
          resident := pages.resident ∪ range
          resident_committed := Finset.union_subset pages.resident_committed able }
      else none
  | .trim range =>
      some { pages with
        resident := pages.resident \ range
        resident_committed := Finset.sdiff_subset.trans pages.resident_committed }
  | .release range =>
      some {
        inUse := pages.inUse \ range
        committed := pages.committed \ range
        shared := pages.shared \ range
        resident := pages.resident \ range
        committed_inUse := Finset.sdiff_subset_sdiff pages.committed_inUse (Finset.Subset.refl _)
        shared_committed := Finset.sdiff_subset_sdiff pages.shared_committed (Finset.Subset.refl _)
        resident_committed := Finset.sdiff_subset_sdiff pages.resident_committed (Finset.Subset.refl _)
        user := fun page member => pages.user page (Finset.sdiff_subset member) }

/-- Win32 reports the private committed pages and the resident pages. -/
structure Measures (counters : MemoryCounters) (pages : Pages) : Prop where
  privateUsage : counters.privateUsage.toNat = 4096 * pages.privateCommitted.card
  workingSetSize : counters.workingSetSize.toNat = 4096 * pages.resident.card

def printed : Outcome → Option Metrics
  | .detailed metrics => some metrics
  | .estimated metrics => some metrics
  | _ => none

/-- Whatever run of the function reports on these pages, its first figure is their size. -/
def Exact (pages : Pages) : Prop :=
  ∀ (env : Win32) (counters : MemoryCounters) (metrics : Metrics), Measures counters pages →
    env.getProcessMemoryInfo = .ok counters → printed (printProcessMemoryInfo env) = some metrics →
    metrics.virtualAddress.toNat = 4096 * pages.inUse.card

/-- Both ways of reporting print the sum of the same two counters. -/
theorem printed_virtualAddress {env : Win32} {counters : MemoryCounters} {metrics : Metrics}
    (read : env.getProcessMemoryInfo = .ok counters)
    (run : printed (printProcessMemoryInfo env) = some metrics) :
    metrics.virtualAddress = counters.privateUsage + counters.workingSetSize := by
  simp only [printProcessMemoryInfo, read] at run
  split at run
  · cases run
    rfl
  · split at run
    · cases run
    · simp only [queryDetails] at run
      split at run
      · cases run
      · split at run
        · cases run
        · cases run
          rfl

theorem card_inUse_le (pages : Pages) : pages.inUse.card ≤ 2 ^ 51 := by
  have inside : pages.inUse ⊆ Finset.range (2 ^ 51) :=
    fun page member => Finset.mem_range.mpr (pages.user page member)
  simpa only [Finset.card_range] using Finset.card_le_card inside

theorem card_private (pages : Pages) :
    pages.privateCommitted.card + pages.shared.card = pages.committed.card :=
  Finset.card_sdiff_add_card_eq_card pages.shared_committed

/-- Pages that are resident and private count twice, pages that are reserved and shared
pages that are not resident do not count: the figure is right when these are as many. -/
def Balanced (pages : Pages) : Prop :=
  pages.resident.card + pages.committed.card = pages.inUse.card + pages.shared.card

instance (pages : Pages) : Decidable (Balanced pages) :=
  inferInstanceAs (Decidable (_ = _))

theorem sum_toNat_iff (pages : Pages) (counters : MemoryCounters)
    (measured : Measures counters pages) :
    (counters.privateUsage + counters.workingSetSize).toNat = 4096 * pages.inUse.card ↔
      Balanced pages := by
  have all := card_inUse_le pages
  have parts := card_private pages
  have committed := Finset.card_le_card pages.committed_inUse
  have resident := Finset.card_le_card pages.resident_committed
  rw [UInt64.toNat_add, measured.privateUsage, measured.workingSetSize, Balanced]
  omega

theorem exact_iff_balanced (pages : Pages) : Exact pages ↔ Balanced pages := by
  have all := card_inUse_le pages
  have parts := card_private pages
  have committed := Finset.card_le_card pages.committed_inUse
  have resident := Finset.card_le_card pages.resident_committed
  constructor
  · intro exact
    let counters : MemoryCounters :=
      ⟨UInt64.ofNat (4096 * pages.resident.card), UInt64.ofNat (4096 * pages.privateCommitted.card), 0⟩
    have measured : Measures counters pages :=
      ⟨by simp only [counters, UInt64.toNat_ofNat']; omega,
        by simp only [counters, UInt64.toNat_ofNat']; omega⟩
    have figure := exact ⟨.ok counters, .entries [], fun _ => none, .entries []⟩ counters
      (estimatedMetrics counters) measured rfl rfl
    exact (sum_toNat_iff pages counters measured).mp figure
  · intro balanced env counters metrics measured read run
    rw [printed_virtualAddress read run]
    exact (sum_toNat_iff pages counters measured).mpr balanced

/-- The steps that move both sides of the balance alike. -/
def Neutral (pages : Pages) : Action → Prop
  | .reserve range => range = ∅
  | .commit false range => Disjoint range pages.reserved
  | .commit true range => range ⊆ pages.reserved
  | .touch range => range ⊆ pages.resident
  | .trim range => Disjoint range pages.resident
  | .release range =>
      (range ∩ pages.resident).card = (range ∩ pages.reserved).card + (range ∩ pages.shared).card

/-- What the reserved and the committed pages of a range have in common with it. -/
theorem card_inter_inUse (pages : Pages) (range : Finset Nat) :
    (range ∩ pages.inUse).card =
      (range ∩ pages.reserved).card + (range ∩ pages.committed).card := by
  have split := Finset.card_sdiff_add_card_inter (range ∩ pages.inUse) pages.committed
  have outside : (range ∩ pages.inUse) \ pages.committed = range ∩ pages.reserved :=
    Finset.inter_sdiff_assoc _ _ _
  have inside : range ∩ pages.inUse ∩ pages.committed = range ∩ pages.committed := by
    rw [Finset.inter_assoc, Finset.inter_eq_right.mpr pages.committed_inUse]
  rw [outside, inside] at split
  exact split.symm

theorem card_release (range part : Finset Nat) :
    (part \ range).card + (range ∩ part).card = part.card := by
  rw [Finset.inter_comm]
  exact Finset.card_sdiff_add_card_inter part range

theorem card_gain (range part : Finset Nat) :
    (part ∪ range).card = part.card + (range \ part).card := by
  rw [Finset.union_comm, ← Finset.card_sdiff_add_card, Nat.add_comm]

theorem reserve_balanced {pages next : Pages} {range : Finset Nat}
    (stepped : step pages (.reserve range) = some next) (balanced : Balanced pages) :
    Balanced next ↔ range = ∅ := by
  simp only [step, Option.dite_none_right_eq_some, Option.some.injEq] at stepped
  obtain ⟨able, rfl⟩ := stepped
  have gain := card_gain range pages.inUse
  rw [able.1.sdiff_eq_left] at gain
  simp only [Balanced, gain] at balanced ⊢
  rw [← Finset.card_eq_zero]
  omega

theorem commit_private_balanced {pages next : Pages} {range : Finset Nat}
    (stepped : step pages (.commit false range) = some next) (balanced : Balanced pages) :
    Balanced next ↔ Disjoint range pages.reserved := by
  simp only [step, Option.dite_none_right_eq_some, Option.some.injEq] at stepped
  obtain ⟨able, rfl⟩ := stepped
  have committed := card_gain range pages.committed
  have inUse := card_gain range pages.inUse
  have split := Finset.card_sdiff_add_card_inter range pages.inUse
  have parts := card_inter_inUse pages range
  rw [able.1.sdiff_eq_left] at committed
  rw [Finset.disjoint_iff_inter_eq_empty.mp able.1, Finset.card_empty] at parts
  simp only [Balanced, committed, inUse, Bool.false_eq_true, ↓reduceIte] at balanced ⊢
  rw [Finset.disjoint_iff_inter_eq_empty, ← Finset.card_eq_zero]
  omega

theorem commit_shared_balanced {pages next : Pages} {range : Finset Nat}
    (stepped : step pages (.commit true range) = some next) (balanced : Balanced pages) :
    Balanced next ↔ range ⊆ pages.reserved := by
  simp only [step, Option.dite_none_right_eq_some, Option.some.injEq] at stepped
  obtain ⟨able, rfl⟩ := stepped
  have committed := card_gain range pages.committed
  have inUse := card_gain range pages.inUse
  have shared := card_gain range pages.shared
  rw [able.1.sdiff_eq_left] at committed
  rw [(able.1.mono_right pages.shared_committed).sdiff_eq_left] at shared
  simp only [Balanced, committed, inUse, shared, ↓reduceIte] at balanced ⊢
  have all : range ⊆ pages.reserved ↔ (range \ pages.inUse).card = 0 := by
    rw [Finset.card_eq_zero, Finset.sdiff_eq_empty_iff_subset]
    exact ⟨fun inside => inside.trans Finset.sdiff_subset,
      fun inside => Finset.subset_sdiff.mpr ⟨inside, able.1⟩⟩
  rw [all]
  omega

theorem touch_balanced {pages next : Pages} {range : Finset Nat}
    (stepped : step pages (.touch range) = some next) (balanced : Balanced pages) :
    Balanced next ↔ range ⊆ pages.resident := by
  simp only [step, Option.dite_none_right_eq_some, Option.some.injEq] at stepped
  obtain ⟨able, rfl⟩ := stepped
  have gain := card_gain range pages.resident
  simp only [Balanced, gain] at balanced ⊢
  rw [← Finset.sdiff_eq_empty_iff_subset, ← Finset.card_eq_zero]
  omega

theorem trim_balanced {pages next : Pages} {range : Finset Nat}
    (stepped : step pages (.trim range) = some next) (balanced : Balanced pages) :
    Balanced next ↔ Disjoint range pages.resident := by
  simp only [step, Option.some.injEq] at stepped
  subst stepped
  have loss := card_release range pages.resident
  simp only [Balanced] at balanced ⊢
  rw [Finset.disjoint_iff_inter_eq_empty, ← Finset.card_eq_zero]
  omega

theorem release_balanced {pages next : Pages} {range : Finset Nat}
    (stepped : step pages (.release range) = some next) (balanced : Balanced pages) :
    Balanced next ↔ (range ∩ pages.resident).card =
      (range ∩ pages.reserved).card + (range ∩ pages.shared).card := by
  simp only [step, Option.some.injEq] at stepped
  subst stepped
  have inUse := card_release range pages.inUse
  have committed := card_release range pages.committed
  have shared := card_release range pages.shared
  have resident := card_release range pages.resident
  have parts := card_inter_inUse pages range
  simp only [Balanced] at balanced ⊢
  omega

theorem step_balanced (pages : Pages) (action : Action) (next : Pages)
    (stepped : step pages action = some next) (balanced : Balanced pages) :
    Balanced next ↔ Neutral pages action := by
  cases action with
  | reserve range => exact reserve_balanced stepped balanced
  | commit sharing range =>
    cases sharing with
    | false => exact commit_private_balanced stepped balanced
    | true => exact commit_shared_balanced stepped balanced
  | touch range => exact touch_balanced stepped balanced
  | trim range => exact trim_balanced stepped balanced
  | release range => exact release_balanced stepped balanced

/-- In every run from an empty address space the figure is right in all states reached if
and only if every step is neutral in the state before it. -/
theorem virtualAddress_exact_iff (actions : List Action) (taken : List (Pages × Action))
    (last : Pages) (ran : run step Pages.empty actions = some (taken, last)) :
    (∀ pair ∈ taken, Exact pair.1) ∧ Exact last ↔ ∀ pair ∈ taken, Neutral pair.1 pair.2 := by
  simp only [exact_iff_balanced]
  exact run_good_iff step Balanced Neutral step_balanced actions Pages.empty last taken ran rfl

theorem virtualAddress_exact_commit_release :
    ∃ taken last,
      run step Pages.empty [.commit false {1, 2}, .trim {1}, .release {2}] = some (taken, last) ∧
        ((∀ pair ∈ taken, Exact pair.1) ∧ Exact last ↔ ∀ pair ∈ taken, Neutral pair.1 pair.2) :=
  ⟨_, _, rfl, virtualAddress_exact_iff [.commit false {1, 2}, .trim {1}, .release {2}] _ _ rfl⟩

/-- After one page was reserved the figure is still 0. -/
theorem virtualAddress_misses_reserved :
    ∃ taken last, run step Pages.empty [.reserve {1}] = some (taken, last) ∧
      4096 * last.inUse.card = 4096 ∧ Measures ⟨0, 0, 0⟩ last ∧
      (estimatedMetrics ⟨0, 0, 0⟩).virtualAddress = 0 ∧ ¬Exact last := by
  refine ⟨_, _, rfl, rfl, ⟨rfl, rfl⟩, rfl, ?_⟩
  rw [exact_iff_balanced]
  decide

end MemoryDemo.Windows.VirtualAddress
