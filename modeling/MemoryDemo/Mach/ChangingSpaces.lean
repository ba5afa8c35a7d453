import MemoryDemo.Library.Sweep
import MemoryDemo.Mach.RegionWalks
import MemoryDemo.Mach.SharedMemorySize

/-! The walks of `macos/process/memory_info.cc` over the memory of a process that maps and unmaps
regions while the walk goes on. -/

namespace MemoryDemo.Mach.ChangingSpaces
open Library.CursorWalk Library.Interval Library.Sweep Library.Accumulator
open VmRegion PrintMemoryInfo RegionWalks SubmapWalk SharedMemorySize

section Regions
variable (spaces : Nat → AddressSpace)

/-- At every call `vm_region_64` answers for the address space as it is then. -/
def changing : Nat → UInt64 → Option Region :=
  fun calls address => (spaces calls).vmRegion64 address

theorem changing_sweeps :
    Sweeps (source (changing spaces)) UInt64.toNat Region.start Region.stop where
  proper given := (spaces _).ascending.nonempty _ (firstAbove_some given).1
  above given := (firstAbove_some given).2
  moves given := Region.next_toNat _ ((spaces _).fits _ (firstAbove_some given).1)

theorem changing_offers :
    Offers (source (changing spaces)) UInt64.toNat Region.start Region.stop
      fun calls region => region ∈ (spaces calls).regions where
  nonempty member := (spaces _).ascending.nonempty _ member
  first given member ahead := firstAbove_le (spaces _).ascending given member ahead
  last silent member := le_of_firstAbove_none silent member

/-- From one call to the next no region comes to lie across an address at which one ended. -/
def SpacesKeepEnds : Prop :=
  ∀ calls, EndsKept Region.start Region.stop (spaces calls).regions (spaces (calls + 1)).regions

variable {spaces}

theorem changing_clear (kept : SpacesKeepEnds spaces) :
    Clear (source (changing spaces)) Region.start Region.stop := by
  intro calls cursor answer following given again
  have above := (changing_sweeps spaces).above again
  rw [(changing_sweeps spaces).moves given] at above
  exact kept calls answer (firstAbove_some given).1 following (firstAbove_some again).1 above

theorem changing_advances {limit : Nat}
    (within : ∀ calls, ∀ region ∈ (spaces calls).regions, region.stop ≤ limit) :
    Advances (changing spaces) limit := by
  intro calls address region given
  obtain ⟨inside, above⟩ := firstAbove_some given
  have proper := (spaces calls).ascending.nonempty region inside
  simp only [Region.start, Region.stop] at proper
  exact ⟨by omega, above, within calls region inside⟩

/-- The resident pages that the kernel reports for a region lie in it. -/
def ResidentFits (vmPageSize : UInt64) (region : Region) : Prop :=
  region.info.privatePagesResident.toNat * vmPageSize.toNat ≤ region.size.toNat ∧
    region.info.sharedPagesResident.toNat * vmPageSize.toNat ≤ region.size.toNat

theorem pages_toNat (count : UInt32) (vmPageSize size : UInt64)
    (fits : count.toNat * vmPageSize.toNat ≤ size.toNat) :
    (count.toUInt64 * vmPageSize).toNat = count.toNat * vmPageSize.toNat := by
  rw [UInt64.toNat_mul, UInt32.toNat_toUInt64]
  exact Nat.mod_eq_of_lt (Nat.lt_of_le_of_lt fits size.toNat_lt)

/-- What a region adds to the two figures together is no more than its size. -/
theorem shares_le {vmPageSize : UInt64} {region : Region}
    (resident : ResidentFits vmPageSize region) :
    (privateShare vmPageSize region).toNat + (sharedShare vmPageSize region).toNat ≤
      region.stop - region.start := by
  have size : region.stop - region.start = region.size.toNat := Nat.add_sub_cancel_left ..
  rw [size]
  unfold privateShare sharedShare
  by_cases counted : CountsPrivate region.info
  · rw [if_pos counted, if_neg (not_countsShared counted), UInt64.toNat_zero, Nat.add_zero,
      pages_toNat _ _ _ resident.1]
    exact resident.1
  · rw [if_neg counted, UInt64.toNat_zero, Nat.zero_add]
    split
    next =>
      rw [UInt64.toNat_div, pages_toNat _ _ _ resident.2]
      exact Nat.le_trans (Nat.div_le_self ..) resident.2
    next => exact Nat.zero_le _

/-- The two figures of regions that do not overlap, as sums that did not wrap. -/
theorem totals_toNat (vmPageSize : UInt64) {limit : Nat} (below : limit < 2 ^ 64)
    {visited : List Region} (ascending : Ascending Region.start Region.stop visited)
    (within : ∀ region ∈ visited, region.stop ≤ limit)
    (resident : ∀ region ∈ visited, ResidentFits vmPageSize region) :
    (visited.foldl (addRegion vmPageSize) ⟨0, 0⟩).realPrivateMemory.toNat =
        (visited.map fun region => (privateShare vmPageSize region).toNat).sum ∧
      (visited.foldl (addRegion vmPageSize) ⟨0, 0⟩).realSharedMemory.toNat =
        (visited.map fun region => (sharedShare vmPageSize region).toNat).sum ∧
      (visited.map fun region => (privateShare vmPageSize region).toNat).sum +
        (visited.map fun region => (sharedShare vmPageSize region).toNat).sum ≤ limit := by
  have together := sum_le_of_ascending ascending within
    (fun region => (privateShare vmPageSize region).toNat + (sharedShare vmPageSize region).toNat)
    fun region member => shares_le (resident region member)
  rw [List.sum_map_add] at together
  have isPrivate := foldl_toNat (addRegion vmPageSize) Totals.realPrivateMemory
    (privateShare vmPageSize) (addRegion_private vmPageSize) visited ⟨0, 0⟩
    (by simp only [UInt64.toNat_zero]; omega)
  have isShared := foldl_toNat (addRegion vmPageSize) Totals.realSharedMemory
    (sharedShare vmPageSize) (addRegion_shared vmPageSize) visited ⟨0, 0⟩
    (by simp only [UInt64.toNat_zero]; omega)
  simp only [UInt64.toNat_zero, Nat.zero_add] at isPrivate isShared
  exact ⟨isPrivate, isShared, together⟩

/-- What `print_memory_info` counts of an address space that changes meanwhile. -/
structure Counted (spaces : Nat → AddressSpace) (vmPageSize : UInt64) (limit : Nat)
    (info : MemoryInfo) : Prop where
  walks : ServesWalks (changing spaces) info
  counted : info.totals = info.firstVisited.foldl (addRegion vmPageSize) ⟨0, 0⟩
  once : info.firstVisited.Nodup
  seen : ∀ region ∈ info.firstVisited, ∃ calls < info.firstVisited.length,
    region ∈ (spaces calls).regions
  staying : ∀ region, (∀ calls ≤ info.firstVisited.length, region ∈ (spaces calls).regions) →
    region ∈ info.firstVisited
  disjoint : SpacesKeepEnds spaces → Ascending Region.start Region.stop info.firstVisited
  bounds : SpacesKeepEnds spaces → (∀ region ∈ info.firstVisited, ResidentFits vmPageSize region) →
    info.totals.realPrivateMemory.toNat + info.totals.realSharedMemory.toNat ≤ limit ∧
      ∀ part : List Region, part.Nodup →
        (∀ region ∈ part, ∀ calls ≤ info.firstVisited.length, region ∈ (spaces calls).regions) →
          (part.map fun region => (privateShare vmPageSize region).toNat).sum ≤
              info.totals.realPrivateMemory.toNat ∧
            (part.map fun region => (sharedShare vmPageSize region).toNat).sum ≤
              info.totals.realSharedMemory.toNat

theorem counted_of_serves {vmPageSize : UInt64} {limit : Nat} (below : limit < 2 ^ 64)
    (within : ∀ calls, ∀ region ∈ (spaces calls).regions, region.stop ≤ limit)
    {info : MemoryInfo} (walks : ServesWalks (changing spaces) info)
    (counted : info.totals = info.firstVisited.foldl (addRegion vmPageSize) ⟨0, 0⟩) :
    Counted spaces vmPageSize limit info := by
  obtain ⟨turn, last, served, again⟩ := walks
  have seen : ∀ region ∈ info.firstVisited, ∃ calls < info.firstVisited.length,
      region ∈ (spaces calls).regions := by
    intro region member
    obtain ⟨calls, asked, early, given⟩ := given_of_served served region member
    exact ⟨calls, by omega, (firstAbove_some given).1⟩
  have staying : ∀ region,
      (∀ calls ≤ info.firstVisited.length, region ∈ (spaces calls).regions) →
        region ∈ info.firstVisited := by
    intro region stays
    have proper := (spaces 0).ascending.nonempty region (stays 0 (Nat.zero_le _))
    exact (changing_offers spaces).mem_of_stays (changing_sweeps spaces) served
      (Nat.lt_of_le_of_lt (Nat.zero_le _) proper) fun calls _ early => stays calls (by omega)
  have disjoint : SpacesKeepEnds spaces → Ascending Region.start Region.stop info.firstVisited :=
    fun kept => ((changing_sweeps spaces).ascending (changing_clear kept) served 0
      fun _ _ => Nat.zero_le _).2
  refine ⟨⟨turn, last, served, again⟩, counted, (changing_sweeps spaces).nodup served, seen, staying,
    disjoint, fun kept resident => ?_⟩
  obtain ⟨isPrivate, isShared, together⟩ := totals_toNat vmPageSize below (disjoint kept)
    (fun region member => by
      obtain ⟨calls, -, inside⟩ := seen region member
      exact within calls region inside)
    resident
  rw [← counted] at isPrivate isShared
  refine ⟨by rwa [isPrivate, isShared], fun part distinct stays => ?_⟩
  have among : ∀ region ∈ part, region ∈ info.firstVisited :=
    fun region member => staying region (stays region member)
  rw [isPrivate, isShared]
  exact ⟨sum_le_of_nodup distinct among _, sum_le_of_nodup distinct among _⟩

end Regions

/-- The second of the two regions by itself. -/
def secondRegion : AddressSpace where
  regions := [⟨0x4000, 0x2000, ⟨2, 0, 2, SM_COW⟩⟩]
  ascending := ⟨by decide, by decide⟩
  fits := by decide

/-- The first region is unmapped as soon as the walk has passed it. -/
def unmapping : Nat → AddressSpace
  | 0 => twoRegions
  | _ + 1 => secondRegion

theorem unmapping_within : ∀ calls, ∀ region ∈ (unmapping calls).regions, region.stop ≤ 0x6000
  | 0 => by decide
  | _ + 1 => show ∀ region ∈ secondRegion.regions, region.stop ≤ 0x6000 by decide

theorem unmapping_resident :
    ∀ calls, ∀ region ∈ (unmapping calls).regions, ResidentFits 4096 region
  | 0 => by unfold ResidentFits; decide
  | _ + 1 => show ∀ region ∈ secondRegion.regions, ResidentFits 4096 region by
    unfold ResidentFits
    decide

theorem unmapping_keepEnds : SpacesKeepEnds unmapping
  | 0 => by unfold EndsKept; decide
  | _ + 1 => show EndsKept Region.start Region.stop secondRegion.regions secondRegion.regions by
    unfold EndsKept
    decide

/-- Two regions that are made one while the walk stands between them. -/
def merging : Nat → AddressSpace
  | 0 =>
    { regions := [⟨0x1000, 0x1000, ⟨1, 1, 0, SM_PRIVATE⟩⟩, ⟨0x2000, 0x1000, ⟨1, 1, 0, SM_PRIVATE⟩⟩]
      ascending := ⟨by decide, by decide⟩
      fits := by decide }
  | _ + 1 =>
    { regions := [⟨0x1000, 0x2000, ⟨1, 2, 0, SM_PRIVATE⟩⟩]
      ascending := ⟨by decide, by decide⟩
      fits := by decide }

/-- The first page counts twice then. -/
example : (printMemoryInfo ⟨4096, some ⟨0, 0, 0, 0, 0, 0, 0⟩, changing merging⟩ 3).map
    (fun result => result.toOption.map (·.totals.realPrivateMemory)) = some (some (3 * 4096)) := by
  decide

section Layouts

/-- `getProcessSharedMemory` asks about another process, which runs on between the calls. -/
def changingSource (layouts : Nat → Layout) : Source Cursor Answer where
  query := fun calls cursor => machVmRegionRecurse cursor.depth cursor.address (layouts calls).entries
  next := fun answer => ⟨answer.span.address + answer.span.size, answer.depth⟩

def getProcessSharedMemoryOf (task : Option (Nat → Layout)) (fuel : Nat) : Option UInt64 :=
  match task with
  | none => some 0
  | some layouts => (walk (changingSource layouts) addShared fuel 0 ⟨0, 1⟩ 0).map Stop.state

theorem getProcessSharedMemoryOf_steady (layout : Layout) (fuel : Nat) :
    getProcessSharedMemoryOf (some fun _ => layout) fuel =
      getProcessSharedMemory (some layout) fuel :=
  rfl

/-- The plain regions, of the top level and in submaps. -/
def plainRegions (entries : List Entry) : List Span :=
  entries.flatMap fun entry => match entry with
    | .region span => [span]
    | .submap _ inside => inside

theorem mem_plainRegions_top {entries : List Entry} {span : Span}
    (member : .region span ∈ entries) : span ∈ plainRegions entries :=
  List.mem_flatMap.mpr ⟨.region span, member, List.mem_singleton_self span⟩

theorem mem_plainRegions_inner {entries : List Entry} {span region : Span} {inside : List Span}
    (member : .submap span inside ∈ entries) (among : region ∈ inside) :
    region ∈ plainRegions entries :=
  List.mem_flatMap.mpr ⟨.submap span inside, member, among⟩

/-- What an answer can be: at depth 0 an entry of the top level, else a plain region. -/
inductive Answers (entries : List Entry) (depth : UInt32) : Answer → Prop where
  | region {span : Span} (member : .region span ∈ entries) : Answers entries depth ⟨span, 0⟩
  | submap {span : Span} {inside : List Span} (member : .submap span inside ∈ entries)
      (top : depth = 0) : Answers entries depth ⟨span, 0⟩
  | inner {span region : Span} {inside : List Span} (member : .submap span inside ∈ entries)
      (below : depth ≠ 0) (among : region ∈ inside) : Answers entries depth ⟨region, 1⟩

theorem Answers.cons {entry : Entry} {rest : List Entry} {depth : UInt32} {answer : Answer}
    (answers : Answers rest depth answer) : Answers (entry :: rest) depth answer := by
  cases answers with
  | region member => exact .region (List.mem_cons_of_mem _ member)
  | submap member top => exact .submap (List.mem_cons_of_mem _ member) top
  | inner member below among => exact .inner (List.mem_cons_of_mem _ member) below among

theorem recurse_answers {depth : UInt32} {address : UInt64} {entries : List Entry}
    {answer : Answer} (given : machVmRegionRecurse depth address entries = some answer) :
    Answers entries depth answer ∧ address.toNat < answer.span.stop := by
  induction entries with
  | nil => cases given
  | cons entry rest ih =>
    cases entry with
    | region span =>
      unfold machVmRegionRecurse at given
      split at given
      next above =>
        cases given
        exact ⟨.region (List.mem_cons_self ..), above⟩
      next => exact ⟨(ih given).1.cons, (ih given).2⟩
    | submap span inside =>
      unfold machVmRegionRecurse at given
      split at given
      next above =>
        split at given
        next top =>
          cases given
          exact ⟨.submap (List.mem_cons_self ..) top, above⟩
        next below =>
          split at given
          next region found =>
            cases given
            obtain ⟨among, reaches⟩ := firstAbove_some found
            exact ⟨.inner (List.mem_cons_self ..) below among, reaches⟩
          next => exact ⟨(ih given).1.cons, (ih given).2⟩
      next => exact ⟨(ih given).1.cons, (ih given).2⟩

/-- A plain region of the top level that ends above the address is not passed over. -/
theorem recurse_reaches (depth : UInt32) {address : UInt64} {entries : List Entry}
    (ascending : Ascending (fun entry => entry.span.start) (fun entry => entry.span.stop) entries)
    (inner : ∀ span inside, Entry.submap span inside ∈ entries →
      ∀ region ∈ inside, region.stop ≤ span.stop)
    {other : Span} (member : .region other ∈ entries) (above : address.toNat < other.stop) :
    ∃ answer, machVmRegionRecurse depth address entries = some answer ∧
      (⟨other, 0⟩ = answer ∨ answer.span.stop ≤ other.start) := by
  induction entries with
  | nil => cases member
  | cons entry rest ih =>
    have later := ih ascending.tail
      fun span inside among => inner span inside (List.mem_cons_of_mem _ among)
    cases entry with
    | region span =>
      unfold machVmRegionRecurse
      split
      next =>
        refine ⟨⟨span, 0⟩, rfl, ?_⟩
        cases List.mem_cons.mp member with
        | inl same => exact Or.inl (by rw [Entry.region.inj same])
        | inr among => exact Or.inr (ascending.stop_le _ among)
      next passed =>
        cases List.mem_cons.mp member with
        | inl same => exact absurd (Entry.region.inj same ▸ above) passed
        | inr among => exact later among
    | submap span inside =>
      have among : .region other ∈ rest := by
        cases member with
        | tail _ among => exact among
      have behind : span.stop ≤ other.start := ascending.stop_le _ among
      unfold machVmRegionRecurse
      split
      next =>
        split
        next => exact ⟨⟨span, 0⟩, rfl, Or.inr behind⟩
        next =>
          split
          next region found =>
            have within := inner span inside (List.mem_cons_self ..) region (firstAbove_some found).1
            exact ⟨⟨region, 1⟩, rfl, Or.inr (Nat.le_trans within behind)⟩
          next => exact later among
      next => exact later among

section
variable (layouts : Nat → Layout)

theorem answer_span (layout : Layout) {depth : UInt32} {answer : Answer}
    (answers : Answers layout.entries depth answer) {limit : Nat}
    (within : ∀ entry ∈ layout.entries, entry.span.stop ≤ limit) :
    answer.span.start < answer.span.stop ∧ answer.span.stop ≤ limit := by
  cases answers with
  | region member => exact ⟨layout.ascending.nonempty _ member, within _ member⟩
  | submap member top => exact ⟨layout.ascending.nonempty _ member, within _ member⟩
  | inner member below among =>
    obtain ⟨ascending, bounds⟩ := layout.inner _ _ member
    exact ⟨ascending.nonempty _ among, Nat.le_trans (bounds _ among).2 (within _ member)⟩

theorem changingSource_sweeps :
    Sweeps (changingSource layouts) (fun cursor => cursor.address.toNat)
      (fun answer => answer.span.start) (fun answer => answer.span.stop) where
  proper {calls cursor answer} given :=
    (answer_span (layouts calls) (recurse_answers given).1 fun entry member =>
      Nat.le_of_lt ((layouts calls).fits entry member)).1
  above given := (recurse_answers given).2
  moves {calls cursor answer} given := by
    have reaches := (answer_span (layouts calls) (recurse_answers given).1 fun entry member =>
      Nat.le_sub_one_of_lt ((layouts calls).fits entry member)).2
    exact next_toNat answer.span (by omega)

theorem changingSource_offers :
    Offers (changingSource layouts) (fun cursor => cursor.address.toNat)
      (fun answer => answer.span.start) (fun answer => answer.span.stop)
      fun calls answer => ∃ span, .region span ∈ (layouts calls).entries ∧ answer = ⟨span, 0⟩ where
  nonempty := by
    rintro calls answer ⟨span, member, rfl⟩
    exact (layouts calls).ascending.nonempty _ member
  first := by
    rintro calls cursor answer other given ⟨span, member, rfl⟩ ahead
    obtain ⟨found, again, first⟩ := recurse_reaches cursor.depth
      (layouts calls).ascending (fun span inside among region within =>
        (((layouts calls).inner span inside among).2 region within).2) member ahead
    cases given.symm.trans again
    exact first
  last := by
    rintro calls cursor other silent ⟨span, member, rfl⟩
    by_contra ahead
    obtain ⟨found, again, -⟩ := recurse_reaches cursor.depth
      (layouts calls).ascending (fun span inside among region within =>
        (((layouts calls).inner span inside among).2 region within).2) member (Nat.not_le.mp ahead)
    cases silent.symm.trans again

/-- No entry comes to lie across an address at which one ended a call before, and no plain
region across one at which a plain region ended. -/
structure LayoutsKeepEnds : Prop where
  entries : ∀ calls, EndsKept (fun entry => entry.span.start) (fun entry => entry.span.stop)
    (layouts calls).entries (layouts (calls + 1)).entries
  regions : ∀ calls, EndsKept Span.start Span.stop
    (plainRegions (layouts calls).entries) (plainRegions (layouts (calls + 1)).entries)

variable {layouts}

theorem changingSource_clear (kept : LayoutsKeepEnds layouts) :
    Clear (changingSource layouts) (fun answer => answer.span.start)
      (fun answer => answer.span.stop) := by
  intro calls cursor answer following given again
  have above := (changingSource_sweeps layouts).above again
  rw [(changingSource_sweeps layouts).moves given] at above
  -- the depth of the next question is that of the answer
  cases (recurse_answers given).1 with
  | region member =>
    cases (recurse_answers again).1 with
    | region next => exact kept.entries calls _ member _ next above
    | submap next => exact kept.entries calls _ member _ next above
    | inner next below => exact absurd rfl below
  | submap member =>
    cases (recurse_answers again).1 with
    | region next => exact kept.entries calls _ member _ next above
    | submap next => exact kept.entries calls _ member _ next above
    | inner next below => exact absurd rfl below
  | inner member below among =>
    cases (recurse_answers again).1 with
    | region next =>
      exact kept.regions calls _ (mem_plainRegions_inner member among) _
        (mem_plainRegions_top next) above
    | submap next isTop => exact absurd isTop (show ¬ (1 : UInt32) = 0 by decide)
    | inner next deep within =>
      exact kept.regions calls _ (mem_plainRegions_inner member among) _
        (mem_plainRegions_inner next within) above

theorem foldl_addShared {answers : List Answer} (fits : answeredBytes answers < 2 ^ 64) :
    (answers.foldl addShared 0).toNat = answeredBytes answers := by
  have shares : answers.map (fun answer =>
      (if answer.span.shareMode = SM_PRIVATE then 0 else answer.span.size).toNat) =
      answers.map fun answer => sharedBytes answer.span := by
    apply List.map_congr_left
    intro answer _
    unfold sharedBytes
    split <;> rfl
  have exact := foldl_toNat addShared id
    (fun answer => if answer.span.shareMode = SM_PRIVATE then 0 else answer.span.size)
    addShared_gains answers 0
    (by rwa [shares, id, UInt64.toNat_zero, Nat.zero_add])
  rwa [shares, id, id, UInt64.toNat_zero, Nat.zero_add] at exact

/-- What `getProcessSharedMemory` counts of a process that runs on. -/
structure CountedOf (layouts : Nat → Layout) (limit : Nat) (answers : List Answer)
    (sharedMemory : UInt64) : Prop where
  walk : ∃ last, Serves (changingSource layouts) 0 ⟨0, 1⟩ answers last
  counted : sharedMemory = answers.foldl addShared 0
  once : answers.Nodup
  staying : ∀ span, (∀ calls ≤ answers.length, .region span ∈ (layouts calls).entries) →
    ⟨span, 0⟩ ∈ answers
  bounds : LayoutsKeepEnds layouts →
    Ascending (fun answer => answer.span.start) (fun answer => answer.span.stop) answers ∧
      sharedMemory.toNat = answeredBytes answers ∧ sharedMemory.toNat ≤ limit ∧
      ∀ part : List Span, part.Nodup →
        (∀ span ∈ part, ∀ calls ≤ answers.length, .region span ∈ (layouts calls).entries) →
          (part.map sharedBytes).sum ≤ sharedMemory.toNat

end

/-- What lies behind the heap of the layout is unmapped after the second call. -/
def heapAlone : Layout where
  entries := [.region ⟨0x1000, 0x1000, SM_PRIVATE⟩]
  ascending := ⟨by decide, by decide⟩
  fits := by decide
  inner := by
    intro span inside member
    cases List.mem_singleton.mp member

def shrinking : Nat → Layout
  | 0 => heapThenCache
  | 1 => heapThenCache
  | _ + 2 => heapAlone

end Layouts

end MemoryDemo.Mach.ChangingSpaces
