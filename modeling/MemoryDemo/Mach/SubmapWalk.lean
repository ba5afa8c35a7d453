import MemoryDemo.Mach.VmRegion

/-! `getProcessSharedMemory` of `macos/process/memory_info.cc`. It walks an address space
with submaps through `mach_vm_region_recurse`, whose `depth` is an in/out parameter that
the loop hands on from one call to the next. -/

namespace MemoryDemo.Mach.SubmapWalk
open Library.CursorWalk Library.Interval VmRegion

/-- An address range with its share mode: a plain region, or a submap taken as one entry. -/
structure Span where
  address : UInt64
  size : UInt64
  shareMode : ShareMode
  deriving DecidableEq, Repr

def Span.start (span : Span) : Nat := span.address.toNat
def Span.stop (span : Span) : Nat := span.address.toNat + span.size.toNat

inductive Entry where
  | region (span : Span)
  | submap (span : Span) (inside : List Span)
  deriving DecidableEq, Repr

def Entry.span : Entry → Span
  | .region span => span
  | .submap span _ => span

/-- The top-level entries of a task and the plain regions inside its submaps. -/
structure Layout where
  entries : List Entry
  ascending : Ascending (fun entry => entry.span.start) (fun entry => entry.span.stop) entries
  fits : ∀ entry ∈ entries, entry.span.stop < 2 ^ 64
  inner : ∀ span inside, Entry.submap span inside ∈ entries →
    Ascending Span.start Span.stop inside ∧
      ∀ region ∈ inside, span.start ≤ region.start ∧ region.stop ≤ span.stop

/-- One successful answer, with the value the kernel leaves in `depth`. -/
structure Answer where
  span : Span
  depth : UInt32
  deriving DecidableEq, Repr

/-- The entry that contains or follows the address. At depth 0 a submap is one entry;
at a larger depth its regions are searched, and when none is left the search goes on. -/
def machVmRegionRecurse (depth : UInt32) (address : UInt64) : List Entry → Option Answer
  | [] => none
  | .region span :: rest =>
      if address.toNat < span.stop then some ⟨span, 0⟩ else machVmRegionRecurse depth address rest
  | .submap span inside :: rest =>
      if address.toNat < span.stop then
        if depth = 0 then some ⟨span, 0⟩
        else match firstAbove Span.stop address.toNat inside with
          | some region => some ⟨region, 1⟩
          | none => machVmRegionRecurse depth address rest
      else machVmRegionRecurse depth address rest

/-- What the loop keeps from one call to the next. -/
structure Cursor where
  address : UInt64
  depth : UInt32
  deriving DecidableEq, Repr

def recurseSource (entries : List Entry) : Source Cursor Answer where
  query := fun _ cursor => machVmRegionRecurse cursor.depth cursor.address entries
  next := fun answer => ⟨answer.span.address + answer.span.size, answer.depth⟩

def addShared (sharedMemory : UInt64) (answer : Answer) : UInt64 :=
  if answer.span.shareMode ≠ SM_PRIVATE then sharedMemory + answer.span.size else sharedMemory

/-- `task` is the layout of the process, or `none` when `task_for_pid` fails. -/
def getProcessSharedMemory (task : Option Layout) (fuel : Nat) : Option UInt64 :=
  match task with
  | none => some 0
  | some layout =>
      (walk (recurseSource layout.entries) addShared fuel 0 ⟨0, 1⟩ 0).map Stop.state

/-! What the walk is served: at depth 0 every entry is one answer, and the first plain
region of the top level brings the walk to depth 0 for good. -/

def shallow (entries : List Entry) : List Answer :=
  entries.map (fun entry => ⟨entry.span, 0⟩)

def deep : List Entry → List Answer
  | [] => []
  | .region span :: rest => ⟨span, 0⟩ :: shallow rest
  | .submap _ inside :: rest => inside.map (fun region => ⟨region, 1⟩) ++ deep rest

/-- No plain region of the entry ends above the address. -/
def Behind (address : UInt64) : Entry → Prop
  | .region span => span.stop ≤ address.toNat
  | .submap _ inside => ∀ region ∈ inside, region.stop ≤ address.toNat

theorem Behind.mono {address later : UInt64} (order : address.toNat ≤ later.toNat) {entry : Entry}
    (behind : Behind address entry) : Behind later entry := by
  cases entry with
  | region span => exact le_trans behind order
  | submap span inside => exact fun region member => le_trans (behind region member) order

/-- At depth 0 a plain region and a submap are treated alike. -/
theorem recurse_shallow_cons (address : UInt64) (entry : Entry) (rest : List Entry) :
    machVmRegionRecurse 0 address (entry :: rest) =
      if address.toNat < entry.span.stop then some ⟨entry.span, 0⟩
      else machVmRegionRecurse 0 address rest := by
  cases entry with
  | region span => rfl
  | submap span inside =>
    simp only [machVmRegionRecurse, ↓reduceIte]
    rfl

theorem recurse_shallow_skip (address : UInt64) (before after : List Entry)
    (behind : ∀ entry ∈ before, entry.span.stop ≤ address.toNat) :
    machVmRegionRecurse 0 address (before ++ after) = machVmRegionRecurse 0 address after := by
  induction before with
  | nil => rfl
  | cons entry rest ih =>
    have passed : ¬address.toNat < entry.span.stop :=
      Nat.not_lt.mpr (behind entry (List.mem_cons_self ..))
    rw [List.cons_append, recurse_shallow_cons, if_neg passed]
    exact ih (fun other member => behind other (List.mem_cons_of_mem _ member))

theorem recurse_deep_skip (address : UInt64) (before after : List Entry)
    (behind : ∀ entry ∈ before, Behind address entry) :
    machVmRegionRecurse 1 address (before ++ after) = machVmRegionRecurse 1 address after := by
  induction before with
  | nil => rfl
  | cons entry rest ih =>
    have passed := behind entry (List.mem_cons_self ..)
    have others := ih (fun other member => behind other (List.mem_cons_of_mem _ member))
    cases entry with
    | region span =>
      simpa only [List.cons_append, machVmRegionRecurse, if_neg (Nat.not_lt.mpr passed)] using others
    | submap span inside =>
      simp only [List.cons_append, machVmRegionRecurse, firstAbove_none passed]
      split
      · exact others
      · exact others

theorem next_toNat (span : Span) (fits : span.stop < 2 ^ 64) :
    (span.address + span.size).toNat = span.stop := by
  rw [UInt64.toNat_add]
  exact Nat.mod_eq_of_lt fits

section
variable (layout : Layout)

/-- The part of a layout behind a given entry starts above its end. -/
theorem Layout.start_after {before after : List Entry} {entry : Entry}
    (split : layout.entries = before ++ entry :: after) :
    ∀ other ∈ after, entry.span.stop ≤ other.span.start :=
  (List.pairwise_cons.mp (List.pairwise_append.mp (split ▸ layout.ascending.apart)).2.1).1

theorem Layout.stop_before {before after : List Entry} {entry : Entry}
    (split : layout.entries = before ++ entry :: after) :
    ∀ other ∈ before, other.span.stop ≤ entry.span.start := by
  intro other member
  exact (List.pairwise_append.mp (split ▸ layout.ascending.apart)).2.2 other member entry
    (List.mem_cons_self ..)

theorem serves_shallow (calls : Nat) (address : UInt64) (before after : List Entry)
    (split : layout.entries = before ++ after)
    (behind : ∀ entry ∈ before, entry.span.stop ≤ address.toNat)
    (ahead : ∀ entry ∈ after, address.toNat ≤ entry.span.start) :
    ∃ last, Serves (recurseSource layout.entries) calls ⟨address, 0⟩ (shallow after) last := by
  induction after generalizing calls address before with
  | nil =>
    refine ⟨_, Serves.fails ?_⟩
    simp only [recurseSource, split, recurse_shallow_skip address before [] behind,
      machVmRegionRecurse]
  | cons entry rest ih =>
    have member : entry ∈ layout.entries := by simp [split]
    have proper := layout.ascending.nonempty entry member
    have reached := ahead entry (List.mem_cons_self ..)
    have arrived := next_toNat entry.span (layout.fits entry member)
    have above : address.toNat < entry.span.stop := by omega
    have given : (recurseSource layout.entries).query calls ⟨address, 0⟩ = some ⟨entry.span, 0⟩ := by
      simp only [recurseSource, split, recurse_shallow_skip address before (entry :: rest) behind,
        recurse_shallow_cons, if_pos above]
    obtain ⟨last, served⟩ := ih (calls + 1) (entry.span.address + entry.span.size)
      (before ++ [entry]) (by simp [split])
      (by rw [arrived]; exact below_append behind (by omega) (le_refl _))
      (by
        intro other inside
        rw [arrived]
        exact layout.start_after split other inside)
    exact ⟨last, Serves.answers given served⟩

/-- Inside a submap the walk stays at depth 1 and visits the regions one by one. -/
theorem serves_inside (before after : List Entry) (span : Span) (inside : List Span)
    (split : layout.entries = before ++ Entry.submap span inside :: after) (served : List Answer)
    (later : ∀ (calls : Nat) (address : UInt64),
      (∀ entry ∈ before ++ [Entry.submap span inside], Behind address entry) →
      address.toNat ≤ span.stop →
      ∃ last, Serves (recurseSource layout.entries) calls ⟨address, 1⟩ served last)
    (calls : Nat) (address : UInt64) (done todo : List Span) (parts : inside = done ++ todo)
    (behind : ∀ entry ∈ before, Behind address entry)
    (passed : ∀ region ∈ done, region.stop ≤ address.toNat)
    (ahead : ∀ region ∈ todo, address.toNat ≤ region.start) (within : address.toNat ≤ span.stop) :
    ∃ last, Serves (recurseSource layout.entries) calls ⟨address, 1⟩
      (todo.map (fun region => ⟨region, 1⟩) ++ served) last := by
  have member : Entry.submap span inside ∈ layout.entries := by simp [split]
  obtain ⟨order, bounds⟩ := layout.inner span inside member
  have limit := layout.fits _ member
  induction todo generalizing calls address done with
  | nil =>
    apply later calls address _ within
    intro entry inBefore
    rcases List.mem_append.mp inBefore with earlier | itself
    · exact behind entry earlier
    · rw [List.mem_singleton.mp itself]
      intro region inInside
      exact passed region (by simpa [parts] using inInside)
  | cons region rest ih =>
    have inInside : region ∈ inside := by simp [parts]
    have proper := order.nonempty region inInside
    have reached := ahead region (List.mem_cons_self ..)
    have bound := bounds region inInside
    have arrived := next_toNat region (lt_of_le_of_lt bound.2 limit)
    have above : address.toNat < region.stop := by omega
    have given : (recurseSource layout.entries).query calls ⟨address, 1⟩ = some ⟨region, 1⟩ := by
      have inSubmap : address.toNat < span.stop := by omega
      simp only [recurseSource, split, recurse_deep_skip address before _ behind,
        machVmRegionRecurse, if_pos inSubmap, parts, firstAbove_split passed above]
      rfl
    have suffix := List.pairwise_cons.mp (List.pairwise_append.mp (parts ▸ order.apart)).2.1
    obtain ⟨last, rested⟩ := ih (calls + 1) (region.address + region.size) (done ++ [region])
      (by simp [parts])
      (fun entry earlier => (behind entry earlier).mono (by rw [arrived]; omega))
      (by rw [arrived]; exact below_append passed (by omega) (le_refl _))
      (by
        intro other inRest
        rw [arrived]
        exact suffix.1 other inRest)
      (by rw [arrived]; exact bound.2)
    exact ⟨last, Serves.answers given rested⟩

theorem serves_deep (calls : Nat) (address : UInt64) (before after : List Entry)
    (split : layout.entries = before ++ after)
    (behind : ∀ entry ∈ before, Behind address entry)
    (ahead : ∀ entry ∈ after, address.toNat ≤ entry.span.start) :
    ∃ last, Serves (recurseSource layout.entries) calls ⟨address, 1⟩ (deep after) last := by
  induction after generalizing calls address before with
  | nil =>
    refine ⟨_, Serves.fails ?_⟩
    simp only [recurseSource, split, recurse_deep_skip address before [] behind,
      machVmRegionRecurse]
  | cons entry rest ih =>
    have member : entry ∈ layout.entries := by simp [split]
    have proper := layout.ascending.nonempty entry member
    have reached := ahead entry (List.mem_cons_self ..)
    cases entry with
    | region span =>
      have arrived := next_toNat span (layout.fits _ member)
      have given : (recurseSource layout.entries).query calls ⟨address, 1⟩ = some ⟨span, 0⟩ := by
        have above : address.toNat < span.stop := lt_of_le_of_lt reached proper
        simp only [recurseSource, split, recurse_deep_skip address before _ behind,
          machVmRegionRecurse, if_pos above]
      obtain ⟨last, served⟩ := serves_shallow layout (calls + 1) (span.address + span.size)
        (before ++ [.region span]) rest (by simp [split])
        (by
          rw [arrived]
          exact below_append (layout.stop_before split) (le_of_lt proper) (le_refl _))
        (by
          intro other inside
          rw [arrived]
          exact layout.start_after split other inside)
      exact ⟨last, Serves.answers given served⟩
    | submap span inside =>
      apply serves_inside layout before rest span inside split (deep rest) _ calls address [] inside
        rfl behind (by simp)
      · intro region inInside
        exact le_trans reached ((layout.inner span inside member).2 region inInside).1
      · exact le_trans reached (le_of_lt proper)
      · intro calls address behind within
        apply ih calls address (before ++ [.submap span inside]) (by simp [split]) behind
        intro other later
        exact le_trans within (layout.start_after split other later)

theorem Layout.serves :
    ∃ last, Serves (recurseSource layout.entries) 0 ⟨0, 1⟩ (deep layout.entries) last :=
  serves_deep layout 0 0 [] layout.entries rfl (by simp) (by simp)

end

end MemoryDemo.Mach.SubmapWalk
