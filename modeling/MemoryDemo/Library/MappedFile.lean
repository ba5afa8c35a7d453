import Mathlib.Data.List.Basic
import Mathlib.Data.Set.Insert
import Mathlib.Logic.Function.Basic

/-! A file that is mapped into memory. A shared mapping stores into the file itself, or behind its
end into memory that the file never sees; a private one copies a page on the first store to it, and
stores into the copy. Both look to the process like an array of bytes. -/

namespace MemoryDemo.Library.MappedFile

inductive Sharing where
  | shared
  | copied
  deriving DecidableEq, Repr

/-- The bytes of the file, what has been stored to its last page behind its end, and the pages
that the mapping has copied, by their number. -/
structure Mapping (Byte : Type*) where
  file : List Byte
  behind : Nat → Option Byte
  copies : Nat → Option (Nat → Byte)

variable {Byte : Type*}

/-- A mapping that has not been stored to. -/
def Mapping.fresh (file : List Byte) : Mapping Byte :=
  ⟨file, fun _ => none, fun _ => none⟩

section
variable (pageSize : Nat) (zero : Byte)

/-- Behind the end of the file the last page is filled with zeros first. -/
def load (mapping : Mapping Byte) (offset : Nat) : Byte :=
  match mapping.copies (offset / pageSize) with
  | some bytes => bytes offset
  | none => mapping.file.getD offset ((mapping.behind offset).getD zero)

/-- Some part of the file lies on the page of the offset. -/
def Backed (file : List Byte) (offset : Nat) : Prop :=
  offset / pageSize * pageSize < file.length

instance (file : List Byte) (offset : Nat) : Decidable (Backed pageSize file offset) :=
  inferInstanceAs (Decidable (_ < _))

def put (sharing : Sharing) (mapping : Mapping Byte) (offset : Nat) (byte : Byte) : Mapping Byte :=
  match sharing with
  | .shared =>
    if offset < mapping.file.length then { mapping with file := mapping.file.set offset byte }
    else { mapping with behind := Function.update mapping.behind offset (some byte) }
  | .copied =>
    { mapping with
      copies := Function.update mapping.copies (offset / pageSize)
        (some (Function.update (load pageSize zero mapping) offset byte)) }

/-- A store of one byte faults on a page without a part of the file. -/
def store (sharing : Sharing) (byte : Byte) (mapping : Mapping Byte) (offset : Nat) :
    Option (Mapping Byte) :=
  if Backed pageSize mapping.file offset then some (put pageSize zero sharing mapping offset byte)
  else none

/-- The loop that stores one byte at each of the offsets. -/
def storeAll (sharing : Sharing) (byte : Byte) (mapping : Mapping Byte) (offsets : List Nat) :
    Option (Mapping Byte) :=
  offsets.foldlM (store pageSize zero sharing byte) mapping

/-- The pages of which the mapping has its own copy. -/
def copiedPages (mapping : Mapping Byte) : Set Nat :=
  {page | (mapping.copies page).isSome = true}

theorem mem_copiedPages (mapping : Mapping Byte) (page : Nat) :
    page ∈ copiedPages mapping ↔ (mapping.copies page).isSome = true :=
  Iff.rfl

/-- The bytes of a file after the loop has gone over it. -/
def stamped (byte : Byte) (offsets : List Nat) (file : List Byte) : List Byte :=
  offsets.foldl (fun file offset => file.set offset byte) file

variable {pageSize zero}

theorem load_put_copied (mapping : Mapping Byte) (offset other : Nat) (byte : Byte) :
    load pageSize zero (put pageSize zero .copied mapping offset byte) other =
      if other = offset then byte else load pageSize zero mapping other := by
  by_cases page : other / pageSize = offset / pageSize
  · change (match Function.update mapping.copies _ _ (other / pageSize) with
      | some bytes => bytes other
      | none => mapping.file.getD other ((mapping.behind other).getD zero)) = _
    rw [page, Function.update_self]
    exact Function.update_apply ..
  · have elsewhere : other ≠ offset := fun same => page (by rw [same])
    rw [if_neg elsewhere]
    change (match Function.update mapping.copies _ _ (other / pageSize) with
      | some bytes => bytes other
      | none => mapping.file.getD other ((mapping.behind other).getD zero)) = _
    rw [Function.update_of_ne page]
    rfl

/-- A store that does not fault is the update of one byte of an array, the file stays, and its
page is a copy from then on. -/
theorem copied_store {mapping after : Mapping Byte} {offset : Nat} {byte : Byte}
    (stored : store pageSize zero .copied byte mapping offset = some after) :
    after.file = mapping.file ∧
      load pageSize zero after = Function.update (load pageSize zero mapping) offset byte ∧
      copiedPages after = insert (offset / pageSize) (copiedPages mapping) := by
  rw [store, Option.ite_none_right_eq_some, Option.some.injEq] at stored
  obtain ⟨backed, rfl⟩ := stored
  refine ⟨rfl, ?_, ?_⟩
  · funext other
    rw [load_put_copied, Function.update_apply]
  · ext page
    rw [mem_copiedPages]
    change (Function.update mapping.copies _ _ page).isSome = true ↔ _
    by_cases same : page = offset / pageSize
    · rw [same, Function.update_self]
      exact iff_of_true rfl (Set.mem_insert _ _)
    · rw [Function.update_of_ne same, Set.mem_insert_iff, or_iff_right same]
      rfl

theorem copies_put_shared (mapping : Mapping Byte) (offset : Nat) (byte : Byte) :
    (put pageSize zero .shared mapping offset byte).copies = mapping.copies := by
  rw [put]
  split <;> rfl

theorem load_uncopied {mapping : Mapping Byte} (uncopied : mapping.copies = fun _ => none)
    (offset : Nat) :
    load pageSize zero mapping offset =
      mapping.file.getD offset ((mapping.behind offset).getD zero) := by
  rw [load, uncopied]

theorem load_put_shared {mapping : Mapping Byte} (uncopied : mapping.copies = fun _ => none)
    (offset other : Nat) (byte : Byte) :
    load pageSize zero (put pageSize zero .shared mapping offset byte) other =
      if other = offset then byte else load pageSize zero mapping other := by
  rw [load_uncopied ((copies_put_shared ..).trans uncopied), load_uncopied uncopied, put]
  simp only [List.getD_eq_getElem?_getD]
  by_cases inside : offset < mapping.file.length
  · simp only [if_pos inside, List.getElem?_set]
    by_cases same : other = offset
    · rw [if_pos same, if_pos same.symm, Option.getD_some]
    · rw [if_neg same, if_neg (Ne.symm same)]
  · -- the byte is one behind the end of the file
    simp only [if_neg inside]
    by_cases same : other = offset
    · rw [if_pos same, same, List.getElem?_eq_none (Nat.not_lt.mp inside), Function.update_self,
        Option.getD_none, Option.getD_some]
    · rw [if_neg same, Function.update_of_ne same]

/-- A store that does not fault updates one byte of the array, and of the file if that has it. -/
theorem shared_store {mapping after : Mapping Byte} {offset : Nat} {byte : Byte}
    (uncopied : mapping.copies = fun _ => none)
    (stored : store pageSize zero .shared byte mapping offset = some after) :
    after.file = mapping.file.set offset byte ∧ (after.copies = fun _ => none) ∧
      load pageSize zero after = Function.update (load pageSize zero mapping) offset byte := by
  rw [store, Option.ite_none_right_eq_some, Option.some.injEq] at stored
  obtain ⟨backed, rfl⟩ := stored
  refine ⟨?_, (copies_put_shared ..).trans uncopied, ?_⟩
  · rw [put]
    split
    next => rfl
    next beyond => exact (List.set_eq_of_length_le (Nat.not_lt.mp beyond)).symm
  · funext other
    rw [load_put_shared uncopied, Function.update_apply]

theorem length_put (sharing : Sharing) (mapping : Mapping Byte) (offset : Nat) (byte : Byte) :
    (put pageSize zero sharing mapping offset byte).file.length = mapping.file.length := by
  cases sharing with
  | shared =>
    rw [put]
    split
    next => exact List.length_set
    next => rfl
  | copied => rfl

/-- The loop comes to its end exactly if all of its stores are backed by the file. -/
theorem storeAll_iff (sharing : Sharing) (byte : Byte) (mapping : Mapping Byte)
    (offsets : List Nat) :
    (∃ after, storeAll pageSize zero sharing byte mapping offsets = some after) ↔
      ∀ offset ∈ offsets, Backed pageSize mapping.file offset := by
  induction offsets generalizing mapping with
  | nil => exact iff_of_true ⟨mapping, rfl⟩ nofun
  | cons offset rest ih =>
    rw [storeAll, List.foldlM_cons, List.forall_mem_cons]
    by_cases backed : Backed pageSize mapping.file offset
    · rw [store, if_pos backed, Option.bind_eq_bind, Option.bind_some]
      refine (ih _).trans ?_
      simp only [Backed, length_put] at backed ⊢
      exact (and_iff_right backed).symm
    · rw [store, if_neg backed]
      exact iff_of_false nofun fun both => backed both.1

theorem storeAll_cons {sharing : Sharing} {byte : Byte} {mapping after : Mapping Byte}
    {offset : Nat} {rest : List Nat}
    (ran : storeAll pageSize zero sharing byte mapping (offset :: rest) = some after) :
    ∃ between, store pageSize zero sharing byte mapping offset = some between ∧
      storeAll pageSize zero sharing byte between rest = some after := by
  rw [storeAll, List.foldlM_cons] at ran
  exact Option.bind_eq_some_iff.mp ran

/-- A byte that is stored first and then by the rest of a loop. -/
theorem ite_mem_cons (byte : Byte) (offset other : Nat) (rest : List Nat) (array : Nat → Byte) :
    (if other ∈ rest then byte else Function.update array offset byte other) =
      if other ∈ offset :: rest then byte else array other := by
  rw [Function.update_apply]
  by_cases behind : other ∈ rest
  · rw [if_pos behind, if_pos (List.mem_cons_of_mem _ behind)]
  · simp only [behind, if_false, List.mem_cons, or_false]

/-- The loop over a private mapping writes to the array that the process sees, leaves the file
alone, and copies the pages it stores to, each once. -/
theorem copied_storeAll {byte : Byte} {mapping after : Mapping Byte} {offsets : List Nat}
    (ran : storeAll pageSize zero .copied byte mapping offsets = some after) :
    after.file = mapping.file ∧
      (∀ other, load pageSize zero after other =
        if other ∈ offsets then byte else load pageSize zero mapping other) ∧
      ∀ page, page ∈ copiedPages after ↔
        page ∈ copiedPages mapping ∨ ∃ offset ∈ offsets, offset / pageSize = page := by
  induction offsets generalizing mapping with
  | nil =>
    cases ran
    simp
  | cons offset rest ih =>
    obtain ⟨between, stored, later⟩ := storeAll_cons ran
    obtain ⟨file, array, pages⟩ := copied_store stored
    obtain ⟨lastFile, lastArray, lastPages⟩ := ih later
    refine ⟨lastFile.trans file, fun other => ?_, fun page => ?_⟩
    · rw [lastArray, array, ite_mem_cons]
    · rw [lastPages, pages, Set.mem_insert_iff, List.exists_mem_cons_iff, eq_comm, or_assoc,
        or_left_comm]

/-- The loop over a shared mapping writes to the array that the process sees and to the file, and
copies nothing. -/
theorem shared_storeAll {byte : Byte} {mapping after : Mapping Byte} {offsets : List Nat}
    (uncopied : mapping.copies = fun _ => none)
    (ran : storeAll pageSize zero .shared byte mapping offsets = some after) :
    after.file = stamped byte offsets mapping.file ∧ (after.copies = fun _ => none) ∧
      ∀ other, load pageSize zero after other =
        if other ∈ offsets then byte else load pageSize zero mapping other := by
  induction offsets generalizing mapping with
  | nil =>
    cases ran
    exact ⟨rfl, uncopied, fun other => rfl⟩
  | cons offset rest ih =>
    obtain ⟨between, stored, later⟩ := storeAll_cons ran
    obtain ⟨file, copies, array⟩ := shared_store uncopied stored
    obtain ⟨lastFile, lastCopies, lastArray⟩ := ih copies later
    rw [file] at lastFile
    refine ⟨lastFile, lastCopies, fun other => ?_⟩
    rw [lastArray, array, ite_mem_cons]

end

theorem getElem?_stamped (byte : Byte) (offsets : List Nat) (file : List Byte) (index : Nat) :
    (stamped byte offsets file)[index]? =
      if index ∈ offsets ∧ index < file.length then some byte else file[index]? := by
  induction offsets generalizing file with
  | nil => simp [stamped]
  | cons offset rest ih =>
    change (stamped byte rest (file.set offset byte))[index]? = _
    rw [ih, List.length_set, List.getElem?_set]
    by_cases inside : index < file.length
    · by_cases same : offset = index
      · simp [same, inside]
      · simp [same, Ne.symm same, inside]
    · simp [inside]
      omega

/-- What the loop leaves, where a predicate says which bytes it goes to. -/
theorem stamped_eq_mapIdx {byte : Byte} {offsets : List Nat} {file : List Byte}
    {goes : Nat → Prop} [DecidablePred goes]
    (member : ∀ index < file.length, index ∈ offsets ↔ goes index) :
    stamped byte offsets file = file.mapIdx fun index old => if goes index then byte else old := by
  apply List.ext_getElem?
  intro index
  rw [getElem?_stamped, List.getElem?_mapIdx]
  by_cases inside : index < file.length
  · rw [List.getElem?_eq_getElem inside]
    by_cases gone : goes index
    · simp [inside, gone, member index inside]
    · simp [gone, member index inside]
  · simp [inside]

end MemoryDemo.Library.MappedFile
