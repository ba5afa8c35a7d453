import Mathlib.Algebra.BigOperators.Group.List.Basic
import Mathlib.Algebra.Order.Ring.Nat

/-! File streams whose state nobody looks at: an output stream ignores every write behind
the first short one, and a read loop ends at the first short read, be it for the end of the
file or for an error. What the file takes of a write and delivers to a read is given by the
number of the call; bytes lost when a buffer is flushed are lost to the write they came with. -/

namespace MemoryDemo.Library.Streams

/-- A good stream has passed on all it was handed; `length` is what the file holds. -/
structure OutputStream where
  good : Bool
  length : Nat
  deriving DecidableEq, Repr

/-- A stream on a new or truncated file. -/
def OutputStream.fresh : OutputStream :=
  ⟨true, 0⟩

/-- A write of which the file takes at most `accepted` bytes. -/
def OutputStream.write (stream : OutputStream) (bytes accepted : Nat) : OutputStream :=
  if stream.good then
    ⟨decide (bytes ≤ accepted), stream.length + min accepted bytes⟩
  else stream

/-- One write after another, of the given sizes. -/
def writes (accepts : Nat → Nat) : Nat → List Nat → OutputStream → OutputStream
  | _, [], stream => stream
  | call, bytes :: rest, stream =>
    writes accepts (call + 1) rest (stream.write bytes (accepts call))

theorem writes_of_bad (accepts : Nat → Nat) (call : Nat) (sizes : List Nat)
    {stream : OutputStream} (bad : stream.good = false) :
    writes accepts call sizes stream = stream := by
  induction sizes generalizing call with
  | nil => rfl
  | cons bytes rest ih =>
    have ignored : stream.write bytes (accepts call) = stream := by
      simp only [OutputStream.write, bad, Bool.false_eq_true, ↓reduceIte]
    rw [writes, ignored]
    exact ih (call + 1)

/-- A full write adds its bytes. -/
theorem write_full {stream : OutputStream} (good : stream.good = true) {bytes accepted : Nat}
    (full : bytes ≤ accepted) :
    stream.write bytes accepted = ⟨true, stream.length + bytes⟩ := by
  simp only [OutputStream.write, good, ↓reduceIte, full, decide_true, Nat.min_eq_right full]

/-- A short write adds what the file takes, and the stream is bad from then on. -/
theorem write_short {stream : OutputStream} (good : stream.good = true) {bytes accepted : Nat}
    (short : accepted < bytes) :
    stream.write bytes accepted = ⟨false, stream.length + accepted⟩ := by
  simp only [OutputStream.write, good, ↓reduceIte, decide_eq_false (Nat.not_le.mpr short),
    Nat.min_eq_left (Nat.le_of_lt short)]

theorem writes_length_le (accepts : Nat → Nat) (call : Nat) (sizes : List Nat)
    (stream : OutputStream) :
    (writes accepts call sizes stream).length ≤ stream.length + sizes.sum := by
  induction sizes generalizing call stream with
  | nil => exact Nat.le_refl _
  | cons bytes rest ih =>
    have later := ih (call + 1) (stream.write bytes (accepts call))
    have once : (stream.write bytes (accepts call)).length ≤ stream.length + bytes := by
      rw [OutputStream.write]
      split
      next => exact Nat.add_le_add_left (Nat.min_le_right ..) _
      next => exact Nat.le_add_right ..
    rw [writes, List.sum_cons]
    omega

/-- A full disk takes nothing. -/
theorem writes_none_length (call : Nat) (sizes : List Nat) (stream : OutputStream) :
    (writes (fun _ => 0) call sizes stream).length = stream.length := by
  induction sizes generalizing call stream with
  | nil => rfl
  | cons bytes rest ih =>
    rw [writes, ih, OutputStream.write]
    split
    next => rw [Nat.zero_min, Nat.add_zero]
    next => rfl

/-- The file holds all that a good stream was handed if and only if no write was short. -/
theorem writes_length_eq_iff (accepts : Nat → Nat) (call : Nat) (sizes : List Nat)
    {stream : OutputStream} (good : stream.good = true) :
    (writes accepts call sizes stream).length = stream.length + sizes.sum ↔
      ∀ index (inside : index < sizes.length), sizes[index] ≤ accepts (call + index) := by
  induction sizes generalizing call stream with
  | nil =>
    constructor
    · intro _ index inside
      exact absurd inside (Nat.not_lt_zero index)
    · intro _
      rfl
  | cons bytes rest ih =>
    rw [writes, List.sum_cons]
    by_cases full : bytes ≤ accepts call
    · rw [write_full good full, ← Nat.add_assoc, ih (call + 1) rfl]
      constructor
      · intro others index inside
        cases index with
        | zero => exact full
        | succ index =>
          have one := others index (Nat.lt_of_succ_lt_succ inside)
          rwa [Nat.add_assoc, Nat.add_comm 1] at one
      · intro all index inside
        have one : rest[index] ≤ accepts (call + (index + 1)) :=
          all (index + 1) (Nat.succ_lt_succ inside)
        rwa [Nat.add_comm index, ← Nat.add_assoc] at one
    · have short := Nat.not_le.mp full
      rw [write_short good short, writes_of_bad accepts (call + 1) rest rfl]
      constructor
      · intro same
        change stream.length + accepts call = _ at same
        omega
      · intro all
        exact absurd (all 0 (Nat.succ_pos _)) full

/-- The same for writes of one size. -/
theorem writes_replicate_length_eq_iff (accepts : Nat → Nat) (count bytes : Nat) :
    (writes accepts 0 (List.replicate count bytes) .fresh).length = count * bytes ↔
      ∀ index < count, bytes ≤ accepts index := by
  have whole := writes_length_eq_iff accepts 0 (List.replicate count bytes)
    (show OutputStream.fresh.good = true from rfl)
  rw [List.sum_replicate_nat] at whole
  simp only [OutputStream.fresh, Nat.zero_add, List.length_replicate,
    List.getElem_replicate] at whole
  exact whole

/-- The bytes that `while (stream.read(buffer, chunk)) {}` gets of a file of which `left`
bytes are left. A read that gets the whole chunk is followed by another. -/
def reads (delivers : Nat → Nat) (chunk : Nat) [NeZero chunk] (call left : Nat) : Nat :=
  if chunk ≤ left ∧ chunk ≤ delivers call then
    chunk + reads delivers chunk (call + 1) (left - chunk)
  else min (delivers call) left
termination_by left
decreasing_by
  have positive := NeZero.pos chunk
  omega

theorem reads_le (delivers : Nat → Nat) (chunk : Nat) [NeZero chunk] (call left : Nat) :
    reads delivers chunk call left ≤ left := by
  induction call, left using reads.induct delivers chunk with
  | case1 call left full ih =>
    rw [reads, if_pos full]
    omega
  | case2 call left short =>
    rw [reads, if_neg short]
    exact Nat.min_le_right ..

/-- A file of whole chunks is read to its end if and only if every chunk is delivered. -/
theorem reads_eq_iff (delivers : Nat → Nat) (chunk : Nat) [NeZero chunk] (call count : Nat) :
    reads delivers chunk call (count * chunk) = count * chunk ↔
      ∀ index < count, chunk ≤ delivers (call + index) := by
  induction count generalizing call with
  | zero =>
    rw [Nat.zero_mul]
    constructor
    · intro _ index inside
      exact absurd inside (Nat.not_lt_zero index)
    · intro _
      exact Nat.le_zero.mp (reads_le delivers chunk call 0)
  | succ count ih =>
    have whole : (count + 1) * chunk = count * chunk + chunk := Nat.succ_mul count chunk
    have shift : (∀ index < count, chunk ≤ delivers (call + (index + 1))) ↔
        ∀ index < count, chunk ≤ delivers (call + 1 + index) := by
      simp only [Nat.add_assoc, Nat.add_comm 1]
    rw [Nat.forall_lt_succ_left, shift, reads]
    by_cases full : chunk ≤ delivers call
    · rw [if_pos ⟨by omega, full⟩, whole, Nat.add_sub_cancel, Nat.add_comm chunk,
        Nat.add_right_cancel_iff, ih (call + 1)]
      exact ⟨fun others => ⟨full, others⟩, fun all => all.2⟩
    · rw [if_neg (fun both => full both.2)]
      constructor
      · intro same
        omega
      · intro all
        exact absurd all.1 full

end MemoryDemo.Library.Streams
