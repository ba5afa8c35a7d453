import Mathlib.Algebra.Order.Ring.Nat
import Mathlib.Data.List.Basic

/-! The source text that `create_large_shared_library` of `shared_library_demo.cpp` generates,
and the number of elements of the arrays that it defines. -/

namespace MemoryDemo.Darwin.LibrarySource

/-- `const size_t functions_count = size_mb * 10;` -/
def functionsCount (sizeMb : UInt64) : UInt64 :=
  sizeMb * 10

/-- `data_size`. -/
def dataSize : Nat := 25000

def header : List Char :=
  "#include <cstddef>\n#include <iostream>\n\n".toList

/-- The body of the inner loop. -/
def element (j : Nat) : List Char :=
  "        ".toList ++ Nat.toDigits 10 (j % 256) ++ ",".toList ++
    if j % 10 = 9 then "\n".toList else []

/-- The body of the outer loop. -/
def functionSource (i : Nat) : List Char :=
  "extern \"C\" int large_function_".toList ++ Nat.toDigits 10 i ++ "() \x7b\n".toList ++
    "    static const char data[] = \x7b\n".toList ++
    (List.range dataSize).flatMap element ++
    "    \x7d;\n    return data[0];\n\x7d\n\n".toList

def testSource : List Char :=
  "extern \"C\" int test_large_lib() \x7b\n".toList ++
    "    std::cout << \"大型共享库已成功加载!\" << std::endl;\n".toList ++
    "    return 42;\n\x7d\n".toList

def librarySource (sizeMb : UInt64) : List Char :=
  header ++ (List.range (functionsCount sizeMb).toNat).flatMap functionSource ++ testSource

/-- Reads a text and counts the elements of its array initialisers: the commas between
`= {` and `}`, as every element is followed by one. -/
def elements : Bool → List Char → Nat
  | _, [] => 0
  | false, '=' :: ' ' :: '{' :: rest => elements true rest
  | false, _ :: rest => elements false rest
  | true, '}' :: rest => elements false rest
  | true, ',' :: rest => elements true rest + 1
  | true, _ :: rest => elements true rest

theorem elements_opening (rest : List Char) :
    elements false ('=' :: ' ' :: '{' :: rest) = elements true rest := rfl

theorem elements_closing (rest : List Char) :
    elements true ('}' :: rest) = elements false rest := rfl

/-- Text without an equals sign opens no array. -/
theorem elements_outside (text rest : List Char) (plain : '=' ∉ text) :
    elements false (text ++ rest) = elements false rest := by
  induction text with
  | nil => rfl
  | cons char text ih =>
    obtain ⟨first, others⟩ := not_or.mp (mt List.mem_cons.mpr plain)
    rw [List.cons_append, elements, ih others]
    intro after opens
    exact fun _ => first opens.symm

/-- Text without a comma and a closing brace stays between two elements. -/
theorem elements_inside (text rest : List Char) (no_comma : ',' ∉ text) (no_brace : '}' ∉ text) :
    elements true (text ++ rest) = elements true rest := by
  induction text with
  | nil => rfl
  | cons char text ih =>
    obtain ⟨not_comma, commas⟩ := not_or.mp (mt List.mem_cons.mpr no_comma)
    obtain ⟨not_brace, braces⟩ := not_or.mp (mt List.mem_cons.mpr no_brace)
    rw [List.cons_append, elements, ih commas braces]
    · exact fun closes => not_brace closes.symm
    · exact fun separates => not_comma separates.symm

theorem digits_avoid {char : Char} (other : char.isDigit = false) (value : Nat) :
    char ∉ Nat.toDigits 10 value := by
  intro member
  have digit := Nat.isDigit_of_mem_toDigits (by decide) (by decide) member
  rw [other] at digit
  exact Bool.false_ne_true digit

theorem elements_element (j : Nat) (rest : List Char) :
    elements true (element j ++ rest) = elements true rest + 1 := by
  have separator : elements true (",".toList ++
      ((if j % 10 = 9 then "\n".toList else []) ++ rest)) = elements true rest + 1 := by
    change elements true ((if j % 10 = 9 then "\n".toList else []) ++ rest) + 1 = _
    rw [elements_inside]
    · split <;> decide +kernel
    · split <;> decide +kernel
  unfold element
  rw [List.append_assoc, List.append_assoc, List.append_assoc,
    elements_inside _ _ (by decide +kernel) (by decide +kernel),
    elements_inside _ _ (digits_avoid (by decide) _) (digits_avoid (by decide) _), separator]

theorem elements_flatMap_element (indices : List Nat) (rest : List Char) :
    elements true (indices.flatMap element ++ rest) = elements true rest + indices.length := by
  induction indices with
  | nil => rfl
  | cons j indices ih =>
    rw [List.flatMap_cons, List.append_assoc, elements_element, ih, List.length_cons]
    rfl

/-- The source of a function whose array has the given text. -/
theorem elements_function (i count : Nat) (data : List Char)
    (counted : ∀ rest, elements true (data ++ rest) = elements true rest + count)
    (rest : List Char) :
    elements false ("extern \"C\" int large_function_".toList ++ Nat.toDigits 10 i ++
      "() \x7b\n".toList ++ "    static const char data[] = \x7b\n".toList ++ data ++
      "    \x7d;\n    return data[0];\n\x7d\n\n".toList ++ rest) = elements false rest + count := by
  have opening : "    static const char data[] = \x7b\n".toList =
      "    static const char data[] ".toList ++ '=' :: ' ' :: '{' :: "\n".toList := by
    decide +kernel
  have closing : "    \x7d;\n    return data[0];\n\x7d\n\n".toList =
      "    ".toList ++ '}' :: ";\n    return data[0];\n\x7d\n\n".toList := by decide +kernel
  rw [opening, closing]
  simp only [List.append_assoc, List.cons_append]
  rw [elements_outside _ _ (by decide +kernel),
    elements_outside _ _ (digits_avoid (by decide) _), elements_outside _ _ (by decide +kernel),
    elements_outside _ _ (by decide +kernel)]
  rw [elements_opening, elements_inside _ _ (by decide +kernel) (by decide +kernel), counted,
    elements_inside _ _ (by decide +kernel) (by decide +kernel), elements_closing,
    elements_outside _ _ (by decide +kernel)]

/-- Every function defines one array, of a length that does not depend on its number. -/
theorem elements_functionSource (i : Nat) (rest : List Char) :
    elements false (functionSource i ++ rest) = elements false rest + dataSize := by
  apply elements_function
  intro rest
  rw [elements_flatMap_element, List.length_range]

theorem elements_flatMap_functionSource (indices : List Nat) (rest : List Char) :
    elements false (indices.flatMap functionSource ++ rest) =
      elements false rest + dataSize * indices.length := by
  induction indices with
  | nil => rfl
  | cons i indices ih =>
    rw [List.flatMap_cons, List.append_assoc, elements_functionSource, ih, List.length_cons,
      Nat.mul_succ, Nat.add_assoc]

theorem elements_librarySource (sizeMb : UInt64) :
    elements false (librarySource sizeMb) = dataSize * (functionsCount sizeMb).toNat := by
  have test : elements false testSource = 0 := by
    rw [← List.append_nil testSource, elements_outside _ _ (by decide +kernel)]
    rfl
  rw [librarySource, List.append_assoc, elements_outside _ _ (by decide +kernel),
    elements_flatMap_functionSource, test, List.length_range, Nat.zero_add]

theorem elements_librarySource_le (sizeMb : UInt64) :
    elements false (librarySource sizeMb) ≤ 250000 * sizeMb.toNat := by
  have count : (functionsCount sizeMb).toNat ≤ 10 * sizeMb.toNat := by
    rw [functionsCount, UInt64.toNat_mul, Nat.mul_comm 10]
    exact Nat.mod_le _ _
  calc elements false (librarySource sizeMb)
      = 25000 * (functionsCount sizeMb).toNat := elements_librarySource sizeMb
    _ ≤ 25000 * (10 * sizeMb.toNat) := Nat.mul_le_mul_left _ count
    _ = 250000 * sizeMb.toNat := by omega

/-- The arrays come to a quarter of a million bytes for each megabyte at most, so for no
number of megabytes are they as large as announced. -/
theorem librarySource_short {sizeMb : UInt64} (positive : 1 ≤ sizeMb) :
    ¬ sizeMb.toNat * 10 ^ 6 ≤ elements false (librarySource sizeMb) := by
  have megabytes : 1 ≤ sizeMb.toNat := UInt64.le_iff_toNat_le.mp positive
  have short := elements_librarySource_le sizeMb
  omega

theorem librarySource_short_fifty :
    (1 : UInt64) ≤ 50 ∧ ¬ (50 : UInt64).toNat * 10 ^ 6 ≤ elements false (librarySource 50) :=
  ⟨by decide, librarySource_short (by decide)⟩

/-- The demo asks for 50 MB. -/
theorem librarySource_elements_fifty :
    elements false (librarySource 50) = 12500000 ∧ 12500000 < 50 * 10 ^ 6 :=
  ⟨elements_librarySource 50, by decide⟩

end MemoryDemo.Darwin.LibrarySource
