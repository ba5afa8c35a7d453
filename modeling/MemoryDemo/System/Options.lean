import Mathlib.Data.List.Basic

/-! The options of the system monitor of `macos/system/activity_monitor_demo.mm`: the loop of
`main` over what `getopt_long` delivers, and the tests that `main` runs behind it. Prints and
waiting for the user in front of the loop are left out. -/

namespace MemoryDemo.System.Options

/-- A value that `getopt_long` returns, with `optarg` where the option has an argument. -/
structure Delivered where
  opt : Char
  optarg : String
  deriving DecidableEq, Repr

/-- An option without an argument. -/
def Delivered.flag (opt : Char) : Delivered :=
  ⟨opt, ""⟩

/-- The characters of `"vhmpsagcfwi:"`; the long options are other names for the same ones. -/
def shortOptions : List Char :=
  ['v', 'h', 'm', 'p', 's', 'a', 'g', 'c', 'f', 'w', 'i', ':']

/-- What `main` calls. -/
inductive Act where
  | printMemoryMetrics
  | showHelp
  | monitorMemory
  | testPrivateMemory
  | testFileMapPrivate (filePath : String)
  | testSharedMemory
  | testPurgeableMemory
  | testFileCache
  | testFileMapSharedNoModify (filePath : String)
  | testFileMapSharedModify (filePath : String)
  deriving DecidableEq, Repr

/-- The calls of `main` and what it returns; `monitorMemory` never comes back. -/
structure Run where
  acts : List Act
  status : Option Int
  deriving DecidableEq, Repr

/-- The variables that the loop sets. -/
structure Selection where
  runPrivate : Bool
  runPrivateMap : Bool
  runShared : Bool
  runPurgeable : Bool
  runCache : Bool
  runFileMap : Bool
  runFileMapModify : Bool
  userFilePath : String
  deriving DecidableEq, Repr

def Selection.initial : Selection :=
  ⟨false, false, false, false, false, false, false, ""⟩

/-- The body of the loop; an error is the run of a `main` that returns from it. -/
def switch (selection : Selection) (option : Delivered) : Except Run Selection :=
  match option.opt with
  | 'h' => .error ⟨[.showHelp], some 0⟩
  | 'm' => .error ⟨[.monitorMemory], none⟩
  | 'p' => .ok { selection with runPrivate := true }
  | 'v' => .ok { selection with runPrivateMap := true }
  | 's' => .ok { selection with runShared := true }
  | 'g' => .ok { selection with runPurgeable := true }
  | 'c' => .ok { selection with runCache := true }
  | 'f' => .ok { selection with runFileMap := true }
  | 'w' => .ok { selection with runFileMapModify := true }
  | 'a' => .ok ⟨true, true, true, true, true, true, true, selection.userFilePath⟩
  | 'i' => .ok { selection with userFilePath := option.optarg }
  | _ => .error ⟨[.showHelp], some 1⟩

def parse (delivered : List Delivered) : Except Run Selection :=
  delivered.foldlM switch .initial

def execute (selection : Selection) : List Act :=
  (if selection.runPrivate then [.testPrivateMemory] else []) ++
  ((if selection.runPrivateMap then [.testFileMapPrivate selection.userFilePath] else []) ++
  ((if selection.runShared then [.testSharedMemory] else []) ++
  ((if selection.runPurgeable then [.testPurgeableMemory] else []) ++
  ((if selection.runCache then [.testFileCache] else []) ++
  ((if selection.runFileMap then [.testFileMapSharedNoModify selection.userFilePath] else []) ++
  (if selection.runFileMapModify then [.testFileMapSharedModify selection.userFilePath]
    else []))))))

/-- Without arguments `main` shows the state of the memory and asks for no option. -/
def main (argc : Nat) (delivered : List Delivered) : Run :=
  if argc = 1 then ⟨[.printMemoryMetrics], some 0⟩
  else
    match parse delivered with
    | .error run => run
    | .ok selection => ⟨execute selection, some 0⟩

/-- The tests, in the order in which `main` runs them. -/
inductive Test where
  | privateMemory
  | privateMap
  | shared
  | purgeable
  | cache
  | fileMap
  | fileWrite
  deriving DecidableEq, Repr

def Test.order : List Test :=
  [.privateMemory, .privateMap, .shared, .purgeable, .cache, .fileMap, .fileWrite]

/-- The option that selects a test alone. -/
def Test.letter : Test → Char
  | .privateMemory => 'p'
  | .privateMap => 'v'
  | .shared => 's'
  | .purgeable => 'g'
  | .cache => 'c'
  | .fileMap => 'f'
  | .fileWrite => 'w'

def Test.act (filePath : String) : Test → Act
  | .privateMemory => .testPrivateMemory
  | .privateMap => .testFileMapPrivate filePath
  | .shared => .testSharedMemory
  | .purgeable => .testPurgeableMemory
  | .cache => .testFileCache
  | .fileMap => .testFileMapSharedNoModify filePath
  | .fileWrite => .testFileMapSharedModify filePath

def Act.isTest : Act → Bool
  | .printMemoryMetrics | .showHelp | .monitorMemory => false
  | .testPrivateMemory | .testFileMapPrivate _ | .testSharedMemory | .testPurgeableMemory => true
  | .testFileCache | .testFileMapSharedNoModify _ | .testFileMapSharedModify _ => true

/-- The options that end `main` within the loop: `-h`, `-m` and what is not listed. -/
def Delivered.Ends (option : Delivered) : Prop :=
  option.opt = 'h' ∨ option.opt = 'm' ∨ option.opt ∉ shortOptions ∨ option.opt = ':'

/-- Some option of the sequence selects the test. -/
def Selected (delivered : List Delivered) (test : Test) : Prop :=
  ∃ option ∈ delivered, option.opt = test.letter ∨ option.opt = 'a'

instance (delivered : List Delivered) (test : Test) : Decidable (Selected delivered test) :=
  inferInstanceAs (Decidable (∃ option ∈ delivered, option.opt = test.letter ∨ option.opt = 'a'))

/-- The argument of the last `-i`. -/
def lastFile (delivered : List Delivered) : String :=
  (((delivered.filter fun option => option.opt = 'i').getLast?).map (·.optarg)).getD ""

/-- The run that the options stand for. -/
def selectedRun (delivered : List Delivered) : Run :=
  ⟨(Test.order.filter fun test => Selected delivered test).map (Test.act (lastFile delivered)),
    some 0⟩

/-- What the variables say about a test. -/
def Selection.chosen (selection : Selection) : Test → Bool
  | .privateMemory => selection.runPrivate
  | .privateMap => selection.runPrivateMap
  | .shared => selection.runShared
  | .purgeable => selection.runPurgeable
  | .cache => selection.runCache
  | .fileMap => selection.runFileMap
  | .fileWrite => selection.runFileMapModify

theorem execute_eq (selection : Selection) :
    execute selection =
      (Test.order.filter selection.chosen).map (Test.act selection.userFilePath) := by
  have single : ∀ tests : List Test,
      (tests.filter selection.chosen).map (Test.act selection.userFilePath) =
        tests.flatMap fun test =>
          if selection.chosen test then [test.act selection.userFilePath] else [] := by
    intro tests
    induction tests with
    | nil => rfl
    | cons test rest ih =>
      rw [List.filter_cons, List.flatMap_cons, ← ih]
      by_cases chosen : selection.chosen test = true
      · rw [if_pos chosen, if_pos chosen]
        rfl
      · rw [if_neg chosen, if_neg chosen]
        rfl
  rw [single, ← List.append_nil (execute selection), execute]
  simp only [List.append_assoc]
  rfl

theorem switch_ends {option : Delivered} (ends : option.Ends) (selection : Selection) :
    ∃ run, switch selection option = .error run ∧ run.acts.filter Act.isTest = [] := by
  unfold switch
  split
  all_goals first
    | exact ⟨_, rfl, rfl⟩
    | next same =>
      -- a case in which the loop goes on
      rw [Delivered.Ends, same] at ends
      exact absurd ends (by decide)

/-- Every other option sets the variables of the tests that it selects, and no others. -/
theorem switch_goes_on {option : Delivered} (goes_on : ¬ option.Ends) (selection : Selection) :
    ∃ next, switch selection option = .ok next ∧
      (∀ test, next.chosen test =
        (selection.chosen test || decide (option.opt = test.letter ∨ option.opt = 'a'))) ∧
      next.userFilePath = if option.opt = 'i' then option.optarg else selection.userFilePath := by
  obtain ⟨opt, optarg⟩ := option
  simp only [Delivered.Ends, not_or, not_not, shortOptions] at goes_on
  obtain ⟨not_help, not_monitor, listed, not_colon⟩ := goes_on
  simp only [List.mem_cons, List.not_mem_nil, or_false, not_help, not_monitor, not_colon,
    false_or] at listed
  rcases listed with rfl | rfl | rfl | rfl | rfl | rfl | rfl | rfl | rfl
  all_goals
    refine ⟨_, rfl, fun test => ?_, rfl⟩
    cases test <;> simp [Selection.chosen, Test.letter]

theorem foldlM_ends {delivered : List Delivered} (ends : ∃ option ∈ delivered, option.Ends)
    (selection : Selection) :
    ∃ run, delivered.foldlM switch selection = .error run ∧
      run.acts.filter Act.isTest = [] := by
  induction delivered generalizing selection with
  | nil =>
    obtain ⟨option, member, _⟩ := ends
    exact absurd member List.not_mem_nil
  | cons option rest ih =>
    rw [List.foldlM_cons]
    by_cases first : option.Ends
    · obtain ⟨run, returned, silent⟩ := switch_ends first selection
      refine ⟨run, ?_, silent⟩
      rw [returned]
      rfl
    · have later : ∃ other ∈ rest, other.Ends :=
        ((List.exists_mem_cons_iff ..).mp ends).resolve_left first
      obtain ⟨next, went_on, _⟩ := switch_goes_on first selection
      rw [went_on]
      exact ih later next

theorem lastFile_cons (option : Delivered) (rest : List Delivered) (filePath : String) :
    (((option :: rest).filter fun option => option.opt = 'i').getLast?.map (·.optarg)).getD
        filePath =
      ((rest.filter fun option => option.opt = 'i').getLast?.map (·.optarg)).getD
        (if option.opt = 'i' then option.optarg else filePath) := by
  rw [List.filter_cons]
  by_cases file : option.opt = 'i'
  · rw [if_pos (decide_eq_true file), if_pos file, List.getLast?_cons]
    cases (rest.filter fun option => option.opt = 'i').getLast? with
    | none => rfl
    | some last => rfl
  · rw [if_neg (by simpa using file), if_neg file]

/-- Where no option ends `main`, the loop leaves the variables as the options together set
them. -/
theorem foldlM_goes_on {delivered : List Delivered}
    (goes_on : ∀ option ∈ delivered, ¬ option.Ends) (selection : Selection) :
    ∃ last, delivered.foldlM switch selection = .ok last ∧
      (∀ test, last.chosen test = (selection.chosen test || decide (Selected delivered test))) ∧
      last.userFilePath =
        (((delivered.filter fun option => option.opt = 'i').getLast?).map (·.optarg)).getD
          selection.userFilePath := by
  induction delivered generalizing selection with
  | nil =>
    refine ⟨selection, rfl, fun test => ?_, rfl⟩
    rw [decide_eq_false (by rintro ⟨option, member, _⟩; cases member), Bool.or_false]
  | cons option rest ih =>
    obtain ⟨next, went_on, sets, path⟩ :=
      switch_goes_on (goes_on option List.mem_cons_self) selection
    obtain ⟨last, ran, chosen, file⟩ :=
      ih (fun other member => goes_on other (List.mem_cons_of_mem _ member)) next
    refine ⟨last, ?_, fun test => ?_, ?_⟩
    · rw [List.foldlM_cons, went_on]
      exact ran
    · have either : Selected (option :: rest) test ↔
          (option.opt = test.letter ∨ option.opt = 'a') ∨ Selected rest test :=
        List.exists_mem_cons_iff ..
      rw [chosen, sets, Bool.or_assoc, ← Bool.decide_or, decide_eq_decide.mpr either]
    · rw [file, path, lastFile_cons]

theorem main_ends {argc : Nat} (called : argc ≠ 1) {delivered : List Delivered}
    (ends : ∃ option ∈ delivered, option.Ends) :
    (main argc delivered).acts.filter Act.isTest = [] := by
  obtain ⟨run, returned, silent⟩ := foldlM_ends ends .initial
  rw [main, if_neg called, parse, returned]
  exact silent

theorem main_goes_on {argc : Nat} (called : argc ≠ 1) {delivered : List Delivered}
    (goes_on : ∀ option ∈ delivered, ¬ option.Ends) :
    main argc delivered = selectedRun delivered := by
  obtain ⟨last, ran, chosen, file⟩ := foldlM_goes_on goes_on .initial
  have unset : ∀ test, Selection.initial.chosen test = false := by
    intro test
    cases test <;> rfl
  have flags : last.chosen = fun test => decide (Selected delivered test) := by
    funext test
    rw [chosen, unset, Bool.false_or]
  rw [main, if_neg called, parse, ran]
  change Run.mk (execute last) (some 0) = _
  rw [execute_eq, flags, file]
  rfl

theorem selectedRun_congr {first second : List Delivered}
    (same : ∀ test, Selected first test ↔ Selected second test)
    (file : lastFile first = lastFile second) : selectedRun first = selectedRun second := by
  have flags : (fun test => decide (Selected first test)) =
      fun test => decide (Selected second test) := by
    funext test
    exact decide_eq_decide.mpr (same test)
  rw [selectedRun, selectedRun, flags, file]

/-- The options that select a test: one for each test, and `-a`. -/
def selecting : List Char :=
  'a' :: Test.order.map Test.letter

theorem Test.letter_mem (test : Test) : test.letter ∈ selecting := by
  cases test <;> decide

theorem selected_iff (delivered : List Delivered) (test : Test) :
    Selected delivered test ↔
      test.letter ∈ delivered.map (·.opt) ∨ 'a' ∈ delivered.map (·.opt) := by
  rw [List.mem_map, List.mem_map, ← exists_or]
  constructor
  · rintro ⟨option, member, letter | all⟩
    · exact ⟨option, Or.inl ⟨member, letter⟩⟩
    · exact ⟨option, Or.inr ⟨member, all⟩⟩
  · rintro ⟨option, ⟨member, letter⟩ | ⟨member, all⟩⟩
    · exact ⟨option, member, Or.inl letter⟩
    · exact ⟨option, member, Or.inr all⟩

/-- The seven options that select one test each. -/
def seven : List Delivered :=
  Test.order.map fun test => .flag test.letter

theorem seven_goes_on : ∀ option ∈ seven, ¬ option.Ends := by
  simp only [Delivered.Ends]
  decide

theorem seven_selects (before after : List Delivered) (test : Test) :
    Selected (before ++ seven ++ after) test ↔
      Selected (before ++ .flag 'a' :: after) test := by
  have here : test.letter ∈ seven.map (·.opt) := by cases test <;> decide
  rw [selected_iff, selected_iff]
  simp only [List.map_append, List.map_cons, List.mem_append, List.mem_cons, here, Delivered.flag,
    true_or, or_true]

theorem seven_lastFile (before after : List Delivered) :
    lastFile (before ++ seven ++ after) = lastFile (before ++ .flag 'a' :: after) := by
  have no_file : (seven.filter fun option => option.opt = 'i') = [] := by decide
  rw [lastFile, lastFile, List.filter_append, List.filter_append, no_file, List.append_nil,
    List.filter_append]
  rfl

/-- A `main` that asks for its options runs the tests that the options select, in its own
order and with the last file, whatever the order and the number of the options; an option
that ends the loop keeps it from all tests. -/
theorem main_runs_selected {argc : Nat} (called : argc ≠ 1) (delivered : List Delivered) :
    ((∃ option ∈ delivered, option.Ends) →
      (main argc delivered).acts.filter Act.isTest = []) ∧
    ((∀ option ∈ delivered, ¬ option.Ends) →
      main argc delivered = selectedRun delivered ∧
      (∀ other : List Delivered, (∀ option ∈ other, ¬ option.Ends) →
        (∀ letter ∈ selecting,
          letter ∈ other.map (·.opt) ↔ letter ∈ delivered.map (·.opt)) →
        lastFile other = lastFile delivered → main argc other = main argc delivered) ∧
      ∀ before after, delivered = before ++ .flag 'a' :: after →
        main argc (before ++ seven ++ after) = main argc delivered) := by
  refine ⟨main_ends called, fun goes_on => ⟨main_goes_on called goes_on, ?_, ?_⟩⟩
  · intro other other_on letters file
    rw [main_goes_on called goes_on, main_goes_on called other_on]
    apply selectedRun_congr _ file
    intro test
    rw [selected_iff, selected_iff, letters _ test.letter_mem, letters 'a' List.mem_cons_self]
  · rintro before after rfl
    have replaced_on : ∀ option ∈ before ++ seven ++ after, ¬ option.Ends := by
      intro option member
      rw [List.append_assoc, List.mem_append, List.mem_append] at member
      rcases member with early | added | late
      · exact goes_on option (List.mem_append_left _ early)
      · exact seven_goes_on option added
      · exact goes_on option (List.mem_append_right _ (List.mem_cons_of_mem _ late))
    rw [main_goes_on called goes_on, main_goes_on called replaced_on]
    exact selectedRun_congr (seven_selects before after) (seven_lastFile before after)

theorem main_runs_selected_cache :
    3 ≠ 1 ∧ main 3 [.flag 'c', ⟨'i', "first"⟩, .flag 'f', ⟨'i', "last"⟩, .flag 'c'] =
      ⟨[.testFileCache, .testFileMapSharedNoModify "last"], some 0⟩ :=
  ⟨by decide, ((main_runs_selected (show 3 ≠ 1 by decide) _).2
    (by simp only [Delivered.Ends]; decide)).1.trans rfl⟩

end MemoryDemo.System.Options
