import ClassFormat.FileSource
import Mathlib.Data.List.Induction
import Mathlib.Data.List.TakeWhile

/-!
# The search for class files

A path that leads to no directory stands for itself.  A directory stands for the regular files below
it whose names end in `.class`, in the order in which the search comes to them.  A search that comes
to an error finds nothing, whatever it had come to before (`FileSource.Finds`).
-/

namespace ClassFormat

/-! ## Names of class files -/

namespace Path

/-- The last name of the path has the extension `class` and something in front of the dot.  Behind
the name there may be slashes, with a dot behind each or without. -/
def HasClassName (path : String) : Prop :=
  ∃ (directory stem : List Char) (behind : List (List Char)),
    path.toList = directory ++ (stem ++ ".class".toList) ++ behind.flatten ∧
      (∀ last ∈ directory.getLast?, last = '/') ∧ stem ≠ [] ∧ '/' ∉ stem ∧
      ∀ part ∈ behind, part = ['/'] ∨ part = ['/', '.']

/-- A path with a last name consists of a directory, the name and slashes. -/
theorem exists_lastName {path : List Char} (named : lastName path ≠ []) :
    ∃ (directory : List Char) (behind : List (List Char)),
      path.reverse = directory ++ (lastName path).reverse ++ behind.flatten ∧
        (∀ last ∈ directory.getLast?, last = '/') ∧ '/' ∉ lastName path ∧
        ∀ part ∈ behind, part = ['/'] ∨ part = ['/', '.'] := by
  fun_induction lastName path with
  | case1 path ih =>
      rcases ih named with ⟨directory, behind, path_eq, above, noSlash, parts⟩
      refine ⟨directory, behind ++ [['/']], ?_, above, noSlash, ?_⟩
      · simp [path_eq]
      · rw [List.forall_mem_append]
        exact ⟨parts, by simp⟩
  | case2 path ih =>
      rcases ih named with ⟨directory, behind, path_eq, above, noSlash, parts⟩
      refine ⟨directory, behind ++ [['/', '.']], ?_, above, noSlash, ?_⟩
      · simp [path_eq]
      · rw [List.forall_mem_append]
        exact ⟨parts, by simp⟩
  | case3 => exact absurd rfl named
  | case4 path =>
      refine ⟨(path.dropWhile (· != '/')).reverse, [], ?_, ?_, ?_, List.forall_mem_nil _⟩
      · rw [List.flatten_nil, List.append_nil, ← List.reverse_append,
          List.takeWhile_append_dropWhile]
      · intro last
        rw [List.getLast?_reverse]
        intro isHead
        have stops := List.head?_dropWhile_not (· != '/') path
        rw [Option.mem_def.mp isHead] at stops
        simpa using stops
      · intro slash
        simpa using List.mem_takeWhile_imp slash

/-- A name that does not end in a dot is the last name of a path that consists of a directory, the
name and slashes. -/
theorem lastName_reverse {directory front : List Char} {last : Char} {behind : List (List Char)}
    (above : ∀ last ∈ directory.getLast?, last = '/') (noSlash : '/' ∉ front ++ [last])
    (noDot : last ≠ '.') (parts : ∀ part ∈ behind, part = ['/'] ∨ part = ['/', '.']) :
    lastName (directory ++ (front ++ [last]) ++ behind.flatten).reverse =
      (front ++ [last]).reverse := by
  induction behind using List.reverseRecOn with
  | nil =>
      rw [List.flatten_nil, List.append_nil, List.reverse_append]
      have ends : directory.reverse.takeWhile (· != '/') = [] := by
        cases directory using List.reverseRecOn with
        | nil => rfl
        | append_singleton directory last => simp [above last (by simp)]
      have plain : ∀ char ∈ (front ++ [last]).reverse, (char != '/') = true := by
        intro char mem
        rw [bne_iff_ne]
        rintro rfl
        exact noSlash (List.mem_reverse.mp mem)
      have notSlash : last ≠ '/' := by
        rintro rfl
        exact noSlash (by simp)
      calc lastName ((front ++ [last]).reverse ++ directory.reverse)
        _ = ((front ++ [last]).reverse ++ directory.reverse).takeWhile (· != '/') := by
            rw [List.reverse_concat, List.cons_append, lastName]
            all_goals simp [noDot, notSlash]
        _ = (front ++ [last]).reverse := by
            rw [List.takeWhile_append_of_pos plain, ends, List.append_nil]
  | append_singleton behind part ih =>
      rw [List.forall_mem_append, List.forall_mem_singleton] at parts
      rw [List.flatten_append, ← List.append_assoc, List.reverse_append]
      rcases parts.2 with rfl | rfl
      · exact ih parts.1
      · exact ih parts.1

theorem extensionOf_eq_class_iff {name : List Char} :
    extensionOf name = some "class".toList.reverse ↔
      ∃ stem, stem ≠ [] ∧ name = "class".toList.reverse ++ '.' :: stem := by
  constructor
  · intro found
    have split := List.takeWhile_append_dropWhile (p := (· != '.')) (l := name)
    have stops := List.head?_dropWhile_not (· != '.') name
    unfold extensionOf at found
    cases dropped : name.dropWhile (· != '.') with
    | nil => simp [dropped] at found
    | cons dot stem =>
        cases stem with
        | nil => simp [dropped] at found
        | cons char stem =>
            rw [dropped] at found split stops
            obtain rfl : dot = '.' := by simpa using stops
            by_cases dots : name = ['.', '.']
            · simp [dots] at found
            · simp only [dots, if_false, Option.some.injEq] at found
              exact ⟨char :: stem, List.cons_ne_nil _ _, by rw [← found, split]⟩
  · rintro ⟨stem, nonempty, rfl⟩
    rcases List.exists_cons_of_ne_nil nonempty with ⟨char, front, rfl⟩
    rfl

theorem extension?_eq_class_iff {path : String} :
    extension? path = some "class" ↔ HasClassName path := by
  have reversed : extension? path = some "class" ↔
      extensionOf (lastName path.toList.reverse) = some "class".toList.reverse := by
    rw [extension?, Option.map_eq_some_iff]
    constructor
    · rintro ⟨extension, found, same⟩
      rw [found, ← same, String.toList_ofList, List.reverse_reverse]
    · intro found
      exact ⟨_, found, by rw [List.reverse_reverse, String.ofList_toList]⟩
  rw [reversed, extensionOf_eq_class_iff]
  constructor
  · rintro ⟨stem, nonempty, name_eq⟩
    have named : lastName path.toList.reverse ≠ [] := by simp [name_eq]
    rcases exists_lastName named with ⟨directory, behind, path_eq, above, noSlash, parts⟩
    rw [name_eq] at path_eq noSlash
    refine ⟨directory, stem.reverse, behind, ?_, above, ?_, ?_, parts⟩
    · simpa using path_eq
    · exact List.reverse_ne_nil_iff.mpr nonempty
    · intro slash
      exact noSlash (List.mem_append_right _ (.tail _ (List.mem_reverse.mp slash)))
  · rintro ⟨directory, stem, behind, path_eq, above, nonempty, noSlash, parts⟩
    refine ⟨stem.reverse, List.reverse_ne_nil_iff.mpr nonempty, ?_⟩
    have name_eq : stem ++ ".class".toList = (stem ++ ".clas".toList) ++ ['s'] := by simp
    rw [path_eq, name_eq, lastName_reverse above _ (by decide) parts]
    · simp
    · simpa using noSlash

end Path

/-! ## Directories -/

namespace WalkEntry

/-- A regular file with the name of a class file. -/
def IsClassFile (entry : WalkEntry) : Prop :=
  entry.isFile = true ∧ Path.HasClassName entry.path

theorem isClassFile_iff (entry : WalkEntry) :
    entry.isClassFile = true ↔ entry.IsClassFile := by
  rw [isClassFile, Bool.and_eq_true, beq_iff_eq, Path.extension?_eq_class_iff, IsClassFile]

instance : DecidablePred IsClassFile :=
  fun entry => decidable_of_iff _ entry.isClassFile_iff

/-- The paths of the class files among entries, in order. -/
def classFiles (entries : List WalkEntry) : List String :=
  (entries.filter fun entry => decide entry.IsClassFile).map path

theorem classFiles_cons (entry : WalkEntry) (entries : List WalkEntry) :
    classFiles (entry :: entries) =
      if entry.isClassFile then entry.path :: classFiles entries else classFiles entries := by
  have same : decide entry.IsClassFile = entry.isClassFile := by
    rw [Bool.eq_iff_iff, decide_eq_true_iff, isClassFile_iff]
  cases collected : entry.isClassFile with
  | false => simp [classFiles, same, collected]
  | true => simp [classFiles, same, collected]

end WalkEntry

namespace FileSource

/-- What a path stands for: files, or the reason why a directory cannot be searched. -/
inductive Finds (source : FileSource Id) (path : String) : Except String (List String) → Prop where
  | itself (single : (source.isDirectory path).run = false) : Finds source path (.ok [path])
  | below {entries : List WalkEntry} (directory : (source.isDirectory path).run = true)
      (walked : (source.walk path).run = entries.map .ok) :
      Finds source path (.ok (WalkEntry.classFiles entries))
  | stuck {entries : List WalkEntry} {reason : String} {later : List (Except String WalkEntry)}
      (directory : (source.isDirectory path).run = true)
      (walked : (source.walk path).run = entries.map .ok ++ .error reason :: later) :
      Finds source path (.error reason)

theorem collect_of_walked (found : Array String) (entries : List WalkEntry) :
    collect found (entries.map .ok) = .ok (found.toList ++ WalkEntry.classFiles entries) := by
  induction entries generalizing found with
  | nil => simp [collect, WalkEntry.classFiles]
  | cons entry entries ih =>
      rw [List.map_cons, collect, ih, WalkEntry.classFiles_cons]
      cases entry.isClassFile with
      | false => rfl
      | true => simp

theorem collect_of_stuck (found : Array String) (entries : List WalkEntry) (reason : String)
    (later : List (Except String WalkEntry)) :
    collect found (entries.map .ok ++ .error reason :: later) = .error reason := by
  induction entries generalizing found with
  | nil => rfl
  | cons entry entries ih => exact ih _

/-- A search comes to entries only, or to an error behind some entries. -/
theorem walked_or_stuck (walked : List (Except String WalkEntry)) :
    (∃ entries, walked = List.map .ok entries) ∨
      ∃ entries reason later, walked = List.map .ok entries ++ .error reason :: later := by
  induction walked with
  | nil => exact .inl ⟨[], rfl⟩
  | cons first walked ih =>
      cases first with
      | error reason => exact .inr ⟨[], reason, walked, rfl⟩
      | ok entry =>
          rcases ih with ⟨entries, rfl⟩ | ⟨entries, reason, later, rfl⟩
          · exact .inl ⟨entry :: entries, rfl⟩
          · exact .inr ⟨entry :: entries, reason, later, rfl⟩

theorem classFilesIn_run (source : FileSource Id) (path : String) :
    (source.classFilesIn path).run =
      if (source.isDirectory path).run then collect #[] (source.walk path).run
      else .ok [path] := by
  unfold classFilesIn
  cases directory : (source.isDirectory path).run with
  | false => simp [directory]
  | true => simp [directory]

/-- The search gives what the path stands for. -/
theorem finds_iff {source : FileSource Id} {path : String}
    {result : Except String (List String)} :
    source.Finds path result ↔ (source.classFilesIn path).run = result := by
  rw [classFilesIn_run]
  constructor
  · rintro (single | ⟨directory, walked⟩ | ⟨directory, walked⟩)
    · rw [single]
      rfl
    · rw [directory, walked, if_pos rfl, collect_of_walked]
      rfl
    · rw [directory, walked, if_pos rfl, collect_of_stuck]
  · rintro rfl
    cases directory : (source.isDirectory path).run with
    | false => exact .itself directory
    | true =>
        rw [if_pos rfl]
        rcases walked_or_stuck (source.walk path).run with
          ⟨entries, walked⟩ | ⟨entries, reason, later, walked⟩
        · rw [walked, collect_of_walked]
          exact .below directory walked
        · rw [walked, collect_of_stuck]
          exact .stuck directory walked

end FileSource

end ClassFormat
