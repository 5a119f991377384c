import ClassFormat.Batch
import ClassFormat.Proofs.ClassFileCodec
import ClassFormat.Proofs.FileSearch
import Mathlib.Data.List.Forall2

/-!
# The report of a batch

A path stands for files, and every file contributes a summary or an error, which depends on its
content alone.  A directory that cannot be searched contributes one error and no file
(`FileSource.Contributes`).  The report of a batch is put together from the contributions in order:
summaries make up the output, errors make up the records, and each record is counted as a failure.

Writing a class file again after it has been opened gives the same bytes, so that asking for the
round trip adds a line to each block and never adds an error.  `Batch.run_eq_contributions` says all
this at once.
-/

namespace ClassFormat

/-! ## Contributions -/

/-- What a file or a directory contributes to a report: a summary or an error. -/
structure Contribution where
  path : String
  result : Except BatchError String

namespace Contribution

/-- The block of a file.  It has one more line if the round trip is asked for. -/
def blockText (verify : Bool) (path summary : String) : String :=
  s!"Classfile {path}\n" ++ summary ++ (if verify then "round trip: identical\n" else "") ++ "\n"

/-- The text on the output. -/
def block? (verify : Bool) : Contribution → Option String
  | ⟨path, .ok summary⟩ => some (blockText verify path summary)
  | ⟨_, .error _⟩ => none

/-- The error record. -/
def record? : Contribution → Option String
  | ⟨_, .ok _⟩ => none
  | ⟨path, .error error⟩ => some s!"{path}: {error.message}\n"

end Contribution

/-- What a file contributes: it is read, opened and summarized, and the first of these that fails is
the error. -/
inductive FileContributes (path : String) : Except FileError Bytes → Contribution → Prop where
  | listed {bytes : Bytes} {fresh : Identity} {document : Document} {summary : String}
      (opened : (Document.parse fresh .reject bytes).result = .ok document)
      (summarized : document.file.summary = .ok summary) :
      FileContributes path (.ok bytes) ⟨path, .ok summary⟩
  | unreadable (error : FileError) :
      FileContributes path (.error error) ⟨path, .error (.unreadable error)⟩
  | undecodable {bytes : Bytes} {fresh : Identity} {error : DecodeError}
      (refused : (Document.parse fresh .reject bytes).result = .error error) :
      FileContributes path (.ok bytes) ⟨path, .error (.undecodable error)⟩
  | unsummarizable {bytes : Bytes} {fresh : Identity} {document : Document} {error : Unresolved}
      (opened : (Document.parse fresh .reject bytes).result = .ok document)
      (unresolved : document.file.summary = .error error) :
      FileContributes path (.ok bytes) ⟨path, .error (.unsummarizable error)⟩

/-- What a path contributes: the contributions of the files that it stands for, or one error. -/
inductive FileSource.Contributes (source : FileSource Id) (path : String) :
    List Contribution → Prop where
  | files {files : List String} {contributions : List Contribution}
      (found : source.Finds path (.ok files))
      (contribute : List.Forall₂ (fun file => FileContributes file (source.read file).run) files
        contributions) :
      Contributes source path contributions
  | untraversable {reason : String} (stuck : source.Finds path (.error reason)) :
      Contributes source path [⟨path, .error (.untraversable reason)⟩]

/-! ## Contributions as functions -/

namespace Contribution

/-- The result for a content, from what it decodes to. -/
def resultOf : Except FileError Bytes → Except BatchError String
  | .error error => .error (.unreadable error)
  | .ok bytes =>
      match ClassFile.decode .reject bytes with
      | .error error => .error (.undecodable error)
      | .ok file => file.summary.mapError .unsummarizable

/-- The contributions of a path, from what its search gives. -/
def ofPath (source : FileSource Id) (path : String) : List Contribution :=
  match (source.classFilesIn path).run with
  | .ok files => files.map fun file => ⟨file, resultOf (source.read file).run⟩
  | .error reason => [⟨path, .error (.untraversable reason)⟩]

end Contribution

theorem fileContributes_iff (path : String) (content : Except FileError Bytes)
    (contribution : Contribution) :
    FileContributes path content contribution ↔
      contribution = ⟨path, Contribution.resultOf content⟩ := by
  constructor
  · intro contributes
    cases contributes with
    | unreadable error => rfl
    | @listed bytes fresh document summary opened summarized =>
        have decoded := Document.map_file_parse fresh .reject bytes
        rw [opened] at decoded
        simp [Contribution.resultOf, ← decoded, Except.map, summarized, Except.mapError]
    | @undecodable bytes fresh error refused =>
        have decoded := Document.map_file_parse fresh .reject bytes
        rw [refused] at decoded
        simp [Contribution.resultOf, ← decoded, Except.map]
    | @unsummarizable bytes fresh document error opened unresolved =>
        have decoded := Document.map_file_parse fresh .reject bytes
        rw [opened] at decoded
        simp [Contribution.resultOf, ← decoded, Except.map, unresolved, Except.mapError]
  · rintro rfl
    cases content with
    | error error => exact .unreadable error
    | ok bytes =>
        rw [Contribution.resultOf, ← Document.map_file_parse ⟨0⟩]
        cases opened : (Document.parse ⟨0⟩ .reject bytes).result with
        | error error => exact .undecodable opened
        | ok document =>
            simp only [Except.map]
            cases summarized : document.file.summary with
            | error error => exact .unsummarizable opened summarized
            | ok summary => exact .listed opened summarized

/-- A relation that is a function relates a list to its image. -/
theorem forall₂_iff_eq_map {α β : Type} {related : α → β → Prop} {image : α → β}
    (related_iff : ∀ element value, related element value ↔ value = image element)
    {elements : List α} {values : List β} :
    List.Forall₂ related elements values ↔ values = elements.map image := by
  have same : related = fun element value => image element = value := by
    funext element value
    exact propext ((related_iff element value).trans eq_comm)
  rw [same, ← List.forall₂_map_left_iff, List.forall₂_eq_eq_eq]
  exact eq_comm

theorem FileSource.contributes_iff (source : FileSource Id) (path : String)
    (contributions : List Contribution) :
    source.Contributes path contributions ↔ contributions = Contribution.ofPath source path := by
  constructor
  · intro contributes
    cases contributes with
    | files found contribute =>
        rw [Contribution.ofPath, finds_iff.mp found]
        exact (forall₂_iff_eq_map fun file => fileContributes_iff file _).mp contribute
    | untraversable stuck => rw [Contribution.ofPath, finds_iff.mp stuck]
  · rintro rfl
    rw [Contribution.ofPath]
    cases searched : (source.classFilesIn path).run with
    | error reason => exact .untraversable (finds_iff.mpr searched)
    | ok files =>
        exact .files (finds_iff.mpr searched)
          ((forall₂_iff_eq_map fun file => fileContributes_iff file _).mpr rfl)

namespace Batch

/-! ## Blocks -/

/-- Asking for the round trip of a class file that was opened always finds the same bytes. -/
theorem roundTripLine_of_opened {fresh : Identity} {bytes : Bytes} {document : Document}
    (opened : (Document.parse fresh .reject bytes).result = .ok document) :
    roundTripLine document.file bytes = .ok "round trip: identical\n" := by
  simp [roundTripLine, Document.encode_of_opened opened]

/-- The block of a file shows its summary, whether the round trip is asked for or not. -/
theorem block_eq (verify : Bool) (path : String) (content : Except FileError Bytes) :
    block verify path content =
      (Contribution.resultOf content).map (Contribution.blockText verify path) := by
  cases content with
  | error error => rfl
  | ok bytes =>
      have decoded := Document.map_file_parse ⟨0⟩ .reject bytes
      simp only [block, Contribution.resultOf, ← decoded, bind, Except.bind, Except.mapError]
      cases opened : (Document.parse ⟨0⟩ .reject bytes).result with
      | error error => rfl
      | ok document =>
          simp only [Except.map]
          cases document.file.summary with
          | error error => rfl
          | ok summary =>
              cases verify with
              | false => rfl
              | true =>
                  simp only [roundTripLine_of_opened opened]
                  rfl

/-- A class file that was opened can be written, so no block fails for an error of writing. -/
theorem block_ne_unencodable (verify : Bool) (path : String) (content : Except FileError Bytes)
    (cause : EncodeError) : block verify path content ≠ .error (.unencodable cause) := by
  rw [block_eq]
  cases content with
  | error error => simp [Contribution.resultOf, Except.map]
  | ok bytes =>
      simp only [Contribution.resultOf]
      cases ClassFile.decode .reject bytes with
      | error error => simp [Except.map]
      | ok file =>
          cases summarized : file.summary with
          | error error => simp [summarized, Except.map, Except.mapError]
          | ok summary => simp [summarized, Except.map, Except.mapError]

/-! ## Reports -/

/-- The report shows contributions: blocks and records in their order, and each record counted. -/
structure Report.Shows (verify : Bool) (report : Report) (contributions : List Contribution) :
    Prop where
  output : report.output = String.join (contributions.filterMap (Contribution.block? verify))
  errors : report.errors = contributions.filterMap Contribution.record?
  failures : report.failures = report.errors.length

namespace Report.Shows

variable {verify : Bool} {report : Report} {shown : List Contribution}

theorem start : Report.Shows verify {} [] :=
  ⟨rfl, rfl, rfl⟩

theorem print (shows : report.Shows verify shown) (path summary : String) :
    (report.print (Contribution.blockText verify path summary)).Shows verify
      (shown ++ [⟨path, .ok summary⟩]) := by
  refine ⟨?_, ?_, shows.failures⟩
  · simp [Report.print, shows.output, Contribution.block?, String.join_append]
  · simp [Report.print, shows.errors, Contribution.record?]

theorem fail (shows : report.Shows verify shown) (path : String) (error : BatchError) :
    (report.record path error).countFailure.Shows verify (shown ++ [⟨path, .error error⟩]) := by
  refine ⟨?_, ?_, ?_⟩
  · simp [Report.countFailure, Report.record, shows.output, Contribution.block?,
      List.filterMap_cons]
  · simp [Report.countFailure, Report.record, shows.errors, Contribution.record?]
  · simp [Report.countFailure, Report.record, shows.failures]

/-- A file adds its contribution. -/
theorem addFile (shows : report.Shows verify shown) (source : FileSource Id) (path : String) :
    (Batch.addFile source verify report path).run.Shows verify
      (shown ++ [⟨path, Contribution.resultOf (source.read path).run⟩]) := by
  simp only [Batch.addFile, Id.run_bind, block_eq]
  cases Contribution.resultOf (source.read path).run with
  | ok summary => exact shows.print path summary
  | error error => exact shows.fail path error

theorem addFiles (shows : report.Shows verify shown) (source : FileSource Id)
    (files : List String) :
    (files.foldlM (Batch.addFile source verify) report).run.Shows verify
      (shown ++ files.map fun file => ⟨file, Contribution.resultOf (source.read file).run⟩) := by
  induction files generalizing report shown with
  | nil => simpa using shows
  | cons file files ih => simpa using ih (shows.addFile source file)

/-- A path adds its contributions. -/
theorem addPath (shows : report.Shows verify shown) (source : FileSource Id) (path : String) :
    (Batch.addPath source verify report path).run.Shows verify
      (shown ++ Contribution.ofPath source path) := by
  simp only [Batch.addPath, Id.run_bind, Contribution.ofPath]
  cases (source.classFilesIn path).run with
  | ok files => exact shows.addFiles source files
  | error reason => exact shows.fail path (.untraversable reason)

theorem addPaths (shows : report.Shows verify shown) (source : FileSource Id)
    (paths : List String) :
    (paths.foldlM (Batch.addPath source verify) report).run.Shows verify
      (shown ++ (paths.map (Contribution.ofPath source)).flatten) := by
  induction paths generalizing report shown with
  | nil => simpa using shows
  | cons path paths ih => simpa using ih (shows.addPath source path)

end Report.Shows

/-- The paths of a batch have their contributions whether the round trip is asked for or not: a file
its summary or its error, and a directory that cannot be searched one error and no file.  The output
consists of the blocks of those that are listed, in order, and the errors are the records of those
that failed.  As many failures are counted as there are records, and the status is a failure exactly
if there is a record.  A round trip never differs and never fails. -/
theorem run_eq_contributions (source : FileSource Id) (paths : List String) :
    (∃! contributions, List.Forall₂ source.Contributes paths contributions) ∧
      (∀ contributions, List.Forall₂ source.Contributes paths contributions →
        ∀ verify,
          let report := (run source verify paths).run
          report.output =
              String.join (contributions.flatten.filterMap (Contribution.block? verify)) ∧
            report.errors = contributions.flatten.filterMap Contribution.record? ∧
            report.errorText = String.join report.errors ∧
            report.failures = report.errors.length ∧
            (report.status = 1 ↔ report.errors ≠ []) ∧
            (report.status = 0 ↔ report.errors = [])) ∧
      (∀ fresh bytes document, (Document.parse fresh .reject bytes).result = .ok document →
        roundTripLine document.file bytes = .ok "round trip: identical\n") ∧
      ∀ verify path content cause, block verify path content ≠ .error (.unencodable cause) := by
  have contributions_iff : ∀ contributions,
      List.Forall₂ source.Contributes paths contributions ↔
        contributions = paths.map (Contribution.ofPath source) :=
    fun _ => forall₂_iff_eq_map source.contributes_iff
  refine ⟨?_, ?_, fun _ _ _ => roundTripLine_of_opened, block_ne_unencodable⟩
  · simp only [contributions_iff, existsUnique_eq]
  · intro contributions contribute verify report
    rw [contributions_iff] at contribute
    subst contribute
    have shows : report.Shows verify _ := Report.Shows.start.addPaths source paths
    have counted := shows.failures
    refine ⟨shows.output, shows.errors, rfl, counted, ?_, ?_⟩
    · simp [Report.status, counted]
    · simp [Report.status, counted]

/-- A directory with an empty file, a directory named like a class file, a class file in it and a
file of another name; a directory whose search gets stuck behind a class file; and a path that leads
nowhere.  There is one block, and there are three records. -/
theorem run_eq_contributions_sample :
    let source : FileSource Id :=
      { isDirectory := fun path => path == "d" || path == "e"
        walk := fun path =>
          if path = "d" then
            [.ok ⟨"d", false⟩, .ok ⟨"d/B.class", true⟩, .ok ⟨"d/a.class", false⟩,
              .ok ⟨"d/a.class/A.class", true⟩, .ok ⟨"d/notes", true⟩]
          else [.ok ⟨"e", false⟩, .ok ⟨"e/A.class", true⟩, .error "denied"]
        read := fun path =>
          if path = "C.class" then .error .notFound
          else if path = "d/B.class" then .ok [] else .ok Document.sampleBytes }
    let summary :=
      "  version: 65.0\n  flags: PUBLIC SUPER\n  this class: A\n  super class: (none)\n" ++
        "  interfaces: A\n  fields:\n    A: A [PRIVATE] attributes: A\n  methods: (none)\n" ++
        "  attributes: (none)\n"
    let paths := ["d", "e", "C.class"]
    let contributions : List (List Contribution) :=
      [[⟨"d/B.class", .error (.undecodable .unexpectedEnd)⟩, ⟨"d/a.class/A.class", .ok summary⟩],
        [⟨"e", .error (.untraversable "denied")⟩], [⟨"C.class", .error (.unreadable .notFound)⟩]]
    List.Forall₂ source.Contributes paths contributions ∧
      (run source true paths).run.output =
        String.join
          ["Classfile d/a.class/A.class\n" ++ summary ++ "round trip: identical\n" ++ "\n"] ∧
      (run source true paths).run.errors =
        ["d/B.class: Malformed class file: Unexpected end of input\n",
          "e: Directory traversal error: denied\n",
          "C.class: I/O error: No such file or directory (os error 2)\n"] ∧
      (run source true paths).run.status = 1 := by
  intro source summary paths contributions
  have refused : (Document.parse ⟨0⟩ .reject []).result = .error .unexpectedEnd := rfl
  have opened : (Document.parse ⟨0⟩ .reject Document.sampleBytes).result =
      .ok ⟨⟨0⟩, Document.sampleFile⟩ := rfl
  have summarized : Document.sampleFile.summary = .ok summary := by decide +kernel
  have walked : (source.walk "d").run =
      List.map .ok [⟨"d", false⟩, ⟨"d/B.class", true⟩, ⟨"d/a.class", false⟩,
        ⟨"d/a.class/A.class", true⟩, ⟨"d/notes", true⟩] := rfl
  have stuck : (source.walk "e").run =
      List.map .ok [⟨"e", false⟩, ⟨"e/A.class", true⟩] ++ [.error "denied"] := rfl
  have contribute : List.Forall₂ source.Contributes paths contributions :=
    .cons (.files (.below rfl walked)
        (.cons (.undecodable refused) (.cons (.listed opened summarized) .nil)))
      (.cons (.untraversable (.stuck rfl stuck))
        (.cons (.files (.itself rfl) (.cons (.unreadable _) .nil)) .nil))
  rcases (run_eq_contributions source paths).2.1 contributions contribute true with
    ⟨output, errors, _, _, failure, _⟩
  exact ⟨contribute, output, errors, failure.mpr (by rw [errors]; exact List.cons_ne_nil _ _)⟩

end Batch

end ClassFormat
