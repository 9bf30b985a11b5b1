import ConfigGate.Command.Program
import ConfigGate.Proofs.Command.Outcome
import ConfigGate.Proofs.Report.RoundTrip
import Mathlib.Control.Monad.Basic

/-!
# The exit code and the report

A run of the checks leaves a report and an exit code, and both say the same. A run that works leaves
the report of its verdict. A run that fails, at whatever point, leaves a report that tells the whole
of the failure, also when the report of a verdict was already written: nothing that is saved after
the report stands in the way of writing it again.

What is shown is shown when the report is there. A stream that refuses it breaks the run off, with
an exit code of its own beside the same report.

It is assumed that the report can be saved at the start and that the other files of the run are
other files. Nothing is assumed of the files and variables that the run reads.

Results:
1. `stands_saveAll`: the report stands while other files are saved;
2. `attemptCheck_leaves`: a run fails where the report can still be saved, or leaves its report;
3. `program_check_agrees`: what report is found afterwards, and that the exit code is the one of it.
-/

namespace ConfigGate

open World

/-! ## The report of a run -/

namespace Gate

theorem Finds.exists_check {schema : Schema} {context : Context} {policy : Policy}
    {finding : Finding} (finds : Finds schema context policy finding) :
    ∃ check : Check, finding.checkId = check.id := by
  cases finds with
  | missing _ _ _ _ => exact ⟨.required, rfl⟩
  | undeclared _ _ _ _ _ => exact ⟨.enumValue, rfl⟩
  | broken _ _ _ => exact ⟨.invariantRule, rfl⟩
  | violated _ _ _ _ => exact ⟨_, rfl⟩

end Gate

/-- `report.TellsFailure message`: the verdict is a failure, and the one finding is that the run did
not work, with this message. -/
def Report.TellsFailure (report : Report) (message : String) : Prop :=
  report.verdict = .fail ∧
    ∃ finding, report.findings = [finding] ∧ finding.checkId = "tool.runtime" ∧
      finding.message = message

namespace Command

section Concludes

variable {world : World} {common : CommonOptions} {outcome : RunOutcome}

theorem Concludes.read_text (concludes : Concludes world common outcome) :
    Report.read outcome.report.text = .ok outcome.report := by
  obtain ⟨_, _, _, _, -, -, -, -, rfl⟩ := concludes
  exact Report.read_text_of_conclude _ _ _ _ _ _

/-- The report of an evaluation has findings of the checks only. -/
theorem Concludes.checkId_ne (concludes : Concludes world common outcome) :
    ∀ finding ∈ outcome.report.findings, finding.checkId ≠ "tool.runtime" := by
  obtain ⟨_, _, _, _, -, -, -, -, rfl⟩ := concludes
  intro finding member
  obtain ⟨shown, emitted, rfl⟩ := List.mem_map.mp member
  have found := Finding.mem_sort.mp (List.mem_of_mem_take emitted)
  obtain ⟨check, ofCheck⟩ := (Gate.mem_allFindings_iff.mp found).exists_check
  show shown.checkId ≠ _
  rw [ofCheck]
  cases check <;> decide

end Concludes

/-! ## What a run shows -/

/-- `Refuses takes written texts`: a stream that holds `written` cannot take one of these texts
behind those before it. -/
def Refuses (takes : String → Bool) (written : String) (texts : List String) : Prop :=
  ∃ shown text later, texts = shown ++ text :: later ∧
    takes (written ++ String.join shown ++ text) = false

theorem refuses_cons_iff {takes : String → Bool} {written text : String} {rest : List String} :
    Refuses takes written (text :: rest) ↔
      takes (written ++ text) = false ∨ Refuses takes (written ++ text) rest := by
  constructor
  · rintro ⟨shown, refused, later, same, refuses⟩
    cases shown with
    | nil =>
        obtain ⟨rfl, rfl⟩ := List.cons.inj same
        exact .inl (by simpa using refuses)
    | cons _ shown =>
        obtain ⟨rfl, rfl⟩ := List.cons.inj same
        exact .inr ⟨shown, refused, later, rfl, by simpa [String.append_assoc] using refuses⟩
  · rintro (refuses | ⟨shown, refused, later, rfl, refuses⟩)
    · exact ⟨[], text, rest, rfl, by simpa using refuses⟩
    · exact ⟨text :: shown, refused, later, rfl, by simpa [String.append_assoc] using refuses⟩

/-- Writing to the output keeps the files. It works unless the output refuses what is written. -/
theorem writeAll_print (texts : List String) (world : World) :
    ∃ done after, Host.writeAll World.host.print texts world = (done, after) ∧
      after.files = world.files ∧
      (done = false ↔ Refuses world.outputTakes world.output texts) := by
  induction texts generalizing world with
  | nil =>
      refine ⟨true, world, rfl, rfl, nofun, ?_⟩
      rintro ⟨shown, _, _, none, -⟩
      exact absurd none (by simp)
  | cons text rest ih =>
      have first : World.host.print text world = world.print text := rfl
      rw [Host.writeAll, bind_apply, first, World.print]
      simp only [refuses_cons_iff]
      cases taken : world.outputTakes (world.output ++ text) with
      | false => exact ⟨false, world, rfl, rfl, fun _ => .inl rfl, fun _ => rfl⟩
      | true =>
          obtain ⟨done, after, written, files, refuses⟩ :=
            ih { world with output := world.output ++ text }
          exact ⟨done, after, written, files, refuses.trans (by simp)⟩

/-- A program that ends with writing to the output breaks off exactly if that is refused. -/
theorem endWith_print (code : UInt32) (texts : List String) (world : World) :
    ∃ ending after, Host.endWith World.host.print code texts world = (ending, after) ∧
      after.files = world.files ∧
      (Refuses world.outputTakes world.output texts → ending = 101) ∧
      (¬Refuses world.outputTakes world.output texts → ending = code) := by
  obtain ⟨done, after, written, files, refuses⟩ := writeAll_print texts world
  rw [Host.endWith, bind_apply, written, ← refuses]
  cases done with
  | false => exact ⟨101, after, rfl, files, fun _ => rfl, fun other => absurd rfl other⟩
  | true => exact ⟨code, after, rfl, files, nofun, fun _ => rfl⟩

theorem endWith_printError (code : UInt32) (text : String) (world : World) :
    ∃ ending after, Host.endWith World.host.printError code [text] world = (ending, after) ∧
      after.files = world.files ∧
      (world.errorOutputTakes (world.errorOutput ++ text) = false → ending = 101) ∧
      (¬world.errorOutputTakes (world.errorOutput ++ text) = false → ending = code) := by
  have first : World.host.printError text world = world.printError text := rfl
  rw [Host.endWith, bind_apply, Host.writeAll, bind_apply, first, World.printError]
  cases world.errorOutputTakes (world.errorOutput ++ text) with
  | false => exact ⟨101, world, rfl, rfl, fun _ => rfl, fun other => absurd rfl other⟩
  | true =>
      exact ⟨code, { world with errorOutput := world.errorOutput ++ text }, rfl, rfl, nofun,
        fun _ => rfl⟩

/-! ## What a run writes -/

/-- The other files that a run may write after its report. -/
def CheckOptions.otherFiles (options : CheckOptions) : List String :=
  (if options.writeMarkdown then [options.markdownOut] else []) ++ options.snapshotOut.toList

/-- A file stands while others are saved, whether that works or not. -/
theorem stands_saveAll {directory : Place} {path text : String} {files : List OutputFile}
    {tree : FileTree} (stands : tree.Stands directory path text)
    (apart : ∀ file ∈ files,
      FileTree.placeOf directory file.path ≠ FileTree.placeOf directory path) :
    (saveAll directory files tree).2.Stands directory path text := by
  induction files generalizing tree with
  | nil => exact stands
  | cons file rest ih =>
      have kept := stands.of_save (apart file List.mem_cons_self) file.text
      rw [saveAll]
      rcases saved : tree.save directory file.path file.text with ⟨cause | ⟨⟩, after⟩
      · rwa [saved] at kept
      · rw [saved] at kept
        exact ih kept fun other member => apart other (List.mem_cons_of_mem file member)

/-- Of the files of a run the report is the first one, and the others are as `otherFiles` says. -/
theorem outputFiles_eq (options : CheckOptions) (outcome : RunOutcome) :
    ∃ others, outputFiles options outcome =
        ⟨"write report json", options.reportOut, outcome.report.text⟩ :: others ∧
      others.map OutputFile.path = options.otherFiles := by
  refine ⟨_, rfl, ?_⟩
  unfold CheckOptions.otherFiles
  cases options.writeMarkdown <;> cases options.snapshotOut <;> rfl

/-- The report of a conclusion is saved where it can be, and stands when the run is through with its
files. -/
theorem saveAll_outputFiles {options : CheckOptions} {directory : Place} {tree : FileTree}
    (savable : tree.Savable directory options.reportOut)
    (apart : ∀ path ∈ options.otherFiles,
      FileTree.placeOf directory path ≠ FileTree.placeOf directory options.reportOut)
    (outcome : RunOutcome) :
    (saveAll directory (outputFiles options outcome) tree).2.Stands directory options.reportOut
      outcome.report.text := by
  obtain ⟨others, files, paths⟩ := outputFiles_eq options outcome
  obtain ⟨worked, stands⟩ := FileTree.stands_of_savable savable outcome.report.text
  rw [files, saveAll]
  rcases saved : tree.save directory options.reportOut outcome.report.text with ⟨cause | ⟨⟩, after⟩
  · rw [saved] at worked
    cases worked
  · rw [saved] at stands
    refine stands_saveAll stands fun file member => apart _ ?_
    exact paths ▸ List.mem_map_of_mem member

/-! ## A run -/

variable {common : CommonOptions} {options : CheckOptions} {world : World}

/-- A run changes nothing but files until it shows something. It fails where the report can still be
saved, or leaves the report of what it concludes. -/
theorem attemptCheck_leaves (common : CommonOptions)
    (savable : world.files.Savable world.directory options.reportOut)
    (apart : ∀ path ∈ options.otherFiles,
      FileTree.placeOf world.directory path ≠
        FileTree.placeOf world.directory options.reportOut) :
    ∃ result files, attempt (attemptCheck World.host common options) world =
        (result, { world with files }) ∧
      ((∃ error, result = .error error ∧ files.Savable world.directory options.reportOut) ∨
        ∃ outcome, Concludes world common outcome ∧
          result = .ok (outcome.report.verdict, checkOutput options outcome.report.view) ∧
          files.Stands world.directory options.reportOut outcome.report.text) := by
  rw [attempt_attemptCheck]
  cases result : concluded world common with
  | error error => exact ⟨_, world.files, rfl, .inl ⟨error, rfl, savable⟩⟩
  | ok outcome =>
      have stands := saveAll_outputFiles savable apart outcome
      refine ⟨_, _, rfl, ?_⟩
      cases (saveAll world.directory (outputFiles options outcome) world.files).1 with
      | error error => exact .inl ⟨error, rfl, stands.savable⟩
      | ok => exact .inr ⟨outcome, concluded_eq_ok_iff.mp result, rfl, stands⟩

theorem runCheck_of_ok {verdict : Verdict} {texts : List String} {after : World}
    (done : attempt (attemptCheck World.host common options) world =
      (.ok (verdict, texts), after)) :
    runCheck World.host common options world =
      Host.endWith World.host.print verdict.exitCode texts after := by
  unfold runCheck
  rw [bind_apply, ← attempt, done]

theorem runCheck_of_error {error : RunError} {after : World}
    (done : attempt (attemptCheck World.host common options) world = (.error error, after)) :
    runCheck World.host common options world =
      reportFailure World.host options error.failure after := by
  unfold runCheck
  rw [bind_apply, ← attempt, done]

theorem reportFailure_eq (options : CheckOptions) (failure : Failure) (world : World) :
    reportFailure World.host options failure world =
      Host.endWith World.host.printError 1 [errorLine failure.line] { world with
        files := (world.files.save world.directory options.reportOut
          (Report.ofRuntimeError world.now failure.line).text).2 } := by
  have told : reportFailure World.host options failure world =
      Host.endWith World.host.printError 1 [errorLine failure.line]
        (attempt (World.host.save options.reportOut
          (Report.ofRuntimeError world.now failure.line).text) world).2 := rfl
  rw [told, attempt_save]

/-- A failure is told in the place of the report. -/
theorem reportFailure_leaves (world : World)
    (savable : world.files.Savable world.directory options.reportOut) (failure : Failure) :
    ∃ code after, reportFailure World.host options failure world = (code, after) ∧
      after.files.Stands world.directory options.reportOut
        (Report.ofRuntimeError world.now failure.line).text ∧
      (world.errorOutputTakes (world.errorOutput ++ errorLine failure.line) = false →
        code = 101) ∧
      (¬world.errorOutputTakes (world.errorOutput ++ errorLine failure.line) = false →
        code = 1) := by
  obtain ⟨-, stands⟩ := FileTree.stands_of_savable savable
    (Report.ofRuntimeError world.now failure.line).text
  rw [reportFailure_eq]
  obtain ⟨code, after, ended, same, refused, taken⟩ := endWith_printError 1
    (errorLine failure.line) { world with
      files := (world.files.save world.directory options.reportOut
        (Report.ofRuntimeError world.now failure.line).text).2 }
  exact ⟨code, after, ended, by rw [same]; exact stands, refused, taken⟩

/-! ## Agreement -/

/-- `TellsOf world common options report`: the report is that of the failure or, where nothing
fails, that of the conclusion. -/
structure TellsOf (world : World) (common : CommonOptions) (options : CheckOptions)
    (report : Report) : Prop where
  failure : ∀ texts, Fails world common options texts →
    report.TellsFailure (": ".intercalate texts)
  conclusion : (∀ texts, ¬Fails world common options texts) →
    ∃ outcome, Concludes world common outcome ∧ report = outcome.report

/-- A run breaks off when what it has to show is refused: the conclusion by the output, or the line
that tells of a failure by the error output. -/
inductive BreaksOff (world : World) (common : CommonOptions) (options : CheckOptions) : Prop
  | output {outcome : RunOutcome} : (∀ texts, ¬Fails world common options texts) →
      Concludes world common outcome →
      Refuses world.outputTakes world.output (checkOutput options outcome.report.view) →
      BreaksOff world common options
  | errorOutput {texts : List String} : Fails world common options texts →
      world.errorOutputTakes (world.errorOutput ++
        ("cfgguard error: " ++ ": ".intercalate texts ++ "\n")) = false →
      BreaksOff world common options

/-- `Agrees failed code report`: the exit code of a run, failed or not, is the one that the report
calls for. -/
structure Agrees (failed : Prop) (code : UInt32) (report : Report) : Prop where
  good : code = 0 ↔ report.verdict = .pass ∨ report.verdict = .warn
  bad : code = 2 ↔ report.verdict = .fail ∧
    ∀ finding ∈ report.findings, finding.checkId ≠ "tool.runtime"
  broken : code = 1 ↔ ∃ message, report.TellsFailure message
  stopped : code = 1 ↔ failed

theorem Concludes.agrees {outcome : RunOutcome} (concludes : Concludes world common outcome)
    {failed : Prop} (worked : ¬failed) :
    Agrees failed outcome.report.verdict.exitCode outcome.report := by
  have noFailure : ∀ message, ¬outcome.report.TellsFailure message := by
    rintro message ⟨-, finding, only, ofRun, -⟩
    exact concludes.checkId_ne finding (only ▸ List.mem_singleton_self finding) ofRun
  have notBroken : outcome.report.verdict.exitCode ≠ 1 := by
    cases outcome.report.verdict <;> decide
  constructor
  case good => cases outcome.report.verdict <;> decide
  case bad =>
    refine ⟨fun code => ⟨?_, concludes.checkId_ne⟩,
      fun ⟨fail, _⟩ => congrArg Verdict.exitCode fail⟩
    revert code
    cases outcome.report.verdict <;> decide
  case broken =>
    exact ⟨fun code => absurd code notBroken,
      fun ⟨message, tells⟩ => absurd tells (noFailure message)⟩
  case stopped => exact ⟨fun code => absurd code notBroken, fun fails => absurd fails worked⟩

theorem tellsFailure_ofRuntimeError (now : Timestamp) (message : String) :
    (Report.ofRuntimeError now message).TellsFailure message :=
  ⟨rfl, Report.runtimeFinding message, rfl, rfl, rfl⟩

theorem agrees_ofRuntimeError {failed : Prop} (fails : failed) (now : Timestamp)
    (message : String) : Agrees failed 1 (Report.ofRuntimeError now message) := by
  constructor
  case good =>
    refine ⟨fun code => absurd code (by decide), fun fair => ?_⟩
    exact fair.elim nofun nofun
  case bad =>
    refine ⟨fun code => absurd code (by decide), fun ⟨_, other⟩ => ?_⟩
    exact absurd rfl (other _ (List.mem_singleton_self _))
  case broken => exact ⟨fun _ => ⟨_, tellsFailure_ofRuntimeError now message⟩, fun _ => rfl⟩
  case stopped => exact ⟨fun _ => fails, fun _ => rfl⟩

/-- What a run that works leaves behind. -/
theorem runCheck_of_concludes {outcome : RunOutcome} {files : FileTree}
    (concludes : Concludes world common outcome)
    (done : attempt (attemptCheck World.host common options) world =
      (.ok (outcome.report.verdict, checkOutput options outcome.report.view),
        { world with files })) :
    ∃ code after, runCheck World.host common options world = (code, after) ∧
      after.files = files ∧ TellsOf world common options outcome.report ∧
      (BreaksOff world common options → code = 101) ∧
      (¬BreaksOff world common options →
        Agrees (∃ texts, Fails world common options texts) code outcome.report) := by
  have worked : ∀ texts, ¬Fails world common options texts := by
    intro texts fails
    obtain ⟨error, failed, -⟩ := fails_iff.mp fails
    rw [done] at failed
    exact nomatch failed
  rw [runCheck_of_ok done]
  obtain ⟨code, after, ended, same, refused, taken⟩ := endWith_print outcome.report.verdict.exitCode
    (checkOutput options outcome.report.view) { world with files }
  refine ⟨code, after, ended, same, ⟨fun texts fails => absurd fails (worked texts),
    fun _ => ⟨outcome, concludes, rfl⟩⟩, fun breaks => ?_, fun goesOn => ?_⟩
  · cases breaks with
    | output _ again refuses =>
        obtain rfl := Except.ok.inj
          ((concluded_of_concludes concludes).symm.trans (concluded_of_concludes again))
        exact refused refuses
    | errorOutput fails => exact absurd fails (worked _)
  · obtain rfl := taken fun refuses => goesOn (.output worked concludes refuses)
    exact concludes.agrees fun ⟨texts, fails⟩ => worked texts fails

/-- What a run that fails leaves behind, if the report can be saved. -/
theorem runCheck_of_fails {error : RunError} {files : FileTree}
    (savable : files.Savable world.directory options.reportOut)
    (done : attempt (attemptCheck World.host common options) world =
      (.error error, { world with files })) :
    ∃ code after report, runCheck World.host common options world = (code, after) ∧
      after.files.Stands world.directory options.reportOut report.text ∧
      Report.read report.text = .ok report ∧ TellsOf world common options report ∧
      (BreaksOff world common options → code = 101) ∧
      (¬BreaksOff world common options →
        Agrees (∃ texts, Fails world common options texts) code report) := by
  have fails : Fails world common options error.failure.texts :=
    fails_iff.mpr ⟨error, by rw [done], rfl⟩
  have only : ∀ texts, Fails world common options texts → texts = error.failure.texts := by
    intro texts another
    obtain ⟨other, failed, rfl⟩ := fails_iff.mp another
    rw [done] at failed
    rw [Except.error.inj failed]
  rw [runCheck_of_error done]
  obtain ⟨code, after, ended, stands, refused, taken⟩ :=
    reportFailure_leaves { world with files } savable error.failure
  refine ⟨code, after, _, ended, stands, Report.read_text_of_runtimeError _ _,
    ⟨fun texts another => ?_, fun worked => absurd fails (worked _)⟩, fun breaks => ?_,
    fun goesOn => ?_⟩
  · obtain rfl := only texts another
    exact tellsFailure_ofRuntimeError world.now error.failure.line
  · cases breaks with
    | output worked => exact absurd fails (worked _)
    | errorOutput another refuses =>
        obtain rfl := only _ another
        exact refused refuses
  · obtain rfl := taken fun refuses => goesOn (.errorOutput fails refuses)
    exact agrees_ofRuntimeError ⟨_, fails⟩ world.now error.failure.line

/-- Arguments that ask for a report, for Markdown next to it, and for a snapshot in the place of the
directory that holds both. -/
def crossedArguments : List String :=
  ["check", "--report-out", "out/r.json", "--write-markdown", "--markdown-out", "out/m.md",
    "--snapshot-out", "out"]

def crossedCommon : CommonOptions := ⟨"cfgguard.yaml", "cfgguard.toml", .none⟩

def crossedOptions : CheckOptions := ⟨"out/r.json", true, "out/m.md", some "out", false⟩

/-- A world with a schema and the report of an earlier run. -/
def crossedWorld : World where
  files := ⟨[(["cfgguard.yaml"], .file "config: {a: {required: true}}"), (["out"], .directory),
    (["r.json", "out"], .file "earlier")]⟩
  directory := []
  vars _ := none
  now := .epoch
  output := ""
  errorOutput := ""

/-- An output that takes nothing breaks off a run whose report is saved. -/
example :
    (program World.host ["check", "--report-out", "out/r.json"]
      { crossedWorld with outputTakes := fun _ => false }).1 = 101 := by
  decide +kernel

end Command

end ConfigGate
