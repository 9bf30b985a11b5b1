import ConfigGate.Command.Invocation
import ConfigGate.Report.Annotations
import ConfigGate.Run

/-!
# The command that runs the checks

The exit code tells the verdict, 0 or 2. When anything goes wrong, also after the report is written,
the report is replaced by one that tells the failure, and the exit code is 1. What is shown is shown
last, so a stream that refuses it breaks off a run whose report stands.
-/

namespace ConfigGate.Command

variable {m : Type → Type} [Monad m]

/-- The text of the settings file; empty when there is none. -/
def settingsText (host : Host m) (path : String) : ExceptT RunError m String :=
  ExceptT.mk do
    if ← host.isPresent path then
      let text ← host.read path
      pure (text.mapError (RunError.settingsFile path))
    else pure (.ok "")

/-- Saves a file that a run makes. -/
def saveAs (host : Host m) (attempt path text : String) : ExceptT RunError m Unit :=
  (host.save path text).adapt (RunError.saving attempt)

/-- Lines, each with a line end. -/
def lineTexts (lines : List String) : List String := lines.map (· ++ "\n")

/-- What a run shows on the output, text after text. -/
def checkOutput (options : CheckOptions) (view : ReportView) : List String :=
  view.summary :: if options.annotations then lineTexts view.annotations else []

/-- Runs the checks and writes the files that are asked for. Gives the verdict and what is to be
shown. -/
def attemptCheck (host : Host m) (common : CommonOptions) (options : CheckOptions) :
    ExceptT RunError m (Verdict × List String) := do
  let text ← settingsText host common.settings
  let outcome ← host.check common.schema text common.overrides
  saveAs host "write report json" options.reportOut outcome.report.text
  let view := outcome.report.view
  if options.writeMarkdown then
    saveAs host "write markdown" options.markdownOut view.markdown
  match options.snapshotOut with
  | none => pure ()
  | some path => saveAs host "write config snapshot" path outcome.snapshot.text
  pure (outcome.report.verdict, checkOutput options view)

/-- What is shown for an error. -/
def errorLine (message : String) : String := "cfgguard error: " ++ message ++ "\n"

/-- Replaces the report by one that tells a failure. -/
def reportFailure (host : Host m) (options : CheckOptions) (failure : Failure) : m UInt32 := do
  let now ← host.now
  let _ ← (host.save options.reportOut (Report.ofRuntimeError now failure.line).text).run
  Host.endWith host.printError 1 [errorLine failure.line]

/-- Runs the checks and gives the exit code. -/
def runCheck (host : Host m) (common : CommonOptions) (options : CheckOptions) : m UInt32 := do
  match ← (attemptCheck host common options).run with
  | .ok (verdict, texts) => Host.endWith host.print verdict.exitCode texts
  | .error error => reportFailure host options error.failure

end ConfigGate.Command
