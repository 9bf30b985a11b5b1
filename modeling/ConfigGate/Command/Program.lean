import ConfigGate.Command.Check
import ConfigGate.Command.Help
import ConfigGate.Explanation
import ConfigGate.JsonSchema.Settings
import ConfigGate.Report.Reader

/-!
# The program

`Command.program` runs the program with its arguments on a host and gives the exit code: 0 when all
went well, 1 when a command failed, 2 when a check failed or the arguments are wrong. A command that
shows something breaks off when that is refused, except for what is shown about arguments and about
a report that cannot be rendered.
-/

namespace ConfigGate.Command

variable {m : Type → Type} [Monad m]

/-- Ends a command that may fail, and otherwise gives texts to show. -/
def finish (host : Host m) (command : ExceptT Failure m (List String)) : m UInt32 := do
  match ← command.run with
  | .ok texts => Host.endWith host.print 0 texts
  | .error failure => do
      let _ ← host.printError failure.report
      pure 1

/-- Reads the report of an earlier run. -/
def readReport (host : Host m) (path : String) : ExceptT Failure m Report :=
  ExceptT.mk do
    match ← host.read path with
    | .error fault => pure (.error ⟨"read report: " ++ path, [fault.message]⟩)
    | .ok text => do
        let wording ← host.wording
        pure ((Report.read text).mapError fun error => error.failure (wording.report text))

/-- Loads the schema and says what it holds. -/
def runValidate (host : Host m) (path : String) : m UInt32 := do
  match ← (host.validate path).run with
  | .error failure => Host.endWith host.printError 1 [errorLine failure.line]
  | .ok summary =>
      let environments :=
        if summary.environments.isEmpty then "none" else Text.commaList summary.environments
      Host.endWith host.print 0 [path ++ ": ok (" ++ toString summary.keys ++ " keys, " ++
        toString summary.invariants ++ " invariants, environments: " ++ environments ++ ")\n"]

/-- Shows the canonical form of a rule. -/
def runFormatRule (host : Host m) (rule : String) : m UInt32 :=
  match Rule.canonical rule with
  | .error error => Host.endWith host.printError 1 [errorLine error.message]
  | .ok text => Host.endWith host.print 0 [text ++ "\n"]

/-- Renders an earlier report in Markdown, to a file or to the output. -/
def renderMarkdown (host : Host m) (path : String) (output : Option String) :
    ExceptT Failure m (List String) := do
  let report ← readReport host path
  match output with
  | none => pure [report.view.markdown]
  | some file => do
      (host.save file report.view.markdown).adapt fun error =>
        error.failure.within "write markdown output"
      pure []

/-- Renders an earlier report in annotations. -/
def renderAnnotations (host : Host m) (path : String) (max : Nat) :
    ExceptT Failure m (List String) := do
  let report ← readReport host path
  pure (lineTexts (report.view.annotations.take max))

/-- Explains a check or a code. -/
def runExplain (host : Host m) (identifier : String) : m UInt32 :=
  match Explanation.find? identifier with
  | some explanation => Host.endWith host.print 0 [explanation.text]
  | none =>
      Host.endWith host.printError 1
        [notFoundText identifier (Check.all.map Check.id) (Check.all.map Check.code)]

/-- Runs a command. -/
def Invocation.run (host : Host m) (invocation : Invocation) : m UInt32 :=
  match invocation.command with
  | .check options => runCheck host invocation.common options
  | .validate => runValidate host invocation.common.schema
  | .formatRule rule => runFormatRule host rule
  | .markdown report output => finish host (renderMarkdown host report output)
  | .annotations report max => finish host (renderAnnotations host report max)
  | .explain identifier => runExplain host identifier
  | .settingsSchema => Host.endWith host.print 0 [JsonSchema.settings.pretty ++ "\n"]

/-- Answers arguments that are not a command to run. -/
def Stop.run (host : Host m) : Stop → m UInt32
  | help command => do
      let _ ← host.print (helpText command)
      pure 0
  | version => do
      let _ ← host.print versionText
      pure 0
  | usage message => do
      let _ ← host.printError (usageText message)
      pure 2

/-- Runs the program. -/
def program (host : Host m) (arguments : List String) : m UInt32 :=
  match Invocation.parse arguments with
  | .error stop => stop.run host
  | .ok invocation => invocation.run host

end ConfigGate.Command
