import ConfigGate.Report.Summary

/-!
# Workflow annotations

An annotation is one line `::level file=path,line=n,col=n::body`, without the middle part when the
finding points nowhere. Percent signs and line ends are escaped everywhere, colons and commas in
paths too, so no text can break out of its place.
-/

namespace ConfigGate.Annotation

/-- How a character stands in the body of an annotation. -/
def bodyChar (c : Char) : List Char :=
  if c = '%' then ['%', '2', '5']
  else if c = '\r' then ['%', '0', 'D']
  else if c = '\n' then ['%', '0', 'A']
  else [c]

/-- How a character stands in a property of an annotation. -/
def propertyChar (c : Char) : List Char :=
  if c = ':' then ['%', '3', 'A']
  else if c = ',' then ['%', '2', 'C']
  else bodyChar c

/-- A text as it stands in the body. -/
def escapeBody (text : String) : String := String.ofList (text.toList.flatMap bodyChar)

/-- A text as it stands in a property. -/
def escapeProperty (text : String) : String := String.ofList (text.toList.flatMap propertyChar)

/-- The level of an annotation. -/
def level : Severity → String
  | .error => "error"
  | .warning => "warning"
  | .info => "notice"

/-- A property that holds a number, if there is one. -/
def numberProperty (name : String) : Option UInt32 → String
  | none => ""
  | some value => "," ++ name ++ "=" ++ toString value.toNat

/-- The properties that give the place of a finding. -/
def properties (location : Location) : String :=
  "file=" ++ escapeProperty location.path ++ numberProperty "line" location.line ++
    numberProperty "col" location.column

/-- What an annotation says, before escaping. -/
def body (finding : FindingView) : String :=
  "[" ++ finding.checkId.getD defaultCheckId ++ ":" ++ finding.code ++ "] " ++ finding.message

/-- The annotation of a finding. -/
def ofFinding (finding : FindingView) : String :=
  let place :=
    match finding.location with
    | none => ""
    | some location => " " ++ properties location
  "::" ++ level finding.severity ++ place ++ "::" ++ escapeBody (body finding)

end ConfigGate.Annotation

namespace ConfigGate

/-- The annotations of a report, one per finding. -/
def ReportView.annotations (report : ReportView) : List String :=
  report.findings.map Annotation.ofFinding

end ConfigGate
