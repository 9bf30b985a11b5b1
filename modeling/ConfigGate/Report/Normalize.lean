import ConfigGate.Json.Basic

/-!
# Reports without what changes from run to run

`Report.normalize` puts fixed texts for the times, wherever members of their names stand, and for
the version of the tool, in a whole report only. Everything else stays.
-/

namespace ConfigGate.Report

/-- What stands for a time. -/
def maskedTime : Json := .text "__TIMESTAMP__"

/-- What stands for a version. -/
def maskedVersion : Json := .text "__VERSION__"

/-- Whether a member of this name holds a time. -/
def isTimeName (name : String) : Bool := name == "started_at" || name == "finished_at"

mutual

/-- Masks every time in a value. -/
def maskTimes : Json → Json
  | .array items => .array (maskItemTimes items)
  | .object members => .object (maskMemberTimes members)
  | value => value

/-- Masks every time in a list of values. -/
def maskItemTimes : List Json → List Json
  | [] => []
  | item :: rest => maskTimes item :: maskItemTimes rest

/-- Masks every time in a list of members. -/
def maskMemberTimes : List (String × Json) → List (String × Json)
  | [] => []
  | (name, value) :: rest =>
      (name, if isTimeName name then maskedTime else maskTimes value) :: maskMemberTimes rest

end

/-- Whether the members have all the names that make a value a report. -/
def isEnvelope (members : List (String × Json)) : Bool :=
  ["schema", "tool", "verdict", "findings", "data"].all fun name =>
    (lookupEntry name members).isSome

/-- Masks the version in the description of a tool. -/
def maskToolVersion : Json → Json
  | .object members =>
      .object (members.map fun member =>
        if member.1 = "version" then (member.1, maskedVersion) else member)
  | value => value

/-- Masks the version of the tool of a report. -/
def maskVersion : Json → Json
  | .object members =>
      if isEnvelope members then
        .object (members.map fun member =>
          if member.1 = "tool" then (member.1, maskToolVersion member.2) else member)
      else .object members
  | value => value

/-- Masks what changes from run to run. -/
def normalize (value : Json) : Json := maskTimes (maskVersion value)

end ConfigGate.Report
