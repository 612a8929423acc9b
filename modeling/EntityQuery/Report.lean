import EntityQuery.Signature
import EntityQuery.Value.Describe

/-!
# Reports

The failures of the library as objects that a caller can make, too: a general one, one about
a refused argument, and one about a filter unit that does not compile. Each is worded by its
message and shown as data; the latter two are special cases of the first.

`Report.make` makes one from loose arguments: a general report takes any, the other two have
parameters, of which only the message is required.
-/

namespace EntityQuery

/-- A failure as an object of its own. -/
inductive Report where
  /-- A general failure with any arguments. -/
  | general (arguments : List Value)
  /-- A refused argument. -/
  | rejection (message field value : Value)
  /-- A filter unit that does not compile. -/
  | compilation (message index : Value)

/-- The classes of reports. -/
inductive ReportClass where
  | general
  | rejection
  | compilation
  deriving DecidableEq, Repr

/-- The name of a class of reports. -/
def ReportClass.name : ReportClass → String
  | general => "DatastoreQueryError"
  | rejection => "QueryValidationError"
  | compilation => "QueryCompilationError"

/-- The class of reports with a name. -/
def ReportClass.ofName? (s : String) : Option ReportClass :=
  [general, rejection, compilation].find? (·.name == s)

/-- The classes that the reports of a class belong to, from the narrowest on. -/
def ReportClass.ancestry : ReportClass → List ReportClass
  | general => [.general]
  | cls => [cls, .general]

/-- The parameters that a report of a class is made from; a general one has none to name. -/
def ReportClass.signature (cls : ReportClass) : Signature :=
  match cls with
  | .general => ⟨cls.name, false, [], []⟩
  | .rejection => ⟨cls.name ++ ".__init__", true, ["message"], ["field", "value"]⟩
  | .compilation => ⟨cls.name ++ ".__init__", true, ["message"], ["index"]⟩

namespace Report

/-- The class of a report. -/
def cls : Report → ReportClass
  | general _ => .general
  | rejection .. => .rejection
  | compilation .. => .compilation

/-- A report of a class from loose arguments. -/
def make (cls : ReportClass) (positional : List Value) (named : List (String × Value)) :
    Except Failure Report :=
  match cls with
  | .general => if named.isEmpty then .ok (.general positional) else .error (.noNames cls.name)
  | _ => do
      match ← cls.signature.bind positional named with
      | [message, field, value] => return .rejection message field value
      | [message, index] => return .compilation message index
      | arguments => return .general arguments

/-- The wording of a report: of no argument nothing, of one its text, and of several their
description. -/
def text : Report → Except Failure String
  | general [] => .ok ""
  | general [v] => v.display
  | general arguments => (Value.tuple arguments).describe
  | rejection message .. => message.display
  | compilation message _ => message.display

/-- A report as data. -/
def details : Report → Except Failure Value
  | r@(general _) => do
      return .ofTexts [("error", .text r.cls.name), ("message", .text (← r.text))]
  | rejection message field value => .ok (rejectionDetails message field value)
  | compilation message index => .ok (compilationDetails message index)

/-- The names of the classes that a report belongs to, from the narrowest on. -/
def ancestry (r : Report) : List String :=
  r.cls.ancestry.map ReportClass.name ++ ["Exception", "BaseException"]

end Report

end EntityQuery
