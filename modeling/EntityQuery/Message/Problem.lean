import EntityQuery.Message

/-!
# Problems found by validation

Validating loose data against a message class reports everything that is wrong with it, each
problem with the place where it was found.

* A `Place` is the path from the validated data to the wrong part: field keys as they were
  given, and positions in sequences.
* A `Complaint` says what is wrong. Its `code` is the stable name of the rule that was
  violated and its `message` the sentence for a reader.
-/

namespace EntityQuery

/-- One step of the path to a part of some data. -/
inductive Place.Step where
  /-- Into a mapping, by key. -/
  | key (name : String)
  /-- Into a sequence, by position, or into a mapping by a key that is an integer. -/
  | index (n : Int)
  deriving DecidableEq, Repr

/-- The path to a part of some data, from the outside inwards. -/
abbrev Place := List Place.Step

/-- What is wrong with a part of some data. -/
inductive Complaint where
  /-- A required field is not there. -/
  | missing
  /-- Neither a mapping nor a message of the class. -/
  | messageExpected (cls : MessageClass)
  | textExpected
  /-- Bytes that are no text. -/
  | textUndecodable
  | bytesExpected
  | mappingExpected
  | sequenceExpected
  | memberExpected (enumeration : Enumeration)
  | integerExpected
  /-- A text that is no integer. -/
  | integerUnreadable
  /-- A text too long or a floating-point number too large to be taken for an integer. -/
  | integerTooLarge
  /-- A floating-point number that is no integer. -/
  | integerFractional
  /-- An infinite number or no number. -/
  | finiteExpected
  /-- A filter with both of its parts or with neither. -/
  | exactlyOneExpected
  /-- A filter inside itself, or one that has been too deep before. -/
  | recursive
  /-- A filter too deep inside others. -/
  | tooDeep
  /-- An attempt to change a message. -/
  | frozen
  deriving DecidableEq, Repr

/-- Choices in a row, in apostrophes, with a word before the last. -/
def Complaint.choices : List String → String
  | [] => ""
  | [s] => "'" ++ s ++ "'"
  | [s, t] => "'" ++ s ++ "' or '" ++ t ++ "'"
  | s :: rest => "'" ++ s ++ "', " ++ choices rest

/-- The name of the violated rule. -/
def Complaint.code : Complaint → String
  | missing => "missing"
  | messageExpected _ => "model_type"
  | textExpected => "string_type"
  | textUndecodable => "string_unicode"
  | bytesExpected => "bytes_type"
  | mappingExpected => "dict_type"
  | sequenceExpected => "tuple_type"
  | memberExpected _ => "enum"
  | integerExpected => "int_type"
  | integerUnreadable => "int_parsing"
  | integerTooLarge => "int_parsing_size"
  | integerFractional => "int_from_float"
  | finiteExpected => "finite_number"
  | exactlyOneExpected => "value_error"
  | recursive => "recursion_loop"
  | tooDeep => "recursion_depth_exceeded"
  | frozen => "frozen_instance"

/-- The sentence for a reader. -/
def Complaint.message : Complaint → String
  | missing => "Field required"
  | messageExpected cls =>
      "Input should be a valid dictionary or instance of " ++ cls.name
  | textExpected => "Input should be a valid string"
  | textUndecodable =>
      "Input should be a valid string, unable to parse raw data as a unicode string"
  | bytesExpected => "Input should be a valid bytes"
  | mappingExpected => "Input should be a valid dictionary"
  | sequenceExpected => "Input should be a valid tuple"
  | memberExpected enumeration =>
      "Input should be " ++ choices (enumeration.members.map Member.spelling)
  | integerExpected => "Input should be a valid integer"
  | integerUnreadable =>
      "Input should be a valid integer, unable to parse string as an integer"
  | integerTooLarge => "Unable to parse input string as an integer, exceeded maximum size"
  | integerFractional =>
      "Input should be a valid integer, got a number with a fractional part"
  | finiteExpected => "Input should be a finite number"
  | exactlyOneExpected =>
      "Value error, Filter requires exactly one of property_filter or composite_filter"
  | recursive => "Recursion error - cyclic reference detected"
  | tooDeep => "Recursion error - maximum validation depth exceeded"
  | frozen => "Instance is frozen"

/-- A complaint and the place it is about. -/
structure Problem where
  place : Place
  complaint : Complaint
  deriving DecidableEq, Repr

/-- The problem as seen from one step further out. -/
def Problem.under (step : Place.Step) (p : Problem) : Problem :=
  { p with place := step :: p.place }

end EntityQuery
