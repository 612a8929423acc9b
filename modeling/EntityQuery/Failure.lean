import EntityQuery.Value
import EntityQuery.Message.Problem
import EntityQuery.Decimal.Integer
import EntityQuery.Text.Quoted

/-!
# Failures

Everything that can go wrong, by cause. A failure says what was asked and of what; its
`message` words it, and its `details` are what a caller is shown as data.

* `Rejection`: arguments that a key or a builder refuses before anything is sent.
* `Failure`: any failure; among them a rejection, a filter unit that does not compile to a
  filter, and data that is not a valid message.
* `writeInteger`: the text of an integer, or the failure that it has too many digits.
-/

namespace EntityQuery

/-- A page setting that strict builders guard. -/
inductive PageField where
  | limit
  | offset
  deriving DecidableEq, Repr

/-- The name of a page setting. -/
def PageField.name : PageField → String
  | limit => "limit"
  | offset => "offset"

/-- Why an argument was refused. -/
inductive Rejection where
  /-- A key without any path element. -/
  | emptyPath
  /-- Parts of a key that do not pair up. -/
  | unpairedParts (parts : List Value)
  /-- A path element without a kind. -/
  | emptyKind (index : Nat) (kind : Value)
  /-- An identifier that is neither an integer nor a text. -/
  | badId (id : Value)
  /-- A missing identifier before the last path element. -/
  | missingId (path : Value)
  /-- A negative page setting, with its text. -/
  | negative (field : PageField) (shown : String) (value : Value)

/-- The field that the refused argument was meant for. -/
def Rejection.field : Rejection → String
  | negative field .. => field.name
  | _ => "path"

/-- The refused argument. -/
def Rejection.value : Rejection → Value
  | emptyPath => .none
  | unpairedParts parts => .tuple parts
  | emptyKind _ kind => kind
  | badId id => id
  | missingId path => path
  | negative _ _ value => value

/-- The wording of a rejection. -/
def Rejection.message : Rejection → String
  | emptyPath => "Key path must not be empty"
  | unpairedParts _ => "Key.of() expects kind/id-or-name pairs"
  | emptyKind index _ => "Key path element " ++ Decimal.write index ++ " has an empty kind"
  | badId _ => "Key ids must be integers or strings"
  | missingId _ => "Only the last key path element may omit its id or name"
  | negative field shown _ => field.name ++ " must be >= 0, got " ++ shown

/-- What went wrong. Types are given by name; a value that a message describes is given by
its description. -/
inductive Failure where
  /-- The value has no such attribute. -/
  | noAttribute (typeName name : String)
  /-- The attribute of an object of this kind cannot be set at all. -/
  | noSuchSlot
  /-- The field of a frozen object was to be changed. -/
  | frozenField (field : String)
  /-- An attribute that all values of the type have in common was to be set for one. -/
  | readOnlyAttribute (typeName name : String)
  /-- An attribute that is computed from the value was to be set. -/
  | computedAttribute (typeName name : String)
  /-- A property that can only be asked for was to be set. -/
  | noSetter (typeName name : String)
  /-- Something else than a text was to be described as a text is. -/
  | textRequired (typeName : String)
  /-- The name or the value of a member was to be set. -/
  | fixedMember (name : String)
  /-- The class of an object was to be replaced by something else than a class. -/
  | classExpected (typeName : String)
  /-- The attributes of an object were to be replaced by something else than a mapping. -/
  | attributesExpected (typeName : String)
  /-- A call with more arguments than the callee takes; the receiver counts. -/
  | tooManyArguments (callee : String) (least most given : Nat)
  /-- A call without a required argument. -/
  | missingArguments (callee : String) (names : List String)
  /-- A call with a named argument that the callee does not have. -/
  | unexpectedArgument (callee name : String)
  /-- A call that gives an argument both by position and by name. -/
  | repeatedArgument (callee name : String)
  /-- A call with named arguments of something that takes none. -/
  | noNames (callee : String)
  /-- A value that should be gone through item by item and cannot. -/
  | notIterable (typeName : String)
  /-- A value that should be a pair and is no container. -/
  | notUnpackable (typeName : String)
  /-- A value that should be a pair and has more items. -/
  | tooManyItems
  /-- A value that should be a pair and has fewer items. -/
  | tooFewItems (given : Nat)
  /-- An item that should be an entry of a mapping and is no container. -/
  | entryNotSequence (index : Nat)
  /-- An item that should be an entry of a mapping and is no pair. -/
  | entryLength (index length : Nat)
  /-- A value that cannot be a key of a mapping. -/
  | unhashable (typeName : String)
  /-- A value that was to be called and is no operation. -/
  | notCallable (typeName : String)
  /-- A value without a length. -/
  | noLength (typeName : String)
  /-- A look-up of a key that a mapping does not have, with the description of the key. -/
  | noSuchKey (shown : String)
  /-- A position outside a sequence. -/
  | outOfRange (typeName : String)
  /-- A value that is not accessed by position or key. -/
  | notSubscriptable (typeName : String)
  /-- A sequence accessed by something that is no position. -/
  | badPosition (typeName keyType : String)
  /-- A value without assignable items. -/
  | notAssignable (typeName : String)
  /-- A value that is not ordered relative to integers. -/
  | unordered (typeName : String)
  /-- Values that an operator, given by its symbol, does not take. -/
  | unsupported (symbol left right : String)
  /-- A sequence was to be continued with something that is no sequence of its type. -/
  | notConcatenable (sequence typeName : String)
  /-- A text that is no floating-point number, with its description. -/
  | notFloat (shown : String)
  /-- A value that a floating-point number was to be made from and is neither a number nor a
  text. -/
  | numberExpected (typeName : String)
  /-- A value that bytes were to be made from and is no text. -/
  | hexadecimalExpected (typeName : String)
  /-- An integer that is too large for a floating-point number. -/
  | tooLargeForFloat
  /-- An integer with more than `Decimal.digitLimit` digits was to be written out. -/
  | tooManyDigits
  /-- A text that is no pairs of hexadecimal digits, with the position where that shows. -/
  | notHexadecimal (position : Nat)
  /-- A value that spells no member, with its description. -/
  | notMember (shown : String) (enumeration : Enumeration)
  /-- A combination of nothing. -/
  | emptyCombination
  /-- Builders that contain each other were to be compiled or described. -/
  | endless
  /-- A value that a body cannot hold, by its class. -/
  | unencodable (className : String)
  /-- Data that is nested in itself was to be encoded. -/
  | circular
  /-- Data that is nested too deep was to be encoded. -/
  | tooDeep
  /-- An argument was refused. -/
  | rejected (reason : Rejection)
  /-- A filter unit that cannot be compiled, with its description. -/
  | notCompilable (shown : String) (index : Nat)
  /-- A filter unit that compiled to something else than a filter. -/
  | notFilter (shown : String) (index : Nat) (typeName : String)
  /-- Data that is not a valid message of the class. -/
  | invalid (cls : MessageClass) (problems : List Problem)

/-- Names in a row, in apostrophes, as an enumeration in a sentence. -/
def Failure.names : List String → String
  | [] => ""
  | [s] => "'" ++ s ++ "'"
  | [s, t] => "'" ++ s ++ "' and '" ++ t ++ "'"
  | [s, t, u] => "'" ++ s ++ "', '" ++ t ++ "', and '" ++ u ++ "'"
  | s :: rest => "'" ++ s ++ "', " ++ names rest

/-- A word in the singular for one and in the plural else. -/
def Failure.counted (n : Nat) (word : String) : String :=
  Decimal.write n ++ " " ++ word ++ (if n = 1 then "" else "s")

/-- The wording of a failure. -/
def Failure.message : Failure → String
  | noAttribute typeName name =>
      "'" ++ typeName ++ "' object has no attribute '" ++ name ++ "'"
  | noSuchSlot => "super(type, obj): obj must be an instance or subtype of type"
  | frozenField field => "cannot assign to field " ++ Text.quote field
  | readOnlyAttribute typeName name =>
      "'" ++ typeName ++ "' object attribute '" ++ name ++ "' is read-only"
  | computedAttribute typeName name =>
      "attribute '" ++ name ++ "' of '" ++ typeName ++ "' objects is not writable"
  | noSetter typeName name =>
      "property '" ++ name ++ "' of '" ++ typeName ++ "' object has no setter"
  | textRequired typeName =>
      "descriptor '__repr__' requires a 'str' object but received a '" ++ typeName ++ "'"
  | fixedMember name => "<enum 'Enum'> cannot set attribute '" ++ name ++ "'"
  | classExpected typeName =>
      "__class__ must be set to a class, not '" ++ typeName ++ "' object"
  | attributesExpected typeName =>
      "__dict__ must be set to a dictionary, not a '" ++ typeName ++ "'"
  | tooManyArguments callee least most given =>
      callee ++ "() takes " ++
        (if least = most then "" else "from " ++ Decimal.write least ++ " to ") ++
        counted most "positional argument" ++ " but " ++ Decimal.write given ++
        (if given = 1 then " was given" else " were given")
  | missingArguments callee missing =>
      callee ++ "() missing " ++ counted missing.length "required positional argument" ++
        ": " ++ names missing
  | unexpectedArgument callee name =>
      callee ++ "() got an unexpected keyword argument '" ++ name ++ "'"
  | repeatedArgument callee name =>
      callee ++ "() got multiple values for argument '" ++ name ++ "'"
  | noNames callee => callee ++ "() takes no keyword arguments"
  | notIterable typeName => "'" ++ typeName ++ "' object is not iterable"
  | notUnpackable typeName => "cannot unpack non-iterable " ++ typeName ++ " object"
  | tooManyItems => "too many values to unpack (expected 2)"
  | tooFewItems given =>
      "not enough values to unpack (expected 2, got " ++ Decimal.write given ++ ")"
  | entryNotSequence index =>
      "cannot convert dictionary update sequence element #" ++ Decimal.write index ++
        " to a sequence"
  | entryLength index length =>
      "dictionary update sequence element #" ++ Decimal.write index ++ " has length " ++
        Decimal.write length ++ "; 2 is required"
  | unhashable typeName => "unhashable type: '" ++ typeName ++ "'"
  | notCallable typeName => "'" ++ typeName ++ "' object is not callable"
  | noLength typeName => "object of type '" ++ typeName ++ "' has no len()"
  | noSuchKey shown => shown
  | outOfRange typeName => typeName ++ " index out of range"
  | notSubscriptable typeName => "'" ++ typeName ++ "' object is not subscriptable"
  | badPosition typeName keyType =>
      typeName ++ " indices must be integers or slices, not " ++ keyType
  | notAssignable typeName => "'" ++ typeName ++ "' object does not support item assignment"
  | unordered typeName =>
      "'<' not supported between instances of '" ++ typeName ++ "' and 'int'"
  | unsupported symbol left right =>
      "unsupported operand type(s) for " ++ symbol ++ ": '" ++ left ++ "' and '" ++ right ++ "'"
  | notConcatenable sequence typeName =>
      if sequence = "bytes" then "can't concat " ++ typeName ++ " to bytes"
      else "can only concatenate " ++ sequence ++ " (not \"" ++ typeName ++ "\") to " ++ sequence
  | notFloat shown => "could not convert string to float: " ++ shown
  | numberExpected typeName =>
      "float() argument must be a string or a real number, not '" ++ typeName ++ "'"
  | hexadecimalExpected typeName => "fromhex() argument must be str, not " ++ typeName
  | tooLargeForFloat => "int too large to convert to float"
  | tooManyDigits =>
      "Exceeds the limit (" ++ Decimal.write Decimal.digitLimit ++ " digits) for integer string " ++
        "conversion; use sys.set_int_max_str_digits() to increase the limit"
  | notHexadecimal position =>
      "non-hexadecimal number found in fromhex() arg at position " ++ Decimal.write position
  | notMember shown enumeration => shown ++ " is not a valid " ++ enumeration.name
  | emptyCombination => "Cannot create an empty composite condition"
  | endless => "maximum recursion depth exceeded"
  | unencodable className => "Unable to serialize unknown type: <class '" ++ className ++ "'>"
  | circular => "Circular reference detected (id repeated)"
  | tooDeep => "Maximum serialization depth exceeded"
  | rejected reason => reason.message
  | notCompilable shown index =>
      "Filter " ++ shown ++ " at position " ++ Decimal.write index ++
        " has no compile() method"
  | notFilter shown index typeName =>
      "Filter " ++ shown ++ " at position " ++ Decimal.write index ++ " compiled to " ++
        typeName ++ ", expected Filter"
  | invalid cls _ => cls.name

/-- Is the failure that an integer has too many digits? -/
def Failure.isTooManyDigits : Failure → Bool
  | tooManyDigits => true
  | _ => false

/-- The text of an integer that a caller gave, which can be too long to be written out. The
numbers that the library counts itself are not, and are written by `Decimal.write`. -/
def writeInteger (n : Int) : Except Failure String :=
  if Decimal.isWritable n then .ok (Decimal.write n) else .error .tooManyDigits

theorem writeInteger_eq_ok {n : Int} (writable : Decimal.isWritable n = true) :
    writeInteger n = .ok (Decimal.write n) := if_pos writable

theorem writeInteger_eq_error {n : Int} (long : Decimal.isWritable n = false) :
    writeInteger n = .error .tooManyDigits := if_neg (by simp [long])

/-- What is shown of a refused argument: a code, the wording, the field and the argument. -/
def rejectionDetails (message field value : Value) : Value :=
  .ofTexts [("error", .text "VALIDATION_ERROR"), ("message", message), ("field", field),
    ("value", value)]

/-- What is shown of a filter unit that does not compile: a code, the wording, and the
position of the unit. -/
def compilationDetails (message index : Value) : Value :=
  .ofTexts [("error", .text "COMPILATION_ERROR"), ("message", message), ("index", index)]

/-- What a caller is shown of a failure as data, for the failures that come with data. -/
def Failure.details? : Failure → Option Value
  | rejected reason =>
      some (rejectionDetails (.text reason.message) (.text reason.field) reason.value)
  | f@(notCompilable _ index) | f@(notFilter _ index _) =>
      some (compilationDetails (.text f.message) (.int index))
  | _ => none

end EntityQuery
