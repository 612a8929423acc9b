import EntityQuery.Failure

/-!
# Attributes of plain values

Numbers, texts, bytes and containers have attributes, the same ones for every value of a type,
and none of them can be set. How the attempt is refused depends on whether there is such an
attribute at all, and whether it is computed from the value. The tables list the attributes of
every type; `Value.refuseAttribute` is the refusal.
-/

namespace EntityQuery.Attributes

/-- The attributes of values of every type. -/
def common : List String :=
  ["__class__", "__delattr__", "__dir__", "__doc__", "__eq__", "__format__", "__ge__",
   "__getattribute__", "__getstate__", "__gt__", "__hash__", "__init__", "__init_subclass__",
   "__le__", "__lt__", "__ne__", "__new__", "__reduce__", "__reduce_ex__", "__repr__",
   "__setattr__", "__sizeof__", "__str__", "__subclasshook__"]

/-- The attributes of numbers. -/
def ofNumber : List String :=
  ["__abs__", "__add__", "__bool__", "__ceil__", "__divmod__", "__float__", "__floor__",
   "__floordiv__", "__getnewargs__", "__int__", "__mod__", "__mul__", "__neg__", "__pos__",
   "__pow__", "__radd__", "__rdivmod__", "__rfloordiv__", "__rmod__", "__rmul__", "__round__",
   "__rpow__", "__rsub__", "__rtruediv__", "__sub__", "__truediv__", "__trunc__",
   "as_integer_ratio", "conjugate", "imag", "real"]

/-- The attributes of integers and truth values that other numbers do not have. -/
def ofInt : List String :=
  ["__and__", "__index__", "__invert__", "__lshift__", "__or__", "__rand__", "__rlshift__",
   "__ror__", "__rrshift__", "__rshift__", "__rxor__", "__xor__", "bit_count", "bit_length",
   "denominator", "from_bytes", "numerator", "to_bytes"]

/-- The attributes of floating-point numbers that other numbers do not have. -/
def ofFloat : List String :=
  ["__getformat__", "fromhex", "hex", "is_integer"]

/-- The attributes of texts and bytes. -/
def ofCharacters : List String :=
  ["__add__", "__contains__", "__getitem__", "__getnewargs__", "__iter__", "__len__", "__mod__",
   "__mul__", "__rmod__", "__rmul__", "capitalize", "center", "count", "endswith", "expandtabs",
   "find", "index", "isalnum", "isalpha", "isascii", "isdigit", "islower", "isspace", "istitle",
   "isupper", "join", "ljust", "lower", "lstrip", "maketrans", "partition", "removeprefix",
   "removesuffix", "replace", "rfind", "rindex", "rjust", "rpartition", "rsplit", "rstrip",
   "split", "splitlines", "startswith", "strip", "swapcase", "title", "translate", "upper",
   "zfill"]

/-- The attributes of texts that bytes do not have. -/
def ofText : List String :=
  ["casefold", "encode", "format", "format_map", "isdecimal", "isidentifier", "isnumeric",
   "isprintable"]

/-- The attributes of bytes that texts do not have. -/
def ofBytes : List String :=
  ["__bytes__", "decode", "fromhex", "hex"]

/-- The attributes of lists. -/
def ofList : List String :=
  ["__add__", "__class_getitem__", "__contains__", "__delitem__", "__getitem__", "__iadd__",
   "__imul__", "__iter__", "__len__", "__mul__", "__reversed__", "__rmul__", "__setitem__",
   "append", "clear", "copy", "count", "extend", "index", "insert", "pop", "remove", "reverse",
   "sort"]

/-- The attributes of tuples. -/
def ofTuple : List String :=
  ["__add__", "__class_getitem__", "__contains__", "__getitem__", "__getnewargs__", "__iter__",
   "__len__", "__mul__", "__rmul__", "count", "index"]

/-- The attributes of mappings. -/
def ofMapping : List String :=
  ["__class_getitem__", "__contains__", "__delitem__", "__getitem__", "__ior__", "__iter__",
   "__len__", "__or__", "__reversed__", "__ror__", "__setitem__", "clear", "copy", "fromkeys",
   "get", "items", "keys", "pop", "popitem", "setdefault", "update", "values"]

/-- The attributes that values of the type of a plain value have besides the common ones. -/
def own (v : Value) : List String :=
  match v.content with
  | .none => ["__bool__"]
  | .bool _ | .int _ => ofNumber ++ ofInt
  | .float _ => ofNumber ++ ofFloat
  | .text _ => ofCharacters ++ ofText
  | .bytes _ => ofCharacters ++ ofBytes
  | .list _ => ofList
  | .tuple _ => ofTuple
  | .mapping _ => ofMapping
  | _ => []

/-- The type that computes an attribute of a number from the number, if one does. -/
def computedBy? (v : Value) (name : String) : Option String :=
  match v.content with
  | .bool _ | .int _ =>
      if name ∈ ["real", "imag", "numerator", "denominator"] then some "int" else none
  | .float _ => if name ∈ ["real", "imag"] then some "float" else none
  | _ => none

end Attributes

/-- The refusal to set an attribute of a plain value. -/
def Value.refuseAttribute (v : Value) (name : String) : Failure :=
  match Attributes.computedBy? v name with
  | some typeName => .computedAttribute typeName name
  | Option.none =>
      if name ∈ Attributes.common ∨ name ∈ Attributes.own v then
        .readOnlyAttribute v.typeName name
      else .noAttribute v.typeName name

end EntityQuery
