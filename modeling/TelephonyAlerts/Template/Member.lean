import TelephonyAlerts.Template.Error

/-!
# Members of texts and numbers

Behind a point a path goes on to a member of a value. A text or a number has its kind
for a member, a description of the kind, and methods: those that stand for an operation
of the language, those of the value, and those that it has from its kind. A kind or a
method is a thing that is neither text nor number. It is written by what it is, and no
path is followed behind it.
-/

namespace TelephonyAlerts.Template

inductive Thing
  | kind (k : ArgKind)
  /-- An operation of the language, bound to a value. -/
  | operation (name : String) (k : ArgKind)
  | method (name : String) (k : ArgKind)
  /-- A method that a value has from its kind. -/
  | kindMethod (name : String)
  deriving DecidableEq, Repr

namespace Thing

/-- What messages call the type of a thing. -/
def typeName : Thing → String
  | kind _ => "type"
  | operation .. => "method-wrapper"
  | method .. | kindMethod _ => "builtin_function_or_method"

/-- What messages call a thing that is no collection. -/
def described : Thing → String
  | kind k => s!"type '{k.name}'"
  | t => s!"'{t.typeName}' object"

/-- A thing as text. A method is written with its place in memory, which no one can tell
beforehand; `ADDR` stands for it. -/
def shown : Thing → String
  | kind k => s!"<class '{k.name}'>"
  | operation name k => s!"<method-wrapper '{name}' of {k.name} object at ADDR>"
  | method name k => s!"<built-in method {name} of {k.name} object at ADDR>"
  | kindMethod name => s!"<built-in method {name} of type object at ADDR>"

end Thing

namespace ArgKind

/-- The names of methods that texts and numbers have alike stand first in each table. -/
def operations (k : ArgKind) : List String :=
  ["__add__", "__delattr__", "__eq__", "__ge__", "__getattribute__", "__gt__", "__hash__",
   "__init__", "__le__", "__lt__", "__mod__", "__mul__", "__ne__", "__repr__", "__rmod__",
   "__rmul__", "__setattr__", "__str__"] ++
  match k with
  | text => ["__contains__", "__getitem__", "__iter__", "__len__"]
  | number =>
    ["__abs__", "__and__", "__bool__", "__divmod__", "__float__", "__floordiv__", "__index__",
     "__int__", "__invert__", "__lshift__", "__neg__", "__or__", "__pos__", "__pow__",
     "__radd__", "__rand__", "__rdivmod__", "__rfloordiv__", "__rlshift__", "__ror__",
     "__rpow__", "__rrshift__", "__rshift__", "__rsub__", "__rtruediv__", "__rxor__", "__sub__",
     "__truediv__", "__xor__"]

def methods (k : ArgKind) : List String :=
  ["__dir__", "__format__", "__getnewargs__", "__getstate__", "__reduce__", "__reduce_ex__",
   "__sizeof__"] ++
  match k with
  | text =>
    ["capitalize", "casefold", "center", "count", "encode", "endswith", "expandtabs", "find",
     "format", "format_map", "index", "isalnum", "isalpha", "isascii", "isdecimal", "isdigit",
     "isidentifier", "islower", "isnumeric", "isprintable", "isspace", "istitle", "isupper",
     "join", "ljust", "lower", "lstrip", "partition", "removeprefix", "removesuffix", "replace",
     "rfind", "rindex", "rjust", "rpartition", "rsplit", "rstrip", "split", "splitlines",
     "startswith", "strip", "swapcase", "title", "translate", "upper", "zfill"]
  | number =>
    ["__ceil__", "__floor__", "__round__", "__trunc__", "as_integer_ratio", "bit_count",
     "bit_length", "conjugate", "to_bytes"]

def kindMethods (k : ArgKind) : List String :=
  ["__init_subclass__", "__new__", "__subclasshook__"] ++
  match k with
  | text => ["maketrans"]
  | number => ["from_bytes"]

/-- What a kind says of itself. -/
def doc : ArgKind → String
  | text =>
    "str(object='') -> str\n" ++
      "str(bytes_or_buffer[, encoding[, errors]]) -> str\n\n" ++
      "Create a new string object from the given object. If encoding or\n" ++
      "errors is specified, then the object must expose a data buffer\n" ++
      "that will be decoded using the given encoding and error handler.\n" ++
      "Otherwise, returns the result of object.__str__() (if defined)\n" ++
      "or repr(object).\n" ++
      "encoding defaults to sys.getdefaultencoding().\n" ++
      "errors defaults to 'strict'."
  | number =>
    "int([x]) -> integer\n" ++
      "int(x, base=10) -> integer\n\n" ++
      "Convert a number or string to an integer, or return 0 if no arguments\n" ++
      "are given.  If x is a number, return x.__int__().  For floating point\n" ++
      "numbers, this truncates towards zero.\n\n" ++
      "If x is not a number or if base is given, then x must be a string,\n" ++
      "bytes, or bytearray instance representing an integer literal in the\n" ++
      "given base.  The literal can be preceded by '+' or '-' and be surrounded\n" ++
      "by whitespace.  The base defaults to 10.  Valid bases are 0 and 2-36.\n" ++
      "Base 0 means to interpret the base from the string as an integer literal.\n" ++
      ">>> int('0b100', base=0)\n" ++
      "4"

/-- The kind or method that stands at a member of every value of a kind. -/
def thing? (k : ArgKind) (name : String) : Option Thing :=
  if name = "__class__" then some (.kind k)
  else if name ∈ k.operations then some (.operation name k)
  else if name ∈ k.methods then some (.method name k)
  else if name ∈ k.kindMethods then some (.kindMethod name)
  else none

end ArgKind

end TelephonyAlerts.Template
