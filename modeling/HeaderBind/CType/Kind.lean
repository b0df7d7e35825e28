/-!
# Kinds of C types

A C type is wrapped according to its kind: how it is declared, filled from an argument, passed to a
call and turned into a result object.
-/

namespace HeaderBind

/-- The integer types, by the C type that stores them. -/
inductive IntegerType where
  | int | int8 | int16 | int32 | int64 | long
  | unsigned | uint8 | uint16 | uint32 | uint64 | ulong
deriving DecidableEq, Repr, Inhabited

namespace IntegerType

/-- The C name of an integer type. -/
def cName : IntegerType → String
  | int => "int"
  | int8 => "int8_t"
  | int16 => "int16_t"
  | int32 => "int32_t"
  | int64 => "int64_t"
  | long => "long"
  | unsigned => "unsigned int"
  | uint8 => "uint8_t"
  | uint16 => "uint16_t"
  | uint32 => "uint32_t"
  | uint64 => "uint64_t"
  | ulong => "unsigned long"

/-- The unit of an argument format string that reads such an integer. -/
def formatUnit : IntegerType → String
  | int | int8 | int16 | int32 => "i"
  | unsigned | uint8 | uint16 | uint32 => "I"
  | int64 => "L"
  | uint64 => "K"
  | long => "l"
  | ulong => "k"

end IntegerType

/-- Integers that a call hands out through a pointer. -/
inductive OutInteger where
  | int | uint32 | uint64
deriving DecidableEq, Repr, Inhabited

/-- The C type of a pointer through which an integer is handed out. -/
def OutInteger.cName : OutInteger → String
  | int => "int *"
  | uint32 => "uint32_t *"
  | uint64 => "uint64_t *"

/-- How a C type is wrapped. -/
inductive Kind where
  /-- A type of which nothing is known. -/
  | plain
  /-- A character string that the wrapper owns. -/
  | string
  /-- A string that ends at its first zero character. -/
  | zeroTerminated
  /-- A string that belongs to somebody else. -/
  | borrowedString
  /-- A string that the call fills in. -/
  | stringOut
  /-- An array of strings. -/
  | stringArray
  /-- A buffer that comes with its length. -/
  | buffer
  /-- A buffer of given length that the call fills in. -/
  | bufferOut
  /-- A counted block of memory. -/
  | blob
  /-- A pointer to a counted block of memory. -/
  | blobPointer
  /-- An integer. -/
  | integer (type : IntegerType)
  /-- A pointer through which an integer is handed out. -/
  | integerOut (type : OutInteger)
  /-- A single character. -/
  | character
  /-- An enumeration of the header. -/
  | enumeration
  /-- No value. -/
  | void
  /-- A pointer to anything. -/
  | voidPointer
  /-- A class of the header. -/
  | object
  /-- A pointer to a class of the header. -/
  | objectPointer
  /-- A struct of the header. -/
  | struct
  /-- A pointer to a struct of the header. -/
  | structPointer
  /-- A point in time. -/
  | timeval
  /-- An object that is passed through untouched. -/
  | pyObject
deriving DecidableEq, Repr, Inhabited

namespace Kind

/-- The name of a kind in comments of the generated code. -/
def label : Kind → String
  | plain => "Type"
  | string => "String"
  | zeroTerminated => "ZString"
  | borrowedString => "BorrowedString"
  | stringOut => "StringOut"
  | stringArray => "StringArray"
  | buffer => "Char_and_Length"
  | bufferOut => "Char_and_Length_OUT"
  | blob => "TDB_DATA"
  | blobPointer => "TDB_DATA_P"
  | integer .int => "Integer"
  | integer .int8 => "Integer8"
  | integer .int16 => "Integer16"
  | integer .int32 => "Integer32"
  | integer .int64 => "Integer64"
  | integer .long => "Long"
  | integer .unsigned => "IntegerUnsigned"
  | integer .uint8 => "Integer8Unsigned"
  | integer .uint16 => "Integer16Unsigned"
  | integer .uint32 => "Integer32Unsigned"
  | integer .uint64 => "Integer64Unsigned"
  | integer .ulong => "LongUnsigned"
  | integerOut .int => "IntegerOut"
  | integerOut .uint32 => "PInteger32UnsignedOut"
  | integerOut .uint64 => "PInteger64UnsignedOut"
  | character => "Char"
  | enumeration => "EnumType"
  | void => "Void"
  | voidPointer => "PVoid"
  | object => "Wrapper"
  | objectPointer => "PointerWrapper"
  | struct => "StructWrapper"
  | structPointer => "PointerStructWrapper"
  | timeval => "Timeval"
  | pyObject => "PyObject"

/-- All kinds. -/
def all : List Kind :=
  [plain, string, zeroTerminated, borrowedString, stringOut, stringArray, buffer, bufferOut, blob,
   blobPointer, integer .int, integer .int8, integer .int16, integer .int32, integer .int64,
   integer .long, integer .unsigned, integer .uint8, integer .uint16, integer .uint32,
   integer .uint64, integer .ulong, integerOut .int, integerOut .uint32, integerOut .uint64,
   character, enumeration, void, voidPointer, object, objectPointer, struct, structPointer,
   timeval, pyObject]

/-- The kind with a given name. -/
def ofLabel? (name : String) : Option Kind :=
  all.find? fun k => k.label == name

/-- Structs are not exposed on their own account: a header has to ask for it. -/
def isActive : Kind → Bool
  | struct | structPointer => false
  | _ => true

/-- The unit of an argument format string that reads a value of this kind. -/
def formatUnit : Kind → String
  | string | zeroTerminated | borrowedString | stringOut | character => "s"
  | buffer => "s#"
  | bufferOut | blob | blobPointer => "l"
  | integer t => t.formatUnit
  | enumeration => "i"
  | integerOut _ | void | voidPointer => ""
  | timeval => "f"
  | plain | stringArray | object | objectPointer | struct | structPointer | pyObject => "O"

/-- Whether a value of this kind is one long integer of the wrapped language or goes out as one. -/
def isIntegral : Kind → Bool
  | integer _ | integerOut _ | character | enumeration => true
  | _ => false

/-- Whether the kind stands for nothing or for anything. -/
def isVoid : Kind → Bool
  | void | voidPointer => true
  | _ => false

/-- Whether the kind is a character string. -/
def isString : Kind → Bool
  | string | zeroTerminated | borrowedString | stringOut | stringArray => true
  | _ => false

/-- Whether the kind is a buffer with a length. -/
def isBuffer : Kind → Bool
  | buffer | bufferOut | blob | blobPointer => true
  | _ => false

/-- Whether the kind is a class or struct of the header. -/
def isWrapped : Kind → Bool
  | object | objectPointer | struct | structPointer => true
  | _ => false

/-- Whether the kind is a struct of the header. -/
def isStruct : Kind → Bool
  | struct | structPointer => true
  | _ => false

end Kind

end HeaderBind
