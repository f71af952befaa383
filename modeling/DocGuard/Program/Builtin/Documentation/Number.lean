import DocGuard.Program.Builtin.Documentation.Entry
/-!
What the methods of numbers say of themselves.
-/

namespace DocGuard.Documentation

/-- The members of the class `int`. -/
def intMembers : List Entry :=
  [("conjugate", "", "Returns self, the complex conjugate of any int."),
   ("bit_length", "($self, /)",
     "Number of bits necessary to represent self in binary.\n\n>>> bin(37)\n'0b100101'\n" ++
     ">>> (37).bit_length()\n6"),
   ("bit_count", "($self, /)",
     "Number of ones in the binary representation of the absolute value of self.\n\nAlso " ++
     "known as the population count.\n\n>>> bin(13)\n'0b1101'\n>>> (13).bit_count()\n3"),
   ("to_bytes", "($self, /, length=1, byteorder='big', *, signed=False)",
     "Return an array of bytes representing an integer.\n\n  length\n    Length of bytes " ++
     "object to use.  An OverflowError is raised if the\n    integer is not representable" ++
     " with the given number of bytes.  Default\n    is length 1.\n  byteorder\n    The " ++
     "byte order used to represent the integer.  If byteorder is 'big',\n    the most " ++
     "significant byte is at the beginning of the byte array.  If\n    byteorder is " ++
     "'little', the most significant byte is at the end of the\n    byte array.  To " ++
     "request the native byte order of the host system, use\n    `sys.byteorder' as the " ++
     "byte order value.  Default is to use 'big'.\n  signed\n    Determines whether two's" ++
     " complement is used to represent the integer.\n    If signed is False and a " ++
     "negative integer is given, an OverflowError\n    is raised."),
   ("from_bytes", "($type, /, bytes, byteorder='big', *, signed=False)",
     "Return the integer represented by the given array of bytes.\n\n  bytes\n    Holds " ++
     "the array of bytes to convert.  The argument must either\n    support the buffer " ++
     "protocol or be an iterable object producing bytes.\n    Bytes and bytearray are " ++
     "examples of built-in objects that support the\n    buffer protocol.\n  byteorder" ++
     "\n    The byte order used to represent the integer.  If byteorder is 'big',\n    " ++
     "the most significant byte is at the beginning of the byte array.  If\n    byteorder" ++
     " is 'little', the most significant byte is at the end of the\n    byte array.  To " ++
     "request the native byte order of the host system, use\n    `sys.byteorder' as the " ++
     "byte order value.  Default is to use 'big'.\n  signed\n    Indicates whether two's " ++
     "complement is used to represent the integer."),
   ("as_integer_ratio", "($self, /)",
     "Return integer ratio.\n\nReturn a pair of integers, whose ratio is exactly equal to" ++
     " the original int\nand with a positive denominator.\n\n>>> (10).as_integer_ratio()" ++
     "\n(10, 1)\n>>> (-10).as_integer_ratio()\n(-10, 1)\n>>> (0).as_integer_ratio()\n(0, " ++
     "1)"),
   ("__trunc__", "", "Truncating an Integral returns itself."),
   ("__floor__", "", "Flooring an Integral returns itself."),
   ("__ceil__", "", "Ceiling of an Integral returns itself."),
   ("__round__", "($self, ndigits=<unrepresentable>, /)",
     "Rounding an Integral returns itself.\n\nRounding with an ndigits argument also " ++
     "returns an integer."),
   ("__getnewargs__", "($self, /)", ""),
   ("__format__", "($self, format_spec, /)", ""),
   ("__sizeof__", "($self, /)", "Returns size in memory, in bytes.")]

/-- The members of the class `float`. -/
def floatMembers : List Entry :=
  [("conjugate", "($self, /)", "Return self, the complex conjugate of any float."),
   ("__trunc__", "($self, /)", "Return the Integral closest to x between 0 and x."),
   ("__floor__", "($self, /)", "Return the floor as an Integral."),
   ("__ceil__", "($self, /)", "Return the ceiling as an Integral."),
   ("__round__", "($self, ndigits=None, /)",
     "Return the Integral closest to x, rounding half toward even.\n\nWhen an argument is" ++
     " passed, work like built-in round(x, ndigits)."),
   ("as_integer_ratio", "($self, /)",
     "Return integer ratio.\n\nReturn a pair of integers, whose ratio is exactly equal to" ++
     " the original float\nand with a positive denominator.\n\nRaise OverflowError on " ++
     "infinities and a ValueError on NaNs.\n\n>>> (10.0).as_integer_ratio()\n(10, 1)\n>>>" ++
     " (0.0).as_integer_ratio()\n(0, 1)\n>>> (-.25).as_integer_ratio()\n(-1, 4)"),
   ("fromhex", "($type, string, /)",
     "Create a floating-point number from a hexadecimal string.\n\n>>> " ++
     "float.fromhex('0x1.ffffp10')\n2047.984375\n>>> float.fromhex('-0x1p-1074')\n-5e-324"),
   ("hex", "($self, /)",
     "Return a hexadecimal representation of a floating-point number.\n\n>>> (-0.1).hex()" ++
     "\n'-0x1.999999999999ap-4'\n>>> 3.14159.hex()\n'0x1.921f9f01b866ep+1'"),
   ("is_integer", "($self, /)", "Return True if the float is an integer."),
   ("__getnewargs__", "($self, /)", ""),
   ("__getformat__", "($type, typestr, /)",
     "You probably don't want to use this function.\n\n  typestr\n    Must be 'double' or" ++
     " 'float'.\n\nIt exists mainly to be used in Python's test suite.\n\nThis function " ++
     "returns whichever of 'unknown', 'IEEE, big-endian' or 'IEEE,\nlittle-endian' best " ++
     "describes the format of floating point numbers used by the\nC type named by " ++
     "typestr."),
   ("__format__", "($self, format_spec, /)", "Formats the float according to format_spec.")]

/-- The members of the class `complex`. -/
def complexMembers : List Entry :=
  [("conjugate", "($self, /)",
     "Return the complex conjugate of its argument. (3-4j).conjugate() == 3+4j."),
   ("__complex__", "($self, /)", "Convert this value to exact type complex."),
   ("__getnewargs__", "($self, /)", ""),
   ("__format__", "($self, format_spec, /)", "Convert to a string according to format_spec.")]

/-- The members of these classes. -/
def ofNumber : List (String × List Entry) :=
  [("int", intMembers),
   ("float", floatMembers),
   ("complex", complexMembers)]

end DocGuard.Documentation
