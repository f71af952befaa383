import DocGuard.Program.Builtin.Documentation.Entry
/-!
What the methods of bytes say of themselves.
-/

namespace DocGuard.Documentation

/-- The members of the class `bytes`. -/
def bytesMembers : List Entry :=
  [("__getnewargs__", "", ""),
   ("__bytes__", "($self, /)", "Convert this value to exact type bytes."),
   ("capitalize", "",
     "B.capitalize() -> copy of B\n\nReturn a copy of B with only its first character " ++
     "capitalized (ASCII)\nand the rest lower-cased."),
   ("center", "($self, width, fillchar=b' ', /)",
     "Return a centered string of length width.\n\nPadding is done using the specified " ++
     "fill character."),
   ("count", "",
     "B.count(sub[, start[, end]]) -> int\n\nReturn the number of non-overlapping " ++
     "occurrences of subsection sub in\nbytes B[start:end].  Optional arguments start and" ++
     " end are interpreted\nas in slice notation."),
   ("decode", "($self, /, encoding='utf-8', errors='strict')",
     "Decode the bytes using the codec registered for encoding.\n\n  encoding\n    The " ++
     "encoding with which to decode the bytes.\n  errors\n    The error handling scheme " ++
     "to use for the handling of decoding errors.\n    The default is 'strict' meaning " ++
     "that decoding errors raise a\n    UnicodeDecodeError. Other possible values are " ++
     "'ignore' and 'replace'\n    as well as any other name registered with " ++
     "codecs.register_error that\n    can handle UnicodeDecodeErrors."),
   ("endswith", "",
     "B.endswith(suffix[, start[, end]]) -> bool\n\nReturn True if B ends with the " ++
     "specified suffix, False otherwise.\nWith optional start, test B beginning at that " ++
     "position.\nWith optional end, stop comparing B at that position.\nsuffix can also " ++
     "be a tuple of bytes to try."),
   ("expandtabs", "($self, /, tabsize=8)",
     "Return a copy where all tab characters are expanded using spaces.\n\nIf tabsize is " ++
     "not given, a tab size of 8 characters is assumed."),
   ("find", "",
     "B.find(sub[, start[, end]]) -> int\n\nReturn the lowest index in B where subsection" ++
     " sub is found,\nsuch that sub is contained within B[start,end].  Optional\n" ++
     "arguments start and end are interpreted as in slice notation.\n\nReturn -1 on " ++
     "failure."),
   ("fromhex", "($type, string, /)",
     "Create a bytes object from a string of hexadecimal numbers.\n\nSpaces between two " ++
     "numbers are accepted.\nExample: bytes.fromhex('B9 01EF') -> " ++
     "b'\\\\xb9\\\\x01\\\\xef'."),
   ("hex", "($self, /, sep=<unrepresentable>, bytes_per_sep=1)",
     "Create a string of hexadecimal numbers from a bytes object.\n\n  sep\n    An " ++
     "optional single character or byte to separate hex bytes.\n  bytes_per_sep\n    How " ++
     "many bytes between separators.  Positive values count from the\n    right, negative" ++
     " values count from the left.\n\nExample:\n>>> value = b'\\xb9\\x01\\xef'\n>>> " ++
     "value.hex()\n'b901ef'\n>>> value.hex(':')\n'b9:01:ef'\n>>> value.hex(':', 2)\n" ++
     "'b9:01ef'\n>>> value.hex(':', -2)\n'b901:ef'"),
   ("index", "",
     "B.index(sub[, start[, end]]) -> int\n\nReturn the lowest index in B where " ++
     "subsection sub is found,\nsuch that sub is contained within B[start,end].  Optional" ++
     "\narguments start and end are interpreted as in slice notation.\n\nRaises " ++
     "ValueError when the subsection is not found."),
   ("isalnum", "",
     "B.isalnum() -> bool\n\nReturn True if all characters in B are alphanumeric\nand " ++
     "there is at least one character in B, False otherwise."),
   ("isalpha", "",
     "B.isalpha() -> bool\n\nReturn True if all characters in B are alphabetic\nand there" ++
     " is at least one character in B, False otherwise."),
   ("isascii", "",
     "B.isascii() -> bool\n\nReturn True if B is empty or all characters in B are ASCII," ++
     "\nFalse otherwise."),
   ("isdigit", "",
     "B.isdigit() -> bool\n\nReturn True if all characters in B are digits\nand there is " ++
     "at least one character in B, False otherwise."),
   ("islower", "",
     "B.islower() -> bool\n\nReturn True if all cased characters in B are lowercase and " ++
     "there is\nat least one cased character in B, False otherwise."),
   ("isspace", "",
     "B.isspace() -> bool\n\nReturn True if all characters in B are whitespace\nand there" ++
     " is at least one character in B, False otherwise."),
   ("istitle", "",
     "B.istitle() -> bool\n\nReturn True if B is a titlecased string and there is at " ++
     "least one\ncharacter in B, i.e. uppercase characters may only follow uncased\n" ++
     "characters and lowercase characters only cased ones. Return False\notherwise."),
   ("isupper", "",
     "B.isupper() -> bool\n\nReturn True if all cased characters in B are uppercase and " ++
     "there is\nat least one cased character in B, False otherwise."),
   ("join", "($self, iterable_of_bytes, /)",
     "Concatenate any number of bytes objects.\n\nThe bytes whose method is called is " ++
     "inserted in between each pair.\n\nThe result is returned as a new bytes object.\n\n" ++
     "Example: b'.'.join([b'ab', b'pq', b'rs']) -> b'ab.pq.rs'."),
   ("ljust", "($self, width, fillchar=b' ', /)",
     "Return a left-justified string of length width.\n\nPadding is done using the " ++
     "specified fill character."),
   ("lower", "",
     "B.lower() -> copy of B\n\nReturn a copy of B with all ASCII characters converted to" ++
     " lowercase."),
   ("lstrip", "($self, bytes=None, /)",
     "Strip leading bytes contained in the argument.\n\nIf the argument is omitted or " ++
     "None, strip leading  ASCII whitespace."),
   ("maketrans", "(frm, to, /)",
     "Return a translation table useable for the bytes or bytearray translate method.\n\n" ++
     "The returned table will be one where each byte in frm is mapped to the byte at\nthe" ++
     " same position in to.\n\nThe bytes objects frm and to must be of the same length."),
   ("partition", "($self, sep, /)",
     "Partition the bytes into three parts using the given separator.\n\nThis will search" ++
     " for the separator sep in the bytes. If the separator is found,\nreturns a 3-tuple " ++
     "containing the part before the separator, the separator\nitself, and the part after" ++
     " it.\n\nIf the separator is not found, returns a 3-tuple containing the original " ++
     "bytes\nobject and two empty bytes objects."),
   ("replace", "($self, old, new, count=-1, /)",
     "Return a copy with all occurrences of substring old replaced by new.\n\n  count" ++
     "\n    Maximum number of occurrences to replace.\n    -1 (the default value) means " ++
     "replace all occurrences.\n\nIf the optional argument count is given, only the first" ++
     " count occurrences are\nreplaced."),
   ("removeprefix", "($self, prefix, /)",
     "Return a bytes object with the given prefix string removed if present.\n\nIf the " ++
     "bytes starts with the prefix string, return bytes[len(prefix):].\nOtherwise, return" ++
     " a copy of the original bytes."),
   ("removesuffix", "($self, suffix, /)",
     "Return a bytes object with the given suffix string removed if present.\n\nIf the " ++
     "bytes ends with the suffix string and that suffix is not empty,\nreturn " ++
     "bytes[:-len(prefix)].  Otherwise, return a copy of the original\nbytes."),
   ("rfind", "",
     "B.rfind(sub[, start[, end]]) -> int\n\nReturn the highest index in B where " ++
     "subsection sub is found,\nsuch that sub is contained within B[start,end].  Optional" ++
     "\narguments start and end are interpreted as in slice notation.\n\nReturn -1 on " ++
     "failure."),
   ("rindex", "",
     "B.rindex(sub[, start[, end]]) -> int\n\nReturn the highest index in B where " ++
     "subsection sub is found,\nsuch that sub is contained within B[start,end].  Optional" ++
     "\narguments start and end are interpreted as in slice notation.\n\nRaise ValueError" ++
     " when the subsection is not found."),
   ("rjust", "($self, width, fillchar=b' ', /)",
     "Return a right-justified string of length width.\n\nPadding is done using the " ++
     "specified fill character."),
   ("rpartition", "($self, sep, /)",
     "Partition the bytes into three parts using the given separator.\n\nThis will search" ++
     " for the separator sep in the bytes, starting at the end. If\nthe separator is " ++
     "found, returns a 3-tuple containing the part before the\nseparator, the separator " ++
     "itself, and the part after it.\n\nIf the separator is not found, returns a 3-tuple " ++
     "containing two empty bytes\nobjects and the original bytes object."),
   ("rsplit", "($self, /, sep=None, maxsplit=-1)",
     "Return a list of the sections in the bytes, using sep as the delimiter.\n\n  sep" ++
     "\n    The delimiter according which to split the bytes.\n    None (the default " ++
     "value) means split on ASCII whitespace characters\n    (space, tab, return, " ++
     "newline, formfeed, vertical tab).\n  maxsplit\n    Maximum number of splits to do." ++
     "\n    -1 (the default value) means no limit.\n\nSplitting is done starting at the " ++
     "end of the bytes and working to the front."),
   ("rstrip", "($self, bytes=None, /)",
     "Strip trailing bytes contained in the argument.\n\nIf the argument is omitted or " ++
     "None, strip trailing ASCII whitespace."),
   ("split", "($self, /, sep=None, maxsplit=-1)",
     "Return a list of the sections in the bytes, using sep as the delimiter.\n\n  sep" ++
     "\n    The delimiter according which to split the bytes.\n    None (the default " ++
     "value) means split on ASCII whitespace characters\n    (space, tab, return, " ++
     "newline, formfeed, vertical tab).\n  maxsplit\n    Maximum number of splits to do." ++
     "\n    -1 (the default value) means no limit."),
   ("splitlines", "($self, /, keepends=False)",
     "Return a list of the lines in the bytes, breaking at line boundaries.\n\nLine " ++
     "breaks are not included in the resulting list unless keepends is given and\ntrue."),
   ("startswith", "",
     "B.startswith(prefix[, start[, end]]) -> bool\n\nReturn True if B starts with the " ++
     "specified prefix, False otherwise.\nWith optional start, test B beginning at that " ++
     "position.\nWith optional end, stop comparing B at that position.\nprefix can also " ++
     "be a tuple of bytes to try."),
   ("strip", "($self, bytes=None, /)",
     "Strip leading and trailing bytes contained in the argument.\n\nIf the argument is " ++
     "omitted or None, strip leading and trailing ASCII whitespace."),
   ("swapcase", "",
     "B.swapcase() -> copy of B\n\nReturn a copy of B with uppercase ASCII characters " ++
     "converted\nto lowercase ASCII and vice versa."),
   ("title", "",
     "B.title() -> copy of B\n\nReturn a titlecased version of B, i.e. ASCII words start " ++
     "with uppercase\ncharacters, all remaining cased characters have lowercase."),
   ("translate", "($self, table, /, delete=b'')",
     "Return a copy with each character mapped by the given translation table.\n\n  table" ++
     "\n    Translation table, which must be a bytes object of length 256.\n\nAll " ++
     "characters occurring in the optional argument delete are removed.\nThe remaining " ++
     "characters are mapped through the given translation table."),
   ("upper", "",
     "B.upper() -> copy of B\n\nReturn a copy of B with all ASCII characters converted to" ++
     " uppercase."),
   ("zfill", "($self, width, /)",
     "Pad a numeric string with zeros on the left, to fill a field of the given width." ++
     "\n\nThe original string is never truncated.")]

/-- The members of the class `bytearray`. -/
def bytearrayMembers : List Entry :=
  [("__alloc__", "", "B.__alloc__() -> int\n\nReturn the number of bytes actually allocated."),
   ("__reduce__", "($self, /)", "Return state information for pickling."),
   ("__reduce_ex__", "($self, proto=0, /)", "Return state information for pickling."),
   ("__sizeof__", "($self, /)", "Returns the size of the bytearray object in memory, in bytes."),
   ("append", "($self, item, /)",
     "Append a single item to the end of the bytearray.\n\n  item\n    The item to be " ++
     "appended."),
   ("capitalize", "",
     "B.capitalize() -> copy of B\n\nReturn a copy of B with only its first character " ++
     "capitalized (ASCII)\nand the rest lower-cased."),
   ("center", "($self, width, fillchar=b' ', /)",
     "Return a centered string of length width.\n\nPadding is done using the specified " ++
     "fill character."),
   ("clear", "($self, /)", "Remove all items from the bytearray."),
   ("copy", "($self, /)", "Return a copy of B."),
   ("count", "",
     "B.count(sub[, start[, end]]) -> int\n\nReturn the number of non-overlapping " ++
     "occurrences of subsection sub in\nbytes B[start:end].  Optional arguments start and" ++
     " end are interpreted\nas in slice notation."),
   ("decode", "($self, /, encoding='utf-8', errors='strict')",
     "Decode the bytearray using the codec registered for encoding.\n\n  encoding\n    " ++
     "The encoding with which to decode the bytearray.\n  errors\n    The error handling " ++
     "scheme to use for the handling of decoding errors.\n    The default is 'strict' " ++
     "meaning that decoding errors raise a\n    UnicodeDecodeError. Other possible values" ++
     " are 'ignore' and 'replace'\n    as well as any other name registered with " ++
     "codecs.register_error that\n    can handle UnicodeDecodeErrors."),
   ("endswith", "",
     "B.endswith(suffix[, start[, end]]) -> bool\n\nReturn True if B ends with the " ++
     "specified suffix, False otherwise.\nWith optional start, test B beginning at that " ++
     "position.\nWith optional end, stop comparing B at that position.\nsuffix can also " ++
     "be a tuple of bytes to try."),
   ("expandtabs", "($self, /, tabsize=8)",
     "Return a copy where all tab characters are expanded using spaces.\n\nIf tabsize is " ++
     "not given, a tab size of 8 characters is assumed."),
   ("extend", "($self, iterable_of_ints, /)",
     "Append all the items from the iterator or sequence to the end of the bytearray." ++
     "\n\n  iterable_of_ints\n    The iterable of items to append."),
   ("find", "",
     "B.find(sub[, start[, end]]) -> int\n\nReturn the lowest index in B where subsection" ++
     " sub is found,\nsuch that sub is contained within B[start,end].  Optional\n" ++
     "arguments start and end are interpreted as in slice notation.\n\nReturn -1 on " ++
     "failure."),
   ("fromhex", "($type, string, /)",
     "Create a bytearray object from a string of hexadecimal numbers.\n\nSpaces between " ++
     "two numbers are accepted.\nExample: bytearray.fromhex('B9 01EF') -> " ++
     "bytearray(b'\\\\xb9\\\\x01\\\\xef')"),
   ("hex", "($self, /, sep=<unrepresentable>, bytes_per_sep=1)",
     "Create a string of hexadecimal numbers from a bytearray object.\n\n  sep\n    An " ++
     "optional single character or byte to separate hex bytes.\n  bytes_per_sep\n    How " ++
     "many bytes between separators.  Positive values count from the\n    right, negative" ++
     " values count from the left.\n\nExample:\n>>> value = bytearray([0xb9, 0x01, 0xef])" ++
     "\n>>> value.hex()\n'b901ef'\n>>> value.hex(':')\n'b9:01:ef'\n>>> value.hex(':', 2)" ++
     "\n'b9:01ef'\n>>> value.hex(':', -2)\n'b901:ef'"),
   ("index", "",
     "B.index(sub[, start[, end]]) -> int\n\nReturn the lowest index in B where " ++
     "subsection sub is found,\nsuch that sub is contained within B[start,end].  Optional" ++
     "\narguments start and end are interpreted as in slice notation.\n\nRaises " ++
     "ValueError when the subsection is not found."),
   ("insert", "($self, index, item, /)",
     "Insert a single item into the bytearray before the given index.\n\n  index\n    The" ++
     " index where the value is to be inserted.\n  item\n    The item to be inserted."),
   ("isalnum", "",
     "B.isalnum() -> bool\n\nReturn True if all characters in B are alphanumeric\nand " ++
     "there is at least one character in B, False otherwise."),
   ("isalpha", "",
     "B.isalpha() -> bool\n\nReturn True if all characters in B are alphabetic\nand there" ++
     " is at least one character in B, False otherwise."),
   ("isascii", "",
     "B.isascii() -> bool\n\nReturn True if B is empty or all characters in B are ASCII," ++
     "\nFalse otherwise."),
   ("isdigit", "",
     "B.isdigit() -> bool\n\nReturn True if all characters in B are digits\nand there is " ++
     "at least one character in B, False otherwise."),
   ("islower", "",
     "B.islower() -> bool\n\nReturn True if all cased characters in B are lowercase and " ++
     "there is\nat least one cased character in B, False otherwise."),
   ("isspace", "",
     "B.isspace() -> bool\n\nReturn True if all characters in B are whitespace\nand there" ++
     " is at least one character in B, False otherwise."),
   ("istitle", "",
     "B.istitle() -> bool\n\nReturn True if B is a titlecased string and there is at " ++
     "least one\ncharacter in B, i.e. uppercase characters may only follow uncased\n" ++
     "characters and lowercase characters only cased ones. Return False\notherwise."),
   ("isupper", "",
     "B.isupper() -> bool\n\nReturn True if all cased characters in B are uppercase and " ++
     "there is\nat least one cased character in B, False otherwise."),
   ("join", "($self, iterable_of_bytes, /)",
     "Concatenate any number of bytes/bytearray objects.\n\nThe bytearray whose method is" ++
     " called is inserted in between each pair.\n\nThe result is returned as a new " ++
     "bytearray object."),
   ("ljust", "($self, width, fillchar=b' ', /)",
     "Return a left-justified string of length width.\n\nPadding is done using the " ++
     "specified fill character."),
   ("lower", "",
     "B.lower() -> copy of B\n\nReturn a copy of B with all ASCII characters converted to" ++
     " lowercase."),
   ("lstrip", "($self, bytes=None, /)",
     "Strip leading bytes contained in the argument.\n\nIf the argument is omitted or " ++
     "None, strip leading ASCII whitespace."),
   ("maketrans", "(frm, to, /)",
     "Return a translation table useable for the bytes or bytearray translate method.\n\n" ++
     "The returned table will be one where each byte in frm is mapped to the byte at\nthe" ++
     " same position in to.\n\nThe bytes objects frm and to must be of the same length."),
   ("partition", "($self, sep, /)",
     "Partition the bytearray into three parts using the given separator.\n\nThis will " ++
     "search for the separator sep in the bytearray. If the separator is\nfound, returns " ++
     "a 3-tuple containing the part before the separator, the\nseparator itself, and the " ++
     "part after it as new bytearray objects.\n\nIf the separator is not found, returns a" ++
     " 3-tuple containing the copy of the\noriginal bytearray object and two empty " ++
     "bytearray objects."),
   ("pop", "($self, index=-1, /)",
     "Remove and return a single item from B.\n\n  index\n    The index from where to " ++
     "remove the item.\n    -1 (the default value) means remove the last item.\n\nIf no " ++
     "index argument is given, will pop the last item."),
   ("remove", "($self, value, /)",
     "Remove the first occurrence of a value in the bytearray.\n\n  value\n    The value " ++
     "to remove."),
   ("replace", "($self, old, new, count=-1, /)",
     "Return a copy with all occurrences of substring old replaced by new.\n\n  count" ++
     "\n    Maximum number of occurrences to replace.\n    -1 (the default value) means " ++
     "replace all occurrences.\n\nIf the optional argument count is given, only the first" ++
     " count occurrences are\nreplaced."),
   ("removeprefix", "($self, prefix, /)",
     "Return a bytearray with the given prefix string removed if present.\n\nIf the " ++
     "bytearray starts with the prefix string, return\nbytearray[len(prefix):].  " ++
     "Otherwise, return a copy of the original\nbytearray."),
   ("removesuffix", "($self, suffix, /)",
     "Return a bytearray with the given suffix string removed if present.\n\nIf the " ++
     "bytearray ends with the suffix string and that suffix is not\nempty, return " ++
     "bytearray[:-len(suffix)].  Otherwise, return a copy of\nthe original bytearray."),
   ("reverse", "($self, /)", "Reverse the order of the values in B in place."),
   ("rfind", "",
     "B.rfind(sub[, start[, end]]) -> int\n\nReturn the highest index in B where " ++
     "subsection sub is found,\nsuch that sub is contained within B[start,end].  Optional" ++
     "\narguments start and end are interpreted as in slice notation.\n\nReturn -1 on " ++
     "failure."),
   ("rindex", "",
     "B.rindex(sub[, start[, end]]) -> int\n\nReturn the highest index in B where " ++
     "subsection sub is found,\nsuch that sub is contained within B[start,end].  Optional" ++
     "\narguments start and end are interpreted as in slice notation.\n\nRaise ValueError" ++
     " when the subsection is not found."),
   ("rjust", "($self, width, fillchar=b' ', /)",
     "Return a right-justified string of length width.\n\nPadding is done using the " ++
     "specified fill character."),
   ("rpartition", "($self, sep, /)",
     "Partition the bytearray into three parts using the given separator.\n\nThis will " ++
     "search for the separator sep in the bytearray, starting at the end.\nIf the " ++
     "separator is found, returns a 3-tuple containing the part before the\nseparator, " ++
     "the separator itself, and the part after it as new bytearray\nobjects.\n\nIf the " ++
     "separator is not found, returns a 3-tuple containing two empty bytearray\nobjects " ++
     "and the copy of the original bytearray object."),
   ("rsplit", "($self, /, sep=None, maxsplit=-1)",
     "Return a list of the sections in the bytearray, using sep as the delimiter.\n\n  " ++
     "sep\n    The delimiter according which to split the bytearray.\n    None (the " ++
     "default value) means split on ASCII whitespace characters\n    (space, tab, return," ++
     " newline, formfeed, vertical tab).\n  maxsplit\n    Maximum number of splits to do." ++
     "\n    -1 (the default value) means no limit.\n\nSplitting is done starting at the " ++
     "end of the bytearray and working to the front."),
   ("rstrip", "($self, bytes=None, /)",
     "Strip trailing bytes contained in the argument.\n\nIf the argument is omitted or " ++
     "None, strip trailing ASCII whitespace."),
   ("split", "($self, /, sep=None, maxsplit=-1)",
     "Return a list of the sections in the bytearray, using sep as the delimiter.\n\n  " ++
     "sep\n    The delimiter according which to split the bytearray.\n    None (the " ++
     "default value) means split on ASCII whitespace characters\n    (space, tab, return," ++
     " newline, formfeed, vertical tab).\n  maxsplit\n    Maximum number of splits to do." ++
     "\n    -1 (the default value) means no limit."),
   ("splitlines", "($self, /, keepends=False)",
     "Return a list of the lines in the bytearray, breaking at line boundaries.\n\nLine " ++
     "breaks are not included in the resulting list unless keepends is given and\ntrue."),
   ("startswith", "",
     "B.startswith(prefix[, start[, end]]) -> bool\n\nReturn True if B starts with the " ++
     "specified prefix, False otherwise.\nWith optional start, test B beginning at that " ++
     "position.\nWith optional end, stop comparing B at that position.\nprefix can also " ++
     "be a tuple of bytes to try."),
   ("strip", "($self, bytes=None, /)",
     "Strip leading and trailing bytes contained in the argument.\n\nIf the argument is " ++
     "omitted or None, strip leading and trailing ASCII whitespace."),
   ("swapcase", "",
     "B.swapcase() -> copy of B\n\nReturn a copy of B with uppercase ASCII characters " ++
     "converted\nto lowercase ASCII and vice versa."),
   ("title", "",
     "B.title() -> copy of B\n\nReturn a titlecased version of B, i.e. ASCII words start " ++
     "with uppercase\ncharacters, all remaining cased characters have lowercase."),
   ("translate", "($self, table, /, delete=b'')",
     "Return a copy with each character mapped by the given translation table.\n\n  table" ++
     "\n    Translation table, which must be a bytes object of length 256.\n\nAll " ++
     "characters occurring in the optional argument delete are removed.\nThe remaining " ++
     "characters are mapped through the given translation table."),
   ("upper", "",
     "B.upper() -> copy of B\n\nReturn a copy of B with all ASCII characters converted to" ++
     " uppercase."),
   ("zfill", "($self, width, /)",
     "Pad a numeric string with zeros on the left, to fill a field of the given width." ++
     "\n\nThe original string is never truncated.")]

/-- The members of the class `memoryview`. -/
def memoryviewMembers : List Entry :=
  [("release", "($self, /)", "Release the underlying buffer exposed by the memoryview object."),
   ("tobytes", "($self, /, order='C')",
     "Return the data in the buffer as a byte string.\n\nOrder can be \x7b'C', 'F', " ++
     "'A'\x7d. When order is 'C' or 'F', the data of the\noriginal array is converted to " ++
     "C or Fortran order. For contiguous views,\n'A' returns an exact copy of the " ++
     "physical memory. In particular, in-memory\nFortran order is preserved. For " ++
     "non-contiguous views, the data is converted\nto C first. order=None is the same as " ++
     "order='C'."),
   ("hex", "($self, /, sep=<unrepresentable>, bytes_per_sep=1)",
     "Return the data in the buffer as a str of hexadecimal numbers.\n\n  sep\n    An " ++
     "optional single character or byte to separate hex bytes.\n  bytes_per_sep\n    How " ++
     "many bytes between separators.  Positive values count from the\n    right, negative" ++
     " values count from the left.\n\nExample:\n>>> value = " ++
     "memoryview(b'\\xb9\\x01\\xef')\n>>> value.hex()\n'b901ef'\n>>> value.hex(':')\n" ++
     "'b9:01:ef'\n>>> value.hex(':', 2)\n'b9:01ef'\n>>> value.hex(':', -2)\n'b901:ef'"),
   ("tolist", "($self, /)", "Return the data in the buffer as a list of elements."),
   ("cast", "($self, /, format, shape=<unrepresentable>)",
     "Cast a memoryview to a new format or shape."),
   ("toreadonly", "($self, /)", "Return a readonly version of the memoryview."),
   ("__enter__", "", ""),
   ("__exit__", "", "")]

/-- The members of these classes. -/
def ofBytes : List (String × List Entry) :=
  [("bytes", bytesMembers),
   ("bytearray", bytearrayMembers),
   ("memoryview", memoryviewMembers)]

end DocGuard.Documentation
