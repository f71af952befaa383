import DocGuard.Program.Builtin.Documentation.Entry
/-!
What the operations, the named callables and the classes of the language say of themselves.

An operation says the same in every class that has it.
-/

namespace DocGuard.Documentation

/-- The operations of the language. -/
def operations : List Entry :=
  [("__new__", "($type, *args, **kwargs)",
     "Create and return a new object.  See help(type) for accurate signature."),
   ("__repr__", "($self, /)", "Return repr(self)."),
   ("__and__", "($self, value, /)", "Return self&value."),
   ("__rand__", "($self, value, /)", "Return value&self."),
   ("__xor__", "($self, value, /)", "Return self^value."),
   ("__rxor__", "($self, value, /)", "Return value^self."),
   ("__or__", "($self, value, /)", "Return self|value."),
   ("__ror__", "($self, value, /)", "Return value|self."),
   ("__hash__", "($self, /)", "Return hash(self)."),
   ("__getattribute__", "($self, name, /)", "Return getattr(self, name)."),
   ("__lt__", "($self, value, /)", "Return self<value."),
   ("__le__", "($self, value, /)", "Return self<=value."),
   ("__eq__", "($self, value, /)", "Return self==value."),
   ("__ne__", "($self, value, /)", "Return self!=value."),
   ("__gt__", "($self, value, /)", "Return self>value."),
   ("__ge__", "($self, value, /)", "Return self>=value."),
   ("__iter__", "($self, /)", "Implement iter(self)."),
   ("__len__", "($self, /)", "Return len(self)."),
   ("__getitem__", "($self, key, /)", "Return self[key]."),
   ("__setitem__", "($self, key, value, /)", "Set self[key] to value."),
   ("__delitem__", "($self, key, /)", "Delete self[key]."),
   ("__str__", "($self, /)", "Return str(self)."),
   ("__init__", "($self, /, *args, **kwargs)",
     "Initialize self.  See help(type(self)) for accurate signature."),
   ("__mod__", "($self, value, /)", "Return self%value."),
   ("__rmod__", "($self, value, /)", "Return value%self."),
   ("__add__", "($self, value, /)", "Return self+value."),
   ("__mul__", "($self, value, /)", "Return self*value."),
   ("__rmul__", "($self, value, /)", "Return value*self."),
   ("__contains__", "($self, key, /)", "Return key in self."),
   ("__iadd__", "($self, value, /)", "Implement self+=value."),
   ("__imul__", "($self, value, /)", "Implement self*=value."),
   ("__get__", "($self, instance, owner=None, /)",
     "Return an attribute of instance, which is of type owner."),
   ("__radd__", "($self, value, /)", "Return value+self."),
   ("__sub__", "($self, value, /)", "Return self-value."),
   ("__rsub__", "($self, value, /)", "Return value-self."),
   ("__pow__", "($self, value, mod=None, /)", "Return pow(self, value, mod)."),
   ("__rpow__", "($self, value, mod=None, /)", "Return pow(value, self, mod)."),
   ("__neg__", "($self, /)", "-self"),
   ("__pos__", "($self, /)", "+self"),
   ("__abs__", "($self, /)", "abs(self)"),
   ("__bool__", "($self, /)", "True if self else False"),
   ("__truediv__", "($self, value, /)", "Return self/value."),
   ("__rtruediv__", "($self, value, /)", "Return value/self."),
   ("__ior__", "($self, value, /)", "Return self|=value."),
   ("__next__", "($self, /)", "Implement next(self)."),
   ("__divmod__", "($self, value, /)", "Return divmod(self, value)."),
   ("__rdivmod__", "($self, value, /)", "Return divmod(value, self)."),
   ("__int__", "($self, /)", "int(self)"),
   ("__float__", "($self, /)", "float(self)"),
   ("__floordiv__", "($self, value, /)", "Return self//value."),
   ("__rfloordiv__", "($self, value, /)", "Return value//self."),
   ("__set__", "($self, instance, value, /)", "Set an attribute of instance to value."),
   ("__delete__", "($self, instance, /)", "Delete an attribute of instance."),
   ("__invert__", "($self, /)", "~self"),
   ("__lshift__", "($self, value, /)", "Return self<<value."),
   ("__rlshift__", "($self, value, /)", "Return value<<self."),
   ("__rshift__", "($self, value, /)", "Return self>>value."),
   ("__rrshift__", "($self, value, /)", "Return value>>self."),
   ("__index__", "($self, /)",
     "Return self converted to an integer, if self is suitable for use as an index into a" ++
     " list."),
   ("__setattr__", "($self, name, value, /)", "Implement setattr(self, name, value)."),
   ("__delattr__", "($self, name, /)", "Implement delattr(self, name)."),
   ("__isub__", "($self, value, /)", "Return self-=value."),
   ("__iand__", "($self, value, /)", "Return self&=value."),
   ("__ixor__", "($self, value, /)", "Return self^=value."),
   ("__call__", "($self, /, *args, **kwargs)", "Call self as a function."),
   ("__del__", "", "")]

/-- The callables that have a name in every program. -/
def functions : List Entry :=
  [("__build_class__", "",
     "__build_class__(func, name, /, *bases, [metaclass], **kwds) -> class\n\nInternal " ++
     "helper function used by the class statement."),
   ("__import__", 
     "($module, /, name, globals=None, locals=None, fromlist=(),\n           level=0)",
     "Import a module.\n\nBecause this function is meant for use by the Python\n" ++
     "interpreter and not for general use, it is better to use\nimportlib.import_module()" ++
     " to programmatically import a module.\n\nThe globals argument is only used to " ++
     "determine the context;\nthey are not modified.  The locals argument is unused.  The" ++
     " fromlist\nshould be a list of names to emulate ``from name import ...``, or an\n" ++
     "empty list to emulate ``import name``.\nWhen importing a module from a package, " ++
     "note that __import__('A.B', ...)\nreturns package A when fromlist is empty, but its" ++
     " submodule B when\nfromlist is not empty.  The level argument is used to determine " ++
     "whether to\nperform absolute or relative imports: 0 is absolute, while a positive " ++
     "number\nis the number of parent directories to search relative to the current " ++
     "module."),
   ("abs", "($module, x, /)", "Return the absolute value of the argument."),
   ("all", "($module, iterable, /)",
     "Return True if bool(x) is True for all values x in the iterable.\n\nIf the iterable" ++
     " is empty, return True."),
   ("any", "($module, iterable, /)",
     "Return True if bool(x) is True for any x in the iterable.\n\nIf the iterable is " ++
     "empty, return False."),
   ("ascii", "($module, obj, /)",
     "Return an ASCII-only representation of an object.\n\nAs repr(), return a string " ++
     "containing a printable representation of an\nobject, but escape the non-ASCII " ++
     "characters in the string returned by\nrepr() using \\\\x, \\\\u or \\\\U escapes. " ++
     "This generates a string similar\nto that returned by repr() in Python 2."),
   ("bin", "($module, number, /)",
     "Return the binary representation of an integer.\n\n   >>> bin(2796202)\n   " ++
     "'0b1010101010101010101010'"),
   ("breakpoint", "",
     "breakpoint(*args, **kws)\n\nCall sys.breakpointhook(*args, **kws).  " ++
     "sys.breakpointhook() must accept\nwhatever arguments are passed.\n\nBy default, " ++
     "this drops you into the pdb debugger."),
   ("callable", "($module, obj, /)",
     "Return whether the object is callable (i.e., some kind of function).\n\nNote that " ++
     "classes are callable, as are instances of classes with a\n__call__() method."),
   ("chr", "($module, i, /)",
     "Return a Unicode string of one character with ordinal i; 0 <= i <= 0x10ffff."),
   ("compile", 
     "($module, /, source, filename, mode, flags=0,\n        dont_inherit=False, " ++
     "optimize=-1, *, _feature_version=-1)",
     "Compile source into a code object that can be executed by exec() or eval().\n\nThe " ++
     "source code may represent a Python module, statement or expression.\nThe filename " ++
     "will be used for run-time error messages.\nThe mode must be 'exec' to compile a " ++
     "module, 'single' to compile a\nsingle (interactive) statement, or 'eval' to compile" ++
     " an expression.\nThe flags argument, if present, controls which future statements " ++
     "influence\nthe compilation of the code.\nThe dont_inherit argument, if true, stops " ++
     "the compilation inheriting\nthe effects of any future statements in effect in the " ++
     "code calling\ncompile; if absent or false these statements do influence the " ++
     "compilation,\nin addition to any features explicitly specified."),
   ("delattr", "($module, obj, name, /)",
     "Deletes the named attribute from the given object.\n\ndelattr(x, 'y') is equivalent" ++
     " to ``del x.y``"),
   ("dir", "",
     "dir([object]) -> list of strings\n\nIf called without an argument, return the names" ++
     " in the current scope.\nElse, return an alphabetized list of names comprising (some" ++
     " of) the attributes\nof the given object, and of attributes reachable from it.\nIf " ++
     "the object supplies a method named __dir__, it will be used; otherwise\nthe default" ++
     " dir() logic is used and returns:\n  for a module object: the module's attributes." ++
     "\n  for a class object:  its attributes, and recursively the attributes\n    of its" ++
     " bases.\n  for any other object: its attributes, its class's attributes, and\n    " ++
     "recursively the attributes of its class's base classes."),
   ("divmod", "($module, x, y, /)",
     "Return the tuple (x//y, x%y).  Invariant: div*y + mod == x."),
   ("eval", "($module, source, globals=None, locals=None, /)",
     "Evaluate the given source in the context of globals and locals.\n\nThe source may " ++
     "be a string representing a Python expression\nor a code object as returned by " ++
     "compile().\nThe globals must be a dictionary and locals can be any mapping,\n" ++
     "defaulting to the current globals and locals.\nIf only globals is given, locals " ++
     "defaults to it."),
   ("exec", "($module, source, globals=None, locals=None, /, *, closure=None)",
     "Execute the given source in the context of globals and locals.\n\nThe source may be" ++
     " a string representing one or more Python statements\nor a code object as returned " ++
     "by compile().\nThe globals must be a dictionary and locals can be any mapping,\n" ++
     "defaulting to the current globals and locals.\nIf only globals is given, locals " ++
     "defaults to it.\nThe closure must be a tuple of cellvars, and can only be used\n" ++
     "when source is a code object requiring exactly that many cellvars."),
   ("format", "($module, value, format_spec='', /)",
     "Return value.__format__(format_spec)\n\nformat_spec defaults to the empty string.\n" ++
     "See the Format Specification Mini-Language section of help('FORMATTING') for\n" ++
     "details."),
   ("getattr", "",
     "getattr(object, name[, default]) -> value\n\nGet a named attribute from an object; " ++
     "getattr(x, 'y') is equivalent to x.y.\nWhen a default argument is given, it is " ++
     "returned when the attribute doesn't\nexist; without it, an exception is raised in " ++
     "that case."),
   ("globals", "($module, /)",
     "Return the dictionary containing the current scope's global variables.\n\nNOTE: " ++
     "Updates to this dictionary *will* affect name lookups in the current\nglobal scope " ++
     "and vice-versa."),
   ("hasattr", "($module, obj, name, /)",
     "Return whether the object has an attribute with the given name.\n\nThis is done by " ++
     "calling getattr(obj, name) and catching AttributeError."),
   ("hash", "($module, obj, /)",
     "Return the hash value for the given object.\n\nTwo objects that compare equal must " ++
     "also have the same hash value, but the\nreverse is not necessarily true."),
   ("hex", "($module, number, /)",
     "Return the hexadecimal representation of an integer.\n\n   >>> hex(12648430)\n   " ++
     "'0xc0ffee'"),
   ("id", "($module, obj, /)",
     "Return the identity of an object.\n\nThis is guaranteed to be unique among " ++
     "simultaneously existing objects.\n(CPython uses the object's memory address.)"),
   ("input", "($module, prompt='', /)",
     "Read a string from standard input.  The trailing newline is stripped.\n\nThe prompt" ++
     " string, if given, is printed to standard output without a\ntrailing newline before" ++
     " reading input.\n\nIf the user hits EOF (*nix: Ctrl-D, Windows: Ctrl-Z+Return), " ++
     "raise EOFError.\nOn *nix systems, readline is used if available."),
   ("isinstance", "($module, obj, class_or_tuple, /)",
     "Return whether an object is an instance of a class or of a subclass thereof.\n\nA " ++
     "tuple, as in ``isinstance(x, (A, B, ...))``, may be given as the target to\ncheck " ++
     "against. This is equivalent to ``isinstance(x, A) or isinstance(x, B)\nor ...`` " ++
     "etc."),
   ("issubclass", "($module, cls, class_or_tuple, /)",
     "Return whether 'cls' is derived from another class or is the same class.\n\nA " ++
     "tuple, as in ``issubclass(x, (A, B, ...))``, may be given as the target to\ncheck " ++
     "against. This is equivalent to ``issubclass(x, A) or issubclass(x, B)\nor ...``."),
   ("iter", "",
     "iter(iterable) -> iterator\niter(callable, sentinel) -> iterator\n\nGet an iterator" ++
     " from an object.  In the first form, the argument must\nsupply its own iterator, or" ++
     " be a sequence.\nIn the second form, the callable is called until it returns the " ++
     "sentinel."),
   ("aiter", "($module, async_iterable, /)",
     "Return an AsyncIterator for an AsyncIterable object."),
   ("len", "($module, obj, /)", "Return the number of items in a container."),
   ("locals", "($module, /)",
     "Return a dictionary containing the current scope's local variables.\n\nNOTE: " ++
     "Whether or not updates to this dictionary will affect name lookups in\nthe local " ++
     "scope and vice-versa is *implementation dependent* and not\ncovered by any " ++
     "backwards compatibility guarantees."),
   ("max", "",
     "max(iterable, *[, default=obj, key=func]) -> value\nmax(arg1, arg2, *args, *[, " ++
     "key=func]) -> value\n\nWith a single iterable argument, return its biggest item. " ++
     "The\ndefault keyword-only argument specifies an object to return if\nthe provided " ++
     "iterable is empty.\nWith two or more arguments, return the largest argument."),
   ("min", "",
     "min(iterable, *[, default=obj, key=func]) -> value\nmin(arg1, arg2, *args, *[, " ++
     "key=func]) -> value\n\nWith a single iterable argument, return its smallest item. " ++
     "The\ndefault keyword-only argument specifies an object to return if\nthe provided " ++
     "iterable is empty.\nWith two or more arguments, return the smallest argument."),
   ("next", "",
     "next(iterator[, default])\n\nReturn the next item from the iterator. If default is " ++
     "given and the iterator\nis exhausted, it is returned instead of raising " ++
     "StopIteration."),
   ("anext", "($module, aiterator, default=<unrepresentable>, /)",
     "async anext(aiterator[, default])\n\nReturn the next item from the async iterator." ++
     "  If default is given and the async\niterator is exhausted, it is returned instead " ++
     "of raising StopAsyncIteration."),
   ("oct", "($module, number, /)",
     "Return the octal representation of an integer.\n\n   >>> oct(342391)\n   " ++
     "'0o1234567'"),
   ("ord", "($module, c, /)", "Return the Unicode code point for a one-character string."),
   ("pow", "($module, /, base, exp, mod=None)",
     "Equivalent to base**exp with 2 arguments or base**exp % mod with 3 arguments\n\n" ++
     "Some types, such as ints, are able to use a more efficient algorithm when\ninvoked " ++
     "using the three argument form."),
   ("print", "($module, /, *args, sep=' ', end='\\n', file=None, flush=False)",
     "Prints the values to a stream, or to sys.stdout by default.\n\n  sep\n    string " ++
     "inserted between values, default a space.\n  end\n    string appended after the " ++
     "last value, default a newline.\n  file\n    a file-like object (stream); defaults " ++
     "to the current sys.stdout.\n  flush\n    whether to forcibly flush the stream."),
   ("repr", "($module, obj, /)",
     "Return the canonical string representation of the object.\n\nFor many object types," ++
     " including most builtins, eval(repr(obj)) == obj."),
   ("round", "($module, /, number, ndigits=None)",
     "Round a number to a given precision in decimal digits.\n\nThe return value is an " ++
     "integer if ndigits is omitted or None.  Otherwise\nthe return value has the same " ++
     "type as the number.  ndigits may be negative."),
   ("setattr", "($module, obj, name, value, /)",
     "Sets the named attribute on the given object to the specified value.\n\nsetattr(x, " ++
     "'y', v) is equivalent to ``x.y = v``"),
   ("sorted", "($module, iterable, /, *, key=None, reverse=False)",
     "Return a new list containing all items from the iterable in ascending order.\n\nA " ++
     "custom key function can be supplied to customize the sort order, and the\nreverse " ++
     "flag can be set to request the result in descending order."),
   ("sum", "($module, iterable, /, start=0)",
     "Return the sum of a 'start' value (default: 0) plus an iterable of numbers\n\nWhen " ++
     "the iterable is empty, return the start value.\nThis function is intended " ++
     "specifically for use with numeric values and may\nreject non-numeric types."),
   ("vars", "",
     "vars([object]) -> dictionary\n\nWithout arguments, equivalent to locals().\nWith an" ++
     " argument, equivalent to object.__dict__."),
   ("open", 
     "($module, /, file, mode='r', buffering=-1, encoding=None,\n     errors=None, " ++
     "newline=None, closefd=True, opener=None)",
     "Open file and return a stream.  Raise OSError upon failure.\n\nfile is either a " ++
     "text or byte string giving the name (and the path\nif the file isn't in the current" ++
     " working directory) of the file to\nbe opened or an integer file descriptor of the " ++
     "file to be\nwrapped. (If a file descriptor is given, it is closed when the\n" ++
     "returned I/O object is closed, unless closefd is set to False.)\n\nmode is an " ++
     "optional string that specifies the mode in which the file\nis opened. It defaults " ++
     "to 'r' which means open for reading in text\nmode.  Other common values are 'w' for" ++
     " writing (truncating the file if\nit already exists), 'x' for creating and writing " ++
     "to a new file, and\n'a' for appending (which on some Unix systems, means that all " ++
     "writes\nappend to the end of the file regardless of the current seek position).\nIn" ++
     " text mode, if encoding is not specified the encoding used is platform\ndependent: " ++
     "locale.getencoding() is called to get the current locale encoding.\n(For reading " ++
     "and writing raw bytes use binary mode and leave encoding\nunspecified.) The " ++
     "available modes are:\n\n========= " ++
     "===============================================================\nCharacter Meaning" ++
     "\n--------- ---------------------------------------------------------------\n'r'" ++
     "       open for reading (default)\n'w'       open for writing, truncating the file " ++
     "first\n'x'       create a new file and open it for writing\n'a'       open for " ++
     "writing, appending to the end of the file if it exists\n'b'       binary mode\n't'" ++
     "       text mode (default)\n'+'       open a disk file for updating (reading and " ++
     "writing)\n========= ===============================================================" ++
     "\n\nThe default mode is 'rt' (open for reading text). For binary random\naccess, " ++
     "the mode 'w+b' opens and truncates the file to 0 bytes, while\n'r+b' opens the file" ++
     " without truncation. The 'x' mode implies 'w' and\nraises an `FileExistsError` if " ++
     "the file already exists.\n\nPython distinguishes between files opened in binary and" ++
     " text modes,\neven when the underlying operating system doesn't. Files opened in\n" ++
     "binary mode (appending 'b' to the mode argument) return contents as\nbytes objects " ++
     "without any decoding. In text mode (the default, or when\n't' is appended to the " ++
     "mode argument), the contents of the file are\nreturned as strings, the bytes having" ++
     " been first decoded using a\nplatform-dependent encoding or using the specified " ++
     "encoding if given.\n\nbuffering is an optional integer used to set the buffering " ++
     "policy.\nPass 0 to switch buffering off (only allowed in binary mode), 1 to select" ++
     "\nline buffering (only usable in text mode), and an integer > 1 to indicate\nthe " ++
     "size of a fixed-size chunk buffer.  When no buffering argument is\ngiven, the " ++
     "default buffering policy works as follows:\n\n* Binary files are buffered in " ++
     "fixed-size chunks; the size of the buffer\n  is chosen using a heuristic trying to " ++
     "determine the underlying device's\n  \"block size\" and falling back on " ++
     "`io.DEFAULT_BUFFER_SIZE`.\n  On many systems, the buffer will typically be 4096 or " ++
     "8192 bytes long.\n\n* \"Interactive\" text files (files for which isatty() returns " ++
     "True)\n  use line buffering.  Other text files use the policy described above\n  " ++
     "for binary files.\n\nencoding is the name of the encoding used to decode or encode " ++
     "the\nfile. This should only be used in text mode. The default encoding is\nplatform" ++
     " dependent, but any encoding supported by Python can be\npassed.  See the codecs " ++
     "module for the list of supported encodings.\n\nerrors is an optional string that " ++
     "specifies how encoding errors are to\nbe handled---this argument should not be used" ++
     " in binary mode. Pass\n'strict' to raise a ValueError exception if there is an " ++
     "encoding error\n(the default of None has the same effect), or pass 'ignore' to " ++
     "ignore\nerrors. (Note that ignoring encoding errors can lead to data loss.)\nSee " ++
     "the documentation for codecs.register or run 'help(codecs.Codec)'\nfor a list of " ++
     "the permitted encoding error strings.\n\nnewline controls how universal newlines " ++
     "works (it only applies to text\nmode). It can be None, '', '\\n', '\\r', and " ++
     "'\\r\\n'.  It works as\nfollows:\n\n* On input, if newline is None, universal " ++
     "newlines mode is\n  enabled. Lines in the input can end in '\\n', '\\r', or " ++
     "'\\r\\n', and\n  these are translated into '\\n' before being returned to the\n  " ++
     "caller. If it is '', universal newline mode is enabled, but line\n  endings are " ++
     "returned to the caller untranslated. If it has any of\n  the other legal values, " ++
     "input lines are only terminated by the given\n  string, and the line ending is " ++
     "returned to the caller untranslated.\n\n* On output, if newline is None, any '\\n' " ++
     "characters written are\n  translated to the system default line separator, " ++
     "os.linesep. If\n  newline is '' or '\\n', no translation takes place. If newline is" ++
     " any\n  of the other legal values, any '\\n' characters written are translated\n  " ++
     "to the given string.\n\nIf closefd is False, the underlying file descriptor will be" ++
     " kept open\nwhen the file is closed. This does not work when a file name is given\n" ++
     "and must be True in that case.\n\nA custom opener can be used by passing a callable" ++
     " as *opener*. The\nunderlying file descriptor for the file object is then obtained " ++
     "by\ncalling *opener* with (*file*, *flags*). *opener* must return an open\nfile " ++
     "descriptor (passing os.open as *opener* results in functionality\nsimilar to " ++
     "passing None).\n\nopen() returns a file object whose type depends on the mode, and" ++
     "\nthrough which the standard file operations such as reading and writing\nare " ++
     "performed. When open() is used to open a file in a text mode ('w',\n'r', 'wt', " ++
     "'rt', etc.), it returns a TextIOWrapper. When used to open\na file in a binary " ++
     "mode, the returned class varies: in read binary\nmode, it returns a BufferedReader;" ++
     " in write binary and append binary\nmodes, it returns a BufferedWriter, and in " ++
     "read/write mode, it returns\na BufferedRandom.\n\nIt is also possible to use a " ++
     "string or bytearray as a file for both\nreading and writing. For strings StringIO " ++
     "can be used like a file\nopened in a text mode, and for bytes a BytesIO can be used" ++
     " like a file\nopened in a binary mode.")]

end DocGuard.Documentation
