import DocGuard.Value.Basic
/-!
The modules of the language that every program can find.

A module is known by the name that it shows. Of what the modules hold only a few constants are told,
which are the same wherever a program runs.
-/

namespace DocGuard

/-- The names under which every program can find a module. -/
def loadedModules : List String :=
  ["__main__", "_abc", "_ast", "_codecs", "_collections", "_collections_abc", "_datetime",
   "_decimal", "_frozen_importlib", "_frozen_importlib_external", "_functools", "_imp", "_io",
   "_json", "_opcode", "_operator", "_signal", "_sitebuiltins", "_sre", "_stat", "_string",
   "_thread", "_typing", "_warnings", "_weakref", "_weakrefset", "abc", "ast", "atexit",
   "builtins", "codecs", "collections", "collections.abc", "contextlib", "copy", "copyreg",
   "dataclasses", "datetime", "decimal", "dis", "encodings", "encodings.aliases",
   "encodings.utf_8", "enum", "fractions", "functools", "genericpath", "importlib",
   "importlib._bootstrap", "importlib._bootstrap_external", "importlib.machinery", "inspect",
   "io", "itertools", "json", "json.decoder", "json.encoder", "json.scanner", "keyword",
   "linecache", "logging", "marshal", "math", "numbers", "opcode", "operator", "os", "os.path",
   "posix", "posixpath", "re", "re._casefix", "re._compiler", "re._constants", "re._parser",
   "reprlib", "site", "stat", "string", "sys", "textwrap", "threading", "time", "token",
   "tokenize", "traceback", "types", "typing", "typing.io", "typing.re", "warnings", "weakref",
   "zipimport", "docparams", "docparams.context", "docparams.errors", "docparams.extract",
   "docparams.scalars", "docparams.utils", "docparams.validate", "frozendict"]

/-- The modules that are found by another name than the one they show. -/
def renamedModules : List (String × String) :=
  [("_collections_abc", "collections.abc"), ("_decimal", "decimal"),
   ("_frozen_importlib", "importlib._bootstrap"),
   ("_frozen_importlib_external", "importlib._bootstrap_external"), ("_io", "io"),
   ("os.path", "posixpath")]

/-- The module that is found by a name, known by the name that it shows. -/
def loadedModule? (name : String) : Option String :=
  (loadedModules.find? (· == name)).map fun name => (renamedModules.lookup name).getD name

/-- The letters of the alphabet. -/
def alphabet : String :=
  "abcdefghijklmnopqrstuvwxyz"

/-- What some modules hold under a name. -/
def moduleConstants : List (String × String × Value) :=
  [("sys", "maxsize", .int 0 9223372036854775807), ("sys", "maxunicode", .int 0 1114111),
   ("sys", "byteorder", .str 0 "little"), ("sys", "platform", .str 0 "linux"),
   ("sys", "api_version", .int 0 1013), ("sys", "dont_write_bytecode", .bool false),
   ("math", "pi", .float 0 "3.141592653589793"), ("math", "e", .float 0 "2.718281828459045"),
   ("math", "tau", .float 0 "6.283185307179586"), ("math", "inf", .float 0 "inf"),
   ("math", "nan", .float 0 "nan"),
   ("os", "sep", .str 0 "/"), ("os", "linesep", .str 0 "\n"), ("os", "name", .str 0 "posix"),
   ("os", "curdir", .str 0 "."), ("os", "pardir", .str 0 ".."), ("os", "pathsep", .str 0 ":"),
   ("os", "extsep", .str 0 "."), ("os", "devnull", .str 0 "/dev/null"), ("os", "altsep", .none),
   ("posixpath", "sep", .str 0 "/"), ("posixpath", "curdir", .str 0 "."),
   ("string", "digits", .str 0 "0123456789"), ("string", "octdigits", .str 0 "01234567"),
   ("string", "hexdigits", .str 0 "0123456789abcdefABCDEF"),
   ("string", "ascii_lowercase", .str 0 alphabet),
   ("string", "ascii_uppercase", .str 0 alphabet.toUpper),
   ("string", "ascii_letters", .str 0 (alphabet ++ alphabet.toUpper)),
   ("logging", "NOTSET", .int 0 0), ("logging", "DEBUG", .int 0 10), ("logging", "INFO", .int 0 20),
   ("logging", "WARNING", .int 0 30), ("logging", "ERROR", .int 0 40),
   ("logging", "CRITICAL", .int 0 50), ("datetime", "MINYEAR", .int 0 1),
   ("datetime", "MAXYEAR", .int 0 9999), ("io", "DEFAULT_BUFFER_SIZE", .int 0 8192)]

/-- What a module of the language holds under a name, as far as it is told. -/
def moduleConstant? (module name : String) : Option Value :=
  (moduleConstants.find? fun c => c.1 == module && c.2.1 == name).map (·.2.2)

end DocGuard
