import DocGuard.Program.Builtin.Documentation.Entry
/-!
What the methods of all other objects say of themselves.
-/

namespace DocGuard.Documentation

/-- The members of the class `enumerate`. -/
def enumerateMembers : List Entry :=
  [("__reduce__", "", "Return state information for pickling."),
   ("__class_getitem__", "", "See PEP 585")]

/-- The members of the class `filter`. -/
def filterMembers : List Entry :=
  [("__reduce__", "", "Return state information for pickling.")]

/-- The members of the class `property`. -/
def propertyMembers : List Entry :=
  [("getter", "", "Descriptor to obtain a copy of the property with a different getter."),
   ("setter", "", "Descriptor to obtain a copy of the property with a different setter."),
   ("deleter", "", "Descriptor to obtain a copy of the property with a different deleter."),
   ("__set_name__", "", "Method to set name of a property.")]

/-- The members of the class `map`. -/
def mapMembers : List Entry :=
  [("__reduce__", "", "Return state information for pickling.")]

/-- The members of the class `object`. -/
def objectMembers : List Entry :=
  [("__reduce_ex__", "($self, protocol, /)", "Helper for pickle."),
   ("__reduce__", "($self, /)", "Helper for pickle."),
   ("__getstate__", "($self, /)", "Helper for pickle."),
   ("__subclasshook__", "",
     "Abstract classes can override this to customize issubclass().\n\nThis is invoked " ++
     "early on by abc.ABCMeta.__subclasscheck__().\nIt should return True, False or " ++
     "NotImplemented.  If it returns\nNotImplemented, the normal algorithm is used.  " ++
     "Otherwise, it\noverrides the normal algorithm (and the outcome is cached).\n"),
   ("__init_subclass__", "",
     "This method is called when a class is subclassed.\n\nThe default implementation " ++
     "does nothing. It may be\noverridden to extend subclasses.\n"),
   ("__format__", "($self, format_spec, /)", "Default object formatter."),
   ("__sizeof__", "($self, /)", "Size of object in memory, in bytes."),
   ("__dir__", "($self, /)", "Default dir() implementation.")]

/-- The members of the class `reversed`. -/
def reversedMembers : List Entry :=
  [("__length_hint__", "", "Private method returning an estimate of len(list(it))."),
   ("__reduce__", "", "Return state information for pickling."),
   ("__setstate__", "", "Set state information for unpickling.")]

/-- The members of the class `type`. -/
def typeMembers : List Entry :=
  [("mro", "($self, /)", "Return a type's method resolution order."),
   ("__subclasses__", "($self, /)", "Return a list of immediate subclasses."),
   ("__prepare__", "",
     "__prepare__() -> dict\nused to create the namespace for the class statement"),
   ("__instancecheck__", "($self, instance, /)", "Check if an object is an instance."),
   ("__subclasscheck__", "($self, subclass, /)", "Check if a class is a subclass."),
   ("__dir__", "($self, /)", "Specialized __dir__ implementation for types."),
   ("__sizeof__", "($self, /)", "Return memory consumption of the type object.")]

/-- The members of the class `zip`. -/
def zipMembers : List Entry :=
  [("__reduce__", "", "Return state information for pickling."),
   ("__setstate__", "", "Set state information for unpickling.")]

/-- The members of the class `BaseException`. -/
def baseExceptionMembers : List Entry :=
  [("__reduce__", "", ""),
   ("__setstate__", "", ""),
   ("with_traceback", "",
     "Exception.with_traceback(tb) --\n    set self.__traceback__ to tb and return self."),
   ("add_note", "", "Exception.add_note(note) --\n    add a note to the exception")]

/-- The members of the class `BaseExceptionGroup`. -/
def baseExceptionGroupMembers : List Entry :=
  [("__class_getitem__", "", "See PEP 585"),
   ("derive", "", ""),
   ("split", "", ""),
   ("subgroup", "", "")]

/-- The members of the class `ImportError`. -/
def importErrorMembers : List Entry :=
  [("__reduce__", "", "")]

/-- The members of the class `OSError`. -/
def oSErrorMembers : List Entry :=
  [("__reduce__", "", "")]

/-- The members of the class `ellipsis`. -/
def ellipsisMembers : List Entry :=
  [("__reduce__", "", "")]

/-- The members of the class `NotImplementedType`. -/
def notImplementedTypeMembers : List Entry :=
  [("__reduce__", "", "")]

/-- The members of the class `method`. -/
def methodMembers : List Entry :=
  [("__reduce__", "($self, /)", "")]

/-- The members of the class `module`. -/
def moduleMembers : List Entry :=
  [("__dir__", "", "__dir__() -> list\nspecialized dir() implementation")]

/-- The members of the class `code`. -/
def codeMembers : List Entry :=
  [("__sizeof__", "", ""),
   ("co_lines", "", ""),
   ("co_positions", "", ""),
   ("replace", "($self, /, **changes)",
     "Return a copy of the code object with new values for the specified fields."),
   ("_varname_from_oparg", "($self, /, oparg)",
     "(internal-only) Return the local variable name for the given oparg.\n\nWARNING: " ++
     "this method is for internal use only and may change or go away.")]

/-- The members of the class `builtin_function_or_method`. -/
def builtinFunctionOrMethodMembers : List Entry :=
  [("__reduce__", "", "")]

/-- The members of the class `wrapper_descriptor`. -/
def wrapperDescriptorMembers : List Entry :=
  [("__reduce__", "", "")]

/-- The members of the class `method-wrapper`. -/
def methodWrapperMembers : List Entry :=
  [("__reduce__", "", "")]

/-- The members of the class `method_descriptor`. -/
def methodDescriptorMembers : List Entry :=
  [("__reduce__", "", "")]

/-- The members of the class `member_descriptor`. -/
def memberDescriptorMembers : List Entry :=
  [("__reduce__", "", "")]

/-- The members of the class `generator`. -/
def generatorMembers : List Entry :=
  [("send", "",
     "send(arg) -> send 'arg' into generator,\nreturn next yielded value or raise " ++
     "StopIteration."),
   ("throw", "",
     "throw(value)\nthrow(type[,value[,tb]])\n\nRaise exception in generator, return next" ++
     " yielded value or raise\nStopIteration."),
   ("close", "", "close() -> raise GeneratorExit inside generator."),
   ("__sizeof__", "", "gen.__sizeof__() -> size of gen in memory, in bytes")]

/-- The members of the class `list_iterator`. -/
def listIteratorMembers : List Entry :=
  [("__length_hint__", "", "Private method returning an estimate of len(list(it))."),
   ("__reduce__", "", "Return state information for pickling."),
   ("__setstate__", "", "Set state information for unpickling.")]

/-- The members of the class `list_reverseiterator`. -/
def listReverseiteratorMembers : List Entry :=
  [("__length_hint__", "", "Private method returning an estimate of len(list(it))."),
   ("__reduce__", "", "Return state information for pickling."),
   ("__setstate__", "", "Set state information for unpickling.")]

/-- The members of the class `tuple_iterator`. -/
def tupleIteratorMembers : List Entry :=
  [("__length_hint__", "", "Private method returning an estimate of len(list(it))."),
   ("__reduce__", "", "Return state information for pickling."),
   ("__setstate__", "", "Set state information for unpickling.")]

/-- The members of the class `dict_keyiterator`. -/
def dictKeyiteratorMembers : List Entry :=
  [("__length_hint__", "", "Private method returning an estimate of len(list(it))."),
   ("__reduce__", "", "Return state information for pickling.")]

/-- The members of the class `dict_valueiterator`. -/
def dictValueiteratorMembers : List Entry :=
  [("__length_hint__", "", "Private method returning an estimate of len(list(it))."),
   ("__reduce__", "", "Return state information for pickling.")]

/-- The members of the class `dict_itemiterator`. -/
def dictItemiteratorMembers : List Entry :=
  [("__length_hint__", "", "Private method returning an estimate of len(list(it))."),
   ("__reduce__", "", "Return state information for pickling.")]

/-- The members of the class `dict_reversekeyiterator`. -/
def dictReversekeyiteratorMembers : List Entry :=
  [("__length_hint__", "", "Private method returning an estimate of len(list(it))."),
   ("__reduce__", "", "Return state information for pickling.")]

/-- The members of the class `dict_reversevalueiterator`. -/
def dictReversevalueiteratorMembers : List Entry :=
  [("__length_hint__", "", "Private method returning an estimate of len(list(it))."),
   ("__reduce__", "", "Return state information for pickling.")]

/-- The members of the class `dict_reverseitemiterator`. -/
def dictReverseitemiteratorMembers : List Entry :=
  [("__length_hint__", "", "Private method returning an estimate of len(list(it))."),
   ("__reduce__", "", "Return state information for pickling.")]

/-- The members of the class `set_iterator`. -/
def setIteratorMembers : List Entry :=
  [("__length_hint__", "", "Private method returning an estimate of len(list(it))."),
   ("__reduce__", "", "Return state information for pickling.")]

/-- The members of the class `str_ascii_iterator`. -/
def strAsciiIteratorMembers : List Entry :=
  [("__length_hint__", "", "Private method returning an estimate of len(list(it))."),
   ("__reduce__", "", "Return state information for pickling."),
   ("__setstate__", "", "Set state information for unpickling.")]

/-- The members of the class `str_iterator`. -/
def strIteratorMembers : List Entry :=
  [("__length_hint__", "", "Private method returning an estimate of len(list(it))."),
   ("__reduce__", "", "Return state information for pickling."),
   ("__setstate__", "", "Set state information for unpickling.")]

/-- The members of the class `bytes_iterator`. -/
def bytesIteratorMembers : List Entry :=
  [("__length_hint__", "", "Private method returning an estimate of len(list(it))."),
   ("__reduce__", "", "Return state information for pickling."),
   ("__setstate__", "", "Set state information for unpickling.")]

/-- The members of the class `bytearray_iterator`. -/
def bytearrayIteratorMembers : List Entry :=
  [("__length_hint__", "", "Private method returning an estimate of len(list(it))."),
   ("__reduce__", "($self, /)", "Return state information for pickling."),
   ("__setstate__", "", "Set state information for unpickling.")]

/-- The members of the class `range_iterator`. -/
def rangeIteratorMembers : List Entry :=
  [("__length_hint__", "", "Private method returning an estimate of len(list(it))."),
   ("__reduce__", "", "Return state information for pickling."),
   ("__setstate__", "", "Set state information for unpickling.")]

/-- The members of the class `longrange_iterator`. -/
def longrangeIteratorMembers : List Entry :=
  [("__length_hint__", "", "Private method returning an estimate of len(list(it))."),
   ("__reduce__", "", "Return state information for pickling."),
   ("__setstate__", "", "Set state information for unpickling.")]

/-- The members of the class `callable_iterator`. -/
def callableIteratorMembers : List Entry :=
  [("__reduce__", "", "Return state information for pickling.")]

/-- The members of the class `iterator`. -/
def iteratorMembers : List Entry :=
  [("__length_hint__", "", "Private method returning an estimate of len(list(it))."),
   ("__reduce__", "", "Return state information for pickling."),
   ("__setstate__", "", "Set state information for unpickling.")]

/-- The members of the class `GenericAlias`. -/
def genericAliasMembers : List Entry :=
  [("__mro_entries__", "", ""),
   ("__instancecheck__", "", ""),
   ("__subclasscheck__", "", ""),
   ("__reduce__", "", ""),
   ("__dir__", "", "")]

/-- The members of the class `generic_alias_iterator`. -/
def genericAliasIteratorMembers : List Entry :=
  [("__reduce__", "", "")]

/-- The members of the class `date`. -/
def dateMembers : List Entry :=
  [("fromtimestamp", "($type, timestamp, /)",
     "Create a date from a POSIX timestamp.\n\nThe timestamp is a number, e.g. created " ++
     "via time.time(), that is interpreted\nas local time."),
   ("fromordinal", "", "int -> date corresponding to a proleptic Gregorian ordinal."),
   ("fromisoformat", "", "str -> Construct a date from a string in ISO 8601 format."),
   ("fromisocalendar", "",
     "int, int, int -> Construct a date from the ISO year, week number and weekday.\n\n" ++
     "This is the inverse of the date.isocalendar() function"),
   ("today", "", "Current date or datetime:  same as self.__class__.fromtimestamp(time.time())."),
   ("ctime", "", "Return ctime() style string."),
   ("strftime", "", "format -> strftime() style string."),
   ("__format__", "", "Formats self with strftime."),
   ("timetuple", "", "Return time tuple, compatible with time.localtime()."),
   ("isocalendar", "", "Return a named tuple containing ISO year, week number, and weekday."),
   ("isoformat", "", "Return string in ISO 8601 format, YYYY-MM-DD."),
   ("isoweekday", "",
     "Return the day of the week represented by the date.\nMonday == 1 ... Sunday == 7"),
   ("toordinal", "", "Return proleptic Gregorian ordinal.  January 1 of year 1 is day 1."),
   ("weekday", "",
     "Return the day of the week represented by the date.\nMonday == 0 ... Sunday == 6"),
   ("replace", "", "Return date with new specified fields."),
   ("__reduce__", "", "__reduce__() -> (cls, state)")]

/-- The members of the class `ABCMeta`. -/
def aBCMetaMembers : List Entry :=
  [("__new__", "(mcls, name, bases, namespace, /, **kwargs)", ""),
   ("register", "(cls, subclass)",
     "Register a virtual subclass of an ABC.\n\n            Returns the subclass, to " ++
     "allow usage as a class decorator.\n            "),
   ("__instancecheck__", "(cls, instance)", "Override for isinstance(instance, cls)."),
   ("__subclasscheck__", "(cls, subclass)", "Override for issubclass(subclass, cls)."),
   ("_dump_registry", "(cls, file=None)", "Debug helper to print the ABC registry."),
   ("_abc_registry_clear", "(cls)", "Clear the registry (for debugging or testing)."),
   ("_abc_caches_clear", "(cls)", "Clear the caches (for debugging or testing).")]

/-- The members of these classes. -/
def ofObject : List (String × List Entry) :=
  [("enumerate", enumerateMembers),
   ("filter", filterMembers),
   ("property", propertyMembers),
   ("map", mapMembers),
   ("object", objectMembers),
   ("reversed", reversedMembers),
   ("type", typeMembers),
   ("zip", zipMembers),
   ("BaseException", baseExceptionMembers),
   ("BaseExceptionGroup", baseExceptionGroupMembers),
   ("ImportError", importErrorMembers),
   ("OSError", oSErrorMembers),
   ("ellipsis", ellipsisMembers),
   ("NotImplementedType", notImplementedTypeMembers),
   ("method", methodMembers),
   ("module", moduleMembers),
   ("code", codeMembers),
   ("builtin_function_or_method", builtinFunctionOrMethodMembers),
   ("wrapper_descriptor", wrapperDescriptorMembers),
   ("method-wrapper", methodWrapperMembers),
   ("method_descriptor", methodDescriptorMembers),
   ("member_descriptor", memberDescriptorMembers),
   ("generator", generatorMembers),
   ("list_iterator", listIteratorMembers),
   ("list_reverseiterator", listReverseiteratorMembers),
   ("tuple_iterator", tupleIteratorMembers),
   ("dict_keyiterator", dictKeyiteratorMembers),
   ("dict_valueiterator", dictValueiteratorMembers),
   ("dict_itemiterator", dictItemiteratorMembers),
   ("dict_reversekeyiterator", dictReversekeyiteratorMembers),
   ("dict_reversevalueiterator", dictReversevalueiteratorMembers),
   ("dict_reverseitemiterator", dictReverseitemiteratorMembers),
   ("set_iterator", setIteratorMembers),
   ("str_ascii_iterator", strAsciiIteratorMembers),
   ("str_iterator", strIteratorMembers),
   ("bytes_iterator", bytesIteratorMembers),
   ("bytearray_iterator", bytearrayIteratorMembers),
   ("range_iterator", rangeIteratorMembers),
   ("longrange_iterator", longrangeIteratorMembers),
   ("callable_iterator", callableIteratorMembers),
   ("iterator", iteratorMembers),
   ("GenericAlias", genericAliasMembers),
   ("generic_alias_iterator", genericAliasIteratorMembers),
   ("date", dateMembers),
   ("ABCMeta", aBCMetaMembers)]

end DocGuard.Documentation
