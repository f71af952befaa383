import DocGuard.Program.Builtin.Documentation.Entry
/-!
What the methods of containers say of themselves.
-/

namespace DocGuard.Documentation

/-- The members of the class `list`. -/
def listMembers : List Entry :=
  [("__getitem__", "", "x.__getitem__(y) <==> x[y]"),
   ("__reversed__", "($self, /)", "Return a reverse iterator over the list."),
   ("__sizeof__", "($self, /)", "Return the size of the list in memory, in bytes."),
   ("clear", "($self, /)", "Remove all items from list."),
   ("copy", "($self, /)", "Return a shallow copy of the list."),
   ("append", "($self, object, /)", "Append object to the end of the list."),
   ("insert", "($self, index, object, /)", "Insert object before index."),
   ("extend", "($self, iterable, /)", "Extend list by appending elements from the iterable."),
   ("pop", "($self, index=-1, /)",
     "Remove and return item at index (default last).\n\nRaises IndexError if list is " ++
     "empty or index is out of range."),
   ("remove", "($self, value, /)",
     "Remove first occurrence of value.\n\nRaises ValueError if the value is not present."),
   ("index", "($self, value, start=0, stop=sys.maxsize, /)",
     "Return first index of value.\n\nRaises ValueError if the value is not present."),
   ("count", "($self, value, /)", "Return number of occurrences of value."),
   ("reverse", "($self, /)", "Reverse *IN PLACE*."),
   ("sort", "($self, /, *, key=None, reverse=False)",
     "Sort the list in ascending order and return None.\n\nThe sort is in-place (i.e. the" ++
     " list itself is modified) and stable (i.e. the\norder of two equal elements is " ++
     "maintained).\n\nIf a key function is given, apply it once to each list item and " ++
     "sort them,\nascending or descending, according to their function values.\n\nThe " ++
     "reverse flag can be set to sort in descending order."),
   ("__class_getitem__", "", "See PEP 585")]

/-- The members of the class `tuple`. -/
def tupleMembers : List Entry :=
  [("__getnewargs__", "($self, /)", ""),
   ("index", "($self, value, start=0, stop=sys.maxsize, /)",
     "Return first index of value.\n\nRaises ValueError if the value is not present."),
   ("count", "($self, value, /)", "Return number of occurrences of value."),
   ("__class_getitem__", "", "See PEP 585")]

/-- The members of the class `dict`. -/
def dictMembers : List Entry :=
  [("__getitem__", "", "x.__getitem__(y) <==> x[y]"),
   ("__contains__", "($self, key, /)",
     "True if the dictionary has the specified key, else False."),
   ("__sizeof__", "", "D.__sizeof__() -> size of D in memory, in bytes"),
   ("get", "($self, key, default=None, /)",
     "Return the value for key if key is in the dictionary, else default."),
   ("setdefault", "($self, key, default=None, /)",
     "Insert key with a value of default if key is not in the dictionary.\n\nReturn the " ++
     "value for key if key is in the dictionary, else default."),
   ("pop", "($self, key, default=<unrepresentable>, /)",
     "D.pop(k[,d]) -> v, remove specified key and return the corresponding value.\n\nIf " ++
     "the key is not found, return the default if given; otherwise,\nraise a KeyError."),
   ("popitem", "($self, /)",
     "Remove and return a (key, value) pair as a 2-tuple.\n\nPairs are returned in LIFO " ++
     "(last-in, first-out) order.\nRaises KeyError if the dict is empty."),
   ("keys", "", "D.keys() -> a set-like object providing a view on D's keys"),
   ("items", "", "D.items() -> a set-like object providing a view on D's items"),
   ("values", "", "D.values() -> an object providing a view on D's values"),
   ("update", "",
     "D.update([E, ]**F) -> None.  Update D from dict/iterable E and F.\nIf E is present " ++
     "and has a .keys() method, then does:  for k in E: D[k] = E[k]\nIf E is present and " ++
     "lacks a .keys() method, then does:  for k, v in E: D[k] = v\nIn either case, this " ++
     "is followed by: for k in F:  D[k] = F[k]"),
   ("fromkeys", "($type, iterable, value=None, /)",
     "Create a new dictionary with keys from iterable and values set to value."),
   ("clear", "", "D.clear() -> None.  Remove all items from D."),
   ("copy", "", "D.copy() -> a shallow copy of D"),
   ("__reversed__", "($self, /)", "Return a reverse iterator over the dict keys."),
   ("__class_getitem__", "", "See PEP 585")]

/-- The members of the class `set`. -/
def setMembers : List Entry :=
  [("__contains__", "", "x.__contains__(y) <==> y in x."),
   ("add", "",
     "Add an element to a set.\n\nThis has no effect if the element is already present."),
   ("clear", "", "Remove all elements from this set."),
   ("copy", "", "Return a shallow copy of a set."),
   ("discard", "",
     "Remove an element from a set if it is a member.\n\nUnlike set.remove(), the " ++
     "discard() method does not raise\nan exception when an element is missing from the " ++
     "set."),
   ("difference", "",
     "Return the difference of two or more sets as a new set.\n\n(i.e. all elements that " ++
     "are in this set but not the others.)"),
   ("difference_update", "", "Remove all elements of another set from this set."),
   ("intersection", "",
     "Return the intersection of two sets as a new set.\n\n(i.e. all elements that are in" ++
     " both sets.)"),
   ("intersection_update", "", "Update a set with the intersection of itself and another."),
   ("isdisjoint", "", "Return True if two sets have a null intersection."),
   ("issubset", "($self, other, /)", "Test whether every element in the set is in other."),
   ("issuperset", "($self, other, /)", "Test whether every element in other is in the set."),
   ("pop", "",
     "Remove and return an arbitrary set element.\nRaises KeyError if the set is empty."),
   ("__reduce__", "", "Return state information for pickling."),
   ("remove", "",
     "Remove an element from a set; it must be a member.\n\nIf the element is not a " ++
     "member, raise a KeyError."),
   ("__sizeof__", "", "S.__sizeof__() -> size of S in memory, in bytes"),
   ("symmetric_difference", "",
     "Return the symmetric difference of two sets as a new set.\n\n(i.e. all elements " ++
     "that are in exactly one of the sets.)"),
   ("symmetric_difference_update", "",
     "Update a set with the symmetric difference of itself and another."),
   ("union", "",
     "Return the union of sets as a new set.\n\n(i.e. all elements that are in either " ++
     "set.)"),
   ("update", "", "Update a set with the union of itself and others."),
   ("__class_getitem__", "", "See PEP 585")]

/-- The members of the class `frozenset`. -/
def frozensetMembers : List Entry :=
  [("__contains__", "", "x.__contains__(y) <==> y in x."),
   ("copy", "", "Return a shallow copy of a set."),
   ("difference", "",
     "Return the difference of two or more sets as a new set.\n\n(i.e. all elements that " ++
     "are in this set but not the others.)"),
   ("intersection", "",
     "Return the intersection of two sets as a new set.\n\n(i.e. all elements that are in" ++
     " both sets.)"),
   ("isdisjoint", "", "Return True if two sets have a null intersection."),
   ("issubset", "($self, other, /)", "Test whether every element in the set is in other."),
   ("issuperset", "($self, other, /)", "Test whether every element in other is in the set."),
   ("__reduce__", "", "Return state information for pickling."),
   ("__sizeof__", "", "S.__sizeof__() -> size of S in memory, in bytes"),
   ("symmetric_difference", "",
     "Return the symmetric difference of two sets as a new set.\n\n(i.e. all elements " ++
     "that are in exactly one of the sets.)"),
   ("union", "",
     "Return the union of sets as a new set.\n\n(i.e. all elements that are in either " ++
     "set.)"),
   ("__class_getitem__", "", "See PEP 585")]

/-- The members of the class `range`. -/
def rangeMembers : List Entry :=
  [("__reversed__", "", "Return a reverse iterator."),
   ("__reduce__", "", ""),
   ("count", "", "rangeobject.count(value) -> integer -- return number of occurrences of value"),
   ("index", "",
     "rangeobject.index(value) -> integer -- return index of value.\nRaise ValueError if " ++
     "the value is not present.")]

/-- The members of the class `slice`. -/
def sliceMembers : List Entry :=
  [("indices", "",
     "S.indices(len) -> (start, stop, stride)\n\nAssuming a sequence of length len, " ++
     "calculate the start and stop\nindices, and the stride length of the extended slice " ++
     "described by\nS. Out of bounds indices are clipped in a manner consistent with the" ++
     "\nhandling of normal slices."),
   ("__reduce__", "", "Return state information for pickling.")]

/-- The members of the class `mappingproxy`. -/
def mappingproxyMembers : List Entry :=
  [("get", "", "D.get(k[,d]) -> D[k] if k in D, else d.  d defaults to None."),
   ("keys", "", "D.keys() -> a set-like object providing a view on D's keys"),
   ("values", "", "D.values() -> an object providing a view on D's values"),
   ("items", "", "D.items() -> a set-like object providing a view on D's items"),
   ("copy", "", "D.copy() -> a shallow copy of D"),
   ("__class_getitem__", "", "See PEP 585"),
   ("__reversed__", "", "D.__reversed__() -> reverse iterator")]

/-- The members of the class `dict_keys`. -/
def dictKeysMembers : List Entry :=
  [("isdisjoint", "", "Return True if the view and the given iterable have a null intersection."),
   ("__reversed__", "", "Return a reverse iterator over the dict keys.")]

/-- The members of the class `dict_values`. -/
def dictValuesMembers : List Entry :=
  [("__reversed__", "", "Return a reverse iterator over the dict values.")]

/-- The members of the class `dict_items`. -/
def dictItemsMembers : List Entry :=
  [("isdisjoint", "", "Return True if the view and the given iterable have a null intersection."),
   ("__reversed__", "", "Return a reverse iterator over the dict items.")]

/-- The members of these classes. -/
def ofContainer : List (String × List Entry) :=
  [("list", listMembers),
   ("tuple", tupleMembers),
   ("dict", dictMembers),
   ("set", setMembers),
   ("frozenset", frozensetMembers),
   ("range", rangeMembers),
   ("slice", sliceMembers),
   ("mappingproxy", mappingproxyMembers),
   ("dict_keys", dictKeysMembers),
   ("dict_values", dictValuesMembers),
   ("dict_items", dictItemsMembers)]

end DocGuard.Documentation
