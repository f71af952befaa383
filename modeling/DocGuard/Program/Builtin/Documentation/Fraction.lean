import DocGuard.Program.Builtin.Documentation.Entry
/-!
What the functions of fractions, and of the kinds of numbers that these are, say of themselves.
-/

namespace DocGuard.Documentation

/-- The members of the class `Fraction`. -/
def fractionMembers : List Entry :=
  [("__new__", "(cls, numerator=0, denominator=None, *, _normalize=True)",
     "Constructs a Rational.\n\n        Takes a string like '3/2' or '1.5', another " ++
     "Rational instance, a\n        numerator/denominator pair, or a float.\n\n        " ++
     "Examples\n        --------\n\n        >>> Fraction(10, -8)\n        Fraction(-5, 4)" ++
     "\n        >>> Fraction(Fraction(1, 7), 5)\n        Fraction(1, 35)\n        >>> " ++
     "Fraction(Fraction(1, 7), Fraction(2, 3))\n        Fraction(3, 14)\n        >>> " ++
     "Fraction('314')\n        Fraction(314, 1)\n        >>> Fraction('-35/4')\n        " ++
     "Fraction(-35, 4)\n        >>> Fraction('3.1415') # conversion from numeric string" ++
     "\n        Fraction(6283, 2000)\n        >>> Fraction('-47e-2') # string may include" ++
     " a decimal exponent\n        Fraction(-47, 100)\n        >>> Fraction(1.47)  # " ++
     "direct construction from float (exact conversion)\n        " ++
     "Fraction(6620291452234629, 4503599627370496)\n        >>> Fraction(2.25)\n        " ++
     "Fraction(9, 4)\n        >>> Fraction(Decimal('1.47'))\n        Fraction(147, 100)" ++
     "\n\n        "),
   ("from_float", "(cls, f)",
     "Converts a finite float to a rational number, exactly.\n\n        Beware that " ++
     "Fraction.from_float(0.3) != Fraction(3, 10).\n\n        "),
   ("from_decimal", "(cls, dec)",
     "Converts a finite Decimal instance to a rational number, exactly."),
   ("as_integer_ratio", "(self)",
     "Return the integer ratio as a tuple.\n\n        Return a tuple of two integers, " ++
     "whose ratio is equal to the\n        Fraction and with a positive denominator." ++
     "\n        "),
   ("limit_denominator", "(self, max_denominator=1000000)",
     "Closest Fraction to self with denominator at most max_denominator.\n\n        >>> " ++
     "Fraction('3.141592653589793').limit_denominator(10)\n        Fraction(22, 7)" ++
     "\n        >>> Fraction('3.141592653589793').limit_denominator(100)\n        " ++
     "Fraction(311, 99)\n        >>> Fraction(4321, 8765).limit_denominator(10000)" ++
     "\n        Fraction(4321, 8765)\n\n        "),
   ("numerator", "(a)", ""),
   ("denominator", "(a)", ""),
   ("__repr__", "(self)", "repr(self)"),
   ("__str__", "(self)", "str(self)"),
   ("_operator_fallbacks", "(monomorphic_operator, fallback_operator)",
     "Generates forward and reverse operators given a purely-rational\n        operator " ++
     "and a function from the operator module.\n\n        Use this like:\n        __op__," ++
     " __rop__ = _operator_fallbacks(just_rational_op, operator.op)\n\n        In " ++
     "general, we want to implement the arithmetic operations so\n        that mixed-mode" ++
     " operations either call an implementation whose\n        author knew about the " ++
     "types of both arguments, or convert both\n        to the nearest built in type and " ++
     "do the operation there. In\n        Fraction, that means that we define __add__ and" ++
     " __radd__ as:\n\n            def __add__(self, other):\n                # Both " ++
     "types have numerators/denominator attributes,\n                # so do the " ++
     "operation directly\n                if isinstance(other, (int, Fraction)):" ++
     "\n                    return Fraction(self.numerator * other.denominator +" ++
     "\n                                    other.numerator * self.denominator," ++
     "\n                                    self.denominator * other.denominator)" ++
     "\n                # float and complex don't have those operations, but we" ++
     "\n                # know about those types, so special case them.\n                " ++
     "elif isinstance(other, float):\n                    return float(self) + other" ++
     "\n                elif isinstance(other, complex):\n                    return " ++
     "complex(self) + other\n                # Let the other type take over." ++
     "\n                return NotImplemented\n\n            def __radd__(self, other):" ++
     "\n                # radd handles more types than add because there's" ++
     "\n                # nothing left to fall back to.\n                if " ++
     "isinstance(other, numbers.Rational):\n                    return " ++
     "Fraction(self.numerator * other.denominator +\n                                    " ++
     "other.numerator * self.denominator,\n                                    " ++
     "self.denominator * other.denominator)\n                elif isinstance(other, " ++
     "Real):\n                    return float(other) + float(self)\n                elif" ++
     " isinstance(other, Complex):\n                    return complex(other) + " ++
     "complex(self)\n                return NotImplemented\n\n\n        There are 5 " ++
     "different cases for a mixed-type addition on\n        Fraction. I'll refer to all " ++
     "of the above code that doesn't\n        refer to Fraction, float, or complex as " ++
     "\"boilerplate\". 'r'\n        will be an instance of Fraction, which is a subtype " ++
     "of\n        Rational (r : Fraction <: Rational), and b : B <:\n        Complex. The" ++
     " first three involve 'r + b':\n\n            1. If B <: Fraction, int, float, or " ++
     "complex, we handle\n               that specially, and all is well.\n            2." ++
     " If Fraction falls back to the boilerplate code, and it\n               were to " ++
     "return a value from __add__, we'd miss the\n               possibility that B " ++
     "defines a more intelligent __radd__,\n               so the boilerplate should " ++
     "return NotImplemented from\n               __add__. In particular, we don't handle " ++
     "Rational\n               here, even though we could get an exact answer, in case" ++
     "\n               the other type wants to do something special.\n            3. If B" ++
     " <: Fraction, Python tries B.__radd__ before\n               Fraction.__add__. This" ++
     " is ok, because it was\n               implemented with knowledge of Fraction, so " ++
     "it can\n               handle those instances before delegating to Real or" ++
     "\n               Complex.\n\n        The next two situations describe 'b + r'. We " ++
     "assume that b\n        didn't know about Fraction in its implementation, and that " ++
     "it\n        uses similar boilerplate code:\n\n            4. If B <: Rational, then" ++
     " __radd_ converts both to the\n               builtin rational type (hey look, " ++
     "that's us) and\n               proceeds.\n            5. Otherwise, __radd__ tries " ++
     "to find the nearest common\n               base ABC, and fall back to its builtin " ++
     "type. Since this\n               class doesn't subclass a concrete type, there's no" ++
     "\n               implementation to fall back to, so we need to try as" ++
     "\n               hard as possible to return an actual value, or the user" ++
     "\n               will get a TypeError.\n\n        "),
   ("_add", "(a, b)", "a + b"),
   ("__add__", "(a, b)", "a + b"),
   ("__radd__", "(b, a)", "a + b"),
   ("_sub", "(a, b)", "a - b"),
   ("__sub__", "(a, b)", "a - b"),
   ("__rsub__", "(b, a)", "a - b"),
   ("_mul", "(a, b)", "a * b"),
   ("__mul__", "(a, b)", "a * b"),
   ("__rmul__", "(b, a)", "a * b"),
   ("_div", "(a, b)", "a / b"),
   ("__truediv__", "(a, b)", "a / b"),
   ("__rtruediv__", "(b, a)", "a / b"),
   ("_floordiv", "(a, b)", "a // b"),
   ("__floordiv__", "(a, b)", "a // b"),
   ("__rfloordiv__", "(b, a)", "a // b"),
   ("_divmod", "(a, b)", "(a // b, a % b)"),
   ("__divmod__", "(a, b)", "(a // b, a % b)"),
   ("__rdivmod__", "(b, a)", "(a // b, a % b)"),
   ("_mod", "(a, b)", "a % b"),
   ("__mod__", "(a, b)", "a % b"),
   ("__rmod__", "(b, a)", "a % b"),
   ("__pow__", "(a, b)",
     "a ** b\n\n        If b is not an integer, the result will be a float or complex" ++
     "\n        since roots are generally irrational. If b is an integer, the\n        " ++
     "result will be rational.\n\n        "),
   ("__rpow__", "(b, a)", "a ** b"),
   ("__pos__", "(a)", "+a: Coerces a subclass instance to Fraction"),
   ("__neg__", "(a)", "-a"),
   ("__abs__", "(a)", "abs(a)"),
   ("__int__", "(a, _index=<built-in function index>)", "int(a)"),
   ("__trunc__", "(a)", "math.trunc(a)"),
   ("__floor__", "(a)", "math.floor(a)"),
   ("__ceil__", "(a)", "math.ceil(a)"),
   ("__round__", "(self, ndigits=None)",
     "round(self, ndigits)\n\n        Rounds half toward even.\n        "),
   ("__hash__", "(self)", "hash(self)"),
   ("__eq__", "(a, b)", "a == b"),
   ("_richcmp", "(self, other, op)",
     "Helper for comparison operators, for internal use only.\n\n        Implement " ++
     "comparison between a Rational instance `self`, and\n        either another Rational" ++
     " instance or a float `other`.  If\n        `other` is not a Rational instance or a " ++
     "float, return\n        NotImplemented. `op` should be one of the six standard" ++
     "\n        comparison operators.\n\n        "),
   ("__lt__", "(a, b)", "a < b"),
   ("__gt__", "(a, b)", "a > b"),
   ("__le__", "(a, b)", "a <= b"),
   ("__ge__", "(a, b)", "a >= b"),
   ("__bool__", "(a)", "a != 0"),
   ("__reduce__", "(self)", ""),
   ("__copy__", "(self)", ""),
   ("__deepcopy__", "(self, memo)", "")]

/-- The members of the class `Rational`. -/
def rationalMembers : List Entry :=
  [("numerator", "(self)", ""),
   ("denominator", "(self)", ""),
   ("__float__", "(self)",
     "float(self) = self.numerator / self.denominator\n\n        It's important that this" ++
     " conversion use the integer's \"true\"\n        division rather than casting one " ++
     "side to float before dividing\n        so that ratios of huge integers convert " ++
     "without overflowing.\n\n        ")]

/-- The members of the class `Real`. -/
def realMembers : List Entry :=
  [("__float__", "(self)",
     "Any Real can be converted to a native float object.\n\n        Called for " ++
     "float(self)."),
   ("__trunc__", "(self)",
     "trunc(self): Truncates self to an Integral.\n\n        Returns an Integral i such " ++
     "that:\n          * i>0 iff self>0;\n          * abs(i) <= abs(self);\n          * " ++
     "for any Integral j satisfying the first two conditions,\n            abs(i) >= " ++
     "abs(j) [i.e. i has \"maximal\" abs among those].\n        i.e. \"truncate towards " ++
     "0\".\n        "),
   ("__floor__", "(self)", "Finds the greatest Integral <= self."),
   ("__ceil__", "(self)", "Finds the least Integral >= self."),
   ("__round__", "(self, ndigits=None)",
     "Rounds self to ndigits decimal places, defaulting to 0.\n\n        If ndigits is " ++
     "omitted or None, returns an Integral, otherwise\n        returns a Real. Rounds " ++
     "half toward even.\n        "),
   ("__divmod__", "(self, other)",
     "divmod(self, other): The pair (self // other, self % other).\n\n        Sometimes " ++
     "this can be computed faster than the pair of\n        operations.\n        "),
   ("__rdivmod__", "(self, other)",
     "divmod(other, self): The pair (self // other, self % other).\n\n        Sometimes " ++
     "this can be computed faster than the pair of\n        operations.\n        "),
   ("__floordiv__", "(self, other)", "self // other: The floor() of self/other."),
   ("__rfloordiv__", "(self, other)", "other // self: The floor() of other/self."),
   ("__mod__", "(self, other)", "self % other"),
   ("__rmod__", "(self, other)", "other % self"),
   ("__lt__", "(self, other)",
     "self < other\n\n        < on Reals defines a total ordering, except perhaps for " ++
     "NaN."),
   ("__le__", "(self, other)", "self <= other"),
   ("__complex__", "(self)", "complex(self) == complex(float(self), 0)"),
   ("real", "(self)", "Real numbers are their real component."),
   ("imag", "(self)", "Real numbers have no imaginary component."),
   ("conjugate", "(self)", "Conjugate is a no-op for Reals.")]

/-- The members of the class `Complex`. -/
def complexNumberMembers : List Entry :=
  [("__complex__", "(self)", "Return a builtin complex instance. Called for complex(self)."),
   ("__bool__", "(self)", "True if self != 0. Called for bool(self)."),
   ("real", "(self)",
     "Retrieve the real component of this number.\n\n        This should subclass Real." ++
     "\n        "),
   ("imag", "(self)",
     "Retrieve the imaginary component of this number.\n\n        This should subclass " ++
     "Real.\n        "),
   ("__add__", "(self, other)", "self + other"),
   ("__radd__", "(self, other)", "other + self"),
   ("__neg__", "(self)", "-self"),
   ("__pos__", "(self)", "+self"),
   ("__sub__", "(self, other)", "self - other"),
   ("__rsub__", "(self, other)", "other - self"),
   ("__mul__", "(self, other)", "self * other"),
   ("__rmul__", "(self, other)", "other * self"),
   ("__truediv__", "(self, other)", "self / other: Should promote to float when necessary."),
   ("__rtruediv__", "(self, other)", "other / self"),
   ("__pow__", "(self, exponent)",
     "self**exponent; should promote to float or complex when necessary."),
   ("__rpow__", "(self, base)", "base ** self"),
   ("__abs__", "(self)", "Returns the Real distance from 0. Called for abs(self)."),
   ("conjugate", "(self)", "(x+y*i).conjugate() returns (x-y*i)."),
   ("__eq__", "(self, other)", "self == other")]

/-- The members of these classes. -/
def ofFraction : List (String × List Entry) :=
  [("Fraction", fractionMembers),
   ("Rational", rationalMembers),
   ("Real", realMembers),
   ("Complex", complexNumberMembers)]

end DocGuard.Documentation
