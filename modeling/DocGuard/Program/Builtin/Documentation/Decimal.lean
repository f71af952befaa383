import DocGuard.Program.Builtin.Documentation.Entry
/-!
What the methods of decimal numbers say of themselves.
-/

namespace DocGuard.Documentation

/-- The members of the class `Decimal`. -/
def decimalMembers : List Entry :=
  [("exp", "($self, /, context=None)",
     "Return the value of the (natural) exponential function e**x at the given\nnumber.  " ++
     "The function always uses the ROUND_HALF_EVEN mode and the result\nis correctly " ++
     "rounded.\n\n"),
   ("ln", "($self, /, context=None)",
     "Return the natural (base e) logarithm of the operand. The function always\nuses the" ++
     " ROUND_HALF_EVEN mode and the result is correctly rounded.\n\n"),
   ("log10", "($self, /, context=None)",
     "Return the base ten logarithm of the operand. The function always uses the\n" ++
     "ROUND_HALF_EVEN mode and the result is correctly rounded.\n\n"),
   ("next_minus", "($self, /, context=None)",
     "Return the largest number representable in the given context (or in the\ncurrent " ++
     "default context if no context is given) that is smaller than the\ngiven operand." ++
     "\n\n"),
   ("next_plus", "($self, /, context=None)",
     "Return the smallest number representable in the given context (or in the\ncurrent " ++
     "default context if no context is given) that is larger than the\ngiven operand.\n\n"),
   ("normalize", "($self, /, context=None)",
     "Normalize the number by stripping the rightmost trailing zeros and\nconverting any " ++
     "result equal to Decimal('0') to Decimal('0e0').  Used\nfor producing canonical " ++
     "values for members of an equivalence class.\nFor example, Decimal('32.100') and " ++
     "Decimal('0.321000e+2') both normalize\nto the equivalent value Decimal('32.1').\n\n"),
   ("to_integral", "($self, /, rounding=None, context=None)",
     "Identical to the to_integral_value() method.  The to_integral() name has been\nkept" ++
     " for compatibility with older versions.\n\n"),
   ("to_integral_exact", "($self, /, rounding=None, context=None)",
     "Round to the nearest integer, signaling Inexact or Rounded as appropriate if\n" ++
     "rounding occurs.  The rounding mode is determined by the rounding parameter\nif " ++
     "given, else by the given context. If neither parameter is given, then the\nrounding" ++
     " mode of the current default context is used.\n\n"),
   ("to_integral_value", "($self, /, rounding=None, context=None)",
     "Round to the nearest integer without signaling Inexact or Rounded.  The\nrounding " ++
     "mode is determined by the rounding parameter if given, else by\nthe given context. " ++
     "If neither parameter is given, then the rounding mode\nof the current default " ++
     "context is used.\n\n"),
   ("sqrt", "($self, /, context=None)",
     "Return the square root of the argument to full precision. The result is\ncorrectly " ++
     "rounded using the ROUND_HALF_EVEN rounding mode.\n\n"),
   ("compare", "($self, /, other, context=None)",
     "Compare self to other.  Return a decimal value:\n\n    a or b is a NaN ==> " ++
     "Decimal('NaN')\n    a < b           ==> Decimal('-1')\n    a == b          ==> " ++
     "Decimal('0')\n    a > b           ==> Decimal('1')\n\n"),
   ("compare_signal", "($self, /, other, context=None)",
     "Identical to compare, except that all NaNs signal.\n\n"),
   ("max", "($self, /, other, context=None)",
     "Maximum of self and other.  If one operand is a quiet NaN and the other is\n" ++
     "numeric, the numeric operand is returned.\n\n"),
   ("max_mag", "($self, /, other, context=None)",
     "Similar to the max() method, but the comparison is done using the absolute\nvalues " ++
     "of the operands.\n\n"),
   ("min", "($self, /, other, context=None)",
     "Minimum of self and other. If one operand is a quiet NaN and the other is\nnumeric," ++
     " the numeric operand is returned.\n\n"),
   ("min_mag", "($self, /, other, context=None)",
     "Similar to the min() method, but the comparison is done using the absolute\nvalues " ++
     "of the operands.\n\n"),
   ("next_toward", "($self, /, other, context=None)",
     "If the two operands are unequal, return the number closest to the first\noperand in" ++
     " the direction of the second operand.  If both operands are\nnumerically equal, " ++
     "return a copy of the first operand with the sign set\nto be the same as the sign of" ++
     " the second operand.\n\n"),
   ("quantize", "($self, /, exp, rounding=None, context=None)",
     "Return a value equal to the first operand after rounding and having the\nexponent " ++
     "of the second operand.\n\n    >>> Decimal('1.41421356').quantize(Decimal('1.000'))" ++
     "\n    Decimal('1.414')\n\nUnlike other operations, if the length of the coefficient" ++
     " after the quantize\noperation would be greater than precision, then an " ++
     "InvalidOperation is signaled.\nThis guarantees that, unless there is an error " ++
     "condition, the quantized exponent\nis always equal to that of the right-hand " ++
     "operand.\n\nAlso unlike other operations, quantize never signals Underflow, even if" ++
     " the\nresult is subnormal and inexact.\n\nIf the exponent of the second operand is " ++
     "larger than that of the first, then\nrounding may be necessary. In this case, the " ++
     "rounding mode is determined by the\nrounding argument if given, else by the given " ++
     "context argument; if neither\nargument is given, the rounding mode of the current " ++
     "thread's context is used.\n\n"),
   ("remainder_near", "($self, /, other, context=None)",
     "Return the remainder from dividing self by other.  This differs from\nself % other " ++
     "in that the sign of the remainder is chosen so as to minimize\nits absolute value. " ++
     "More precisely, the return value is self - n * other\nwhere n is the integer " ++
     "nearest to the exact value of self / other, and\nif two integers are equally near " ++
     "then the even one is chosen.\n\nIf the result is zero then its sign will be the " ++
     "sign of self.\n\n"),
   ("fma", "($self, /, other, third, context=None)",
     "Fused multiply-add.  Return self*other+third with no rounding of the\nintermediate " ++
     "product self*other.\n\n    >>> Decimal(2).fma(3, 5)\n    Decimal('11')\n\n\n"),
   ("is_canonical", "($self, /)",
     "Return True if the argument is canonical and False otherwise.  Currently,\na " ++
     "Decimal instance is always canonical, so this operation always returns\nTrue.\n\n"),
   ("is_finite", "($self, /)",
     "Return True if the argument is a finite number, and False if the argument\nis " ++
     "infinite or a NaN.\n\n"),
   ("is_infinite", "($self, /)",
     "Return True if the argument is either positive or negative infinity and\nFalse " ++
     "otherwise.\n\n"),
   ("is_nan", "($self, /)",
     "Return True if the argument is a (quiet or signaling) NaN and False\notherwise.\n\n"),
   ("is_qnan", "($self, /)",
     "Return True if the argument is a quiet NaN, and False otherwise.\n\n"),
   ("is_snan", "($self, /)",
     "Return True if the argument is a signaling NaN and False otherwise.\n\n"),
   ("is_signed", "($self, /)",
     "Return True if the argument has a negative sign and False otherwise.\nNote that " ++
     "both zeros and NaNs can carry signs.\n\n"),
   ("is_zero", "($self, /)",
     "Return True if the argument is a (positive or negative) zero and False\notherwise." ++
     "\n\n"),
   ("is_normal", "($self, /, context=None)",
     "Return True if the argument is a normal finite non-zero number with an\nadjusted " ++
     "exponent greater than or equal to Emin. Return False if the\nargument is zero, " ++
     "subnormal, infinite or a NaN.\n\n"),
   ("is_subnormal", "($self, /, context=None)",
     "Return True if the argument is subnormal, and False otherwise. A number is\n" ++
     "subnormal if it is non-zero, finite, and has an adjusted exponent less\nthan Emin." ++
     "\n\n"),
   ("adjusted", "($self, /)",
     "Return the adjusted exponent of the number.  Defined as exp + digits - 1.\n\n"),
   ("canonical", "($self, /)",
     "Return the canonical encoding of the argument.  Currently, the encoding\nof a " ++
     "Decimal instance is always canonical, so this operation returns its\nargument " ++
     "unchanged.\n\n"),
   ("conjugate", "($self, /)", "Return self.\n\n"),
   ("radix", "($self, /)",
     "Return Decimal(10), the radix (base) in which the Decimal class does\nall its " ++
     "arithmetic. Included for compatibility with the specification.\n\n"),
   ("copy_abs", "($self, /)",
     "Return the absolute value of the argument.  This operation is unaffected by\n" ++
     "context and is quiet: no flags are changed and no rounding is performed.\n\n"),
   ("copy_negate", "($self, /)",
     "Return the negation of the argument.  This operation is unaffected by context\nand " ++
     "is quiet: no flags are changed and no rounding is performed.\n\n"),
   ("logb", "($self, /, context=None)",
     "For a non-zero number, return the adjusted exponent of the operand as a\nDecimal " ++
     "instance.  If the operand is a zero, then Decimal('-Infinity') is\nreturned and the" ++
     " DivisionByZero condition is raised. If the operand is\nan infinity then " ++
     "Decimal('Infinity') is returned.\n\n"),
   ("logical_invert", "($self, /, context=None)",
     "Return the digit-wise inversion of the (logical) operand.\n\n"),
   ("number_class", "($self, /, context=None)",
     "Return a string describing the class of the operand.  The returned value\nis one of" ++
     " the following ten strings:\n\n    * '-Infinity', indicating that the operand is " ++
     "negative infinity.\n    * '-Normal', indicating that the operand is a negative " ++
     "normal number.\n    * '-Subnormal', indicating that the operand is negative and " ++
     "subnormal.\n    * '-Zero', indicating that the operand is a negative zero.\n    * " ++
     "'+Zero', indicating that the operand is a positive zero.\n    * '+Subnormal', " ++
     "indicating that the operand is positive and subnormal.\n    * '+Normal', indicating" ++
     " that the operand is a positive normal number.\n    * '+Infinity', indicating that " ++
     "the operand is positive infinity.\n    * 'NaN', indicating that the operand is a " ++
     "quiet NaN (Not a Number).\n    * 'sNaN', indicating that the operand is a signaling" ++
     " NaN.\n\n\n"),
   ("to_eng_string", "($self, /, context=None)",
     "Convert to an engineering-type string.  Engineering notation has an exponent\nwhich" ++
     " is a multiple of 3, so there are up to 3 digits left of the decimal\nplace. For " ++
     "example, Decimal('123E+1') is converted to Decimal('1.23E+3').\n\nThe value of " ++
     "context.capitals determines whether the exponent sign is lower\nor upper case. " ++
     "Otherwise, the context does not affect the operation.\n\n"),
   ("compare_total", "($self, /, other, context=None)",
     "Compare two operands using their abstract representation rather than\ntheir " ++
     "numerical value.  Similar to the compare() method, but the result\ngives a total " ++
     "ordering on Decimal instances.  Two Decimal instances with\nthe same numeric value " ++
     "but different representations compare unequal\nin this ordering:\n\n    >>> " ++
     "Decimal('12.0').compare_total(Decimal('12'))\n    Decimal('-1')\n\nQuiet and " ++
     "signaling NaNs are also included in the total ordering. The result\nof this " ++
     "function is Decimal('0') if both operands have the same representation,\n" ++
     "Decimal('-1') if the first operand is lower in the total order than the second,\n" ++
     "and Decimal('1') if the first operand is higher in the total order than the\nsecond" ++
     " operand. See the specification for details of the total order.\n\nThis operation " ++
     "is unaffected by context and is quiet: no flags are changed\nand no rounding is " ++
     "performed. As an exception, the C version may raise\nInvalidOperation if the second" ++
     " operand cannot be converted exactly.\n\n"),
   ("compare_total_mag", "($self, /, other, context=None)",
     "Compare two operands using their abstract representation rather than their\nvalue " ++
     "as in compare_total(), but ignoring the sign of each operand.\n\n" ++
     "x.compare_total_mag(y) is equivalent to x.copy_abs().compare_total(y.copy_abs())." ++
     "\n\nThis operation is unaffected by context and is quiet: no flags are changed\nand" ++
     " no rounding is performed. As an exception, the C version may raise\n" ++
     "InvalidOperation if the second operand cannot be converted exactly.\n\n"),
   ("copy_sign", "($self, /, other, context=None)",
     "Return a copy of the first operand with the sign set to be the same as the\nsign of" ++
     " the second operand. For example:\n\n    >>> " ++
     "Decimal('2.3').copy_sign(Decimal('-1.5'))\n    Decimal('-2.3')\n\nThis operation is" ++
     " unaffected by context and is quiet: no flags are changed\nand no rounding is " ++
     "performed. As an exception, the C version may raise\nInvalidOperation if the second" ++
     " operand cannot be converted exactly.\n\n"),
   ("same_quantum", "($self, /, other, context=None)",
     "Test whether self and other have the same exponent or whether both are NaN.\n\nThis" ++
     " operation is unaffected by context and is quiet: no flags are changed\nand no " ++
     "rounding is performed. As an exception, the C version may raise\nInvalidOperation " ++
     "if the second operand cannot be converted exactly.\n\n"),
   ("logical_and", "($self, /, other, context=None)",
     "Return the digit-wise 'and' of the two (logical) operands.\n\n"),
   ("logical_or", "($self, /, other, context=None)",
     "Return the digit-wise 'or' of the two (logical) operands.\n\n"),
   ("logical_xor", "($self, /, other, context=None)",
     "Return the digit-wise 'exclusive or' of the two (logical) operands.\n\n"),
   ("rotate", "($self, /, other, context=None)",
     "Return the result of rotating the digits of the first operand by an amount\n" ++
     "specified by the second operand.  The second operand must be an integer in\nthe " ++
     "range -precision through precision. The absolute value of the second\noperand gives" ++
     " the number of places to rotate. If the second operand is\npositive then rotation " ++
     "is to the left; otherwise rotation is to the right.\nThe coefficient of the first " ++
     "operand is padded on the left with zeros to\nlength precision if necessary. The " ++
     "sign and exponent of the first operand are\nunchanged.\n\n"),
   ("scaleb", "($self, /, other, context=None)",
     "Return the first operand with the exponent adjusted the second.  Equivalently,\n" ++
     "return the first operand multiplied by 10**other. The second operand must be\nan " ++
     "integer.\n\n"),
   ("shift", "($self, /, other, context=None)",
     "Return the result of shifting the digits of the first operand by an amount\n" ++
     "specified by the second operand.  The second operand must be an integer in\nthe " ++
     "range -precision through precision. The absolute value of the second\noperand gives" ++
     " the number of places to shift. If the second operand is\npositive, then the shift " ++
     "is to the left; otherwise the shift is to the\nright. Digits shifted into the " ++
     "coefficient are zeros. The sign and exponent\nof the first operand are unchanged." ++
     "\n\n"),
   ("from_float", "($type, f, /)",
     "Class method that converts a float to a decimal number, exactly.\nSince 0.1 is not " ++
     "exactly representable in binary floating point,\nDecimal.from_float(0.1) is not the" ++
     " same as Decimal('0.1').\n\n    >>> Decimal.from_float(0.1)\n    " ++
     "Decimal('0.1000000000000000055511151231257827021181583404541015625')\n    >>> " ++
     "Decimal.from_float(float('nan'))\n    Decimal('NaN')\n    >>> " ++
     "Decimal.from_float(float('inf'))\n    Decimal('Infinity')\n    >>> " ++
     "Decimal.from_float(float('-inf'))\n    Decimal('-Infinity')\n\n\n"),
   ("as_tuple", "($self, /)", "Return a tuple representation of the number.\n\n"),
   ("as_integer_ratio", "($self, /)",
     "Decimal.as_integer_ratio() -> (int, int)\n\nReturn a pair of integers, whose ratio " ++
     "is exactly equal to the original\nDecimal and with a positive denominator. The " ++
     "ratio is in lowest terms.\nRaise OverflowError on infinities and a ValueError on " ++
     "NaNs.\n\n"),
   ("__copy__", "", ""),
   ("__deepcopy__", "", ""),
   ("__format__", "", ""),
   ("__reduce__", "", ""),
   ("__round__", "", ""),
   ("__ceil__", "", ""),
   ("__floor__", "", ""),
   ("__trunc__", "", ""),
   ("__complex__", "", ""),
   ("__sizeof__", "", "")]

/-- The members of these classes. -/
def ofDecimal : List (String × List Entry) :=
  [("Decimal", decimalMembers)]

end DocGuard.Documentation
