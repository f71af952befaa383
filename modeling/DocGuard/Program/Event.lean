import DocGuard.Program.Store
/-!
What a program lets be seen while it runs, and how an action of it can fail.
-/

namespace DocGuard

/-- A value as it is shown: a plain value itself, any other by the name of its class. -/
inductive ValueView where
  | plain (v : Value)
  | other (type : String)

/-- A callable as it is shown. -/
structure FunctionView where
  /-- Its name; the absent value if it has none. -/
  name : ValueView
  /-- The name of its class. -/
  type : String
  /-- For functions and methods, the documentation as it is kept, and whether calls are guarded. -/
  detail : Option (ValueView × Bool)

/-- The owner of a running call as it is shown. -/
inductive OwnerView where
  | none
  | cls (name : String)
  | module (name : String)
deriving DecidableEq, Repr

/-- A running call as it is shown. -/
structure CallView where
  owner : OwnerView
  method : String
  args : List ValueView
  func : Option FunctionView

/-- Something that happens while a program runs. -/
inductive Event where
  /-- A check reports. -/
  | reported (signal : Signal)
  /-- The body of a function is entered. -/
  | entered (function : String)
  /-- A check that the program asked for ended without failing. -/
  | validated (found : Option Violation)
  /-- A call was described, if there was one to describe. -/
  | described (call : Option CallView)

/-- Why an action fails. -/
inductive Fault where
  /-- The options of a check are refused. -/
  | options (e : OptionError)
  /-- A check fails. The function checked is known by the name `kept`. -/
  | mismatch (m : Mismatch) (kept : Option String)
  /-- A warning is given where warnings are failures. -/
  | warned (m : Mismatch)
  /-- The arguments of a call do not bind, or a value does not fit. -/
  | badCall
  /-- A class has no ancestry, or derives from something that is no class. -/
  | badParents
  /-- A value is of the right class and still does not fit, as the message says. -/
  | badValue (message : String)
  /-- A name means nothing. -/
  | unboundName (name : String)
  /-- A value has no member of this name. -/
  | noMember (name : String)
  /-- There is no receiver from which the parent classes could be reached. -/
  | noParent
  /-- A container has nothing under a key. -/
  | noKey
  /-- A container has nothing at a place. -/
  | noItem
  /-- There are no values left. -/
  | exhausted
  /-- Nothing can be divided by zero. -/
  | noQuotient
  /-- A number is too large. -/
  | tooLarge
  /-- A container has changed while its values were gone through. -/
  | changed
  /-- A text cannot be written in an encoding, or bytes cannot be read in it. -/
  | notEncoded
  /-- There is no encoding of this name. -/
  | noEncoding
  /-- Too many calls are going on. -/
  | tooDeep

namespace Fault

/-- The failure says that a member is missing. -/
def isMissing : Fault → Bool
  | noMember _ => true
  | _ => false

/-- The failure says that a value does not fit, be it by its class or by what it is. -/
def isUnfit : Fault → Bool
  | options _ | mismatch _ _ | badCall | badParents | badValue _ | notEncoded => true
  | _ => false

/-- The failure says that a value does not fit although it is of the right class. -/
def isBadValue : Fault → Bool
  | options _ | badValue _ | notEncoded => true
  | _ => false

/-- The failure says that there are no values left. -/
def isExhausted : Fault → Bool
  | exhausted => true
  | _ => false

end Fault

end DocGuard
