import DocGuard.Finding
/-!
The verdict on a list of findings.

The first finding whose two types differ is the violation; findings after it are not looked at. A
verdict tells what was reported on the way and how the check ended: with a failure that carries
the violation, with the violation after a warning, or with none.
-/

namespace DocGuard

/-- A documented parameter whose argument has another type. -/
structure Violation where
  /-- The name of the parameter. -/
  name : String
  /-- The type that the documentation declares. -/
  expected : String
  /-- The type of the argument. -/
  actual : String
deriving DecidableEq, Repr

/-- The wording of a violation. -/
def Violation.message (v : Violation) : String :=
  "Parameter '" ++ v.name ++ "' must be " ++ v.expected ++ ", got " ++ v.actual

namespace Finding

/-- The violation that a finding is, if its types differ. -/
def violation? (f : Finding) : Option Violation :=
  if f.expected = f.actual then none else some ⟨f.name, f.expected, f.actual⟩

/-- The first violation among some findings. -/
def firstViolation? (findings : List Finding) : Option Violation :=
  findings.findSome? violation?

/-- How many findings are looked at: all up to the first violation. -/
def inspected : List Finding → Nat
  | [] => 0
  | f :: rest => if f.violation?.isSome then 1 else inspected rest + 1

end Finding

/-- A violation reported as the failure of a call. -/
structure Mismatch where
  /-- What was violated. -/
  violation : Violation
  /-- The function whose arguments were checked, if it is known. -/
  place : Option String
deriving DecidableEq, Repr

/-- The name of a function, if it has one that is not empty. -/
def placeName? (place : Option String) : Option String :=
  place.filter fun name => !name.isEmpty

/-- The wording of a failure. -/
def Mismatch.message (m : Mismatch) : String :=
  match placeName? m.place with
  | some name => "type validation failed in " ++ name ++ "():\n  " ++ m.violation.message
  | none => m.violation.message

/-- Why a check was skipped, or what it found. -/
inductive LogEntry where
  /-- No documented parameter has an argument. -/
  | nothingFound (place : Option String)
  /-- An argument has another type than documented. -/
  | mismatch (place : Option String) (violation : Violation)
  /-- The check was not called from a function. -/
  | noCaller
  /-- The function that called the check received no arguments. -/
  | noArguments (function : String)
  /-- The function has no documentation or no parameters. -/
  | undocumented (function : String)
  /-- The function was left without a guard, as it has no documentation or no parameters. -/
  | notGuarded (function : String)
deriving DecidableEq, Repr

/-- How much a log entry matters. -/
inductive LogLevel where
  | debug
  | info
deriving DecidableEq, Repr

namespace LogEntry

/-- Only a mismatch is more than a detail. -/
def level : LogEntry → LogLevel
  | mismatch _ _ => .info
  | _ => .debug

/-- The name under which a log entry speaks of a function. -/
def label (place : Option String) : String :=
  (placeName? place).getD "<unknown>"

/-- The wording of a log entry. -/
def message : LogEntry → String
  | nothingFound place =>
    "no documented scalar parameters with values in " ++ label place ++ "(), skipped"
  | mismatch place violation =>
    "argument type mismatch in " ++ label place ++ "(): " ++ violation.message
  | noCaller => "validate_arguments: no calling function, skipped"
  | noArguments function =>
    "validate_arguments: " ++ function ++ "() received no arguments, skipped"
  | undocumented function =>
    "validate_arguments: no docstring or parameters for " ++ function ++ "(), skipped"
  | notGuarded function =>
    "@validated: no docstring or parameters for " ++ function ++ "(), not wrapped"

end LogEntry

/-- What a check reports while it runs. -/
inductive Signal where
  /-- An entry of the log. -/
  | log (entry : LogEntry)
  /-- A warning with the wording of the failure that it stands for. -/
  | warning (m : Mismatch)
deriving DecidableEq, Repr

/-- The course of a check. -/
structure Verdict where
  /-- What was reported, in order. -/
  signals : List Signal
  /-- How it ended. -/
  result : Except Mismatch (Option Violation)

namespace Verdict

/-- A check that was skipped for the reason logged. -/
def skipped (entry : LogEntry) : Verdict :=
  ⟨[.log entry], .ok none⟩

/-- The verdict on a violation: it is logged, and then fails or warns. -/
def onViolation (reaction : OnMismatch) (place : Option String) (v : Violation) : Verdict :=
  match reaction with
  | .fail => ⟨[.log (.mismatch place v)], .error ⟨v, place⟩⟩
  | .warn => ⟨[.log (.mismatch place v), .warning ⟨v, place⟩], .ok (some v)⟩

/-- The verdict on some findings. -/
def ofFindings (reaction : OnMismatch) (place : Option String) (findings : List Finding) :
    Verdict :=
  if findings.isEmpty then skipped (.nothingFound place)
  else match Finding.firstViolation? findings with
    | none => ⟨[], .ok none⟩
    | some v => onViolation reaction place v

end Verdict

/-- The options of a check. -/
structure CheckOptions where
  /-- The styles of tag that count, distinct and at least one. -/
  styles : List Style
  /-- What follows a mismatch. -/
  reaction : OnMismatch
deriving DecidableEq, Repr

/-- The options named. The reaction is looked at first. -/
def CheckOptions.ofNames (styleNames : List String) (reaction : Option String) :
    Except OptionError CheckOptions := do
  let reaction ← OnMismatch.ofName reaction
  let styles ← Style.ofNames styleNames
  return ⟨styles, reaction⟩

/-- Judges arguments by the documentation of the function at `place`. -/
def judge (options : CheckOptions) (place : Option String) (doc : Option String)
    (names : List String) (args : List Value) : Verdict :=
  Verdict.ofFindings options.reaction place (Finding.ofDoc options.styles doc names args)

/-- Checks explicit arguments. Wrong options are refused before anything is looked at. -/
def check (styleNames : List String) (reaction : Option String) (place : Option String)
    (doc : Option String) (names : List String) (args : List Value) :
    Except OptionError Verdict :=
  (CheckOptions.ofNames styleNames reaction).map fun options =>
    judge options place doc names args

end DocGuard
