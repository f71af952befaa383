import DocGuard.Value.Basic
/-!
Identity of values.

Two values are the same object if they were made once: they carry the same mark. Some values exist
only once each, so that equal ones are the same: the absent value, the truth values, small
integers, the empty text, texts of one character of the first 256, the empty tuple, and classes.
-/

namespace DocGuard.Value

/-- The integers of which there is one object each. -/
def isSmall (n : Int) : Bool :=
  -5 ≤ n && n ≤ 256

/-- The texts of which there is one object each. -/
def isShort (s : String) : Bool :=
  match s.toList with
  | [] => true
  | [c] => c.toNat ≤ 0xff
  | _ => false

/-- Of an instance of this class there is one object only. -/
def isOnlyInstance (c : ClassRef) : Bool :=
  c == .builtin "NotImplementedType" || c == .builtin "ellipsis"

/-- The two are one object. -/
def same : Value → Value → Bool
  | none, none => true
  | bool a, bool b => a == b
  | int i m, int j n => m == n && (i == j || isSmall m)
  | float i _, float j _ => i == j
  | str i s, str j t => s == t && (i == j || isShort s)
  | list i _, list j _ => i == j
  | tuple i vs, tuple j ws => i == j || (vs.isEmpty && ws.isEmpty)
  | dict i _, dict j _ => i == j
  | object i c, object j d => i == j || (c == d && isOnlyInstance c)
  | proxy i _ _, proxy j _ _ => i == j
  | cls c, cls d => c == d
  | function f, function g => f == g
  | method i _ _, method j _ _ => i == j
  | staticMethod i _, staticMethod j _ => i == j
  | classMethod i _, classMethod j _ => i == j
  | property i _ _ _, property j _ _ _ => i == j
  | parent i _ _ _, parent j _ _ _ => i == j
  | code p, code q => p == q
  | cell i, cell j => i == j
  | attributes v, attributes w => same v w
  | storage c a, storage d b => c == d && a == b
  | builtin a, builtin b => a == b
  | slot k c a, slot l d b => k == l && c == d && a == b
  | boundSlot i _ _ _ _, boundSlot j _ _ _ _ => i == j
  | module, module => true
  | library a, library b => a == b
  | _, _ => false

/-- Every value is itself. -/
theorem same_self : (v : Value) → v.same v = true
  | attributes owner => by simp [same, same_self owner]
  | none | bool _ | int _ _ | float _ _ | str _ _ | list _ _ | tuple _ _ | dict _ _ | object _ _
  | proxy _ _ _ | cls _ | function _ | method _ _ _ | staticMethod _ _ | classMethod _ _
  | property _ _ _ _ | parent _ _ _ _ | code _ | cell _ | storage _ _ | builtin _ | slot _ _ _
  | boundSlot _ _ _ _ _ | module | library _ => by simp [same]

end DocGuard.Value
