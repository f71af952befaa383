/-!
One number for several.

Numbers are mixed into one number of 64 bits, so that different numbers give different mixtures
nearly always. `Mixed.inOrder` depends on the order of the numbers; `Mixed.inAnyOrder` does not.
-/

namespace DocGuard.Mixed

/-- An integer as a word. -/
def toWord (n : Int) : UInt64 :=
  UInt64.ofInt n

/-- A word as an integer with a sign. -/
def ofWord (w : UInt64) : Int :=
  if w < 0x8000000000000000 then w.toNat else (w.toNat : Int) - Int.pow 2 64

/-- The number -1 is not used; it gives way to another one. -/
def avoiding (other w : UInt64) : UInt64 :=
  if w = 0xffffffffffffffff then other else w

/-- The primes by which the words of a sequence are multiplied, and the word it begins with. -/
def first : UInt64 := 11400714785074694791
def second : UInt64 := 14029467366897019727
def start : UInt64 := 2870177450012600261

/-- The word after one more was mixed in. -/
def step (mixed lane : UInt64) : UInt64 :=
  let sum := mixed + lane * second
  ((sum <<< 31) ||| (sum >>> 33)) * first

/-- Numbers mixed in their order. -/
def inOrder (numbers : List Int) : Int :=
  let mixed := (numbers.map toWord).foldl step start
  ofWord (avoiding 1546275796
    (mixed + (UInt64.ofNat numbers.length ^^^ (start ^^^ (3527539 : UInt64)))))

/-- A word spread over all bits. -/
def spread (w : UInt64) : UInt64 :=
  let turned : UInt64 := w ^^^ 89869747
  (turned ^^^ (w <<< 16)) * 3644798167

/-- Numbers mixed whatever their order. -/
def inAnyOrder (numbers : List Int) : Int :=
  let mixed := (numbers.map fun n => spread (toWord n)).foldl (fun (a b : UInt64) => a ^^^ b) 0
  let counted : UInt64 := mixed ^^^ (UInt64.ofNat (numbers.length + 1) * 1927868237)
  let spread : UInt64 := counted ^^^ (counted >>> 11 ^^^ counted >>> 25)
  ofWord (avoiding 590923713 (spread * 69069 + 907133923))

end DocGuard.Mixed
