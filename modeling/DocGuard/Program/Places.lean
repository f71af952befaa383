/-!
Sorting numbered things into places.

A table has a power of two of places. A thing goes to the place that its number names, or to the
next free one on a walk through the table that its number decides. When three of five places are
taken, the table grows. `Places.order` lists the things by their places.
-/

namespace DocGuard.Places

variable {α : Type}

/-- A table: a number and a thing at each place that is taken. -/
abbrev Table (α : Type) := List (Option (Nat × α))

/-- How many places behind the one named are tried before the walk goes elsewhere. -/
def nearby : Nat := 9

/-- The first free place among `count` places from `i` on. -/
def freeFrom (table : Table α) : (count : Nat) → (i : Nat) → Option Nat
  | 0, _ => none
  | count + 1, i =>
    match table[i]? with
    | some none => some i
    | _ => freeFrom table count (i + 1)

/-- The first free place on the walk, which is at `i` and has `left` of its number left. It ends
after at most `n` steps. -/
def freePlace (table : Table α) : (n : Nat) → (i left : Nat) → Nat
  | 0, i, _ => i
  | n + 1, i, left =>
    let count := if i + nearby < table.length then nearby + 1 else 1
    match freeFrom table count i with
    | some place => place
    | none => freePlace table n ((i * 5 + 1 + left / 32) % table.length) (left / 32)

/-- The table after a thing was put into it. -/
def put (table : Table α) (number : Nat) (a : α) : Table α :=
  let place := freePlace table (table.length * 2 + 20) (number % table.length) number
  table.set place (some (number, a))

/-- The least size of a table above a number: a power of two, at least eight. -/
def sizeAbove (least : Nat) : (n : Nat) → (size : Nat) → Nat
  | 0, size => size
  | n + 1, size => if size ≤ least then sizeAbove least n (size * 2) else size

/-- A table with nothing in it. -/
def empty (least : Nat) : Table α :=
  List.replicate (sizeAbove least 64 8) none

/-- The table with room for four times as many things, if it is too full. -/
def grown (table : Table α) : Table α :=
  let held := table.filterMap id
  if held.length * 5 < (table.length - 1) * 3 then table
  else held.foldl (fun table (number, a) => put table number a) (empty (held.length * 4))

/-- Numbered things in the order of their places, after they were put into a table one by one. -/
def order (numbered : List (Nat × α)) : List α :=
  let table := numbered.foldl (fun table (number, a) => grown (put table number a)) (empty 0)
  (table.filterMap id).map Prod.snd

end DocGuard.Places
