/-
The order of the members of a set.

A set of numbers has more places than members, and lists its members from the first
place on.  A number is reduced by a prime, and its remainder by the number of places is
the first place that is tried for it.  If that is taken, so may be the nine after it be
tried, and then places further off, which take up more and more of the number.  Once all
of the number is taken up the places tried run through all there are, so in the end one
is found that is free.

A set with other members than numbers lists its members as they came.
-/
import SecurityMarking.Scalar

namespace SecurityMarking

/-! ### Numbers -/

/-- The prime by which numbers are reduced. -/
def placePrime : Nat := Nat.pow 2 61 - 1

/-- A reduced number with its sign; minus one gives way to minus two. -/
def signed (negative : Bool) (n : Nat) : Int :=
  if negative then (if n = 1 then -2 else -n) else n

namespace Scalar

/-- A number reduced by the prime.  Two to the power of 61 leaves one, so of a power of two only the
remainder by 61 counts. -/
def reduced? (s : Scalar) : Option Int :=
  match s.key with
  | number n => some (signed (n < 0) (n.natAbs % placePrime))
  | real (.finite negative significand power) =>
    some (signed negative (significand * Nat.pow 2 ((power + 24) % 61) % placePrime))
  | real (.infinite negative) => some (signed negative 314159)
  | _ => none

end Scalar

/-! ### Places -/

/-- The number of places in a set of as many members. -/
def placesFor (members : Nat) : Nat :=
  if members ≤ 4 then 8 else Nat.pow 2 ((2 * members).log2 + 1)

/-- The places that are tried together with one. -/
def placesNear (places place : Nat) : List Nat :=
  if place + 9 < places then List.range' place 10 else [place]

/-- The first free place that is tried for a number of which a rest is not taken up yet; the bound
is on how often that is further off. -/
def freePlace (places : Nat) (taken : List Nat) (place rest : Nat) : Nat → Nat
  | 0 => place
  | bound + 1 =>
    match (placesNear places place).find? fun p => !taken.contains p with
    | some p => p
    | none => freePlace places taken ((5 * place + 1 + rest / 32) % places) (rest / 32) bound

/-- The places of numbers after some that are taken, each as the number of 64 bits that it is. -/
def placesAfter (places : Nat) (taken : List Nat) : List Nat → List Nat
  | [] => []
  | n :: ns =>
    let place := freePlace places taken (n % places) n (places + 13)
    place :: placesAfter places (place :: taken) ns

namespace Scalar

/-- The members of a set in the order in which it lists them. -/
def arranged (members : List Scalar) : List Scalar :=
  match members.mapM reduced? with
  | none => members
  | some ns =>
    let places :=
      placesAfter (placesFor members.length) [] (ns.map fun n => (n % Int.pow 2 64).toNat)
    ((places.zip members).mergeSort fun x y => x.1 ≤ y.1).map (·.2)

end Scalar

end SecurityMarking
