import GuardedDispatch.Failure
import GuardedDispatch.Value.Equality

/-! # Order of values

Values in order (`Value.sort`). Texts are ordered by their code points, octets by their numbers,
numbers by their size, dates and moments by time, and fixed sequences by the first pair of items
that differ. Values of different kinds have no order, nor have those of the other kinds, so sorting
fails as soon as two of them meet (`Value.precedes`). -/

namespace GuardedDispatch

/-- Whether one moment lies **before** another; only one of them may not tell its distance from
universal time. -/
def Calendar.Moment.precedes? (a b : Moment) : Option Bool :=
  match a.offset, b.offset with
  | some x, some y => some (a.instant x < b.instant y)
  | none, none => some (a.instant 0 < b.instant 0)
  | _, _ => none

namespace Value

/-- The code points of a text. -/
def codePoints? : Value → Option (List Nat)
  | .str s => some (s.toList.map Char.toNat)
  | .codes points _ => some points
  | _ => none

/-- Whether a value is a number of any kind. -/
def isNumber : Value → Bool
  | .bool _ | .int _ | .float _ | .nan _ => true
  | _ => false

/-- Whether one value without items comes **before** another, if they have an order. -/
def leafPrecedes? (a b : Value) : Option Bool :=
  match a, b with
  | .bytes a, .bytes b => some (decide (a < b))
  | .date a, .date b => some (decide (a.number < b.number))
  | .moment a, .moment b => a.precedes? b
  | a, b =>
    match a.codePoints?, b.codePoints? with
    | some x, some y => some (decide (x < y))
    | _, _ =>
      match a.extent?, b.extent? with
      | some x, some y => some (x.below y)
      | _, _ => if a.isNumber && b.isNumber then some false else none

mutual

/-- Whether one value comes **before** another. -/
def precedes : Value → Value → Except Failure Bool
  | .tuple a, .tuple b => itemsPrecede a b
  | .list a, .list b => itemsPrecede a b
  | a, b => ((a.leafPrecedes? b).map .ok).getD (.error (.type .unordered))

/-- Whether one sequence comes before another, by the first items that differ. -/
def itemsPrecede : List Value → List Value → Except Failure Bool
  | [], bs => .ok (!bs.isEmpty)
  | _ :: _, [] => .ok false
  | a :: as, b :: bs => if a == b then itemsPrecede as bs else precedes a b

end

/-- Insert a value into a list that is in order, behind all values that do not come after it. -/
def insertInOrder (v : Value) : List Value → Except Failure (List Value)
  | [] => .ok [v]
  | w :: rest => do
    if ← precedes v w then return v :: w :: rest
    return w :: (← insertInOrder v rest)

/-- Values **in order**; values that are alike keep theirs. -/
def sort (values : List Value) : Except Failure (List Value) :=
  values.foldlM (fun sorted v => insertInOrder v sorted) []

@[simp] theorem precedes_str (a b : String) :
    precedes (.str a) (.str b) =
      .ok (decide (a.toList.map Char.toNat < b.toList.map Char.toNat)) := by
  simp [precedes, leafPrecedes?, codePoints?]

end Value

end GuardedDispatch
