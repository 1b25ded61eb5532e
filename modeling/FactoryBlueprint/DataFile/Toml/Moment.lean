/-! # Dates and times

A moment is a date, a time of day, or both with a letter `T` or a blank between them; then it may
also name an offset from universal time. Nothing is made of moments: they are only told from what is
none.
-/

namespace FactoryBlueprint.Moment

/-- What follows a number of `count` digits from `low` to `high`, and the number. -/
def number? (count low high : Nat) (cs : List Char) : Option (Nat × List Char) :=
  let digits := cs.take count
  let n := digits.foldl (fun n c => 10 * n + (c.toNat - '0'.toNat)) 0
  if digits.length = count ∧ digits.all Char.isDigit ∧ low ≤ n ∧ n ≤ high then
    some (n, cs.drop count)
  else none

/-- What follows a given character. -/
def mark? (mark : Char) : List Char → Option (List Char)
  | c :: rest => if c = mark then some rest else none
  | [] => none

/-- The days of a month. -/
def daysIn (year month : Nat) : Nat :=
  if month = 2 then
    if year % 4 = 0 ∧ (year % 100 ≠ 0 ∨ year % 400 = 0) then 29 else 28
  else if month ∈ [4, 6, 9, 11] then 30
  else 31

/-- What follows a date. -/
def date? (cs : List Char) : Option (List Char) := do
  let (year, cs) ← number? 4 0 9999 cs
  let (month, cs) ← number? 2 1 12 (← mark? '-' cs)
  let (_, cs) ← number? 2 1 (daysIn year month) (← mark? '-' cs)
  some cs

/-- What follows hours and minutes. -/
def hourMinute? (cs : List Char) : Option (List Char) := do
  let (_, cs) ← number? 2 0 23 cs
  let (_, cs) ← number? 2 0 59 (← mark? ':' cs)
  some cs

/-- What follows a time of day. A minute may have a sixty-first second. -/
def time? (cs : List Char) : Option (List Char) := do
  let (_, cs) ← number? 2 0 60 (← mark? ':' (← hourMinute? cs))
  match cs with
  | '.' :: rest =>
    if (rest.takeWhile Char.isDigit).isEmpty then none else some (rest.dropWhile Char.isDigit)
  | _ => some cs

/-- What follows an offset, if there is one. -/
def offset? (cs : List Char) : Option (List Char) :=
  match cs with
  | 'Z' :: rest | 'z' :: rest => some rest
  | '+' :: rest | '-' :: rest => hourMinute? rest
  | _ => some cs

/-- What follows a moment. -/
def moment? (cs : List Char) : Option (List Char) :=
  match date? cs with
  | none => time? cs
  | some rest =>
    match rest with
    | 'T' :: clock | 't' :: clock | ' ' :: clock =>
      match time? clock with
      | some rest => offset? rest
      | none => some rest
    | _ => some rest

end FactoryBlueprint.Moment
