/-
TableQuery/Time/Clock.lean

Times of day, and the text of one.

A time is written `HH:MM:SS`, with six digits of a fraction if it has one.
The reader takes more: minutes and seconds may be missing, the colons may be
missing together, and a fraction may follow any part behind a point or a
comma.  Only the first six digits of a fraction count.  `Clock.readFields?`
also says whether text is left over, because a time with an offset behind it
tolerates some.
-/
import TableQuery.Time.Date

namespace TableQuery

/-- A time of day that exists. -/
structure Clock where
  hour : Nat
  minute : Nat
  second : Nat
  microsecond : Nat
  hour_valid : hour < 24 := by decide
  minute_valid : minute < 60 := by decide
  second_valid : second < 60 := by decide
  microsecond_valid : microsecond < 1000000 := by decide
  deriving DecidableEq

/-- The parts of a time as read, before it is known to exist. -/
structure ClockFields where
  hour : Nat := 0
  minute : Nat := 0
  second : Nat := 0
  microsecond : Nat := 0
  deriving DecidableEq

namespace Clock

/-- The time of these parts, if there is one. -/
def of (f : ClockFields) : Except TimeError Clock :=
  if hh : f.hour < 24 then
    if hm : f.minute < 60 then
      if hs : f.second < 60 then
        if hu : f.microsecond < 1000000 then
          .ok ⟨f.hour, f.minute, f.second, f.microsecond, hh, hm, hs, hu⟩
        else .error .second
      else .error .second
    else .error .minute
  else .error .hour

/-- The microseconds since midnight. -/
def microseconds (c : Clock) : Nat :=
  ((c.hour * 60 + c.minute) * 60 + c.second) * 1000000 + c.microsecond

/-- The time a number of microseconds after midnight, around the clock. -/
def ofMicroseconds (n : Nat) : Clock where
  hour := n / 3600000000 % 24
  minute := n / 60000000 % 60
  second := n / 1000000 % 60
  microsecond := n % 1000000
  hour_valid := Nat.mod_lt _ (by decide)
  minute_valid := Nat.mod_lt _ (by decide)
  second_valid := Nat.mod_lt _ (by decide)
  microsecond_valid := Nat.mod_lt _ (by decide)

/-- The time a number of seconds after midnight, around the clock. -/
def ofSeconds (n : Nat) : Clock := ofMicroseconds (n * 1000000)

/-- The fraction of a written time: nothing, or a point and six digits. -/
def fractionText (microsecond : Nat) : List Char :=
  if microsecond = 0 then [] else '.' :: digitsPadded 6 microsecond

/-- The written form `HH:MM:SS`, with a fraction if there is one. -/
def text (c : Clock) : List Char :=
  digitsPadded 2 c.hour ++ ':' :: (digitsPadded 2 c.minute ++ ':' ::
    (digitsPadded 2 c.second ++ fractionText c.microsecond))

/-! ### Reading -/

/-- The value of an ASCII digit. -/
def asciiDigit? (c : Char) : Option Nat :=
  if c.isDigit then some (c.toNat - 48) else none

/-- Exactly this many ASCII digits in front, as a number. -/
def readFixed? : Nat → List Char → Option (Nat × List Char)
  | 0, cs => some (0, cs)
  | _ + 1, [] => none
  | n + 1, c :: cs => do
    let d ← asciiDigit? c
    let (rest, cs) ← readFixed? n cs
    some (d * Nat.pow 10 n + rest, cs)

/-- A fraction of a second, of at least one digit: microseconds, and whether
text is left over. -/
def readFraction? (cs : List Char) : Option (Nat × Bool) := do
  let width := min cs.length 6
  let (digits, cs) ← readFixed? width cs
  some (digits * Nat.pow 10 (6 - width), !(cs.dropWhile Char.isDigit).isEmpty)

/-- What stands between two parts of a time, after the digits of one. -/
inductive Gap where
  /-- The time ends here; whether an ASCII character is left over. -/
  | ends (leftover : Bool)
  /-- Another part follows. -/
  | part (rest : List Char)
  /-- A fraction follows. -/
  | fraction (rest : List Char)
  | malformed

/-- Reads the gap; `colons` says whether the parts are divided by colons. -/
def readGap (colons : Bool) : List Char → Gap
  | [] => .ends false
  | [c] => if c.toNat < 128 then .ends true else .malformed
  | c :: cs =>
    if colons && c = ':' then .part cs
    else if c = '.' || c = ',' then .fraction cs
    else if colons then .malformed
    else .part (c :: cs)

/-- The parts of a time text, and whether text is left over. -/
def readFields? (cs : List Char) : Option (ClockFields × Bool) := do
  let (hour, cs) ← readFixed? 2 cs
  let colons := cs.head? = some ':'
  let f : ClockFields := { hour }
  let withFraction (f : ClockFields) (cs : List Char) : Option (ClockFields × Bool) := do
    let (microsecond, leftover) ← readFraction? cs
    some ({ f with microsecond }, leftover)
  match readGap colons cs with
  | .ends leftover => some (f, leftover)
  | .fraction cs => withFraction f cs
  | .malformed => none
  | .part cs =>
    let (minute, cs) ← readFixed? 2 cs
    let f := { f with minute }
    match readGap colons cs with
    | .ends leftover => some (f, leftover)
    | .fraction cs => withFraction f cs
    | .malformed => none
    | .part cs =>
      let (second, cs) ← readFixed? 2 cs
      let f := { f with second }
      match readGap colons cs with
      | .ends leftover => some (f, leftover)
      | .fraction cs => withFraction f cs
      | .malformed => none
      | .part cs => withFraction f cs

end Clock

end TableQuery
