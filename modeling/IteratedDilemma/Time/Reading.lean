import IteratedDilemma.Text.Octets
import IteratedDilemma.Time.Timestamp

/-! Reading timestamps. A date is written with or without hyphens, as month and day or as a week;
any one code point separates it from the time of day, which is written with or without colons, and
may end in a fraction and in the offset of a time zone. The text is read octet by octet, each as the
character with its number; a null octet ends it where it could end. -/
namespace IteratedDilemma.Timestamp
set_option autoImplicit false

/-- The value of one of the ten digits `0` to `9`. -/
def digitValue? (c : Char) : Option Nat :=
  if c.isDigit then some (c.toNat - 48) else none

/-- A number of exactly `count` digits, and the text after it. -/
def number? (count : Nat) (cs : List Char) : Option (Nat × List Char) :=
  match count with
  | 0 => some (0, cs)
  | count + 1 =>
    match cs with
    | [] => none
    | c :: rest => do
      let d ← digitValue? c
      let (n, rest) ← number? count rest
      return (d * Nat.pow 10 count + n, rest)

/-! ## The date -/

/-- How many characters the date takes, as its first characters tell. Where a week is followed by a
hyphen and two digits, the hyphen is taken for the separator; where digits follow a week written
without hyphens, their number decides whether the first is a day of the week. -/
def dateLength (cs : List Char) : Nat :=
  if cs.length = 7 then 7
  else
    match cs.drop 4 with
    | '-' :: 'W' :: _ =>
      match cs.drop 8 with
      | '-' :: _ :: c :: _ => if c.isDigit then 8 else 10
      | '-' :: _ => 10
      | _ => 8
    | '-' :: _ => 10
    | 'W' :: _ =>
      let digits := ((cs.drop 7).takeWhile Char.isDigit).length
      if digits < 2 then 7 + digits else if digits % 2 = 1 then 7 else 8
    | _ => 8

/-- A hyphen, where hyphens are in use. -/
def hyphen? (used : Bool) : List Char → Option (List Char)
  | '-' :: rest => if used then some rest else none
  | rest => if used then none else some rest

/-- A day given by its week. Year 0 has weeks, but no month to show for them. -/
def weekDate? (year : Nat) (hyphens : Bool) (cs : List Char) : Option Calendar.Day := do
  let (week, rest) ← number? 2 cs
  let weekday ←
    if rest.isEmpty then some 1
    else
      match number? 1 (← hyphen? hyphens rest) with
      | some (weekday, []) => some weekday
      | _ => none
  if week = 0 ∨ Calendar.weeksOf year < week ∨ weekday = 0 ∨ 7 < weekday then none
  else if year = 0 then some ⟨1, 0, 1⟩
  else some (Calendar.ofWeek year week weekday)

/-- A day, whether it exists or not. -/
def date? (cs : List Char) : Option Calendar.Day := do
  let (year, rest) ← number? 4 cs
  let hyphens := rest.head? == some '-'
  let rest ← hyphen? hyphens rest
  match rest with
  | 'W' :: rest => weekDate? year hyphens rest
  | rest =>
    let (month, rest) ← number? 2 rest
    match number? 2 (← hyphen? hyphens rest) with
    | some (day, []) => some ⟨year, month, day⟩
    | _ => none

/-! ## The time of day -/

/-- Hours, minutes, seconds and microseconds. `complete` tells that nothing was left over: a left
over piece is overlooked in front of an offset. -/
structure ClockReading where
  hour : Nat
  minute : Nat
  second : Nat
  micro : Nat
  complete : Bool

/-- Whether a text is at its end. -/
def isEnd : List Char → Bool
  | [] => true
  | c :: _ => c == '\x00'

/-- A fraction of up to six digits, and further digits that are cut off. -/
def fractionOf? (cs : List Char) : Option (Nat × Bool) := do
  let places := min cs.length 6
  let (n, rest) ← number? places cs
  return (n * Nat.pow 10 (6 - places), isEnd (rest.dropWhile Char.isDigit))

/-- What follows two digits of a time of day. -/
inductive AfterField where
  | stop (complete : Bool)
  | field (rest : List Char)
  | fraction (rest : List Char)

/-- The next field follows a colon, or directly where colons are not in use. -/
def afterField? (colons : Bool) : List Char → Option AfterField
  | [] => some (.stop true)
  | [c] => some (.stop (isEnd [c]))
  | c :: rest =>
    if colons ∧ c = ':' then some (.field rest)
    else if c = '.' ∨ c = ',' then some (.fraction rest)
    else if colons then none
    else some (.field (c :: rest))

/-- A time of day. After the seconds a colon counts as the point of a fraction. -/
def clock? (cs : List Char) : Option ClockReading := do
  let (hour, rest) ← number? 2 cs
  let colons := rest.head? == some ':'
  match ← afterField? colons rest with
  | .stop complete => some ⟨hour, 0, 0, 0, complete⟩
  | .fraction rest =>
    let (micro, complete) ← fractionOf? rest
    some ⟨hour, 0, 0, micro, complete⟩
  | .field rest =>
    let (minute, rest) ← number? 2 rest
    match ← afterField? colons rest with
    | .stop complete => some ⟨hour, minute, 0, 0, complete⟩
    | .fraction rest =>
      let (micro, complete) ← fractionOf? rest
      some ⟨hour, minute, 0, micro, complete⟩
    | .field rest =>
      let (second, rest) ← number? 2 rest
      match ← afterField? colons rest with
      | .stop complete => some ⟨hour, minute, second, 0, complete⟩
      | .fraction rest | .field rest =>
        let (micro, complete) ← fractionOf? rest
        some ⟨hour, minute, second, micro, complete⟩

/-- The offset of a time zone, from its sign on, in microseconds. An offset of no whole second is
no offset. -/
def offset? : List Char → Option Int
  | 'Z' :: rest => if isEnd rest then some 0 else none
  | sign :: rest => do
    if sign ≠ '+' ∧ sign ≠ '-' then none
    let c ← clock? rest
    if !c.complete then none
    let seconds := c.hour * 3600 + c.minute * 60 + c.second
    let micros : Int := if seconds = 0 then 0 else seconds * 1000000 + c.micro
    return if sign = '-' then -micros else micros
  | [] => none

def isOffsetSign (c : Char) : Bool :=
  c == '+' || c == '-' || c == 'Z'

/-- The time of day with its offset. -/
def timeOfDay? (cs : List Char) : Option (ClockReading × Option Int) := do
  let c ← clock? (cs.takeWhile fun c => !isOffsetSign c)
  match cs.dropWhile fun c => !isOffsetSign c with
  | [] => if c.complete then some (c, none) else none
  | zone => some (c, some (← offset? zone))

/-! ## The whole -/

/-- The number of octets of a code point, as the first of them tells. -/
def separatorSize (first : Char) : Nat :=
  if first.toNat < 0x80 then 1
  else if first.toNat < 0xe0 then 2
  else if first.toNat < 0xf0 then 3
  else 4

/-- The moment that octets describe. -/
def moment? (cs : List Char) : Option Moment := do
  let length := dateLength cs
  let d ← date? (cs.take length)
  match cs.drop length with
  | [] => some ⟨d.year, d.month, d.day, 0, 0, 0, 0, none⟩
  | first :: rest =>
    let (c, offset) ← timeOfDay? ((first :: rest).drop (separatorSize first))
    some ⟨d.year, d.month, d.day, c.hour, c.minute, c.second, c.micro, offset⟩

/-- A text in which one half of a pair, in a place where a date may end, is made a `T`. -/
def cleared (t : Text) : Text :=
  match [7, 8, 10].find? fun place => t[place]?.any CodePoint.isHalf with
  | some place => t.set place 'T'
  | none => t

/-- The octets of a text of at least seven code points, if it has octets. -/
def octets? (t : Text) : Option (List Char) :=
  if t.length < 7 ∨ (cleared t).any CodePoint.isHalf then none
  else some ((cleared t).flatMap fun c => c.octets.map Char.ofNat)

/-- The timestamp that a text describes, or why there is none. -/
def read (t : Text) : Except TimeFault Timestamp :=
  match (octets? t).bind moment? with
  | none => .error (.unreadable t)
  | some m => ofMoment m

end IteratedDilemma.Timestamp
