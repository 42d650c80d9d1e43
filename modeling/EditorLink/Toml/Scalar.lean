import EditorLink.Toml.Value

/-!
# EditorLink — scalars of a configuration document

Numbers, dates and times, and truth values are written without quotes. Each form has a recogniser for the
whole text of a scalar; `scalar?` tries them in turn.
-/

namespace EditorLink.Toml

/-- The value of a digit of a base up to sixteen. -/
def digitValue? (base : Nat) (c : Char) : Option Nat :=
  let value :=
    if c.isDigit then c.toNat - 48
    else if 'a' ≤ c ∧ c ≤ 'f' then c.toNat - 87
    else if 'A' ≤ c ∧ c ≤ 'F' then c.toNat - 55
    else base
  if value < base then some value else none

/-- The digits of a number: underscores stand between digits only. -/
def digits? (base : Nat) (text : List Char) : Option (List Nat) :=
  go false text
where
  /-- The digits left; `behind` says that a digit stands before them. -/
  go (behind : Bool) : List Char → Option (List Nat)
    | [] => if behind then some [] else none
    | '_' :: rest => if behind then go false rest else none
    | c :: rest => do return (← digitValue? base c) :: (← go true rest)

/-- The number that digits spell. -/
def ofDigits (base : Nat) (digits : List Nat) : Nat := digits.foldl (fun n d => n * base + d) 0

def natural? (base : Nat) (text : List Char) : Option Nat := (digits? base text).map (ofDigits base)

/-- A decimal number without needless zeros in front. -/
def decimal? (text : List Char) : Option Nat := do
  let digits ← digits? 10 text
  if digits.length != 1 && digits.head? == some 0 then none else some (ofDigits 10 digits)

/-- The text behind a sign, and whether the sign is minus. -/
def splitSign : List Char → Bool × List Char
  | '-' :: rest => (true, rest)
  | '+' :: rest => (false, rest)
  | rest => (false, rest)

/-- An integer of any size: decimal with a sign if there is one, or in base sixteen, eight or two. -/
def whole? : List Char → Option Int
  | '0' :: 'x' :: rest => (natural? 16 rest).map Int.ofNat
  | '0' :: 'o' :: rest => (natural? 8 rest).map Int.ofNat
  | '0' :: 'b' :: rest => (natural? 2 rest).map Int.ofNat
  | text =>
    let (negative, rest) := splitSign text
    (decimal? rest).map fun n => if negative then -(n : Int) else n

/-- How many integers of 128 bits with a sign are below zero. -/
def wideBound : Int := 170141183460469231731687303715884105728

/-- An integer of 128 bits, with or without a sign. -/
def integer? (text : List Char) : Option Int :=
  (whole? text).filter fun n => -wideBound ≤ n && n < 2 * wideBound

def isExponent (text : List Char) : Bool := (digits? 10 (splitSign text).2).isSome

/-- A fraction behind its point, with an exponent if there is one. -/
def isFraction (text : List Char) : Bool :=
  let (digits, rest) := text.span fun c => c != 'e' && c != 'E'
  (digits? 10 digits).isSome && (rest.isEmpty || isExponent (rest.drop 1))

/-- A number with a fraction or an exponent, an infinity, or no number at all. -/
def isFloat (text : List Char) : Bool :=
  let (_, rest) := splitSign text
  if rest == "inf".toList || rest == "nan".toList then true
  else
    let (whole, tail) := rest.span fun c => c != '.' && c != 'e' && c != 'E'
    (decimal? whole).isSome &&
      match tail with
      | '.' :: tail => isFraction tail
      | _ :: tail => isExponent tail
      | [] => false

-- ---------------------------------------------------------------------------
-- Dates and times
-- ---------------------------------------------------------------------------

/-- A number of exactly `count` digits at the front, and the rest. -/
def fixed? (count : Nat) (text : List Char) : Option (Nat × List Char) :=
  let digits := text.take count
  if digits.length == count && digits.all Char.isDigit then
    some (digits.foldl (fun n c => n * 10 + (c.toNat - 48)) 0, text.drop count)
  else none

def behind? (c : Char) : List Char → Option (List Char)
  | d :: rest => if d == c then some rest else none
  | [] => none

/-- How many days a month has. -/
def daysIn (year month : Nat) : Nat :=
  if month == 2 then
    if year % 4 == 0 && (year % 100 != 0 || year % 400 == 0) then 29 else 28
  else if month == 4 || month == 6 || month == 9 || month == 11 then 30
  else 31

/-- A date at the front; answers with the rest. -/
def date? (text : List Char) : Option (List Char) := do
  let (year, rest) ← fixed? 4 text
  let (month, rest) ← fixed? 2 (← behind? '-' rest)
  let (day, rest) ← fixed? 2 (← behind? '-' rest)
  if 1 ≤ month && month ≤ 12 && 1 ≤ day && day ≤ daysIn year month then some rest else none

/-- A fraction of a second at the front, if there is one. -/
def subsecond? (text : List Char) : Option (List Char) :=
  match text with
  | '.' :: rest =>
    let (digits, rest) := rest.span Char.isDigit
    if digits.isEmpty then none else some rest
  | rest => some rest

/-- A time at the front; seconds may be left out. -/
def time? (text : List Char) : Option (List Char) := do
  let (hour, rest) ← fixed? 2 text
  let (minute, rest) ← fixed? 2 (← behind? ':' rest)
  if 23 < hour || 59 < minute then none
  else
    match rest with
    | ':' :: rest =>
      let (second, rest) ← fixed? 2 rest
      if 60 < second then none else subsecond? rest
    | rest => some rest

/-- The distance from universal time at the front, if there is one. -/
def offset? (text : List Char) : Option (List Char) :=
  match text with
  | 'Z' :: rest => some rest
  | 'z' :: rest => some rest
  | c :: rest =>
    if c == '+' || c == '-' then do
      let (hour, rest) ← fixed? 2 rest
      let (minute, rest) ← fixed? 2 (← behind? ':' rest)
      if 23 < hour || 59 < minute then none else some rest
    else some (c :: rest)
  | [] => some []

/-- A date, a time, or both, with an offset if there are both. -/
def isMoment (text : List Char) : Bool :=
  match date? text with
  | some [] => true
  | some (c :: rest) =>
    (c == 'T' || c == 't' || c == ' ') && ((time? rest).bind offset?) == some []
  | none => time? text == some []

/-- The value of a scalar that is written without quotes. -/
def scalar? (text : List Char) : Option Value :=
  if text == "true".toList then some (.bool true)
  else if text == "false".toList then some (.bool false)
  else
    match integer? text with
    | some n => some (.int n)
    | none =>
      if isFloat text then some .float
      else if isMoment text then some .moment
      else none

end EditorLink.Toml
