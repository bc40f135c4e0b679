/-!
# Numbers and times of a settings document

Each function here recognises a whole run of characters.  Digits may be separated by
single underscores.  Floats and times are checked, but their value is not kept, beyond
whether a double can hold a float at all.
-/

namespace BidiViewport.Toml

/-- The value of a digit in a base up to sixteen. -/
def digitValue? (base : Nat) (c : Char) : Option Nat :=
  let value? :=
    if c.isDigit then some (c.toNat - '0'.toNat)
    else if 'a' ≤ c ∧ c ≤ 'f' then some (c.toNat - 'a'.toNat + 10)
    else if 'A' ≤ c ∧ c ≤ 'F' then some (c.toNat - 'A'.toNat + 10)
    else none
  value?.filter (· < base)

/-- The number that more digits make of `n`. -/
def digitsAfter (base n : Nat) : List Char → Option Nat
  | [] => some n
  | '_' :: c :: rest => do digitsAfter base (base * n + (← digitValue? base c)) rest
  | c :: rest => do digitsAfter base (base * n + (← digitValue? base c)) rest

/-- A number of at least one digit. -/
def digits? (base : Nat) : List Char → Option Nat
  | [] => none
  | c :: rest => do digitsAfter base (← digitValue? base c) rest

/-- A decimal number without superfluous zeros in front. -/
def decimal? : List Char → Option Nat
  | '0' :: _ :: _ => none
  | run => digits? 10 run

/-- An integer: decimal with an optional sign, or without a sign in another base. -/
def integer? : List Char → Option Int
  | '0' :: 'x' :: run => (digits? 16 run).map Int.ofNat
  | '0' :: 'o' :: run => (digits? 8 run).map Int.ofNat
  | '0' :: 'b' :: run => (digits? 2 run).map Int.ofNat
  | '-' :: run => (decimal? run).map fun n => -(n : Int)
  | '+' :: run => (decimal? run).map Int.ofNat
  | run => (decimal? run).map Int.ofNat

namespace FloatText

/-- The decimal number `mantissa` times ten to the power of `exponent`, of at most `length`
digits before the power, is nearer to infinity than to the largest double. -/
def overflows (mantissa length : Nat) (exponent : Int) : Bool :=
  let bound := Nat.pow 2 1024 - Nat.pow 2 970
  if mantissa = 0 then false
  else if 0 ≤ exponent then
    400 < exponent || bound ≤ mantissa * Nat.pow 10 exponent.toNat
  else if (length : Int) ≤ 300 - exponent then false
  else bound * Nat.pow 10 (-exponent).toNat ≤ mantissa

/-- The exponent at the end of a float, zero when there is none. -/
def exponent? : List Char → Option Int
  | [] => some 0
  | e :: run =>
    if e = 'e' ∨ e = 'E' then
      match run with
      | '-' :: run => (digits? 10 run).map fun n => -(n : Int)
      | '+' :: run => (digits? 10 run).map Int.ofNat
      | run => (digits? 10 run).map Int.ofNat
    else none

/-- The character begins an exponent. -/
def isExponentMark (c : Char) : Bool :=
  c = 'e' || c = 'E'

/-- Whether a float without a sign overflows.  It has a fraction, an exponent or both. -/
def unsigned? (run : List Char) : Option Bool := do
  let (whole, rest) := run.span fun c => c ≠ '.' && !isExponentMark c
  let n ← decimal? whole
  match rest with
  | [] => none
  | '.' :: rest =>
    let (fraction, rest) := rest.span fun c => !isExponentMark c
    let places := (fraction.filter (· ≠ '_')).length
    let m ← digits? 10 fraction
    let e ← exponent? rest
    return overflows (n * Nat.pow 10 places + m) (whole.length + places) (e - places)
  | rest => return overflows n whole.length (← exponent? rest)

end FloatText

/-- Whether a float overflows. -/
def float? (run : List Char) : Option Bool :=
  let run := match run with
    | '-' :: run => run
    | '+' :: run => run
    | run => run
  if run = ['i', 'n', 'f'] ∨ run = ['n', 'a', 'n'] then some false else FloatText.unsigned? run

namespace DateTime

/-- A number of two digits that is at most `most`. -/
def pair? (most : Nat) (a b : Char) : Option Nat := do
  let n := 10 * (← digitValue? 10 a) + (← digitValue? 10 b)
  if n ≤ most then some n else none

/-- The days of a month. -/
def daysIn (year month : Nat) : Nat :=
  if month = 2 then
    if year % 4 = 0 ∧ (year % 100 ≠ 0 ∨ year % 400 = 0) then 29 else 28
  else if month = 4 ∨ month = 6 ∨ month = 9 ∨ month = 11 then 30
  else 31

/-- What follows the date at the beginning of a run. -/
def afterDate? : List Char → Option (List Char)
  | y1 :: y2 :: y3 :: y4 :: '-' :: m1 :: m2 :: '-' :: d1 :: d2 :: rest => do
    let year := 100 * (← pair? 99 y1 y2) + (← pair? 99 y3 y4)
    let month ← pair? 12 m1 m2
    let day ← pair? (daysIn year month) d1 d2
    if month = 0 ∨ day = 0 then none else some rest
  | _ => none

/-- What follows the fraction of a second at the beginning of a run, if there is one. -/
def afterFraction? : List Char → Option (List Char)
  | '.' :: c :: rest => if c.isDigit then some (rest.dropWhile Char.isDigit) else none
  | '.' :: _ => none
  | run => some run

/-- What follows the time at the beginning of a run.  Seconds may be left out. -/
def afterTime? : List Char → Option (List Char)
  | h1 :: h2 :: ':' :: m1 :: m2 :: rest => do
    let _ ← pair? 23 h1 h2
    let _ ← pair? 59 m1 m2
    match rest with
    | ':' :: s1 :: s2 :: rest =>
      let _ ← pair? 60 s1 s2
      afterFraction? rest
    | ':' :: _ => none
    | rest => some rest
  | _ => none

/-- The run is an offset from universal time, or empty. -/
def isOffset : List Char → Bool
  | [] => true
  | ['Z'] => true
  | ['z'] => true
  | [sign, h1, h2, ':', m1, m2] =>
    (sign = '+' || sign = '-') && (pair? 23 h1 h2).isSome && (pair? 59 m1 m2).isSome
  | _ => false

end DateTime

open DateTime in
/-- The run is a date, a time, or a date with a time and perhaps an offset. -/
def isDateTime (run : List Char) : Bool :=
  match afterDate? run with
  | some [] => true
  | some (c :: rest) => (c = 'T' || c = 't' || c = ' ') && (afterTime? rest).any isOffset
  | none => (afterTime? run).any List.isEmpty

end BidiViewport.Toml
