import Tabletop.Json.Basic
import Tabletop.Text.Decimal

/-!
# Reading JSON

A strict reader: blanks, tabs and line ends between tokens, no leading zeros, no
trailing commas, no control characters in strings, and nothing after the value.
Strings are read in two steps, first into characters and escaped 16-bit units, then
into text by joining pairs of surrogates.

The reader recurses on a number that bounds its calls. Each level of nesting costs a
character and at most two calls, so twice the length of the text is enough.
-/

namespace Tabletop.Json

open Text

def isSpace (c : Char) : Bool :=
  c == ' ' || c == '\t' || c == '\n' || c == '\r'

def skip (text : List Char) : List Char :=
  text.dropWhile isSpace

/-- The value of a hexadecimal digit. -/
def hexDigit? (c : Char) : Option Nat :=
  if c.isDigit then some (c.toNat - 48)
  else if 'a' ≤ c && c ≤ 'f' then some (c.toNat - 87)
  else if 'A' ≤ c && c ≤ 'F' then some (c.toNat - 55)
  else none

/-- The 16-bit unit that four hexadecimal digits stand for. -/
def unit? (a b c d : Char) : Option Nat := do
  let a ← hexDigit? a
  let b ← hexDigit? b
  let c ← hexDigit? c
  let d ← hexDigit? d
  some (((a * 16 + b) * 16 + c) * 16 + d)

/-- A part of a string: a character, or an escaped 16-bit unit. -/
inductive Piece where
  | char (c : Char)
  | unit (n : Nat)

/-- The character that a short escape stands for. -/
def shortEscape? : Char → Option Char
  | '"' => some '"'
  | '\\' => some '\\'
  | '/' => some '/'
  | 'b' => some '\x08'
  | 'f' => some '\x0c'
  | 'n' => some '\n'
  | 'r' => some '\r'
  | 't' => some '\t'
  | _ => none

/-- The parts of a string up to its closing quote, and what follows it. -/
def pieces? : List Char → Option (List Piece × List Char)
  | [] => none
  | '"' :: rest => some ([], rest)
  | '\\' :: 'u' :: a :: b :: c :: d :: rest => do
    let n ← unit? a b c d
    let (parts, after) ← pieces? rest
    some (.unit n :: parts, after)
  | '\\' :: e :: rest => do
    let c ← shortEscape? e
    let (parts, after) ← pieces? rest
    some (.char c :: parts, after)
  | c :: rest =>
    if c < ' ' || c = '\\' then none
    else do
      let (parts, after) ← pieces? rest
      some (.char c :: parts, after)

def isHigh (n : Nat) : Bool :=
  0xD800 ≤ n && n ≤ 0xDBFF

def isLow (n : Nat) : Bool :=
  0xDC00 ≤ n && n ≤ 0xDFFF

/-- The text of some parts, unless a surrogate is unpaired. -/
def assemble? : List Piece → Option (List Char)
  | [] => some []
  | .char c :: rest => (assemble? rest).map (c :: ·)
  | .unit high :: .unit low :: rest =>
    if isHigh high && isLow low then
      (assemble? rest).map (Char.ofNat (0x10000 + (high - 0xD800) * 0x400 + (low - 0xDC00)) :: ·)
    else if isHigh high || isLow high then none
    else (assemble? (.unit low :: rest)).map (Char.ofNat high :: ·)
  | .unit n :: rest =>
    if isHigh n || isLow n then none
    else (assemble? rest).map (Char.ofNat n :: ·)

/-- A string after its opening quote, and what follows it. -/
def string? (text : List Char) : Option (Option String × List Char) :=
  (pieces? text).map fun (parts, after) => ((assemble? parts).map String.ofList, after)

/-- The digits of an integer part, without leading zeros. -/
def whole? : List Char → Option (List Char × List Char)
  | '0' :: rest => some (['0'], rest)
  | text => Decimal.digits? text

/-- The digits of a fraction, if there is one. -/
def fraction? : List Char → Option (Option (List Char) × List Char)
  | '.' :: rest => (Decimal.digits? rest).map fun (digits, after) => (some digits, after)
  | text => some (none, text)

/-- The exponent after its letter. -/
def power? : List Char → Option (Int × List Char)
  | '+' :: rest => (Decimal.digits? rest).map fun (digits, after) => (Decimal.toNat digits, after)
  | '-' :: rest => (Decimal.digits? rest).map fun (digits, after) => (-Decimal.toNat digits, after)
  | text => (Decimal.digits? text).map fun (digits, after) => (Decimal.toNat digits, after)

/-- The exponent, if there is one. -/
def exponent? : List Char → Option (Option Int × List Char)
  | 'e' :: rest => (power? rest).map fun (n, after) => (some n, after)
  | 'E' :: rest => (power? rest).map fun (n, after) => (some n, after)
  | text => some (none, text)

/-- The number with given parts. Only a number without fraction and exponent is an integer, and
minus zero is none. -/
def ofParts (negative : Bool) (whole : List Char) (fraction : Option (List Char))
    (exponent : Option Int) : Json :=
  let n : Int := Decimal.toNat whole
  if fraction.isNone && exponent.isNone && !(negative && n == 0) then
    .int (if negative then -n else n)
  else .real negative (.ofParts whole (fraction.getD []) (exponent.getD 0))

/-- A number after its sign. -/
def unsigned? (negative : Bool) (text : List Char) : Option (Json × List Char) := do
  let (whole, rest) ← whole? text
  let (fraction, rest) ← fraction? rest
  let (exponent, rest) ← exponent? rest
  some (ofParts negative whole fraction exponent, rest)

def number? : List Char → Option (Json × List Char)
  | '-' :: rest => unsigned? true rest
  | text => unsigned? false text

mutual

/-- A value, and what follows it. -/
def value? : Nat → List Char → Option (Json × List Char)
  | 0, _ => none
  | calls + 1, text =>
    match skip text with
    | 'n' :: 'u' :: 'l' :: 'l' :: rest => some (.null, rest)
    | 't' :: 'r' :: 'u' :: 'e' :: rest => some (.bool true, rest)
    | 'f' :: 'a' :: 'l' :: 's' :: 'e' :: rest => some (.bool false, rest)
    | '"' :: rest => (string? rest).map fun (content, after) => (.string content, after)
    | '[' :: rest =>
      match skip rest with
      | ']' :: after => some (.array [], after)
      | first => (items? calls first).map fun (items, after) => (.array items, after)
    | '\x7b' :: rest =>
      match skip rest with
      | '\x7d' :: after => some (.object [], after)
      | first => (members? calls first).map fun (members, after) => (.object members, after)
    | other => number? other

/-- The items of an array up to its closing bracket, of which there is at least one. -/
def items? : Nat → List Char → Option (List Json × List Char)
  | 0, _ => none
  | calls + 1, text =>
    match value? calls text with
    | none => none
    | some (item, rest) =>
      match skip rest with
      | ']' :: after => some ([item], after)
      | ',' :: rest => (items? calls rest).map fun (items, after) => (item :: items, after)
      | _ => none

/-- The members of an object up to its closing brace, of which there is at least one. -/
def members? : Nat → List Char → Option (List (Option String × Json) × List Char)
  | 0, _ => none
  | calls + 1, text =>
    match skip text with
    | '"' :: rest =>
      match string? rest with
      | none => none
      | some (name, rest) =>
        match skip rest with
        | ':' :: rest =>
          match value? calls rest with
          | none => none
          | some (value, rest) =>
            match skip rest with
            | '\x7d' :: after => some ([(name, value)], after)
            | ',' :: rest =>
              (members? calls rest).map fun (members, after) => ((name, value) :: members, after)
            | _ => none
        | _ => none
    | _ => none

end

/-- The value that a text holds. -/
def parse? (text : String) : Option Json :=
  match value? (2 * text.toList.length + 2) text.toList with
  | some (j, rest) => if (skip rest).isEmpty then some j else none
  | none => none

end Tabletop.Json
