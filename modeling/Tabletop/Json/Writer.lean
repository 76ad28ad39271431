import Tabletop.Json.Basic
import Tabletop.Text.Decimal

/-!
# Writing JSON

The compact form has no white space. The pretty form puts every item and member on
a line of its own, indented by two blanks for each level, and keeps empty arrays and
objects closed. Strings escape the quote, the backslash and the controls below the
blank, and nothing else.
-/

namespace Tabletop.Json

open Text

/-- A character inside a string. -/
def escape (c : Char) : List Char :=
  match c with
  | '"' => ['\\', '"']
  | '\\' => ['\\', '\\']
  | '\x08' => ['\\', 'b']
  | '\x0c' => ['\\', 'f']
  | '\n' => ['\\', 'n']
  | '\r' => ['\\', 'r']
  | '\t' => ['\\', 't']
  | c =>
    if c < ' ' then
      ['\\', 'u', '0', '0', Nat.digitChar (c.toNat / 16), Nat.digitChar (c.toNat % 16)]
    else [c]

/-- A string in quotes. One that is no text is written as an unpaired surrogate. -/
def quote : Option String → List Char
  | some content => '"' :: (content.toList.flatMap escape ++ ['"'])
  | none => ['"', '\\', 'u', 'd', '8', '0', '0', '"']

/-- What both forms write alike: scalars, and arrays and objects without contents. -/
def scalar : Json → List Char
  | .null => ['n', 'u', 'l', 'l']
  | .bool true => ['t', 'r', 'u', 'e']
  | .bool false => ['f', 'a', 'l', 's', 'e']
  | .int n => Decimal.ofInt n
  | .real negative magnitude =>
    (if negative then ['-'] else []) ++
      (Decimal.ofNat magnitude.digits ++ 'e' :: Decimal.ofInt magnitude.exponent)
  | .string content => quote content
  | .array _ => ['[', ']']
  | .object _ => ['\x7b', '\x7d']

mutual

/-- The compact form. -/
def write : Json → List Char
  | .array [] => scalar (.array [])
  | .array (item :: rest) => '[' :: (item.write ++ writeItems rest)
  | .object [] => scalar (.object [])
  | .object ((name, value) :: rest) =>
    '\x7b' :: (quote name ++ ':' :: (value.write ++ writeMembers rest))
  | .null => scalar .null
  | .bool b => scalar (.bool b)
  | .int n => scalar (.int n)
  | .real negative magnitude => scalar (.real negative magnitude)
  | .string content => scalar (.string content)

/-- The items after the first, and the closing bracket. -/
def writeItems : List Json → List Char
  | [] => [']']
  | item :: rest => ',' :: (item.write ++ writeItems rest)

/-- The members after the first, and the closing brace. -/
def writeMembers : List (Option String × Json) → List Char
  | [] => ['\x7d']
  | (name, value) :: rest => ',' :: (quote name ++ ':' :: (value.write ++ writeMembers rest))

end

/-- A new line, indented to a level. -/
def newline (level : Nat) : List Char :=
  '\n' :: List.replicate (2 * level) ' '

mutual

/-- The pretty form, inside `level` arrays and objects. -/
def layout (level : Nat) : Json → List Char
  | .array [] => scalar (.array [])
  | .array (item :: rest) =>
    '[' :: (newline (level + 1) ++ item.layout (level + 1) ++ layoutItems level rest)
  | .object [] => scalar (.object [])
  | .object ((name, value) :: rest) =>
    '\x7b' :: (newline (level + 1) ++ quote name ++ ':' :: ' ' ::
      (value.layout (level + 1) ++ layoutMembers level rest))
  | .null => scalar .null
  | .bool b => scalar (.bool b)
  | .int n => scalar (.int n)
  | .real negative magnitude => scalar (.real negative magnitude)
  | .string content => scalar (.string content)

def layoutItems (level : Nat) : List Json → List Char
  | [] => newline level ++ [']']
  | item :: rest =>
    ',' :: (newline (level + 1) ++ item.layout (level + 1) ++ layoutItems level rest)

def layoutMembers (level : Nat) : List (Option String × Json) → List Char
  | [] => newline level ++ ['\x7d']
  | (name, value) :: rest =>
    ',' :: (newline (level + 1) ++ quote name ++ ':' :: ' ' ::
      (value.layout (level + 1) ++ layoutMembers level rest))

end

/-- The compact text. -/
def compact (j : Json) : String :=
  .ofList j.write

/-- The pretty text. -/
def pretty (j : Json) : String :=
  .ofList (j.layout 0)

end Tabletop.Json
