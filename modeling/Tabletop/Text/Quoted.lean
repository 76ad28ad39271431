import Tabletop.Text.Combining
import Tabletop.Text.Printable

/-!
# Quoted text

The form in which text values and consumed input are shown: in double quotes,
with backslash escapes for what cannot be shown plainly. Six characters have
short escapes; any other character that is not printable, or that would attach
itself to the one before it, is written as its hexadecimal code in braces.
Everything else stands for itself.
-/

namespace Tabletop.Text.Quoted

/-- A character inside the quotes. -/
def escape (c : Char) : List Char :=
  match c with
  | '\x00' => ['\\', '0']
  | '\t' => ['\\', 't']
  | '\n' => ['\\', 'n']
  | '\r' => ['\\', 'r']
  | '"' => ['\\', '"']
  | '\\' => ['\\', '\\']
  | c =>
    if isPrintable c && !isCombining c then [c]
    else '\\' :: 'u' :: '\x7b' :: (Nat.toDigits 16 c.toNat ++ ['\x7d'])

/-- The text between double quotes. -/
def quote (text : List Char) : List Char :=
  '"' :: (text.flatMap escape ++ ['"'])

end Tabletop.Text.Quoted
