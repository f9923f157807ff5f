import Reflash.Text.Hex
import Reflash.Text.Shapeless

/-!
# Quoted text and descriptions

Description texts show the inside of a value on one line. Texts inside them are quoted: a few
characters have a letter of their own behind a backslash, other characters without a shape are
written as `\u` and their number in braces, and all else stands for itself.
-/

namespace Reflash.Text

namespace Quoted

/-- The letter behind the backslash, for the characters that have one. -/
def letter? : Char → Option Char
  | '\x00' => some '0'
  | '\t' => some 't'
  | '\n' => some 'n'
  | '\r' => some 'r'
  | '"' => some '"'
  | '\\' => some '\\'
  | _ => none

/-- How one character is written between quotes. -/
def escape (c : Char) : List Char :=
  match letter? c with
  | some letter => ['\\', letter]
  | none =>
    if isShapeless c then ['\\', 'u', '\x7b'] ++ Nat.toDigits 16 c.toNat ++ ['\x7d'] else [c]

/-- The characters of a text as they are written between quotes. -/
def encode : List Char → List Char
  | [] => []
  | c :: rest => escape c ++ encode rest

end Quoted

/-- A text between quotes. -/
def quoted (text : String) : String :=
  "\"" ++ String.ofList (Quoted.encode text.toList) ++ "\""

/-- The description of an optional value. -/
def describeOption {α : Type} (describe : α → String) : Option α → String
  | none => "None"
  | some a => "Some(" ++ describe a ++ ")"

/-- The description of a truth value. -/
def describeBool (b : Bool) : String :=
  if b then "true" else "false"

/-- The description of a value with named fields, in order. If there is `more` than these fields,
two dots stand for the rest. -/
def describeFields (name : String) (fields : List (String × String)) (more : Bool) :
    String :=
  let shown := fields.map fun field => field.1 ++ ": " ++ field.2
  let shown := if more then shown ++ [".."] else shown
  name ++ " \x7b " ++ ", ".intercalate shown ++ " \x7d"

end Reflash.Text
