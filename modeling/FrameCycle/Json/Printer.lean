/-!
Writing JSON without blanks. In a string only the quote, the backslash and controls are escaped.
-/
namespace FrameCycle.Json.Printer

def hexDigit (value : Nat) : Char :=
  if value < 10 then Char.ofNat ('0'.toNat + value) else Char.ofNat ('a'.toNat + value - 10)

def escaped (c : Char) : List Char :=
  if c = '"' then ['\\', '"']
  else if c = '\\' then ['\\', '\\']
  else if c = '\x08' then ['\\', 'b']
  else if c = '\t' then ['\\', 't']
  else if c = '\n' then ['\\', 'n']
  else if c = '\x0C' then ['\\', 'f']
  else if c = '\r' then ['\\', 'r']
  else if c < ' ' then
    ['\\', 'u', '0', '0', hexDigit (c.toNat / 16), hexDigit (c.toNat % 16)]
  else [c]

def string (text : List Char) : List Char :=
  '"' :: text.flatMap escaped ++ ['"']

def natural (value : Nat) : List Char :=
  Nat.toDigits 10 value

def null : List Char :=
  ['n', 'u', 'l', 'l']

def separated : List (List Char) → List Char
  | [] => []
  | [value] => value
  | value :: rest => value ++ ',' :: separated rest

def list (values : List (List Char)) : List Char :=
  '[' :: separated values ++ [']']

def field (name : String) (value : List Char) : List Char :=
  string name.toList ++ ':' :: value

def object (fields : List (List Char)) : List Char :=
  '\x7b' :: separated fields ++ ['\x7d']

end FrameCycle.Json.Printer
