/-!
The grammar of JSON, without regard to how it is read. A form says which values a text may start
with, and which rest each of them leaves; forms of lists and objects are made from the forms of what
they hold.
-/
namespace FrameCycle.Json

/-- Relates a text to a value that it starts with, and to the rest behind that value. -/
abbrev Form (α : Type) := List Char → α → List Char → Prop

namespace Grammar

variable {α β : Type}

def blanks : List Char := [' ', '\t', '\n', '\r']

/-- Any number of blanks. -/
inductive Blank : List Char → List Char → Prop where
  | none {text : List Char} : Blank text text
  | more {c : Char} {text rest : List Char} :
      c ∈ blanks → Blank text rest → Blank (c :: text) rest

/-- A value behind blanks. -/
inductive Spaced (form : Form α) : Form α where
  | intro {text behind rest : List Char} {value : α} :
      Blank text behind → form behind value rest → Spaced form text value rest

/-- What follows an element: others behind commas, then the closing bracket. -/
inductive Further (closing : Char) (item : Form α) : Form (List α) where
  | closed {text rest : List Char} :
      Blank text (closing :: rest) → Further closing item text [] rest
  | more {text next behind rest : List Char} {value : α} {values : List α} :
      Blank text (',' :: next) → Spaced item next value behind →
      Further closing item behind values rest → Further closing item text (value :: values) rest

/-- Elements between brackets, parted by commas. -/
inductive Enclosed (opening closing : Char) (item : Form α) : Form (List α) where
  | empty {text rest : List Char} :
      Blank text (closing :: rest) → Enclosed opening closing item (opening :: text) [] rest
  | filled {text behind rest : List Char} {value : α} {values : List α} :
      Spaced item text value behind → Further closing item behind values rest →
      Enclosed opening closing item (opening :: text) (value :: values) rest

abbrev Listed (item : Form α) : Form (List α) := Enclosed '[' ']' item

/-- A name and the value it stands for, parted by a colon. -/
inductive Member (name : Form α) (content : Form β) : Form (α × β) where
  | intro {text behind next rest : List Char} {key : α} {value : β} :
      name text key behind → Blank behind (':' :: next) → Spaced content next value rest →
      Member name content text (key, value) rest

abbrev Fields (name : Form α) (content : Form β) : Form (List (α × β)) :=
  Enclosed '\x7b' '\x7d' (Member name content)

inductive Null : Form Unit where
  | intro {rest : List Char} : Null ('n' :: 'u' :: 'l' :: 'l' :: rest) () rest

/-- A value, or null for none. -/
inductive Nullable (form : Form α) : Form (Option α) where
  | none {text rest : List Char} : Null text () rest → Nullable form text none rest
  | some {text rest : List Char} {value : α} :
      form text value rest → Nullable form text (some value) rest

/-- The letters that may follow a backslash, and the characters they stand for. -/
def shortEscapes : List (Char × Char) :=
  [('"', '"'), ('\\', '\\'), ('/', '/'), ('b', '\x08'), ('f', '\x0C'), ('n', '\n'), ('r', '\r'),
    ('t', '\t')]

/-- One hexadecimal digit, in either case. -/
inductive HexDigit : Form Nat where
  | intro {c : Char} {value : Nat} {rest : List Char} :
      value < 16 → c = Nat.digitChar value ∨ c = (Nat.digitChar value).toUpper →
      HexDigit (c :: rest) value rest

/-- Four hexadecimal digits. -/
inductive CodeUnit : Form Nat where
  | intro {text second third fourth rest : List Char} {a b c d : Nat} :
      HexDigit text a second → HexDigit second b third → HexDigit third c fourth →
      HexDigit fourth d rest → CodeUnit text (((a * 16 + b) * 16 + c) * 16 + d) rest

/-- A character of a string that is decoded. -/
inductive Spelt : Form Char where
  | plain {c : Char} {rest : List Char} :
      c ≠ '"' → c ≠ '\\' → ' ' ≤ c → Spelt (c :: rest) c rest
  | short {letter c : Char} {rest : List Char} :
      (letter, c) ∈ shortEscapes → Spelt ('\\' :: letter :: rest) c rest
  | unit {text rest : List Char} {unit : Nat} :
      CodeUnit text unit rest → ¬ (0xD800 ≤ unit ∧ unit ≤ 0xDFFF) →
      Spelt ('\\' :: 'u' :: text) (Char.ofNat unit) rest
  | pair {text next rest : List Char} {leading trailing : Nat} :
      CodeUnit text leading ('\\' :: 'u' :: next) → CodeUnit next trailing rest →
      0xD800 ≤ leading → leading ≤ 0xDBFF → 0xDC00 ≤ trailing → trailing ≤ 0xDFFF →
      Spelt ('\\' :: 'u' :: text)
        (Char.ofNat (0x10000 + (leading - 0xD800) * 0x400 + (trailing - 0xDC00))) rest

/-- A piece of a string that is not decoded; here a code unit need not be a character. -/
inductive Rough : Form Unit where
  | plain {c : Char} {rest : List Char} :
      c ≠ '"' → c ≠ '\\' → ' ' ≤ c → Rough (c :: rest) () rest
  | short {letter c : Char} {rest : List Char} :
      (letter, c) ∈ shortEscapes → Rough ('\\' :: letter :: rest) () rest
  | unit {text rest : List Char} {unit : Nat} :
      CodeUnit text unit rest → Rough ('\\' :: 'u' :: text) () rest

/-- Pieces of a string up to the closing quote. -/
inductive Pieces (piece : Form α) : Form (List α) where
  | closed {rest : List Char} : Pieces piece ('"' :: rest) [] rest
  | more {text behind rest : List Char} {value : α} {values : List α} :
      piece text value behind → Pieces piece behind values rest →
      Pieces piece text (value :: values) rest

inductive Quoted (piece : Form α) : Form (List α) where
  | intro {text rest : List Char} {values : List α} :
      Pieces piece text values rest → Quoted piece ('"' :: text) values rest

/-- At least one decimal digit. -/
inductive Digits : List Char → List Char → Prop where
  | last {c : Char} {rest : List Char} : c.isDigit = true → Digits (c :: rest) rest
  | more {c : Char} {text rest : List Char} :
      c.isDigit = true → Digits text rest → Digits (c :: text) rest

/-- The sign of an exponent, if there is one. -/
inductive Sign : List Char → List Char → Prop where
  | none {text : List Char} : Sign text text
  | some {c : Char} {rest : List Char} : c ∈ ['+', '-'] → Sign (c :: rest) rest

/-- A whole number without needless zeros. -/
inductive Natural : Form Nat where
  | intro {value : Nat} {rest : List Char} : Natural (Nat.toDigits 10 value ++ rest) value rest

/-- A whole number that fits a word of 32 bits. -/
inductive Word32 : Form UInt32 where
  | intro {text rest : List Char} {word : UInt32} :
      Natural text word.toNat rest → Word32 text word rest

inductive Fraction : List Char → List Char → Prop where
  | none {text : List Char} : Fraction text text
  | some {text rest : List Char} : Digits text rest → Fraction ('.' :: text) rest

inductive Exponent : List Char → List Char → Prop where
  | none {text : List Char} : Exponent text text
  | some {letter : Char} {text digits rest : List Char} :
      letter ∈ ['e', 'E'] → Sign text digits → Digits digits rest →
      Exponent (letter :: text) rest

inductive Unsigned : List Char → List Char → Prop where
  | intro {text fraction exponent rest : List Char} {value : Nat} :
      Natural text value fraction → Fraction fraction exponent → Exponent exponent rest →
      Unsigned text rest

inductive Numeral : List Char → List Char → Prop where
  | plain {text rest : List Char} : Unsigned text rest → Numeral text rest
  | negative {text rest : List Char} : Unsigned text rest → Numeral ('-' :: text) rest

def words : List (List Char) :=
  [['n', 'u', 'l', 'l'], ['t', 'r', 'u', 'e'], ['f', 'a', 'l', 's', 'e']]

/-- Any value at all, nested to any depth. -/
inductive Value : Form Unit where
  | word {word rest : List Char} : word ∈ words → Value (word ++ rest) () rest
  | number {text rest : List Char} : Numeral text rest → Value text () rest
  | string {text rest : List Char} {units : List Unit} :
      Quoted Rough text units rest → Value text () rest
  | list {text rest : List Char} {values : List Unit} :
      Enclosed '[' ']' Value text values rest → Value text () rest
  | object {text rest : List Char} {members : List (List Unit × Unit)} :
      Enclosed '\x7b' '\x7d' (Member (Quoted Rough) Value) text members rest → Value text () rest

/-- Induction on a value: what lists and objects hold has the property already. -/
theorem Value.induct {property : List Char → List Char → Prop}
    (word : ∀ {word rest : List Char}, word ∈ words → property (word ++ rest) rest)
    (number : ∀ {text rest : List Char}, Numeral text rest → property text rest)
    (string : ∀ {text rest : List Char} {units : List Unit},
      Quoted Rough text units rest → property text rest)
    (list : ∀ {text rest : List Char} {values : List Unit},
      Listed (fun text value rest => Value text value rest ∧ property text rest) text values rest →
      property text rest)
    (object : ∀ {text rest : List Char} {members : List (List Unit × Unit)},
      Fields (Quoted Rough) (fun text value rest => Value text value rest ∧ property text rest)
        text members rest →
      property text rest)
    {text rest : List Char} (value : Value text () rest) : property text rest := by
  -- every form that holds values holds values with the property
  let held : Form Unit := fun text value rest => Value text value rest ∧ property text rest
  refine @Value.rec (fun text _ rest _ => property text rest)
    (fun text values rest _ => Listed held text values rest)
    (fun text members rest _ => Fields (Quoted Rough) held text members rest)
    (fun text value rest _ => Spaced held text value rest)
    (fun text values rest _ => Further ']' held text values rest)
    (fun text member rest _ => Spaced (Member (Quoted Rough) held) text member rest)
    (fun text members rest _ => Further '\x7d' (Member (Quoted Rough) held) text members rest)
    (fun text member rest _ => Member (Quoted Rough) held text member rest)
    ?_ ?_ ?_ ?_ ?_ ?_ ?_ ?_ ?_ ?_ ?_ ?_ ?_ ?_ ?_ ?_ text () rest value
  · exact word
  · exact number
  · exact string
  · exact fun _ listed => list listed
  · exact fun _ fields => object fields
  · exact .empty
  · exact fun _ _ spaced further => .filled spaced further
  · exact .empty
  · exact fun _ _ spaced further => .filled spaced further
  · exact fun blank value found => .intro blank ⟨value, found⟩
  · exact .closed
  · exact fun blank _ _ spaced further => .more blank spaced further
  · exact fun blank _ found => .intro blank found
  · exact .closed
  · exact fun blank _ _ spaced further => .more blank spaced further
  · exact fun name blank _ spaced => .intro name blank spaced

end Grammar

end FrameCycle.Json
