/-! Values as text: quotients with two decimals, JSON over several lines, and columns and colours
for a terminal. A quotient is first taken to 53 binary digits and that number is shown; both steps
round to the nearest, and a half goes to the even neighbour. With colour switched off a painted text
is the text itself. -/
namespace ChordChart

namespace Text

def roundHalfEven (num den : Nat) : Nat :=
  let whole := num / den
  let rest := num % den
  if 2 * rest < den then whole else if den < 2 * rest then whole + 1 else whole + whole % 2

/-- The number of places by which `num / den`, neither of them 0, is shifted to have 53 binary
digits before the point. It is enough for `num` below 2^52. -/
def binaryPlaces (num den : Nat) : Nat :=
  let places := 52 + den.log2 - num.log2
  if num * Nat.pow 2 places < 0x10000000000000 * den then places + 1 else places

def hundredths (num den : Nat) : Nat :=
  let unit := Nat.pow 2 (binaryPlaces num den)
  roundHalfEven (100 * roundHalfEven (num * unit) den) unit

def twoDigits (n : Nat) : String := if n < 10 then "0" ++ toString n else toString n

def quotient (num den : Nat) : String :=
  if den = 0 then if num = 0 then "NaN" else "inf"
  else
    let shown := if num = 0 then 0 else hundredths num den
    toString (shown / 100) ++ "." ++ twoDigits (shown % 100)

end Text

inductive Json where
  | null
  | bool (value : Bool)
  | number (value : Nat)
  | text (value : String)
  | array (items : List Json)
  | object (fields : List (String × Json))

namespace Json

def hexDigit (n : Nat) : Char := if n < 10 then Char.ofNat (48 + n) else Char.ofNat (87 + n)

def escapeChar (c : Char) : List Char :=
  if c = '"' then ['\\', '"']
  else if c = '\\' then ['\\', '\\']
  else if c = '\n' then ['\\', 'n']
  else if c = '\r' then ['\\', 'r']
  else if c = '\t' then ['\\', 't']
  else if c = '\x08' then ['\\', 'b']
  else if c = '\x0c' then ['\\', 'f']
  else if c.toNat < 0x20 then ['\\', 'u', '0', '0', hexDigit (c.toNat / 16), hexDigit (c.toNat % 16)]
  else [c]

def quote (value : String) : String :=
  "\"" ++ String.ofList (value.toList.flatMap escapeChar) ++ "\""

def newLine (depth : Nat) : String := "\n" ++ "".pushn ' ' (2 * depth)

mutual

def renderAt (depth : Nat) : Json → String
  | null => "null"
  | bool value => if value then "true" else "false"
  | number value => toString value
  | text value => quote value
  | array [] => "[]"
  | array (item :: items) =>
    "[" ++ newLine (depth + 1) ++ renderAt (depth + 1) item ++ renderItems (depth + 1) items ++
      newLine depth ++ "]"
  | object [] => "\x7b\x7d"
  | object (entry :: entries) =>
    "\x7b" ++ newLine (depth + 1) ++ renderEntry (depth + 1) entry ++
      renderEntries (depth + 1) entries ++ newLine depth ++ "\x7d"

def renderItems (depth : Nat) : List Json → String
  | [] => ""
  | item :: items => "," ++ newLine depth ++ renderAt depth item ++ renderItems depth items

def renderEntry (depth : Nat) : String × Json → String
  | (key, value) => quote key ++ ": " ++ renderAt depth value

def renderEntries (depth : Nat) : List (String × Json) → String
  | [] => ""
  | entry :: entries =>
    "," ++ newLine depth ++ renderEntry depth entry ++ renderEntries depth entries

end

def render (value : Json) : String := renderAt 0 value

end Json

namespace Text

inductive Ink where
  | bold | dimmed | red | green | yellow | cyan
  | brightRed | brightGreen | brightYellow | brightMagenta | brightCyan
  deriving DecidableEq, Repr

def Ink.code : Ink → String
  | bold => "1" | dimmed => "2"
  | red => "31" | green => "32" | yellow => "33" | cyan => "36"
  | brightRed => "91" | brightGreen => "92" | brightYellow => "93"
  | brightMagenta => "95" | brightCyan => "96"

def plainInk : String := "\x1b[0m"

def startInk (inks : List Ink) : String :=
  "\x1b[" ++ ";".intercalate (inks.map Ink.code) ++ "m"

def resumeInk (start : List Char) : List Char → List Char
  | '\x1b' :: '[' :: '0' :: 'm' :: cs => plainInk.toList ++ start ++ resumeInk start cs
  | c :: cs => c :: resumeInk start cs
  | [] => []

def padRight (width : Nat) (text : String) : String := text ++ "".pushn ' ' (width - text.length)

def padLeft (width : Nat) (text : String) : String := "".pushn ' ' (width - text.length) ++ text

def paintColumn (color : Bool) (inks : List Ink) (width : Nat) (text : String) : String :=
  if color then
    let start := startInk inks
    start ++ padRight width (String.ofList (resumeInk start.toList text.toList)) ++ plainInk
  else padRight width text

def paint (color : Bool) (inks : List Ink) (text : String) : String :=
  paintColumn color inks 0 text

end Text

end ChordChart
