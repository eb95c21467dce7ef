/-! Texts as lists of characters: blanks, which are the characters with the Unicode property
White_Space, and the cuts made at them; names and endings compared whatever their case; whole
numbers in ASCII digits, with a sign in front where one is allowed. -/
namespace ChordChart.Text

def blankRanges : List (Nat × Nat) :=
  [(0x09, 0x0D), (0x20, 0x20), (0x85, 0x85), (0xA0, 0xA0), (0x1680, 0x1680), (0x2000, 0x200A),
   (0x2028, 0x2029), (0x202F, 0x202F), (0x205F, 0x205F), (0x3000, 0x3000)]

def inRanges (ranges : List (Nat × Nat)) (c : Char) : Bool :=
  ranges.any fun range => range.1 ≤ c.toNat && c.toNat ≤ range.2

def isBlank (c : Char) : Bool := inRanges blankRanges c

def trimStart (cs : List Char) : List Char := cs.dropWhile isBlank

def trimEnd (cs : List Char) : List Char := (cs.reverse.dropWhile isBlank).reverse

def trim (cs : List Char) : List Char := trimEnd (trimStart cs)

def trimmed (text : String) : String := String.ofList (trim text.toList)

def words (cs : List Char) : List (List Char) :=
  (cs.splitOnP isBlank).filter fun piece => !piece.isEmpty

def dropReturn (line : List Char) : List Char :=
  if line.getLast? = some '\r' then line.dropLast else line

/-- The lines of a text. A line feed ends a line, and a carriage return before it belongs to the
ending; what follows the last line feed is a line unless it is empty. -/
def lines (cs : List Char) : List (List Char) :=
  let pieces := cs.splitOnP (· == '\n')
  pieces.dropLast.map dropReturn ++ pieces.getLast?.toList.filter fun piece => !piece.isEmpty

def splitOnce (mark : Char) : List Char → Option (List Char × List Char)
  | [] => none
  | c :: cs =>
    if c = mark then some ([], cs)
    else (splitOnce mark cs).map fun halves => (c :: halves.1, halves.2)

def joinWords (pieces : List (List Char)) : List Char := [' '].intercalate pieces

/-- The lower-case form of a character where that form is an ASCII letter, and the character itself
otherwise. Beside the capitals A to Z only the kelvin sign has such a form. -/
def lowerChar (c : Char) : Char := if c = '\u212a' then 'k' else c.toLower

def lower (cs : List Char) : List Char := cs.map lowerChar

def isNamed (text name : String) : Bool := lower text.toList == name.toList

def endsNamed (text ending : String) : Bool := ending.toList.isSuffixOf (lower text.toList)

def isNumeral (cs : List Char) : Bool := !cs.isEmpty && cs.all Char.isDigit

def numeralValue (cs : List Char) : Nat :=
  cs.foldl (fun value digit => 10 * value + (digit.toNat - '0'.toNat)) 0

def natural? (most : Nat) (cs : List Char) : Option Nat :=
  let digits := if cs.head? = some '+' then cs.tail else cs
  if isNumeral digits && numeralValue digits ≤ most then some (numeralValue digits) else none

def integer? (least most : Int) (cs : List Char) : Option Int :=
  let digits := if cs.head? = some '+' || cs.head? = some '-' then cs.tail else cs
  let value : Int := numeralValue digits
  let signed := if cs.head? = some '-' then -value else value
  if isNumeral digits && least ≤ signed && signed ≤ most then some signed else none

def signed (n : Int) : String := if n < 0 then toString n else "+" ++ toString n

end ChordChart.Text
