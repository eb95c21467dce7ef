import ChordChart.Midi.File
import ChordChart.Text.Unseen
/-! What the program asks of a disk, the texts of paths, and why a file cannot be used or watched.
Paths are read from the working directory unless they start at the root. -/
namespace ChordChart

namespace Path

def dropTrailing : List Char → List Char
  | '/' :: rest => dropTrailing rest
  | '.' :: '/' :: rest => dropTrailing rest
  | rest => rest

/-- The name at the end of a path, and what stands before it. There is none where the path ends in
dots or has no name at all. -/
def lastName? (path : List Char) : Option (List Char × List Char) :=
  let kept := dropTrailing path.reverse
  let name := (kept.takeWhile (· ≠ '/')).reverse
  if name = [] ∨ name = ['.'] ∨ name = ['.', '.'] then none
  else some ((kept.dropWhile (· ≠ '/')).reverse, name)

def stem (name : List Char) : List Char :=
  let before := ((name.reverse.dropWhile (· ≠ '.')).drop 1).reverse
  if before = [] then name else before

def withEnding (path ending : String) : String :=
  match lastName? path.toList with
  | none => path
  | some (before, name) =>
    if stem name = ['.'] ∧ before ++ name = path.toList then String.ofList (before ++ ['.', '.'])
    else String.ofList (before ++ stem name) ++ "." ++ ending

def steps (path : List Char) : List (List Char) :=
  let pieces := path.splitOnP (· == '/')
  let first := if path.head? = some '/' then [['/']] else (pieces.take 1).filter (· = ['.'])
  first ++ pieces.filter fun piece => piece ≠ [] ∧ piece ≠ ['.']

def same (first second : String) : Bool := steps first.toList == steps second.toList

def join (directory path : String) : String :=
  if path.toList.head? = some '/' then path
  else if directory = "" ∨ directory.toList.getLast? = some '/' then directory ++ path
  else directory ++ "/" ++ path

end Path

inductive FileError where
  | notFound
  | permissionDenied
  | notADirectory
  | isADirectory
  | nameTooLong
  | nulInName
  | notText
  | other (text : String)
  deriving DecidableEq, Repr

def FileError.message : FileError → String
  | notFound => "No such file or directory (os error 2)"
  | permissionDenied => "Permission denied (os error 13)"
  | notADirectory => "Not a directory (os error 20)"
  | isADirectory => "Is a directory (os error 21)"
  | nameTooLong => "File name too long (os error 36)"
  | nulInName => "file name contained an unexpected NUL byte"
  | notText => "stream did not contain valid UTF-8"
  | other text => text

def maxPath : Nat := 4095

def FileError.ofPath? (path : String) : Option FileError :=
  if path.toList.contains '\x00' then some .nulInName
  else if path = "" then some .notFound
  else if maxPath < path.utf8ByteSize then some .nameTooLong
  else none

structure WatchError where
  cause : FileError
  path : String
  deriving DecidableEq, Repr

namespace WatchError

def reason : FileError → String
  | .notFound => "No path was found."
  | .nulInName => "data provided contains a nul byte"
  | cause => cause.message

def hexDigits (n : Nat) : List Char := Nat.toDigits 16 n

def quoteChar (c : Char) : List Char :=
  if c = '\x00' then ['\\', '0']
  else if c = '\t' then ['\\', 't']
  else if c = '\r' then ['\\', 'r']
  else if c = '\n' then ['\\', 'n']
  else if c = '\\' ∨ c = '"' then ['\\', c]
  else if Text.isUnseen c then
    ['\\', 'u', '\x7b'] ++ hexDigits c.toNat ++ ['\x7d']
  else [c]

def quote (path : String) : String :=
  "\"" ++ String.ofList (path.toList.flatMap quoteChar) ++ "\""

def message (error : WatchError) : String :=
  reason error.cause ++ " about [" ++ quote error.path ++ "]"

end WatchError

class Disk (m : Type → Type) where
  readText : String → m (Except FileError String)
  write : String → Midi.Bytes → m (Except FileError Unit)
  isDirectory : String → m Bool
  canonical? : String → m (Option String)
  observe : String → m (Except WatchError Unit)

end ChordChart
