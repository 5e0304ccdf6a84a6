import FormIntake.Value.Basic
import FormIntake.Number.Shortest

/-! # Writing JSON

Texts stand between double quotes; the double quote, the backslash and the control characters below
the space are escaped and every other character is written as it is.  A comma and a colon are
followed by one space.
-/

namespace FormIntake.Json

open Number

/-- One character inside a JSON text. -/
def escapeChar (c : Char) : List Char :=
  if c = '"' then ['\\', '"']
  else if c = '\\' then ['\\', '\\']
  else if c = '\n' then ['\\', 'n']
  else if c = '\r' then ['\\', 'r']
  else if c = '\t' then ['\\', 't']
  else if c = '\x0c' then ['\\', 'f']
  else if c = '\x08' then ['\\', 'b']
  else if c.toNat < 0x20 then '\\' :: 'u' :: paddedHex 4 c.toNat
  else [c]

/-- The characters of a text with escapes. -/
def escape (text : List Char) : List Char := text.flatMap escapeChar

/-- A text between double quotes. -/
def writeText (text : String) : List Char := '"' :: escape text.toList ++ ['"']

/-- A floating-point number; the infinite and undefined ones by their names. -/
def writeFloat : Binary64 → List Char
  | .nan => "NaN".toList
  | .infinite false => "Infinity".toList
  | .infinite true => "-Infinity".toList
  | x => x.text

def writeScalar : Scalar → List Char
  | .null => "null".toList
  | .bool true => "true".toList
  | .bool false => "false".toList
  | .int n => wholeText n
  | .float x => writeFloat x
  | .text s => writeText s
  | .date iso => writeText iso

/-- A key of an object: texts as they are, other scalars as texts. -/
def writeKey : Scalar → List Char
  | .text s => writeText s
  | .date iso => writeText iso
  | s => '"' :: writeScalar s ++ ['"']

mutual

def write : Value → List Char
  | .scalar s => writeScalar s
  | .list items => '[' :: writeItems items ++ [']']
  | .mapping entries => '\x7b' :: writeEntries entries ++ ['\x7d']

def writeItems : List Value → List Char
  | [] => []
  | [item] => write item
  | item :: rest => write item ++ [',', ' '] ++ writeItems rest

def writeEntries : List (Scalar × Value) → List Char
  | [] => []
  | [(key, value)] => writeKey key ++ [':', ' '] ++ write value
  | (key, value) :: rest =>
    writeKey key ++ [':', ' '] ++ write value ++ [',', ' '] ++ writeEntries rest

end

/-- A value as JSON. -/
def print (value : Value) : String := String.ofList (write value)

end FormIntake.Json
