import SqlComposer.Text.Classes

/-!
# Letter case

Keywords are ASCII, but the texts they are compared with need not be. A letter outside ASCII
can still be a case variant of an ASCII one: the long s, the Kelvin sign, the dotless and the
dotted i. `foldLetter` maps each such variant to its small ASCII letter, and two characters
agree up to case with respect to an ASCII keyword when they fold alike.

Changing a whole text to capitals is a different map: there a ligature becomes two letters,
and the Kelvin sign, a capital already, stays as it is. `upper` and `lower` leave every
character alone whose image is not ASCII, which does no harm to a comparison with ASCII words.
-/

set_option autoImplicit false

namespace SqlComposer.Text

/-- The small form of an ASCII capital; every other character unchanged. -/
def asciiLower (c : Char) : Char :=
  if isAsciiUpper c then Char.ofNat (c.toNat + 32) else c

/-- The capital form of a small ASCII letter; every other character unchanged. -/
def asciiUpper (c : Char) : Char :=
  if isAsciiLower c then Char.ofNat (c.toNat - 32) else c

/-- The small ASCII letter that `c` is a case variant of, or `c` itself if there is none. -/
def foldLetter (c : Char) : Char :=
  if c.toNat < 128 then asciiLower c
  else if c == 'ſ' then 's'
  else if c == '\u212A' then 'k'
  else if c == 'ı' || c == 'İ' then 'i'
  else c

/-- Agreement of two characters up to case. -/
def sameFolded (a b : Char) : Bool := foldLetter a == foldLetter b

/-- A case variant of an ASCII letter. -/
def isFoldedLetter (c : Char) : Bool := isAsciiLower (foldLetter c)

/-- The capital form of one character, written out where it is ASCII text. -/
def upperChar (c : Char) : List Char :=
  if c.toNat < 128 then [asciiUpper c]
  else match c.toNat with
    | 0xDF => ['S', 'S']
    | 0x131 => ['I']
    | 0x17F => ['S']
    | 0xFB00 => ['F', 'F']
    | 0xFB01 => ['F', 'I']
    | 0xFB02 => ['F', 'L']
    | 0xFB03 => ['F', 'F', 'I']
    | 0xFB04 => ['F', 'F', 'L']
    | 0xFB05 => ['S', 'T']
    | 0xFB06 => ['S', 'T']
    | _ => [c]

/-- The small form of one character, where it is ASCII. -/
def lowerChar (c : Char) : Char :=
  if c == '\u212A' then 'k' else asciiLower c

/-- The text in capitals, as far as they are ASCII. -/
def upper (s : String) : String := String.ofList (s.toList.flatMap upperChar)

/-- The text in small letters, as far as they are ASCII. -/
def lower (s : String) : String := String.ofList (s.toList.map lowerChar)

/-- The text with its ASCII capitals made small. -/
def lowerAscii (s : String) : String := String.ofList (s.toList.map asciiLower)

end SqlComposer.Text
