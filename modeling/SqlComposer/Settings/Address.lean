import SqlComposer.Value.Text
import SqlComposer.Text.Casing

/-!
# Database addresses

The address of a database as a URL: the driver, the login, the host and port, the name of the
database and the character set. What could be taken for a separator is percent-encoded in the
login and the name. A host with colons stands in brackets.
-/

set_option autoImplicit false

namespace SqlComposer.Settings

open SqlComposer.Text

/-- Where a database is and how to log in. -/
structure Address where
  driver : String
  user : Option String
  password : Option String
  host : Option String
  port : Int
  name : Option String

/-- A character that is never encoded. -/
def isUnreserved (c : Char) : Bool :=
  isAsciiLetter c || isAsciiDigit c || c == '_' || c == '.' || c == '-' || c == '~'

/-- One octet as a percent sign and two hexadecimal digits. -/
def percentOctet (b : UInt8) : List Char := '%' :: (hex 2 b.toNat).map asciiUpper

/-- The text with every character encoded, octet by octet, that is neither unreserved nor in
`safe`. -/
def percentEncode (safe : List Char) (s : String) : String :=
  String.ofList (s.toList.flatMap fun c =>
    if isUnreserved c || safe.contains c then [c]
    else (String.singleton c).toUTF8.toList.flatMap percentOctet)

/-- What is shown in place of a password. -/
def passwordMask : String := "***"

/-- The part of an address that logs in. -/
def Address.login (a : Address) (hidden : Bool) : String :=
  match a.user with
  | none => ""
  | some user =>
    let password := match a.password with
      | none => ""
      | some p => ":" ++ if hidden then passwordMask else percentEncode [' ', '+'] p
    percentEncode [' ', '+'] user ++ password ++ "@"

/-- The host as it stands in an address. -/
def Address.hostText (a : Address) : String :=
  match a.host with
  | none => ""
  | some h => if h.toList.contains ':' then "[" ++ h ++ "]" else h

/-- The address as text, with or without the password. -/
def Address.text (a : Address) (hidden : Bool) : String :=
  a.driver ++ "://" ++ a.login hidden ++ a.hostText ++ ":" ++ toString a.port
    ++ (match a.name with
      | none => ""
      | some n => "/" ++ percentEncode [' ', '+', '/'] n)
    ++ "?charset=utf8mb4"

end SqlComposer.Settings
