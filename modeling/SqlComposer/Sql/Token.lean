import SqlComposer.Sql.Rejection

/-!
# Text written bare

Engine, character set and collation names and the targets of foreign keys stand unquoted in a
table definition. What may stand there is checked character by character. Each check looks past
one newline at the very end of the text.
-/

set_option autoImplicit false

namespace SqlComposer.Sql

open SqlComposer.Text

/-- The text without one newline at its end. -/
def dropFinalNewline (cs : List Char) : List Char :=
  match cs.reverse with
  | '\n' :: rest => rest.reverse
  | _ => cs

/-- A character of a bare name. -/
def isTokenChar (c : Char) : Bool := isAsciiLetter c || isAsciiDigit c || c == '_'

/-- Whether a text can be written as a bare name. -/
def isToken (text : String) : Bool :=
  let cs := dropFinalNewline text.toList
  !cs.isEmpty && cs.all isTokenChar

/-- Whether a text has the form `table(column)`. -/
def isReference (text : String) : Bool :=
  let cs := dropFinalNewline text.toList
  let table := cs.takeWhile isWord
  match cs.dropWhile isWord with
  | '(' :: rest =>
    !table.isEmpty && !(rest.takeWhile isWord).isEmpty && rest.dropWhile isWord == [')']
  | _ => false

/-- Accepts a bare name, unchanged. -/
def checkToken (option text : String) : Except Rejection String :=
  if isToken text then .ok text else .error (.badToken option text)

/-- Accepts a foreign key target, unchanged. -/
def checkReference (text : String) : Except Rejection String :=
  if isReference text then .ok text else .error (.badReference text)

end SqlComposer.Sql
