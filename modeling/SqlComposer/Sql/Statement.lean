import SqlComposer.Sql.Denylist

/-!
# Kinds of statements

Whether a statement only reads, which decides how it is run, and what a trace says about it.
-/

set_option autoImplicit false

namespace SqlComposer.Sql

open SqlComposer.Text

/-- The keywords a reading statement begins with. -/
def readingWords : List String := ["SELECT", "SHOW", "DESCRIBE", "DESC", "EXPLAIN"]

/-- The text after blanks, one opening parenthesis at most, and more blanks. -/
def afterOpening (cs : List Char) : List Char :=
  match cs.dropWhile isBlank with
  | '(' :: rest => rest.dropWhile isBlank
  | rest => rest

/-- Whether a statement only reads. -/
def isRead (sql : String) : Bool :=
  let body := afterOpening sql.toList
  readingWords.any fun word => startsWord word.toList body

/-- The longest statement that a trace shows in full. -/
def longestShown : Nat := 4096

/-- The attributes that a trace gives to a statement. A long statement is cut. -/
def attributes (sql operation : String) : List (String × Value) :=
  let cs := trimBy isBlank sql.toList
  let shown := if longestShown < cs.length then cs.take (longestShown - 3) ++ "...".toList else cs
  [("db.system", .text "mysql"), ("db.operation", .text operation)]
    ++ (if shown.isEmpty then []
        else [("db.statement", .text (String.ofList shown)),
          ("db.statement.length", .int shown.length)])

end SqlComposer.Sql
