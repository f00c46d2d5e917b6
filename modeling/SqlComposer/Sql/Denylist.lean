import SqlComposer.Failure.QueryError
import SqlComposer.Text.Casing

/-!
# The denylist

Free SQL text cannot be bound, so it is searched for signs of an injected statement before it is
composed: separators, comment marks, and keywords that have no business in a condition. A
keyword counts only as a whole word, in any case, so that a column called `updated_at` stays
usable.
-/

set_option autoImplicit false

namespace SqlComposer.Sql

open SqlComposer.Text

/-- Where a piece of free SQL text stands in its statement. -/
inductive FragmentKind where
  | whereClause
  | havingClause
  | joinOn
  | rawField
  | generated
  | check
  deriving DecidableEq, Repr

namespace FragmentKind

/-- All kinds. -/
def all : List FragmentKind := [.whereClause, .havingClause, .joinOn, .rawField, .generated, .check]

/-- How a kind is named in messages. -/
def label : FragmentKind → String
  | .whereClause => "WHERE clause"
  | .havingClause => "HAVING clause"
  | .joinOn => "JOIN ON clause"
  | .rawField => "raw field expression"
  | .generated => "generated column expression"
  | .check => "CHECK constraint"

/-- The kind with a label. -/
def ofLabel? (s : String) : Option FragmentKind := all.find? (·.label == s)

end FragmentKind

/-- Something that must not occur in a fragment. -/
inductive Sign where
  /-- A sequence of characters, anywhere. -/
  | mark (text : String)
  /-- A whole word, in any case. -/
  | word (text : String)
  /-- `INTO`, blanks, and then `OUTFILE` or `DUMPFILE`, in any case. -/
  | intoFile
  deriving DecidableEq, Repr

/-- Whether a text begins with `word` up to case, and what follows it. -/
def afterFolded? : (word cs : List Char) → Option (List Char)
  | [], cs => some cs
  | _ :: _, [] => none
  | w :: ws, c :: cs => if sameFolded w c then afterFolded? ws cs else none

/-- Whether a text begins at the end of a word. -/
def atWordEnd : List Char → Bool
  | [] => true
  | c :: _ => !isWord c

/-- Whether a text begins with the whole word `word`, as far as its end is concerned. -/
def startsWord (word cs : List Char) : Bool :=
  match afterFolded? word cs with
  | some rest => atWordEnd rest
  | none => false

/-- Whether a text begins with `INTO` and the name of a file target. -/
def startsIntoFile (cs : List Char) : Bool :=
  match afterFolded? "INTO".toList cs with
  | none => false
  | some rest =>
    match rest with
    | [] => false
    | b :: _ =>
      isBlank b &&
        (startsWord "OUTFILE".toList (rest.dropWhile isBlank)
          || startsWord "DUMPFILE".toList (rest.dropWhile isBlank))

/-- Whether `starts` holds at some place in the text that is not in the middle of a word.
`inWord` says whether the character before the text is part of a word. -/
def atSomeWord (starts : List Char → Bool) : (inWord : Bool) → List Char → Bool
  | _, [] => false
  | inWord, c :: cs =>
    (!inWord && starts (c :: cs)) || atSomeWord starts (isWord c) cs

/-- Whether the sign occurs in a text. -/
def Sign.occursIn : Sign → List Char → Bool
  | .mark text, cs => hasInfix text.toList cs
  | .word text, cs => atSomeWord (startsWord text.toList) false cs
  | .intoFile, cs => atSomeWord startsIntoFile false cs

/-- The sign as a search pattern, for messages. -/
def Sign.pattern : Sign → String
  | .mark text => if text == "/*" then "/\\*" else if text == "*/" then "\\*/" else text
  | .word text => "\\b" ++ text ++ "\\b"
  | .intoFile => "\\bINTO\\s+(?:OUT|DUMP)FILE\\b"

/-- All signs, in the order in which they are looked for. -/
def denylist : List Sign :=
  [.mark ";", .mark "--", .mark "#", .mark "/*", .mark "*/", .word "UNION", .word "DROP",
    .word "DELETE", .word "INSERT", .word "UPDATE", .word "EXEC", .word "EXECUTE", .word "SLEEP",
    .word "BENCHMARK", .word "LOAD_FILE", .intoFile, .word "TRUNCATE", .word "ALTER",
    .word "GRANT", .word "xp_cmdshell"]

/-- The first sign that occurs in a fragment. -/
def dangerIn? (fragment : String) : Option Sign :=
  denylist.find? (·.occursIn fragment.toList)

end SqlComposer.Sql
