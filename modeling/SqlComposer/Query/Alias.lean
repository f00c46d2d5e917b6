import SqlComposer.Query.Config
import SqlComposer.Sql.Denylist

/-!
# Aliases in conditions and orders

A query may filter and sort by the aliases of its output columns. The database cannot, in a
condition, so an alias is replaced by the text of its column. In a condition only the name
before the first operator is looked at; in an order entry, all of it but a direction at the end.
-/

set_option autoImplicit false

namespace SqlComposer

open SqlComposer.Text SqlComposer.Sql

/-- The column texts behind aliases. -/
abbrev Aliases := List (String × String)

/-- The aliases of a query: those of its plain columns. -/
def Query.aliases (q : Query) : Aliases :=
  q.fields.filterMap fun
    | (label, .column text) => some (label, text)
    | _ => none

/-- The column text behind a name, if the name is an alias; else the name. Backticks around the
name do not count. -/
def Aliases.resolve (aliases : Aliases) (name : String) : String :=
  (lookup? (String.ofList (trimBy (· == '\x60') name.toList)) aliases).getD name

/-- A character that can begin a plain name. -/
def isNameStart (c : Char) : Bool := isFoldedLetter c || c == '_'

/-- A character that can go on a plain name. -/
def isNamePart (c : Char) : Bool := isWord c || c == '$'

/-- The length of the plain name at the front of a text. -/
def plainNameLength : List Char → Nat
  | [] => 0
  | c :: cs => if isNameStart c then 1 + (cs.takeWhile isNamePart).length else 0

/-- The length of the name in backticks at the front of a text, backticks included. -/
def quotedNameLength : List Char → Nat
  | '\x60' :: cs =>
    let body := cs.takeWhile (· != '\x60')
    if body.isEmpty || body.length == cs.length then 0 else body.length + 2
  | _ => 0

/-- The length of a name, plain or in backticks, together with a second name of the same form
after a dot. -/
def qualifiedLength (nameLength : List Char → Nat) (cs : List Char) : Nat :=
  let first := nameLength cs
  if first == 0 then 0
  else match cs.drop first with
    | '.' :: rest =>
      let second := nameLength rest
      if second == 0 then first else first + 1 + second
    | _ => first

/-- The length of the field name at the front of a text; zero if there is none. -/
def fieldNameLength (cs : List Char) : Nat :=
  match cs with
  | '\x60' :: _ => qualifiedLength quotedNameLength cs
  | _ => qualifiedLength plainNameLength cs

/-- Whether a text begins with a comparison sign. -/
def startsComparison : List Char → Bool
  | '=' :: _ => true
  | '<' :: _ => true
  | '>' :: _ => true
  | '!' :: '=' :: _ => true
  | _ => false

/-- Whether a text begins with the given words, with blanks between them, and ends a word after
the last. -/
def startsWords : (words : List String) → List Char → Bool
  | [], _ => true
  | [last], cs => startsWord last.toList cs
  | word :: words, cs =>
    match afterFolded? word.toList cs with
    | some (c :: rest) => isBlank c && startsWords words (rest.dropWhile isBlank)
    | _ => false

/-- The operators that are words. -/
def wordOperators : List (List String) :=
  [["NOT", "LIKE"], ["LIKE"], ["NOT", "IN"], ["IN"], ["IS", "NOT", "NULL"], ["IS", "NULL"],
    ["BETWEEN"]]

/-- Whether an operator follows: a comparison sign after any blanks, or an operator word after
at least one. -/
def operatorFollows (cs : List Char) : Bool :=
  let after := cs.dropWhile isBlank
  startsComparison after
    || (after.length < cs.length && wordOperators.any fun words => startsWords words after)

/-- The blanks before the field name at the head of a condition, the name, and the rest, which
begins with an operator. -/
def conditionHead? (cs : List Char) : Option (List Char × List Char × List Char) :=
  let lead := cs.takeWhile isBlank
  let body := cs.dropWhile isBlank
  let n := fieldNameLength body
  if n != 0 && operatorFollows (body.drop n) then some (lead, body.take n, body.drop n) else none

/-- A condition with the name at its head resolved. -/
def Aliases.resolveCondition (aliases : Aliases) (fragment : String) : String :=
  match conditionHead? fragment.toList with
  | none => fragment
  | some (lead, name, rest) =>
    String.ofList (lead ++ ((aliases.resolve (String.ofList name)).toList ++ rest))

/-- A direction at the end of a text without blanks at its end, as a word of its own after a blank,
and what stands before it. -/
def endingIn? (core : List Char) (direction : SortDirection) :
    Option (List Char × SortDirection) :=
  let word := direction.keyword.toList
  let before := core.take (core.length - word.length)
  match before.getLast?, afterFolded? word (core.drop before.length) with
  | some c, some [] => if isBlank c then some (before, direction) else none
  | _, _ => none

/-- The direction that a text ends with, if any, and what stands before it. -/
def splitDirection? (cs : List Char) : Option (List Char × SortDirection) :=
  let core := dropEnd isBlank cs
  (endingIn? core .asc).or (endingIn? core .desc)

/-- The resolved column of an order entry and the direction written after it. -/
def Aliases.resolveOrder (aliases : Aliases) (term : String) : String × Option SortDirection :=
  match splitDirection? term.toList with
  | none => (aliases.resolve (trim term), none)
  | some (before, direction) =>
    (aliases.resolve (String.ofList (trimBy isBlank before)), some direction)

end SqlComposer
