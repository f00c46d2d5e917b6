import SqlComposer.Text.Trim
import SqlComposer.Value

/-!
# Environment files

A file of bindings, one a line: a name, an equals sign and a value. Lines may begin with
`export`, and a number sign begins a comment. A value in quotes may run over several lines and
may hold escapes; a value without quotes ends with its line or before a comment.

Inside a value, `${NAME}` stands for the value that the name has by then, in the file or in the
environment, and `${NAME:-text}` for `text` if it has none. A line that cannot be read is
skipped.
-/

set_option autoImplicit false

namespace SqlComposer.Settings

open SqlComposer.Text

/-- A blank that does not end a line. -/
def isSpacer (c : Char) : Bool := isBlank c && c != '\n'

/-- The text with all its line ends as newlines. -/
def newlines : List Char → List Char
  | [] => []
  | '\r' :: '\n' :: cs => '\n' :: newlines cs
  | '\r' :: cs => '\n' :: newlines cs
  | c :: cs => c :: newlines cs

/-- What follows the line at the front. -/
def skipLine (cs : List Char) : List Char := (cs.dropWhile (· != '\n')).drop 1

/-- What follows the word `export` and the blanks after it, if the text begins so. -/
def afterExport (cs : List Char) : List Char :=
  let word := "export".toList
  let rest := cs.drop word.length
  if word.isPrefixOf cs && rest.head?.any isSpacer then rest.dropWhile isSpacer else cs

/-- A character of a name without quotes. -/
def isNameChar (c : Char) : Bool := c != '=' && c != '#' && !isBlank c

/-- The name at the front of a text, and what follows. In front of a comment there is none. -/
def readName? : List Char → Option (Option (List Char) × List Char)
  | '#' :: cs => some (none, '#' :: cs)
  | '\'' :: cs =>
    match cs.takeWhile (· != '\''), cs.dropWhile (· != '\'') with
    | c :: name, '\'' :: rest => some (some (c :: name), rest)
    | _, _ => none
  | cs =>
    match cs.takeWhile isNameChar with
    | [] => none
    | name => some (some name, cs.dropWhile isNameChar)

/-- The text up to the closing quote, and what follows. What a backslash precedes does not
close. -/
def readQuoted? (quote : Char) (acc : List Char) : List Char → Option (List Char × List Char)
  | [] => none
  | '\\' :: c :: cs => readQuoted? quote (c :: '\\' :: acc) cs
  | c :: cs => if c == quote then some (acc.reverse, cs) else readQuoted? quote (c :: acc) cs

/-- What a backslash and a letter stand for between single quotes. -/
def singleEscape? (c : Char) : Option Char := if c == '\\' || c == '\'' then some c else none

/-- What a backslash and a letter stand for between double quotes. -/
def doubleEscape? : Char → Option Char
  | '\\' => some '\\'
  | '\'' => some '\''
  | '"' => some '"'
  | 'a' => some '\x07'
  | 'b' => some '\x08'
  | 'f' => some '\x0c'
  | 'n' => some '\n'
  | 'r' => some '\r'
  | 't' => some '\t'
  | 'v' => some '\x0b'
  | _ => none

/-- The text with its escapes replaced. -/
def unescape (escape? : Char → Option Char) : List Char → List Char
  | [] => []
  | '\\' :: c :: cs =>
    match escape? c with
    | some d => d :: unescape escape? cs
    | none => '\\' :: unescape escape? (c :: cs)
  | c :: cs => c :: unescape escape? cs

/-- The text before a comment: before blanks that a number sign follows. -/
def beforeComment : List Char → List Char
  | [] => []
  | c :: cs =>
    if isBlank c && (cs.dropWhile isBlank).head? == some '#' then [] else c :: beforeComment cs

/-- The value after an equals sign, and what follows. A value without quotes takes the blanks in
front of it along, so that a comment can stand in its place. -/
def readValue? (cs : List Char) : Option (List Char × List Char) :=
  match cs.dropWhile isSpacer with
  | '\'' :: rest => (readQuoted? '\'' [] rest).map fun r => (unescape singleEscape? r.1, r.2)
  | '"' :: rest => (readQuoted? '"' [] rest).map fun r => (unescape doubleEscape? r.1, r.2)
  | _ =>
    some (trimBy isBlank (beforeComment (cs.takeWhile (· != '\n'))), cs.dropWhile (· != '\n'))

/-- What follows a comment, if there is one. -/
def afterComment (cs : List Char) : List Char :=
  match cs.dropWhile isSpacer with
  | '#' :: rest => rest.dropWhile (· != '\n')
  | _ => cs

/-- What follows the end of the line, if nothing but blanks stands before it. -/
def afterLineEnd? (cs : List Char) : Option (List Char) :=
  match cs.dropWhile isSpacer with
  | [] => some []
  | '\n' :: rest => some rest
  | _ => none

/-- A name and its value, if it has one. -/
abbrev Binding := String × Option String

/-- The binding of a name and the value read for it. -/
def binding (name : List Char) (value : Option (List Char)) : Binding :=
  (String.ofList name, value.map String.ofList)

/-- The binding at the front of a text, if there is one that can be read, and what follows. -/
def readBinding (cs : List Char) : Option Binding × List Char :=
  match cs.dropWhile isBlank with
  | [] => (none, [])
  | line =>
    match readName? (afterExport line) with
    | none => (none, skipLine (afterExport line))
    | some (name, rest) =>
      let finish (value : Option (List Char)) (rest : List Char) : Option Binding × List Char :=
        match afterLineEnd? (afterComment rest) with
        | some more => (name.map (binding · value), more)
        | none => (none, skipLine (afterComment rest))
      match rest.dropWhile isSpacer with
      | '=' :: more =>
        match readValue? more with
        | some (value, rest) => finish (some value) rest
        | none => (none, skipLine (more.dropWhile isSpacer))
      | more => finish none more

/-- The bindings of a text; `fuel` bounds their number. -/
def readBindings : (fuel : Nat) → List Char → List Binding
  | 0, _ => []
  | _ + 1, [] => []
  | fuel + 1, cs =>
    let (first, rest) := readBinding cs
    first.toList ++ readBindings fuel rest

/-- A reference to a name, after its opening brace: the name, the text in its stead, and what
follows. -/
def readReference? (cs : List Char) : Option (String × String × List Char) :=
  let name := cs.takeWhile fun c => c != '\x7d' && c != ':'
  match cs.drop name.length with
  | '\x7d' :: rest => some (String.ofList name, "", rest)
  | ':' :: '-' :: rest =>
    let otherwise := rest.takeWhile (· != '\x7d')
    match rest.drop otherwise.length with
    | '\x7d' :: more => some (String.ofList name, String.ofList otherwise, more)
    | _ => none
  | _ => none

/-- The text with its references replaced; `known` says what names stand for, and `fuel` bounds
the length of the text. -/
def expand (known : String → Option (Option String)) : (fuel : Nat) → List Char → List Char
  | 0, _ => []
  | _ + 1, [] => []
  | fuel + 1, '$' :: '\x7b' :: cs =>
    match readReference? cs with
    | some (name, otherwise, rest) =>
      (((known name).getD (some otherwise)).getD "").toList ++ expand known fuel rest
    | none => '$' :: expand known fuel ('\x7b' :: cs)
  | fuel + 1, c :: cs => c :: expand known fuel cs

/-- The bindings with all references replaced, one after another. A later binding of a name
takes the place of an earlier one. -/
def resolveBindings (environment : List (String × String)) (bindings : List Binding) :
    List Binding :=
  bindings.foldl
    (fun known b =>
      let look (name : String) : Option (Option String) :=
        (lookup? name known).or ((lookup? name environment).map some)
      put b.1 (b.2.map fun v => String.ofList (expand look (v.length + 1) v.toList)) known) []

/-- The text without the mark of its byte order. -/
def withoutMark : List Char → List Char
  | '\ufeff' :: cs => cs
  | cs => cs

/-- Reads an environment file. -/
def readEnvFile (environment : List (String × String)) (text : String) : List Binding :=
  let cs := newlines (withoutMark text.toList)
  resolveBindings environment (readBindings (cs.length + 1) cs)

end SqlComposer.Settings
