import SqlComposer.Sql.Quoting

/-!
# Names in SQL text

A name is written between backticks, one pair per segment between dots. A backtick inside is
doubled, and so is a percent sign, because statements pass through a formatting step on their
way to the server. A segment that is a lone star stays bare: it is the wildcard.

Text that already looks composed, because it holds a quote or an opening parenthesis, is taken
for an expression and left as it is.
-/

set_option autoImplicit false

namespace SqlComposer.Sql

/-- One character of a name as it is written between backticks. -/
def nameChar (c : Char) : List Char :=
  if c == '\x60' then ['\x60', '\x60'] else if c == '%' then ['%', '%'] else [c]

/-- One segment of a name. -/
def quoteSegment (segment : List Char) : List Char :=
  if segment = ['*'] then segment
  else '\x60' :: (segment.flatMap nameChar ++ ['\x60'])

/-- The segments of a name. -/
def segments (name : String) : List (List Char) := name.toList.splitOn '.'

/-- A name as SQL text. -/
def quoteName (name : String) : String :=
  String.ofList (['.'].intercalate ((segments name).map quoteSegment))

/-- The characters that mark a text as composed SQL. -/
def isExpressionMark (c : Char) : Bool := c == '(' || isQuote c

/-- Whether a text is composed SQL: a call, a quoted name or a literal. -/
def isExpression (text : String) : Bool := text.toList.any isExpressionMark

/-- A column as SQL text: an expression as it is, a name quoted. -/
def column (text : String) : String := if isExpression text then text else quoteName text

/-- Names as SQL text, separated by commas. -/
def nameList (names : List String) : String := ", ".intercalate (names.map quoteName)

end SqlComposer.Sql
