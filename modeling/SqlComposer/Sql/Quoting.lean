import SqlComposer.Text.Classes

/-!
# Quoted regions of SQL text

A question mark in SQL text is a placeholder only outside quotes. `Region` says where a scan of
the text stands: outside, inside a quoted region, or right after a backslash inside one. Single
quotes, double quotes and backticks open a region that the same character closes, and a
backslash takes the next character with it except between backticks.

The scan is a fold of one step, so scanning a text in pieces and scanning it whole agree:
`Region.scan_append` and `countFrom_append` are what everything about composed statements rests
on.
-/

set_option autoImplicit false

namespace SqlComposer.Sql

/-- Where a scan of SQL text stands. -/
inductive Region where
  /-- Not in a quoted region. -/
  | outside
  /-- In a region opened by `quote`. -/
  | inside (quote : Char)
  /-- In a region opened by `quote`, after a backslash. -/
  | escaped (quote : Char)
  deriving DecidableEq, Repr

/-- A character that opens a quoted region. -/
def isQuote (c : Char) : Bool := c == '\'' || c == '"' || c == '\x60'

/-- The region after one more character. -/
def Region.step : Region → Char → Region
  | .outside, c => if isQuote c then .inside c else .outside
  | .inside q, c =>
    if c == '\\' && q != '\x60' then .escaped q
    else if c == q then .outside
    else .inside q
  | .escaped q, _ => .inside q

/-- The region after a text. -/
def Region.scan (r : Region) (cs : List Char) : Region := cs.foldl Region.step r

/-- The number of placeholders in a text that is scanned from a region on. -/
def countFrom : Region → List Char → Nat
  | _, [] => 0
  | r, c :: cs => (if r = .outside ∧ c = '?' then 1 else 0) + countFrom (r.step c) cs

/-- The number of placeholders in SQL text. -/
def countPlaceholders (sql : String) : Nat := countFrom .outside sql.toList

/-- Whether a text ends outside quotes, so that it can be put next to other text. -/
def QuoteClosed (sql : String) : Prop := Region.scan .outside sql.toList = .outside

instance (sql : String) : Decidable (QuoteClosed sql) :=
  inferInstanceAs (Decidable (_ = _))

@[simp] theorem Region.scan_nil (r : Region) : r.scan [] = r := rfl

@[simp] theorem Region.scan_cons (r : Region) (c : Char) (cs : List Char) :
    r.scan (c :: cs) = (r.step c).scan cs := rfl

/-- Scanning two texts in a row is scanning the second from where the first ends. -/
theorem Region.scan_append (r : Region) (as bs : List Char) :
    r.scan (as ++ bs) = (r.scan as).scan bs := by
  simp [Region.scan, List.foldl_append]

/-- The placeholders of a composed text are those of its parts. -/
theorem countFrom_append (r : Region) (as bs : List Char) :
    countFrom r (as ++ bs) = countFrom r as + countFrom (r.scan as) bs := by
  induction as generalizing r with
  | nil => simp [countFrom]
  | cons c cs ih => simp only [List.cons_append, countFrom, ih, Region.scan_cons, Nat.add_assoc]

end SqlComposer.Sql
