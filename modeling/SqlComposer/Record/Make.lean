import SqlComposer.Failure.QueryError
import SqlComposer.Record.Access
import SqlComposer.Table.Draft

/-!
# Making what is described

Named values are made into a record of a kind, or refused with the issues found in them. A record
of a kind that stands for something is read as what it stands for.
-/

set_option autoImplicit false

namespace SqlComposer

/-- The record of a kind that named values make. Null stands for no values; other values than
dictionaries name none. -/
def RecordKind.make (kind : RecordKind) (data : Value) : Except Failure Value :=
  match data with
  | .dict entries => (kind.construct entries).mapError (.refusal kind.name)
  | .null => (kind.construct []).mapError (.refusal kind.name)
  | _ => .error (.fault ⟨.type, ""⟩)

/-- The query that a record describes. -/
def Query.read (record : Value) : Except Failure Query :=
  match Query.ofRecord? record with
  | some q => .ok q
  | none => Draft.lacking

/-- The table that a record describes. -/
def TableDefinition.read (record : Value) : Except Failure TableDefinition :=
  match TableDefinition.ofRecord? record with
  | some t => .ok t
  | none => Draft.lacking

end SqlComposer
