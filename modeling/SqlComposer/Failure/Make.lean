import SqlComposer.Failure.QueryError
import SqlComposer.Value.Sequence
import SqlComposer.Value.Written

/-!
# Making errors from described parts

A fault can be described by its kind and what it says, and an error of the library by the way it
is made and its parts under names. Parts that do not go with the way, and parts that are missing,
are faults of type. Nothing is asked of the parts themselves: `ErrorMaker.draft` keeps a message
or a mark that is no text or no boolean as it is.
-/

set_option autoImplicit false

namespace SqlComposer

/-- What a fault says unless something else is said. -/
def usualSaying : String := "boom"

/-- The fault that a value describes: a failure at run time unless a kind is named. -/
def Fault.ofDescription (v : Value) : Fault :=
  .saying ((((v.get "kind").text?).bind FaultKind.ofName?).getD .runtime)
    ((v.get? "message").getD (.text usualSaying))

/-- The fault that a value describes, if it is not null. -/
def Fault.ofDescription? (v : Value) : Option Fault :=
  if v.isNull then none else some (.ofDescription v)

/-- The ways to make an error. -/
inductive ErrorMaker where
  /-- From all its parts. -/
  | direct
  /-- From its code, which says whether another attempt may help. -/
  | ofCode
  | validation
  | configuration
  | connection
  | execution
  | transaction
  | dangerous
  deriving DecidableEq, Repr

namespace ErrorMaker

/-- The name of a way. -/
def name : ErrorMaker → String
  | .direct => "QueryCraftError"
  | .ofCode => "from_error_code"
  | .validation => "validation_error"
  | .configuration => "configuration_error"
  | .connection => "connection_error"
  | .execution => "execution_error"
  | .transaction => "transaction_error"
  | .dangerous => "dangerous_pattern_error"

/-- All ways. -/
def all : List ErrorMaker :=
  [.direct, .ofCode, .validation, .configuration, .connection, .execution, .transaction,
    .dangerous]

/-- The way with a name. -/
def ofName? (s : String) : Option ErrorMaker := all.find? (·.name == s)

/-- The parts that have to be given. -/
def required : ErrorMaker → List String
  | .execution => ["prefix", "original_error"]
  | .dangerous => ["label", "fragment", "pattern"]
  | _ => ["message"]

/-- The parts that are noted among the details. -/
def noted : ErrorMaker → List String
  | .validation => ["field", "value"]
  | .configuration => ["config_key"]
  | .connection => ["service", "host"]
  | .execution => ["query"]
  | _ => []

/-- The other parts that can be given. -/
def optional : ErrorMaker → List String
  | .dangerous => []
  | .execution => ["include_cause", "details", "cause", "is_retryable"]
  | _ => ["details", "cause", "is_retryable"]

/-- Whether a code can be given. -/
def takesCode : ErrorMaker → Bool
  | .direct | .ofCode | .validation | .configuration => true
  | _ => false

/-- Whether exactly such parts are given as the way takes. -/
def accepts (m : ErrorMaker) (code : Option ErrorCode) (parts : List (String × Value)) : Bool :=
  let known := m.required ++ (m.noted ++ m.optional)
  parts.all (fun p => known.contains p.1)
    && m.required.all (fun name => (lookup? name parts).isSome)
    && (if m == .ofCode then code.isSome else code.isNone || m.takesCode)

end ErrorMaker

/-- An error whose parts are values of any kind. -/
structure ErrorDraft where
  code : ErrorCode
  message : Value
  details : Value
  cause : Option Fault
  retryable : Value

/-- An error as a draft. -/
def QueryError.draft (e : QueryError) : ErrorDraft :=
  ⟨e.code, .text e.message, .dict e.details, e.cause, .bool e.retryable⟩

namespace ErrorDraft

/-- The draft as a reader sees it. -/
def text (d : ErrorDraft) : String := "[" ++ d.code.text ++ "] " ++ d.message.display

/-- The entry that is logged when the error is made. -/
def entry (d : ErrorDraft) : Log.Entry :=
  { level := .error
    logger := QueryError.logger
    message := d.message.display
    extra :=
      [("error_code", .text d.code.text), ("details", d.details), ("is_retryable", d.retryable)]
    failure := d.cause.map (·.kind.name) }

/-- Records a part under a name in details unless it says nothing. Only dictionaries take it. -/
def note (name : String) (part details : Value) : Except Fault Value :=
  if !part.truthy then .ok details
  else match details with
    | .dict es => .ok (.dict (put name part es))
    | _ => .error ⟨.type, ""⟩

/-- What details keep of a statement. -/
def keptStatement (v : Value) : Except Fault Value := do
  if (← v.size) ≤ QueryError.longestStatement then return v
  match v with
  | .text s => return .text (QueryError.statementExcerpt s)
  | _ => .error ⟨.type, ""⟩

end ErrorDraft

namespace ErrorMaker

/-- The code of an error made in a way, unless another is given. -/
def usualCode : ErrorMaker → ErrorCode
  | .direct | .ofCode => .execution
  | .validation => .validation
  | .configuration => .configuration
  | .connection => .connection
  | .execution => .queryExecution
  | .transaction => .transaction
  | .dangerous => .dangerousPattern

/-- The details of an error made in a way from its parts. -/
def details (m : ErrorMaker) (part : String → Value) (given : Value) : Except Fault Value :=
  match m with
  | .dangerous => do
    -- the label is written before the fragment is cut
    let _ ← (part "label").displayed
    return .dict [("fragment", ← (part "fragment").firstElements QueryError.longestFragment),
      ("pattern", part "pattern")]
  | .execution => do
    if !(part "query").truthy then return given
    ErrorDraft.note "query" (← ErrorDraft.keptStatement (part "query")) given
  | .validation => do
    let noted ← ErrorDraft.note "field" (part "field") given
    let value := part "value"
    if value.isNull then return noted
    match noted with
    | .dict es => return .dict (put "value" (.text (← value.displayed)) es)
    | _ => .error ⟨.type, ""⟩
  | m => m.noted.foldlM (fun details name => ErrorDraft.note name (part name) details) given

/-- The message of an error made in a way from its parts. -/
def message (m : ErrorMaker) (part : String → Value) : Except Fault Value :=
  match m with
  | .dangerous => do return .text (QueryError.dangerMessage (← (part "label").displayed))
  | .execution => do
    let fault := Fault.ofDescription (part "original_error")
    let reason :=
      if (part "include_cause").truthy then fault.text else QueryError.genericReason
    return .text ((← (part "prefix").displayed) ++ ": " ++ reason)
  | _ => .ok (part "message")

/-- What caused an error made in a way from its parts. -/
def cause (m : ErrorMaker) (part : String → Value) : Option Fault :=
  if m == .execution then some (.ofDescription (part "original_error"))
  else Fault.ofDescription? (part "cause")

/-- An error made in a way from its parts. Details that hold nothing are those of an error
without details. -/
def draft (m : ErrorMaker) (code : Option ErrorCode) (parts : List (String × Value)) :
    Except Fault ErrorDraft := do
  let part (name : String) : Value := (lookup? name parts).getD .null
  if !m.accepts code parts then throw ⟨.type, ""⟩
  let code := code.getD m.usualCode
  let details ← m.details part ((lookup? "details" parts).getD (.dict []))
  return {
    code := code
    message := ← m.message part
    details := if details.truthy then details else .dict []
    cause := m.cause part
    retryable := (lookup? "is_retryable" parts).getD
      (.bool (m == .ofCode && code.usuallyRetryable)) }

end ErrorMaker

end SqlComposer
