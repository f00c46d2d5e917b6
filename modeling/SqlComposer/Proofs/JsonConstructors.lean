import Mathlib.Tactic.SplitIfs
import SqlComposer.Proofs.Composition
import SqlComposer.Proofs.Lexemes
import SqlComposer.Proofs.SealedText

/-!
# JSON constructors as the server reads them

Lists and dictionaries are written as calls of the server's JSON constructors, one within another.
`readJson?` reads such a text back: it takes the lexemes of the text one after another and keeps on
a stack what is not put together yet, the arguments of open calls above all. At a closing
parenthesis the arguments of the innermost call are taken off the stack, and what the call builds
is put there in their place.

What is written for a value is read as this value wherever it stands (`ReadsAs`), and arguments
that are so read, with commas between them, are the arguments of their call. By this, a value of
any depth is read back, whatever its texts hold: a text is one lexeme, however much it looks like
a call. And no question mark of it stands outside quotes.
-/

set_option autoImplicit false

namespace SqlComposer.Sql

open SqlComposer.Text SqlComposer.Number

/-! ## The reader -/

/-- The JSON constructors. -/
inductive Constructor where
  | array
  | object
  deriving DecidableEq, Repr

/-- The name that a constructor is called by. -/
def Constructor.name : Constructor → String
  | .array => "JSON_ARRAY"
  | .object => "JSON_OBJECT"

/-- Arguments as keys with their values. -/
def pairUp? : List Value → Option (List (String × Value))
  | [] => some []
  | .text key :: v :: rest => (pairUp? rest).map ((key, v) :: ·)
  | _ => none

/-- What a constructor builds from its arguments. -/
def Constructor.build? : Constructor → List Value → Option Value
  | .array, values => some (.list values)
  | .object, values => (pairUp? values).map .dict

/-- What has been read and is not put together yet. -/
inductive Pending where
  /-- A whole argument. -/
  | value (v : Value)
  | comma
  /-- A minus sign, which a number has to follow. -/
  | minus
  /-- A name, which an opening parenthesis has to follow. -/
  | name (c : Constructor)
  /-- A call that is not closed yet. -/
  | call (c : Constructor)

/-- Puts a value on the stack. After a minus sign it has to be a number, and becomes negative. -/
def pushValue (v : Value) : List Pending → Option (List Pending)
  | .minus :: stack => match v with
    | .int n => some (.value (.int (-n)) :: stack)
    | _ => none
  | stack => some (.value v :: stack)

/-- The arguments before some others, down to the call they belong to. -/
def earlierArguments? (later : List Value) :
    List Pending → Option (List Value × Constructor × List Pending)
  | .call c :: stack => some (later, c, stack)
  | .comma :: .value v :: stack => earlierArguments? (v :: later) stack
  | _ => none

/-- The arguments on the stack, down to the call they belong to, and what is left of the stack. -/
def arguments? : List Pending → Option (List Value × Constructor × List Pending)
  | .call c :: stack => some ([], c, stack)
  | .value v :: stack => earlierArguments? [v] stack
  | _ => none

/-- The character that stands for a backslash and this one. -/
def unescaped : Char → Char
  | '0' => '\x00'
  | 'n' => '\n'
  | 'r' => '\r'
  | 'Z' => '\x1a'
  | c => c

/-- What stands before the closing quote at the end of a text literal. -/
def literalBody? : List Char → Option (List Char)
  | [] => none
  | ['\''] => some []
  | '\\' :: c :: cs => (literalBody? cs).map (unescaped c :: ·)
  | c :: cs => if c == '\'' then none else (literalBody? cs).map (c :: ·)

/-- Reads a text literal. -/
def readLiteral? : List Char → Option (List Char)
  | '\'' :: cs => literalBody? cs
  | _ => none

/-- Reads one more word: null, a constructor or a number. -/
def readWord (text : List Char) (stack : List Pending) : Option (List Pending) :=
  if text = "NULL".toList then pushValue .null stack
  else if text = Constructor.array.name.toList then some (.name .array :: stack)
  else if text = Constructor.object.name.toList then some (.name .object :: stack)
  else if text.all isAsciiDigit then pushValue (.int (ofDigits text)) stack
  else none

/-- Reads one more lexeme. -/
def readLexeme : List Pending → Lexeme → Option (List Pending)
  | stack, .word text => readWord text stack
  | stack, .quoted text => do pushValue (.text (String.ofList (← readLiteral? text))) stack
  | stack, .sign c =>
    if c == ',' then some (.comma :: stack)
    else if c == '-' then some (.minus :: stack)
    else none
  | .name c :: stack, .opening => some (.call c :: stack)
  | stack, .closing => do
    let (values, c, stack) ← arguments? stack
    pushValue (← c.build? values) stack
  | _, _ => none

/-- Reads lexemes. -/
def readLexemes (stack : List Pending) (ls : List Lexeme) : Option (List Pending) :=
  ls.foldlM readLexeme stack

/-- Reads a text as a value. -/
def readJson? (sql : String) : Option Value :=
  match readLexemes [] (lexemes sql) with
  | some [.value v] => some v
  | _ => none

/-! ## What is written for a value -/

/-- A text that does not go on with a word. -/
def EndsWord (rest : List Char) : Prop := ∀ c ∈ rest.head?, isLexemeChar c = false

/-- A stack on which a value is put as it is. -/
def Ready (stack : List Pending) : Prop := ∀ s ∈ stack.head?, s ≠ .minus

/-- A text that is read as a value wherever it stands. -/
def ReadsAs (text : String) (v : Value) : Prop :=
  ∀ (stack : List Pending) (rest : List Char), Ready stack → EndsWord rest →
    readLexemes stack (lexFrom .outside [] (text.toList ++ rest))
      = readLexemes (.value v :: stack) (lexFrom .outside [] rest)

theorem endsWord_nil : EndsWord [] := by
  rintro c ⟨⟩

theorem endsWord_cons {c : Char} (h : isLexemeChar c = false) (rest : List Char) :
    EndsWord (c :: rest) := by
  rintro d hd
  obtain rfl := Option.some.inj hd
  exact h

theorem pushValue_of_ready {stack : List Pending} (h : Ready stack) (v : Value) :
    pushValue v stack = some (.value v :: stack) := by
  cases stack with
  | nil => rfl
  | cons s stack =>
    cases s with
    | minus => exact absurd rfl (h .minus rfl)
    | _ => rfl

theorem readLexemes_cons (stack : List Pending) (l : Lexeme) (ls : List Lexeme) :
    readLexemes stack (l :: ls) = (readLexeme stack l).bind (readLexemes · ls) := by
  rw [readLexemes, List.foldlM_cons]
  rfl

/-! ### Words and numbers -/

/-- A word is one lexeme. -/
theorem lexFrom_word {word rest : List Char}
    (hword : ∀ c ∈ word, isQuote c = false ∧ isLexemeChar c = true) (hrest : EndsWord rest)
    (begun : List Char) :
    lexFrom .outside begun (word ++ rest)
      = wordLexemes (begun ++ word) ++ lexFrom .outside [] rest := by
  induction word generalizing begun with
  | nil =>
    rw [List.nil_append, List.append_nil]
    cases rest with
    | nil => simp [lexFrom, wordLexemes]
    | cons c rest =>
      have hc : isLexemeChar c = false := hrest c rfl
      rw [lexFrom_outside, lexFrom_outside, hc]
      by_cases hquote : isQuote c = true
      · simp [hquote, wordLexemes]
      · simp [hquote, wordLexemes]
  | cons c word ih =>
    obtain ⟨hquote, hc⟩ := hword c List.mem_cons_self
    rw [List.cons_append, lexFrom_outside, hquote, hc, if_neg (by decide), if_pos rfl,
      ih (fun d hd => hword d (List.mem_cons_of_mem c hd)), List.append_assoc]
    rfl

theorem wordChars_of_all {word : List Char}
    (h : word.all (fun c => !isQuote c && isLexemeChar c) = true) :
    ∀ c ∈ word, isQuote c = false ∧ isLexemeChar c = true := by
  simpa using h

theorem readsAs_null : ReadsAs "NULL" .null := by
  intro stack rest hstack hrest
  rw [lexFrom_word (wordChars_of_all (by decide)) hrest, List.nil_append]
  change readLexemes stack (.word "NULL".toList :: _) = _
  rw [readLexemes_cons]
  change (pushValue .null stack).bind _ = _
  rw [pushValue_of_ready hstack]
  rfl

theorem isDigit_of_mem_toDigits {n : Nat} {c : Char} (h : c ∈ Nat.toDigits 10 n) :
    isAsciiDigit c = true := by
  have hdigit : c.isDigit = true := Nat.isDigit_of_mem_toDigits (by decide) (by decide) h
  simpa [Char.isDigit, isAsciiDigit, Char.le_def] using hdigit

theorem isLexemeChar_of_mem_toDigits {n : Nat} {c : Char} (h : c ∈ Nat.toDigits 10 n) :
    isQuote c = false ∧ isLexemeChar c = true := by
  refine ⟨(isSpecial_eq_false.mp (plain_toDigits n c h)).1, ?_⟩
  have hdigit := isDigit_of_mem_toDigits h
  have hbounds : '0' ≤ c ∧ c ≤ '9' := by simpa [isAsciiDigit] using hdigit
  have hascii : c.toNat < 128 := Nat.lt_of_le_of_lt (UInt32.le_iff_toNat_le.mp hbounds.2) (by decide)
  simp [isLexemeChar, isWord, hascii, hdigit]

theorem ofDigits_toDigits (n : Nat) : ofDigits (Nat.toDigits 10 n) = n := by
  have hfold : Nat.ofDigitChars 10 (Nat.toDigits 10 n) 0 = ofDigits (Nat.toDigits 10 n) :=
    Nat.ofDigitChars_eq_foldl
  rw [← hfold, Nat.ofDigitChars_ten_toDigits]

/-- A word of digits is a number. -/
theorem readWord_toDigits (n : Nat) (stack : List Pending) :
    readWord (Nat.toDigits 10 n) stack = pushValue (.int n) stack := by
  have hdigits : ∀ c ∈ Nat.toDigits 10 n, isAsciiDigit c = true := fun c hc =>
    isDigit_of_mem_toDigits hc
  have hne {word : List Char} {c : Char} (hc : c ∈ word) (hword : isAsciiDigit c = false) :
      Nat.toDigits 10 n ≠ word := by
    rintro h
    rw [hdigits c (h ▸ hc)] at hword
    cases hword
  unfold readWord
  rw [if_neg (hne (c := 'N') (by decide) (by decide)),
    if_neg (hne (c := 'J') (by decide) (by decide)),
    if_neg (hne (c := 'J') (by decide) (by decide)), if_pos (List.all_eq_true.mpr hdigits),
    ofDigits_toDigits]

/-- No keyword begins with a digit. -/
theorem ofWord_of_digit {c : Char} (hc : isAsciiDigit c = true) (cs : List Char) :
    Lexeme.ofWord (c :: cs) = .word (c :: cs) := by
  have hne {d : Char} (hd : isAsciiDigit d = false) : ¬d = c := by
    rintro rfl
    rw [hc] at hd
    cases hd
  have hupper : c.toUpper = c := by
    have hbounds : '0' ≤ c ∧ c ≤ '9' := by simpa [isAsciiDigit] using hc
    have hlower : ¬ 'a'.val ≤ c.val := by
      intro hlower
      exact absurd (UInt32.le_trans hlower hbounds.2) (by decide)
    unfold Char.toUpper
    exact dif_neg fun h => hlower h.1
  have hfound : keywords.find? (fun e => e.1.toList == (c :: cs).map Char.toUpper) = none := by
    rw [List.find?_eq_none, List.map_cons, hupper]
    simp [keywords, hne (d := 'A') (by decide), hne (d := 'O') (by decide),
      hne (d := 'X') (by decide), hne (d := 'N') (by decide), hne (d := 'B') (by decide),
      hne (d := 'C') (by decide), hne (d := 'E') (by decide)]
  rw [Lexeme.ofWord, hfound]
  rfl

/-- Digits are one lexeme. -/
theorem lexFrom_toDigits (n : Nat) {rest : List Char} (hrest : EndsWord rest) :
    lexFrom .outside [] (Nat.toDigits 10 n ++ rest)
      = .word (Nat.toDigits 10 n) :: lexFrom .outside [] rest := by
  rw [lexFrom_word (fun c hc => isLexemeChar_of_mem_toDigits hc) hrest, List.nil_append]
  cases hdigits : Nat.toDigits 10 n with
  | nil => exact absurd hdigits Nat.toDigits_ne_nil
  | cons c cs =>
    have hc : c ∈ Nat.toDigits 10 n := by rw [hdigits]; exact List.mem_cons_self
    change Lexeme.ofWord (c :: cs) :: _ = _
    rw [ofWord_of_digit (isDigit_of_mem_toDigits hc)]
    rfl

theorem readsAs_int (n : Int) : ReadsAs (toString n) (.int n) := by
  intro stack rest hstack hrest
  cases n with
  | ofNat n =>
    have htext : (toString (Int.ofNat n)).toList = Nat.toDigits 10 n := toList_toString_nat n
    rw [htext, lexFrom_toDigits n hrest, readLexemes_cons]
    change (readWord _ stack).bind _ = _
    rw [readWord_toDigits, pushValue_of_ready hstack]
    rfl
  | negSucc n =>
    have htext : (toString (Int.negSucc n)).toList = '-' :: Nat.toDigits 10 (n + 1) := by
      rw [← toList_toString_nat]
      exact String.toList_append
    rw [htext, List.cons_append, lexFrom_outside, if_neg (by decide), if_neg (by decide)]
    change readLexemes stack (.sign '-' :: lexFrom .outside [] _) = _
    rw [lexFrom_toDigits _ hrest, readLexemes_cons]
    change readLexemes (.minus :: stack) _ = _
    rw [readLexemes_cons]
    change (readWord _ (.minus :: stack)).bind _ = _
    rw [readWord_toDigits]
    rfl

/-! ### Text literals -/

/-- A character of a literal stays in its quotes. -/
theorem lexFrom_literalChar (begun : List Char) (c : Char) (rest : List Char) :
    lexFrom (.inside '\'') begun (literalChar c ++ rest)
      = lexFrom (.inside '\'') (begun ++ literalChar c) rest := by
  unfold literalChar
  split_ifs with h0 hslash hn hr hz hdouble hquote
  -- what is not escaped is neither a backslash nor the quote
  case neg =>
    rw [List.cons_append, lexFrom_quoted (by simp)]
    simp [Region.step, hslash, hquote]
  all_goals
    rw [List.cons_append, lexFrom_quoted (by simp)]
    simp [Region.step, lexFrom_quoted]

theorem lexFrom_literalChars (begun cs rest : List Char) :
    lexFrom (.inside '\'') begun (cs.flatMap literalChar ++ rest)
      = lexFrom (.inside '\'') (begun ++ cs.flatMap literalChar) rest := by
  induction cs generalizing begun with
  | nil => simp
  | cons c cs ih =>
    rw [List.flatMap_cons, List.append_assoc, lexFrom_literalChar, ih, List.append_assoc]

/-- A text literal is one lexeme. -/
theorem lexFrom_quoteText (s : String) (rest : List Char) :
    lexFrom .outside [] ((quoteText s).toList ++ rest)
      = .quoted (quoteText s).toList :: lexFrom .outside [] rest := by
  unfold quoteText
  rw [String.toList_ofList, List.cons_append, List.append_assoc, lexFrom_outside,
    if_pos (by decide), lexFrom_literalChars, List.singleton_append, List.singleton_append,
    lexFrom_quoted (by simp), if_pos (by decide)]
  simp [wordLexemes]

theorem literalBody?_literalChar (c : Char) (cs : List Char) :
    literalBody? (literalChar c ++ cs) = (literalBody? cs).map (c :: ·) := by
  unfold literalChar
  split_ifs with h0 hslash hn hr hz hdouble hquote
  case neg =>
    rw [List.singleton_append, literalBody?]
    all_goals simp_all
  all_goals simp_all [literalBody?, unescaped]

theorem literalBody?_literalChars (cs : List Char) :
    literalBody? (cs.flatMap literalChar ++ ['\'']) = some cs := by
  induction cs with
  | nil => rfl
  | cons c cs ih => rw [List.flatMap_cons, List.append_assoc, literalBody?_literalChar, ih]; rfl

theorem readLiteral?_quoteText (s : String) : readLiteral? (quoteText s).toList = some s.toList := by
  unfold quoteText
  rw [String.toList_ofList]
  exact literalBody?_literalChars s.toList

theorem readsAs_text (s : String) : ReadsAs (quoteText s) (.text s) := by
  intro stack rest hstack _
  rw [lexFrom_quoteText, readLexemes_cons]
  change ((readLiteral? (quoteText s).toList).bind fun cs =>
    pushValue (.text (String.ofList cs)) stack).bind _ = _
  rw [readLiteral?_quoteText, Option.bind_some, pushValue_of_ready hstack, String.ofList_toList]
  rfl

/-! ### Calls -/

/-- The stack before the next argument of a call. The arguments that have been read are given from
the last to the first. -/
def beforeArgument (c : Constructor) (stack : List Pending) : List Value → List Pending
  | [] => .call c :: stack
  | v :: vs => .comma :: .value v :: beforeArgument c stack vs

theorem ready_beforeArgument (c : Constructor) (stack : List Pending) (vs : List Value) :
    Ready (beforeArgument c stack vs) := by
  cases vs <;> simp [Ready, beforeArgument]

theorem earlierArguments?_beforeArgument (c : Constructor) (stack : List Pending)
    (vs later : List Value) :
    earlierArguments? later (beforeArgument c stack vs) = some (vs.reverse ++ later, c, stack) := by
  induction vs generalizing later with
  | nil => rfl
  | cons v vs ih =>
    rw [beforeArgument, earlierArguments?, ih, List.reverse_cons, List.append_assoc]
    rfl

/-- The rest of a text after a call with some arguments. -/
def afterCall (c : Constructor) (stack : List Pending) (rest : List Char) (values : List Value) :
    Option (List Pending) :=
  ((c.build? values).bind (pushValue · stack)).bind
    (readLexemes · (lexFrom .outside [] rest))

/-- A closing parenthesis puts a call together. -/
theorem readLexemes_closing {stack stack' : List Pending} {values : List Value} {c : Constructor}
    (h : arguments? stack = some (values, c, stack')) (rest : List Char) :
    readLexemes stack (lexFrom .outside [] (')' :: rest)) = afterCall c stack' rest values := by
  have hlex : lexFrom .outside [] (')' :: rest) = .closing :: lexFrom .outside [] rest := by
    rw [lexFrom_outside, if_neg (by decide), if_neg (by decide)]
    rfl
  have hstep : readLexeme stack .closing
      = (arguments? stack).bind fun r => (r.2.1.build? r.1).bind (pushValue · r.2.2) := by
    cases stack with
    | nil => rfl
    | cons s stack => cases s <;> rfl
  rw [hlex, readLexemes_cons, hstep, h]
  rfl

/-- Arguments with commas between them are read one after another. -/
theorem readLexemes_arguments (c : Constructor) (stack : List Pending) (rest : List Char)
    {text : String} {v : Value} {texts : List String} {values : List Value} (hv : ReadsAs text v)
    (hvalues : List.Forall₂ ReadsAs texts values) (read : List Value) :
    readLexemes (beforeArgument c stack read)
        (lexFrom .outside [] ((", ".intercalate (text :: texts)).toList ++ ')' :: rest))
      = afterCall c stack rest (read.reverse ++ v :: values) := by
  induction hvalues generalizing text v read with
  | nil =>
    rw [String.intercalate_singleton, hv _ _ (ready_beforeArgument c stack read)
      (endsWord_cons (by decide) rest)]
    have hread : arguments? (.value v :: beforeArgument c stack read)
        = some (read.reverse ++ [v], c, stack) := earlierArguments?_beforeArgument c stack read [v]
    exact readLexemes_closing hread rest
  | @cons next w texts values hw hvalues ih =>
    have htext : (", ".intercalate (text :: next :: texts)).toList ++ ')' :: rest
        = text.toList ++ ',' :: ' '
          :: ((", ".intercalate (next :: texts)).toList ++ ')' :: rest) := by
      simp [String.intercalate_cons_cons]
    have hlex (cs : List Char) : lexFrom .outside [] (',' :: ' ' :: cs)
        = .sign ',' :: lexFrom .outside [] cs := by
      rw [lexFrom_outside, if_neg (by decide), if_neg (by decide), lexFrom_outside,
        if_neg (by decide), if_neg (by decide)]
      rfl
    rw [htext, hv _ _ (ready_beforeArgument c stack read) (endsWord_cons (by decide) _), hlex,
      readLexemes_cons]
    change readLexemes (beforeArgument c stack (v :: read)) _ = _
    rw [ih hw, List.reverse_cons, List.append_assoc]
    rfl

/-- A call is read as what it builds from its arguments. -/
theorem readsAs_call {c : Constructor} {texts : List String} {values : List Value} {v : Value}
    (hvalues : List.Forall₂ ReadsAs texts values) (hv : c.build? values = some v) :
    ReadsAs (c.name ++ "(" ++ ", ".intercalate texts ++ ")") v := by
  intro stack rest hstack _
  have hdone : afterCall c stack rest values
      = readLexemes (.value v :: stack) (lexFrom .outside [] rest) := by
    rw [afterCall, hv, Option.bind_some, pushValue_of_ready hstack]
    rfl
  have hopen (cs : List Char) : readLexemes stack
      (lexFrom .outside [] (c.name.toList ++ '(' :: cs))
        = readLexemes (beforeArgument c stack []) (lexFrom .outside [] cs) := by
    have hname : ∀ d ∈ c.name.toList, isQuote d = false ∧ isLexemeChar d = true :=
      wordChars_of_all (by cases c <;> decide)
    rw [lexFrom_word hname (endsWord_cons (by decide) cs), lexFrom_outside, if_neg (by decide),
      if_neg (by decide)]
    cases c <;> rfl
  have htext : (c.name ++ "(" ++ ", ".intercalate texts ++ ")").toList ++ rest
      = c.name.toList ++ '(' :: ((", ".intercalate texts).toList ++ ')' :: rest) := by
    simp
  rw [htext, hopen, ← hdone]
  cases hvalues with
  | nil => exact readLexemes_closing rfl rest
  | cons hfirst hothers => exact readLexemes_arguments c stack rest hfirst hothers []

/-! ## Values -/

/-- A value made of null, whole numbers and texts by lists and dictionaries. -/
inductive Constructible : Value → Prop where
  | null : Constructible .null
  | int (n : Int) : Constructible (.int n)
  | text (s : String) : Constructible (.text s)
  | list {items : List Value} (h : ∀ x ∈ items, Constructible x) : Constructible (.list items)
  | dict {entries : List (String × Value)} (h : ∀ e ∈ entries, Constructible e.2) :
    Constructible (.dict entries)

/-- What is written for a value. -/
structure Written (v : Value) (text : String) : Prop where
  written : jsonValue v = .ok text
  reads : ReadsAs text v
  inert : Inert text

theorem exists_jsonValues {items : List Value} (h : ∀ x ∈ items, ∃ text, Written x text) :
    ∃ texts, jsonValues items = .ok texts ∧ List.Forall₂ ReadsAs texts items
      ∧ ∀ t ∈ texts, Inert t := by
  induction items with
  | nil => exact ⟨[], rfl, .nil, List.forall_mem_nil _⟩
  | cons x items ih =>
    obtain ⟨text, hwritten, hreads, hinert⟩ := h x List.mem_cons_self
    obtain ⟨texts, htexts, hall, hinerts⟩ := ih fun y hy => h y (List.mem_cons_of_mem x hy)
    refine ⟨text :: texts, ?_, .cons hreads hall, List.forall_mem_cons.mpr ⟨hinert, hinerts⟩⟩
    rw [jsonValues, hwritten, htexts]
    rfl

/-- The keys and values of a dictionary as arguments. -/
def flattened (entries : List (String × Value)) : List Value :=
  entries.flatMap fun e => [.text e.1, e.2]

theorem pairUp?_flattened (entries : List (String × Value)) :
    pairUp? (flattened entries) = some entries := by
  induction entries with
  | nil => rfl
  | cons e entries ih =>
    change (pairUp? (flattened entries)).map ((e.1, e.2) :: ·) = _
    rw [ih]
    rfl

/-- Pairs that are joined and then put in a row are their parts in a row. -/
theorem intercalate_pairs (separator : String) (pairs : List (String × String)) :
    separator.intercalate (pairs.map fun p => p.1 ++ separator ++ p.2)
      = separator.intercalate (pairs.flatMap fun p => [p.1, p.2]) := by
  induction pairs with
  | nil => rfl
  | cons p pairs ih =>
    cases pairs with
    | nil => simp [String.intercalate_cons_cons]
    | cons q pairs =>
      rw [List.map_cons, List.map_cons, String.intercalate_cons_cons, ← List.map_cons
        (f := fun p : String × String => p.1 ++ separator ++ p.2), ih]
      simp [String.intercalate_cons_cons, String.append_assoc]

/-- The entries of a dictionary are written as twice as many arguments. -/
theorem exists_jsonPairs {entries : List (String × Value)}
    (h : ∀ e ∈ entries, ∃ text, Written e.2 text) :
    ∃ pairs : List (String × String),
      jsonPairs entries = .ok (pairs.map fun p => p.1 ++ ", " ++ p.2)
      ∧ List.Forall₂ ReadsAs (pairs.flatMap fun p => [p.1, p.2]) (flattened entries)
      ∧ ∀ t ∈ pairs.flatMap fun p => [p.1, p.2], Inert t := by
  induction entries with
  | nil => exact ⟨[], rfl, .nil, List.forall_mem_nil _⟩
  | cons e entries ih =>
    obtain ⟨key, v⟩ := e
    obtain ⟨text, hwritten, hreads, hinert⟩ := h (key, v) List.mem_cons_self
    obtain ⟨pairs, hpairs, hall, hinerts⟩ := ih fun e he => h e (List.mem_cons_of_mem _ he)
    refine ⟨(quoteText key, text) :: pairs, ?_, .cons (readsAs_text key) (.cons hreads hall), ?_⟩
    · rw [jsonPairs, hwritten, hpairs]
      rfl
    · exact List.forall_mem_cons.mpr
        ⟨(sealed_quoteText key).inert, List.forall_mem_cons.mpr ⟨hinert, hinerts⟩⟩

theorem inert_call {c : Constructor} {texts : List String} (h : ∀ t ∈ texts, Inert t) :
    Inert (c.name ++ "(" ++ ", ".intercalate texts ++ ")") := by
  have hname : Inert (c.name ++ "(") := by cases c <;> decide
  exact (hname.append (Inert.intercalate (by decide) h)).append (by decide)

/-- Every value of null, whole numbers and texts is written, and as what it is read as. -/
theorem exists_written {v : Value} (h : Constructible v) : ∃ text, Written v text := by
  induction h with
  | null => exact ⟨_, rfl, readsAs_null, by decide⟩
  | int n => exact ⟨_, rfl, readsAs_int n, (sealed_toString_int n).inert⟩
  | text s => exact ⟨_, rfl, readsAs_text s, (sealed_quoteText s).inert⟩
  | @list items _ ih =>
    obtain ⟨texts, htexts, hall, hinerts⟩ := exists_jsonValues ih
    refine ⟨_, ?_, readsAs_call (c := .array) hall rfl, inert_call hinerts⟩
    rw [jsonValue, htexts]
    rfl
  | @dict entries _ ih =>
    obtain ⟨pairs, hpairs, hall, hinerts⟩ := exists_jsonPairs ih
    refine ⟨_, ?_, readsAs_call (c := .object) hall (v := .dict entries) ?_, inert_call hinerts⟩
    · rw [jsonValue, hpairs, ← intercalate_pairs]
      rfl
    · rw [Constructor.build?, pairUp?_flattened]
      rfl

theorem Written.readJson? {v : Value} {text : String} (h : Written v text) :
    readJson? text = some v := by
  have hread := h.reads [] [] (by simp [Ready]) endsWord_nil
  rw [List.append_nil] at hread
  unfold Sql.readJson? lexemes
  rw [hread]
  rfl

/-! ## Calls within a query -/

/-- A text that is emitted as an output column as it is, and takes no value of the caller there:
neither as the text of a column nor, if it is let through, as an expression. -/
structure TakesNothing (text : String) : Prop where
  column : ∀ (label : String) (plan : BindPlan),
    Query.fieldTexts [(label, .column text)] plan = .ok ([text ++ " AS " ++ quoteName label], plan)
  raw : ∀ (label : String) (plan : BindPlan) (r : List String × BindPlan),
    Query.fieldTexts [(label, .raw text)] plan = .ok r →
      r = ([text ++ " AS " ++ quoteName label], plan)

theorem takesNothing_of_expression {text : String} (hexpression : isExpression text = true)
    (hinert : Inert text) : TakesNothing text := by
  have hcolumn : Sql.column text = text := if_pos hexpression
  have hplan (plan : BindPlan) (label : String) :
      plan.extend [.caller text, .fixed (" AS " ++ quoteName label)] = plan := by
    simp [BindPlan.extend, Layout.callers, Piece.callers, Piece.slots, hinert.2,
      BindPlan.callerSlots]
  have htext (label : String) : Layout.text [.caller text, .fixed (" AS " ++ quoteName label)]
      = text ++ " AS " ++ quoteName label := by
    simp [Piece.text, String.append_assoc]
  refine ⟨fun label plan => ?_, fun label plan r h => ?_⟩
  · rw [Query.fieldTexts_composes]
    simp [Query.fieldIssues, Query.fieldLayouts, hcolumn, htext, hplan]
  · rw [Query.fieldTexts_composes, outcome_eq_ok_iff] at h
    rw [← h.2]
    simp [Query.fieldLayouts, htext, hplan]

/-- A call is taken for an expression. -/
theorem isExpression_call (c : Constructor) (inner : String) :
    isExpression (c.name ++ "(" ++ inner ++ ")") = true := by
  have hopening : '(' ∈ (c.name ++ "(" ++ inner ++ ")").toList := by simp
  exact List.any_eq_true.mpr ⟨'(', hopening, by decide⟩

theorem isExpression_dict {entries : List (String × Value)} {text : String}
    (h : jsonValue (.dict entries) = .ok text) : isExpression text = true := by
  rw [jsonValue] at h
  cases hpairs : jsonPairs entries with
  | error e =>
    rw [hpairs] at h
    cases h
  | ok pairs =>
    rw [hpairs] at h
    obtain rfl := Except.ok.inj h
    exact isExpression_call .object _

theorem isExpression_list {items : List Value} {text : String}
    (h : jsonValue (.list items) = .ok text) : isExpression text = true := by
  rw [jsonValue] at h
  cases hvalues : jsonValues items with
  | error e =>
    rw [hvalues] at h
    cases h
  | ok texts =>
    rw [hvalues] at h
    obtain rfl := Except.ok.inj h
    exact isExpression_call .array _

/-- A call of a constructor from which a value can be read back, and which takes no values of its
own to the statement it stands in. -/
structure ReadBack (v : Value) (text : String) : Prop where
  reads : readJson? text = some v
  closed : QuoteClosed text
  unheld : countPlaceholders text = 0
  taken : TakesNothing text

theorem Written.readBack {v : Value} {text : String} (h : Written v text)
    (hexpression : isExpression text = true) : ReadBack v text :=
  ⟨h.readJson?, h.inert.1, h.inert.2, takesNothing_of_expression hexpression h.inert⟩

/-- Whatever dictionaries and lists are made of null, whole numbers and texts, they are written as
calls of constructors that read back as they were, with their keys in order. No two of them are
written alike, and the text is closed and takes no value of the caller. -/
theorem json_calls_read_back :
    (∀ entries, Constructible (.dict entries) →
      ∃ text, jsonObject entries = .ok text ∧ ReadBack (.dict entries) text)
    ∧ (∀ items, Constructible (.list items) →
      ∃ text, jsonArray items = .ok text ∧ ReadBack (.list items) text)
    ∧ ∀ v w, Constructible v → Constructible w → jsonValue v = jsonValue w → v = w := by
  refine ⟨fun entries h => ?_, fun items h => ?_, fun v w hv hw heq => ?_⟩
  · obtain ⟨text, htext⟩ := exists_written h
    exact ⟨text, htext.written, htext.readBack (isExpression_dict htext.written)⟩
  · obtain ⟨text, htext⟩ := exists_written h
    exact ⟨text, htext.written, htext.readBack (isExpression_list htext.written)⟩
  · obtain ⟨text, htext⟩ := exists_written hv
    obtain ⟨text', htext'⟩ := exists_written hw
    obtain rfl : text = text' :=
      Except.ok.inj (htext.written.symm.trans (heq.trans htext'.written))
    exact Option.some.inj (htext.readJson?.symm.trans htext'.readJson?)

/-- A note on an order: a text that looks like a call, with a placeholder and both quotes. -/
def orderNote : List (String × Value) :=
  [("it's", .text "JSON_OBJECT('a', ?)"), ("sum", .int (-12)),
    ("rows", .list [.null, .list [], .dict [("\\", .text "a,\"b\"")]])]

theorem orderNote_constructible : Constructible (.dict orderNote) := by
  refine .dict fun e he => ?_
  simp only [orderNote, List.mem_cons, List.not_mem_nil, or_false] at he
  rcases he with rfl | rfl | rfl
  · exact .text _
  · exact .int _
  · refine .list fun x hx => ?_
    simp only [List.mem_cons, List.not_mem_nil, or_false] at hx
    rcases hx with rfl | rfl | rfl
    · exact .null
    · exact .list fun x hx => by cases hx
    · exact .dict fun e he => by cases List.mem_singleton.mp he; exact .text _

/-- The note is read back. -/
theorem orderNote_read_back :
    Constructible (.dict orderNote)
      ∧ jsonObject orderNote = .ok ("JSON_OBJECT('it\\'s', 'JSON_OBJECT(\\'a\\', ?)', 'sum', -12, "
        ++ "'rows', JSON_ARRAY(NULL, JSON_ARRAY(), JSON_OBJECT('\\\\', 'a,\\\"b\\\"')))")
      ∧ ∃ text, jsonObject orderNote = .ok text ∧ ReadBack (.dict orderNote) text :=
  ⟨orderNote_constructible, rfl, json_calls_read_back.1 orderNote orderNote_constructible⟩

end SqlComposer.Sql
