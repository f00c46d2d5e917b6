import SqlComposer.Proofs.Lexemes

/-!
# How a condition is read

A condition is made of atoms with `NOT`, `AND`, `OR` and parentheses. `NOT` binds more tightly
than `AND`, and `AND` more tightly than `OR`. `Reads` is this grammar over lexemes, one level of
binding after the other, and `Reads.unique` says that it leaves no choice: a text is read as one
condition at most.

An atom is whatever has no connective outside its own brackets. Brackets are parentheses, and
`CASE` with its `END`; the `AND` of a `BETWEEN` is no connective.
-/

set_option autoImplicit false

namespace SqlComposer.Sql

/-! ## Brackets -/

/-- A bracket that is open. -/
inductive Bracket where
  | paren
  | case
  deriving DecidableEq, Repr

/-- The brackets that are open, the innermost first. -/
abbrev Nesting := List Bracket

/-- The open brackets after one more lexeme, unless a bracket is closed that is not open. -/
def Nesting.step : Nesting → Lexeme → Option Nesting
  | n, .opening => some (.paren :: n)
  | .paren :: n, .closing => some n
  | _, .closing => none
  | n, .caseOpening => some (.case :: n)
  | .case :: n, .caseClosing => some n
  | n, _ => some n

/-- The open brackets after some lexemes. -/
def Nesting.after (n : Nesting) (ls : List Lexeme) : Option Nesting := ls.foldlM Nesting.step n

/-- Where a scan of an atom stands: the open brackets, and whether the `AND` of a `BETWEEN` is
still to come. -/
structure Progress where
  nesting : Nesting
  awaiting : Bool
  deriving DecidableEq, Repr

/-- Where a scan of an atom begins and ends. -/
def Progress.start : Progress := ⟨[], false⟩

/-- The scan after one more lexeme, unless that is a connective outside brackets. -/
def Progress.step (p : Progress) (x : Lexeme) : Option Progress :=
  if p.nesting = [] then
    match x with
    | .or => none
    | .xor => none
    | .and => if p.awaiting then some .start else none
    | .between => if p.awaiting then none else some ⟨[], true⟩
    | x => (Nesting.step [] x).map (⟨·, p.awaiting⟩)
  else (p.nesting.step x).map (⟨·, p.awaiting⟩)

/-- The scan after some lexemes. -/
def Progress.after (p : Progress) (ls : List Lexeme) : Option Progress :=
  ls.foldlM Progress.step p

/-- Whether one pair of parentheses encloses all of some lexemes. -/
def enclosed : List Lexeme → Bool
  | .opening :: rest =>
    rest.getLast? == some .closing && Nesting.after [] rest.dropLast == some []
  | _ => false

/-- Whether a sign stands twice in a row. -/
def doubled (c : Char) : List Lexeme → Bool
  | x :: y :: rest => (x == .sign c && y == .sign c) || doubled c (y :: rest)
  | _ => false

/-- What makes some lexemes an atom. -/
structure IsAtom (ls : List Lexeme) : Prop where
  nonempty : ls ≠ []
  /-- It is no negation. -/
  unnegated : ls.head? ≠ some .not
  /-- It has no connective outside brackets and closes all of these. -/
  closed : Progress.start.after ls = some .start
  /-- It is no condition in parentheses. -/
  bare : enclosed ls = false
  /-- It has none of the connectives that are written with signs. -/
  wordsOnly : doubled '|' ls = false ∧ doubled '&' ls = false

instance (ls : List Lexeme) : Decidable (IsAtom ls) :=
  decidable_of_iff
    (ls ≠ [] ∧ ls.head? ≠ some .not ∧ Progress.start.after ls = some .start
      ∧ enclosed ls = false ∧ doubled '|' ls = false ∧ doubled '&' ls = false)
    ⟨fun ⟨h₁, h₂, h₃, h₄, h₅⟩ => ⟨h₁, h₂, h₃, h₄, h₅⟩,
      fun ⟨h₁, h₂, h₃, h₄, h₅⟩ => ⟨h₁, h₂, h₃, h₄, h₅⟩⟩

example : IsAtom (lexemes "price BETWEEN ? AND ?") := by decide

example : ¬ IsAtom (lexemes "price > ? AND price < ?") := by decide

/-! ## Conditions -/

/-- A condition. -/
inductive Condition where
  | atom (text : List Lexeme)
  | not (c : Condition)
  | and (c d : Condition)
  | or (c d : Condition)
  /-- A condition in parentheses. -/
  | group (c : Condition)
  deriving DecidableEq, Repr

/-- How tightly a condition is bound. -/
inductive Level where
  /-- An atom, a negation or a group. -/
  | operand
  /-- Operands with `AND` between them. -/
  | conjunction
  /-- Conjunctions with `OR` between them. -/
  | disjunction
  deriving DecidableEq, Repr

/-- How lexemes are read as a condition, level by level. -/
inductive Reads : Level → List Lexeme → Condition → Prop where
  | atom {ls : List Lexeme} (h : IsAtom ls) : Reads .operand ls (.atom ls)
  | not {ls : List Lexeme} {c : Condition} (h : Reads .operand ls c) :
    Reads .operand (.not :: ls) (.not c)
  | group {ls : List Lexeme} {c : Condition} (h : Reads .disjunction ls c) :
    Reads .operand (.opening :: (ls ++ [.closing])) (.group c)
  | operand {ls : List Lexeme} {c : Condition} (h : Reads .operand ls c) :
    Reads .conjunction ls c
  | and {ls ms : List Lexeme} {c d : Condition} (h : Reads .operand ls c)
    (h' : Reads .conjunction ms d) : Reads .conjunction (ls ++ .and :: ms) (.and c d)
  | conjunction {ls : List Lexeme} {c : Condition} (h : Reads .conjunction ls c) :
    Reads .disjunction ls c
  | or {ls ms : List Lexeme} {c d : Condition} (h : Reads .conjunction ls c)
    (h' : Reads .disjunction ms d) : Reads .disjunction (ls ++ .or :: ms) (.or c d)

/-- A text that is read as a condition. -/
structure ReadAs (text : String) (c : Condition) : Prop where
  quoteClosed : QuoteClosed text
  reads : Reads .disjunction (lexemes text) c

/-! ## Brackets of what is read -/

theorem Nesting.after_append (n : Nesting) (ls ms : List Lexeme) :
    n.after (ls ++ ms) = n.after ls >>= fun n' => n'.after ms :=
  List.foldlM_append

theorem Progress.after_append (p : Progress) (ls ms : List Lexeme) :
    p.after (ls ++ ms) = p.after ls >>= fun p' => p'.after ms :=
  List.foldlM_append

/-- A scan keeps the brackets. -/
theorem Progress.nesting_step {p p' : Progress} {x : Lexeme} (h : p.step x = some p') :
    p.nesting.step x = some p'.nesting := by
  obtain ⟨n, awaiting⟩ := p
  unfold step at h
  by_cases hn : n = []
  · subst hn
    rw [if_pos rfl] at h
    cases x with
    | or => exact absurd h (by simp)
    | xor => exact absurd h (by simp)
    | and =>
      cases awaiting with
      | false => exact absurd h (by simp)
      | true =>
        cases h
        rfl
    | between =>
      cases awaiting with
      | false =>
        cases h
        rfl
      | true => exact absurd h (by simp)
    | _ =>
      obtain ⟨n', hstep, rfl⟩ := Option.map_eq_some_iff.mp h
      exact hstep
  · rw [if_neg hn] at h
    obtain ⟨n', hstep, rfl⟩ := Option.map_eq_some_iff.mp h
    exact hstep

theorem Progress.nesting_after {p p' : Progress} {ls : List Lexeme} (h : p.after ls = some p') :
    p.nesting.after ls = some p'.nesting := by
  induction ls generalizing p with
  | nil =>
    cases h
    rfl
  | cons x ls ih =>
    unfold after at h
    rw [List.foldlM_cons] at h
    obtain ⟨q, hstep, hrest⟩ := Option.bind_eq_some_iff.mp h
    unfold Nesting.after
    rw [List.foldlM_cons, nesting_step hstep]
    exact ih hrest

/-- What is balanced outside brackets is so in parentheses. -/
theorem Nesting.step_in_parens {n n' : Nesting} {x : Lexeme} (h : n.step x = some n') :
    Nesting.step (n ++ [.paren]) x = some (n' ++ [.paren]) := by
  cases n with
  | nil =>
    -- Only a closing parenthesis would look at the one that has been added.
    cases x with
    | closing => exact nomatch h
    | _ =>
      obtain rfl := Option.some.inj h
      rfl
  | cons b n =>
    cases b with
    | paren =>
      cases x with
      | _ =>
        obtain rfl := Option.some.inj h
        rfl
    | case =>
      cases x with
      | closing => exact nomatch h
      | _ =>
        obtain rfl := Option.some.inj h
        rfl

/-- In parentheses a scan of an atom passes over what is balanced. -/
theorem Progress.step_in_parens {n n' : Nesting} {x : Lexeme} (awaiting : Bool)
    (h : n.step x = some n') :
    Progress.step ⟨n ++ [.paren], awaiting⟩ x = some ⟨n' ++ [.paren], awaiting⟩ := by
  have hne : n ++ [Bracket.paren] ≠ [] := by simp
  unfold step
  rw [if_neg hne, Nesting.step_in_parens h]
  rfl

theorem Progress.after_in_parens {n n' : Nesting} {ls : List Lexeme} (awaiting : Bool)
    (h : n.after ls = some n') :
    Progress.after ⟨n ++ [.paren], awaiting⟩ ls = some ⟨n' ++ [.paren], awaiting⟩ := by
  induction ls generalizing n with
  | nil =>
    cases h
    rfl
  | cons x ls ih =>
    unfold Nesting.after at h
    rw [List.foldlM_cons] at h
    obtain ⟨m, hstep, hrest⟩ := Option.bind_eq_some_iff.mp h
    unfold after
    rw [List.foldlM_cons, step_in_parens awaiting hstep]
    exact ih hrest

/-- What is balanced is scanned like an atom once it stands in parentheses. -/
theorem Progress.after_group {ls : List Lexeme} (h : Nesting.after [] ls = some []) :
    Progress.start.after (.opening :: (ls ++ [.closing])) = some .start := by
  have hinside := after_in_parens false h
  have hopen : Progress.start.step .opening = some ⟨[.paren], false⟩ := rfl
  unfold after at hinside ⊢
  rw [List.foldlM_cons, hopen]
  change List.foldlM step _ _ = _
  rw [List.foldlM_append, show (⟨[.paren], false⟩ : Progress) = ⟨[] ++ [.paren], false⟩ from rfl,
    hinside]
  rfl

/-- What is read as a condition closes its brackets, and an operand is scanned like an atom. -/
theorem Reads.balanced {level : Level} {ls : List Lexeme} {c : Condition}
    (h : Reads level ls c) :
    Nesting.after [] ls = some [] ∧ (level = .operand → Progress.start.after ls = some .start) := by
  induction h with
  | atom h => exact ⟨Progress.nesting_after h.closed, fun _ => h.closed⟩
  | not h ih =>
    refine ⟨ih.1, fun _ => ?_⟩
    exact ih.2 rfl
  | group h ih =>
    have hgroup := Progress.after_group ih.1
    exact ⟨Progress.nesting_after hgroup, fun _ => hgroup⟩
  | operand h ih => exact ⟨ih.1, fun h => nomatch h⟩
  | conjunction h ih => exact ⟨ih.1, fun h => nomatch h⟩
  | and h h' ih ih' =>
    refine ⟨?_, fun h => nomatch h⟩
    rw [Nesting.after_append, ih.1]
    exact ih'.1
  | or h h' ih ih' =>
    refine ⟨?_, fun h => nomatch h⟩
    rw [Nesting.after_append, ih.1]
    exact ih'.1

/-! ## Reading leaves no choice -/

/-- The connectives that can follow a condition of a level. -/
def Level.followers : Level → List Lexeme
  | .operand => [.and, .or]
  | .conjunction => [.or]
  | .disjunction => []

/-- Whether a condition of a level can end before some lexemes. -/
def Level.Stops (level : Level) (rest : List Lexeme) : Prop :=
  ∀ x ∈ rest.head?, x ∈ level.followers

/-- An operand is not followed by one of its own lexemes. -/
theorem eq_nil_of_stops {ls ms rest : List Lexeme} (hls : Progress.start.after ls = some .start)
    (hms : Progress.start.after (ls ++ ms) = some .start)
    (hstops : Level.operand.Stops (ms ++ rest)) : ms = [] := by
  cases ms with
  | nil => rfl
  | cons x ms =>
    have hx : x ∈ [Lexeme.and, .or] := hstops x rfl
    have hnone : Progress.start.step x = none := by
      rcases List.mem_cons.mp hx with rfl | hx
      · rfl
      · obtain rfl := List.mem_singleton.mp hx
        rfl
    rw [Progress.after_append, hls] at hms
    change Progress.start.after (x :: ms) = _ at hms
    unfold Progress.after at hms
    rw [List.foldlM_cons, hnone] at hms
    exact nomatch hms

/-- Two operands at the front of the same lexemes are the same. -/
theorem operand_unique {ls ms rest rest' : List Lexeme}
    (hls : Progress.start.after ls = some .start) (hms : Progress.start.after ms = some .start)
    (heq : ls ++ rest = ms ++ rest') (hstops : Level.operand.Stops rest)
    (hstops' : Level.operand.Stops rest') : ls = ms := by
  rcases List.append_eq_append_iff.mp heq with ⟨more, rfl, rfl⟩ | ⟨more, rfl, rfl⟩
  · rw [eq_nil_of_stops hls hms hstops, List.append_nil]
  · rw [eq_nil_of_stops hms hls hstops', List.append_nil]

/-- A condition in parentheses is no atom. -/
theorem enclosed_of_balanced {ls : List Lexeme} (h : Nesting.after [] ls = some []) :
    enclosed (.opening :: (ls ++ [.closing])) = true := by
  simp [enclosed, h]

namespace Level

theorem stops_nil (level : Level) : level.Stops [] := by
  intro x hx
  exact nomatch hx

theorem operand_stops_and (ls : List Lexeme) : operand.Stops (.and :: ls) := by
  rintro x ⟨rfl⟩
  exact List.mem_cons_self

theorem conjunction_stops_or (ls : List Lexeme) : conjunction.Stops (.or :: ls) := by
  rintro x ⟨rfl⟩
  exact List.mem_cons_self

theorem not_conjunction_stops_and (ls : List Lexeme) : ¬ conjunction.Stops (.and :: ls) := by
  intro h
  exact absurd (h .and rfl) (by decide)

theorem not_disjunction_stops_or (ls : List Lexeme) : ¬ disjunction.Stops (.or :: ls) := by
  intro h
  exact absurd (h .or rfl) List.not_mem_nil

/-- What ends a conjunction ends its last operand. -/
theorem Stops.operand {rest : List Lexeme} (h : conjunction.Stops rest) : operand.Stops rest :=
  fun x hx => List.mem_cons_of_mem _ (h x hx)

/-- What ends a disjunction ends its last conjunction. -/
theorem Stops.conjunction {rest : List Lexeme} (h : disjunction.Stops rest) :
    conjunction.Stops rest :=
  fun x hx => absurd (h x hx) List.not_mem_nil

end Level

/-- The condition of a level at the front of some lexemes is determined by what follows it. The
induction is on one of the two readings; its last rule is the last rule of the other, because
they agree on the first operand. -/
theorem Reads.unique_front {level : Level} {ls : List Lexeme} {c : Condition}
    (h : Reads level ls c) {ms rest rest' : List Lexeme} {d : Condition} (h' : Reads level ms d)
    (heq : ls ++ rest = ms ++ rest') (hstops : level.Stops rest) (hstops' : level.Stops rest') :
    ls = ms ∧ c = d := by
  induction h generalizing ms rest rest' d with
  | atom hatom =>
    obtain rfl := operand_unique hatom.closed (h'.balanced.2 rfl) heq hstops hstops'
    refine ⟨rfl, ?_⟩
    cases h' with
    | atom => rfl
    | not => exact absurd rfl hatom.unnegated
    | group h' => exact absurd hatom.bare (by simp [enclosed_of_balanced h'.balanced.1])
  | not h ih =>
    obtain rfl := operand_unique (h.not.balanced.2 rfl) (h'.balanced.2 rfl) heq hstops hstops'
    refine ⟨rfl, ?_⟩
    cases h' with
    | atom hatom => exact absurd rfl hatom.unnegated
    | not h' => rw [(ih h' rfl (Level.stops_nil _) (Level.stops_nil _)).2]
  | @group ls c h ih =>
    obtain rfl := operand_unique (h.group.balanced.2 rfl) (h'.balanced.2 rfl) heq hstops hstops'
    refine ⟨rfl, ?_⟩
    generalize hms : Lexeme.opening :: (ls ++ [.closing]) = ms at h'
    cases h' with
    | atom hatom =>
      rw [← hms] at hatom
      exact absurd hatom.bare (by simp [enclosed_of_balanced h.balanced.1])
    | not => exact nomatch hms
    | @group ms d h' =>
      have hinside : ls = ms := List.append_cancel_right (List.cons.inj hms).2
      rw [(ih h' (congrArg (· ++ []) hinside) (Level.stops_nil _) (Level.stops_nil _)).2]
  | operand h ih =>
    cases h' with
    | operand h' => exact ih h' heq hstops.operand hstops'.operand
    | and h' h'' =>
      rw [List.append_assoc] at heq
      obtain ⟨rfl, -⟩ := ih h' heq hstops.operand (Level.operand_stops_and _)
      rw [List.append_cancel_left heq] at hstops
      exact absurd hstops (Level.not_conjunction_stops_and _)
  | and h hrest ih ihrest =>
    rw [List.append_assoc] at heq
    cases h' with
    | operand h' =>
      obtain ⟨rfl, -⟩ := ih h' heq (Level.operand_stops_and _) hstops'.operand
      rw [← List.append_cancel_left heq] at hstops'
      exact absurd hstops' (Level.not_conjunction_stops_and _)
    | and h' h'' =>
      rw [List.append_assoc] at heq
      obtain ⟨rfl, rfl⟩ := ih h' heq (Level.operand_stops_and _) (Level.operand_stops_and _)
      have htail := (List.cons.inj (List.append_cancel_left heq)).2
      obtain ⟨rfl, rfl⟩ := ihrest h'' htail hstops hstops'
      exact ⟨rfl, rfl⟩
  | conjunction h ih =>
    cases h' with
    | conjunction h' => exact ih h' heq hstops.conjunction hstops'.conjunction
    | or h' h'' =>
      rw [List.append_assoc] at heq
      obtain ⟨rfl, -⟩ := ih h' heq hstops.conjunction (Level.conjunction_stops_or _)
      rw [List.append_cancel_left heq] at hstops
      exact absurd hstops (Level.not_disjunction_stops_or _)
  | or h hrest ih ihrest =>
    rw [List.append_assoc] at heq
    cases h' with
    | conjunction h' =>
      obtain ⟨rfl, -⟩ := ih h' heq (Level.conjunction_stops_or _) hstops'.conjunction
      rw [← List.append_cancel_left heq] at hstops'
      exact absurd hstops' (Level.not_disjunction_stops_or _)
    | or h' h'' =>
      rw [List.append_assoc] at heq
      obtain ⟨rfl, rfl⟩ := ih h' heq (Level.conjunction_stops_or _) (Level.conjunction_stops_or _)
      have htail := (List.cons.inj (List.append_cancel_left heq)).2
      obtain ⟨rfl, rfl⟩ := ihrest h'' htail hstops hstops'
      exact ⟨rfl, rfl⟩

/-- A text is read as one condition at most. -/
theorem ReadAs.unique {text : String} {c d : Condition} (h : ReadAs text c) (h' : ReadAs text d) :
    c = d :=
  (h.reads.unique_front h'.reads rfl (Level.stops_nil _) (Level.stops_nil _)).2

end SqlComposer.Sql
