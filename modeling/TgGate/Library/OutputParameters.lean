import Mathlib.Data.List.Forall2
import TgGate.Library.JsonDocument

namespace TgGate.Library

/-!
# Calls with output parameters

A C++ function that returns whether it succeeded hands its result, or an error
text, back through variables of its caller.  Each of its statements goes on to
the next one, returns from the call, or throws.

`Follows` relates a statement to a step of a parser that keeps its result to
itself; `Delivers` relates a whole body to a parser.  Each kind of statement has
a rule.
-/

/-- The variables of the caller that a call may assign to. -/
structure Outputs (Value : Type) where
  output : Value
  error : Bytes

/-- How a statement ends if the next one is not reached. -/
inductive Exit where
  | returned (result : Bool)
  | thrown (exception : JsonException)
  deriving Repr, DecidableEq

/-- A statement, with the value that it computes for the next one. -/
def Statement (Value Local : Type) : Type :=
  Outputs Value → Except Exit Local × Outputs Value

namespace Statement

variable {Value Local : Type}

instance : Monad (Statement Value) where
  pure value := fun outputs => (.ok value, outputs)
  bind first next := fun outputs =>
    match first outputs with
    | (.ok value, outputs) => next value outputs
    | (.error exit, outputs) => (.error exit, outputs)

/-- The next statement runs if the first one does not end the call. -/
theorem bind_apply
    {Next : Type}
    (first : Statement Value Local)
    (next : Local → Statement Value Next)
    (outputs : Outputs Value) :
    (first >>= next) outputs =
      match first outputs with
      | (.ok value, outputs) => next value outputs
      | (.error exit, outputs) => (.error exit, outputs) :=
  rfl

/-- `return` with a result. -/
def returnResult (result : Bool) : Statement Value Local :=
  fun outputs => (.error (.returned result), outputs)

/-- Assign to the output parameter. -/
def assignOutput (value : Value) : Statement Value Unit :=
  fun outputs => (.ok (), { outputs with output := value })

/-- Assign to the error text. -/
def setError (error : Bytes) : Statement Value Unit :=
  fun outputs => (.ok (), { outputs with error := error })

/-- Call a JSON accessor. -/
def access (value : Except JsonException Local) : Statement Value Local :=
  fun outputs => (value.mapError .thrown, outputs)

/-- Set the error text and return false. -/
def reject (error : Bytes) : Statement Value Local := do
  setError error
  returnResult false

/-- `if (!condition) { error = ...; return false; }`. -/
def rejectUnless
    (condition : Bool)
    (error : Bytes) : Statement Value Unit :=
  if condition then pure () else reject error

/-- `catch (const nlohmann::json::exception&)`: reject. -/
def catchException
    (error : Bytes)
    (body : Statement Value Local) : Statement Value Local :=
  fun outputs =>
    match body outputs with
    | (.error (.thrown _), outputs) => reject error outputs
    | ended => ended

/-- Run the body of a function, which always returns or throws. -/
def call
    (body : Statement Value Empty)
    (outputs : Outputs Value) : Except JsonException Bool × Outputs Value :=
  match body outputs with
  | (.ok never, _) => nomatch never
  | (.error (.returned result), outputs) => (.ok result, outputs)
  | (.error (.thrown exception), outputs) => (.error exception, outputs)

end Statement

namespace ParseFailure

/-- How a call ends for a failure. -/
def exit : ParseFailure → Exit
  | .thrown exception => .thrown exception
  | .rejected _ => .returned false

/-- What a call leaves to its caller for a failure. -/
def report
    {Value : Type}
    (outputs : Outputs Value) : ParseFailure → Outputs Value
  | .thrown _ => outputs
  | .rejected error => { outputs with error := error }

end ParseFailure

open Statement

section Following

variable {Value Local Next : Type}

/-- A statement goes on with what a parser step accepts, or ends as it fails. -/
def Follows
    (statement : Statement Value Local)
    (step : Except ParseFailure Local) : Prop :=
  ∀ outputs,
    statement outputs =
      match step with
      | .ok value => (.ok value, outputs)
      | .error failure =>
          (.error failure.exit, failure.report outputs)

theorem follows_pure (value : Local) :
    Follows (pure value : Statement Value Local) (.ok value) := by
  intro outputs
  rfl

theorem follows_reject (error : Bytes) :
    Follows (reject error : Statement Value Local)
      (.error (.rejected error)) := by
  intro outputs
  rfl

theorem follows_rejectUnless
    (condition : Bool)
    (error : Bytes) :
    Follows (rejectUnless condition error : Statement Value Unit)
      (ParseFailure.require condition error) := by
  cases condition with
  | false =>
      exact follows_reject error
  | true =>
      exact follows_pure ()

theorem follows_access (value : Except JsonException Local) :
    Follows (access value : Statement Value Local)
      (ParseFailure.mayThrow value) := by
  intro outputs
  cases value <;> rfl

theorem Follows.bind
    {first : Statement Value Local}
    {step : Except ParseFailure Local}
    {next : Local → Statement Value Next}
    {nextStep : Local → Except ParseFailure Next}
    (follows : Follows first step)
    (nextFollows : ∀ value, Follows (next value) (nextStep value)) :
    Follows (first >>= next) (step >>= nextStep) := by
  intro outputs
  rw [bind_apply, follows outputs]
  cases step with
  | error failure =>
      rfl
  | ok value =>
      exact nextFollows value outputs

end Following

section Loops

variable {Value Item Seen Entry : Type}

/-- What a loop over entries has seen so far and what it has pushed. -/
structure Gathered (Seen Entry : Type) where
  seen : Seen
  parsed : List Entry := []

/-- A range-based loop that pushes an entry in every round. -/
def forEach
    (body :
      Gathered Seen Entry → Item → Statement Value (Gathered Seen Entry)) :
    Gathered Seen Entry → List Item → Statement Value (List Entry)
  | gathered, [] => pure gathered.parsed
  | gathered, item :: rest => do
      let gathered ← body gathered item
      forEach body gathered rest

/-- The round of a loop whose parser step gives an entry. -/
def gather
    (step : Seen → Item → Except ParseFailure Entry)
    (see : Seen → Entry → Seen)
    (gathered : Gathered Seen Entry)
    (item : Item) : Except ParseFailure (Gathered Seen Entry) := do
  let entry ← step gathered.seen item
  return {
    seen := see gathered.seen entry
    parsed := gathered.parsed ++ [entry]
  }

/-- A recursion that parses entries one after the other. -/
structure ParsesEntries
    (step : Seen → Item → Except ParseFailure Entry)
    (see : Seen → Entry → Seen)
    (parseAll : Seen → List Item → Except ParseFailure (List Entry)) :
    Prop where
  nil : ∀ seen, parseAll seen [] = .ok []
  cons :
    ∀ seen item rest,
      parseAll seen (item :: rest) = do
        let entry ← step seen item
        let others ← parseAll (see seen entry) rest
        return entry :: others

namespace ParsesEntries

variable {step : Seen → Item → Except ParseFailure Entry}
variable {see : Seen → Entry → Seen}
variable {parseAll : Seen → List Item → Except ParseFailure (List Entry)}

/-- A list is parsed by its first entry and then by the others. -/
theorem cons_eq_ok_iff
    (parses : ParsesEntries step see parseAll)
    {seen : Seen}
    {item : Item}
    {rest : List Item}
    {entries : List Entry} :
    parseAll seen (item :: rest) = .ok entries ↔
      ∃ entry others,
        step seen item = .ok entry ∧
          parseAll (see seen entry) rest = .ok others ∧
          entries = entry :: others := by
  rw [parses.cons]
  simp only [Json.bind_eq_ok_iff]
  constructor
  · rintro ⟨entry, stepped, others, parsed, shape⟩
    exact ⟨entry, others, stepped, parsed, (Except.ok.inj shape).symm⟩
  · rintro ⟨entry, others, stepped, parsed, rfl⟩
    exact ⟨entry, stepped, others, parsed, rfl⟩

/-- There is one entry for each item, in order. -/
theorem forall₂
    (parses : ParsesEntries step see parseAll)
    {seen : Seen}
    {items : List Item}
    {entries : List Entry}
    (parsed : parseAll seen items = .ok entries) :
    List.Forall₂ (fun item entry => ∃ seen, step seen item = .ok entry)
      items entries := by
  induction items generalizing seen entries with
  | nil =>
      rw [parses.nil] at parsed
      obtain rfl := Except.ok.inj parsed
      exact .nil
  | cons item rest inductionHypothesis =>
      obtain ⟨entry, others, stepped, restParsed, rfl⟩ :=
        parses.cons_eq_ok_iff.mp parsed
      exact .cons ⟨seen, stepped⟩ (inductionHypothesis restParsed)

/-- Entries that must have unseen keys have distinct ones. -/
theorem nodup
    {Key : Type}
    {key : Entry → Key}
    {keys : Seen → List Key}
    (parses : ParsesEntries step see parseAll)
    (fresh :
      ∀ {seen item entry},
        step seen item = .ok entry → key entry ∉ keys seen)
    (sees : ∀ seen entry, keys (see seen entry) = key entry :: keys seen)
    {seen : Seen}
    {items : List Item}
    {entries : List Entry}
    (parsed : parseAll seen items = .ok entries) :
    (entries.map key).Nodup ∧
      ∀ entry ∈ entries, key entry ∉ keys seen := by
  induction items generalizing seen entries with
  | nil =>
      rw [parses.nil] at parsed
      obtain rfl := Except.ok.inj parsed
      simp
  | cons item rest inductionHypothesis =>
      obtain ⟨entry, others, stepped, restParsed, rfl⟩ :=
        parses.cons_eq_ok_iff.mp parsed
      obtain ⟨othersDistinct, othersFresh⟩ :=
        inductionHypothesis restParsed
      simp only [sees, List.mem_cons, not_or] at othersFresh
      constructor
      · rw [List.map_cons, List.nodup_cons]
        refine ⟨?_, othersDistinct⟩
        intro repeated
        obtain ⟨other, member, same⟩ := List.mem_map.mp repeated
        exact (othersFresh other member).1 same
      · intro other member
        rcases List.mem_cons.mp member with rfl | inOthers
        · exact fresh stepped
        · exact (othersFresh other inOthers).2

/-- A loop that pushes entries follows the recursion that conses them. -/
theorem follows_forEach
    (parses : ParsesEntries step see parseAll)
    {body :
      Gathered Seen Entry → Item → Statement Value (Gathered Seen Entry)}
    (each :
      ∀ gathered item,
        Follows (body gathered item) (gather step see gathered item))
    (gathered : Gathered Seen Entry)
    (items : List Item) :
    Follows (forEach body gathered items)
      ((parseAll gathered.seen items).map (gathered.parsed ++ ·)) := by
  induction items generalizing gathered with
  | nil =>
      rw [parses.nil, Except.map, List.append_nil]
      exact follows_pure gathered.parsed
  | cons item rest inductionHypothesis =>
      have follows := (each gathered item).bind inductionHypothesis
      have sameStep :
          (gather step see gathered item >>= fun gathered =>
              (parseAll gathered.seen rest).map (gathered.parsed ++ ·)) =
            (parseAll gathered.seen (item :: rest)).map
              (gathered.parsed ++ ·) := by
        rw [parses.cons, gather]
        cases step gathered.seen item with
        | error failure =>
            rfl
        | ok entry =>
            simp only [bind, Except.bind, pure, Except.pure]
            cases parseAll (see gathered.seen entry) rest with
            | error failure =>
                rfl
            | ok others =>
                simp [Except.map]
      rw [← sameStep]
      exact follows

/-- The same of a loop that starts with nothing pushed. -/
theorem follows_forEach_start
    (parses : ParsesEntries step see parseAll)
    {body :
      Gathered Seen Entry → Item → Statement Value (Gathered Seen Entry)}
    (each :
      ∀ gathered item,
        Follows (body gathered item) (gather step see gathered item))
    (seen : Seen)
    (items : List Item) :
    Follows (forEach body { seen := seen } items)
      (parseAll seen items) := by
  have follows := parses.follows_forEach each { seen := seen } items
  have nothingPushed :
      (parseAll seen items).map (([] : List Entry) ++ ·) =
        parseAll seen items := by
    cases parseAll seen items <;> rfl
  rw [nothingPushed] at follows
  exact follows

end ParsesEntries

end Loops

section Delivery

variable {Value Local : Type}

/-- A body assigns what a parser accepts and returns true, or ends as it fails. -/
def Delivers
    (body : Statement Value Empty)
    (parser : Except ParseFailure Value) : Prop :=
  ∀ outputs,
    body outputs =
      match parser with
      | .ok value =>
          (.error (.returned true), { outputs with output := value })
      | .error failure =>
          (.error failure.exit, failure.report outputs)

theorem delivers_assignOutput (value : Value) :
    Delivers (assignOutput value >>= fun _ => returnResult true)
      (.ok value) := by
  intro outputs
  rfl

theorem Follows.delivers
    {first : Statement Value Local}
    {step : Except ParseFailure Local}
    {next : Local → Statement Value Empty}
    {parser : Local → Except ParseFailure Value}
    (follows : Follows first step)
    (nextDelivers : ∀ value, Delivers (next value) (parser value)) :
    Delivers (first >>= next) (step >>= parser) := by
  intro outputs
  rw [bind_apply, follows outputs]
  cases step with
  | error failure =>
      rfl
  | ok value =>
      exact nextDelivers value outputs

theorem Follows.catchException
    {statement : Statement Value Local}
    {step : Except ParseFailure Local}
    (follows : Follows statement step)
    (error : Bytes) :
    Follows (Statement.catchException error statement)
      (ParseFailure.rejectThrown error step) := by
  intro outputs
  simp only [Statement.catchException, follows outputs]
  rcases step with (exception | text) | value <;> rfl

theorem Delivers.catchException
    {body : Statement Value Empty}
    {parser : Except ParseFailure Value}
    (delivers : Delivers body parser)
    (error : Bytes) :
    Delivers (Statement.catchException error body)
      (ParseFailure.rejectThrown error parser) := by
  intro outputs
  simp only [Statement.catchException, delivers outputs]
  rcases parser with (exception | text) | value <;> rfl

/-- A value that is computed is delivered by assigning it at the end. -/
theorem Follows.delivers_assignOutput
    {statement : Statement Value Value}
    {parser : Except ParseFailure Value}
    (follows : Follows statement parser) :
    Delivers
      (statement >>= fun value => assignOutput value >>= fun _ =>
        returnResult true)
      parser := by
  have delivers := follows.delivers Library.delivers_assignOutput
  have sameParser :
      (parser >>= fun value => Except.ok value) = parser := by
    cases parser <;> rfl
  rw [sameParser] at delivers
  exact delivers

/-- What a caller sees of a call that delivers what a parser accepts. -/
def delivered
    (outputs : Outputs Value) :
    Except ParseFailure Value → Except JsonException Bool × Outputs Value
  | .ok value => (.ok true, { outputs with output := value })
  | .error (.rejected error) => (.ok false, { outputs with error := error })
  | .error (.thrown exception) => (.error exception, outputs)

theorem Delivers.call_eq
    {body : Statement Value Empty}
    {parser : Except ParseFailure Value}
    (delivers : Delivers body parser)
    (outputs : Outputs Value) :
    call body outputs = delivered outputs parser := by
  unfold call
  rw [delivers outputs]
  rcases parser with (exception | text) | value <;> rfl

/-- The output parameter is assigned only by a call that returns true. -/
theorem Delivers.output_unchanged
    {body : Statement Value Empty}
    {parser : Except ParseFailure Value}
    (delivers : Delivers body parser)
    {outputs : Outputs Value}
    (failed : (call body outputs).1 ≠ .ok true) :
    (call body outputs).2.output = outputs.output := by
  rw [delivers.call_eq] at failed ⊢
  rcases parser with (exception | text) | value
  · rfl
  · rfl
  · exact absurd rfl failed

/-- A call that returns true has assigned what the parser accepts. -/
theorem Delivers.parser_eq
    {body : Statement Value Empty}
    {parser : Except ParseFailure Value}
    (delivers : Delivers body parser)
    {outputs : Outputs Value}
    (succeeded : (call body outputs).1 = .ok true) :
    parser = .ok (call body outputs).2.output := by
  rw [delivers.call_eq] at succeeded ⊢
  rcases parser with (exception | text) | value
  · cases succeeded
  · cases succeeded
  · rfl

end Delivery

section Reporting

variable {Value Local : Type}

/-- Whatever a parser rejects it explains in a text. -/
def Explains (parser : Except ParseFailure Value) : Prop :=
  ∀ error, parser = .error (.rejected error) → error ≠ []

/-- No exception leaves a parser. -/
def Contained (parser : Except ParseFailure Value) : Prop :=
  ∀ exception, parser ≠ .error (.thrown exception)

theorem explains_ok (value : Value) :
    Explains (.ok value : Except ParseFailure Value) := by
  intro error impossible
  cases impossible

theorem contained_ok (value : Value) :
    Contained (.ok value : Except ParseFailure Value) := by
  intro exception impossible
  cases impossible

theorem explains_reject
    {error : Bytes}
    (text : error ≠ []) :
    Explains (.error (.rejected error) : Except ParseFailure Value) := by
  intro other same
  cases same
  exact text

theorem explains_require
    {condition : Bool}
    {error : Bytes}
    (text : error ≠ []) :
    Explains (ParseFailure.require condition error) := by
  cases condition with
  | false =>
      exact explains_reject text
  | true =>
      exact explains_ok ()

theorem explains_mayThrow (value : Except JsonException Value) :
    Explains (ParseFailure.mayThrow value) := by
  intro error rejected
  cases value <;> cases rejected

/-- An accessor is contained if it does not throw. -/
theorem contained_mayThrow_iff {value : Except JsonException Value} :
    Contained (ParseFailure.mayThrow value) ↔
      ∀ exception, value ≠ .error exception := by
  cases value with
  | error exception =>
      refine iff_of_false (fun contained => contained exception rfl) ?_
      exact fun never => never exception rfl
  | ok value =>
      refine iff_of_true (contained_ok value) ?_
      intro exception impossible
      cases impossible

theorem Explains.bind
    {first : Except ParseFailure Local}
    {next : Local → Except ParseFailure Value}
    (explains : Explains first)
    (nextExplains : ∀ value, Explains (next value)) :
    Explains (first >>= next) := by
  cases first with
  | error failure =>
      intro error rejected
      cases rejected
      exact explains error rfl
  | ok value =>
      exact nextExplains value

/-- What follows is contained, so the first step decides. -/
theorem contained_bind_iff
    {first : Except ParseFailure Local}
    {next : Local → Except ParseFailure Value}
    (nextContained : ∀ value, Contained (next value)) :
    Contained (first >>= next) ↔ Contained first := by
  cases first with
  | error failure =>
      constructor
      · intro contained exception thrown
        cases thrown
        exact contained exception rfl
      · intro contained exception thrown
        cases thrown
        exact contained exception rfl
  | ok value =>
      exact iff_of_true (nextContained value) (contained_ok value)

/-- A check before the other steps only shortens them. -/
theorem contained_require_bind_iff
    {condition : Bool}
    {error : Bytes}
    {next : Unit → Except ParseFailure Value} :
    Contained (ParseFailure.require condition error >>= next) ↔
      (condition = true → Contained (next ())) := by
  cases condition with
  | false =>
      refine iff_of_true ?_ (fun impossible => by cases impossible)
      intro exception thrown
      cases thrown
  | true =>
      exact ⟨fun contained _ => contained, fun contained => contained rfl⟩

/-- A check in front of steps that are contained is harmless. -/
theorem contained_of_require
    {condition : Bool}
    {error : Bytes}
    {next : Unit → Except ParseFailure Value}
    (contained : Contained (next ())) :
    Contained (ParseFailure.require condition error >>= next) :=
  contained_require_bind_iff.mpr fun _ => contained

theorem Explains.rejectThrown
    {parser : Except ParseFailure Value}
    (explains : Explains parser)
    {error : Bytes}
    (text : error ≠ []) :
    Explains (ParseFailure.rejectThrown error parser) := by
  rcases parser with (exception | other) | value
  · exact explains_reject text
  · exact explains
  · exact explains_ok value

theorem contained_rejectThrown
    (error : Bytes)
    (parser : Except ParseFailure Value) :
    Contained (ParseFailure.rejectThrown error parser) := by
  intro exception thrown
  rcases parser with (other | text) | value <;> cases thrown

/-- A call returns, and leaves a text if it returns false. -/
def ReportsByResult (body : Statement Value Empty) : Prop :=
  ∀ outputs,
    ∃ result,
      (call body outputs).1 = .ok result ∧
        (result = false → (call body outputs).2.error ≠ [])

/-- The calls of an explaining parser report unless an exception leaves it. -/
theorem Delivers.reportsByResult_iff
    [Nonempty Value]
    {body : Statement Value Empty}
    {parser : Except ParseFailure Value}
    (delivers : Delivers body parser)
    (explains : Explains parser) :
    ReportsByResult body ↔ Contained parser := by
  constructor
  · intro reports exception thrown
    obtain ⟨value⟩ := ‹Nonempty Value›
    obtain ⟨result, returned, -⟩ := reports ⟨value, []⟩
    rw [delivers.call_eq, thrown] at returned
    cases returned
  · intro contained outputs
    rw [delivers.call_eq]
    rcases parser with (exception | error) | value
    · exact absurd rfl (contained exception)
    · exact ⟨false, rfl, fun _ => explains error rfl⟩
    · exact ⟨true, rfl, fun impossible => by cases impossible⟩

end Reporting

end TgGate.Library
