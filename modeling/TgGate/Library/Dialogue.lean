import Mathlib.Data.List.Forall2
import Mathlib.Data.List.Induction

namespace TgGate.Library

/-!
# Dialogues

A dialogue is a sequential program that asks questions: given the answer to one
question it asks the next or comes to its end.  Where answers arrive is left to
whoever carries the dialogue out, so a thread that waits for each answer in
turn and the program that is handed all of them have the same meaning: the turn
that a list of answers leads to.
-/

/-- A dialogue asks or has come to its end. -/
inductive Turn (Inquiry Value : Type) where
  | asks (inquiry : Inquiry)
  | returns (value : Value)

/-- A sequential program that asks for what it needs. -/
structure Dialogue (Inquiry Question Answer Value : Type) where
  begins : Turn Inquiry Value
  question : Inquiry → Question
  resume : Inquiry → Answer → Turn Inquiry Value

namespace Dialogue

variable {Inquiry Question Answer Value : Type}

/-- The turn that answers lead to; an ended dialogue ignores them. -/
def turnFrom
    (dialogue : Dialogue Inquiry Question Answer Value) :
    Turn Inquiry Value → List Answer → Turn Inquiry Value
  | turn, [] => turn
  | .returns value, _ :: _ => .returns value
  | .asks inquiry, answer :: rest =>
      dialogue.turnFrom (dialogue.resume inquiry answer) rest

/-- The questions that the answers belong to. -/
def askedFrom
    (dialogue : Dialogue Inquiry Question Answer Value) :
    Turn Inquiry Value → List Answer → List Question
  | _, [] => []
  | .returns _, _ :: _ => []
  | .asks inquiry, answer :: rest =>
      dialogue.question inquiry ::
        dialogue.askedFrom (dialogue.resume inquiry answer) rest

variable (dialogue : Dialogue Inquiry Question Answer Value)

/-- The turn of the dialogue after these answers. -/
def turn (answers : List Answer) : Turn Inquiry Value :=
  dialogue.turnFrom dialogue.begins answers

/-- The questions answered so far. -/
def asked (answers : List Answer) : List Question :=
  dialogue.askedFrom dialogue.begins answers

@[simp] theorem turn_nil : dialogue.turn [] = dialogue.begins := by
  simp [turn, turnFrom]

@[simp] theorem asked_nil : dialogue.asked [] = [] := by
  simp [asked, askedFrom]

variable {dialogue}

@[simp] theorem turnFrom_returns
    (value : Value)
    (answers : List Answer) :
    dialogue.turnFrom (.returns value) answers = .returns value := by
  cases answers <;> rfl

@[simp] theorem askedFrom_returns
    (value : Value)
    (answers : List Answer) :
    dialogue.askedFrom (.returns value) answers = [] := by
  cases answers <;> rfl

theorem turnFrom_concat
    {start : Turn Inquiry Value}
    {answers : List Answer}
    {inquiry : Inquiry}
    (stands : dialogue.turnFrom start answers = .asks inquiry)
    (answer : Answer) :
    dialogue.turnFrom start (answers ++ [answer]) =
      dialogue.resume inquiry answer := by
  induction answers generalizing start with
  | nil =>
      cases start with
      | returns value =>
          cases stands
      | asks first =>
          cases stands
          simp [turnFrom]
  | cons earlier answers inductionHypothesis =>
      cases start with
      | returns value =>
          cases stands
      | asks first =>
          exact inductionHypothesis stands

theorem askedFrom_concat
    {start : Turn Inquiry Value}
    {answers : List Answer}
    {inquiry : Inquiry}
    (stands : dialogue.turnFrom start answers = .asks inquiry)
    (answer : Answer) :
    dialogue.askedFrom start (answers ++ [answer]) =
      dialogue.askedFrom start answers ++
        [dialogue.question inquiry] := by
  induction answers generalizing start with
  | nil =>
      cases start with
      | returns value =>
          cases stands
      | asks first =>
          cases stands
          simp [askedFrom]
  | cons earlier answers inductionHypothesis =>
      cases start with
      | returns value =>
          cases stands
      | asks first =>
          simp only [List.cons_append, askedFrom]
          rw [inductionHypothesis stands]

/-- The next answer resumes the inquiry that the dialogue stands at. -/
theorem turn_concat
    {answers : List Answer}
    {inquiry : Inquiry}
    (stands : dialogue.turn answers = .asks inquiry)
    (answer : Answer) :
    dialogue.turn (answers ++ [answer]) =
      dialogue.resume inquiry answer :=
  turnFrom_concat stands answer

theorem asked_concat
    {answers : List Answer}
    {inquiry : Inquiry}
    (stands : dialogue.turn answers = .asks inquiry)
    (answer : Answer) :
    dialogue.asked (answers ++ [answer]) =
      dialogue.asked answers ++ [dialogue.question inquiry] :=
  askedFrom_concat stands answer

/-- An ended dialogue asks nothing more. -/
theorem askedFrom_concat_of_returns
    {start : Turn Inquiry Value}
    {answers : List Answer}
    {value : Value}
    (ended : dialogue.turnFrom start answers = .returns value)
    (answer : Answer) :
    dialogue.askedFrom start (answers ++ [answer]) =
      dialogue.askedFrom start answers := by
  induction answers generalizing start with
  | nil =>
      cases start with
      | returns value =>
          rfl
      | asks first =>
          cases ended
  | cons earlier answers inductionHypothesis =>
      cases start with
      | returns value =>
          rfl
      | asks first =>
          simp only [List.cons_append, askedFrom]
          rw [inductionHypothesis ended]

theorem length_askedFrom_le
    (start : Turn Inquiry Value)
    (answers : List Answer) :
    (dialogue.askedFrom start answers).length ≤ answers.length := by
  induction answers generalizing start with
  | nil =>
      simp [askedFrom]
  | cons answer answers inductionHypothesis =>
      cases start with
      | returns value =>
          simp
      | asks inquiry =>
          simpa [askedFrom] using inductionHypothesis _

variable (dialogue) in
/-- Every question was answered by the answer the dialogue goes on with. -/
def CarriedOut
    (Answered : Question → Answer → Prop)
    (answers : List Answer) : Prop :=
  List.Forall₂ Answered (dialogue.asked answers) answers

theorem carriedOut_nil {Answered : Question → Answer → Prop} :
    dialogue.CarriedOut Answered [] := by
  rw [CarriedOut, asked_nil]
  exact .nil

theorem CarriedOut.concat
    {Answered : Question → Answer → Prop}
    {answers : List Answer}
    {inquiry : Inquiry}
    {answer : Answer}
    (carriedOut : dialogue.CarriedOut Answered answers)
    (stands : dialogue.turn answers = .asks inquiry)
    (answered : Answered (dialogue.question inquiry) answer) :
    dialogue.CarriedOut Answered (answers ++ [answer]) := by
  rw [CarriedOut, asked_concat stands]
  exact List.rel_append carriedOut (.cons answered .nil)

/--
A dialogue that was carried out to its end either asked nothing or was ended by
the answer to its last question.
-/
theorem CarriedOut.last
    {Answered : Question → Answer → Prop}
    {answers : List Answer}
    {value : Value}
    (carriedOut : dialogue.CarriedOut Answered answers)
    (ended : dialogue.turn answers = .returns value) :
    answers = [] ∧ dialogue.begins = .returns value ∨
      ∃ inquiry answer,
        dialogue.resume inquiry answer = .returns value ∧
          Answered (dialogue.question inquiry) answer ∧
            (dialogue.asked answers).getLast? =
              some (dialogue.question inquiry) := by
  induction answers using List.reverseRecOn with
  | nil =>
      exact .inl ⟨rfl, by simpa using ended⟩
  | append_singleton earlier answer _ =>
      cases stands : dialogue.turn earlier with
      | asks inquiry =>
          rw [turn_concat stands] at ended
          rw [CarriedOut, asked_concat stands] at carriedOut
          have sameLength :
              (dialogue.asked earlier).length = earlier.length := by
            simpa using carriedOut.length_eq
          have last := List.forall₂_drop_append _ _ _ carriedOut
          rw [List.drop_left' sameLength] at last
          refine .inr ⟨inquiry, answer, ended, ?_, ?_⟩
          · cases last with
            | cons answered rest =>
                exact answered
          · rw [asked_concat stands, List.getLast?_concat]
      | returns other =>
          -- The last answer would belong to no question.
          have sameLength := carriedOut.length_eq
          rw [asked, askedFrom_concat_of_returns stands,
            List.length_append, List.length_singleton] at sameLength
          have bound :=
            dialogue.length_askedFrom_le dialogue.begins earlier
          omega

theorem CarriedOut.mono
    {Answered Known : Question → Answer → Prop}
    {answers : List Answer}
    (carriedOut : dialogue.CarriedOut Answered answers)
    (known :
      ∀ question answer, Answered question answer →
        Known question answer) :
    dialogue.CarriedOut Known answers :=
  List.Forall₂.imp known carriedOut

end Dialogue

end TgGate.Library
