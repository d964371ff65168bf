import MethodRoutes.Http.Message

/-!
# Canned answers

A transport without a network: it knows its answers beforehand.

## Main definitions

* `CannedAnswers` — outcomes by destination, and one for all others
* `Transport.canned` — the transport that gives these answers
-/

namespace MethodRoutes

/-- Outcomes that are known beforehand. -/
structure CannedAnswers where
  /-- The outcomes of single destinations. -/
  byUrl : Table String Outcome
  /-- The outcome of every other destination; without one, nothing is found there. -/
  default : Option Outcome

namespace CannedAnswers

/-- No answers. -/
def none : CannedAnswers := ⟨.empty, Option.none⟩

/-- Set the outcome of a destination, or without one that of all others. -/
def set (answers : CannedAnswers) (url : Option String) (outcome : Outcome) : CannedAnswers :=
  match url with
  | some url => { answers with byUrl := answers.byUrl.insert url outcome }
  | Option.none => { answers with default := some outcome }

/-- The outcome of a destination. -/
def answer (answers : CannedAnswers) (url : String) : Outcome :=
  match answers.byUrl.get? url with
  | some outcome => outcome
  | Option.none => answers.default.getD (.ok (.ofCode 404))

end CannedAnswers

/-- The transport that answers by destination and changes nothing. -/
def Transport.canned : Transport CannedAnswers where
  send request answers := (answers.answer request.url, answers)

end MethodRoutes
