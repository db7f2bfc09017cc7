import MapExport.FeatureCount.Query
import MapExport.Json.Read
import MapExport.Web.Fetch

/-!
# The feature counter

The counter is a service on the web that limits how often it is asked. When it says that it is asked too
often it is left alone for a while and asked again, a fixed number of times at most; any other answer is
taken for what its body says.

Sending a query and waiting are steps. Where time does not matter the same steps are taken without the
pauses.
-/

set_option autoImplicit false

namespace MapExport.FeatureCount

open Web

/-- The status of a service that is asked too often. -/
def tooMany : Nat := 429

/-- **How the counter is asked again:** how often at most, and after a pause of how many nanoseconds. -/
structure RetryRules where
  most : Nat
  pause : Nat
  deriving DecidableEq, Repr

/-- Five times, after a quarter of a minute each. -/
def RetryRules.standard : RetryRules := ⟨5, 15000000000⟩

/-- **What counting asks for:** what a service answers, and that some time passes. -/
inductive CounterCall where
  | fetch (f : Fetch)
  | pause (nanoseconds : Nat)

/-- What a call is answered. -/
abbrev CounterCall.Reply : CounterCall → Type
  | fetch f => FetchReply f
  | pause _ => Unit

/-- The steps of counting. -/
abbrev CounterSteps := ExceptT Failure (Workflow CounterCall CounterCall.Reply)

/-- The failure of a query that is not answered. -/
def unanswered (fault : FetchFault) : Failure := .external ("Overpass query failed: " ++ fault.message)

/-- The failure of a counter that has been asked again so often. -/
def stillLimited (retries : Nat) : Failure :=
  .external ("Overpass still rate limited after " ++ toString retries ++ " retries")

/-- The count in the body of an answer. -/
def ofBody (body : List UInt8) : Except Failure Nat :=
  match Json.ofSymbols (Text.decodeBytes body) with
  | .error _ => .error unreadable
  | .ok j => ofReply j

namespace Steps

/-- Requests to a service as steps. -/
def relay {α : Type} (flow : FetchFlow α) : Workflow CounterCall CounterCall.Reply α :=
  flow.run fun f => Workflow.ask (CounterCall.fetch f)

/-- Sends a query to the counter. -/
def post (url query : String) : CounterSteps Fetched :=
  ExceptT.mk (relay ((fetch "POST" url query).adapt unanswered).run)

/-- Lets some time pass. -/
def pause (nanoseconds : Nat) : CounterSteps Unit := ExceptT.lift (Workflow.ask (CounterCall.pause nanoseconds))

/-- Asks until the counter does not say that it is asked too often; `left` more times at most, having
asked again `made` times already. -/
def askAgain (url query : String) (wait : Nat) : (left made : Nat) → CounterSteps Fetched
  | left, made => do
    let answer ← post url query
    if answer.status != tooMany then return answer
    match left with
    | 0 => throw (stillLimited made)
    | n + 1 =>
      pause wait
      askAgain url query wait n (made + 1)

/-- **Counting the features** of a geometry. -/
def count (url : String) (rules : RetryRules) (g : Geometry Position) : CounterSteps Nat := do
  let q ← ExceptT.mk (pure (query g))
  let answer ← askAgain url q rules.pause rules.most 0
  ExceptT.mk (pure (ofBody answer.body))

end Steps

/-- The answers where time does not matter. -/
def answerAtOnce : (c : CounterCall) → FetchFlow c.Reply
  | .fetch f => Workflow.ask f
  | .pause _ => pure ()

/-- **Counting the features** of a geometry without pauses. -/
def count (url : String) (retries : Nat) (g : Geometry Position) : ExceptT Failure FetchFlow Nat :=
  ExceptT.mk ((Steps.count url ⟨retries, 0⟩ g).run.run answerAtOnce)

end MapExport.FeatureCount
