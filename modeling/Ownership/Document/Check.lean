import Ownership.Json.Basic
import Ownership.Number.Double
import Ownership.Table
import Ownership.Text.Blank
import Ownership.Text.DecimalDigit

/-!
# Checking documents

A document is checked against the shape that is expected of it.  A check goes on after a fault,
so that all faults of a document are told at once, each with the place where it is.  Only a rule
over a whole record waits until all its fields are sound.
-/

namespace Ownership
namespace Document

inductive Fault
  | missing
  | notText
  | notInteger
  | integerText
  | integerFraction
  | integerInfinite
  | notFlag
  | flagText
  | notList
  | notTuple
  | notSet
  | notTable
  | notRecord
  | notChoice
  | unknownField
  | rule (message : String)
deriving DecidableEq, Repr

/-- A fault and the way to it: names of fields and positions in lists. -/
structure Issue where
  place : List String
  fault : Fault
deriving DecidableEq, Repr

structure Check (α : Type) where
  result : Except (List Issue) α

namespace Check

def fail (fault : Fault) : Check α := ⟨.error [⟨[], fault⟩]⟩

def map (f : α → β) (check : Check α) : Check β := ⟨check.result.map f⟩

/-- Both checks are made; the faults of both are told. -/
def apply (first : Check (α → β)) (second : Check α) : Check β :=
  match first.result, second.result with
  | .ok f, .ok a => ⟨.ok (f a)⟩
  | .ok _, .error issues => ⟨.error issues⟩
  | .error issues, .ok _ => ⟨.error issues⟩
  | .error issues, .error others => ⟨.error (issues ++ others)⟩

instance : Applicative Check where
  pure a := ⟨.ok a⟩
  map := map
  seq first second := apply first (second ())

def andThen (check : Check α) (further : α → Check β) : Check β :=
  match check.result with
  | .ok a => further a
  | .error issues => ⟨.error issues⟩

def inside (step : String) (check : Check α) : Check α :=
  ⟨check.result.mapError fun issues =>
    issues.map fun issue => { issue with place := step :: issue.place }⟩

def rule (result : Except String α) : Check α :=
  match result with
  | .ok a => pure a
  | .error message => fail (.rule message)

def all : List (Check α) → Check (List α)
  | [] => pure []
  | check :: rest => List.cons <$> check <*> all rest

end Check

abbrev Reader (α : Type) := Json → Check α

namespace Reader

/-!
# Simple values
-/

def text : Reader String
  | .text value => pure value
  | _ => .fail .notText

/-- Digits with at most a sign in front, blanks at the ends left out. -/
def integerOfText? (s : String) : Option Int :=
  let body := Text.trim s.toList
  let (negative, digits) :=
    match body with
    | '-' :: digits => (true, digits)
    | '+' :: digits => (false, digits)
    | digits => (false, digits)
  if digits.isEmpty || !digits.all Char.isDigit then none
  else
    let value : Int := Text.decimalValue digits
    some (if negative then -value else value)

def integer : Reader Int
  | .int value => pure value
  | .bool value => pure (if value then 1 else 0)
  | .float value =>
      match Number.Double.toInt? value with
      | some n => pure n
      | none => .fail (if Number.Double.isFinite value then .integerFraction else .integerInfinite)
  | .text value =>
      match integerOfText? value with
      | some n => pure n
      | none => .fail .integerText
  | _ => .fail .notInteger

def flagOfInteger (value : Int) : Check Bool :=
  if value = 0 then pure false else if value = 1 then pure true else .fail .flagText

def flag : Reader Bool
  | .bool value => pure value
  | .int value => flagOfInteger value
  | .float value =>
      match Number.Double.toInt? value with
      | some n => flagOfInteger n
      | none => .fail .notFlag
  | .text value =>
      let word := value.toLower
      if word ∈ ["1", "on", "t", "true", "y", "yes"] then pure true
      else if word ∈ ["0", "off", "f", "false", "n", "no"] then pure false
      else .fail .flagText
  | _ => .fail .notFlag

def choice (values : List (String × α)) : Reader α
  | .text value =>
      match values.find? fun entry => entry.1 = value with
      | some entry => pure entry.2
      | none => .fail .notChoice
  | _ => .fail .notChoice

def nullable (reader : Reader α) : Reader (Option α)
  | .null => pure none
  | json => some <$> reader json

/-!
# Rows and tables
-/

def items (fault : Fault) (reader : Reader α) : Reader (List α)
  | .list values =>
      Check.all ((values.zipIdx).map fun (json, i) => (reader json).inside (Text.integerText i))
  | _ => .fail fault

def list (reader : Reader α) : Reader (List α) := items .notList reader

def tuple (reader : Reader α) : Reader (List α) := items .notTuple reader

/-- A list whose repeated values count once. -/
def distinct [BEq α] (reader : Reader α) : Reader (List α) := fun json =>
  List.eraseDups <$> items .notSet reader json

def table (reader : Reader α) : Reader (Table String α)
  | .object members =>
      Table.ofList <$> Check.all (members.map fun (name, json) =>
        (fun value => (name, value)) <$> (reader json).inside name)
  | _ => .fail .notTable

/-!
# Records
-/

abbrev Members := List (String × Json)

def record (read : Members → Check α) : Reader α
  | .object members => read members
  | _ => .fail .notRecord

def find? (members : Members) (name : String) : Option Json :=
  (members.find? fun entry => entry.1 = name).map Prod.snd

def field (members : Members) (name : String) (reader : Reader α) : Check α :=
  match find? members name with
  | some json => (reader json).inside name
  | none => (Check.fail .missing).inside name

def fieldD (members : Members) (name : String) (fallback : α) (reader : Reader α) : Check α :=
  match find? members name with
  | some json => (reader json).inside name
  | none => pure fallback

def onlyFields (members : Members) (names : List String) : Check Unit :=
  (fun _ => ()) <$> Check.all (members.map fun (name, _) =>
    if name ∈ names then pure () else (Check.fail .unknownField).inside name)

end Reader
end Document
end Ownership
