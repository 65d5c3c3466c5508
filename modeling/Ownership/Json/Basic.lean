/-!
# JSON values

Documents come in as JSON.  Whole numbers and numbers with a fraction or an exponent are told
apart, and the members of an object keep their order.
-/

namespace Ownership

inductive Json
  | null
  | bool (value : Bool)
  | int (value : Int)
  | float (value : Float)
  | text (value : String)
  | list (items : List Json)
  | object (members : List (String × Json))

namespace Json

instance : Inhabited Json := ⟨null⟩

/-- The member of an object with a given name; other values have no members. -/
def member? (json : Json) (name : String) : Option Json :=
  match json with
  | object members => (members.find? fun entry => entry.1 = name).map Prod.snd
  | _ => none

end Json
end Ownership
