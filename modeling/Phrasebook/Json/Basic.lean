import Phrasebook.Keyed
import Phrasebook.Text.Decimal

/-!
# JSON values

A value is what a JSON document can say. The members of an object stand in the order in which their
names first appear. Its texts are wide if it comes from a document, where an escape may name half of
a pair.
-/

namespace Phrasebook

/-- Values with texts of a kind. -/
inductive Value (τ : Type)
  | null
  | bool (b : Bool)
  | int (n : Int)
  | decimal (d : Decimal)
  | text (t : τ)
  | array (items : List (Value τ))
  | object (members : List (τ × Value τ))
  deriving Inhabited

/-- The value of a document. -/
abbrev Json := Value WideText

/-- The text that a value is, if it is one. -/
def Value.text? {τ : Type} : Value τ → Option τ
  | text t => some t
  | _ => none

end Phrasebook
