import SnippetBridge.Binary64.Text

/-!
JSON documents. Numbers are integers of at most 64 bits or finite doubles; objects keep their
fields in order, and a document read from text may repeat a key.
-/

namespace SnippetBridge

namespace Json

/-- An integer that fits a signed or unsigned word of 64 bits. -/
def FitsWord (value : Int) : Prop := -9223372036854775808 ≤ value ∧ value ≤ 18446744073709551615

instance : DecidablePred FitsWord := fun value =>
  inferInstanceAs (Decidable (-9223372036854775808 ≤ value ∧ value ≤ 18446744073709551615))

inductive Number where
  | integer (value : Int) (fits : FitsWord value)
  | decimal (value : Binary64) (finite : value.isFinite = true)
  deriving DecidableEq

/-- The double nearest to a number. -/
def Number.toBinary64 : Number → Binary64
  | .integer value _ => Binary64.ofInt value
  | .decimal value _ => value

end Json

inductive Json where
  | null
  | bool (value : Bool)
  | number (value : Json.Number)
  | string (value : String)
  | array (items : List Json)
  | object (fields : List (String × Json))

namespace Json

instance : Inhabited Json := ⟨.null⟩

/-- Why a text does not give what was asked for: it is no JSON document, or it is one of another
shape. -/
inductive Error where
  | syntaxFault
  | shapeFault
  deriving DecidableEq

end Json

end SnippetBridge
