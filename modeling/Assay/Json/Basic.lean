/-!
# JSON values

Values of the JSON format with whole numbers only. The fields of an object keep
their order.
-/

namespace Assay

inductive Json where
  | null
  | bool (value : Bool)
  | number (value : Int)
  | string (value : String)
  | array (items : List Json)
  | object (fields : List (String × Json))
  deriving Repr

end Assay
