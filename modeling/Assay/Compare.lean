import Assay.Text.Blank

/-!
# Golden comparison

An observed text matches a golden text when the two are equal after trimming.
White space inside the texts and the kind of line ends count.
-/

namespace Assay

/-- Whether an observed text matches an expected one up to surrounding white
space. -/
def agrees (observed expected : String) : Bool :=
  Text.trim observed == Text.trim expected

end Assay
