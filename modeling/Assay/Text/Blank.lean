/-! # Blank characters and trimming -/

namespace Assay.Text

def isBlank (c : Char) : Bool :=
  let code := c.toNat
  (0x09 ≤ code && code ≤ 0x0D) || code == 0x20 || code == 0x85 || code == 0xA0
    || code == 0x1680 || (0x2000 ≤ code && code ≤ 0x200A) || code == 0x2028
    || code == 0x2029 || code == 0x202F || code == 0x205F || code == 0x3000

variable (chars : List Char)

def trimLeft : List Char := chars.dropWhile isBlank

def trimRight : List Char := (chars.reverse.dropWhile isBlank).reverse

def trimChars : List Char := trimRight (trimLeft chars)

def trim (text : String) : String := String.ofList (trimChars text.toList)

end Assay.Text
