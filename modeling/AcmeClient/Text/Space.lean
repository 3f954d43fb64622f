namespace AcmeClient.Text

def isWhiteSpace (c : Char) : Bool :=
  let n := c.toNat
  (0x09 ≤ n && n ≤ 0x0D) || n == 0x20 || n == 0x85 || n == 0xA0 || n == 0x1680 ||
    (0x2000 ≤ n && n ≤ 0x200A) || n == 0x2028 || n == 0x2029 || n == 0x202F || n == 0x205F ||
    n == 0x3000

/-- White space and the four information separators. -/
def isSpace (c : Char) : Bool :=
  isWhiteSpace c || (0x1C ≤ c.toNat && c.toNat ≤ 0x1F)

def trimEnd (blank : Char → Bool) (text : List Char) : List Char :=
  (text.reverse.dropWhile blank).reverse

def trim (blank : Char → Bool) (text : List Char) : List Char :=
  trimEnd blank (text.dropWhile blank)

end AcmeClient.Text
