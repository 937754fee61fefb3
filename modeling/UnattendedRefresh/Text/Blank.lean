/-!
# White space

The twenty-five code points that Unicode calls white space, and cutting them off
both ends of a text.
-/

namespace UnattendedRefresh.Text

def isWhiteSpace (character : Char) : Bool :=
  let code := character.toNat
  (0x09 ≤ code && code ≤ 0x0d) || code = 0x20 || code = 0x85 || code = 0xa0 || code = 0x1680
    || (0x2000 ≤ code && code ≤ 0x200a) || code = 0x2028 || code = 0x2029 || code = 0x202f
    || code = 0x205f || code = 0x3000

def trimWhere (blank : Char → Bool) (characters : List Char) : List Char :=
  (((characters.dropWhile blank).reverse).dropWhile blank).reverse

def trim (characters : List Char) : List Char :=
  trimWhere isWhiteSpace characters

end UnattendedRefresh.Text
