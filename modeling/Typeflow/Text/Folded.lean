import Typeflow.Text.Utf8

set_option autoImplicit false

namespace Typeflow.Text

-- Lower case; two characters outside ASCII have their lower-case letter in it.
def folded (name : String) : String :=
  name.map fun c => if c == '\u017f' then 's' else if c == '\u212a' then 'k' else c.toLower

def resizedLetters : List (Char × Char) := [
    ('\u023a', '\u2c65'), ('\u023e', '\u2c66'), ('\u1e9e', '\u00df'), ('\u2126', '\u03c9'),
    ('\u212b', '\u00e5'), ('\u2c62', '\u026b'), ('\u2c64', '\u027d'), ('\u2c6d', '\u0251'),
    ('\u2c6e', '\u0271'), ('\u2c6f', '\u0250'), ('\u2c70', '\u0252'), ('\u2c7e', '\u023f'),
    ('\u2c7f', '\u0240'), ('\ua78d', '\u0265'), ('\ua7aa', '\u0266'), ('\ua7ab', '\u025c'),
    ('\ua7ac', '\u0261'), ('\ua7ad', '\u026c'), ('\ua7ae', '\u026a'), ('\ua7b0', '\u029e'),
    ('\ua7b1', '\u0287'), ('\ua7b2', '\u029d'), ('\ua7c5', '\u0282'), ('\ua7cb', '\u0264'),
    ('\ua7dc', '\u019b')]

-- The bytes of a character in lower case, for comparison with ASCII. A letter beyond ASCII
-- whose lower-case letter is as long as itself keeps its own bytes, which equal none of ASCII
-- either way.
def loweredBytes (c : Char) : Bytes :=
  if c == '\u0130' then [0x69]
  else if c == '\u212a' then [0x6B]
  else String.utf8EncodeChar ((resizedLetters.lookup c).getD c.toLower)

end Typeflow.Text
