-- SUMMARY: White space of patterns and lenient numerals.
import LispLex.Text.Ranges

/-!
# Space characters

The white space of Unicode together with the four ASCII information separators. The lexer skips only
four of these characters; patterns and lenient numerals know all of them.
-/

namespace LispLex

/-- A character that counts as white space in patterns and around numerals. -/
def isSpace (c : Char) : Bool :=
  inRanges
    [(0x9, 0xd), (0x1c, 0x20), (0x85, 0x85), (0xa0, 0xa0), (0x1680, 0x1680), (0x2000, 0x200a),
     (0x2028, 0x2029), (0x202f, 0x202f), (0x205f, 0x205f), (0x3000, 0x3000)] c

end LispLex
