/-!
# Byte offsets in text

Offsets into a text count the bytes of its UTF-8 form. Text itself is a list of
characters here, so an offset is either the length of some front part of the
text or falls inside a character; cutting at the latter gives nothing.
-/

namespace MiniTemplate.Text

/-- Number of bytes of a text in UTF-8. -/
def byteLength : List Char → Nat
  | [] => 0
  | c :: cs => c.utf8Size + byteLength cs

/-- The text after its first `n` bytes, if a character starts or the text ends there. -/
def dropBytes? : Nat → List Char → Option (List Char)
  | 0, cs => some cs
  | _ + 1, [] => none
  | n + 1, c :: cs =>
    if c.utf8Size ≤ n + 1 then dropBytes? (n + 1 - c.utf8Size) cs else none

/-- The first `n` bytes of a text, if a character starts or the text ends there. -/
def takeBytes? : Nat → List Char → Option (List Char)
  | 0, _ => some []
  | _ + 1, [] => none
  | n + 1, c :: cs =>
    if c.utf8Size ≤ n + 1 then (takeBytes? (n + 1 - c.utf8Size) cs).map (c :: ·) else none

/-- The bytes `start..stop` of a text, if both ends are character boundaries in order. -/
def slice? (start stop : Nat) (text : List Char) : Option (List Char) :=
  if start ≤ stop then (dropBytes? start text).bind (takeBytes? (stop - start)) else none

/-- The bytes `start..stop` of a text; nothing at all where the range does not cut it cleanly. -/
def slice (start stop : Nat) (text : List Char) : List Char :=
  (slice? start stop text).getD []

/-- The text from byte `start` on; nothing at all where no character starts there. -/
def sliceFrom (start : Nat) (text : List Char) : List Char :=
  (dropBytes? start text).getD []

end MiniTemplate.Text
