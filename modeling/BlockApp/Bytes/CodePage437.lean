import BlockApp.Bytes.Basic

/-!
# Code page 437

The eight-bit character set of file names in archives that do not say otherwise: ASCII below 0x80 and
the characters of `upperHalf` from there on.
-/

namespace BlockApp.CodePage437

/-- The characters of the bytes from 0x80 on. -/
def upperHalf : List Char :=
  ("ÇüéâäàåçêëèïîìÄÅÉæÆôöòûùÿÖÜ¢£¥₧ƒ" ++
   "áíóúñÑªº¿⌐¬½¼¡«»░▒▓│┤╡╢╖╕╣║╗╝╜╛┐" ++
   "└┴┬├─┼╞╟╚╔╩╦╠═╬╧╨╤╥╙╘╒╓╫╪┘┌█▄▌▐▀" ++
   "αßΓπΣσµτΦΘΩδ∞φε∩≡±≥≤⌠⌡÷≈°∙·√ⁿ²■\u00A0").toList

/-- The character of a byte. -/
def toChar (b : UInt8) : Char :=
  if b < 0x80 then Char.ofNat b.toNat else upperHalf.getD (b.toNat - 0x80) ' '

/-- The text of a byte string. -/
def decode (bytes : Bytes) : List Char := bytes.map toChar

end BlockApp.CodePage437
