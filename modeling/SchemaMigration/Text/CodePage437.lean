/-!
# `SchemaMigration.Text.CodePage437`: texts of one byte a character

The code page 437 gives every byte a character. The lower half is ASCII, with its
control characters. Names in archives are written so unless they are marked as
UTF-8.
-/

set_option autoImplicit false

namespace SchemaMigration.Text.CodePage437

/-- The characters of the bytes from 128 on. -/
def upperHalf : Array Char :=
  ("ÇüéâäàåçêëèïîìÄÅÉæÆôöòûùÿÖÜ¢£¥₧ƒ" ++
    "áíóúñÑªº¿⌐¬½¼¡«»░▒▓│┤╡╢╖╕╣║╗╝╜╛┐" ++
    "└┴┬├─┼╞╟╚╔╩╦╠═╬╧╨╤╥╙╘╒╓╫╪┘┌█▄▌▐▀" ++
    "αßΓπΣσµτΦΘΩδ∞φε∩≡±≥≤⌠⌡÷≈°∙·√ⁿ²■\u00A0").toList.toArray

/-- The character of a byte. -/
def charOf (byte : UInt8) : Char :=
  if byte < 0x80 then Char.ofNat byte.toNat
  else upperHalf.getD (byte.toNat - 128) (Char.ofNat byte.toNat)

/-- The text of bytes. -/
def decode (bytes : List UInt8) : String :=
  String.ofList (bytes.map charOf)

end SchemaMigration.Text.CodePage437
