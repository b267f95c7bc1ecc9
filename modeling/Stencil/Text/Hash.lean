/-!
# Hashing texts

A hash of a text mixes its characters from left to right. It only spreads keys over the shards of a
table; no answer depends on it.
-/

namespace Stencil.Text

/-- Mixes one more word into a hash. -/
def mix (h w : UInt64) : UInt64 := (h ^^^ w) * 0x100000001B3

/-- The hash of a text. -/
def hashText (s : String) : UInt64 :=
  s.toList.foldl (fun h c => mix h c.val.toUInt64) 0xCBF29CE484222325

/-- The hash of a list of texts. -/
def hashTexts (ss : List String) : UInt64 :=
  ss.foldl (fun h s => mix h (hashText s)) 0x84222325CBF29CE4

end Stencil.Text
