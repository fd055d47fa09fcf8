set_option autoImplicit false

/-! # Byte strings and alignment

File contents and archives are lists of bytes; addresses and sizes in them are 64-bit words.
An alignment is one of the powers `2 ^ 0, …, 2 ^ 63`; rounding up adds the alignment first,
so the sum of address and alignment has to fit the word as well. Both conditions are checked
here and nowhere else: a request that breaks one of them has no answer.

A buffer whose length is rounded up is filled with one and the same byte. What follows it then
starts at a multiple of the alignment.
-/

namespace Linkage

/-- The contents of a file. -/
abbrev Bytes := List UInt8

/-- Whether a word is one of `2 ^ 0, …, 2 ^ 63`. -/
def isPowerOfTwo (n : UInt64) : Bool :=
  (List.range 64).any fun k => n.toNat == Nat.pow 2 k

/-- The next multiple of `align` at or above `addr`: add up to the last address before the
multiple that follows, then clear the low bits. There is no answer when `align` is not a
power of two or when `addr + align` leaves 64 bits. -/
def alignUp? (addr align : UInt64) : Option UInt64 :=
  if isPowerOfTwo align && decide (addr.toNat + align.toNat < UInt64.size) then
    some ((addr + align - 1) &&& ~~~(align - 1))
  else
    none

/-- A buffer with copies of a byte behind it, up to the next multiple of `align`. -/
def fillUp? (align : UInt64) (filling : UInt8) (buffer : Bytes) : Option Bytes :=
  (alignUp? (UInt64.ofNat buffer.length) align).map fun next =>
    buffer ++ List.replicate (next.toNat - buffer.length) filling

end Linkage
