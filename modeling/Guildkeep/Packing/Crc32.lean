/-!
# Checksums

The cyclic redundancy check of 32 bits that closes a gzip member, one bit at a time.
-/

namespace Guildkeep.Packing

/-- One bit of the check: shift, and subtract the polynomial if a one falls out. -/
def crcBit (crc : UInt32) : UInt32 :=
  if crc &&& 1 = 1 then (crc >>> 1) ^^^ 0xedb88320 else crc >>> 1

/-- One byte of the check. -/
def crcByte (crc : UInt32) (b : UInt8) : UInt32 :=
  crcBit (crcBit (crcBit (crcBit (crcBit (crcBit (crcBit (crcBit (crc ^^^ b.toUInt32))))))))

/-- The **checksum** of bytes. -/
def crc32 (bytes : List UInt8) : UInt32 :=
  (bytes.foldl crcByte 0xffffffff) ^^^ 0xffffffff

end Guildkeep.Packing
