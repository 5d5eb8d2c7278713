/-!
# PNG files

A grey image as a PNG file: the header, one chunk of uncompressed data, and the end. Every row
starts with the filter byte 0.
-/

namespace Heightfield.Image.Png

/-- A word as four bytes, the most significant first. -/
def word (n : Nat) : List UInt8 :=
  [24, 16, 8, 0].map fun k => UInt8.ofNat (n >>> k)

/-- One step of the cyclic redundancy check, for one bit. -/
def crcBit (c : UInt32) : UInt32 :=
  if c &&& 1 = 1 then (0xedb88320 : UInt32) ^^^ (c >>> 1) else c >>> 1

/-- The steps for one byte. -/
def crcByte (c : UInt32) (b : UInt8) : UInt32 :=
  (List.range 8).foldl (fun c _ => crcBit c) (c ^^^ b.toUInt32)

/-- The cyclic redundancy check of a chunk. -/
def crc (bs : List UInt8) : UInt32 :=
  bs.foldl crcByte 0xffffffff ^^^ 0xffffffff

/-- The checksum of the data before it was packed. -/
def adler (bs : List UInt8) : Nat :=
  let (a, b) := bs.foldl (fun (a, b) x =>
    let a := (a + x.toNat) % 65521
    (a, (b + a) % 65521)) (1, 0)
  b * 65536 + a

/-- A chunk: its length, its type, its data and the check of the latter two. -/
def chunk (type : String) (data : List UInt8) : List UInt8 :=
  let body := type.toUTF8.toList ++ data
  word data.length ++ body ++ word (crc body).toNat

/-- A number of two bytes, the least significant first. -/
def shortWord (n : Nat) : List UInt8 :=
  [UInt8.ofNat n, UInt8.ofNat (n / 256)]

/-- Data as stored blocks of at most `2^16 - 1` bytes; the last one is marked. -/
def storedBlocks : Nat → List UInt8 → List UInt8
  | 0, _ => []
  | fuel + 1, bs =>
    let block := bs.take 65535
    let rest := bs.drop 65535
    let n := block.length
    (if rest.isEmpty then 1 else 0) :: shortWord n ++ shortWord (65535 - n) ++ block ++
      (if rest.isEmpty then [] else storedBlocks fuel rest)

/-- The rows of an image, each behind its filter byte. -/
def rows (width : Nat) : Nat → List UInt8 → List UInt8
  | 0, _ => []
  | height + 1, bs => 0 :: bs.take width ++ rows width height (bs.drop width)

/-- The file of a grey image with one byte for each pixel. -/
def encodeGray (width height : Nat) (pixels : List UInt8) : List UInt8 :=
  let data := rows width height pixels
  [0x89, 0x50, 0x4e, 0x47, 0x0d, 0x0a, 0x1a, 0x0a] ++
    chunk "IHDR" (word width ++ word height ++ [8, 0, 0, 0, 0]) ++
    chunk "IDAT" ([0x78, 0x01] ++ storedBlocks (data.length / 65535 + 1) data ++ word (adler data)) ++
    chunk "IEND" []

end Heightfield.Image.Png
