import Reflash.Bytes

/-!
# Hash.Checksum — checksums of archives and packed data

* `Crc32.checksum` — the cyclic redundancy check of archives;
* `Crc64.checksum` — the wider one of packed streams;
* `xxHash64` — a fast hash of packed frames.
-/

namespace Reflash

/-! ## Cyclic redundancy checks -/

namespace Crc32

/-- Divides one more bit by the reversed polynomial. -/
def bit (c : UInt32) : UInt32 :=
  if c &&& 1 = 1 then (0xEDB88320 : UInt32) ^^^ (c >>> 1) else c >>> 1

def byte (c : UInt32) (x : UInt8) : UInt32 :=
  bit (bit (bit (bit (bit (bit (bit (bit (c ^^^ x.toUInt32))))))))

def checksum (b : Bytes) : UInt32 :=
  b.foldl byte 0xFFFFFFFF ^^^ 0xFFFFFFFF

end Crc32

namespace Crc64

/-- Divides one more bit by the reversed polynomial. -/
def bit (c : UInt64) : UInt64 :=
  if c &&& 1 = 1 then (0xC96C5795D7870F42 : UInt64) ^^^ (c >>> 1) else c >>> 1

def byte (c : UInt64) (x : UInt8) : UInt64 :=
  bit (bit (bit (bit (bit (bit (bit (bit (c ^^^ x.toUInt64))))))))

def checksum (b : Bytes) : UInt64 :=
  b.foldl byte 0xFFFFFFFFFFFFFFFF ^^^ 0xFFFFFFFFFFFFFFFF

end Crc64

/-!
## A fast hash

Four lanes take words of eight bytes in turn; what is left after them is mixed in at the end.
-/

namespace XxHash64

def prime₁ : UInt64 := 0x9E3779B185EBCA87
def prime₂ : UInt64 := 0xC2B2AE3D27D4EB4F
def prime₃ : UInt64 := 0x165667B19E3779F9
def prime₄ : UInt64 := 0x85EBCA77C2B2AE63
def prime₅ : UInt64 := 0x27D4EB2F165667C5

def rotate (x n : UInt64) : UInt64 :=
  (x <<< n) ||| (x >>> (64 - n))

/-- A lane with one more word. -/
def round (lane word : UInt64) : UInt64 :=
  rotate (lane + word * prime₂) 31 * prime₁

def merge (hash lane : UInt64) : UInt64 :=
  (hash ^^^ round 0 lane) * prime₁ + prime₄

def word (b : Bytes) : UInt64 :=
  UInt64.ofNat (Bytes.littleEndian b)

structure Lanes where
  a : UInt64
  b : UInt64
  c : UInt64
  d : UInt64

def Lanes.start : Lanes where
  a := prime₁ + prime₂
  b := prime₂
  c := 0
  d := 0 - prime₁

/-- The lanes with thirty-two more bytes. -/
def Lanes.step (l : Lanes) (block : Bytes) : Lanes where
  a := round l.a (word (block.take 8))
  b := round l.b (word ((block.drop 8).take 8))
  c := round l.c (word ((block.drop 16).take 8))
  d := round l.d (word ((block.drop 24).take 8))

def Lanes.hash (l : Lanes) : UInt64 :=
  let sum := rotate l.a 1 + rotate l.b 7 + rotate l.c 12 + rotate l.d 18
  merge (merge (merge (merge sum l.a) l.b) l.c) l.d

/-- Mixes in a word of eight bytes. -/
def mixWord (hash : UInt64) (b : Bytes) : UInt64 :=
  rotate (hash ^^^ round 0 (word b)) 27 * prime₁ + prime₄

/-- Mixes in what is left: words of eight bytes, one of four, and bytes. -/
def mixRest (hash : UInt64) (b : Bytes) : UInt64 :=
  let words := b.length / 8 * 8
  let hash := (Bytes.blocks 8 (b.take words)).foldl mixWord hash
  let b := b.drop words
  let (hash, b) :=
    if 4 ≤ b.length then
      (rotate (hash ^^^ (word (b.take 4) * prime₁)) 23 * prime₂ + prime₃, b.drop 4)
    else (hash, b)
  b.foldl (fun hash x => rotate (hash ^^^ (x.toUInt64 * prime₅)) 11 * prime₁) hash

def avalanche (hash : UInt64) : UInt64 :=
  let hash := (hash ^^^ (hash >>> 33)) * prime₂
  let hash := (hash ^^^ (hash >>> 29)) * prime₃
  hash ^^^ (hash >>> 32)

end XxHash64

open XxHash64 in
def xxHash64 (b : Bytes) : UInt64 :=
  let whole := b.length / 32 * 32
  let start :=
    if whole = 0 then prime₅
    else ((Bytes.blocks 32 (b.take whole)).foldl Lanes.step Lanes.start).hash
  avalanche (mixRest (start + UInt64.ofNat b.length) (b.drop whole))

end Reflash
