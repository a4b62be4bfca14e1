import Reflash.Image.Error

/-!
# Image.Cursor — reading fixed-size fields in order

A cursor is a position in a byte string.  A read either succeeds and moves on, or says what is
missing and leaves the cursor where it is.
-/

namespace Reflash

structure Cursor where
  data : Bytes
  position : Nat := 0
  position_le : position ≤ data.length := by simp

/-- Computations that read on from a cursor; a failure keeps it. -/
abbrev ReadM : Type → Type :=
  ExceptT ParseError (StateM Cursor)

namespace Cursor

def remaining (c : Cursor) : Nat :=
  c.data.length - c.position

/-- The bytes read so far. -/
def passed (c : Cursor) : Bytes :=
  c.data.take c.position

/-- The bytes not yet read. -/
def ahead (c : Cursor) : Bytes :=
  c.data.drop c.position

def advance (c : Cursor) (count : Nat) (h : count ≤ c.remaining) : Cursor where
  data := c.data
  position := c.position + count
  position_le := by
    have := c.position_le
    simp only [remaining] at h
    omega

/-- The next `count` bytes. -/
def read (count : Nat) : ReadM Bytes := do
  let c ← get
  if h : count ≤ c.remaining then
    set (c.advance count h)
    return c.ahead.take count
  else throw (.truncated c.position count)

def skip (count : Nat) : ReadM Unit := do
  let _ ← read count

/-- The number in the next `size` bytes, lowest byte first. -/
def number (size : Nat) : ReadM Nat :=
  Bytes.littleEndian <$> read size

def byte : ReadM UInt8 :=
  UInt8.ofNat <$> number 1

def word16 : ReadM UInt16 :=
  UInt16.ofNat <$> number 2

def word32 : ReadM UInt32 :=
  UInt32.ofNat <$> number 4

def word64 : ReadM UInt64 :=
  UInt64.ofNat <$> number 8

/-- Reads a mark that has to be there. -/
def expect (mark : Bytes) (error : ParseError) : ReadM Unit := do
  if (← read mark.length) ≠ mark then throw error

/-- The outcome of reading from the start of a byte string. -/
def runOn {α : Type} (m : ReadM α) (data : Bytes) : Except ParseError α :=
  (m.run.run { data }).1

end Cursor
end Reflash
