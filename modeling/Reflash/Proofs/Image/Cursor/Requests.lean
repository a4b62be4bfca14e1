import Mathlib.Data.List.Forall2
import Reflash.Proofs.Bytes
import Reflash.Proofs.Image.Cursor

/-!
# Image.Cursor.Requests — any reads and skips one after the other

A reader stops at its first failure.  Here a cursor goes on being asked, whatever its answers are,
so that what holds now holds wherever a reader may come to.

* `Cursor.Request`, `Cursor.serve` — what a cursor may be asked for, and its replies to a list of
  requests;
* `Request.Step` — a request takes the bytes ahead or, if there are not enough of them, fails and
  leaves the cursor as it is;
* `Cursor.readWithin` — reading where positions are machine words;
* `Cursor.requests_take_prefix` — whatever has been asked, the parts that were taken make up the
  data in front of the position.
-/

namespace Reflash
namespace Cursor

inductive Request where
  | bytes (count : Nat)
  | skip (count : Nat)
  | byte
  | word16
  | word32
  | word64
  deriving DecidableEq, Repr

namespace Request

def size : Request → Nat
  | .bytes count => count
  | .skip count => count
  | .byte => 1
  | .word16 => 2
  | .word32 => 4
  | .word64 => 8

abbrev Answer : Request → Type
  | .bytes _ => Bytes
  | .skip _ => Unit
  | .byte => UInt8
  | .word16 => UInt16
  | .word32 => UInt32
  | .word64 => UInt64

def reader : (r : Request) → ReadM r.Answer
  | .bytes count => read count
  | .skip count => Cursor.skip count
  | .byte => Cursor.byte
  | .word16 => Cursor.word16
  | .word32 => Cursor.word32
  | .word64 => Cursor.word64

/-- An answer gives the bytes themselves, nothing, or the number whose digits they are, lowest
first. -/
def Means : (r : Request) → Bytes → r.Answer → Prop
  | .bytes _, part, answer => answer = part
  | .skip _, _, _ => True
  | .byte, part, n => n.toNat = Bytes.littleEndian part
  | .word16, part, n => n.toNat = Bytes.littleEndian part
  | .word32, part, n => n.toNat = Bytes.littleEndian part
  | .word64, part, n => n.toNat = Bytes.littleEndian part

/-- What a request at a cursor leads to. -/
inductive Step (r : Request) (c : Cursor) : Except ParseError r.Answer → Cursor → Prop where
  | taken {answer : r.Answer} {c' : Cursor} (hsize : r.size ≤ c.remaining)
      (hmeans : r.Means (c.ahead.take r.size) answer) (hdata : c'.data = c.data)
      (hposition : c'.position = c.position + r.size) :
      Step r c (.ok answer) c'
  | short (hsize : c.remaining < r.size) :
      Step r c (.error (.truncated c.position r.size)) c

/-- What is made of the bytes that are read. -/
def value : (r : Request) → Bytes → r.Answer
  | .bytes _, part => part
  | .skip _, _ => ()
  | .byte, part => .ofNat (Bytes.littleEndian part)
  | .word16, part => .ofNat (Bytes.littleEndian part)
  | .word32, part => .ofNat (Bytes.littleEndian part)
  | .word64, part => .ofNat (Bytes.littleEndian part)

variable {r : Request} {c c' : Cursor} {part : Bytes}

/-- All requests are for bytes. -/
theorem reader_eq (r : Request) : r.reader = r.value <$> read r.size := by
  cases r with
  | bytes count => exact (id_map (read count)).symm
  | skip count => exact bind_pure_comp (fun _ => ()) (read count)
  | byte => exact (comp_map Bytes.littleEndian UInt8.ofNat (read 1)).symm
  | word16 => exact (comp_map Bytes.littleEndian UInt16.ofNat (read 2)).symm
  | word32 => exact (comp_map Bytes.littleEndian UInt32.ofNat (read 4)).symm
  | word64 => exact (comp_map Bytes.littleEndian UInt64.ofNat (read 8)).symm

theorem run_reader (r : Request) (c : Cursor) :
    r.reader.run.run c =
      if h : r.size ≤ c.remaining then (.ok (r.value (c.ahead.take r.size)), c.advance r.size h)
      else (.error (.truncated c.position r.size), c) := by
  rw [reader_eq, ExceptT.run_map, StateT.run_map, run_read]
  split
  · rfl
  · rfl

/-- The bytes are as many as a word has room for. -/
theorem means_value (h : part.length = r.size) : r.Means part (r.value part) := by
  have hlt : Bytes.littleEndian part < 256 ^ r.size := h ▸ Bytes.littleEndian_lt part
  cases r with
  | bytes count => rfl
  | skip count => trivial
  | byte => exact UInt8.toNat_ofNat_of_lt hlt
  | word16 => exact UInt16.toNat_ofNat_of_lt hlt
  | word32 => exact UInt32.toNat_ofNat_of_lt hlt
  | word64 => exact UInt64.toNat_ofNat_of_lt hlt

theorem step_run (r : Request) (c : Cursor) :
    r.Step c (r.reader.run.run c).1 (r.reader.run.run c).2 := by
  rw [run_reader]
  by_cases h : r.size ≤ c.remaining
  · rw [dif_pos h]
    exact .taken h (means_value (length_take_ahead h)) rfl rfl
  · rw [dif_neg h]
    exact .short (Nat.lt_of_not_le h)

end Request

/-! ## One request after the other -/

/-- A request with what came of it. -/
abbrev Reply : Type :=
  (r : Request) × Except ParseError r.Answer

/-- A failure does not keep a cursor from being asked again. -/
def serve : List Request → Cursor → List Reply × Cursor
  | [], c => ([], c)
  | r :: requests, c =>
      let (result, c') := r.reader.run.run c
      let (replies, last) := serve requests c'
      (⟨r, result⟩ :: replies, last)

namespace Reply

/-- The part of the data that a reply is for.  A skip takes its part without giving it, and a
failure takes none. -/
def Takes : Reply → Bytes → Prop
  | ⟨r, .ok answer⟩, part => part.length = r.size ∧ r.Means part answer
  | ⟨_, .error _⟩, part => part = []

/-- The bytes that an answer gives, in the case of a number its digits. -/
def returned : Reply → Bytes
  | ⟨_, .error _⟩ => []
  | ⟨.bytes _, .ok part⟩ => part
  | ⟨.skip _, .ok _⟩ => []
  | ⟨.byte, .ok n⟩ => Bytes.ofLittle 1 n.toNat
  | ⟨.word16, .ok n⟩ => Bytes.ofLittle 2 n.toNat
  | ⟨.word32, .ok n⟩ => Bytes.ofLittle 4 n.toNat
  | ⟨.word64, .ok n⟩ => Bytes.ofLittle 8 n.toNat

variable {x : Reply} {part : Bytes}

/-- A number is written with the digits that it was read from. -/
theorem digits_eq {size n : Nat} (hlength : part.length = size) (hn : n = Bytes.littleEndian part) :
    Bytes.ofLittle size n = part := by
  rw [hn, ← hlength]
  exact Bytes.ofLittle_littleEndian part

theorem Takes.returned_eq (h : x.Takes part) (hskip : ∀ count, x.1 ≠ .skip count) :
    x.returned = part := by
  obtain ⟨r, answer | answer⟩ := x
  · exact Eq.symm h
  obtain ⟨hlength, hmeans⟩ := h
  cases r with
  | bytes count => exact hmeans
  | skip count => exact absurd rfl (hskip count)
  | byte => exact digits_eq hlength hmeans
  | word16 => exact digits_eq hlength hmeans
  | word32 => exact digits_eq hlength hmeans
  | word64 => exact digits_eq hlength hmeans

end Reply

variable {data : Bytes} {requests : List Request} {c c' : Cursor}

theorem Request.Step.takes {r : Request} {result : Except ParseError r.Answer}
    (h : r.Step c result c') :
    ∃ part, Reply.Takes ⟨r, result⟩ part ∧ c'.data = c.data ∧ c'.passed = c.passed ++ part := by
  cases h with
  | taken hsize hmeans hdata hposition =>
      refine ⟨c.ahead.take r.size, ⟨length_take_ahead hsize, hmeans⟩, hdata, ?_⟩
      calc
        c'.passed = c.data.take (c.position + r.size) := by rw [passed, hdata, hposition]
        _ = c.passed ++ c.ahead.take r.size := List.take_add
  | short hsize =>
      exact ⟨[], rfl, rfl, (List.append_nil c.passed).symm⟩

/-- By induction on the requests: what one of them takes stands in front of what the others take. -/
theorem serve_takes (requests : List Request) (c : Cursor) :
    ∃ parts, List.Forall₂ Reply.Takes (serve requests c).1 parts ∧
      (serve requests c).2.data = c.data ∧
        (serve requests c).2.passed = c.passed ++ parts.flatten := by
  induction requests generalizing c with
  | nil => exact ⟨[], .nil, rfl, (List.append_nil c.passed).symm⟩
  | cons r requests ih =>
      obtain ⟨part, htakes, hdata, hpassed⟩ := (r.step_run c).takes
      obtain ⟨parts, hothers, hdata', hpassed'⟩ := ih (r.reader.run.run c).2
      refine ⟨part :: parts, .cons htakes hothers, hdata'.trans hdata, ?_⟩
      calc
        (serve (r :: requests) c).2.passed = (r.reader.run.run c).2.passed ++ parts.flatten :=
          hpassed'
        _ = c.passed ++ (part :: parts).flatten := by
          rw [hpassed, List.append_assoc, List.flatten_cons]

theorem map_fst_serve (requests : List Request) (c : Cursor) :
    (serve requests c).1.map Sigma.fst = requests := by
  induction requests generalizing c with
  | nil => rfl
  | cons r requests ih => exact congrArg (List.cons r) (ih _)

/-- Where nothing is skipped, all that is taken is returned. -/
theorem flatMap_returned {replies : List Reply} {parts : List Bytes}
    (htakes : List.Forall₂ Reply.Takes replies parts)
    (hskip : ∀ x ∈ replies, ∀ count, x.1 ≠ .skip count) :
    replies.flatMap Reply.returned = parts.flatten := by
  induction htakes with
  | nil => rfl
  | cons hfirst _ ih =>
      obtain ⟨hhead, htail⟩ := List.forall_mem_cons.1 hskip
      rw [List.flatMap_cons, List.flatten_cons, hfirst.returned_eq hhead, ih htail]

/-! ## Positions in machine words -/

/-- The sum of two numbers if a machine word holds it; `largest` is the greatest number that one
holds. -/
def sumWithin? (largest a b : Nat) : Option Nat :=
  if a + b ≤ largest then some (a + b) else none

/-- Computes the end first, as a machine word, and then looks for it in the data. -/
def readWithin (largest count : Nat) : ReadM Bytes := do
  let c ← get
  match sumWithin? largest c.position count with
  | none => throw (.truncated c.position count)
  | some stop =>
      if h : c.position ≤ stop ∧ stop ≤ c.data.length then
        set { c with position := stop, position_le := h.2 }
        return (c.data.take stop).drop c.position
      else throw (.truncated c.position count)

theorem le_remaining_iff {count : Nat} :
    count ≤ c.remaining ↔ c.position + count ≤ c.data.length := by
  have hposition := c.position_le
  rw [remaining]
  omega

/-- Over data whose length is a machine word, it makes no difference that an end may be out of reach
for words: such an end lies behind the data. -/
theorem run_readWithin {largest : Nat} (h : c.data.length ≤ largest) (count : Nat) :
    (readWithin largest count).run.run c = (read count).run.run c := by
  change (match sumWithin? largest c.position count with
    | none => throw (.truncated c.position count)
    | some stop => if h : c.position ≤ stop ∧ stop ≤ c.data.length then do
          set { c with position := stop, position_le := h.2 }
          return (c.data.take stop).drop c.position
        else throw (.truncated c.position count) : ReadM Bytes).run.run c = _
  rw [run_read, sumWithin?]
  by_cases hsize : count ≤ c.remaining
  · have hstop : c.position + count ≤ c.data.length := le_remaining_iff.1 hsize
    have hpart : (c.data.take (c.position + count)).drop c.position = c.ahead.take count := by
      rw [List.drop_take, ahead, Nat.add_sub_cancel_left]
    rw [if_pos (Nat.le_trans hstop h), dif_pos hsize, ← hpart]
    dsimp only
    rw [dif_pos ⟨Nat.le_add_right _ _, hstop⟩]
    rfl
  · have hstop : ¬ c.position + count ≤ c.data.length := fun hstop =>
      hsize (le_remaining_iff.2 hstop)
    rw [dif_neg hsize]
    -- The end is refused as a word or, if it is one, because the data ends before it.
    by_cases hword : c.position + count ≤ largest
    · rw [if_pos hword]
      dsimp only
      rw [dif_neg fun hend => hstop hend.2]
      rfl
    · rw [if_neg hword]
      rfl

/-- Whatever reads and skips a cursor is asked for, it stays within the data, and the parts that
were taken make up the data in front of it.  The next request takes its part if there are bytes
enough, and otherwise is told where and how many are missing and changes nothing, also where no
machine word holds the end that it asks for. -/
theorem requests_take_prefix (data : Bytes) (requests : List Request) :
    let replies := (serve requests (start data)).1
    let c := (serve requests (start data)).2
    replies.map Sigma.fst = requests ∧ c.data = data ∧ c.position ≤ data.length ∧
      (∃ parts, List.Forall₂ Reply.Takes replies parts ∧ parts.flatten = data.take c.position) ∧
      ((∀ count, .skip count ∉ requests) → replies.flatMap Reply.returned = data.take c.position) ∧
      (∀ r : Request, r.Step c (r.reader.run.run c).1 (r.reader.run.run c).2) ∧
      ∀ largest, data.length ≤ largest → ∀ count,
        (readWithin largest count).run.run c = (read count).run.run c ∧
          (largest < c.position + count →
            (read count).run.run c = (.error (.truncated c.position count), c)) := by
  intro replies c
  obtain ⟨parts, htakes, hdata, hpassed⟩ := serve_takes requests (start data)
  have hdata : c.data = data := hdata
  have hlength : c.position ≤ data.length := hdata ▸ c.position_le
  have hparts : parts.flatten = data.take c.position := by
    calc
      parts.flatten = c.passed := hpassed.symm
      _ = data.take c.position := by rw [passed, hdata]
  refine ⟨map_fst_serve requests _, hdata, hlength, ⟨parts, htakes, hparts⟩, ?_, ?_, ?_⟩
  · intro hskip
    have hnone : ∀ x ∈ replies, ∀ count, x.1 ≠ .skip count := by
      intro x hx count heq
      have hmem : x.1 ∈ requests := map_fst_serve requests (start data) ▸ List.mem_map_of_mem hx
      exact hskip count (heq ▸ hmem)
    exact (flatMap_returned htakes hnone).trans hparts
  · intro r
    exact r.step_run c
  · intro largest hlargest count
    refine ⟨run_readWithin (hdata ▸ hlargest) count, ?_⟩
    intro hbeyond
    have hshort : ¬ count ≤ c.remaining := by
      rw [le_remaining_iff, hdata]
      omega
    rw [run_read, dif_neg hshort]

namespace Trial

def bytes : Bytes :=
  [0x01, 0x34, 0x12, 0x78, 0x56, 0x34, 0x12, 0xAA]

/-- The second request asks for more than there can be. -/
def asked : List Request :=
  [.skip 1, .bytes (2 ^ 64 - 1), .word16]

def reached : Cursor :=
  (serve asked (start bytes)).2

end Trial

/-- After a skip, a failure and a read, the next word is read in its place, and what ends behind all
words is missing from that place on. -/
theorem requests_take_prefix_trial :
    Trial.reached.position = 3 ∧
      (∃ parts, List.Forall₂ Reply.Takes (serve Trial.asked (start Trial.bytes)).1 parts ∧
        parts.flatten = [0x01, 0x34, 0x12]) ∧
      (∃ c', Request.word32.Step Trial.reached (.ok 0x12345678) c') ∧
      2 ^ 64 - 1 < Trial.reached.position + (2 ^ 64 - 1) ∧
      (readWithin (2 ^ 64 - 1) (2 ^ 64 - 1)).run.run Trial.reached =
        (.error (.truncated 3 (2 ^ 64 - 1)), Trial.reached) ∧
      (∀ count, Request.skip count ∉ [Request.byte, .word16]) ∧
      (serve [.byte, .word16] (start Trial.bytes)).1.flatMap Reply.returned =
        [0x01, 0x34, 0x12] := by
  have hposition : Trial.reached.position = 3 := by decide +kernel
  obtain ⟨-, -, -, hparts, -, hstep, hwords⟩ := requests_take_prefix Trial.bytes Trial.asked
  obtain ⟨-, -, -, -, hreturned, -, -⟩ := requests_take_prefix Trial.bytes [.byte, .word16]
  have hword : (Request.word32.reader.run.run Trial.reached).1 = .ok 0x12345678 := by decide +kernel
  have hnext := hstep .word32
  have hbeyond : 2 ^ 64 - 1 < Trial.reached.position + (2 ^ 64 - 1) := by
    rw [hposition]
    decide
  obtain ⟨hsame, hmissing⟩ := hwords (2 ^ 64 - 1) (by decide) (2 ^ 64 - 1)
  have hskip : ∀ count, Request.skip count ∉ [Request.byte, .word16] := by
    intro count hmem
    simp at hmem
  refine ⟨hposition, hparts, ⟨_, hword ▸ hnext⟩, hbeyond, hsame.trans (hmissing hbeyond), hskip,
    hreturned hskip⟩

end Cursor
end Reflash
