/-! Where keys sit in an open-addressing table that probes its slots sixteen at a time, and so
the order in which a walk over the table meets them.

A table has zero or a power-of-two number of slots. A key's hash picks its home slot, the hash
modulo the number of slots. A new key takes the first free slot among the sixteen from its home
on, wrapping around the end; when those are all taken it looks at the sixteen that start sixteen
slots further on, then thirty-two past that, forty-eight past that, and so on. A table of fewer
than sixteen slots looks once round the whole table from the home slot. A table holds at most
seven keys in eight (one less than its slots when it has eight or fewer); to take a key past
that it moves to the smallest table for one more key, and moves its keys there in slot order.
A key already in a table keeps its slot. A walk meets the keys in slot order.

Keys are hashed one machine word at a time: the running hash is rotated left by five bits, the
word is added without carry, and the result is multiplied by a fixed odd constant. -/
namespace TagAtlas

/-- The odd multiplier of the word hash. -/
def hashMultiplier : UInt64 := 0x517cc1b727220a95

/-- Mix one machine word into a running hash. -/
def mixWord (h w : UInt64) : UInt64 := ((h <<< 5 ||| h >>> 59) ^^^ w) * hashMultiplier

/-- The machine word of a signed value, in two's complement. -/
def wordOfInt (i : Int) : UInt64 := UInt64.ofNat (i % Int.pow 2 64).toNat

/-- The hash of a signed id. -/
def hashId (i : Int) : UInt64 := mixWord 0 (wordOfInt i)

/-- The hash of an ordered pair of indices. -/
def hashPair (p : Nat × Nat) : UInt64 := mixWord (mixWord 0 (UInt64.ofNat p.1)) (UInt64.ofNat p.2)

/-- The least power of two at or above `n`: one up to one, else two to the bit length of
`n - 1`. -/
def powerOfTwoAtLeast (n : Nat) : Nat := if n ≤ 1 then 1 else Nat.pow 2 ((n - 1).log2 + 1)

/-- The number of slots of a table made for `n` keys. -/
def slotsFor (n : Nat) : Nat :=
  if n < 4 then 4 else if n < 8 then 8 else powerOfTwoAtLeast (n * 8 / 7)

/-- How many keys a table of `slots` slots holds before it grows. -/
def capacityOf (slots : Nat) : Nat := if slots ≤ 8 then slots - 1 else slots / 8 * 7

/-- An occupied slot: a key, its hash and its value. -/
structure Slot (α β : Type) where
  key : α
  hash : UInt64
  value : β

/-- A table: its slots, free or occupied, and the number of keys it holds. -/
structure SlotTable (α β : Type) where
  slots : Array (Option (Slot α β)) := #[]
  size : Nat := 0

namespace SlotTable

variable {α β : Type}

/-- The first slot among `n` from `start` on, wrapping around, that passes a test. -/
def scan (slots : Array (Option (Slot α β))) (test : Option (Slot α β) → Bool) (start n : Nat) :
    Option Nat :=
  (List.range n).findSome? fun j =>
    let i := (start + j) % slots.size
    if test (slots[i]?.join) then some i else none

/-- The first slot, in the probing order of a hash, that passes a test. -/
def probe (slots : Array (Option (Slot α β))) (test : Option (Slot α β) → Bool) (h : UInt64) :
    Option Nat :=
  let n := slots.size
  let home := h.toNat % n
  let rec windows (pos stride : Nat) : Nat → Option Nat
    | 0 => none
    | fuel + 1 =>
      match scan slots test pos 16 with
      | some i => some i
      | none => windows ((pos + stride) % n) (stride + 16) fuel
  if n = 0 then none
  else if n < 16 then scan slots test home n
  else windows home 16 (n / 16)

/-- Put an entry in the first free slot of its hash's probing order. -/
def place (slots : Array (Option (Slot α β))) (e : Slot α β) : Array (Option (Slot α β)) :=
  match probe slots Option.isNone e.hash with
  | some i => slots.setIfInBounds i (some e)
  | none => slots

/-- The entries in slot order. -/
def entries (t : SlotTable α β) : List (Slot α β) := t.slots.toList.filterMap id

/-- The keys and values in slot order. -/
def walk (t : SlotTable α β) : List (α × β) := t.entries.map fun e => (e.key, e.value)

/-- Move the entries to a table of `n` slots, in slot order. -/
def rebuild (t : SlotTable α β) (n : Nat) : SlotTable α β :=
  { slots := t.entries.foldl place (Array.replicate n none), size := t.size }

/-- Make room for `extra` more keys, growing when the table would fill past its capacity. -/
def reserve (t : SlotTable α β) (extra : Nat) : SlotTable α β :=
  let cap := capacityOf t.slots.size
  if cap - t.size < extra then t.rebuild (slotsFor (max (t.size + extra) (cap + 1))) else t

/-- The slot holding a key, found along its hash's probing order. -/
def find? [BEq α] (t : SlotTable α β) (key : α) (h : UInt64) : Option Nat :=
  match probe t.slots (fun s => s.all (·.key == key)) h with
  | some i => if (t.slots[i]?.join).isSome then some i else none
  | none => none

/-- Add a key with its value, or change the value of a key already held. -/
def upsert [BEq α] (t : SlotTable α β) (key : α) (h : UInt64) (f : Option β → β) :
    SlotTable α β :=
  match t.find? key h with
  | some i =>
    { t with slots := t.slots.modify i fun s => s.map fun e => { e with value := f (some e.value) } }
  | none =>
    let t := t.reserve 1
    { slots := place t.slots ⟨key, h, f none⟩, size := t.size + 1 }

/-- Insert a key with a value, replacing the value of a key already held. Unlike `upsert`, the
table makes room for one more key before it looks, so a full table grows even when the key is
already there. -/
def insert [BEq α] (t : SlotTable α β) (key : α) (h : UInt64) (v : β) : SlotTable α β :=
  (t.reserve 1).upsert key h fun _ => v

/-- The value of a key, found along its hash's probing order. -/
def get? [BEq α] (t : SlotTable α β) (key : α) (h : UInt64) : Option β :=
  (t.find? key h).bind fun i => (t.slots[i]?.join).map (·.value)

/-- Whether a key is held. -/
def contains [BEq α] (t : SlotTable α β) (key : α) (h : UInt64) : Bool := (t.find? key h).isSome

/-- The keys in slot order. -/
def keys (t : SlotTable α β) : List α := t.entries.map (·.key)

/-- Change every value where it sits. -/
def mapValues {γ : Type} (t : SlotTable α β) (f : β → γ) : SlotTable α γ :=
  { slots := t.slots.map (·.map fun e => ⟨e.key, e.hash, f e.value⟩), size := t.size }

end SlotTable

/-- The keys of a list in the order a walk over a table made for the whole list meets them,
each key once. -/
def walkOrder {α : Type} [BEq α] (hash : α → UInt64) (keys : List α) : List α :=
  ((keys.foldl (fun t k => t.upsert k (hash k) fun _ => ())
    (({} : SlotTable α Unit).reserve keys.length)).walk).map Prod.fst

/-- Three ids share a table of four slots and sit at their homes. -/
example : walkOrder hashId [1, 2, 3] = [1, 2, 3] := by decide

/-- The home of id 4 in a table of four slots is the first slot. -/
example : walkOrder hashId [1, 4, 3] = [4, 1, 3] := by decide

/-- Five ids take a table of eight slots, where the homes of 1, 2, 3, 5 and 6 are 5, 2, 7, 1
and 6. -/
example : walkOrder hashId [1, 2, 3, 5, 6] = [5, 2, 1, 6, 3] := by decide

/-- A table is made for every key given, repeats included, so four ids of which one repeats
take eight slots. -/
example : walkOrder hashId [3, 1, 3, 2] = [2, 1, 3] := by decide

end TagAtlas
