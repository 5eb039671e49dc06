import Witan.Bincode.Integers

open bincode

/-! A 32-bit linear memory that two parties share: the blocks that are allocated,
and the bytes in them. -/

namespace memory

/-- A range of addresses. -/
structure Block where
  ptr : Nat
  size : Nat
  deriving DecidableEq

namespace Block

def Covers (block : Block) (address : Nat) : Prop := block.ptr ≤ address ∧ address < block.ptr + block.size

/-- No address belongs to both. -/
def Apart (block other : Block) : Prop :=
  block.ptr + block.size ≤ other.ptr ∨ other.ptr + other.size ≤ block.ptr

def Within (block outer : Block) : Prop :=
  outer.ptr ≤ block.ptr ∧ block.ptr + block.size ≤ outer.ptr + outer.size

/-- A block that an allocator may hand out: not empty, after the null address, in
    the 32-bit address space, and at most half of it. -/
structure Placed (block : Block) : Prop where
  ptr_pos : 0 < block.ptr
  size_pos : 0 < block.size
  size_lt : block.size < 2 ^ 31
  fits : block.ptr + block.size ≤ 2 ^ 32

instance (block : Block) (address : Nat) : Decidable (block.Covers address) :=
  inferInstanceAs (Decidable (_ ∧ _))

instance (block other : Block) : Decidable (block.Apart other) := inferInstanceAs (Decidable (_ ∨ _))

instance (block outer : Block) : Decidable (block.Within outer) := inferInstanceAs (Decidable (_ ∧ _))

variable {block other outer : Block} {address : Nat}

theorem Apart.symm (h : block.Apart other) : other.Apart block := Or.symm h

theorem Apart.not_covers (h : block.Apart other) (hcovers : block.Covers address) : ¬ other.Covers address := by
  rintro ⟨hlow, hhigh⟩
  obtain ⟨hlow', hhigh'⟩ := hcovers
  rcases h with h | h <;> omega

theorem Within.covers (h : block.Within outer) (hcovers : block.Covers address) : outer.Covers address := by
  obtain ⟨hlow, hhigh⟩ := h
  obtain ⟨hlow', hhigh'⟩ := hcovers
  exact ⟨by omega, by omega⟩

theorem Within.apart (h : block.Within outer) (hapart : outer.Apart other) : block.Apart other := by
  obtain ⟨hlow, hhigh⟩ := h
  rcases hapart with hapart | hapart
  · exact .inl (by omega)
  · exact .inr (by omega)

end Block

/-- The memory. Allocated blocks are apart from each other. -/
structure Memory where
  bytes : Nat → UInt8
  blocks : List Block
  placed : ∀ block ∈ blocks, block.Placed
  apart : blocks.Pairwise Block.Apart

namespace Memory

/-- The address belongs to an allocated block. -/
def Live (m : Memory) (address : Nat) : Prop := ∃ block ∈ m.blocks, block.Covers address

instance (m : Memory) (address : Nat) : Decidable (m.Live address) := List.decidableBEx _ _

/-- The range lies in an allocated block. -/
def Holds (m : Memory) (range : Block) : Prop := ∃ block ∈ m.blocks, range.Within block

instance (m : Memory) (range : Block) : Decidable (m.Holds range) := List.decidableBEx _ _

/-- A place that is free for `size` bytes. -/
structure Place (m : Memory) (size : Nat) where
  ptr : Nat
  placed : Block.Placed ⟨ptr, size⟩
  apart : ∀ block ∈ m.blocks, Block.Apart ⟨ptr, size⟩ block

/-- A growable buffer that holds `len` bytes: it has allocated its capacity, or
    nothing yet. -/
inductive Buffer (m : Memory) (len : Nat) where
  | dangling (empty : len = 0)
  | allocated (capacity : Nat) (enough : len ≤ capacity) (place : m.Place capacity)

def read (m : Memory) (ptr len : Nat) : Bytes := (List.range len).map fun i => m.bytes (ptr + i)

def write (m : Memory) (ptr : Nat) (data : Bytes) : Memory :=
  { m with bytes := fun address =>
      if ptr ≤ address then data[address - ptr]?.getD (m.bytes address) else m.bytes address }

/-- A little-endian machine word. -/
def readWord (m : Memory) (ptr : Nat) : UInt32 := UInt32.ofNat (leValue (m.read ptr 4))

def writeWord (m : Memory) (ptr : Nat) (word : UInt32) : Memory := m.write ptr (leBytes 4 word.toNat)

/-- Allocate a free place. -/
def allocate (m : Memory) {size : Nat} (place : m.Place size) : Memory where
  bytes := m.bytes
  blocks := ⟨place.ptr, size⟩ :: m.blocks
  placed := by
    intro block hblock
    rcases List.mem_cons.mp hblock with rfl | hblock
    · exact place.placed
    · exact m.placed block hblock
  apart := List.pairwise_cons.mpr ⟨place.apart, m.apart⟩

/-- Give an allocated block back. -/
def release (m : Memory) (block : Block) : Memory where
  bytes := m.bytes
  blocks := m.blocks.erase block
  placed := fun other hother => m.placed other (List.mem_of_mem_erase hother)
  apart := m.apart.sublist List.erase_sublist

/-- Whatever happens outside the allocated blocks. -/
def disturb (m : Memory) (scratch : Nat → UInt8) : Memory :=
  { m with bytes := fun address => if m.Live address then m.bytes address else scratch address }

section Access

variable {m m' : Memory} {ptr len : Nat} {data : Bytes}

@[simp] theorem read_length (m : Memory) (ptr len : Nat) : (m.read ptr len).length = len := by
  simp [read]

/-- The two memories have the same bytes in the range. -/
def SameOn (m m' : Memory) (range : Block) : Prop :=
  ∀ address, range.Covers address → m'.bytes address = m.bytes address

theorem SameOn.refl (m : Memory) (range : Block) : SameOn m m range := fun _ _ => rfl

theorem SameOn.trans {m'' : Memory} {range : Block} (h : SameOn m m' range) (h' : SameOn m' m'' range) :
    SameOn m m'' range := fun address hcovers => (h' address hcovers).trans (h address hcovers)

theorem SameOn.within {range outer : Block} (h : SameOn m m' outer) (hwithin : range.Within outer) :
    SameOn m m' range := fun address hcovers => h address (hwithin.covers hcovers)

/-- A read sees the bytes of its range and no others. -/
theorem SameOn.read_eq (h : SameOn m m' ⟨ptr, len⟩) : m'.read ptr len = m.read ptr len := by
  unfold read
  refine List.map_congr_left fun i hi => h (ptr + i) ⟨Nat.le_add_right ptr i, ?_⟩
  have hbound := List.mem_range.mp hi
  change ptr + i < ptr + len
  omega

theorem SameOn.readWord_eq (h : SameOn m m' ⟨ptr, 4⟩) : m'.readWord ptr = m.readWord ptr := by
  unfold readWord
  rw [h.read_eq]

theorem sameOn_write {range : Block} (h : range.Apart ⟨ptr, data.length⟩) : SameOn m (m.write ptr data) range := by
  intro address hcovers
  have houtside := h.not_covers hcovers
  unfold write
  dsimp only
  split
  · next hlow =>
    have hpast : data.length ≤ address - ptr := by
      apply Nat.le_of_not_lt
      intro hinside
      exact houtside ⟨hlow, (Nat.sub_lt_iff_lt_add' hlow).mp hinside⟩
    rw [List.getElem?_eq_none hpast, Option.getD_none]
  · rfl

theorem sameOn_writeWord {range : Block} {word : UInt32} (h : range.Apart ⟨ptr, 4⟩) :
    SameOn m (m.writeWord ptr word) range := sameOn_write (by rwa [leBytes_length])

/-- What was written reads back. -/
theorem read_write (m : Memory) (ptr : Nat) (data : Bytes) : (m.write ptr data).read ptr data.length = data := by
  apply List.ext_getElem
  · exact read_length _ _ _
  · intro i hi hdata
    simp [read, write, List.getElem?_eq_getElem hdata]

theorem readWord_writeWord (m : Memory) (ptr : Nat) (word : UInt32) : (m.writeWord ptr word).readWord ptr = word := by
  have hread := read_write m ptr (leBytes 4 word.toNat)
  rw [leBytes_length] at hread
  unfold readWord writeWord
  rw [hread, leValue_leBytes 4 word.toNat word.toNat_lt]
  exact UInt32.ofNat_toNat

/-- The blocks that are allocated are left alone. -/
theorem sameOn_disturb {scratch : Nat → UInt8} {range : Block} (h : m.Holds range) :
    SameOn m (m.disturb scratch) range := by
  intro address hcovers
  obtain ⟨block, hblock, hwithin⟩ := h
  exact if_pos ⟨block, hblock, hwithin.covers hcovers⟩

theorem sameOn_allocate {size : Nat} (place : m.Place size) (range : Block) : SameOn m (m.allocate place) range :=
  fun _ _ => rfl

/-- Addresses are machine words. -/
theorem Place.toNat_ptr {size : Nat} (place : m.Place size) : (UInt32.ofNat place.ptr).toNat = place.ptr := by
  have hsize : 0 < size := place.placed.size_pos
  have hfits : place.ptr + size ≤ 2 ^ 32 := place.placed.fits
  have hlt : place.ptr < 2 ^ 32 := by omega
  exact UInt32.toNat_ofNat_of_lt hlt

theorem Place.ofNat_ptr_ne_zero {size : Nat} (place : m.Place size) : UInt32.ofNat place.ptr ≠ 0 := by
  intro hzero
  have htoNat := place.toNat_ptr
  rw [hzero] at htoNat
  exact Nat.ne_of_lt place.placed.ptr_pos htoNat

theorem Holds.of_blocks {range : Block} (h : m.Holds range) (hsubset : m.blocks ⊆ m'.blocks) : m'.Holds range := by
  obtain ⟨block, hblock, hwithin⟩ := h
  exact ⟨block, hsubset hblock, hwithin⟩

/-- A free place is apart from all that is allocated. -/
theorem Place.apart_of_holds {size : Nat} (place : m.Place size) {range : Block} (h : m.Holds range) :
    range.Apart ⟨place.ptr, size⟩ := by
  obtain ⟨block, hblock, hwithin⟩ := h
  exact hwithin.apart (place.apart block hblock).symm

/-- The front part of a free place. -/
theorem Place.front_apart_of_holds {capacity : Nat} (place : m.Place capacity) {range : Block} (h : m.Holds range)
    (henough : len ≤ capacity) : range.Apart ⟨place.ptr, len⟩ := by
  have hfront : Block.Within ⟨place.ptr, len⟩ ⟨place.ptr, capacity⟩ :=
    ⟨Nat.le_refl _, Nat.add_le_add_left henough _⟩
  exact (hfront.apart (place.apart_of_holds h).symm).symm

end Access

/-- The end of what is allocated. -/
def top (m : Memory) : Nat := m.blocks.foldr (fun block top => max (block.ptr + block.size) top) 8

theorem top_pos (m : Memory) : 0 < m.top := by
  unfold top
  induction m.blocks with
  | nil => decide
  | cons block blocks ih => exact Nat.lt_of_lt_of_le ih (Nat.le_max_right _ _)

theorem le_top (m : Memory) : ∀ block ∈ m.blocks, block.ptr + block.size ≤ m.top := by
  unfold top
  induction m.blocks with
  | nil => exact fun _ hblock => nomatch hblock
  | cons block blocks ih =>
    intro other hother
    rcases List.mem_cons.mp hother with rfl | hother
    · exact Nat.le_max_left _ _
    · exact Nat.le_trans (ih other hother) (Nat.le_max_right _ _)

/-- An allocator that never reuses memory. -/
def bump (m : Memory) (size : Nat) : Option (m.Place size) :=
  if h : 0 < size ∧ size < 2 ^ 31 ∧ m.top + size ≤ 2 ^ 32 then
    some ⟨m.top, ⟨m.top_pos, h.1, h.2.1, h.2.2⟩, fun block hblock => .inr (m.le_top block hblock)⟩
  else none

theorem bump_eq_some {m : Memory} {size : Nat} (hpos : 0 < size) (hlimit : size < 2 ^ 31)
    (hroom : m.top + size ≤ 2 ^ 32) : ∃ place, m.bump size = some place ∧ place.ptr = m.top := by
  unfold bump
  rw [dif_pos ⟨hpos, hlimit, hroom⟩]
  exact ⟨_, rfl, rfl⟩

/-- An allocation at the end moves the end by its size. -/
theorem top_allocate {m : Memory} {size : Nat} {place : m.Place size} (h : place.ptr = m.top) :
    (m.allocate place).top = m.top + size := by
  change max (place.ptr + size) m.top = m.top + size
  rw [h]
  omega

/-- A buffer without spare capacity. -/
def bumpBuffer (m : Memory) (len : Nat) : Option (m.Buffer len) :=
  if h : len = 0 then some (.dangling h) else (m.bump len).map (.allocated len (Nat.le_refl len))

theorem bumpBuffer_eq_some {m : Memory} {len : Nat} (hlimit : len < 2 ^ 31) (hroom : m.top + len ≤ 2 ^ 32) :
    (∃ hempty, m.bumpBuffer len = some (.dangling hempty)) ∨
      ∃ place, m.bumpBuffer len = some (.allocated len (Nat.le_refl len) place) ∧ place.ptr = m.top := by
  unfold bumpBuffer
  by_cases hempty : len = 0
  · rw [dif_pos hempty]
    exact .inl ⟨hempty, rfl⟩
  · rw [dif_neg hempty]
    obtain ⟨place, hplace, hptr⟩ := bump_eq_some (Nat.pos_of_ne_zero hempty) hlimit hroom
    rw [hplace]
    exact .inr ⟨place, rfl, hptr⟩

end Memory

end memory
