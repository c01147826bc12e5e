import Libertas.Stores

/-!
# Printing into a buffer

`snprintf` stores what fits of a text, with a zero byte behind it, and returns the
length of the whole text. Code prints one text after another at a position that it
advances by what is returned, and gives the rest of the buffer as the room, in the
unsigned type `size_t`. Behind the end of the buffer that difference wraps around.

`within_printAll_iff` says when no position gets there, and `read_printAll` what the
buffer holds if the last byte is not needed either.
-/

namespace Printing

/-- What is stored of a text. -/
def stored (room : Nat) (text : List UInt8) : List UInt8 :=
  if room = 0 then [] else text.take (room - 1) ++ [0]

/-- A buffer, and an `snprintf` that is as documented while the room is not larger than the
buffer. -/
structure Printer where
  size : Nat
  /-- The width of `size_t`. -/
  width : Nat
  fits : size < 2 ^ width
  ret : Nat → List UInt8 → Nat
  store : Nat → List UInt8 → List UInt8
  ret_eq : ∀ {room : Nat} (text : List UInt8), room ≤ size → ret room text = text.length
  store_eq : ∀ {room : Nat} (text : List UInt8), room ≤ size → store room text = stored room text

/-- The position, the memory from the start of the buffer on, and the positions of the calls. -/
structure Page where
  pos : Nat
  mem : Nat → UInt8
  calls : List Nat

/-- No position is behind the end of a buffer. -/
structure Page.Within (size : Nat) (page : Page) : Prop where
  pos : page.pos ≤ size
  calls : ∀ pos ∈ page.calls, pos ≤ size

namespace Printer

variable (printer : Printer)

/-- The unsigned difference. -/
def room (pos : Nat) : Nat :=
  (BitVec.ofNat printer.width printer.size - BitVec.ofNat printer.width pos).toNat

/-- A call of `snprintf`. -/
def print (page : Page) (text : List UInt8) : Page :=
  { pos := page.pos + printer.ret (printer.room page.pos) text
    mem := Store.run (Store.copyTo page.pos (printer.store (printer.room page.pos) text)) page.mem
    calls := page.calls ++ [page.pos] }

/-- One call after another. -/
def printAll (page : Page) (texts : List (List UInt8)) : Page :=
  texts.foldl printer.print page

variable {printer} {page : Page} {text : List UInt8}

theorem room_eq {pos : Nat} (le : pos ≤ printer.size) : printer.room pos = printer.size - pos := by
  have fits := printer.fits
  have less : BitVec.ofNat printer.width pos ≤ BitVec.ofNat printer.width printer.size := by
    rw [BitVec.le_def, BitVec.toNat_ofNat, BitVec.toNat_ofNat, Nat.mod_eq_of_lt fits,
      Nat.mod_eq_of_lt (Nat.lt_of_le_of_lt le fits)]
    exact le
  rw [room, BitVec.toNat_sub_of_le less, BitVec.toNat_ofNat, BitVec.toNat_ofNat,
    Nat.mod_eq_of_lt fits, Nat.mod_eq_of_lt (Nat.lt_of_le_of_lt le fits)]

/-- Inside of the buffer the position moves behind the text. -/
theorem print_pos (le : page.pos ≤ printer.size) :
    (printer.print page text).pos = page.pos + text.length := by
  have small : printer.room page.pos ≤ printer.size := by
    rw [room_eq le]
    exact Nat.sub_le _ _
  rw [print, printer.ret_eq text small]

/-- A position is not forgotten. -/
theorem mem_calls_printAll {pos : Nat} (texts : List (List UInt8)) (called : pos ∈ page.calls) :
    pos ∈ (printer.printAll page texts).calls := by
  induction texts generalizing page with
  | nil => exact called
  | cons text texts ih => exact ih (List.mem_append_left _ called)

/-- Behind the end there is no way back. -/
theorem not_within_printAll (texts : List (List UInt8)) (behind : printer.size < page.pos) :
    ¬(printer.printAll page texts).Within printer.size := by
  intro within
  cases texts with
  | nil => exact absurd within.pos (Nat.not_le_of_lt behind)
  | cons text texts =>
      have called : page.pos ∈ (printer.printAll page (text :: texts)).calls :=
        mem_calls_printAll texts (List.mem_append_right _ List.mem_cons_self)
      exact absurd (within.calls _ called) (Nat.not_le_of_lt behind)

/-- No position gets behind the end if and only if the texts fit. -/
theorem within_printAll_iff (texts : List (List UInt8)) (within : page.Within printer.size) :
    (printer.printAll page texts).Within printer.size ↔
      page.pos + (texts.map List.length).sum ≤ printer.size := by
  induction texts generalizing page with
  | nil => exact iff_of_true within within.pos
  | cons text texts ih =>
      have pos : (printer.print page text).pos = page.pos + text.length := print_pos within.pos
      rw [List.map_cons, List.sum_cons, ← Nat.add_assoc, ← pos]
      by_cases inside : (printer.print page text).pos ≤ printer.size
      · have next : (printer.print page text).Within printer.size := by
          refine ⟨inside, fun pos called => ?_⟩
          rcases List.mem_append.mp called with before | here
          · exact within.calls pos before
          · rw [List.mem_singleton.mp here]
            exact within.pos
        exact ih next
      · have behind := Nat.lt_of_not_le inside
        exact iff_of_false (not_within_printAll texts behind) (by omega)

/-- A text for which there is more than enough room is stored behind what is there. -/
theorem print_mem (room : page.pos + text.length < printer.size) :
    Store.read (printer.print page text).mem page.pos text.length = text ∧
      ∀ i < page.pos, (printer.print page text).mem i = page.mem i := by
  have size : printer.room page.pos = printer.size - page.pos := room_eq (by omega)
  have whole : printer.store (printer.room page.pos) text = text ++ [0] := by
    rw [printer.store_eq text (by omega), size, stored, if_neg (by omega),
      List.take_of_length_le (by omega)]
  rw [print, whole]
  constructor
  · have copied : Store.read (Store.run (Store.copyTo page.pos (text ++ [0])) page.mem)
        (page.pos + 0) text.length = ((text ++ [0]).drop 0).take text.length :=
      Store.read_copyTo_within (by rw [List.length_append]; omega)
    rw [Nat.add_zero, List.drop_zero] at copied
    exact copied.trans List.take_left
  · exact fun i before => Store.run_copyTo_of_apart (.inl before)

theorem read_printAll (texts : List (List UInt8))
    (room : page.pos + (texts.map List.length).sum < printer.size) :
    (printer.printAll page texts).pos = page.pos + (texts.map List.length).sum ∧
      Store.read (printer.printAll page texts).mem page.pos (texts.map List.length).sum =
        texts.flatten ∧
      ∀ i < page.pos, (printer.printAll page texts).mem i = page.mem i := by
  induction texts generalizing page with
  | nil => exact ⟨rfl, rfl, fun _ _ => rfl⟩
  | cons text texts ih =>
      rw [List.map_cons, List.sum_cons] at room ⊢
      have pos : (printer.print page text).pos = page.pos + text.length := print_pos (by omega)
      have first : page.pos + text.length < printer.size := by omega
      obtain ⟨here, before⟩ := print_mem first
      obtain ⟨last, rest, kept⟩ := @ih (printer.print page text) (by omega)
      rw [pos] at last rest kept
      refine ⟨last.trans (Nat.add_assoc _ _ _), ?_, fun i less => ?_⟩
      · rw [Store.read_append, List.flatten_cons]
        have same : Store.read (printer.printAll page (text :: texts)).mem page.pos text.length =
            Store.read (printer.print page text).mem page.pos text.length :=
          Store.read_congr fun i _ below => kept i below
        rw [same, here]
        exact congrArg (text ++ ·) rest
      · exact (kept i (by omega)).trans (before i less)

end Printer

section Formats

/-- The bytes of a literal. -/
def ascii (text : String) : List UInt8 :=
  text.toList.map fun c => UInt8.ofNat c.toNat

/-- `%0<width>u`, or `x` for the base 16. -/
def unsigned (base width n : Nat) : List UInt8 :=
  let digits := (Nat.toDigits base n).map fun c => UInt8.ofNat c.toNat
  List.replicate (width - digits.length) 0x30 ++ digits

/-- `%0<width>d`. -/
def signed (width : Nat) (n : Int) : List UInt8 :=
  if n < 0 then 0x2d :: unsigned 10 (width - 1) n.natAbs else unsigned 10 width n.natAbs

/-- The number of characters of a number, with its leading zeros. -/
def unsignedWidth (base width n : Nat) : Nat :=
  max width (Nat.toDigits base n).length

def signedWidth (width : Nat) (n : Int) : Nat :=
  if n < 0 then 1 + unsignedWidth 10 (width - 1) n.natAbs else unsignedWidth 10 width n.natAbs

theorem length_unsigned (base width n : Nat) :
    (unsigned base width n).length = unsignedWidth base width n := by
  rw [unsigned, unsignedWidth, List.length_append, List.length_replicate, List.length_map]
  omega

theorem length_signed (width : Nat) (n : Int) :
    (signed width n).length = signedWidth width n := by
  rw [signed, signedWidth]
  split
  · rw [List.length_cons, length_unsigned, Nat.add_comm]
  · exact length_unsigned _ _ _

/-- A number that is not longer than its field. -/
theorem unsignedWidth_of_lt {base width n : Nat} (large : 1 < base) (positive : 0 < width)
    (short : n < base ^ width) : unsignedWidth base width n = width :=
  Nat.max_eq_left ((Nat.length_toDigits_le_iff large positive).mpr short)

/-- The digits of a number below a power of the base. -/
theorem length_unsigned_le {base digits n : Nat} (large : 1 < base) (positive : 0 < digits)
    (short : n < base ^ digits) : (unsigned base 0 n).length ≤ digits := by
  rw [length_unsigned, unsignedWidth, Nat.zero_max]
  exact (Nat.length_toDigits_le_iff large positive).mpr short

theorem length_signed_byte (value : UInt8) : (signed 0 value.toNat).length ≤ 3 := by
  have small := value.toNat_lt
  rw [signed, if_neg (by omega)]
  exact length_unsigned_le (by decide) (by decide) (by omega)

end Formats

end Printing
