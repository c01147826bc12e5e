import Libertas.Assoc.BestNetwork
import Libertas.Assoc.Setters
import Libertas.Printing

/-!
# The listing of the scan table

`lbs_getscantable` prints the entries of `network_list` into a page, five calls of
`snprintf` for each entry, and gives the page to the reader of a debugfs file. It does
not look at what is left of the page.

The characters are bytes. The numbers of a channel and of an RSSI are signed for the
formats.
-/

namespace Libertas

open ByteOrder Printing

/-- `WLAN_CAPABILITY_SPECTRUM_MGMT`. -/
def wlanCapabilitySpectrumMgmt : UInt16 := 0x0100

/-- `EFAULT`. -/
def eFault : Int := 14

/-- `ieee80211_is_empty_essid`. -/
def isEmptyEssid (essid : List UInt8) (essidLen : Nat) : Bool :=
  if essidLen = 1 ∧ byteAt essid 0 = 0x20 then true
  else (slice essid 0 essidLen).all (· == 0)

/-- `escape_essid`. -/
def escapeEssid (essid : List UInt8) (essidLen : UInt8) : List UInt8 :=
  if isEmptyEssid essid essidLen.toNat then ascii "<hidden>"
  else
    (slice essid 0 (min essidLen.toNat iwEssidMaxSize)).flatMap fun byte =>
      if byte = 0 then ascii "\\0" else [byte]

/-- `print_mac`. -/
def printMac (addr : List UInt8) : List UInt8 :=
  let byte (i : Nat) := unsigned 16 2 (byteAt addr i).toNat
  byte 0 ++ ascii ":" ++ byte 1 ++ ascii ":" ++ byte 2 ++ ascii ":" ++ byte 3 ++ ascii ":" ++
    byte 4 ++ ascii ":" ++ byte 5

/-- The first line. -/
def listingHead : List UInt8 :=
  ascii "# | ch  | rssi |       bssid       |   cap    | Qual | SSID \n"

/-- The texts of an entry. -/
def lineTexts {w : Nat} (numscansdone : Nat) (bss : BssDescriptor w) : List (List UInt8) :=
  let ibss := bss.capability &&& wlanCapabilityIbss
  let privacy := bss.capability &&& wlanCapabilityPrivacy
  let spectrumMgmt := bss.capability &&& wlanCapabilitySpectrumMgmt
  [unsigned 10 2 numscansdone ++ ascii "| " ++ signed 3 bss.channel.toInt32.toInt ++
      ascii " | " ++ signed 4 bss.rssi.toInt32.toInt ++ ascii " | " ++ printMac bss.bssid ++
      ascii " |",
    ascii " " ++ unsigned 16 4 bss.capability.toNat ++ ascii "-",
    ascii (if ibss ≠ 0 then "A" else "I") ++ ascii (if privacy ≠ 0 then "P" else " ") ++
      ascii (if spectrumMgmt ≠ 0 then "S" else " ") ++ ascii " |",
    ascii " " ++ signed 4 (scanRssi bss.rssi) ++ ascii " |",
    ascii " " ++ escapeEssid bss.ssid bss.ssidLen ++ ascii "\n"]

/-- The result of a read from the file: what it returns, the bytes it copies, and the new position
in the file. -/
structure FileRead where
  ret : Int
  copied : List UInt8
  ppos : Int
deriving DecidableEq, Repr

/-- `simple_read_from_buffer`; `fault` is the outcome of the copy to the reader. -/
def simpleReadFromBuffer (mem : Nat → UInt8) (available count : Nat) (ppos : Int) (fault : Bool) :
    FileRead :=
  if ppos < 0 then { ret := -eInval, copied := [], ppos := ppos }
  else if available ≤ ppos.toNat then { ret := 0, copied := [], ppos := ppos }
  else if fault then { ret := -eFault, copied := [], ppos := ppos }
  else
    let count := min count (available - ppos.toNat)
    { ret := count, copied := Store.read mem ppos.toNat count, ppos := ppos + count }

namespace ScanTable

variable {w : Nat} (table : ScanTable w)

/-- What `lbs_getscantable` prints. -/
def listing : List (List UInt8) :=
  listingHead :: table.networkList.zipIdx.flatMap fun (n, numscansdone) =>
    lineTexts numscansdone (table.networks n)

/-- The page, after everything is printed; `mem` is the memory from the page on. -/
def listingPage (printer : Printer) (mem : Nat → UInt8) : Page :=
  printer.printAll { pos := 0, mem := mem, calls := [] } table.listing

/-- `lbs_getscantable`. -/
def lbsGetscantable (printer : Printer) (mem : Nat → UInt8) (count : Nat) (ppos : Int)
    (fault : Bool) : FileRead :=
  let page := table.listingPage printer mem
  simpleReadFromBuffer page.mem page.pos count ppos fault

end ScanTable

/-- Every position is in the page, so that no room is negative, and the reader is offered nothing
behind the page. -/
structure ListingSafe {w : Nat} (table : ScanTable w) (printer : Printer) (mem : Nat → UInt8) :
    Prop where
  within : (table.listingPage printer mem).Within printer.size
  offered : ∀ count ppos fault, (table.lbsGetscantable printer mem count ppos fault).copied ≠ [] →
    ppos.toNat + (table.lbsGetscantable printer mem count ppos fault).copied.length ≤ printer.size

namespace BssDescriptor

variable {w : Nat} (bss : BssDescriptor w)

/-- The number of characters of an SSID: at most 32, with two for a zero. -/
def essidWidth : Nat :=
  if isEmptyEssid bss.ssid bss.ssidLen.toNat then 8
  else
    let essidLen := min bss.ssidLen.toNat iwEssidMaxSize
    essidLen + (slice bss.ssid 0 essidLen).count 0

/-- The number of characters of a line. -/
def lineWidth (numscansdone : Nat) : Nat :=
  47 + unsignedWidth 10 2 numscansdone + signedWidth 3 bss.channel.toInt32.toInt +
    signedWidth 4 bss.rssi.toInt32.toInt + bss.essidWidth

end BssDescriptor

/-- The number of characters of the listing. -/
def ScanTable.listingWidth {w : Nat} (table : ScanTable w) : Nat :=
  61 + (table.networkList.zipIdx.map fun (n, numscansdone) =>
    (table.networks n).lineWidth numscansdone).sum

section Widths

variable {w : Nat} {bss : BssDescriptor w}

theorem length_escaped (bytes : List UInt8) :
    (bytes.flatMap fun byte => if byte = 0 then ascii "\\0" else [byte]).length =
      bytes.length + bytes.count 0 := by
  induction bytes with
  | nil => rfl
  | cons byte bytes ih =>
      rw [List.flatMap_cons, List.length_append, ih, List.length_cons, List.count_cons]
      by_cases zero : byte = 0
      · subst zero
        have two : (ascii "\\0").length = 2 := rfl
        rw [if_pos rfl, two, if_pos BEq.rfl]
        omega
      · rw [if_neg zero, if_neg (by simpa using zero), List.length_singleton]
        omega

theorem length_escapeEssid (bss : BssDescriptor w) :
    (escapeEssid bss.ssid bss.ssidLen).length = bss.essidWidth := by
  rw [escapeEssid, BssDescriptor.essidWidth]
  split
  · rfl
  · rw [length_escaped, slice_length]

/-- A hardware address has six bytes of two characters, and five colons. -/
theorem length_printMac (addr : List UInt8) : (printMac addr).length = 17 := by
  have byte : ∀ i, (unsigned 16 2 (byteAt addr i).toNat).length = 2 := by
    intro i
    rw [length_unsigned]
    exact unsignedWidth_of_lt (by decide) (by decide) (byteAt addr i).toNat_lt
  have colon : (ascii ":").length = 1 := rfl
  simp only [printMac, List.length_append, byte, colon]

theorem signedWidth_scanRssi (rssi : UInt32) : signedWidth 4 (scanRssi rssi) = 4 := by
  have below : scanRssi rssi < 10 ^ 4 := by
    rw [scanRssi]
    omega
  rw [signedWidth, if_neg (by omega), Int.natAbs_natCast]
  exact unsignedWidth_of_lt (by decide) (by decide) below

theorem unsignedWidth_capability (capability : UInt16) :
    unsignedWidth 16 4 capability.toNat = 4 :=
  unsignedWidth_of_lt (by decide) (by decide) capability.toNat_lt

theorem length_lineTexts (numscansdone : Nat) (bss : BssDescriptor w) :
    ((lineTexts numscansdone bss).map List.length).sum = bss.lineWidth numscansdone := by
  have letter : ∀ (flag : UInt16) (yes no : String), (ascii yes).length = 1 →
      (ascii no).length = 1 → (ascii (if flag ≠ 0 then yes else no)).length = 1 := by
    intro flag yes no one one'
    split
    · exact one
    · exact one'
  have bar : (ascii "| ").length = 2 := rfl
  have bars : (ascii " | ").length = 3 := rfl
  have last : (ascii " |").length = 2 := rfl
  have blank : (ascii " ").length = 1 := rfl
  have dash : (ascii "-").length = 1 := rfl
  have newline : (ascii "\n").length = 1 := rfl
  simp only [lineTexts, List.map_cons, List.map_nil, List.sum_cons, List.sum_nil,
    List.length_append, length_printMac, length_escapeEssid,
    letter _ "A" "I" rfl rfl, letter _ "P" " " rfl rfl, letter _ "S" " " rfl rfl, bar, bars,
    last, blank, dash, newline, length_unsigned, length_signed, signedWidth_scanRssi,
    unsignedWidth_capability]
  rw [BssDescriptor.lineWidth]
  omega

theorem length_listing (table : ScanTable w) :
    (table.listing.map List.length).sum = table.listingWidth := by
  have head : listingHead.length = 61 := rfl
  rw [ScanTable.listing, List.map_cons, List.sum_cons, head, ScanTable.listingWidth]
  congr 1
  induction table.networkList.zipIdx with
  | nil => rfl
  | cons entry entries ih =>
      rw [List.flatMap_cons, List.map_append, List.sum_append, ih, List.map_cons, List.sum_cons,
        length_lineTexts]

end Widths

section Reads

variable {w : Nat} {table : ScanTable w} {printer : Printer} {mem : Nat → UInt8}

/-- No more is copied than lies behind the position in the file. -/
theorem length_copied_le (mem : Nat → UInt8) (available count : Nat) (ppos : Int) (fault : Bool) :
    (simpleReadFromBuffer mem available count ppos fault).copied.length ≤
      available - ppos.toNat := by
  rw [simpleReadFromBuffer]
  split
  · exact Nat.zero_le _
  split
  · exact Nat.zero_le _
  split
  · exact Nat.zero_le _
  · dsimp only
    rw [Store.read_length]
    exact Nat.min_le_right _ _

/-- What is copied is in front of the end of what is available. -/
theorem copied_within {available count : Nat} {ppos : Int} {fault : Bool}
    (some_copied : (simpleReadFromBuffer mem available count ppos fault).copied ≠ []) :
    ppos.toNat + (simpleReadFromBuffer mem available count ppos fault).copied.length ≤
      available := by
  have few := length_copied_le mem available count ppos fault
  have positive := List.length_pos_iff.mpr some_copied
  omega

theorem listingPage_within_iff : (table.listingPage printer mem).Within printer.size ↔
    table.listingWidth ≤ printer.size := by
  have start : Page.Within printer.size { pos := 0, mem := mem, calls := [] } :=
    ⟨Nat.zero_le _, nofun⟩
  have fits := Printer.within_printAll_iff table.listing start
  rw [Nat.zero_add, length_listing] at fits
  exact fits

/-- The listing stays in its page if and only if its characters fit. -/
theorem listing_safe_iff (table : ScanTable w) (printer : Printer) (mem : Nat → UInt8) :
    ListingSafe table printer mem ↔ table.listingWidth ≤ printer.size := by
  constructor
  · intro safe
    exact listingPage_within_iff.mp safe.within
  · intro room
    have within : (table.listingPage printer mem).Within printer.size :=
      listingPage_within_iff.mpr room
    exact ⟨within, fun count ppos fault copied => (copied_within copied).trans within.pos⟩

/-- A listing that leaves a byte of the page is read as a whole. -/
theorem listing_read (room : table.listingWidth < printer.size) {count : Nat}
    (enough : table.listingWidth ≤ count) :
    (table.lbsGetscantable printer mem count 0 false).copied = table.listing.flatten := by
  have width := length_listing table
  let start : Page := { pos := 0, mem := mem, calls := [] }
  have fits : start.pos + (table.listing.map List.length).sum < printer.size := by
    show 0 + (table.listing.map List.length).sum < printer.size
    omega
  obtain ⟨pos, text, -⟩ := Printer.read_printAll table.listing fits
  rw [show start.pos = 0 from rfl, Nat.zero_add, width] at pos
  rw [width] at text
  have positive : ¬table.listingWidth ≤ 0 := by
    rw [ScanTable.listingWidth]
    omega
  rw [ScanTable.lbsGetscantable, ScanTable.listingPage, pos, simpleReadFromBuffer,
    if_neg (by decide), Int.toNat_zero, if_neg positive, if_neg (by decide), Nat.sub_zero,
    Nat.min_eq_right enough]
  exact text

end Reads

/-- A page of 4 KiB, and an `snprintf` that stores nothing when the room is not an `int`. -/
def pagePrinter : Printer where
  size := 4096
  width := 32
  fits := by decide
  ret := fun room text => if room < 2 ^ 31 then text.length else 0
  store := fun room text => if room < 2 ^ 31 then stored room text else []
  ret_eq := fun _ small => if_pos (Nat.lt_of_le_of_lt small (by decide))
  store_eq := fun _ small => if_pos (Nat.lt_of_le_of_lt small (by decide))

/-- A table of 48 networks, each with an SSID of 32 characters. -/
def crowdedTable : ScanTable 32 where
  networks := fun _ => { BssDescriptor.zero with ssid := List.replicate 32 0x61, ssidLen := 32 }
  networkList := (List.finRange maxNetworkCount).take 48
  networkFreeList := (List.finRange maxNetworkCount).drop 48

theorem listing_overflows : ¬ ∀ (table : ScanTable 32) (mem : Nat → UInt8),
    table.networkList.Nodup → ListingSafe table pagePrinter mem := by
  intro safe
  have different : crowdedTable.networkList.Nodup :=
    (List.nodup_finRange maxNetworkCount).sublist (List.take_sublist _ _)
  have within := (safe crowdedTable (fun _ => 0) different).within
  have fits := listingPage_within_iff.mp within
  revert fits
  decide +kernel

end Libertas
