import Libertas.Printing

/-!
# Scanning a number

`sscanf` skips blanks, wants a digit, and takes all the digits that follow. In base 16
they may come behind `0x`. `scanUnsigned_prefix` and its companion say that a number
that was printed is scanned back, up to a byte that is no digit.

The values are not reduced to the width of an integer here. A conversion that wraps
around at each digit gives the reduced value in the end.
-/

namespace Scanning

/-- `isspace`. -/
def isSpace (c : UInt8) : Bool :=
  c = 0x20 ∨ 0x09 ≤ c ∧ c ≤ 0x0d

/-- The value of a digit or a letter. -/
def digitValue (c : UInt8) : Option Nat :=
  if 0x30 ≤ c ∧ c ≤ 0x39 then some (c.toNat - 0x30)
  else if 0x41 ≤ c ∧ c ≤ 0x5a then some (c.toNat - 0x37)
  else if 0x61 ≤ c ∧ c ≤ 0x7a then some (c.toNat - 0x57)
  else none

/-- A digit of a base. -/
def digit (base : Nat) (c : UInt8) : Option Nat :=
  (digitValue c).filter (· < base)

/-- The digits at the front are added to a number. The rest begins with no digit. -/
def digits (base : Nat) : Nat → List UInt8 → Nat × List UInt8
  | n, [] => (n, [])
  | n, c :: rest =>
      match digit base c with
      | none => (n, c :: rest)
      | some d => digits base (base * n + d) rest

/-- The text begins with a digit. -/
def startsNumber (base : Nat) (text : List UInt8) : Bool :=
  (text.head?.bind (digit base)).isSome

/-- A prefix `0x` or `0X` is skipped. -/
def skipPrefix : List UInt8 → List UInt8
  | zero :: x :: rest =>
      if zero = 0x30 ∧ (x = 0x78 ∨ x = 0x58) then rest else zero :: x :: rest
  | text => text

/-- `simple_strtoul`. -/
def simpleStrtoul (base : Nat) (text : List UInt8) : Nat × List UInt8 :=
  digits base 0 (if base = 16 then skipPrefix text else text)

/-- The conversions `%u` and `%x`. -/
def scanUnsigned (base : Nat) (text : List UInt8) : Option (Nat × List UInt8) :=
  let text := text.dropWhile isSpace
  if startsNumber base text then some (simpleStrtoul base text) else none

/-- The conversion `%d`. -/
def scanSigned (text : List UInt8) : Option (Int × List UInt8) :=
  let text := text.dropWhile isSpace
  if text.head? = some 0x2d then
    if startsNumber 10 text.tail then
      some (-((simpleStrtoul 10 text.tail).1 : Int), (simpleStrtoul 10 text.tail).2)
    else none
  else if startsNumber 10 text then
    some (((simpleStrtoul 10 text).1 : Int), (simpleStrtoul 10 text).2)
  else none

variable {base n : Nat} {c : UInt8} {rest : List UInt8}

/-- The code of a character. -/
def code (c : Char) : UInt8 :=
  UInt8.ofNat c.toNat

theorem digit_digitChar {d : Nat} (small : base ≤ 16) (less : d < base) :
    digit base (code d.digitChar) = some d := by
  have value : ∀ d < 16, digitValue (code d.digitChar) = some d := by decide
  rw [digit, value d (Nat.lt_of_lt_of_le less small), Option.filter_some, if_pos (by simpa)]

theorem digits_cons {d : Nat} (is : digit base c = some d) :
    digits base n (c :: rest) = digits base (base * n + d) rest := by
  rw [digits, is]

theorem digits_of_end (stop : startsNumber base rest = false) : digits base n rest = (n, rest) := by
  cases rest with
  | nil => rfl
  | cons c rest =>
      have none : digit base c = none := by simpa [startsNumber] using stop
      rw [digits, none]

/-- The digits of a number give the number. -/
theorem digits_toDigits (large : 1 < base) (small : base ≤ 16) (n : Nat) (rest : List UInt8) :
    digits base 0 ((Nat.toDigits base n).map code ++ rest) = digits base n rest := by
  induction n using Nat.strongRecOn generalizing rest with
  | ind n ih =>
      rw [Nat.toDigits_eq_if large]
      by_cases less : n < base
      · rw [if_pos less]
        exact (digits_cons (digit_digitChar small less)).trans
          (by rw [Nat.mul_zero, Nat.zero_add]; rfl)
      · rw [if_neg less, List.map_append, List.append_assoc, ih (n / base)
          (Nat.div_lt_self (by omega) large)]
        have last : n % base < base := Nat.mod_lt _ (by omega)
        exact (digits_cons (digit_digitChar small last)).trans (by rw [Nat.div_add_mod]; rfl)

/-- A number begins with a digit. -/
theorem startsNumber_toDigits (large : 1 < base) (small : base ≤ 16) (n : Nat)
    (rest : List UInt8) : startsNumber base ((Nat.toDigits base n).map code ++ rest) = true := by
  induction n using Nat.strongRecOn generalizing rest with
  | ind n ih =>
      rw [Nat.toDigits_eq_if large]
      by_cases less : n < base
      · rw [if_pos less]
        show (digit base (code n.digitChar)).isSome = true
        rw [digit_digitChar small less]
        rfl
      · rw [if_neg less, List.map_append, List.append_assoc]
        exact ih (n / base) (Nat.div_lt_self (by omega) large) _

/-- A blank is no digit. -/
theorem digitValue_of_isSpace (blank : isSpace c = true) : digitValue c = none := by
  have low : c.toNat < 0x30 := by
    rcases of_decide_eq_true blank with rfl | ⟨-, le⟩
    · decide
    · have le : c.toNat ≤ 0x0d := le
      omega
  have first : ¬ (0x30 ≤ c ∧ c ≤ 0x39) := fun within => Nat.not_le_of_lt low within.1
  have second : ¬ (0x41 ≤ c ∧ c ≤ 0x5a) := fun within =>
    Nat.not_le_of_lt (Nat.lt_of_lt_of_le low (by decide)) within.1
  have third : ¬ (0x61 ≤ c ∧ c ≤ 0x7a) := fun within =>
    Nat.not_le_of_lt (Nat.lt_of_lt_of_le low (by decide)) within.1
  rw [digitValue, if_neg first, if_neg second, if_neg third]

/-- Nothing is skipped in front of a digit. -/
theorem dropWhile_isSpace {text : List UInt8} (number : startsNumber base text = true) :
    text.dropWhile isSpace = text := by
  cases text with
  | nil => rfl
  | cons c rest =>
      have visible : ¬ isSpace c = true := by
        intro blank
        have isDigit : ((digitValue c).filter (· < base)).isSome = true := number
        rw [digitValue_of_isSpace blank] at isDigit
        cases isDigit
      exact List.dropWhile_cons_of_neg visible

/-- No digit, no letter: a number ends here in every base. -/
def Ends (rest : List UInt8) : Prop :=
  ∀ c ∈ rest.head?, digitValue c = none

theorem ends_blank (rest : List UInt8) : Ends (0x20 :: rest) := by
  intro c head
  cases head
  rfl

theorem ends_newline (rest : List UInt8) : Ends (0x0a :: rest) := by
  intro c head
  cases head
  rfl

theorem Ends.startsNumber (ends : Ends rest) (base : Nat) : startsNumber base rest = false := by
  cases rest with
  | nil => rfl
  | cons c rest =>
      have none : digitValue c = none := ends c rfl
      rw [Scanning.startsNumber, List.head?_cons, Option.bind_some, digit, none]
      rfl

theorem digit_of_mem_toDigits (large : 1 < base) (small : base ≤ 16) {n : Nat}
    (mem : c ∈ (Nat.toDigits base n).map code) : ∃ d, digit base c = some d := by
  induction n using Nat.strongRecOn with
  | ind n ih =>
      rw [Nat.toDigits_eq_if large] at mem
      by_cases less : n < base
      · rw [if_pos less, List.map_cons, List.map_nil, List.mem_singleton] at mem
        exact ⟨n, mem ▸ digit_digitChar small less⟩
      · rw [if_neg less, List.map_append, List.mem_append] at mem
        rcases mem with front | last
        · exact ih (n / base) (Nat.div_lt_self (by omega) large) front
        · rw [List.map_cons, List.map_nil, List.mem_singleton] at last
          exact ⟨n % base, last ▸ digit_digitChar small (Nat.mod_lt _ (by omega))⟩

/-- The letter of a prefix is no digit. -/
theorem not_prefix_of_digit {d : Nat} (small : base ≤ 16) (is : digit base c = some d) :
    ¬(c = 0x78 ∨ c = 0x58) := by
  have below : digitValue c = some d ∧ d < base := by simpa [digit] using is
  rintro (rfl | rfl) <;>
    · have value : (33 : Nat) = d := Option.some.inj below.1
      omega

/-- A number has no prefix by itself. -/
theorem skipPrefix_toDigits (large : 1 < base) (small : base ≤ 16) (n : Nat) (ends : Ends rest) :
    skipPrefix ((Nat.toDigits base n).map code ++ rest) =
      (Nat.toDigits base n).map code ++ rest := by
  have isDigit : ∀ c ∈ (Nat.toDigits base n).map code, ¬(c = 0x78 ∨ c = 0x58) := by
    intro c mem
    obtain ⟨d, is⟩ := digit_of_mem_toDigits large small mem
    exact not_prefix_of_digit small is
  have ended : ∀ c ∈ rest.head?, ¬(c = 0x78 ∨ c = 0x58) := by
    intro c mem
    have none := ends c mem
    rintro (rfl | rfl) <;> cases none
  have plain : ∀ zero x behind, ¬(x = 0x78 ∨ x = 0x58) →
      skipPrefix (zero :: x :: behind) = zero :: x :: behind :=
    fun zero x behind other => if_neg fun both => other both.2
  obtain ⟨zero, front, printed⟩ := List.exists_cons_of_ne_nil
    (mt List.map_eq_nil_iff.mp (Nat.toDigits_ne_nil (n := n) (b := base)) :
      (Nat.toDigits base n).map code ≠ [])
  rw [printed] at isDigit ⊢
  cases front with
  | cons x front => exact plain zero x _ (isDigit x (List.mem_cons_of_mem _ List.mem_cons_self))
  | nil =>
      cases rest with
      | nil => rfl
      | cons x behind => exact plain zero x behind (ended x rfl)

/-- The digits of a number are taken for the number. -/
theorem simpleStrtoul_toDigits (large : 1 < base) (small : base ≤ 16) (n : Nat)
    (ends : Ends rest) :
    simpleStrtoul base ((Nat.toDigits base n).map code ++ rest) = (n, rest) := by
  rw [simpleStrtoul, skipPrefix_toDigits large small n ends, ite_self,
    digits_toDigits large small n rest]
  exact digits_of_end (ends.startsNumber base)

theorem unsigned_zero (base n : Nat) :
    Printing.unsigned base 0 n = (Nat.toDigits base n).map code := by
  rw [Printing.unsigned, Nat.zero_sub]
  rfl

/-- The digits of a number are no zero bytes. -/
theorem zero_not_mem_unsigned (large : 1 < base) (small : base ≤ 16) (n : Nat) :
    0 ∉ Printing.unsigned base 0 n := by
  rw [unsigned_zero]
  intro mem
  obtain ⟨d, is⟩ := digit_of_mem_toDigits large small mem
  cases is

/-- A number in base 16 may come with its prefix. -/
theorem scanUnsigned_prefix (n : Nat) (ends : Ends rest) :
    scanUnsigned 16 (0x30 :: 0x78 :: (Printing.unsigned 16 0 n ++ rest)) = some (n, rest) := by
  have starts : startsNumber 16 (0x30 :: 0x78 :: (Printing.unsigned 16 0 n ++ rest)) = true := rfl
  rw [scanUnsigned, dropWhile_isSpace starts, if_pos starts, simpleStrtoul, if_pos rfl]
  have skipped : skipPrefix (0x30 :: 0x78 :: (Printing.unsigned 16 0 n ++ rest)) =
      Printing.unsigned 16 0 n ++ rest := by
    rw [skipPrefix, if_pos ⟨rfl, .inl rfl⟩]
  rw [skipped, unsigned_zero, digits_toDigits (by decide) (by decide) n rest,
    digits_of_end (ends.startsNumber 16)]

theorem scanSigned_signed (n : Int) (ends : Ends rest) :
    scanSigned (Printing.signed 0 n ++ rest) = some (n, rest) := by
  have starts := startsNumber_toDigits (show 1 < 10 by decide) (by decide) n.natAbs rest
  have scanned := simpleStrtoul_toDigits (show 1 < 10 by decide) (by decide) n.natAbs ends
  rw [← unsigned_zero] at starts scanned
  rw [Printing.signed]
  by_cases negative : n < 0
  · rw [if_pos negative, Nat.zero_sub, List.cons_append, scanSigned,
      List.dropWhile_cons_of_neg (by decide), List.head?_cons, if_pos rfl, List.tail_cons,
      if_pos starts, scanned]
    have value : -(n.natAbs : Int) = n := by omega
    rw [value]
  · have plain : (Printing.unsigned 10 0 n.natAbs ++ rest).head? ≠ some 0x2d := by
      intro minus
      rw [startsNumber, minus] at starts
      cases starts
    rw [if_neg negative, scanSigned, dropWhile_isSpace starts, if_neg plain, if_pos starts, scanned]
    have value : (n.natAbs : Int) = n := by omega
    rw [value]

/-- A blank in front of a number is skipped. -/
theorem scanSigned_blank (text : List UInt8) : scanSigned (0x20 :: text) = scanSigned text := by
  rw [scanSigned, List.dropWhile_cons_of_pos (by decide)]
  rfl

end Scanning
