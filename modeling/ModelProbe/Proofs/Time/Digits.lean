import Mathlib.Data.List.TakeWhile
import ModelProbe.Proofs.Time.Fields

/-! Numbers in digits, read back.

A number written with at least so many digits is read from the front of a text, with what follows
it kept: a number of its full width whatever follows, any other up to the first character that is
no digit. -/
namespace ModelProbe.Time

open Timestamp (padded fractionText)

/-! ### Characters -/

theorem not_isBlank_of_isDigit {c : Char} (h : c.isDigit) : Text.isBlank c = false := by
  have hc : 48 ≤ c.toNat ∧ c.toNat ≤ 57 := by
    simpa [Char.isDigit, UInt32.le_iff_toNat_le] using h
  simp only [Text.isBlank, Bool.or_eq_false_iff, Bool.and_eq_false_iff, decide_eq_false_iff_not,
    beq_eq_false_iff_ne]
  omega

/-- Nothing is dropped where the first character does not ask for it. -/
theorem dropWhile_of_head {p : Char → Bool} {cs : List Char} (h : ∀ c ∈ cs.head?, p c = false) :
    cs.dropWhile p = cs := by
  cases cs with
  | nil => rfl
  | cons c rest => exact List.dropWhile_cons_of_neg (by simp [h c rfl])

theorem length_le_byteLength (cs : List Char) : cs.length ≤ byteLength cs := by
  induction cs with
  | nil => exact Nat.zero_le _
  | cons c rest ih =>
    have hsize := c.utf8Size_pos
    show rest.length + 1 ≤ c.utf8Size + byteLength rest
    omega

/-! ### Digits -/

variable {width n : Nat}

theorem isDigit_of_mem_padded {c : Char} (h : c ∈ padded width n) : c.isDigit := by
  rcases List.mem_append.1 h with h | h
  · rw [List.eq_of_mem_replicate h]
    rfl
  · exact Nat.isDigit_of_mem_toDigits (by decide) (by decide) h

theorem le_length_padded (width n : Nat) : width ≤ (padded width n).length := by
  simp only [padded, List.length_append, List.length_replicate]
  omega

theorem length_padded (hpos : 0 < width) (h : n < 10 ^ width) :
    (padded width n).length = width := by
  have hdigits := (Nat.length_toDigits_le_iff (by decide) hpos).2 h
  simp only [padded, List.length_append, List.length_replicate]
  omega

theorem padded_ne_nil (width n : Nat) : padded width n ≠ [] :=
  List.append_ne_nil_of_right_ne_nil _ Nat.toDigits_ne_nil

/-- The digits of a number say that number. -/
theorem digitsToNat_padded (width n : Nat) : digitsToNat (padded width n) = n := by
  show (padded width n).foldl _ 0 = n
  rw [← Nat.ofDigitChars_eq_foldl, padded, Nat.ofDigitChars_append,
    Nat.ofDigitChars_replicate_zero, Nat.mul_zero, Nat.ofDigitChars_ten_toDigits]

theorem exists_padded_eq_cons (width n : Nat) :
    ∃ c rest, padded width n = c :: rest ∧ c.isDigit := by
  obtain ⟨c, rest, h⟩ := List.exists_cons_of_ne_nil (padded_ne_nil width n)
  exact ⟨c, rest, h, isDigit_of_mem_padded (h ▸ List.mem_cons_self ..)⟩

/-- White space is looked for in vain in front of a number. -/
theorem dropWhile_padded (width n : Nat) (rest : List Char) :
    (padded width n ++ rest).dropWhile Text.isBlank = padded width n ++ rest := by
  obtain ⟨c, more, h, hc⟩ := exists_padded_eq_cons width n
  rw [h]
  exact List.dropWhile_cons_of_neg (by simp [not_isBlank_of_isDigit hc])

/-! ### Numbers -/

variable {least : Nat} {most : Option Nat} {digits rest : List Char}

/-- Digits are taken as far as the width allows, which is their end. -/
theorem takeWhile_digits (hdigits : ∀ c ∈ digits, c.isDigit)
    (hend : most = some digits.length ∨
      (∀ m ∈ most, digits.length ≤ m) ∧ ∀ c ∈ rest.head?, c.isDigit = false) :
    (most.elim (digits ++ rest) (digits ++ rest).take).takeWhile Char.isDigit = digits := by
  have hstop : ∀ cs : List Char, (∀ c ∈ cs.head?, c.isDigit = false) →
      (digits ++ cs).takeWhile Char.isDigit = digits := by
    intro cs hcs
    rw [List.takeWhile_append_of_pos hdigits]
    cases cs with
    | nil => simp
    | cons c cs => simp [hcs c rfl]
  rcases hend with rfl | ⟨hmost, hrest⟩
  · rw [Option.elim_some, List.take_left']
    · exact List.takeWhile_eq_self_iff.2 hdigits
    · rfl
  · cases most with
    | none => exact hstop rest hrest
    | some m =>
      rw [Option.elim_some, List.take_append, List.take_of_length_le (hmost m rfl)]
      refine hstop _ fun c hc => hrest c ?_
      cases rest with
      | nil => simp at hc
      | cons d rest =>
        cases hm : m - digits.length with
        | zero => simp [hm] at hc
        | succ k => simpa [hm] using hc

/-- **Digits are read as the number they say**, up to the width or to what is no digit. -/
theorem scanNumber_digits (hdigits : ∀ c ∈ digits, c.isDigit) (hleast : least ≤ digits.length)
    (hend : most = some digits.length ∨
      (∀ m ∈ most, digits.length ≤ m) ∧ ∀ c ∈ rest.head?, c.isDigit = false)
    (hfits : digitsToNat digits < 2 ^ 63) :
    scanNumber least most (digits ++ rest) = .ok (digitsToNat digits, rest) := by
  have hbytes : least ≤ byteLength (digits ++ rest) := by
    have hlength := length_le_byteLength (digits ++ rest)
    rw [List.length_append] at hlength
    omega
  have hword : ¬Nat.pow 2 63 ≤ digitsToNat digits := Nat.not_le.2 hfits
  simp only [scanNumber, takeWhile_digits hdigits hend]
  rw [if_neg (Nat.not_lt.2 hbytes), if_neg (Nat.not_lt.2 hleast), if_neg hword, List.drop_left]

/-- A number of its full width ends there. -/
theorem scanNumber_padded (hleast : least ≤ width) (hpos : 0 < width) (hn : n < 10 ^ width)
    (hfits : n < 2 ^ 63) (rest : List Char) :
    scanNumber least (some width) (padded width n ++ rest) = .ok (n, rest) := by
  have hscan : scanNumber least (some (padded width n).length) (padded width n ++ rest) =
      .ok (digitsToNat (padded width n), rest) :=
    scanNumber_digits (fun _ => isDigit_of_mem_padded) (hleast.trans (le_length_padded width n))
      (.inl rfl) (by rwa [digitsToNat_padded])
  rwa [digitsToNat_padded, length_padded hpos hn] at hscan

/-- Any number ends before a character that is no digit. -/
theorem scanNumber_padded_open (hpos : 0 < width) (hfits : n < 2 ^ 63)
    (hmost : ∀ m ∈ most, (padded width n).length ≤ m)
    (hrest : ∀ c ∈ rest.head?, c.isDigit = false) :
    scanNumber 1 most (padded width n ++ rest) = .ok (n, rest) := by
  have hscan : scanNumber 1 most (padded width n ++ rest) =
      .ok (digitsToNat (padded width n), rest) :=
    scanNumber_digits (fun _ => isDigit_of_mem_padded) (hpos.trans_le (le_length_padded width n))
      (.inr ⟨hmost, hrest⟩) (by rwa [digitsToNat_padded])
  rwa [digitsToNat_padded] at hscan

/-- A number does not begin with any other character. -/
theorem scanNumber_ne_ok {c : Char} {p : Nat × List Char} (hleast : 0 < least)
    (hc : c.isDigit = false) : scanNumber least most (c :: rest) ≠ .ok p := by
  have htake : (most.elim (c :: rest) (c :: rest).take).takeWhile Char.isDigit = [] := by
    rcases most with - | (- | m) <;> simp [hc]
  simp only [scanNumber, htake]
  split
  · exact nofun
  · rw [if_pos (show [].length < least from hleast)]
    exact nofun

/-! ### Fractions -/

/-- A fraction in digits is read as that many parts of a power of ten. -/
theorem scanFraction_padded (hpos : 0 < width) (hwidth : width ≤ 9) (hn : n < 10 ^ width) :
    scanFraction (padded width n) = .ok (n * 10 ^ (9 - width), []) := by
  have hlength := length_padded hpos hn
  have hfits : n < 2 ^ 63 :=
    hn.trans_le ((Nat.pow_le_pow_right (by decide) hwidth).trans (by decide))
  have hscan : scanNumber 1 (some 9) (padded width n) = .ok (n, []) := by
    have hopen : scanNumber 1 (some 9) (padded width n ++ []) = .ok (n, []) :=
      scanNumber_padded_open hpos hfits (fun m hm => by cases hm; omega) nofun
    rwa [List.append_nil] at hopen
  unfold scanFraction
  rw [hscan]
  show Except.ok (n * 10 ^ (9 - (padded width n).length), []) = _
  rw [hlength]

/-- The nanoseconds of a second are a fraction of 3, 6 or 9 digits. -/
theorem fractionText_eq (hn : n < 1000000000) (hpos : n ≠ 0) : ∃ width k, 0 < width ∧ width ≤ 9 ∧
    k < 10 ^ width ∧ k * 10 ^ (9 - width) = n ∧ fractionText n = '.' :: padded width k := by
  unfold fractionText
  rw [if_neg hpos]
  split
  · exact ⟨3, n / 1000000, by decide, by decide, by omega, by omega, rfl⟩
  split
  · exact ⟨6, n / 1000, by decide, by decide, by omega, by omega, rfl⟩
  · exact ⟨9, n, by decide, by decide, by omega, by omega, rfl⟩

end ModelProbe.Time
