import Mathlib.Tactic.IntervalCases
import FirewallExporter.Proofs.Text.ByteOrder
import FirewallExporter.Text.Utf8

/-!
What the reader of UTF-8 makes of the bytes of a text is that text. Its bytes
are taken one at a time; the first byte of a character opens it, each further
one is accepted and adds six bits, and the last one closes it.
-/

namespace FirewallExporter.Utf8

theorem decodeFrom_begun {b : UInt8} {c : Char} (h : startOf b.toNat = .char c)
    (rest : List UInt8) : decodeFrom none (b :: rest) = c :: decodeFrom none rest := by
  simp only [decodeFrom, next, begun, h, List.cons_append, List.nil_append]

theorem decodeFrom_leads {b : UInt8} {p : Partial} (h : startOf b.toNat = .leads p)
    (rest : List UInt8) : decodeFrom none (b :: rest) = decodeFrom (some p) rest := by
  simp only [decodeFrom, next, begun, h, List.nil_append]

/-- A byte with six bits of a character. -/
theorem toNat_continuation (k : Nat) : (UInt8.ofNat (k % 64 + 128)).toNat = k % 64 + 128 := by
  rw [UInt8.toNat_ofNat']
  omega

theorem toNat_leading {m : Nat} (h : m < 256) : (UInt8.ofNat m).toNat = m := by
  rw [UInt8.toNat_ofNat']
  omega

/-! ### The byte that opens a character -/

theorem startOf_two {k : Nat} (hlow : 2 ≤ k) (hhigh : k < 32) :
    startOf (k + 192) = .leads ⟨k, 1, 0x80, 0xBF⟩ := by
  interval_cases k <;> rfl

/-- The bounds of the second byte of three keep out shorter forms and surrogates. -/
theorem startOf_three {k : Nat} (h : k < 16) :
    startOf (k + 224) =
      .leads ⟨k, 2, if k = 0 then 0xA0 else 0x80, if k = 0xD then 0x9F else 0xBF⟩ := by
  interval_cases k <;> rfl

/-- The bounds of the second byte of four keep out shorter forms and what lies beyond. -/
theorem startOf_four {k : Nat} (h : k < 5) :
    startOf (k + 240) =
      .leads ⟨k, 3, if k = 0 then 0x90 else 0x80, if k = 4 then 0x8F else 0xBF⟩ := by
  interval_cases k <;> rfl

/-! ### Characters -/

/-- A byte within the bounds adds its six bits; nothing stands open once none is missing. -/
theorem decodeFrom_continuation {bits missing low high : Nat} (k : Nat)
    (hlow : low ≤ k % 64 + 128) (hhigh : k % 64 + 128 ≤ high) (rest : List UInt8) :
    decodeFrom (some ⟨bits, missing + 1, low, high⟩) (UInt8.ofNat (k % 64 + 128) :: rest) =
      if missing = 0 then Char.ofNat (bits * 64 + k % 64) :: decodeFrom none rest
      else decodeFrom (some ⟨bits * 64 + k % 64, missing, 0x80, 0xBF⟩) rest := by
  have haccepts : Partial.accepts ⟨bits, missing + 1, low, high⟩ (k % 64 + 128) = true := by
    simp only [Partial.accepts, Bool.and_eq_true, decide_eq_true_eq]
    exact ⟨hlow, hhigh⟩
  have hadd : Partial.add ⟨bits, missing + 1, low, high⟩ (k % 64 + 128) =
      ⟨bits * 64 + k % 64, missing, 0x80, 0xBF⟩ := by
    have hsub : k % 64 + 128 - 128 = k % 64 := by omega
    unfold Partial.add
    rw [hsub]
    rfl
  rw [decodeFrom, toNat_continuation, next, if_pos haccepts, hadd]
  by_cases hmissing : missing = 0
  · simp only [hmissing, if_true, List.cons_append, List.nil_append]
  · simp only [hmissing, if_false, List.nil_append]

/-- The bytes of a character are read as that character, whatever follows. -/
theorem decodeFrom_utf8EncodeChar (c : Char) (rest : List UInt8) :
    decodeFrom none (String.utf8EncodeChar c ++ rest) = c :: decodeFrom none rest := by
  have hvalid : Nat.isValidChar c.toNat := c.valid
  have hc : Char.ofNat c.toNat = c := Char.ofNat_toNat c
  have hrange : c.toNat < 0x110000 := by
    unfold Nat.isValidChar at hvalid
    omega
  unfold String.utf8EncodeChar
  rw [show c.val.toNat = c.toNat from rfl]
  generalize c.toNat = n at hvalid hc hrange
  dsimp only
  split_ifs with h1 h2 h3
  · have hstart : startOf (UInt8.ofNat n).toNat = .char c := by
      rw [toNat_leading (by omega), startOf, if_pos (by omega), hc]
    exact decodeFrom_begun hstart rest
  · have hbits : n / 64 * 64 + n % 64 = n := by omega
    have hstart : startOf (UInt8.ofNat (n / 64 % 32 + 192)).toNat =
        .leads ⟨n / 64, 1, 0x80, 0xBF⟩ := by
      rw [toNat_leading (by omega), Nat.mod_eq_of_lt (by omega)]
      exact startOf_two (by omega) (by omega)
    rw [List.cons_append, decodeFrom_leads hstart, List.cons_append,
      decodeFrom_continuation n (by omega) (by omega), if_pos rfl, hbits, hc, List.nil_append]
  · have hbits : (n / 4096 * 64 + n / 64 % 64) * 64 + n % 64 = n := by omega
    have hbyte : (UInt8.ofNat (n / 4096 % 16 + 224)).toNat = n / 4096 + 224 := by
      rw [toNat_leading (by omega), Nat.mod_eq_of_lt (by omega)]
    have hstart := @startOf_three (n / 4096) (by omega)
    rw [← hbyte] at hstart
    -- the second byte keeps the bounds: no character is a surrogate
    unfold Nat.isValidChar at hvalid
    rw [List.cons_append, decodeFrom_leads hstart, List.cons_append,
      decodeFrom_continuation (n / 64) (by split_ifs <;> omega) (by split_ifs <;> omega),
      if_neg Nat.one_ne_zero, List.cons_append, decodeFrom_continuation n (by omega) (by omega),
      if_pos rfl, hbits, hc, List.nil_append]
  · have hbits : ((n / 262144 * 64 + n / 4096 % 64) * 64 + n / 64 % 64) * 64 + n % 64 = n := by
      omega
    have hbyte : (UInt8.ofNat (n / 262144 % 8 + 240)).toNat = n / 262144 + 240 := by
      rw [toNat_leading (by omega), Nat.mod_eq_of_lt (by omega)]
    have hstart := @startOf_four (n / 262144) (by omega)
    rw [← hbyte] at hstart
    rw [List.cons_append, decodeFrom_leads hstart, List.cons_append,
      decodeFrom_continuation (n / 4096) (by split_ifs <;> omega) (by split_ifs <;> omega),
      if_neg (by omega), List.cons_append,
      decodeFrom_continuation (n / 64) (by omega) (by omega), if_neg Nat.one_ne_zero,
      List.cons_append, decodeFrom_continuation n (by omega) (by omega), if_pos rfl, hbits, hc,
      List.nil_append]

theorem decode_flatMap_utf8EncodeChar (cs : List Char) :
    decode (cs.flatMap String.utf8EncodeChar) = String.ofList cs := by
  rw [decode]
  congr 1
  induction cs with
  | nil => rfl
  | cons c cs ih => rw [List.flatMap_cons, decodeFrom_utf8EncodeChar, ih]

end FirewallExporter.Utf8
