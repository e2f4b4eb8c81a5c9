import Mathlib.Data.List.TakeDrop
import Mathlib.Tactic.IntervalCases
import FirewallExporter.Http.Form
import FirewallExporter.Proofs.Text.Utf8

/-!
Texts written so that a form gives them back. Letters and digits stand as they
are, every byte of any other character is an escape; so none of the marks that
divide a form is left.
-/

namespace FirewallExporter.Form

theorem toList_loop (bytes : ByteArray) (i : Nat) (acc : List UInt8) :
    ByteArray.toList.loop bytes i acc = acc.reverse ++ bytes.data.toList.drop i := by
  fun_induction ByteArray.toList.loop bytes i acc with
  | case1 i acc h ih =>
      have hi : i < bytes.data.toList.length := by simpa using h
      rw [ih, List.drop_eq_getElem_cons hi]
      simp [ByteArray.get!, h]
  | case2 i acc h =>
      rw [List.drop_eq_nil_of_le (by simpa using Nat.le_of_not_lt h), List.append_nil]

theorem toBytes_eq_flatMap (cs : List Char) : toBytes cs = cs.flatMap String.utf8EncodeChar := by
  have hbytes : (String.ofList cs).toUTF8.toList = Text.bytes (String.ofList cs) := by
    rw [ByteArray.toList, toList_loop]
    rfl
  rw [toBytes, hbytes, Text.bytes_eq_flatMap, String.toList_ofList]

/-- A character other than the two marks stands for itself. -/
theorem decodeBytes_cons {c : Char} (hplus : c ≠ '+') (hpercent : c ≠ '%') (cs : List Char) :
    decodeBytes (c :: cs) = String.utf8EncodeChar c ++ decodeBytes cs := by
  have hbytes : toBytes [c] = String.utf8EncodeChar c := by
    rw [toBytes_eq_flatMap, List.flatMap_singleton]
  rw [decodeBytes, hbytes]
  -- neither of the two marks is read first
  · exact hplus
  · exact fun _ _ _ h _ => hpercent h

/-! ### Escapes -/

/-- A byte as a percent sign and two digits. -/
def escape (b : UInt8) : List Char :=
  ['%', Nat.digitChar (b.toNat / 16), Nat.digitChar (b.toNat % 16)]

theorem hexDigit?_digitChar {n : Nat} (h : n < 16) :
    Text.hexDigit? (Nat.digitChar n) = some n := by
  interval_cases n <;> rfl

theorem decodeBytes_escape (b : UInt8) (cs : List Char) :
    decodeBytes (escape b ++ cs) = b :: decodeBytes cs := by
  have hb : b.toNat < 256 := b.toNat_lt
  have hvalue : b.toNat / 16 * 16 + b.toNat % 16 = b.toNat := by omega
  have hread : Text.hexNatural? [Nat.digitChar (b.toNat / 16), Nat.digitChar (b.toNat % 16)] =
      some b.toNat := by
    simp [Text.hexNatural?, hexDigit?_digitChar, hvalue, show b.toNat / 16 < 16 by omega,
      show b.toNat % 16 < 16 by omega]
  simp only [escape, List.cons_append, List.nil_append, decodeBytes, hread, UInt8.ofNat_toNat]

theorem decodeBytes_flatMap_escape (bytes : List UInt8) (cs : List Char) :
    decodeBytes (bytes.flatMap escape ++ cs) = bytes ++ decodeBytes cs := by
  induction bytes with
  | nil => rfl
  | cons b bytes ih =>
      rw [List.flatMap_cons, List.append_assoc, decodeBytes_escape, ih, List.cons_append]

/-! ### Texts -/

def encodeChar (c : Char) : List Char :=
  if c.isAlphanum then [c] else (String.utf8EncodeChar c).flatMap escape

def encode (cs : List Char) : List Char := cs.flatMap encodeChar

theorem decodeBytes_encodeChar (c : Char) (cs : List Char) :
    decodeBytes (encodeChar c ++ cs) = String.utf8EncodeChar c ++ decodeBytes cs := by
  rw [encodeChar]
  split_ifs with hc
  · refine decodeBytes_cons ?_ ?_ cs
    · rintro rfl
      exact absurd hc (by decide)
    · rintro rfl
      exact absurd hc (by decide)
  · exact decodeBytes_flatMap_escape _ _

theorem decode_encode (cs : List Char) : decode (encode cs) = String.ofList cs := by
  have hbytes : decodeBytes (encode cs) = cs.flatMap String.utf8EncodeChar := by
    induction cs with
    | nil => rfl
    | cons c cs ih =>
        rw [encode, List.flatMap_cons, decodeBytes_encodeChar, ← encode, ih, List.flatMap_cons]
  rw [decode, hbytes, Utf8.decode_flatMap_utf8EncodeChar]

/-- What is written is letters, digits and percent signs. -/
theorem of_mem_encode {cs : List Char} {c : Char} (h : c ∈ encode cs) :
    c.isAlphanum = true ∨ c = '%' := by
  have hdigit : ∀ n < 16, (Nat.digitChar n).isAlphanum = true := by decide
  obtain ⟨d, -, hd⟩ := List.mem_flatMap.mp h
  rw [encodeChar] at hd
  split_ifs at hd with hc
  · rw [List.mem_singleton] at hd
    exact .inl (hd ▸ hc)
  · obtain ⟨b, -, hb⟩ := List.mem_flatMap.mp hd
    have hlt : b.toNat < 256 := b.toNat_lt
    simp only [escape, List.mem_cons, List.not_mem_nil, or_false] at hb
    rcases hb with rfl | rfl | rfl
    · exact .inr rfl
    · exact .inl (hdigit _ (by omega))
    · exact .inl (hdigit _ (by omega))

/-! ### Forms of one field -/

/-- A name and a value with an equals sign between them. -/
def field (name value : List Char) : List Char := encode name ++ '=' :: encode value

theorem not_mem_field {c : Char} (hc : c.isAlphanum = false) (hpercent : c ≠ '%')
    (hequals : c ≠ '=') (name value : List Char) : c ∉ field name value := by
  have hencode : ∀ cs, c ∉ encode cs := by
    intro cs h
    rcases of_mem_encode h with halphanum | heq
    · exact Bool.false_ne_true (hc.symm.trans halphanum)
    · exact hpercent heq
  intro h
  rcases List.mem_append.mp h with hname | hrest
  · exact hencode name hname
  · rcases List.mem_cons.mp hrest with heq | hvalue
    · exact hequals heq
    · exact hencode value hvalue

theorem pair_field (name value : List Char) :
    pair (field name value) = (String.ofList name, String.ofList value) := by
  have hname : ∀ c ∈ encode name, (c != '=') = true := by
    intro c hc
    rw [bne_iff_ne]
    rintro rfl
    rcases of_mem_encode hc with halphanum | heq
    · exact absurd halphanum (by decide)
    · exact absurd heq (by decide)
  have hsplit : splitPair (field name value) = (encode name, encode value) := by
    rw [splitPair, List.span_eq_takeWhile_dropWhile, field, List.takeWhile_append_of_pos hname,
      List.dropWhile_append_of_pos hname]
    simp
  rw [pair, hsplit]
  simp only [decode_encode]

theorem parse_field (name value : List Char) :
    parse (String.ofList (field name value)) = [(String.ofList name, String.ofList value)] := by
  have hampersand := @not_mem_field '&' (by decide) (by decide) (by decide) name value
  have hne : (field name value).isEmpty = false := by
    rw [field]
    cases encode name <;> rfl
  rw [parse, String.toList_ofList, List.splitOn_eq_singleton hampersand]
  simp [hne, pair_field]

end FirewallExporter.Form
