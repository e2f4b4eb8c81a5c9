import Mathlib.Algebra.Group.Nat.Defs
import FirewallExporter.Config.Basic
import FirewallExporter.Proofs.Text.Trim

/-!
The texts of timeouts. Without the blanks around it such a text is a number and a
unit, and in one way only: a number ends in a digit, and there is none in a unit. It
is read as the time that it says, to the nanosecond. Any other text is a fault of the
device, and so is one that says more seconds than fit 64 bits.
-/

namespace FirewallExporter

/-- A time that 64 bits of seconds hold, and no more nanoseconds than make up one. -/
structure Duration.Spans (d : Duration) (n : Nat) : Prop where
  seconds : d.seconds ≤ 2 ^ 64 - 1
  nanoseconds : d.nanoseconds < nanosecondsPerSecond
  total : d.inNanoseconds = n

theorem Duration.Spans.unique {d d' : Duration} {n : Nat} (h : d.Spans n) (h' : d'.Spans n) :
    d = d' := by
  obtain ⟨-, hnanoseconds, htotal⟩ := h
  obtain ⟨-, hnanoseconds', htotal'⟩ := h'
  obtain ⟨seconds, nanoseconds⟩ := d
  obtain ⟨seconds', nanoseconds'⟩ := d'
  simp only [inNanoseconds, nanosecondsPerSecond] at *
  obtain rfl : seconds = seconds' := by omega
  obtain rfl : nanoseconds = nanoseconds' := by omega
  rfl

theorem Duration.spans_ofSeconds {n : Nat} (h : n ≤ 2 ^ 64 - 1) :
    (ofSeconds n).Spans (n * 1000000000) := by
  refine ⟨h, Nat.zero_lt_succ _, ?_⟩
  simp only [inNanoseconds, ofSeconds, nanosecondsPerSecond]
  omega

theorem Duration.spans_ofNanoseconds {n : Nat} (h : n / 1000000000 ≤ 2 ^ 64 - 1) :
    (ofNanoseconds n).Spans n := by
  refine ⟨?_, Nat.mod_lt _ (by decide), ?_⟩
  · simp only [ofNanoseconds, ofParts, nanosecondsPerSecond]
    omega
  · simp only [inNanoseconds, ofNanoseconds, ofParts, nanosecondsPerSecond]
    omega

namespace Timeout

open Text (IsTrimmed)

/-! ### Numbers and units -/

/-- What a number is of; a number alone is of seconds. -/
inductive Measure where
  | milliseconds
  | seconds
  | minutes
  | unstated
deriving DecidableEq, Repr

namespace Measure

def suffix : Measure → List Char
  | milliseconds => ['m', 's']
  | seconds => ['s']
  | minutes => ['m']
  | unstated => []

/-- How many nanoseconds one of it has. -/
def nanoseconds : Measure → Nat
  | milliseconds => 1000000
  | seconds => 1000000000
  | minutes => 60000000000
  | unstated => 1000000000

theorem suffix_injective : Function.Injective suffix := by
  intro m m' h
  cases m <;> cases m' <;> first | rfl | cases h

theorem isDigit_of_mem_suffix {m : Measure} {c : Char} (h : c ∈ m.suffix) : c.isDigit = false := by
  cases m with
  | milliseconds =>
      simp only [suffix, List.mem_cons, List.not_mem_nil, or_false] at h
      rcases h with rfl | rfl <;> rfl
  | seconds | minutes =>
      obtain rfl := List.mem_singleton.mp h
      rfl
  | unstated => cases h

/-- So many of it, as they are read. -/
def ofValue? : Measure → Nat → Option Duration
  | milliseconds, n => some (.ofMilliseconds n)
  | seconds, n => some (.ofSeconds n)
  | minutes, n => ofMinutes? n
  | unstated, n => some (.ofSeconds n)

/-- Only the seconds in so many minutes may be too many. -/
theorem ofValue?_eq_some_iff {m : Measure} {n : Nat} (h : n ≤ 2 ^ 64 - 1) {d : Duration} :
    m.ofValue? n = some d ↔
      (m = minutes → 60 * n ≤ 2 ^ 64 - 1) ∧ d.Spans (n * m.nanoseconds) := by
  have hread {d' : Duration} (hspans : d'.Spans (n * m.nanoseconds)) :
      some d' = some d ↔ d.Spans (n * m.nanoseconds) := by
    refine ⟨fun heq => Option.some.inj heq ▸ hspans, fun h => ?_⟩
    rw [hspans.unique h]
  cases m with
  | milliseconds =>
      have hseconds : n * 1000000 / 1000000000 ≤ 2 ^ 64 - 1 := by omega
      have hspans : (Duration.ofMilliseconds n).Spans (n * milliseconds.nanoseconds) :=
        Duration.spans_ofNanoseconds hseconds
      exact (hread hspans).trans (by simp)
  | seconds | unstated =>
      exact (hread (Duration.spans_ofSeconds h)).trans (by simp)
  | minutes =>
      rw [ofValue?, ofMinutes?]
      split
      · next hfits =>
          have hspans : (Duration.ofSeconds (n * 60)).Spans (n * minutes.nanoseconds) := by
            have hseconds := Duration.spans_ofSeconds (n := n * 60) hfits
            rwa [Nat.mul_assoc] at hseconds
          refine (hread hspans).trans (and_iff_right fun _ => ?_).symm
          rw [Nat.mul_comm]
          exact hfits
      · next hfits =>
          refine iff_of_false nofun fun hminutes => hfits ?_
          rw [Nat.mul_comm]
          exact hminutes.1 rfl

end Measure

/-- Digits and their value, with at most one plus sign before them. -/
inductive IsNumber : List Char → Nat → Prop where
  | unsigned {digits : List Char} (hne : digits ≠ []) (h : ∀ c ∈ digits, c.isDigit = true) :
      IsNumber digits (Nat.ofDigitChars 10 digits 0)
  | plus {digits : List Char} (hne : digits ≠ []) (h : ∀ c ∈ digits, c.isDigit = true) :
      IsNumber ('+' :: digits) (Nat.ofDigitChars 10 digits 0)

theorem natural?_eq_some_iff {cs : List Char} {n : Nat} :
    Text.natural? cs = some n ↔
      cs ≠ [] ∧ (∀ c ∈ cs, c.isDigit = true) ∧ Nat.ofDigitChars 10 cs 0 = n := by
  rw [Text.natural?, Text.isNumeral]
  simp [and_assoc]

theorem word?_eq_some_iff {cs : List Char} {n : Nat} :
    Text.word? cs = some n ↔ IsNumber cs n ∧ n ≤ 2 ^ 64 - 1 := by
  have hnatural {digits : List Char} : (Text.natural? digits).filter (· ≤ Text.maxWord) = some n ↔
      (digits ≠ [] ∧ (∀ c ∈ digits, c.isDigit = true) ∧ Nat.ofDigitChars 10 digits 0 = n) ∧
        n ≤ 2 ^ 64 - 1 := by
    rw [Option.filter_eq_some_iff, natural?_eq_some_iff, decide_eq_true_iff]
    rfl
  unfold Text.word?
  split
  · next digits =>
      rw [hnatural]
      refine and_congr_left fun _ => ⟨?_, fun h => ?_⟩
      · rintro ⟨hne, hdigits, rfl⟩
        exact .plus hne hdigits
      · cases h with
        | plus hne hdigits => exact ⟨hne, hdigits, rfl⟩
        | unsigned hne hdigits => cases hdigits '+' List.mem_cons_self
  · next hplus =>
      rw [hnatural]
      refine and_congr_left fun _ => ⟨?_, fun h => ?_⟩
      · rintro ⟨hne, hdigits, rfl⟩
        exact .unsigned hne hdigits
      · cases h with
        | plus hne hdigits => exact absurd rfl (hplus _)
        | unsigned hne hdigits => exact ⟨hne, hdigits, rfl⟩

variable {cs number number' : List Char} {n n' : Nat}

theorem IsNumber.value_unique (h : IsNumber cs n) (h' : IsNumber cs n') : n = n' := by
  cases h with
  | plus hne hdigits =>
      cases h' with
      | plus => rfl
      | unsigned hne' hdigits' => cases hdigits' '+' List.mem_cons_self
  | unsigned hne hdigits =>
      cases h' with
      | plus => cases hdigits '+' List.mem_cons_self
      | unsigned => rfl

/-- A number ends in a digit. -/
theorem IsNumber.isDigit_of_getLast? {c : Char} (h : IsNumber cs n) (hc : cs.getLast? = some c) :
    c.isDigit = true := by
  cases h with
  | unsigned hne hdigits => exact hdigits c (List.mem_of_getLast? hc)
  | @plus digits hne hdigits =>
      rw [List.getLast?_cons_of_ne_nil hne] at hc
      exact hdigits c (List.mem_of_getLast? hc)

/-- So it can be told from the unit behind it. -/
theorem IsNumber.append_suffix_inj {m m' : Measure} (h : IsNumber number n)
    (h' : IsNumber number' n') (heq : number ++ m.suffix = number' ++ m'.suffix) :
    number = number' ∧ m = m' := by
  have hdrop {number : List Char} {n : Nat} (m : Measure) (h : IsNumber number n) :
      Text.dropEnd (fun c => !c.isDigit) (number ++ m.suffix) = number := by
    refine Text.dropEnd_append (fun c hc => ?_) fun c hc => ?_
    · rw [h.isDigit_of_getLast? hc, Bool.not_true]
    · rw [Measure.isDigit_of_mem_suffix hc, Bool.not_false]
  obtain rfl : number = number' := by rw [← hdrop m h, heq, hdrop m' h']
  exact ⟨rfl, Measure.suffix_injective (List.append_cancel_left heq)⟩

/-! ### Reading -/

/-- Every text is taken apart in one of the ways. -/
theorem exists_ofReversed?_eq (cs : List Char) :
    ∃ number, ∃ m : Measure, cs = number ++ m.suffix ∧
      ofReversed? cs.reverse = (Text.word? number).bind m.ofValue? := by
  obtain ⟨reversed, rfl⟩ : ∃ reversed, cs = List.reverse reversed := ⟨cs.reverse, by simp⟩
  rw [List.reverse_reverse]
  unfold ofReversed?
  split
  · next digits =>
      exact ⟨digits.reverse, .milliseconds, by simp [Measure.suffix], Option.map_eq_bind⟩
  · next digits _ => exact ⟨digits.reverse, .seconds, by simp [Measure.suffix], Option.map_eq_bind⟩
  · next digits => exact ⟨digits.reverse, .minutes, by simp [Measure.suffix], rfl⟩
  · exact ⟨reversed.reverse, .unstated, by simp [Measure.suffix], Option.map_eq_bind⟩

/-- A number is never taken for a part of its unit. -/
theorem ofReversed?_append (m : Measure) (h : IsNumber number n) :
    ofReversed? (number ++ m.suffix).reverse = (Text.word? number).bind m.ofValue? := by
  have hhead : ∀ c, number.reverse.head? = some c → c.isDigit = true := by
    intro c hc
    rw [List.head?_reverse] at hc
    exact h.isDigit_of_getLast? hc
  have hother {c : Char} (hc : c.isDigit = false) (rest : List Char) :
      number.reverse ≠ c :: rest := by
    intro heq
    have hdigit := hhead c (by rw [heq]; rfl)
    rw [hc] at hdigit
    cases hdigit
  rw [List.reverse_append]
  cases m with
  | milliseconds =>
      show (Text.word? number.reverse.reverse).map _ = _
      rw [List.reverse_reverse, Option.map_eq_bind]
      rfl
  | seconds =>
      show ofReversed? ('s' :: number.reverse) = _
      rw [ofReversed?, List.reverse_reverse, Option.map_eq_bind]
      · rfl
      · exact hother rfl
  | minutes =>
      show (Text.word? number.reverse.reverse).bind _ = _
      rw [List.reverse_reverse]
      rfl
  | unstated =>
      show ofReversed? number.reverse = _
      rw [ofReversed?, List.reverse_reverse, Option.map_eq_bind]
      · rfl
      · exact fun rest => hother rfl _
      · exact hother rfl
      · exact hother rfl

/-- The parts of the text of a timeout. -/
structure Form where
  number : List Char
  value : Nat
  measure : Measure

/-- Between the blanks the text is the number and then the unit. -/
structure Form.Spells (form : Form) (raw : String) : Prop where
  trimmed : IsTrimmed raw.toList (form.number ++ form.measure.suffix)
  number : IsNumber form.number form.value

/-- The number fits 64 bits, and so do the seconds in so many minutes. -/
structure Form.Fits (form : Form) : Prop where
  value : form.value ≤ 2 ^ 64 - 1
  minutes : form.measure = .minutes → 60 * form.value ≤ 2 ^ 64 - 1

def Form.nanoseconds (form : Form) : Nat := form.value * form.measure.nanoseconds

variable {raw : String}

theorem Form.Spells.unique {form form' : Form} (h : form.Spells raw) (h' : form'.Spells raw) :
    form = form' := by
  obtain ⟨number, value, measure⟩ := form
  obtain ⟨number', value', measure'⟩ := form'
  have htrimmed : number ++ measure.suffix = number' ++ measure'.suffix :=
    (Text.isTrimmed_iff.mp h.trimmed).trans (Text.isTrimmed_iff.mp h'.trimmed).symm
  obtain ⟨rfl, rfl⟩ := h.number.append_suffix_inj h'.number htrimmed
  obtain rfl : value = value' := h.number.value_unique h'.number
  rfl

theorem bind_ofValue?_eq_some_iff {m : Measure} {d : Duration} :
    (Text.word? number).bind m.ofValue? = some d ↔ ∃ n, IsNumber number n ∧
      Form.Fits ⟨number, n, m⟩ ∧ d.Spans (n * m.nanoseconds) := by
  rw [Option.bind_eq_some_iff]
  refine exists_congr fun n => ?_
  rw [word?_eq_some_iff, and_assoc]
  refine and_congr_right fun _ => ?_
  constructor
  · rintro ⟨hvalue, hread⟩
    obtain ⟨hminutes, hspans⟩ := (Measure.ofValue?_eq_some_iff hvalue).mp hread
    exact ⟨⟨hvalue, hminutes⟩, hspans⟩
  · rintro ⟨⟨hvalue, hminutes⟩, hspans⟩
    exact ⟨hvalue, (Measure.ofValue?_eq_some_iff hvalue).mpr ⟨hminutes, hspans⟩⟩

/-- What is read is what the text says. -/
theorem parse?_eq_some_iff {d : Duration} :
    parse? raw = some d ↔ ∃ form : Form, form.Spells raw ∧ form.Fits ∧ d.Spans form.nanoseconds := by
  constructor
  · intro h
    obtain ⟨number, m, htrimmed, hread⟩ := exists_ofReversed?_eq (Text.trimChars raw.toList)
    rw [parse?, hread, bind_ofValue?_eq_some_iff] at h
    obtain ⟨n, hnumber, hfits, hspans⟩ := h
    exact ⟨⟨number, n, m⟩, ⟨Text.isTrimmed_iff.mpr htrimmed.symm, hnumber⟩, hfits, hspans⟩
  · rintro ⟨⟨number, n, m⟩, ⟨htrimmed, hnumber⟩, hfits, hspans⟩
    rw [parse?, ← Text.isTrimmed_iff.mp htrimmed, ofReversed?_append m hnumber,
      bind_ofValue?_eq_some_iff]
    exact ⟨n, hnumber, hfits, hspans⟩

theorem Form.Fits.exists_spans {form : Form} (h : form.Fits) :
    ∃ d : Duration, d.Spans form.nanoseconds := by
  obtain ⟨number, value, measure⟩ := form
  obtain ⟨hvalue, hminutes⟩ := h
  refine ⟨_, Duration.spans_ofNanoseconds ?_⟩
  rw [nanoseconds]
  cases measure with
  | minutes =>
      have hseconds : 60 * value ≤ 2 ^ 64 - 1 := hminutes rfl
      simp only [Measure.nanoseconds]
      omega
  | milliseconds | seconds | unstated =>
      simp only [Measure.nanoseconds] at *
      omega

end Timeout

namespace TargetConfig

variable {t : TargetConfig} {raw : String}

/--
The text of a timeout is a number and a unit in one way at most. If it is, and the
number and its seconds fit 64 bits, the timeout is that time and nothing less; if not,
it is a fault that tells the device and the text.
-/
theorem readTimeout_spans (h : t.timeout = some raw) :
    (∀ form form' : Timeout.Form, form.Spells raw → form'.Spells raw → form = form') ∧
      (∀ form : Timeout.Form, form.Spells raw → form.Fits →
        ∃ d, t.readTimeout = .ok d ∧ d.Spans form.nanoseconds) ∧
      ((∀ form : Timeout.Form, form.Spells raw → ¬ form.Fits) →
        ∃ fault, t.readTimeout = .error fault ∧ fault = .badTimeout t.name raw ∧
          fault.message = "invalid configuration: target " ++ t.name ++ ": invalid timeout " ++
            Text.quote raw) := by
  refine ⟨fun _ _ => Timeout.Form.Spells.unique, fun form hspells hfits => ?_, fun hnone => ?_⟩
  · obtain ⟨d, hspans⟩ := hfits.exists_spans
    have hread : Timeout.parse? raw = some d :=
      Timeout.parse?_eq_some_iff.mpr ⟨form, hspells, hfits, hspans⟩
    refine ⟨d, ?_, hspans⟩
    rw [readTimeout, h]
    dsimp only
    rw [hread]
  · have hread : Timeout.parse? raw = none := by
      rw [Option.eq_none_iff_forall_not_mem]
      intro d hd
      obtain ⟨form, hspells, hfits, -⟩ := Timeout.parse?_eq_some_iff.mp hd
      exact hnone form hspells hfits
    refine ⟨.badTimeout t.name raw, ?_, rfl, rfl⟩
    rw [readTimeout, h]
    dsimp only
    rw [hread]

/-- A device that waits for an hour and a half. -/
def patientTarget : TargetConfig where
  name := "edge"
  address := "192.0.2.1"
  timeout := some "\t+0090m "

/-- A device whose minutes have more seconds than fit 64 bits. -/
def endlessTarget : TargetConfig := { patientTarget with timeout := some "307445734561825861m" }

theorem readTimeout_spans_patientTarget :
    patientTarget.readTimeout = .ok { seconds := 5400, nanoseconds := 0 } ∧
      endlessTarget.readTimeout = .error (.badTimeout "edge" "307445734561825861m") := by
  constructor
  · obtain ⟨-, hok, -⟩ := readTimeout_spans (t := patientTarget) rfl
    have hspells : Timeout.Form.Spells ⟨['+', '0', '0', '9', '0'], 90, .minutes⟩ "\t+0090m " :=
      ⟨Text.isTrimmed_iff.mpr rfl, .plus (by decide) (List.all_eq_true.mp rfl)⟩
    obtain ⟨d, hread, hspans⟩ := hok _ hspells ⟨by decide, fun _ => by decide⟩
    have htime : Duration.Spans ⟨5400, 0⟩ (90 * 60000000000) := ⟨by decide, by decide, rfl⟩
    rw [hread, hspans.unique htime]
  · obtain ⟨hunique, -, herror⟩ := readTimeout_spans (t := endlessTarget) rfl
    have hspells : Timeout.Form.Spells ⟨"307445734561825861".toList, 307445734561825861, .minutes⟩
        "307445734561825861m" :=
      ⟨Text.isTrimmed_iff.mpr rfl, .unsigned (by decide) (List.all_eq_true.mp rfl)⟩
    obtain ⟨fault, hread, rfl, -⟩ := herror fun form hform hfits => by
      rw [hunique form _ hform hspells] at hfits
      exact absurd (hfits.minutes rfl) (by decide)
    exact hread

end TargetConfig

end FirewallExporter
