import QueryFilter.Coercion
import QueryFilter.Number.Decimal
import QueryFilter.Proofs.Cutting
import Mathlib.Data.List.Basic
import Mathlib.Data.List.TakeWhile

/-!
# QueryFilter.Proofs.Spelling

Which texts are numbers, and what the integers among them are worth.

* `isSome_scan?_iff`: what the scanner takes for a number are the texts of the grammar.
* `IsLiteral`: integer literals; `SpellsInteger`: a text is one between blanks.
* `readNumber_eq_of_spellsInteger`: a literal that is read at all is read as its integer.
* `Reads`, `reads_readNumber`: the four ways to read a text.
* `readNumber_eq_error_iff`: the literals that are not read, for they are too long.
* `ofDigits_decimalDigits`, `signed_signOf`: what an integer is written with is worth the integer.
-/

namespace QueryFilter

namespace Text

/-- The digits of the core library are digits here, and worth the same. -/
theorem digit?_of_isDigit {c : Char} (h : c.isDigit = true) : digit? c = some (c.toNat - 48) := by
  have hrange : 48 ≤ c.toNat ∧ c.toNat ≤ 57 := Char.isDigit_iff_toNat.mp h
  have hzero : (48 ≤ c.toNat && c.toNat < 48 + 10) = true := by
    rw [Bool.and_eq_true, decide_eq_true_eq, decide_eq_true_eq]
    omega
  simp [digit?, digitZeros, hzero]

theorem isDigit_of_core {c : Char} (h : c.isDigit = true) : isDigit c = true := by
  rw [isDigit, digit?_of_isDigit h]
  rfl

/-- A blank is no digit. -/
theorem isBlank_eq_false_of_isDigit {c : Char} (h : isDigit c = true) : isBlank c = false := by
  obtain ⟨d, hd⟩ := Option.isSome_iff_exists.mp h
  simp only [digit?, Option.map_eq_some_iff] at hd
  obtain ⟨base, hfind, -⟩ := hd
  have hmem := List.mem_of_find?_eq_some hfind
  have hrange := List.find?_some hfind
  simp only [Bool.and_eq_true, decide_eq_true_eq] at hrange
  have hzeros : ∀ z ∈ digitZeros, ∀ k < 10, isBlank (Char.ofNat (z + k)) = false := by
    decide +kernel
  have hk := hzeros base hmem (c.toNat - base) (by omega)
  rwa [Nat.add_sub_cancel' hrange.1, Char.ofNat_toNat] at hk

end Text

/-- The text is an integer literal: a sign that may be missing, and digits. -/
structure IsLiteral (cs sign digits : List Char) : Prop where
  optionalSign : OptionalSign sign
  isDigits : IsDigits digits
  eq_append : cs = sign ++ digits

namespace Numeral

/-! ## The scanner and the grammar -/

theorem scanSign_spec (cs : List Char) :
    ∃ sign, OptionalSign sign ∧ cs = sign ++ (scanSign cs).2 := by
  simp only [scanSign]
  split
  · exact ⟨_, .plus, rfl⟩
  · exact ⟨_, .minus, rfl⟩
  · exact ⟨_, .absent, rfl⟩

theorem scanDigits_spec (cs : List Char) :
    cs = (scanDigits cs).1 ++ (scanDigits cs).2 ∧
      ∀ c ∈ (scanDigits cs).1, Text.isDigit c = true :=
  ⟨List.takeWhile_append_dropWhile.symm, fun _ h => List.mem_takeWhile_imp h⟩

/-- A run of digits is scanned up to what is no digit. -/
theorem scanDigits_append {digits rest : List Char}
    (hdigits : ∀ c ∈ digits, Text.isDigit c = true)
    (hrest : ∀ c ∈ rest.head?, Text.isDigit c = false) :
    scanDigits (digits ++ rest) = (digits, rest) := by
  have hstop : rest.takeWhile Text.isDigit = [] ∧ rest.dropWhile Text.isDigit = rest := by
    cases rest with
    | nil => exact ⟨rfl, rfl⟩
    | cons c rest =>
        have hc : Text.isDigit c = false := hrest c rfl
        simp [hc]
  simp only [scanDigits]
  rw [List.takeWhile_append_of_pos hdigits, List.dropWhile_append_of_pos hdigits, hstop.1,
    hstop.2, List.append_nil]

theorem optionalExponent_of_scanExponent? {cs : List Char} {e : Option Exponent}
    (h : scanExponent? cs = some e) : OptionalExponent cs := by
  cases cs with
  | nil => exact .absent
  | cons mark rest =>
      rw [scanExponent?] at h
      split at h
      next hmark =>
        obtain ⟨sign, hsign, hrest⟩ := scanSign_spec rest
        obtain ⟨hcut, hdigits⟩ := scanDigits_spec (scanSign rest).2
        dsimp only at h
        split at h
        next => exact nomatch h
        next hne =>
          simp only [Bool.or_eq_true, List.isEmpty_iff, Bool.not_eq_true', not_or,
            Bool.not_eq_false] at hne
          rw [hne.2, List.append_nil] at hcut
          rw [hrest, hcut]
          exact .present hmark hsign ⟨hne.1, hdigits⟩
      next => exact nomatch h

/-- What the scanner takes for a number is one by the grammar. -/
theorem spelled_of_scan? {cs : List Char} {n : Numeral} (h : scan? cs = some n) : Spelled cs := by
  obtain ⟨sign, hsign, hcs⟩ := scanSign_spec cs
  obtain ⟨hwhole, hwholeDigits⟩ := scanDigits_spec (scanSign cs).2
  unfold scan? at h
  dsimp only at h
  rw [hcs, hwhole]
  split at h
  next rest hrest =>
    -- a point, with digits before it or after it
    obtain ⟨hfraction, hfractionDigits⟩ := scanDigits_spec rest
    split at h
    next => exact nomatch h
    next hne =>
      obtain ⟨e, he, -⟩ := Option.map_eq_some_iff.mp h
      have hexponent := optionalExponent_of_scanExponent? he
      have hmantissa : Mantissa ((scanDigits (scanSign cs).2).1 ++ '.' :: (scanDigits rest).1) := by
        by_cases hempty : (scanDigits (scanSign cs).2).1 = []
        · rw [hempty] at hne ⊢
          exact .fraction ⟨by simpa using hne, hfractionDigits⟩
        · exact .pointed ⟨hempty, hwholeDigits⟩ hfractionDigits
      have hspelled := Spelled.mk hsign hmantissa hexponent
      rw [hrest, hfraction]
      simpa using hspelled
  next =>
    split at h
    next => exact nomatch h
    next hne =>
      obtain ⟨e, he, -⟩ := Option.map_eq_some_iff.mp h
      have hexponent := optionalExponent_of_scanExponent? he
      have hspelled :=
        Spelled.mk hsign (.whole ⟨by simpa using hne, hwholeDigits⟩) hexponent
      simpa using hspelled

theorem head_of_mantissa {cs : List Char} (h : Mantissa cs) :
    ∃ c rest, cs = c :: rest ∧ (c = '.' ∨ Text.isDigit c = true) := by
  have hdigits : ∀ {ds : List Char}, IsDigits ds →
      ∃ c rest, ds = c :: rest ∧ Text.isDigit c = true := by
    intro ds hds
    obtain ⟨c, rest, rfl⟩ := List.exists_cons_of_ne_nil hds.1
    exact ⟨c, rest, rfl, hds.2 c List.mem_cons_self⟩
  cases h with
  | whole hwhole =>
      obtain ⟨c, rest, rfl, hc⟩ := hdigits hwhole
      exact ⟨c, rest, rfl, .inr hc⟩
  | pointed hwhole hfraction =>
      obtain ⟨c, rest, rfl, hc⟩ := hdigits hwhole
      exact ⟨c, _, rfl, .inr hc⟩
  | fraction hfraction => exact ⟨'.', _, rfl, .inl rfl⟩

/-- A sign is scanned up to what begins like no sign. -/
theorem scanSign_append {sign rest : List Char} (hsign : OptionalSign sign)
    (hrest : ∀ c ∈ rest.head?, c ≠ '+' ∧ c ≠ '-') :
    scanSign (sign ++ rest) = (sign == ['-'], rest) := by
  cases hsign with
  | plus => rfl
  | minus => rfl
  | absent =>
      cases rest with
      | nil => rfl
      | cons c cs =>
          obtain ⟨hplus, hminus⟩ := hrest c rfl
          rw [List.nil_append]
          unfold scanSign
          split
          next heq => exact absurd (List.cons.inj heq).1 hplus
          next heq => exact absurd (List.cons.inj heq).1 hminus
          next => rfl

theorem not_sign_of_isDigit {c : Char} (h : Text.isDigit c = true) : c ≠ '+' ∧ c ≠ '-' := by
  constructor
  · intro hc
    subst hc
    exact absurd h (by decide)
  · intro hc
    subst hc
    exact absurd h (by decide)

/-- An exponent begins with a letter. -/
theorem head?_of_optionalExponent {cs : List Char} (h : OptionalExponent cs) :
    ∀ c ∈ cs.head?, c ≠ '.' ∧ Text.isDigit c = false := by
  intro c hc
  cases h with
  | absent => exact nomatch hc
  | present hmark hsign hdigits =>
      obtain rfl := Option.some.inj hc
      rcases hmark with rfl | rfl
      · decide
      · decide

theorem isSome_scanExponent? {cs : List Char} (h : OptionalExponent cs) :
    (scanExponent? cs).isSome = true := by
  cases h with
  | absent => rfl
  | @present mark sign digits hmark hsign hdigits =>
      have hhead : ∀ c ∈ digits.head?, c ≠ '+' ∧ c ≠ '-' := fun c hc =>
        not_sign_of_isDigit (hdigits.2 c (List.mem_of_mem_head? hc))
      have hscan : scanDigits (digits ++ []) = (digits, []) :=
        scanDigits_append hdigits.2 fun _ hc => nomatch hc
      rw [List.append_nil] at hscan
      rw [List.cons_append, scanExponent?, if_pos hmark, scanSign_append hsign hhead]
      simp [hscan, hdigits.1]

/-- What is a number by the grammar is scanned. -/
theorem isSome_scan?_of_spelled {cs : List Char} (h : Spelled cs) : (scan? cs).isSome = true := by
  cases h with
  | @mk sign mantissa exponent hsign hmantissa hexponent =>
      obtain ⟨e, he⟩ := Option.isSome_iff_exists.mp (isSome_scanExponent? hexponent)
      have hstop : ∀ c ∈ exponent.head?, Text.isDigit c = false := fun c hc =>
        (head?_of_optionalExponent hexponent c hc).2
      have hhead : ∀ c ∈ (mantissa ++ exponent).head?, c ≠ '+' ∧ c ≠ '-' := by
        intro c hc
        obtain ⟨d, rest, rfl, hd⟩ := head_of_mantissa hmantissa
        obtain rfl : d = c := Option.some.inj hc
        rcases hd with rfl | hd
        · decide
        · exact not_sign_of_isDigit hd
      unfold scan?
      rw [List.append_assoc, scanSign_append hsign hhead]
      dsimp only
      cases hmantissa with
      | whole hwhole =>
          rw [scanDigits_append hwhole.2 hstop]
          split
          next rest hpoint =>
            obtain rfl : exponent = '.' :: rest := hpoint
            exact absurd rfl (head?_of_optionalExponent hexponent '.' rfl).1
          next => simp [hwhole.1, he]
      | @pointed whole fraction hwhole hfraction =>
          have hpoint : ∀ c ∈ ('.' :: (fraction ++ exponent)).head?, Text.isDigit c = false := by
            intro c hc
            obtain rfl := Option.some.inj hc
            decide
          rw [List.append_assoc, List.cons_append, scanDigits_append hwhole.2 hpoint]
          have hfractionScan := scanDigits_append hfraction hstop
          simp [hfractionScan, hwhole.1, he]
      | @fraction fraction hfraction =>
          have hnone : scanDigits ('.' :: (fraction ++ exponent)) =
              ([], '.' :: (fraction ++ exponent)) := rfl
          rw [List.cons_append, hnone]
          have hfractionScan := scanDigits_append hfraction.2 hstop
          simp [hfractionScan, hfraction.1, he]

/-- The scanner takes for numbers exactly the texts of the grammar. -/
theorem isSome_scan?_iff {cs : List Char} : (scan? cs).isSome = true ↔ Spelled cs := by
  constructor
  · intro h
    obtain ⟨n, hn⟩ := Option.isSome_iff_exists.mp h
    exact spelled_of_scan? hn
  · exact isSome_scan?_of_spelled

instance (cs : List Char) : Decidable (Spelled cs) := decidable_of_iff _ isSome_scan?_iff

/-- An integer literal is scanned as its sign and its digits. -/
theorem scan?_literal {cs sign digits : List Char} (h : IsLiteral cs sign digits) :
    scan? cs = some ⟨sign == ['-'], Text.digitValues digits, none, none⟩ := by
  obtain ⟨hsign, ⟨hne, hall⟩, rfl⟩ := h
  have hscanSign : scanSign (sign ++ digits) = (sign == ['-'], digits) :=
    scanSign_append hsign fun c hc => not_sign_of_isDigit (hall c (List.mem_of_mem_head? hc))
  have hscanDigits : scanDigits digits = (digits, []) := by
    have h : scanDigits (digits ++ []) = (digits, []) := scanDigits_append hall (by simp)
    rwa [List.append_nil] at h
  simp only [scan?]
  simp [hscanSign, hscanDigits, scanExponent?, hne]

theorem eq_nil_of_scanExponent? {cs : List Char} (h : scanExponent? cs = some none) : cs = [] := by
  cases cs with
  | nil => rfl
  | cons mark rest =>
      rw [scanExponent?] at h
      dsimp only at h
      split at h
      next =>
        split at h
        next => exact nomatch h
        next => exact nomatch h
      next => exact nomatch h

/-- A numeral with neither point nor exponent was scanned from a literal. -/
theorem exists_literal_of_scan? {cs : List Char} {n : Numeral} (h : scan? cs = some n)
    (hfraction : n.fraction = none) (hexponent : n.exponent = none) :
    ∃ sign digits, IsLiteral cs sign digits := by
  obtain ⟨sign, hsign, hcs⟩ := scanSign_spec cs
  obtain ⟨hwhole, hwholeDigits⟩ := scanDigits_spec (scanSign cs).2
  unfold scan? at h
  dsimp only at h
  split at h
  next =>
    -- a point leaves a fraction
    split at h
    next => exact nomatch h
    next =>
      obtain ⟨e, -, rfl⟩ := Option.map_eq_some_iff.mp h
      exact nomatch hfraction
  next =>
    split at h
    next => exact nomatch h
    next hne =>
      obtain ⟨e, he, rfl⟩ := Option.map_eq_some_iff.mp h
      obtain rfl : e = none := hexponent
      rw [eq_nil_of_scanExponent? he, List.append_nil] at hwhole
      exact ⟨sign, _, hsign, ⟨by simpa using hne, hwholeDigits⟩, by rw [← hwhole]; exact hcs⟩

end Numeral

/-! ## Integer literals -/

/-- The text is an integer literal between blanks: an optional sign and digits. -/
def SpellsInteger (s : String) (n : Int) : Prop :=
  ∃ sign digits, OptionalSign sign ∧ IsDigits digits ∧ Text.trim s.toList = sign ++ digits ∧
    n = Numeral.signed (sign == ['-']) (Text.ofDigits (Text.digitValues digits))

/-- A literal is read as its integer, unless it has too many digits to be read. -/
theorem IsLiteral.readNumber_eq {s : String} {sign digits : List Char}
    (h : IsLiteral (Text.trim s.toList) sign digits) :
    readNumber s =
      if Numeral.maxIntegerDigits < digits.length then .error (.tooManyDigits digits.length)
      else .ok (some (.int
        (Numeral.signed (sign == ['-']) (Text.ofDigits (Text.digitValues digits))))) := by
  simp only [readNumber]
  rw [Numeral.scan?_literal h]
  simp only [Numeral.value, Option.isNone_none, Bool.and_self, if_true, Text.length_digitValues]
  by_cases hlong : Numeral.maxIntegerDigits < digits.length
  · rw [if_pos hlong, if_pos hlong]
  · rw [if_neg hlong, if_neg hlong]

theorem readNumber_eq_of_spellsInteger {s : String} {n : Int} (h : SpellsInteger s n)
    {r : Option Number} (hr : readNumber s = .ok r) : r = some (.int n) := by
  obtain ⟨sign, digits, hsign, hdigits, hs, rfl⟩ := h
  rw [IsLiteral.readNumber_eq ⟨hsign, hdigits, hs⟩] at hr
  split at hr
  · exact nomatch hr
  · exact (Except.ok.inj hr).symm

/-- The text is an integer literal between blanks, of so many digits, which are more than are
read. -/
def SpellsOverlong (s : String) (count : Nat) : Prop :=
  ∃ sign digits, OptionalSign sign ∧ IsDigits digits ∧ Text.trim s.toList = sign ++ digits ∧
    digits.length = count ∧ Numeral.maxIntegerDigits < count

/-! ## The ways to read a text -/

/-- The texts that are read as no number are those that are none by the grammar. -/
theorem readNumber_eq_none_iff {s : String} :
    readNumber s = .ok none ↔ ¬Spelled (Text.trim s.toList) := by
  rw [← Numeral.isSome_scan?_iff]
  unfold readNumber
  cases Numeral.scan? (Text.trim s.toList) with
  | none => exact ⟨fun _ => nofun, fun _ => rfl⟩
  | some numeral =>
      refine ⟨fun h => ?_, fun h => absurd rfl h⟩
      dsimp only at h
      split at h <;> exact nomatch h

/-- A number that is no literal has a point or an exponent, so it is read as a floating-point
number. -/
theorem exists_float_of_spelled {s : String} (h : Spelled (Text.trim s.toList))
    (hnot : ¬∃ sign digits, IsLiteral (Text.trim s.toList) sign digits) :
    ∃ x, readNumber s = .ok (some (.float x)) := by
  obtain ⟨n, hscan⟩ := Option.isSome_iff_exists.mp (Numeral.isSome_scan?_iff.mpr h)
  have hparts : (n.fraction.isNone && n.exponent.isNone) = false := by
    rw [Bool.eq_false_iff]
    intro hnone
    rw [Bool.and_eq_true, Option.isNone_iff_eq_none, Option.isNone_iff_eq_none] at hnone
    exact hnot (Numeral.exists_literal_of_scan? hscan hnone.1 hnone.2)
  refine ⟨n.toBinary64, ?_⟩
  unfold readNumber
  rw [hscan]
  simp [Numeral.value, hparts]

/-- What may be read of a text that is trimmed already. -/
inductive Reads (cs : List Char) : Except Fault (Option Number) → Prop where
  | nothing : ¬Spelled cs → Reads cs (.ok none)
  | int {sign digits : List Char} : IsLiteral cs sign digits →
      digits.length ≤ Numeral.maxIntegerDigits →
      Reads cs (.ok (some (.int
        (Numeral.signed (sign == ['-']) (Text.ofDigits (Text.digitValues digits))))))
  | overlong {sign digits : List Char} : IsLiteral cs sign digits →
      Numeral.maxIntegerDigits < digits.length → Reads cs (.error (.tooManyDigits digits.length))
  | float {x : Binary64} : Spelled cs → (¬∃ sign digits, IsLiteral cs sign digits) →
      Reads cs (.ok (some (.float x)))

theorem reads_readNumber (s : String) : Reads (Text.trim s.toList) (readNumber s) := by
  by_cases hspelled : Spelled (Text.trim s.toList)
  · by_cases hliteral : ∃ sign digits, IsLiteral (Text.trim s.toList) sign digits
    · obtain ⟨sign, digits, h⟩ := hliteral
      rw [h.readNumber_eq]
      split
      next hlong => exact .overlong h hlong
      next hshort => exact .int h (Nat.not_lt.mp hshort)
    · obtain ⟨x, hx⟩ := exists_float_of_spelled hspelled hliteral
      rw [hx]
      exact .float hspelled hliteral
  · rw [readNumber_eq_none_iff.mpr hspelled]
    exact .nothing hspelled

/-- Reading a text as a number fails on overlong integer literals only. -/
theorem readNumber_eq_error_iff {s : String} {fault : Fault} :
    readNumber s = .error fault ↔
      ∃ count, SpellsOverlong s count ∧ fault = .tooManyDigits count := by
  constructor
  · intro h
    have hreads := reads_readNumber s
    rw [h] at hreads
    cases hreads with
    | @overlong sign digits hliteral hlong =>
        obtain ⟨hsign, hdigits, hs⟩ := hliteral
        exact ⟨_, ⟨sign, digits, hsign, hdigits, hs, rfl, hlong⟩, rfl⟩
  · intro hgiven
    obtain ⟨count, ⟨sign, digits, hsign, hdigits, hs, rfl, hlong⟩, rfl⟩ := hgiven
    rw [IsLiteral.readNumber_eq ⟨hsign, hdigits, hs⟩, if_pos hlong]

/-- Blanks around a text do not change the number that it spells. -/
theorem readNumber_strip (s : String) : readNumber (Text.strip s) = readNumber s := by
  unfold readNumber
  rw [Text.strip, String.toList_ofList, Text.trim_trim]

/-! ## Decimal texts -/

theorem ofDigits_digitValues {cs : List Char} (h : ∀ c ∈ cs, c.isDigit = true) :
    Text.ofDigits (Text.digitValues cs) = Nat.ofDigitChars 10 cs 0 := by
  rw [Text.ofDigits, Text.digitValues, Nat.ofDigitChars_eq_foldl, List.foldl_map]
  refine List.foldl_ext _ _ _ fun n c hc => ?_
  rw [Text.digit?_of_isDigit (h c hc)]
  rfl

theorem isDigits_decimalDigits (n : Nat) : IsDigits (decimalDigits n) :=
  ⟨Nat.toDigits_ne_nil, fun _ hc =>
    Text.isDigit_of_core (Nat.isDigit_of_mem_toDigits (by decide) (by decide) hc)⟩

theorem ofDigits_decimalDigits (n : Nat) :
    Text.ofDigits (Text.digitValues (decimalDigits n)) = n := by
  rw [decimalDigits, ofDigits_digitValues fun _ hc =>
    Nat.isDigit_of_mem_toDigits (by decide) (by decide) hc, Nat.ofDigitChars_ten_toDigits]

/-- The sign in front of the decimal digits of an integer. -/
def signOf (n : Int) : List Char := if n < 0 then ['-'] else []

theorem optionalSign_signOf (n : Int) : OptionalSign (signOf n) := by
  simp only [signOf]
  split
  · exact .minus
  · exact .absent

theorem toList_renderInt (n : Int) : (renderInt n).toList = signOf n ++ decimalDigits n.natAbs := by
  unfold renderInt signOf
  split <;> simp

theorem signed_signOf (n : Int) : Numeral.signed (signOf n == ['-']) n.natAbs = n := by
  unfold signOf Numeral.signed
  by_cases h : n < 0
  · rw [if_pos h, if_pos (by decide)]
    omega
  · rw [if_neg h, if_neg (by decide)]
    omega

end QueryFilter
