/-
The tokens of a JSON text: white space, strings and numbers.  Each scanner takes
what the grammar allows for its token, and nothing else.
-/
import Mathlib.Data.List.TakeWhile
import Mathlib.Tactic.SplitIfs
import TableScribe.Json.Scan
import TableScribe.Proofs.Attempts
import TableScribe.Proofs.Json.Grammar

namespace TableScribe.Json

theorem isSpace_iff {c : Char} : isSpace c = true ↔ c ∈ [' ', '\t', '\n', '\r'] := by
  simp [isSpace, or_assoc]

theorem skipSpace_append {space : List Char} (hspace : IsBlank space) (text : List Char) :
    skipSpace (space ++ text) = skipSpace text :=
  List.dropWhile_append_of_pos fun c hc => isSpace_iff.mpr (hspace c hc)

theorem skipSpace_cons {c : Char} (hc : isSpace c = false) (text : List Char) :
    skipSpace (c :: text) = c :: text := by
  simp [skipSpace, hc]

theorem exists_blank_skipSpace (text : List Char) :
    ∃ space, IsBlank space ∧ text = space ++ skipSpace text := by
  refine ⟨text.takeWhile isSpace, ?_, List.takeWhile_append_dropWhile.symm⟩
  intro c hc
  exact isSpace_iff.mp (List.mem_takeWhile_imp hc)

theorem le_of_hexValue?_eq_some {c : Char} {value : Nat} (hvalue : hexValue? c = some value) :
    c.toNat ≤ 'f'.toNat := by
  have hle (last : Char) : c ≤ last ↔ c.toNat ≤ last.toNat := by
    rw [Char.le_def, UInt32.le_iff_toNat_le]
    rfl
  unfold hexValue? at hvalue
  split at hvalue
  case isTrue hdigit =>
    simp only [Char.isDigit, Bool.and_eq_true, decide_eq_true_eq] at hdigit
    have hnine := UInt32.le_iff_toNat_le.mp hdigit.2
    exact Nat.le_trans hnine (by decide)
  case isFalse =>
    split at hvalue
    case isTrue hsmall =>
      simp only [Bool.and_eq_true, decide_eq_true_eq, hle] at hsmall
      exact hsmall.2
    case isFalse =>
      split at hvalue
      case isTrue hcapital =>
        simp only [Bool.and_eq_true, decide_eq_true_eq, hle] at hcapital
        exact Nat.le_trans hcapital.2 (by decide)
      case isFalse => exact nomatch hvalue

/-- The scanner knows the digits of the grammar. -/
theorem hexValue?_eq_some_iff {c : Char} {value : Nat} :
    hexValue? c = some value ↔ (c, value) ∈ hexDigits := by
  constructor
  · intro hvalue
    have hall : ∀ code ≤ 'f'.toNat, ∀ value ∈ hexValue? (Char.ofNat code),
        (Char.ofNat code, value) ∈ hexDigits := by decide
    rw [← Char.ofNat_toNat c] at hvalue ⊢
    exact hall c.toNat (le_of_hexValue?_eq_some (by simpa using hvalue)) value hvalue
  · have hall : ∀ digit ∈ hexDigits, hexValue? digit.1 = some digit.2 := by decide
    exact hall (c, value)

theorem hexUnit?_eq_some_iff {a b c d : Char} {code : Nat} :
    hexUnit? a b c d = some code ↔ ∃ i j k l, (a, i) ∈ hexDigits ∧ (b, j) ∈ hexDigits ∧
      (c, k) ∈ hexDigits ∧ (d, l) ∈ hexDigits ∧ code = ((i * 16 + j) * 16 + k) * 16 + l := by
  simp only [hexUnit?, Option.bind_eq_bind, Option.bind_eq_some_iff, hexValue?_eq_some_iff,
    Option.pure_def, Option.some.injEq]
  constructor
  · rintro ⟨i, ha, j, hb, k, hc, l, hd, hcode⟩
    exact ⟨i, j, k, l, ha, hb, hc, hd, hcode.symm⟩
  · rintro ⟨i, j, k, l, ha, hb, hc, hd, hcode⟩
    exact ⟨i, ha, j, hb, k, hc, l, hd, hcode.symm⟩

theorem shortEscape?_eq_some_iff {letter c : Char} :
    shortEscape? letter = some c ↔ (letter, c) ∈ shortEscapes := by
  constructor
  · intro hescape
    unfold shortEscape? at hescape
    split_ifs at hescape <;> obtain rfl := Option.some.inj hescape <;> simp_all [shortEscapes]
  · have hall : ∀ escape ∈ shortEscapes, shortEscape? escape.1 = some escape.2 := by decide
    exact hall (letter, c)

/-- A string is read up to its closing quote. -/
theorem scanString_of_spelledInside {pieces : List Piece} {inside : List Char}
    (hinside : StringLiteral.SpelledInside pieces inside) (rest : List Char) :
    scanString (inside ++ rest) = (⟨pieces, none⟩, rest) := by
  induction hinside with
  | close => rfl
  | @piece piece pieces written others hpiece _ ih =>
      rw [List.append_assoc]
      cases hpiece with
      | @plain c hquote hbackslash hcontrol =>
          have hscan : scanString (c :: (others ++ rest)) =
              consPiece (.char c) (scanString (others ++ rest)) := by
            simp [scanString, hbackslash, Nat.not_lt.mpr hcontrol]
          simp [hscan, ih, consPiece]
      | @short letter c hescape =>
          have hletter : letter ≠ 'u' := by
            rintro rfl
            simp [shortEscapes] at hescape
          have hscan : scanString ('\\' :: letter :: (others ++ rest)) =
              consPiece (.char c) (scanString (others ++ rest)) := by
            simp [scanString, hletter, shortEscape?_eq_some_iff.mpr hescape]
          simp [hscan, ih, consPiece]
      | @unit a b c d i j k l ha hb hc hd =>
          have hunit := hexUnit?_eq_some_iff.mpr ⟨i, j, k, l, ha, hb, hc, hd, rfl⟩
          simp [scanString, hunit, ih, consPiece]

/-- What was read at the start of a text is a string of the grammar, unless it has
a fault. -/
def ReadsString (text : List Char) (scanned : StringLiteral × List Char) : Prop :=
  scanned.1.fault = none → ∃ inside,
    StringLiteral.SpelledInside scanned.1.pieces inside ∧ text = inside ++ scanned.2

theorem ReadsString.consPiece {piece : Piece} {written others : List Char}
    {scanned : StringLiteral × List Char} (hpiece : piece.SpelledAs written)
    (hothers : ReadsString others scanned) :
    ReadsString (written ++ others) (consPiece piece scanned) := by
  intro hfault
  obtain ⟨inside, hinside, htext⟩ := hothers hfault
  exact ⟨written ++ inside, .piece hpiece hinside, by simp [Json.consPiece, htext]⟩

theorem readsString_failString (text : List Char) (fault : Fault) :
    ReadsString text (failString fault) := nofun

/-- Scanning a string takes only what the grammar allows. -/
theorem readsString_scanString (text : List Char) : ReadsString text (scanString text) := by
  fun_induction scanString text with
  | case2 rest => exact fun _ => ⟨['"'], .close, rfl⟩
  | case4 a b c d rest code hunit ih =>
      obtain ⟨i, j, k, l, ha, hb, hc, hd, rfl⟩ := hexUnit?_eq_some_iff.mp hunit
      exact ih.consPiece (.unit ha hb hc hd)
  | case7 letter rest _ _ meant hescape ih =>
      exact ih.consPiece (.short (shortEscape?_eq_some_iff.mp hescape))
  | case10 c rest hquote hlast _ _ hescape hcontrol ih =>
      have hbackslash : c ≠ '\\' := by
        rintro rfl
        cases rest with
        | nil => exact hlast rfl rfl
        | cons letter rest => exact hescape letter rest rfl rfl
      exact ih.consPiece (.plain hquote hbackslash (Nat.not_lt.mp hcontrol))
  | case1 | case3 | case5 | case6 | case8 | case9 => exact readsString_failString _ _

/-- Where a number may end: no digit follows, no point and no exponent. -/
def IsDelimited (rest : List Char) : Prop :=
  ∀ c ∈ rest.head?, c.isDigit = false ∧ c ∉ ['.', 'e', 'E']

theorem takeWhile_digits {digits rest : List Char} (hdigits : ∀ c ∈ digits, c.isDigit = true)
    (hrest : ∀ c ∈ rest.head?, c.isDigit = false) :
    (digits ++ rest).takeWhile Char.isDigit = digits ∧
      (digits ++ rest).dropWhile Char.isDigit = rest := by
  have hempty : rest.takeWhile Char.isDigit = [] ∧ rest.dropWhile Char.isDigit = rest := by
    cases rest with
    | nil => exact ⟨rfl, rfl⟩
    | cons c rest => simp [hrest c rfl]
  rw [List.takeWhile_append_of_pos hdigits, List.dropWhile_append_of_pos hdigits, hempty.1,
    hempty.2, List.append_nil]
  exact ⟨rfl, rfl⟩

theorem not_isDigit_head {written rest : List Char} {exponent : Option (Bool × List Char)}
    (hexponent : SpelledExponent exponent written) (hrest : IsDelimited rest) :
    ∀ c ∈ (written ++ rest).head?, c.isDigit = false ∧ c ≠ '.' := by
  cases exponent with
  | none =>
      obtain rfl : written = [] := hexponent
      intro c hc
      obtain ⟨hdigit, hmark⟩ := hrest c hc
      exact ⟨hdigit, fun hpoint => hmark (by simp [hpoint])⟩
  | some exponent =>
      obtain ⟨-, mark, hmark, sign, -, rfl⟩ := hexponent
      intro c hc
      obtain rfl : mark = c := Option.some.inj hc
      simp only [List.mem_cons, List.not_mem_nil, or_false] at hmark
      rcases hmark with rfl | rfl <;> decide

/-- A whole number is read up to its last digit. -/
theorem scanWhole_append {whole rest : List Char} (hwhole : IsDigits whole)
    (hzero : whole.head? = some '0' → whole = ['0'])
    (hrest : ∀ c ∈ rest.head?, c.isDigit = false) :
    scanWhole (whole ++ rest) = .ok (whole, rest) := by
  obtain ⟨htake, hdrop⟩ := takeWhile_digits hwhole.2 hrest
  unfold scanWhole
  simp only [htake, hdrop]
  split
  · exact absurd rfl hwhole.1
  · simp at hzero
  · rfl

theorem scanFraction_append {fraction : Option (List Char)} {written rest : List Char}
    (hfraction : SpelledFraction fraction written)
    (hrest : ∀ c ∈ rest.head?, c.isDigit = false ∧ c ≠ '.') :
    scanFraction (written ++ rest) = .ok (fraction, rest) := by
  cases fraction with
  | none =>
      obtain rfl : written = [] := hfraction
      cases rest with
      | nil => rfl
      | cons c rest => simp [scanFraction, (hrest c rfl).2]
  | some digits =>
      obtain ⟨hdigits, rfl⟩ := hfraction
      obtain ⟨htake, hdrop⟩ := takeWhile_digits hdigits.2 fun c hc => (hrest c hc).1
      simp [scanFraction, htake, hdrop, hdigits.1]

/-- An exponent is read up to where the number ends. -/
theorem scanExponent_append {exponent : Option (Bool × List Char)} {written rest : List Char}
    (hexponent : SpelledExponent exponent written) (hrest : IsDelimited rest) :
    scanExponent (written ++ rest) = .ok (exponent, rest) := by
  cases exponent with
  | none =>
      obtain rfl : written = [] := hexponent
      cases rest with
      | nil => rfl
      | cons c rest =>
          have hc := (hrest c rfl).2
          simp only [List.mem_cons, List.not_mem_nil, or_false, not_or] at hc
          simp [scanExponent, hc]
  | some exponent =>
      obtain ⟨negative, digits⟩ := exponent
      obtain ⟨hdigits, mark, hmark, sign, hsign, rfl⟩ := hexponent
      obtain ⟨htake, hdrop⟩ := takeWhile_digits hdigits.2 fun c hc => (hrest c hc).1
      obtain ⟨first, others, rfl⟩ := List.exists_cons_of_ne_nil hdigits.1
      have hfirst : first.isDigit = true := hdigits.2 first List.mem_cons_self
      have hplain : first ≠ '-' ∧ first ≠ '+' := by
        constructor <;> rintro rfl <;> exact absurd hfirst (by decide)
      have hexp : mark = 'e' ∨ mark = 'E' := by simpa using hmark
      cases negative with
      | true =>
          obtain rfl : sign = ['-'] := by simpa using hsign
          simp_all [scanExponent]
      | false =>
          have hsigns : sign = [] ∨ sign = ['+'] := by simpa using hsign
          rcases hsigns with rfl | rfl <;> simp_all [scanExponent]

theorem not_isDigit_fraction {fraction : Option (List Char)} {written rest : List Char}
    (hfraction : SpelledFraction fraction written)
    (hrest : ∀ c ∈ rest.head?, c.isDigit = false ∧ c ≠ '.') :
    ∀ c ∈ (written ++ rest).head?, c.isDigit = false := by
  cases fraction with
  | none =>
      obtain rfl : written = [] := hfraction
      exact fun c hc => (hrest c hc).1
  | some digits =>
      obtain ⟨-, rfl⟩ := hfraction
      intro c hc
      obtain rfl : '.' = c := Option.some.inj hc
      rfl

/-- A number is read up to where it ends. -/
theorem scanUnsigned_append {literal : NumberLiteral} {text rest : List Char}
    (hliteral : literal.SpelledAs text) (hrest : IsDelimited rest) :
    ∃ unsigned, text = (if literal.negative then ['-'] else []) ++ unsigned ∧
      (∃ c ∈ unsigned.head?, c.isDigit = true) ∧
      scanUnsigned literal.negative (unsigned ++ rest) = .ok (literal, rest) := by
  obtain ⟨fraction, exponent, hwhole, hzero, hfraction, hexponent, rfl⟩ := hliteral
  refine ⟨literal.whole ++ fraction ++ exponent, by simp, ?_, ?_⟩
  · obtain ⟨first, others, hfirst⟩ := List.exists_cons_of_ne_nil hwhole.1
    exact ⟨first, by simp [hfirst], hwhole.2 first (by simp [hfirst])⟩
  · have hafter := not_isDigit_head hexponent hrest
    have hscan := scanWhole_append hwhole hzero (not_isDigit_fraction hfraction hafter)
    rw [List.append_assoc, List.append_assoc, scanUnsigned, Except.bind_eq_ok_iff]
    refine ⟨_, hscan, Except.bind_eq_ok_iff.mpr ⟨_, scanFraction_append hfraction hafter, ?_⟩⟩
    exact Except.bind_eq_ok_iff.mpr ⟨_, scanExponent_append hexponent hrest, rfl⟩

theorem isDigits_takeWhile {text : List Char} (htext : text.takeWhile Char.isDigit ≠ []) :
    IsDigits (text.takeWhile Char.isDigit) :=
  ⟨htext, fun _ hc => List.mem_takeWhile_imp hc⟩

/-- Scanning a whole number takes only digits, and no zero before others. -/
theorem of_scanWhole {text whole rest : List Char} (hscan : scanWhole text = .ok (whole, rest)) :
    IsDigits whole ∧ (whole.head? = some '0' → whole = ['0']) ∧ text = whole ++ rest := by
  simp only [scanWhole] at hscan
  split at hscan
  case h_1 => exact nomatch hscan
  case h_2 => exact nomatch hscan
  case h_3 hnil hzero =>
    obtain ⟨rfl, rfl⟩ := Prod.mk.inj (Except.ok.inj hscan)
    refine ⟨isDigits_takeWhile hnil, ?_, List.takeWhile_append_dropWhile.symm⟩
    intro hhead
    obtain ⟨others, hothers⟩ := List.head?_eq_some_iff.mp hhead
    cases others with
    | nil => exact hothers
    | cons c others => exact absurd hothers (hzero c others)

theorem of_scanFraction {text rest : List Char} {fraction : Option (List Char)}
    (hscan : scanFraction text = .ok (fraction, rest)) :
    ∃ written, SpelledFraction fraction written ∧ text = written ++ rest := by
  unfold scanFraction at hscan
  split at hscan
  case h_1 =>
    obtain ⟨rfl, rfl⟩ := Prod.mk.inj (Except.ok.inj hscan)
    exact ⟨[], rfl, rfl⟩
  case h_2 mark others =>
    simp only at hscan
    split_ifs at hscan with hmark hdigits
    · obtain ⟨rfl, rfl⟩ := Prod.mk.inj (Except.ok.inj hscan)
      have hsome : others.takeWhile Char.isDigit ≠ [] := mt List.isEmpty_iff.mpr hdigits
      refine ⟨mark :: others.takeWhile Char.isDigit, ⟨isDigits_takeWhile hsome, ?_⟩, ?_⟩
      · rw [hmark]
      · rw [List.cons_append, List.takeWhile_append_dropWhile]
    · obtain ⟨rfl, rfl⟩ := Prod.mk.inj (Except.ok.inj hscan)
      exact ⟨[], rfl, rfl⟩

theorem exists_sign (text : List Char) :
    ∃ sign ∈ (if text.head? = some '-' then [['-']] else [[], ['+']]), text = sign ++
      if text.head? = some '-' ∨ text.head? = some '+' then text.drop 1 else text := by
  cases text with
  | nil => simp
  | cons c rest =>
      by_cases hminus : c = '-'
      · simp [hminus]
      · by_cases hplus : c = '+' <;> simp [hminus, hplus]

theorem of_scanExponent {text rest : List Char} {exponent : Option (Bool × List Char)}
    (hscan : scanExponent text = .ok (exponent, rest)) :
    ∃ written, SpelledExponent exponent written ∧ text = written ++ rest := by
  unfold scanExponent at hscan
  split at hscan
  case h_1 =>
    obtain ⟨rfl, rfl⟩ := Prod.mk.inj (Except.ok.inj hscan)
    exact ⟨[], rfl, rfl⟩
  case h_2 mark others =>
    simp only [Bool.or_eq_true, decide_eq_true_eq] at hscan
    obtain ⟨sign, hsign, hothers⟩ := exists_sign others
    generalize (if others.head? = some '-' ∨ others.head? = some '+' then others.drop 1
      else others) = unsigned at hscan hothers
    split_ifs at hscan with hmark hdigits
    · obtain ⟨rfl, rfl⟩ := Prod.mk.inj (Except.ok.inj hscan)
      have hsome : unsigned.takeWhile Char.isDigit ≠ [] := mt List.isEmpty_iff.mpr hdigits
      refine ⟨mark :: (sign ++ unsigned.takeWhile Char.isDigit),
        ⟨isDigits_takeWhile hsome, mark, by simpa using hmark, sign, ?_, rfl⟩, ?_⟩
      · simpa using hsign
      · rw [List.cons_append, List.append_assoc, List.takeWhile_append_dropWhile, ← hothers]
    · obtain ⟨rfl, rfl⟩ := Prod.mk.inj (Except.ok.inj hscan)
      exact ⟨[], rfl, rfl⟩

/-- A number that is read without a fault is one that the grammar allows. -/
theorem of_scanUnsigned {negative : Bool} {text rest : List Char} {literal : NumberLiteral}
    (hscan : scanUnsigned negative text = .ok (literal, rest)) :
    ∃ unsigned, literal.SpelledAs ((if negative then ['-'] else []) ++ unsigned) ∧
      text = unsigned ++ rest := by
  obtain ⟨⟨whole, afterWhole⟩, hwhole, hscan⟩ := Except.bind_eq_ok_iff.mp hscan
  obtain ⟨⟨fraction, afterFraction⟩, hfraction, hscan⟩ := Except.bind_eq_ok_iff.mp hscan
  obtain ⟨⟨exponent, afterExponent⟩, hexponent, hscan⟩ := Except.bind_eq_ok_iff.mp hscan
  obtain ⟨rfl, rfl⟩ := Prod.mk.inj (Except.ok.inj hscan)
  obtain ⟨hdigits, hzero, rfl⟩ := of_scanWhole hwhole
  obtain ⟨second, hsecond, rfl⟩ := of_scanFraction hfraction
  obtain ⟨third, hthird, rfl⟩ := of_scanExponent hexponent
  exact ⟨whole ++ second ++ third, ⟨second, third, hdigits, hzero, hsecond, hthird, by simp⟩,
    by simp⟩

end TableScribe.Json
