/-
Which names made from database names are identifiers.  Repair keeps keywords and the empty text
out, but it knows the digits of ASCII only, and the cut into words keeps numeric symbols and circled
letters, which no identifier may hold.
-/
import TableScribe.Proofs.Java.Identifier
import TableScribe.Proofs.Java.IdentifierPart

namespace TableScribe.Java

open Unicode

/-- The runs together have the letters and numbers of the name, in their order. -/
theorem flatten_runs (name : List Char) : (runs name).flatten = name.filter isAlphanumeric := by
  induction name with
  | nil => rfl
  | cons c rest ih =>
      cases hc : isAlphanumeric c with
      | false => simp [runs, hc, ih]
      | true =>
          cases hruns : runs rest with
          | nil => simp [runs, hc, hruns, ← ih]
          | cons head tail => simp [runs, hc, hruns, ← ih]

section

variable {p : Char → Bool} (hsettled : Settled p)

include hsettled

theorem resembles_normalizeWord (word : List Char) : Resembles p word (normalizeWord word) := by
  by_cases hlower : word.any isLowercase
  · rw [normalizeWord, if_pos hlower]
    exact .refl word
  · rw [normalizeWord, if_neg hlower]
    exact .lowerAfter hsettled [] word

theorem resembles_capitalize (word : List Char) : Resembles p word (capitalize word) := by
  cases word with
  | nil => exact .refl []
  | cons first rest =>
      have hfirst := Resembles.of_akin hsettled (upperCase_ne_nil first) fun _ =>
        akin_of_mem_upperCase
      exact hfirst.append (.refl rest)

theorem resembles_decapitalize (word : List Char) : Resembles p word (decapitalize word) := by
  cases word with
  | nil => exact .refl []
  | cons first rest =>
      have hfirst := Resembles.of_akin hsettled (lowerCase_ne_nil first) fun _ =>
        akin_of_mem_lowerCase
      exact hfirst.append (.refl rest)

/-- The words of a name resemble its letters and numbers. -/
theorem resembles_words (name : List Char) :
    Resembles p (name.filter isAlphanumeric) (words name).flatten := by
  rw [← flatten_runs, ← List.flatten_filter_not_isEmpty, words, ← List.flatMap_def]
  exact .flatMap (resembles_normalizeWord hsettled)

theorem resembles_upperCamel (name : List Char) :
    Resembles p (name.filter isAlphanumeric) (upperCamel (words name)) :=
  (resembles_words hsettled name).trans (.flatMap (resembles_capitalize hsettled))

theorem resembles_lowerCamel (name : List Char) :
    Resembles p (name.filter isAlphanumeric) (lowerCamel (words name)) := by
  apply (resembles_words hsettled name).trans
  cases words name with
  | nil => exact .refl []
  | cons first rest =>
      have hfirst := resembles_decapitalize hsettled first
      exact hfirst.append (.flatMap (resembles_capitalize hsettled))

end

section

variable {name : List Char}

theorem needsRepair_iff : needsRepair name = true ↔
    name.isEmpty = true ∨ name.head?.any Char.isDigit = true ∨ String.ofList name ∈ keywords := by
  simp only [needsRepair, Bool.or_eq_true, List.contains_iff_mem, or_assoc]

/-- Keywords start with small letters of ASCII. -/
theorem not_mem_keywords_of_first {first : Char} (hfirst : first.toNat < 0x61 ∨ 0x80 ≤ first.toNat)
    (rest : List Char) : String.ofList (first :: rest) ∉ keywords := by
  have hall : ∀ word ∈ keywords,
      word.toList.head?.any (fun c => 0x61 ≤ c.toNat && c.toNat < 0x80) = true := by
    decide
  intro hkeyword
  have hletter := hall _ hkeyword
  simp only [String.toList_ofList, List.head?_cons, Option.any_some, Bool.and_eq_true,
    decide_eq_true_eq] at hletter
  omega

/-- Repair keeps keywords out, as none of them starts with a low line. -/
theorem safeIdentifier_not_mem_keywords : String.ofList (safeIdentifier name) ∉ keywords := by
  by_cases hrepair : needsRepair name = true
  · rw [safeIdentifier, if_pos hrepair]
    exact not_mem_keywords_of_first (by decide) name
  · rw [safeIdentifier, if_neg hrepair]
    exact fun hkeyword => hrepair (needsRepair_iff.mpr (Or.inr (Or.inr hkeyword)))

theorem all_safeIdentifier {p : Char → Bool} (hline : p '_' = true) :
    (safeIdentifier name).all p = name.all p := by
  by_cases hrepair : needsRepair name = true
  · rw [safeIdentifier, if_pos hrepair, List.all_cons, hline, Bool.true_and]
  · rw [safeIdentifier, if_neg hrepair]

end

/-- The characters of ASCII that a converted name may hold, and all other ones. -/
def convertedRanges : List (Nat × Nat) :=
  [(0x30, 0x39), (0x41, 0x5A), (0x5F, 0x5F), (0x61, 0x7A), (0x80, 0x10FFFF)]

theorem settled_convertedRanges : Settled (inRanges convertedRanges) :=
  settled_inRanges (by decide)

theorem isDigit_eq_inRanges : Char.isDigit = inRanges [(0x30, 0x39)] := by
  funext c
  simp [Char.isDigit, inRanges, UInt32.le_iff_toNat_le]

theorem settled_isDigit : Settled Char.isDigit := by
  rw [isDigit_eq_inRanges]
  exact settled_inRanges (by decide)

section

variable {c : Char}

theorem inRanges_converted_ascii (hascii : c.toNat < 0x80) :
    inRanges convertedRanges c = true ↔ c.isAlphanum = true ∨ c = '_' :=
  Text.of_isAscii
    (P := fun c => inRanges convertedRanges c = true ↔ c.isAlphanum = true ∨ c = '_')
    (by decide +kernel) hascii

theorem inRanges_converted_of_isAlphanumeric (hc : isAlphanumeric c = true) :
    inRanges convertedRanges c = true := by
  by_cases hascii : c.toNat < 0x80
  · rw [isAlphanumeric, if_pos hascii] at hc
    exact (inRanges_converted_ascii hascii).mpr (Or.inl hc)
  · have hbound : c.toNat < 0x110000 := by
      have hvalid : c.toNat < 0xD800 ∨ 0xDFFF < c.toNat ∧ c.toNat < 0x110000 := c.valid
      omega
    simp only [inRanges, convertedRanges, List.any_cons, List.any_nil, Bool.or_eq_true,
      Bool.and_eq_true, decide_eq_true_eq]
    omega

theorem isDecimalDigit_ascii (hascii : c.toNat < 0x80) : isDecimalDigit c = c.isDigit :=
  Text.of_isAscii (P := fun c => isDecimalDigit c = c.isDigit) (by decide +kernel) hascii

/-- The digits that repair does not know are those outside ASCII. -/
theorem not_isDigit_iff (hdigit : isDecimalDigit c = true) :
    c.isDigit = false ↔ 0x80 ≤ c.toNat := by
  by_cases hascii : c.toNat < 0x80
  · rw [← isDecimalDigit_ascii hascii, hdigit]
    simp [hascii]
  · rw [isDigit_eq_inRanges]
    simp only [inRanges, List.any_cons, List.any_nil, Bool.or_false, Bool.and_eq_false_iff,
      decide_eq_false_iff_not]
    omega

end

/-- Of the names that start with a digit, those are repaired whose digit is one of ASCII. -/
theorem safeIdentifier_starts_with_digit_iff {name : List Char} :
    (safeIdentifier name).head?.any isDecimalDigit = true ↔
      name.head?.any isDecimalDigit = true ∧ name.head?.any Char.isDigit = false := by
  by_cases hrepair : needsRepair name = true
  · rw [safeIdentifier, if_pos hrepair]
    have hline : isDecimalDigit '_' = false := by decide
    apply iff_of_false (by simp [hline])
    rintro ⟨hdigit, hascii⟩
    cases name with
    | nil => exact nomatch hdigit
    | cons first rest =>
        have hforeign := (not_isDigit_iff hdigit).mp hascii
        rcases needsRepair_iff.mp hrepair with hempty | hknown | hkeyword
        · exact nomatch hempty
        · exact Bool.false_ne_true (hascii.symm.trans hknown)
        · exact not_mem_keywords_of_first (Or.inr hforeign) rest hkeyword
  · rw [safeIdentifier, if_neg hrepair]
    have hascii := mt (fun hknown => needsRepair_iff.mpr (Or.inr (Or.inl hknown))) hrepair
    rw [and_iff_left (Bool.eq_false_iff.mpr hascii)]

/-- A text that was made from a name is an identifier as far as the letters and numbers of the name
let it: it is neither empty nor a keyword and holds no sign of ASCII but low lines; it starts with a
decimal digit exactly if the first letter or number is one outside ASCII, and it holds what Java
forbids exactly if a letter or number of the name is forbidden. -/
structure LegalAsFarAs (name text : String) : Prop where
  ne_empty : text ≠ ""
  not_mem_keywords : text ∉ keywords
  ascii : ∀ c ∈ text.toList, c.toNat < 0x80 → c.isAlphanum = true ∨ c = '_'
  starts_with_digit_iff : (∃ c ∈ text.toList.head?, isDecimalDigit c = true) ↔
    ∃ c ∈ name.toList.find? isAlphanumeric, isDecimalDigit c = true ∧ 0x80 ≤ c.toNat
  parts_iff : (∀ c ∈ text.toList, isIdentifierPart c = true) ↔
    ∀ c ∈ name.toList, isAlphanumeric c = true → isIdentifierPart c = true

section

variable {name : String} {camel : List Char}
  (hresembles : ∀ p, Settled p → Resembles p (name.toList.filter isAlphanumeric) camel)

include hresembles

/-- A converted name has no sign of ASCII but low lines. -/
theorem ascii_safeIdentifier {c : Char} (hc : c ∈ safeIdentifier camel) (hascii : c.toNat < 0x80) :
    c.isAlphanum = true ∨ c = '_' := by
  have hall : (safeIdentifier camel).all (inRanges convertedRanges) = true := by
    rw [all_safeIdentifier (by decide), (hresembles _ settled_convertedRanges).all,
      List.all_filter, List.all_eq_true]
    intro c _
    cases hc : isAlphanumeric c with
    | false => rfl
    | true => exact inRanges_converted_of_isAlphanumeric hc
  exact (inRanges_converted_ascii hascii).mp (List.all_eq_true.mp hall c hc)

/-- A converted name starts with a digit exactly if the first letter or number is one that repair
does not know. -/
theorem digit_safeIdentifier_iff :
    (∃ c ∈ (safeIdentifier camel).head?, isDecimalDigit c = true) ↔
      ∃ c ∈ name.toList.find? isAlphanumeric, isDecimalDigit c = true ∧ 0x80 ≤ c.toNat := by
  have hstarts := @safeIdentifier_starts_with_digit_iff camel
  rw [(hresembles _ settled_isDecimalDigit).first, (hresembles _ settled_isDigit).first,
    List.head?_filter, Option.any_eq_true] at hstarts
  simp only [Option.mem_def]
  rw [hstarts]
  cases hfirst : name.toList.find? isAlphanumeric with
  | none => simp
  | some c =>
      simp only [Option.some.injEq, exists_eq_left', Option.any_some]
      exact and_congr_right not_isDigit_iff

/-- A converted name holds what Java forbids exactly if a letter or number of the name is
forbidden. -/
theorem parts_safeIdentifier_iff :
    (∀ c ∈ safeIdentifier camel, isIdentifierPart c = true) ↔
      ∀ c ∈ name.toList, isAlphanumeric c = true → isIdentifierPart c = true := by
  have hline : isIdentifierPart '_' = true := by decide
  have hall := @all_safeIdentifier camel _ hline
  rw [(hresembles _ settled_isIdentifierPart).all, List.all_filter] at hall
  rw [← List.all_eq_true, hall, List.all_eq_true]
  apply forall₂_congr
  intro c _
  cases isAlphanumeric c <;> simp

/-- Whatever resembles the letters and numbers of a name is repaired to an identifier, as far as
these let it be one. -/
theorem legalAsFarAs_safeIdentifier :
    LegalAsFarAs name (String.ofList (safeIdentifier camel)) where
  ne_empty hempty :=
    safeIdentifier_ne_nil camel (by simpa using congrArg String.toList hempty)
  not_mem_keywords := safeIdentifier_not_mem_keywords
  ascii c hc := ascii_safeIdentifier hresembles (by simpa using hc)
  starts_with_digit_iff := by
    rw [String.toList_ofList]
    exact digit_safeIdentifier_iff hresembles
  parts_iff := by
    rw [String.toList_ofList]
    exact parts_safeIdentifier_iff hresembles

end

/-- Names are converted to identifiers as far as their letters and numbers let them be. -/
theorem converted_names_legal_as_far (name : String) :
    LegalAsFarAs name (fieldName name) ∧ LegalAsFarAs name (typeName name) := by
  constructor
  · exact legalAsFarAs_safeIdentifier fun p hsettled => resembles_lowerCamel hsettled name.toList
  · exact legalAsFarAs_safeIdentifier fun p hsettled => resembles_upperCamel hsettled name.toList

/-- A superscript stays in a name, and a digit of another script at its start. -/
theorem superscript_and_digit_kept :
    (fieldName "m²" = "m²" ∧ typeName "m²" = "M²" ∧ isIdentifierPart '²' = false) ∧
      fieldName "٣" = "٣" ∧ typeName "٣" = "٣" ∧ isDecimalDigit '٣' = true := by
  decide +kernel

end TableScribe.Java
