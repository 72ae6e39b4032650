/-
Unicode escapes.  A reader of source first replaces each backslash that is followed by one
or more `u` and four hexadecimal digits, unless an odd number of backslashes stands before
it.  Making a text safe for a comment leaves its escapes as they are.
-/
import TableScribe.Proofs.Java.SafeText
import TableScribe.Proofs.Java.StringLiteral
import TableScribe.Proofs.Json.Tokens

namespace TableScribe.Java

/-- What a reader takes for one character. -/
inductive Glyph
  /-- A character that stands for itself. -/
  | plain (c : Char)
  /-- An escape, by the code it gives. -/
  | escaped (code : Nat)
  /-- A backslash before a `u` that no four digits follow. -/
  | malformed
deriving DecidableEq

/-- The code of a character once it has been read. -/
def Glyph.code : Glyph → Nat
  | plain c => c.toNat
  | escaped code => code
  | malformed => '\\'.toNat

/-- Reads a number of hexadecimal digits behind those of a given value. -/
def hexNumber? : Nat → Nat → List Char → Option (Nat × List Char)
  | 0, value, text => some (value, text)
  | _ + 1, _, [] => none
  | more + 1, value, c :: rest =>
    (Json.hexValue? c).bind fun digit => hexNumber? more (value * 16 + digit) rest

/-- The code that an escape gives and the text after it, from behind its backslash. -/
def unit? : List Char → Option (Nat × List Char)
  | 'u' :: rest => unit? rest
  | text => hexNumber? 4 0 text

theorem hexValue?_backslash : Json.hexValue? '\\' = none := by decide

theorem exists_of_hexNumber? {more value code : Nat} {text after : List Char}
    (hnumber : hexNumber? more value text = some (code, after)) :
    ∃ digits, text = digits ++ after ∧ digits.length = more ∧ '\\' ∉ digits := by
  induction more generalizing value text with
  | zero =>
      obtain ⟨-, rfl⟩ := Prod.mk.inj (Option.some.inj hnumber)
      exact ⟨[], rfl, rfl, List.not_mem_nil⟩
  | succ more ih =>
      cases text with
      | nil => exact nomatch hnumber
      | cons c rest =>
          obtain ⟨digit, hdigit, hrest⟩ := Option.bind_eq_some_iff.mp hnumber
          obtain ⟨digits, rfl, rfl, hbackslash⟩ := ih hrest
          refine ⟨c :: digits, rfl, rfl, ?_⟩
          rw [List.mem_cons, not_or]
          refine ⟨?_, hbackslash⟩
          rintro rfl
          exact nomatch hexValue?_backslash ▸ hdigit

theorem exists_of_unit? {code : Nat} {text after : List Char}
    (hunit : unit? text = some (code, after)) :
    ∃ front, text = front ++ after ∧ front ≠ [] ∧ '\\' ∉ front := by
  fun_induction unit? text with
  | case1 rest ih =>
      obtain ⟨front, rfl, -, hbackslash⟩ := ih hunit
      exact ⟨'u' :: front, rfl, List.cons_ne_nil _ _, by simpa using hbackslash⟩
  | case2 text =>
      obtain ⟨digits, htext, hlength, hbackslash⟩ := exists_of_hexNumber? hunit
      exact ⟨digits, htext, List.ne_nil_of_length_eq_add_one hlength, hbackslash⟩

/-- The characters of a text as a reader takes them, from where an odd or even number of
backslashes stands before it. -/
def glyphs (odd : Bool) : List Char → List Glyph
  | [] => []
  | c :: rest =>
    if c = '\\' ∧ odd = false ∧ rest.head? = some 'u' then
      match _hunit : unit? rest with
      | some (code, after) => .escaped code :: glyphs false after
      | none => .malformed :: glyphs true rest
    else .plain c :: glyphs (c == '\\' && !odd) rest
termination_by text => text.length
decreasing_by
  · obtain ⟨front, rfl, -, -⟩ := exists_of_unit? _hunit
    simp only [List.length_append, List.length_cons]
    omega
  · simp
  · simp

theorem glyphs_escape {code : Nat} {rest after : List Char}
    (hunit : unit? rest = some (code, after)) (hmark : rest.head? = some 'u') :
    glyphs false ('\\' :: rest) = .escaped code :: glyphs false after := by
  rw [glyphs, if_pos ⟨rfl, rfl, hmark⟩]
  split
  case h_1 hsome =>
    obtain ⟨rfl, rfl⟩ := Prod.mk.inj (Option.some.inj (hsome.symm.trans hunit))
    rfl
  case h_2 hnone => exact nomatch hnone.symm.trans hunit

theorem glyphs_malformed {rest : List Char} (hunit : unit? rest = none)
    (hmark : rest.head? = some 'u') :
    glyphs false ('\\' :: rest) = .malformed :: glyphs true rest := by
  rw [glyphs, if_pos ⟨rfl, rfl, hmark⟩]
  split
  case h_1 hsome => exact nomatch hunit.symm.trans hsome
  case h_2 => rfl

theorem glyphs_plain {odd : Bool} {c : Char} {rest : List Char}
    (hplain : ¬ (c = '\\' ∧ odd = false ∧ rest.head? = some 'u')) :
    glyphs odd (c :: rest) = .plain c :: glyphs (c == '\\' && !odd) rest := by
  rw [glyphs, if_neg hplain]

theorem glyphs_cons_of_ne {c : Char} (hc : c ≠ '\\') (odd : Bool) (rest : List Char) :
    glyphs odd (c :: rest) = .plain c :: glyphs false rest := by
  rw [glyphs_plain fun hmark => hc hmark.1, beq_false_of_ne hc, Bool.false_and]

/-- Without backslashes there are no escapes. -/
theorem glyphs_of_not_mem {text : List Char} (htext : '\\' ∉ text) (odd : Bool) :
    glyphs odd text = text.map .plain := by
  induction text generalizing odd with
  | nil => rw [glyphs, List.map_nil]
  | cons c rest ih =>
      obtain ⟨hc, hrest⟩ := not_or.mp (mt List.mem_cons.mpr htext)
      rw [glyphs_cons_of_ne (Ne.symm hc), ih hrest, List.map_cons]

/-- Whether an odd number of backslashes stands before what comes after a text. -/
def oddAfter (odd : Bool) (text : List Char) : Bool :=
  text.foldl (fun odd c => c == '\\' && !odd) odd

theorem oddAfter_append (odd : Bool) (front rest : List Char) :
    oddAfter odd (front ++ rest) = oddAfter (oddAfter odd front) rest := List.foldl_append

theorem oddAfter_eq_false_iff {text : List Char} :
    oddAfter false text = false ↔ Even (backslashesAtEnd text) := by
  induction text using List.reverseRecOn with
  | nil => decide
  | append_singleton text c ih =>
      rw [oddAfter, List.foldl_concat]
      by_cases hc : c = '\\'
      · subst hc
        rw [backslashesAtEnd_append_backslash, Nat.even_add_one, ← ih]
        simp [oddAfter]
      · rw [backslashesAtEnd_append_of_ne hc, beq_false_of_ne hc, Bool.false_and]
        decide

theorem oddAfter_of_not_mem {text : List Char} (htext : '\\' ∉ text) (hne : text ≠ [])
    (odd : Bool) : oddAfter odd text = false := by
  cases text using List.reverseRecOn with
  | nil => exact absurd rfl hne
  | append_singleton front c _ =>
      have hc : c ≠ '\\' := by
        rintro rfl
        exact htext (by simp)
      rw [oddAfter, List.foldl_concat, beq_false_of_ne hc, Bool.false_and]

/-- No backslash stands before what comes after an escape. -/
theorem oddAfter_of_unit? {code : Nat} {text after : List Char}
    (hunit : unit? text = some (code, after)) (odd : Bool) :
    oddAfter odd text = oddAfter false after := by
  obtain ⟨digits, rfl, hne, hbackslash⟩ := exists_of_unit? hunit
  rw [oddAfter_append, oddAfter_of_not_mem hbackslash hne]

/-- A character that cannot be in an escape. -/
def IsOutside (c : Char) : Prop := c ≠ 'u' ∧ Json.hexValue? c = none

instance (c : Char) : Decidable (IsOutside c) :=
  inferInstanceAs (Decidable (c ≠ 'u' ∧ Json.hexValue? c = none))

variable {c : Char}

theorem hexNumber?_append (hc : Json.hexValue? c = none) (more value : Nat)
    (front rest : List Char) :
    hexNumber? more value (front ++ c :: rest) =
      (hexNumber? more value front).map fun read => (read.1, read.2 ++ c :: rest) := by
  induction more generalizing value front with
  | zero => rfl
  | succ more ih =>
      cases front with
      | nil => simp [hexNumber?, hc]
      | cons d front =>
          cases hdigit : Json.hexValue? d with
          | none => simp [hexNumber?, hdigit]
          | some digit => simpa [hexNumber?, hdigit] using ih (value * 16 + digit) front

/-- An escape ends before a character that cannot be in it. -/
theorem unit?_append (hc : IsOutside c) (front rest : List Char) :
    unit? (front ++ c :: rest) =
      (unit? front).map fun read => (read.1, read.2 ++ c :: rest) := by
  induction front with
  | nil =>
      rw [List.nil_append, unit?, hexNumber?, hc.2]
      · rfl
      · rintro tail heq
        exact hc.1 (List.cons.inj heq).1
  | cons d front ih =>
      by_cases hd : d = 'u'
      · subst hd
        simpa [unit?] using ih
      · have hother (tail : List Char) : unit? (d :: tail) = hexNumber? 4 0 (d :: tail) := by
          rw [unit?]
          rintro next heq
          exact hd (List.cons.inj heq).1
        rw [List.cons_append, hother, hother]
        exact hexNumber?_append hc.2 4 0 (d :: front) rest

/-- A text is read up to a character that cannot be in an escape, and from there on. -/
theorem glyphs_append (hc : IsOutside c) (odd : Bool) (front rest : List Char) :
    glyphs odd (front ++ c :: rest) =
      glyphs odd front ++ glyphs (oddAfter odd front) (c :: rest) := by
  fun_induction glyphs odd front with
  | case1 odd => rfl
  | case2 odd d front hmark code after hunit ih =>
      obtain ⟨rfl, rfl, hhead⟩ := hmark
      have hread : unit? (front ++ c :: rest) = some (code, after ++ c :: rest) := by
        rw [unit?_append hc, hunit]
        rfl
      have hodd : oddAfter false ('\\' :: front) = oddAfter false after :=
        oddAfter_of_unit? hunit true
      rw [List.cons_append, glyphs_escape hread (by simp [hhead]), ih, hodd, List.cons_append]
  | case3 odd d front hmark hunit ih =>
      obtain ⟨rfl, rfl, hhead⟩ := hmark
      have hread : unit? (front ++ c :: rest) = none := by
        rw [unit?_append hc, hunit]
        rfl
      rw [List.cons_append, glyphs_malformed hread (by simp [hhead]), ih]
      rfl
  | case4 odd d front hplain ih =>
      have hmore : ¬ (d = '\\' ∧ odd = false ∧ (front ++ c :: rest).head? = some 'u') := by
        rintro ⟨hd, hodd, hhead⟩
        cases front with
        | nil => exact hc.1 (Option.some.inj hhead)
        | cons e front => exact hplain ⟨hd, hodd, hhead⟩
      rw [List.cons_append, glyphs_plain hmore, ih]
      rfl

theorem malformed_mem_glyphs_iff {odd : Bool} {text : List Char} :
    .malformed ∈ glyphs odd text ↔ ∃ front rest, text = front ++ '\\' :: rest ∧
      oddAfter odd front = false ∧ rest.head? = some 'u' ∧ unit? rest = none := by
  constructor
  · intro hmem
    fun_induction glyphs odd text with
    | case1 => exact nomatch hmem
    | case2 odd c text hmark code after hunit ih =>
        obtain ⟨rfl, rfl, -⟩ := hmark
        obtain ⟨front, rest, rfl, hodd, hrest⟩ := ih (by simpa using hmem)
        obtain ⟨digits, htext, hne, hbackslash⟩ := exists_of_unit? hunit
        refine ⟨'\\' :: digits ++ front, rest, by simp [htext], ?_, hrest⟩
        have hdigits : oddAfter false ('\\' :: digits) = false :=
          oddAfter_of_not_mem hbackslash hne true
        rw [oddAfter_append, hdigits, hodd]
    | case3 odd c text hmark hunit ih =>
        obtain ⟨rfl, rfl, hhead⟩ := hmark
        exact ⟨[], text, rfl, rfl, hhead, hunit⟩
    | case4 odd c text hplain ih =>
        obtain ⟨front, rest, rfl, hodd, hrest⟩ := ih (by simpa using hmem)
        exact ⟨c :: front, rest, rfl, hodd, hrest⟩
  · rintro ⟨front, rest, rfl, hodd, hhead, hunit⟩
    rw [glyphs_append (by decide), hodd, glyphs_malformed hunit hhead]
    simp

/-- A backslash behind an even number of others is followed by a `u`, but not by four
digits after that. -/
def HasMalformedEscape (source : List Char) : Prop :=
  ∃ front rest, source = front ++ '\\' :: rest ∧ Even (backslashesAtEnd front) ∧
    rest.head? = some 'u' ∧ unit? rest = none

theorem hasMalformedEscape_iff {source : List Char} :
    HasMalformedEscape source ↔ .malformed ∈ glyphs false source := by
  simp only [HasMalformedEscape, malformed_mem_glyphs_iff, oddAfter_eq_false_iff]

instance (source : List Char) : Decidable (HasMalformedEscape source) :=
  decidable_of_iff _ hasMalformedEscape_iff.symm

/-- A character outside escapes that is no backslash stands for itself. -/
theorem glyphs_append_cons (hc : IsOutside c) (hne : c ≠ '\\') (odd : Bool)
    (front rest : List Char) :
    glyphs odd (front ++ c :: rest) = glyphs odd front ++ .plain c :: glyphs false rest := by
  rw [glyphs_append hc, glyphs_cons_of_ne hne]

theorem hexNumber?_closeSafe (more value : Nat) (text : List Char) :
    hexNumber? more value (closeSafe text) =
      (hexNumber? more value text).map fun read => (read.1, closeSafe read.2) := by
  induction more generalizing value text with
  | zero => rfl
  | succ more ih =>
      cases text with
      | nil => rfl
      | cons c rest =>
          cases hdigit : Json.hexValue? c with
          | none =>
              obtain ⟨tail, htail⟩ := List.head?_eq_some_iff.mp (head?_closeSafe (c :: rest))
              simp [htail, hexNumber?, hdigit]
          | some digit =>
              have hc : c ≠ '*' := by
                rintro rfl
                exact nomatch hdigit
              simpa [closeSafe_cons_of_ne hc, hexNumber?, hdigit] using ih (value * 16 + digit) rest

theorem unit?_closeSafe (text : List Char) :
    unit? (closeSafe text) = (unit? text).map fun read => (read.1, closeSafe read.2) := by
  fun_induction unit? text with
  | case1 rest ih => rwa [closeSafe_cons_of_ne (by decide), unit?]
  | case2 text hmark =>
      rw [unit?]
      · exact hexNumber?_closeSafe 4 0 text
      · intro rest heq
        have hhead := head?_closeSafe text
        rw [heq] at hhead
        obtain ⟨tail, htail⟩ := List.head?_eq_some_iff.mp hhead.symm
        exact hmark tail htail

/-- Characters with the slash of each `*/` that is written without escapes as an entity. -/
def safeGlyphs : List Glyph → List Glyph
  | .plain '*' :: .plain '/' :: rest =>
    ['*', '&', '#', '4', '7', ';'].map .plain ++ safeGlyphs rest
  | glyph :: rest => glyph :: safeGlyphs rest
  | [] => []

theorem head?_of_head?_glyphs {odd : Bool} {text : List Char}
    (hhead : (glyphs odd text).head? = some (.plain c)) : text.head? = some c := by
  cases text with
  | nil =>
      rw [glyphs] at hhead
      exact nomatch hhead
  | cons d rest =>
      rw [glyphs] at hhead
      split at hhead
      case isTrue => split at hhead <;> exact nomatch Option.some.inj hhead
      case isFalse => exact congrArg some (Glyph.plain.inj (Option.some.inj hhead))

/-- Making a text safe leaves its escapes as they are. -/
theorem glyphs_closeSafe (odd : Bool) (text : List Char) :
    glyphs odd (closeSafe text) = safeGlyphs (glyphs odd text) := by
  fun_induction glyphs odd text with
  | case1 odd => rw [closeSafe, glyphs, safeGlyphs]
  | case2 odd d rest hmark code after hunit ih =>
      obtain ⟨rfl, rfl, hhead⟩ := hmark
      have hread : unit? (closeSafe rest) = some (code, closeSafe after) := by
        rw [unit?_closeSafe, hunit]
        rfl
      rw [closeSafe_cons_of_ne (by decide), glyphs_escape hread (by rwa [head?_closeSafe]), ih]
      rfl
  | case3 odd d rest hmark hunit ih =>
      obtain ⟨rfl, rfl, hhead⟩ := hmark
      have hread : unit? (closeSafe rest) = none := by
        rw [unit?_closeSafe, hunit]
        rfl
      rw [closeSafe_cons_of_ne (by decide), glyphs_malformed hread (by rwa [head?_closeSafe]), ih]
      rfl
  | case4 odd d rest hplain ih =>
      by_cases hpair : d = '*' ∧ rest.head? = some '/'
      · obtain ⟨rfl, hslash⟩ := hpair
        obtain ⟨tail, rfl⟩ := List.head?_eq_some_iff.mp hslash
        rw [closeSafe_cons_of_ne (by decide), glyphs_cons_of_ne (by decide),
          glyphs_cons_of_ne (by decide), safeGlyphs] at ih
        · rw [glyphs_cons_of_ne (by decide), safeGlyphs, ← (List.cons.inj ih).2, closeSafe]
          simp [glyphs_cons_of_ne]
        · rintro others hslash -
          exact absurd hslash (by decide)
      · have hsafe : closeSafe (d :: rest) = d :: closeSafe rest := by
          rw [closeSafe]
          rintro tail rfl rfl
          exact hpair ⟨rfl, rfl⟩
        have hmore : ¬ (d = '\\' ∧ odd = false ∧ (closeSafe rest).head? = some 'u') := by
          rwa [head?_closeSafe]
        rw [hsafe, glyphs_plain hmore, ih, safeGlyphs]
        intro others hd hrest
        have hslash := head?_of_head?_glyphs (List.head?_eq_some_iff.mpr ⟨others, hrest⟩)
        exact hpair ⟨Glyph.plain.inj hd, hslash⟩

end TableScribe.Java
