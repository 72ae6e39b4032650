/-
SQL types with something around their names: white space, the word `unsigned`, a length.  All
of it is passed over, but the word is looked for before white space is cut off; so white space
after the word hides the type.
-/
import Mathlib.Data.List.Infix
import TableScribe.Proofs.Java.ColumnType
import TableScribe.Proofs.Text.AsciiCase
import TableScribe.Proofs.Text.Trimming

namespace TableScribe.Java

/-- The word that is passed over, in upper case. -/
def unsignedWord : List Char := ['U', 'N', 'S', 'I', 'G', 'N', 'E', 'D']

/-- The last word of a name is `unsigned`, in any case. -/
def EndsUnsigned (name : String) : Prop :=
  ' ' :: unsignedWord <:+ ' ' :: name.toList.map Char.toUpper

instance (name : String) : Decidable (EndsUnsigned name) :=
  inferInstanceAs (Decidable (' ' :: unsignedWord <:+ ' ' :: name.toList.map Char.toUpper))

/-- The word `unsigned` in any case, behind at least one space. -/
structure UnsignedMark where
  /-- The number of spaces beyond the one right before the word. -/
  spaces : Nat
  word : List Char
  word_upper : word.map Char.toUpper = unsignedWord

/-- The spaces and the word. -/
def UnsignedMark.text (mark : UnsignedMark) : List Char :=
  List.replicate mark.spaces ' ' ++ ' ' :: mark.word

/-- What may stand around the name of an SQL type. -/
structure Decoration where
  before : List Char
  unsigned : Option UnsignedMark
  after : List Char
  /-- A length or a precision, and what follows it. -/
  suffix : List Char
  isBlank_before : ∀ c ∈ before, Text.isBlank c = true
  isBlank_after : ∀ c ∈ after, Text.isBlank c = true
  suffix_opens : ∀ c ∈ suffix.head?, c = '('

namespace Decoration

/-- What stands between a name and the suffix. -/
def tail (decoration : Decoration) : List Char :=
  decoration.unsigned.elim [] UnsignedMark.text ++ decoration.after

/-- A name with the decoration around it. -/
def around (decoration : Decoration) (name : String) : String :=
  String.ofList (decoration.before ++ name.toList ++ decoration.tail ++ decoration.suffix)

/-- The decoration with more text after its suffix. -/
def followedBy (decoration : Decoration) (hsuffix : decoration.suffix ≠ []) (rest : List Char) :
    Decoration :=
  { decoration with
    suffix := decoration.suffix ++ rest
    suffix_opens := by
      intro c hc
      rw [List.head?_append_of_ne_nil _ hsuffix] at hc
      exact decoration.suffix_opens c hc }

theorem around_followedBy (decoration : Decoration) (hsuffix : decoration.suffix ≠ [])
    (rest : List Char) (name : String) :
    (decoration.followedBy hsuffix rest).around name =
      decoration.around name ++ String.ofList rest := by
  rw [around, around, ← String.ofList_append, List.append_assoc _ decoration.suffix]
  rfl

end Decoration

section

variable {word text : List Char}

theorem dropCopies_of_not_prefix (hword : ¬ word <+: text) (limit : Nat) :
    dropCopies word limit text = text := by
  cases limit with
  | zero => rfl
  | succ limit => rw [dropCopies, if_neg (by rwa [List.isPrefixOf_iff_prefix])]

theorem dropCopiesAtEnd_of_not_suffix (hsuffix : ¬ word <:+ text) :
    dropCopiesAtEnd word text = text := by
  rw [dropCopiesAtEnd, dropCopies_of_not_prefix (by rwa [List.reverse_prefix]),
    List.reverse_reverse]

/-- A word at the end is dropped once, if it does not stand before itself. -/
theorem dropCopiesAtEnd_append (hword : word ≠ []) (hsuffix : ¬ word <:+ text) :
    dropCopiesAtEnd word (text ++ word) = text := by
  have hpos : 0 < word.length := List.length_pos_iff.mpr hword
  obtain ⟨limit, hlimit⟩ : ∃ limit, (text ++ word).length = limit + 1 :=
    Nat.exists_eq_add_one.mpr (by rw [List.length_append]; omega)
  have hword : word.reverse.isPrefixOf (text ++ word).reverse = true := by simp
  have hrest : (text ++ word).reverse.drop word.reverse.length = text.reverse := by simp
  rw [dropCopiesAtEnd, hlimit, dropCopies, if_pos hword, hrest,
    dropCopies_of_not_prefix (by rwa [List.reverse_prefix]), List.reverse_reverse]

end

section

variable {front back name : List Char}

theorem trim_between (hfront : ∀ c ∈ front, Text.isBlank c = true)
    (hback : ∀ c ∈ back, Text.isBlank c = true) :
    Text.trim (front ++ name ++ back) = Text.trim name := by
  rw [Text.trim_append_right hback, Text.trim_append_left hfront]

theorem not_unsigned_suffix_of_blank {last : Char} (hlast : Text.isBlank last = true)
    (text : List Char) : ¬ ' ' :: unsignedWord <:+ text ++ [last] := by
  rintro ⟨start, hstart⟩
  have hends := congrArg List.getLast? hstart
  have hword : (start ++ ' ' :: unsignedWord).getLast? = some 'D' := by
    rw [List.getLast?_append]
    rfl
  rw [List.getLast?_concat, hword] at hends
  rw [← Option.some.inj hends] at hlast
  exact absurd hlast (by decide)

/-- White space around a name brings no word to its end. -/
theorem not_unsigned_suffix_between (hname : ¬ ' ' :: unsignedWord <:+ ' ' :: name)
    (hfront : ∀ c ∈ front, Text.isBlank c = true) (hback : ∀ c ∈ back, Text.isBlank c = true) :
    ¬ ' ' :: unsignedWord <:+ front ++ name ++ back := by
  rcases List.eq_nil_or_concat back with rfl | ⟨blanks, last, rfl⟩
  · rintro ⟨start, hstart⟩
    have hcons : name <:+ ' ' :: name := List.suffix_cons ' ' name
    rw [List.append_nil] at hstart
    rcases List.suffix_or_suffix_of_suffix ⟨start, hstart⟩ (List.suffix_append front name) with
      hinside | ⟨outside, houtside⟩
    · exact hname (hinside.trans hcons)
    · -- The word reaches into the white space, so only its space can lie there.
      rw [← houtside, ← List.append_assoc] at hstart
      have hblank : ∀ c ∈ outside, Text.isBlank c = true := by
        intro c hc
        apply hfront
        rw [← List.append_cancel_right hstart]
        exact List.mem_append_right start hc
      rcases outside with _ | ⟨first, _ | ⟨second, outside⟩⟩
      · exact hname (houtside ▸ hcons)
      · obtain ⟨rfl, rfl⟩ := List.cons.inj houtside
        exact hname (List.suffix_refl _)
      · obtain ⟨rfl, hrest⟩ := List.cons.inj houtside
        obtain ⟨rfl, -⟩ := List.cons.inj hrest
        exact absurd (hblank 'U' (by simp)) (by decide)
  · rw [List.concat_eq_append, ← List.append_assoc]
    exact not_unsigned_suffix_of_blank (hback last (by simp)) _

/-- A text that ends in the word still does once it is trimmed. -/
theorem unsignedWord_suffix_trim (front : List Char) :
    unsignedWord <:+ Text.trim (front ++ unsignedWord) := by
  have hend (text : List Char) : Text.trimEnd (text ++ unsignedWord) = text ++ unsignedWord := by
    rw [Text.trimEnd_eq_rdropWhile, List.rdropWhile_eq_self_iff]
    intro hne
    simp [unsignedWord, Text.isBlank]
  induction front with
  | nil => exact List.suffix_refl _
  | cons c front ih =>
      by_cases hc : Text.isBlank c = true
      · simpa [Text.trim, Text.trimStart, hc] using ih
      · rw [Text.trim, Text.trimStart, List.cons_append, List.dropWhile_cons_of_neg hc,
          ← List.cons_append, hend]
        exact List.suffix_append _ _

end

/-- No known type has a name that ends in the word. -/
theorem columnType_of_suffix {databaseType : String}
    (hsuffix : unsignedWord <:+ (baseType databaseType).toList) :
    columnType databaseType = .named "java.lang.Object" := by
  have hknown : ∀ row ∈ columnTypes, ∀ name ∈ row.1, ¬ unsignedWord <:+ name.toList := by
    decide
  have hnone : columnTypes.find? (fun row => row.1.contains (baseType databaseType)) = none := by
    rw [List.find?_eq_none]
    intro row hrow hcontains
    exact hknown row hrow _ (List.contains_iff_mem.mp hcontains) hsuffix
  simp only [columnType, hnone]

theorem columnType_congr {first second : String} (hbase : baseType first = baseType second) :
    columnType first = columnType second := by
  simp only [columnType, hbase]

/-- The upper case of what stands before the first parenthesis. -/
def upperHead (databaseType : String) : List Char :=
  (databaseType.toList.map Char.toUpper).takeWhile fun c => c != '('

theorem baseType_eq (databaseType : String) : baseType databaseType = String.ofList
    (Text.trim (dropCopiesAtEnd (' ' :: unsignedWord) (upperHead databaseType))) := by
  have hword : " UNSIGNED".toList = ' ' :: unsignedWord := by decide
  simp only [baseType, Text.asciiUpper, String.toList_ofList, hword, upperHead]

/-- What stands between a name and the suffix, in upper case. -/
def Decoration.upperTail (decoration : Decoration) : List Char :=
  (decoration.unsigned.elim [] fun mark =>
    List.replicate mark.spaces ' ' ++ ' ' :: unsignedWord) ++ decoration.after

theorem Decoration.map_toUpper_tail (decoration : Decoration) :
    decoration.tail.map Char.toUpper = decoration.upperTail := by
  rw [tail, upperTail, List.map_append, Text.map_toUpper_of_isBlank decoration.isBlank_after]
  cases decoration.unsigned with
  | none => rfl
  | some mark =>
      have hspace : ' '.toUpper = ' ' := rfl
      simp [UnsignedMark.text, mark.word_upper, hspace]

section

variable {name other : String} (hname : '(' ∉ name.toList)

include hname

theorem upperHead_of_not_mem : upperHead name = name.toList.map Char.toUpper := by
  rw [upperHead, List.takeWhile_eq_self_iff]
  intro c hc
  obtain ⟨letter, hletter, rfl⟩ := List.mem_map.mp hc
  rw [bne_iff_ne, ne_eq, Text.toUpper_eq_iff (by decide)]
  rintro rfl
  exact hname hletter

variable (hcase : Text.eqIgnoringAsciiCase other name = true) (decoration : Decoration)

include hcase

theorem upperHead_around : upperHead (decoration.around other) =
    decoration.before ++ name.toList.map Char.toUpper ++ decoration.upperTail := by
  have hblank {c : Char} (hc : Text.isBlank c = true) : c != '(' := by
    rw [bne_iff_ne]
    rintro rfl
    exact absurd hc (by decide)
  have hupper := upperHead_of_not_mem hname
  rw [upperHead, List.takeWhile_eq_self_iff] at hupper
  have htail : ∀ c ∈ decoration.upperTail, c != '(' := by
    intro c hc
    rcases List.mem_append.mp hc with hmark | hafter
    · have hletters : ∀ c ∈ ' ' :: unsignedWord, c != '(' := by simp [unsignedWord]
      apply hletters
      cases hunsigned : decoration.unsigned with
      | none => simp [hunsigned] at hmark
      | some mark =>
          rw [hunsigned, Option.elim_some] at hmark
          rcases List.mem_append.mp hmark with hspaces | hletter
          · exact List.eq_of_mem_replicate hspaces ▸ List.mem_cons_self
          · exact hletter
    · exact hblank (decoration.isBlank_after c hafter)
  have hopen : (decoration.suffix.map Char.toUpper).takeWhile (fun c => c != '(') = [] := by
    cases hsuffix : decoration.suffix with
    | nil => rfl
    | cons c rest =>
        obtain rfl := decoration.suffix_opens c (by simp [hsuffix])
        rfl
  rw [upperHead, Decoration.around, String.toList_ofList, List.map_append, List.map_append,
    List.map_append, Text.map_toUpper_of_isBlank decoration.isBlank_before,
    Text.map_toUpper_eq hcase, decoration.map_toUpper_tail, List.takeWhile_append_of_pos, hopen,
    List.append_nil]
  simp only [List.forall_mem_append]
  exact ⟨⟨fun c hc => hblank (decoration.isBlank_before c hc), hupper⟩, htail⟩

end

section

variable {name other : String} (hname : '(' ∉ name.toList) (hword : ¬ EndsUnsigned name)
  (hcase : Text.eqIgnoringAsciiCase other name = true) (decoration : Decoration)

include hname

theorem baseType_of_not_endsUnsigned (hword : ¬ EndsUnsigned name) :
    baseType name = String.ofList (Text.trim (name.toList.map Char.toUpper)) := by
  have hsuffix : ¬ ' ' :: unsignedWord <:+ name.toList.map Char.toUpper :=
    fun hsuffix => hword (hsuffix.trans (List.suffix_cons _ _))
  rw [baseType_eq, upperHead_of_not_mem hname, dropCopiesAtEnd_of_not_suffix hsuffix]

include hcase

/-- White space after the word keeps the word in the name. -/
theorem unsignedWord_suffix_baseType {mark : UnsignedMark}
    (hunsigned : decoration.unsigned = some mark) (hafter : decoration.after ≠ []) :
    unsignedWord <:+ (baseType (decoration.around other)).toList := by
  obtain ⟨blanks, last, hlast⟩ := (List.eq_nil_or_concat decoration.after).resolve_left hafter
  have hhead : upperHead (decoration.around other) =
      decoration.before ++ name.toList.map Char.toUpper ++ List.replicate mark.spaces ' ' ++
        [' '] ++ unsignedWord ++ decoration.after := by
    simp [upperHead_around hname hcase, Decoration.upperTail, hunsigned]
  have hblank : Text.isBlank last = true := decoration.isBlank_after last (by simp [hlast])
  have hsuffix : ¬ ' ' :: unsignedWord <:+ upperHead (decoration.around other) := by
    rw [hhead, hlast, List.concat_eq_append, ← List.append_assoc]
    exact not_unsigned_suffix_of_blank hblank _
  rw [baseType_eq, dropCopiesAtEnd_of_not_suffix hsuffix, hhead,
    Text.trim_append_right decoration.isBlank_after, String.toList_ofList]
  exact unsignedWord_suffix_trim _

include hword

theorem baseType_around_of_none (hunsigned : decoration.unsigned = none) :
    baseType (decoration.around other) = baseType name := by
  have htail : decoration.upperTail = decoration.after := by
    simp [Decoration.upperTail, hunsigned]
  have hsuffix := not_unsigned_suffix_between hword decoration.isBlank_before
    decoration.isBlank_after
  rw [baseType_eq, upperHead_around hname hcase, htail, dropCopiesAtEnd_of_not_suffix hsuffix,
    trim_between decoration.isBlank_before decoration.isBlank_after,
    baseType_of_not_endsUnsigned hname hword]

theorem baseType_around_of_some {mark : UnsignedMark} (hunsigned : decoration.unsigned = some mark)
    (hafter : decoration.after = []) :
    baseType (decoration.around other) = baseType name := by
  have hspaces : ∀ c ∈ List.replicate mark.spaces ' ', Text.isBlank c = true := by
    intro c hc
    rw [List.eq_of_mem_replicate hc]
    rfl
  have hhead : upperHead (decoration.around other) =
      decoration.before ++ name.toList.map Char.toUpper ++ List.replicate mark.spaces ' ' ++
        ' ' :: unsignedWord := by
    simp [upperHead_around hname hcase, Decoration.upperTail, hunsigned, hafter]
  have hsuffix := not_unsigned_suffix_between hword decoration.isBlank_before hspaces
  rw [baseType_eq, hhead, dropCopiesAtEnd_append (List.cons_ne_nil _ _) hsuffix,
    trim_between decoration.isBlank_before hspaces, baseType_of_not_endsUnsigned hname hword]

/-- The decoration of a name is passed over, unless it has white space after the word
`unsigned`; then no type is found.  After a suffix anything may stand. -/
theorem columnType_around_iff :
    (columnType (decoration.around other) = columnType name ↔
      decoration.unsigned = none ∨ decoration.after = [] ∨
        columnType name = .named "java.lang.Object") ∧
    (decoration.unsigned = none → decoration.suffix ≠ [] → ∀ rest : List Char,
      columnType (decoration.around other ++ String.ofList rest) = columnType name) := by
  constructor
  · cases hunsigned : decoration.unsigned with
    | none =>
        simpa using columnType_congr
          (baseType_around_of_none hname hword hcase decoration hunsigned)
    | some mark =>
        by_cases hafter : decoration.after = []
        · simpa [hafter] using columnType_congr
            (baseType_around_of_some hname hword hcase decoration hunsigned hafter)
        · have hobject := columnType_of_suffix
            (unsignedWord_suffix_baseType hname hcase decoration hunsigned hafter)
          simp [hafter, hobject, eq_comm]
  · intro hunsigned hsuffix rest
    rw [← decoration.around_followedBy hsuffix]
    exact columnType_congr (baseType_around_of_none hname hword hcase _ hunsigned)

end

namespace Decoration

/-- A tab before a name, and the word behind two spaces after it. -/
def marked : Decoration where
  before := ['\t']
  unsigned := some ⟨1, "Unsigned".toList, by decide⟩
  after := []
  suffix := "(10,2)".toList
  isBlank_before := List.forall_mem_singleton.mpr rfl
  isBlank_after := List.forall_mem_nil _
  suffix_opens _ hc := (Option.some.inj hc).symm

/-- A length behind a space. -/
def measured : Decoration where
  before := []
  unsigned := none
  after := [' ']
  suffix := "(10,2)".toList
  isBlank_before := List.forall_mem_nil _
  isBlank_after := List.forall_mem_singleton.mpr rfl
  suffix_opens _ hc := (Option.some.inj hc).symm

/-- The word with a space after it. -/
def spaced : Decoration where
  before := []
  unsigned := some ⟨0, unsignedWord, by decide⟩
  after := [' ']
  suffix := []
  isBlank_before := List.forall_mem_nil _
  isBlank_after := List.forall_mem_singleton.mpr rfl
  suffix_opens := nofun

end Decoration

theorem double_precision_around :
    '(' ∉ "DOUBLE PRECISION".toList ∧ ¬ EndsUnsigned "DOUBLE PRECISION" ∧
      Text.eqIgnoringAsciiCase "double Precision" "DOUBLE PRECISION" = true ∧
      columnType "\tdouble Precision  Unsigned(10,2)" = columnType "DOUBLE PRECISION" ∧
      columnType "double Precision (10,2) unsigned" = columnType "DOUBLE PRECISION" := by
  have hname : '(' ∉ "DOUBLE PRECISION".toList := by decide
  have hword : ¬ EndsUnsigned "DOUBLE PRECISION" := by decide
  have hcase : Text.eqIgnoringAsciiCase "double Precision" "DOUBLE PRECISION" = true := by decide
  obtain ⟨hmarked, -⟩ := columnType_around_iff hname hword hcase Decoration.marked
  obtain ⟨-, hmeasured⟩ := columnType_around_iff hname hword hcase Decoration.measured
  exact ⟨hname, hword, hcase, hmarked.mpr (Or.inr (Or.inl rfl)),
    hmeasured rfl (by decide) " unsigned".toList⟩

/-- The word is not recognised before white space. -/
theorem space_after_unsigned_hides_type :
    '(' ∉ "INT".toList ∧ ¬ EndsUnsigned "INT" ∧
      Decoration.spaced.around "INT" = "INT UNSIGNED " ∧
      columnType "INT UNSIGNED " = .named "java.lang.Object" ∧
      columnType "INT UNSIGNED " ≠ columnType "INT" := by
  refine ⟨by decide, by decide, by decide, rfl, fun hsame => ?_⟩
  have hname := congrArg TypeRef.name hsame
  exact absurd hname (by decide)

end TableScribe.Java
